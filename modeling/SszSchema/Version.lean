import SszSchema.Text.Blank
import SszSchema.Text.Decimal

/-!
# Versions

The version of the program, and how the three numbers of a version are read.
-/

namespace SszSchema

/-- A version. -/
structure Version where
  major : Nat
  minor : Nat
  patch : Nat
  deriving DecidableEq, Repr

namespace Version

/-- The version of this program. -/
def current : String := "0.3.0"

/-- The digits that a text begins with and, after a dot if one is wanted, what follows. -/
def readPart (dotted : Bool) (cs : List Char) : Option (List Char × List Char) :=
  match cs.takeWhile Text.isDecimal, cs.dropWhile Text.isDecimal with
  | [], _ => none
  | digits, rest =>
      if dotted then
        match rest with
        | '.' :: rest => some (digits, rest)
        | _ => none
      else some (digits, rest)

/-- The digits of the three numbers that a text begins with, after white space and a `v`. -/
def readParts (cs : List Char) : Option (List Char × List Char × List Char) := do
  let cs := cs.dropWhile Text.isBlank
  let cs := match cs with
    | 'v' :: rest => rest
    | _ => cs
  let (major, cs) ← readPart true cs
  let (minor, cs) ← readPart true cs
  let (patch, _) ← readPart false cs
  return (major, minor, patch)

/-- Reads the version that a text begins with. A text that begins with none reads as version zero;
none if a number has too many digits. -/
def parse? (s : String) : Option Version :=
  match readParts s.toList with
  | none => some ⟨0, 0, 0⟩
  | some (major, minor, patch) =>
      if [major, minor, patch].any (Text.maxDigits < ·.length) then none
      else some ⟨Text.ofDigits major, Text.ofDigits minor, Text.ofDigits patch⟩

end Version

end SszSchema
