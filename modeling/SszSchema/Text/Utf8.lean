import SszSchema.Text.Quoted

/-!
# UTF-8

`Utf8.decode` reads bytes as characters, or tells the first bytes that no character begins with:
their place, their number and what is wrong with them.
-/

namespace SszSchema.Text.Utf8

/-- What can be wrong with bytes. -/
inductive Defect where
  | start
  | continuation
  | truncated
  deriving DecidableEq, Repr

/-- Bytes that are no character. -/
structure Fault where
  position : Nat
  /-- The first of the bytes. -/
  byte : UInt8
  length : Nat
  defect : Defect
  deriving DecidableEq, Repr

/-- The words for a defect. -/
def Defect.text : Defect → String
  | .start => "invalid start byte"
  | .continuation => "invalid continuation byte"
  | .truncated => "unexpected end of data"

/-- What a fault says. -/
def Fault.text (f : Fault) : String :=
  (if f.length = 1 then
    "'utf-8' codec can't decode byte 0x" ++ String.ofList (hexPadded 2 f.byte.toNat) ++
      " in position " ++ toString f.position
  else
    "'utf-8' codec can't decode bytes in position " ++ toString f.position ++ "-" ++
      toString (f.position + f.length - 1)) ++ ": " ++ f.defect.text

/-- How many bytes follow a start byte. -/
def following? (b : Nat) : Option Nat :=
  if b < 0x80 then some 0
  else if b < 0xC2 then none
  else if b < 0xE0 then some 1
  else if b < 0xF0 then some 2
  else if b < 0xF5 then some 3
  else none

/-- Whether a byte can follow a start byte directly. Longer forms than needed, halves of pairs and
numbers beyond the last character are ruled out here. -/
def canFollow (start b : Nat) : Bool :=
  0x80 ≤ b && b < 0xC0 && !(start = 0xE0 && b < 0xA0) && !(start = 0xED && 0xA0 ≤ b) &&
    !(start = 0xF0 && b < 0x90) && !(start = 0xF4 && 0x90 ≤ b)

/-- The bits of a start byte that belong to the number of its character. -/
def startBits (b count : Nat) : Nat :=
  match count with
  | 0 => b
  | 1 => b % 32
  | 2 => b % 16
  | _ => b % 8

/-- Reads the bytes that follow a start byte: `count` more, of which `seen` are read. The result is
the number so far and the rest, or the number of bytes at fault and their defect. -/
def readFollowing (start : Nat) :
    Nat → Nat → Nat → List UInt8 → Except (Nat × Defect) (Nat × List UInt8)
  | 0, _, n, rest => .ok (n, rest)
  | _ + 1, seen, _, [] => .error (seen, .truncated)
  | count + 1, seen, n, b :: rest =>
      let follows := if seen = 1 then canFollow start b.toNat else 0x80 ≤ b.toNat && b.toNat < 0xC0
      if follows then readFollowing start count (seen + 1) (64 * n + b.toNat % 64) rest
      else .error (seen, .continuation)

/-- Reads characters from a position on; the fuel bounds their number. -/
def decodeFrom : Nat → Nat → List UInt8 → Except Fault (List Char)
  | _, _, [] => .ok []
  | 0, position, b :: _ => .error ⟨position, b, 1, .truncated⟩
  | fuel + 1, position, b :: rest =>
      match following? b.toNat with
      | none => .error ⟨position, b, 1, .start⟩
      | some count =>
          match readFollowing b.toNat count 1 (startBits b.toNat count) rest with
          | .error (length, defect) => .error ⟨position, b, length, defect⟩
          | .ok (n, rest) =>
              (decodeFrom fuel (position + count + 1) rest).map (Char.ofNat n :: ·)

/-- Reads bytes as characters. -/
def decode (bytes : List UInt8) : Except Fault (List Char) := decodeFrom bytes.length 0 bytes

end SszSchema.Text.Utf8
