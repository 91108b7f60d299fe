import SszSchema.Text.Blank

/-!
# Paths

Lexical paths with `/` between their parts. Reading a path drops empty parts and single dots and
keeps double dots, so one location can have several paths; `Path.location` folds the double dots.
-/

namespace SszSchema

/-- A path: its root (`""` for a relative path) and its parts. -/
structure Path where
  root : String
  parts : List String
  deriving DecidableEq, Repr, Inhabited

namespace Path

/-- The root that a text of a path begins with; exactly two slashes are a root of their own. -/
def rootOf : List Char → String
  | '/' :: '/' :: '/' :: _ => "/"
  | '/' :: '/' :: _ => "//"
  | '/' :: _ => "/"
  | _ => ""

/-- The parts of a text of a path. -/
def partsOf (cs : List Char) : List String :=
  ((Text.splitAt '/' cs).map String.ofList).filter fun p => p ≠ "" && p ≠ "."

/-- Reads a path. -/
def ofString (s : String) : Path := ⟨rootOf s.toList, partsOf s.toList⟩

/-- Writes a path; the empty path is a single dot. -/
def toString (p : Path) : String :=
  if p.root = "" && p.parts.isEmpty then "." else p.root ++ Text.join "/" p.parts

/-- The last part, or the empty text. -/
def name (p : Path) : String := p.parts.getLastD ""

/-- The path without its last part. -/
def parent (p : Path) : Path := { p with parts := p.parts.dropLast }

/-- The path with one more part. -/
def child (p : Path) (part : String) : Path := { p with parts := p.parts ++ [part] }

/-- The number of characters before the last dot. -/
def lastDot? (cs : List Char) : Option Nat :=
  if cs.contains '.' then some (cs.length - 1 - (cs.reverse.takeWhile (· ≠ '.')).length) else none

/-- A file name without its last suffix. A dot at either end begins no suffix. -/
def stemOf (name : String) : String :=
  let cs := name.toList
  match lastDot? cs with
  | some i => if 0 < i && i + 1 < cs.length then String.ofList (cs.take i) else name
  | none => name

/-- The last part without its suffix. -/
def stem (p : Path) : String := stemOf p.name

/-- Whether a text can stand as the last part of a path. -/
def isName (s : String) : Bool :=
  let cs := s.toList
  rootOf cs = "" && (partsOf cs).length = 1 && cs.getLast? ≠ some '/'

/-- The path with another last part; none if there is no part to replace or the new one is no
name. -/
def withName? (p : Path) (s : String) : Option Path :=
  if p.name ≠ "" && isName s then some { p with parts := p.parts.dropLast ++ [s] } else none

/-- A path with its double dots folded: how far it climbs above its start, and the parts below. -/
structure Location where
  absolute : Bool
  climb : Nat
  parts : List String
  deriving DecidableEq, Repr

/-- Folds one part into a location whose parts stand last first. -/
def foldPart (absolute : Bool) (acc : Nat × List String) (part : String) : Nat × List String :=
  if part = ".." then
    match acc with
    | (climb, _ :: rest) => (climb, rest)
    | (climb, []) => (if absolute then climb else climb + 1, [])
  else (acc.1, part :: acc.2)

/-- The location that a path leads to. -/
def location (p : Path) : Location :=
  let absolute := p.root ≠ ""
  let (climb, parts) := p.parts.foldl (foldPart absolute) (0, [])
  ⟨absolute, climb, parts.reverse⟩

end Path

end SszSchema
