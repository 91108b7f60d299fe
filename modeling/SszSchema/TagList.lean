import SszSchema.Diagnostic
import SszSchema.Text.Decimal

/-!
# Annotations

The annotation of a field is a list of `key:"value"` pairs with white space around them. Three
keys matter: `ssz` marks a packed bit list, `ssz-size` gives an exact size (or `F,S`, an outer and
an inner one) and `ssz-max` a bound. Other keys belong to other tools and are kept. Of several
pairs with one key the first counts.

`TagList.parse` reads the pairs; `size?`, `sizePair?` and `max?` read their numbers, which is
where a bad number is noticed.
-/

namespace SszSchema

/-- An annotation: its text and its pairs, each key once. -/
structure TagList where
  raw : String
  pairs : List (String × String)
  deriving DecidableEq, Repr

/-- The size of a list or vector of byte strings: no `outer` for a list. -/
structure SizePair where
  outer : Option Nat
  inner : Nat
  deriving DecidableEq, Repr

namespace SizePair

/-- Whether the size is that of a list. -/
def isList (s : SizePair) : Bool := s.outer.isNone

end SizePair

namespace TagList

/-- What can be wrong with an annotation. -/
inductive Fault where
  /-- The text from an offset on begins no pair. -/
  | notPairs (offset : Nat)
  /-- Two sizes stand where one is wanted. -/
  | twoSizes
  /-- Not two sizes stand where two are wanted. -/
  | notTwoSizes
  /-- The outer of two sizes is zero. -/
  | zeroOuter
  /-- The value of a key is no number. -/
  | notNumber (key value : String)
  /-- A number has more digits than are read. -/
  | digitLimit
  deriving DecidableEq, Repr

/-- The key that marks packed bit lists. -/
def markerKey : String := "ssz"

/-- The key of exact sizes. -/
def sizeKey : String := "ssz-size"

/-- The key of bounds. -/
def maxKey : String := "ssz-max"

/-- The marker of bit lists. -/
def bitListMarker : String := "bitlist"

namespace Fault

/-- What a fault says. -/
def message : Fault → String
  | .notPairs _ => "annotation is not a list of key:\"value\" pairs"
  | .twoSizes => sizeKey ++ " expects a single value here, got a tuple"
  | .notTwoSizes => sizeKey ++ " expects two comma separated values (outer,inner)"
  | .zeroOuter =>
      sizeKey ++ " outer dimension must be positive; use '?' with " ++ maxKey ++ " for a list"
  | .notNumber key value =>
      key ++ " expects a non-negative integer, got " ++ Text.quoted value
  | .digitLimit => "number with more than " ++ toString Text.maxDigits ++ " digits"

/-- The data of a fault in an annotation. -/
def data (raw : String) : Fault → DataMap
  | .notPairs offset => [("annotation", .text raw), ("at", .int offset)]
  | _ => [("annotation", .text raw)]

end Fault

/-! ## Pairs -/

/-- A character of a key. -/
def isKeyChar (c : Char) : Bool := !Text.isBlank c && c != ':' && c != '"'

/-- Reads a value up to its closing quote. A backslash takes the next character with it, which may
be anything but a line feed. -/
def readValue : List Char → Option (List Char × List Char)
  | [] => none
  | '"' :: rest => some ([], rest)
  | '\\' :: [] => none
  | '\\' :: c :: rest =>
      if c = '\n' then none
      else (readValue rest).map fun (value, rest) => ('\\' :: c :: value, rest)
  | c :: rest => (readValue rest).map fun (value, rest) => (c :: value, rest)

/-- Reads one pair. -/
def readPair (cs : List Char) : Option ((List Char × List Char) × List Char) :=
  match cs.takeWhile isKeyChar, cs.dropWhile isKeyChar with
  | [], _ => none
  | key, ':' :: '"' :: rest =>
      (readValue rest).map fun (value, rest) => ((key, value), rest)
  | _, _ => none

/-- Reads pairs to the end of a text of the given length; each step of the fuel reads one. -/
def readPairs (length : Nat) : Nat → List Char → Except Fault (List (List Char × List Char))
  | 0, _ => .ok []
  | fuel + 1, cs =>
      match cs.dropWhile Text.isBlank with
      | [] => .ok []
      | rest =>
          match readPair rest with
          | none => .error (.notPairs (length - rest.length))
          | some (pair, rest) => (readPairs length fuel rest).map (pair :: ·)

/-- The text between the white space and then the back quotes at both ends. -/
def core (raw : List Char) : List Char :=
  Text.stripWhile (· = '`') (Text.stripWhile Text.isBlank raw)

/-- The first pair of each key. -/
def firstOfEach (pairs : List (List Char × List Char)) : List (List Char × List Char) :=
  (pairs.foldl (fun kept p => if kept.any (·.1 == p.1) then kept else p :: kept) []).reverse

/-- Reads an annotation. -/
def parse (raw : String) : Except Fault TagList :=
  let text := core raw.toList
  (readPairs text.length (text.length + 1) text).map fun pairs =>
    ⟨raw, (firstOfEach pairs).map fun p => (String.ofList p.1, String.ofList p.2)⟩

/-- The value of a key. -/
def get? (a : TagList) (key : String) : Option String :=
  (a.pairs.find? (·.1 == key)).map (·.2)

/-! ## Numbers -/

/-- Reads the number of a key: ASCII digits between white space. -/
def readNumber (key : String) (value : List Char) : Except Fault Nat :=
  let digits := Text.stripWhile Text.isBlank value
  if digits.isEmpty || !digits.all Char.isDigit then
    .error (.notNumber key (String.ofList value))
  else if Text.maxDigits < digits.length then .error .digitLimit
  else .ok (Text.ofDigits digits)

/-- Whether the annotation marks a bit list. -/
def isBitList (a : TagList) : Bool := a.get? markerKey == some bitListMarker

/-- The one exact size. -/
def size? (a : TagList) : Except Fault (Option Nat) :=
  match a.get? sizeKey with
  | none => .ok none
  | some value =>
      if value.toList.contains ',' then .error .twoSizes
      else (readNumber sizeKey value.toList).map some

/-- The outer of two sizes: none is written as a question mark, and zero is refused. -/
def readOuter (value : List Char) : Except Fault (Option Nat) :=
  if value = ['?'] then .ok none
  else
    match readNumber sizeKey value with
    | .error fault => .error fault
    | .ok 0 => .error .zeroOuter
    | .ok n => .ok (some n)

/-- The two sizes of a sequence of byte strings. -/
def sizePair? (a : TagList) : Except Fault (Option SizePair) :=
  match a.get? sizeKey with
  | none => .ok none
  | some value =>
      match (Text.splitAt ',' value.toList).map (Text.stripWhile Text.isBlank) with
      | [outer, inner] => do
          let outer ← readOuter outer
          let inner ← readNumber sizeKey inner
          return some ⟨outer, inner⟩
      | _ => .error .notTwoSizes

/-- The bound. -/
def max? (a : TagList) : Except Fault (Option Nat) :=
  match a.get? maxKey with
  | none => .ok none
  | some value => (readNumber maxKey value.toList).map some

end TagList

end SszSchema
