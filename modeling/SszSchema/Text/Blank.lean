/-!
# White space

`isBlank` is the class of characters that separate annotation pairs and end a formatted line:
the white space of Unicode together with the four information separators. The rest of the module
trims texts on either side.
-/

namespace SszSchema.Text

/-- White space of any kind. -/
def isBlank (c : Char) : Bool :=
  let n := c.toNat
  (9 ≤ n && n ≤ 13) || (28 ≤ n && n ≤ 32) || n == 0x85 || n == 0xA0 || n == 0x1680 ||
    (0x2000 ≤ n && n ≤ 0x200A) || n == 0x2028 || n == 0x2029 || n == 0x202F || n == 0x205F ||
    n == 0x3000

/-- Drops the longest suffix of characters that satisfy `p`. -/
def dropEndWhile (p : Char → Bool) (cs : List Char) : List Char :=
  (cs.reverse.dropWhile p).reverse

/-- Drops characters that satisfy `p` at both ends. -/
def stripWhile (p : Char → Bool) (cs : List Char) : List Char :=
  dropEndWhile p (cs.dropWhile p)

/-- A text without white space at its ends. -/
def trim (s : String) : String :=
  String.ofList (stripWhile isBlank s.toList)

/-- The parts of a text between separators; an empty text has one empty part. -/
def splitAt (sep : Char) : List Char → List (List Char)
  | [] => [[]]
  | c :: rest =>
      if c = sep then [] :: splitAt sep rest
      else match splitAt sep rest with
        | part :: parts => (c :: part) :: parts
        | [] => [[c]]

/-- Lines of a text, divided at line feeds. -/
def lines (cs : List Char) : List (List Char) := splitAt '\n' cs

/-- Joins parts with a separator between them. -/
def joinWith (sep : List Char) : List (List Char) → List Char
  | [] => []
  | [part] => part
  | part :: parts => part ++ sep ++ joinWith sep parts

/-- Joins texts with a separator between them. -/
def join (sep : String) : List String → String
  | [] => ""
  | [part] => part
  | part :: parts => part ++ sep ++ join sep parts

/-- Whether a text begins with another. -/
def startsWith (s start : String) : Bool :=
  start.toList.isPrefixOf s.toList

/-- Whether a text ends with another. -/
def endsWith (s ending : String) : Bool :=
  ending.toList.isSuffixOf s.toList

end SszSchema.Text
