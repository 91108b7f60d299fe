import SszSchema.Source.Token
import SszSchema.Text.LowerCase
import SszSchema.Text.Decimal
import SszSchema.Text.Points

/-!
# Literals

Reading numbers (`readNumber`) and the bodies of string literals (`unescape`, `unescapeBytes`).
-/

namespace SszSchema.Source.Literal

/-! ## Numbers -/

/-- A character that can stand in a word; past ASCII the word is checked as a whole. -/
def isWordChar (c : Char) : Bool := c.isAlphanum || c = '_' || 128 ≤ c.toNat

/-- The words that may follow a number without a blank. -/
def followers : List (List Char) :=
  [['a', 'n', 'd'], ['e', 'l', 's', 'e'], ['f', 'o', 'r'], ['i', 'f'], ['i', 'n'], ['i', 's'],
    ['o', 'r'], ['n', 'o', 't']]

/-- Whether a number can end before the given text. -/
def endsNumber (cs : List Char) : Bool :=
  followers.any (·.isPrefixOf cs) || !(cs.head?.any isWordChar)

/-- Digits with single low lines between them; none if a low line stands elsewhere. -/
def readDigits (isDigit : Char → Bool) : List Char → Option (List Char × List Char)
  | c :: '_' :: rest =>
      if isDigit c then
        match readDigits isDigit rest with
        | some ([], _) => none
        | some (ds, rest) => some (c :: ds, rest)
        | none => none
      else some ([], c :: '_' :: rest)
  | c :: rest =>
      if isDigit c then (readDigits isDigit rest).map fun (ds, rest) => (c :: ds, rest)
      else some ([], c :: rest)
  | [] => some ([], [])

/-- The number that digits of a base write. -/
def ofDigits (base : Nat) (ds : List Char) : Nat :=
  ds.foldl (fun n c => base * n + (Text.Points.hexValue? c).getD 0) 0

/-- A number in base two, eight or sixteen, after its prefix. -/
def readBased (base : Nat) (cs : List Char) : Option (Token × List Char) := do
  let isDigit c := (Text.Points.hexValue? c).any (· < base)
  let cs := match cs with
    | '_' :: rest => rest
    | _ => cs
  let (ds, rest) ← readDigits isDigit cs
  if ds.isEmpty || rest.head?.any Char.isDigit || !endsNumber rest then none
  else return (.int (ofDigits base ds), rest)

/-- The exponent after `e`, if digits follow; else nothing is read. -/
def readExponent (cs : List Char) : Option (Option Int × List Char) :=
  let signed (sign : Int) (rest : List Char) : Option (Option Int × List Char) := do
    let (ds, rest) ← readDigits Char.isDigit rest
    if ds.isEmpty then none else return (some (sign * ofDigits 10 ds), rest)
  match cs with
  | '+' :: rest => signed 1 rest
  | '-' :: rest => signed (-1) rest
  | c :: rest => if c.isDigit then signed 1 (c :: rest) else some (none, cs)
  | [] => some (none, cs)

/-- The end of a number after its digits: an exponent, and the mark of an imaginary number. -/
def finish (isFloat : Bool) (whole fraction : List Char) (cs : List Char) :
    Option (Token × List Char) := do
  let value (e : Int) : Text.Decimal := ⟨ofDigits 10 (whole ++ fraction), e - fraction.length⟩
  let plain (cs : List Char) : Option (Token × List Char) :=
    if !endsNumber cs then none
    else if isFloat then some (.float (value 0), cs)
    else if whole.head? = some '0' && whole.any (· ≠ '0') then none
    else if Text.maxDigits < whole.length && whole.any (· ≠ '0') then none
    else some (.int (ofDigits 10 whole), cs)
  let marked (isFloat : Bool) (e : Int) (cs : List Char) : Option (Token × List Char) :=
    match cs with
    | c :: rest =>
        if c = 'j' || c = 'J' then
          if endsNumber rest then some (.imaginary (value e), rest) else none
        else if isFloat then if endsNumber cs then some (.float (value e), cs) else none
        else plain cs
    | [] => if isFloat then some (.float (value e), cs) else plain cs
  match cs with
  | c :: rest =>
      if c = 'e' || c = 'E' then
        match readExponent rest with
        | none => none
        | some (none, _) => plain cs
        | some (some e, rest) => marked true e rest
      else marked isFloat 0 cs
  | [] => plain cs

/-- Reads the number that a text begins with; the text begins with a digit or with a point and a
digit. -/
def readNumber (cs : List Char) : Option (Token × List Char) :=
  match cs with
  | '0' :: c :: rest =>
      if c = 'x' || c = 'X' then readBased 16 rest
      else if c = 'o' || c = 'O' then readBased 8 rest
      else if c = 'b' || c = 'B' then readBased 2 rest
      else readDecimal cs
  | _ => readDecimal cs
where
  /-- A decimal number. -/
  readDecimal (cs : List Char) : Option (Token × List Char) := do
    let (whole, rest) ← readDigits Char.isDigit cs
    match rest with
    | '.' :: rest =>
        let (fraction, rest) ← readDigits Char.isDigit rest
        finish true whole fraction rest
    | _ => finish false whole [] rest

/-! ## Strings -/

/-- The value of the first `count` characters as hexadecimal digits, and the rest. -/
def readHex (count : Nat) (cs : List Char) : Option (Nat × List Char) :=
  let ds := cs.take count
  if ds.length = count && ds.all (fun c => (Text.Points.hexValue? c).isSome) then
    some (ofDigits 16 ds, cs.drop count)
  else none

/-- Up to three octal digits at the beginning of a text. -/
def octalDigits (cs : List Char) : List Char :=
  (cs.take 3).takeWhile fun c => '0' ≤ c && c ≤ '7'

/-- The escapes of one letter. -/
def letterEscape? (c : Char) : Option Char :=
  match c with
  | '\\' => some '\\'
  | '\'' => some '\''
  | '"' => some '"'
  | 'a' => some (Char.ofNat 7)
  | 'b' => some (Char.ofNat 8)
  | 'f' => some (Char.ofNat 12)
  | 'n' => some '\n'
  | 'r' => some '\r'
  | 't' => some '\t'
  | 'v' => some (Char.ofNat 11)
  | _ => none

/-- A code point as a character; one that is none becomes the replacement character. -/
def charOf (n : Nat) : Char :=
  if n < 0xD800 || (0xDFFF < n && n < 0x110000) then Char.ofNat n else Char.ofNat 0xFFFD

/-- An escape after its backslash: the characters it stands for and the rest; the outer option is
none for a malformed escape. -/
def readEscape (cs : List Char) : Option (List Char × List Char) :=
  let point (count : Nat) (rest : List Char) : Option (List Char × List Char) := do
    let (n, rest) ← readHex count rest
    if n < 0x110000 then return ([charOf n], rest) else none
  match cs with
  | [] => some (['\\'], [])
  | '\n' :: rest => some ([], rest)
  | 'x' :: rest => point 2 rest
  | 'u' :: rest => point 4 rest
  | 'U' :: rest => point 8 rest
  | 'N' :: rest =>
      match rest with
      | '\x7b' :: rest =>
          let name := rest.takeWhile (· ≠ '\x7d')
          match rest.dropWhile (· ≠ '\x7d') with
          | _ :: rest => if name.isEmpty then none else some ([charOf 0xD800], rest)
          | [] => none
      | _ => none
  | c :: rest =>
      match letterEscape? c with
      | some e => some ([e], rest)
      | none =>
          match octalDigits cs with
          | [] => some (['\\', c], rest)
          | ds => some ([charOf (ofDigits 8 ds)], cs.drop ds.length)

/-- The text that the body of a literal stands for. -/
def unescape : Nat → List Char → Option (List Char)
  | 0, _ => some []
  | _ + 1, [] => some []
  | fuel + 1, c :: rest =>
      if c = '\\' then do
        let (cs, rest) ← readEscape rest
        return cs ++ (← unescape fuel rest)
      else (unescape fuel rest).map (c :: ·)

/-- A byte from a number. -/
def byteOf (n : Nat) : UInt8 := UInt8.ofNat n

/-- The bytes that the body of a literal stands for. -/
def unescapeBytes : Nat → List Char → Option (List UInt8)
  | 0, _ => some []
  | _ + 1, [] => some []
  | fuel + 1, c :: rest =>
      if c ≠ '\\' then (unescapeBytes fuel rest).map (byteOf c.toNat :: ·)
      else
        match rest with
        | [] => none
        | '\n' :: rest => unescapeBytes fuel rest
        | 'x' :: rest => do
            let (n, rest) ← readHex 2 rest
            return byteOf n :: (← unescapeBytes fuel rest)
        | c :: rest =>
            match letterEscape? c with
            | some e => (unescapeBytes fuel rest).map (byteOf e.toNat :: ·)
            | none =>
                match octalDigits (c :: rest) with
                | [] => (unescapeBytes fuel rest).map ([byteOf 92, byteOf c.toNat] ++ ·)
                | ds =>
                    (unescapeBytes fuel ((c :: rest).drop ds.length)).map
                      (byteOf (ofDigits 8 ds) :: ·)

/-- The token of a string literal from its prefix and its body. -/
def stringToken (mark : List Char) (body : List Char) : Option Token :=
  let low := mark.map Char.toLower
  let raw := low.contains 'r'
  if low.contains 'b' then
    if body.any (128 ≤ ·.toNat) then none
    else if raw then some (.bytes (body.map fun c => byteOf c.toNat))
    else (unescapeBytes body.length body).map .bytes
  else if low.contains 'f' then some (.format raw body)
  else if raw then some (.text body false)
  else (unescape body.length body).map fun value => .text value (mark = ['u'])

/-- The prefixes of string literals, in lower case. -/
def isMark (mark : List Char) : Bool :=
  [[], ['b'], ['r'], ['u'], ['f'], ['b', 'r'], ['r', 'b'], ['f', 'r'], ['r', 'f']].contains
    (mark.map Char.toLower)

end SszSchema.Source.Literal
