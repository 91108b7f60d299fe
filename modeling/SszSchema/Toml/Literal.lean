import SszSchema.Text.Decimal
import SszSchema.Text.Points
import SszSchema.Toml.Value

/-!
# Literals of configuration files

Texts, numbers and times. Each reader takes its literal off the front of the characters and
returns what is left; a reader of numbers or times takes the longest literal there is.
-/

namespace SszSchema.Toml

/-- Blanks inside a line. -/
def isBlank (c : Char) : Bool := c = ' ' || c = '\t'

/-- Blanks and line ends. -/
def isBlankOrBreak (c : Char) : Bool := isBlank c || c = '\n'

/-- Control characters, which texts and comments must not hold; a tab is none. -/
def isControl (c : Char) : Bool := (c.toNat < 32 && c ≠ '\t') || c.toNat = 127

/-- Adds a character in front of a text that was read. -/
def push (c : Char) (read : List Char × List Char) : List Char × List Char :=
  (c :: read.1, read.2)

/-- The character of a hexadecimal number. -/
def scalar? (digits : List Char) : Option Char := do
  let values ← digits.mapM Text.Points.hexValue?
  let n := values.foldl (fun n d => 16 * n + d) 0
  if n < 0xD800 || (0xDFFF < n && n ≤ 0x10FFFF) then some (Char.ofNat n) else none

/-- The character that stands behind a backslash. -/
def escaped? : Char → Option Char
  | 'b' => some '\x08'
  | 't' => some '\t'
  | 'n' => some '\n'
  | 'f' => some '\x0c'
  | 'r' => some '\r'
  | '"' => some '"'
  | '\\' => some '\\'
  | _ => none

/-- Reads a text on one line up to its double quote. -/
def lineText : List Char → Option (List Char × List Char)
  | [] => none
  | '"' :: rest => some ([], rest)
  | '\\' :: 'u' :: a :: b :: c :: d :: rest => do
      return push (← scalar? [a, b, c, d]) (← lineText rest)
  | '\\' :: 'U' :: a :: b :: c :: d :: e :: f :: g :: h :: rest => do
      return push (← scalar? [a, b, c, d, e, f, g, h]) (← lineText rest)
  | '\\' :: c :: rest => do return push (← escaped? c) (← lineText rest)
  | c :: rest =>
      if c = '\\' || isControl c then none else (lineText rest).map (push c)

/-- What a backslash before blanks leaves out. -/
inductive Gap where
  | nothing
  /-- Blanks up to a line end. -/
  | toBreak
  /-- All blanks and line ends that follow. -/
  | blanks
  deriving DecidableEq

/-- Reads a text of several lines up to its three double quotes. -/
def blockText : Gap → List Char → Option (List Char × List Char)
  | _, [] => none
  | .toBreak, c :: rest =>
      if c = '\n' then blockText .blanks rest
      else if isBlank c then blockText .toBreak rest
      else none
  | _, '"' :: '"' :: '"' :: rest => some ([], rest)
  | _, '\\' :: 'u' :: a :: b :: c :: d :: rest => do
      return push (← scalar? [a, b, c, d]) (← blockText .nothing rest)
  | _, '\\' :: 'U' :: a :: b :: c :: d :: e :: f :: g :: h :: rest => do
      return push (← scalar? [a, b, c, d, e, f, g, h]) (← blockText .nothing rest)
  | _, '\\' :: c :: rest =>
      if c = '\n' then blockText .blanks rest
      else if isBlank c then blockText .toBreak rest
      else do return push (← escaped? c) (← blockText .nothing rest)
  | gap, c :: rest =>
      if gap = .blanks && isBlankOrBreak c then blockText .blanks rest
      else if c = '\\' || (isControl c && c ≠ '\n') then none
      else (blockText .nothing rest).map (push c)

/-- Reads a literal text on one line up to its apostrophe. -/
def rawText : List Char → Option (List Char × List Char)
  | [] => none
  | '\'' :: rest => some ([], rest)
  | c :: rest => if isControl c then none else (rawText rest).map (push c)

/-- Reads a literal text of several lines up to its three apostrophes. -/
def rawBlock : List Char → Option (List Char × List Char)
  | [] => none
  | '\'' :: '\'' :: '\'' :: rest => some ([], rest)
  | c :: rest => if isControl c && c ≠ '\n' then none else (rawBlock rest).map (push c)

/-- The line end right behind the opening quotes does not count. -/
def dropBreak : List Char → List Char
  | '\n' :: rest => rest
  | cs => cs

/-- One or two quotes before the closing ones belong to the text. -/
def takeQuotes (quote : Char) (read : List Char × List Char) : List Char × List Char :=
  let extra := (read.2.takeWhile (· = quote)).take 2
  (read.1 ++ extra, read.2.drop extra.length)

/-- Reads a text behind its opening double quote. -/
def quotedText : List Char → Option (List Char × List Char)
  | '"' :: '"' :: rest => (blockText .nothing (dropBreak rest)).map (takeQuotes '"')
  | cs => lineText cs

/-- Reads a literal text behind its opening apostrophe. -/
def literalText : List Char → Option (List Char × List Char)
  | '\'' :: '\'' :: rest => (rawBlock (dropBreak rest)).map (takeQuotes '\'')
  | cs => rawText cs

/-! ## Numbers -/

/-- Whether a character is a decimal digit. -/
def isDigit (c : Char) : Bool := '0' ≤ c && c ≤ '9'

/-- The rest of a run of digits, between which single low lines may stand. -/
def moreDigits (isDigit : Char → Bool) : List Char → List Char × List Char
  | [] => ([], [])
  | ['_'] => ([], ['_'])
  | '_' :: d :: rest =>
      if isDigit d then push '_' (push d (moreDigits isDigit rest)) else ([], '_' :: d :: rest)
  | d :: rest => if isDigit d then push d (moreDigits isDigit rest) else ([], d :: rest)

/-- A run of digits. -/
def digits? (isDigit : Char → Bool) : List Char → Option (List Char × List Char)
  | d :: rest => if isDigit d then some (push d (moreDigits isDigit rest)) else none
  | [] => none

/-- A whole number to the base that a letter stands for. -/
def based? : List Char → Option (List Char × List Char)
  | '0' :: 'x' :: rest => digits? (fun c => (Text.Points.hexValue? c).isSome) rest
  | '0' :: 'b' :: rest => digits? (fun c => c = '0' || c = '1') rest
  | '0' :: 'o' :: rest => digits? (fun c => '0' ≤ c && c ≤ '7') rest
  | _ => none

/-- The sign of a number, if there is one. -/
def sign : List Char → List Char × List Char
  | '+' :: rest => (['+'], rest)
  | '-' :: rest => (['-'], rest)
  | cs => ([], cs)

/-- The whole part of a decimal number; zero stands alone. -/
def whole? : List Char → Option (List Char × List Char)
  | '0' :: rest => some (['0'], rest)
  | cs => digits? isDigit cs

/-- The places behind the point, if there are any. -/
def fraction : List Char → List Char × List Char
  | '.' :: rest =>
      match digits? isDigit rest with
      | some read => push '.' read
      | none => ([], '.' :: rest)
  | cs => ([], cs)

/-- The exponent, if there is one. -/
def exponent : List Char → List Char × List Char
  | c :: rest =>
      if c = 'e' || c = 'E' then
        let (s, digits) := sign rest
        match digits? isDigit digits with
        | some (exponent, rest) => (c :: s ++ exponent, rest)
        | none => ([], c :: rest)
      else ([], c :: rest)
  | [] => ([], [])

/-- Reads a number. A whole number must not have too many digits. -/
def number? (cs : List Char) : Option (Except Fault (List Char × List Char)) :=
  match based? cs with
  | some read => some (.ok read)
  | none =>
      let (s, unsigned) := sign cs
      (whole? unsigned).map fun (digits, rest) =>
        let (places, rest) := fraction rest
        let (power, rest) := exponent rest
        if places.isEmpty && power.isEmpty && Text.maxDigits < (digits.filter isDigit).length then
          .error .digitLimit
        else .ok (s ++ digits ++ places ++ power, rest)

/-- Reads one of the numbers that are no numbers. -/
def special? (cs : List Char) : Option (List Char × List Char) :=
  let (s, rest) := sign cs
  match rest with
  | 'i' :: 'n' :: 'f' :: rest => some (s ++ ['i', 'n', 'f'], rest)
  | 'n' :: 'a' :: 'n' :: rest => some (s ++ ['n', 'a', 'n'], rest)
  | _ => none

/-! ## Times -/

/-- The value of two digits. -/
def two? (a b : Char) : Option Nat :=
  if isDigit a && isDigit b then some (10 * (a.toNat - 48) + (b.toNat - 48)) else none

/-- Reads hours and minutes. -/
def hourMinute? : List Char → Option (List Char)
  | a :: b :: ':' :: c :: d :: rest => do
      if (← two? a b) < 24 && (← two? c d) < 60 then some rest else none
  | _ => none

/-- Reads a time of day, and returns what follows. -/
def clock? (cs : List Char) : Option (List Char) := do
  match ← hourMinute? cs with
  | ':' :: a :: b :: rest =>
      if (← two? a b) < 60 then
        match rest with
        | '.' :: d :: rest => if isDigit d then some (rest.dropWhile isDigit) else some ('.' :: d :: rest)
        | rest => some rest
      else none
  | _ => none

/-- Reads the offset of a time zone, if there is one. -/
def zone : List Char → List Char
  | [] => []
  | c :: rest =>
      if c = 'Z' || c = 'z' then rest
      else if c = '+' || c = '-' then (hourMinute? rest).getD (c :: rest)
      else c :: rest

/-- The number of days in a month. -/
def daysIn (year month : Nat) : Nat :=
  if month = 2 then
    if year % 4 = 0 && (year % 100 ≠ 0 || year % 400 = 0) then 29 else 28
  else if month = 4 || month = 6 || month = 9 || month = 11 then 30
  else 31

/-- Reads a date, possibly with a time. The inner result is none if there is no such day. -/
def date? : List Char → Option (Option (List Char))
  | a :: b :: c :: d :: '-' :: e :: f :: '-' :: g :: h :: rest => do
      let year := 100 * (← two? a b) + (← two? c d)
      let month ← two? e f
      let day ← two? g h
      if month = 0 || 12 < month || day = 0 || 31 < day then none
      else if year = 0 || daysIn year month < day then some none
      else
        match rest with
        | t :: time =>
            if t = 'T' || t = 't' || t = ' ' then
              some (some (((clock? time).map zone).getD rest))
            else some (some rest)
        | [] => some (some [])
  | _ => none

end SszSchema.Toml
