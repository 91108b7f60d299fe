import SszSchema.Text.Blank
import SszSchema.Text.Printable

/-!
# Quoted text

`quoted` writes a text between quotes: apostrophes, unless the text holds an apostrophe and no
double quote. A backslash and the quote in use are escaped, and so is every character that cannot
be shown. Messages quote names this way, and so do literals in generated modules.
-/

namespace SszSchema.Text

/-- A digit of a hexadecimal number. -/
def hexDigit (n : Nat) : Char :=
  if n < 10 then Char.ofNat (48 + n) else Char.ofNat (87 + n)

/-- A number in hexadecimal, padded with zeros to a width. -/
def hexPadded : Nat → Nat → List Char
  | 0, _ => []
  | width + 1, n => hexPadded width (n / 16) ++ [hexDigit (n % 16)]

/-- A character that cannot be shown, as an escape of two, four or eight digits. -/
def escapeUnshown (c : Char) : List Char :=
  if c = '\t' then ['\\', 't']
  else if c = '\n' then ['\\', 'n']
  else if c = '\r' then ['\\', 'r']
  else if c.toNat < 0x100 then '\\' :: 'x' :: hexPadded 2 c.toNat
  else if c.toNat < 0x10000 then '\\' :: 'u' :: hexPadded 4 c.toNat
  else '\\' :: 'U' :: hexPadded 8 c.toNat

/-- A character inside quotes. -/
def escapeChar (quote c : Char) : List Char :=
  if c = quote || c = '\\' then ['\\', c]
  else if isPrintable c then [c]
  else escapeUnshown c

/-- The quote that a text is written in. -/
def quoteFor (cs : List Char) : Char :=
  if cs.contains '\'' && !cs.contains '"' then '"' else '\''

/-- A text between quotes. -/
def quotedChars (cs : List Char) : List Char :=
  let quote := quoteFor cs
  quote :: (cs.flatMap (escapeChar quote) ++ [quote])

/-- A text between quotes. -/
def quoted (s : String) : String := String.ofList (quotedChars s.toList)

/-- A bracketed list of quoted texts. -/
def quotedList (items : List String) : String :=
  "[" ++ join ", " (items.map quoted) ++ "]"

/-- Two hexadecimal digits for each byte. -/
def hexBytes (bytes : List UInt8) : String :=
  String.ofList (bytes.flatMap fun b => hexPadded 2 b.toNat)

end SszSchema.Text
