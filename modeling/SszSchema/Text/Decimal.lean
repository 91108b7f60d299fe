import SszSchema.Text.LowerCase

/-!
# Decimal numbers

`ofDigits` is the number that decimal digits of any script write. Numbers with more than
`maxDigits` digits are not read anywhere, nor written.
-/

namespace SszSchema.Text

/-- The largest number of digits that is read as a number, or that a number is written with. -/
def maxDigits : Nat := 4300

/-- The number that decimal digits write. -/
def ofDigits (digits : List Char) : Nat :=
  digits.foldl (fun n c => 10 * n + (decimalValue? c).getD 0) 0

/-- Whether a character is a decimal digit of any script. -/
def isDecimal (c : Char) : Bool := (decimalValue? c).isSome

end SszSchema.Text
