/-!
# Tables of code points

Character data is kept as rows of hexadecimal numbers, the way code charts write it. `Points.rows`
reads such a table, and `Points.contains` tells on which side of its flips a point lies: a class
of characters is given by the increasing list of the points where membership changes.
-/

namespace SszSchema.Text.Points

/-- The value of a hexadecimal digit. -/
def hexValue? (c : Char) : Option Nat :=
  if c.isDigit then some (c.toNat - 48)
  else if 'A' ≤ c && c ≤ 'F' then some (c.toNat - 55)
  else if 'a' ≤ c && c ≤ 'f' then some (c.toNat - 87)
  else none

/-- Reads numbers separated by blanks into rows that end with a semicolon; `number` is the number
being read, `row` the finished numbers of the row, last first. -/
def scan (number : Option Nat) (row : List Nat) : List Char → List (List Nat)
  | [] => [(number.toList ++ row).reverse]
  | c :: rest =>
      if c = ';' then (number.toList ++ row).reverse :: scan none [] rest
      else match hexValue? c with
        | some d => scan (some (number.getD 0 * 16 + d)) row rest
        | none => scan none (number.toList ++ row) rest

/-- All rows of a table, line by line. -/
def rows (lines : List String) : List (List Nat) :=
  lines.flatMap fun line => scan none [] line.toList

/-- All numbers of a table. -/
def ofRows (lines : List String) : List Nat :=
  (rows lines).flatten

/-- Membership in the class that flips at the given increasing points. -/
def contains (flips : List Nat) (n : Nat) : Bool :=
  (flips.takeWhile (· ≤ n)).length % 2 == 1

end SszSchema.Text.Points
