/-!
# Shortest decimal text of a double

A decimal number in a source stands for the nearest double-precision number, and is written back
with the fewest digits that still stand for it (`Shortest.digits`). All arithmetic is on natural
numbers. Ties go to the even neighbour, when reading and when writing.
-/

namespace SszSchema.Text

/-- The number `digits * 10 ^ exponent`. -/
structure Decimal where
  digits : Nat
  exponent : Int
  deriving DecidableEq, Repr

namespace Shortest

/-- The quotient nearest to `n / d`; a tie goes to the even quotient. -/
def roundDiv (n d : Nat) : Nat :=
  let q := n / d
  let r := n % d
  if 2 * r < d then q else if d < 2 * r then q + 1 else if q % 2 = 0 then q else q + 1

/-- `base ^ e` as a fraction. -/
def power (base : Nat) (e : Int) : Nat × Nat :=
  if 0 ≤ e then (base.pow e.toNat, 1) else (1, base.pow (-e).toNat)

/-- The exponent of two below `n / d`: the largest `k` with `2 ^ k ≤ n / d`. -/
def binaryExponent (n d : Nat) : Int :=
  let k : Int := (Nat.log2 n : Int) - Nat.log2 d
  let (up, down) := power 2 k
  if n * down < d * up then k - 1 else k

/-- A positive double: `mantissa * 2 ^ exponent`. -/
structure Binary where
  mantissa : Nat
  exponent : Int
  deriving DecidableEq, Repr

/-- The double nearest to `n / d`; none if that is infinite. -/
def nearest (n d : Nat) : Option Binary :=
  let q := max (binaryExponent n d - 52) (-1074)
  let (up, down) := power 2 q
  let m := roundDiv (n * down) (d * up)
  let (m, q) := if m = 1 <<< 53 then (1 <<< 52, q + 1) else (m, q)
  if 971 < q then none else some ⟨m, q⟩

/-- The value of a double as a fraction. -/
def Binary.fraction (b : Binary) : Nat × Nat :=
  let (up, down) := power 2 b.exponent
  (b.mantissa * up, down)

/-- Steps down from 1 to the place of the first digit of a fraction below one. -/
def placeBelow : Nat → Nat → Nat → Int
  | 0, _, _ => 0
  | fuel + 1, n, d => if d ≤ 10 * n then 0 else placeBelow fuel (10 * n) d - 1

/-- The place `p` of the first digit: `10 ^ (p - 1) ≤ n / d < 10 ^ p`. -/
def place (n d : Nat) : Int :=
  if d ≤ n then ((toString (n / d)).length : Int) else placeBelow 400 n d

/-- Whether `c * 10 ^ e` rounds to the double. -/
def roundsTo (b : Binary) (c : Nat) (e : Int) : Bool :=
  let (up, down) := power 10 e
  let (two, half) := power 2 (b.exponent - 2)
  let low := if b.mantissa = 1 <<< 52 && b.exponent ≠ -1074 then 4 * b.mantissa - 1
    else 4 * b.mantissa - 2
  let high := 4 * b.mantissa + 2
  let x := c * up * half
  let unit := two * down
  if b.mantissa % 2 = 0 then low * unit ≤ x && x ≤ high * unit
  else low * unit < x && x < high * unit

/-- The nearer of the two neighbours of a double with `count` digits, if one rounds to it. -/
def neighbour? (b : Binary) (p : Int) (count : Nat) : Option Nat :=
  let e := p - count
  let (n, d) := b.fraction
  let (up, down) := power 10 e
  let under := n * down / (d * up)
  let near := roundDiv (n * down) (d * up)
  let other := if near = under then under + 1 else under
  if roundsTo b near e then some near else if roundsTo b other e then some other else none

/-- The first digit count from `count` on with a neighbour that rounds to the double. -/
def search (b : Binary) (p : Int) : Nat → Nat → Nat × Nat
  | 0, count => (b.mantissa, count)
  | fuel + 1, count =>
      match neighbour? b p count with
      | some c => (c, count)
      | none => search b p fuel (count + 1)

/-- Drops zeros at the end. -/
def dropZeros (cs : List Char) : List Char := (cs.reverse.dropWhile (· = '0')).reverse

/-- The fewest digits that stand for a double, and the place of the first. -/
def digits (b : Binary) : List Char × Int :=
  let (n, d) := b.fraction
  let p := place n d
  let (c, count) := search b p 17 1
  let cs := (toString c).toList
  (dropZeros cs, if count < cs.length then p + 1 else p)

end Shortest

namespace Decimal

/-- Text of digits whose first stands at place `p`: positional for places from -3 to 16. -/
def layout (point : Bool) (ds : List Char) (p : Int) : List Char :=
  let tail := if point then ['.', '0'] else []
  if -4 < p && p ≤ 16 then
    if p ≤ 0 then '0' :: '.' :: List.replicate (-p).toNat '0' ++ ds
    else if ds.length ≤ p.toNat then ds ++ List.replicate (p.toNat - ds.length) '0' ++ tail
    else ds.take p.toNat ++ '.' :: ds.drop p.toNat
  else
    let e := p - 1
    let exponent := (toString e.natAbs).toList
    let exponent := if exponent.length < 2 then '0' :: exponent else exponent
    (match ds with
      | [d] => [d]
      | d :: rest => d :: '.' :: rest
      | [] => ['0']) ++ 'e' :: (if e < 0 then '-' else '+') :: exponent

/-- The text of the nearest double; an infinite one is written as a number too large to read.
`point` asks for a point and a zero after whole numbers. -/
def text (point : Bool) (x : Decimal) : String :=
  let infinite := "1e309"
  let size : Int := (toString x.digits).length + x.exponent
  let zero := if point then "0.0" else "0"
  if x.digits = 0 || size < -400 then zero
  else if 400 < size then infinite
  else
    let (up, down) := Shortest.power 10 x.exponent
    match Shortest.nearest (x.digits * up) down with
    | none => infinite
    | some b =>
        if b.mantissa = 0 then zero
        else
          let (ds, p) := Shortest.digits b
          String.ofList (layout point ds p)

end Decimal

end SszSchema.Text
