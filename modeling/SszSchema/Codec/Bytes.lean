/-!
# Bytes

Numbers as bytes with the lowest first, parts of byte strings between two positions, and bytes put
in the place of others.
-/

namespace SszSchema.Bytes

/-- The lowest bytes of a number, the lowest first. -/
def littleEndian : Nat → Nat → List UInt8
  | 0, _ => []
  | width + 1, n => UInt8.ofNat (n % 256) :: littleEndian width (n / 256)

/-- The number that bytes stand for, the lowest first. -/
def toNat : List UInt8 → Nat
  | [] => 0
  | b :: rest => b.toNat + 256 * toNat rest

/-- The bytes from one position up to another. Past the end there are none. -/
def slice (bs : List UInt8) (start stop : Nat) : List UInt8 := (bs.take stop).drop start

/-- Bytes put in the place of those at a position. -/
def patch (bs : List UInt8) (position : Nat) (new : List UInt8) : List UInt8 :=
  bs.take position ++ new ++ bs.drop (position + new.length)

end SszSchema.Bytes
