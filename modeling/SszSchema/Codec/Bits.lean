import SszSchema.Codec.Value
import SszSchema.Text.Quoted

/-!
# Bits in bytes

Eight bits go into a byte, the first in the lowest place. A bit list ends with a delimiter, the
highest set bit of its last byte.
-/

namespace SszSchema.Bits

/-- The error of a bit list without its delimiter. -/
def missingDelimiter : Fault := .raised .bitfield "bitlist delimiter bit is missing"

/-- The byte of at most eight bits, the first in the lowest place. -/
def toByte (bits : List Bool) : UInt8 :=
  UInt8.ofNat (bits.foldr (fun b n => 2 * n + b.toNat) 0)

/-- The bytes of bits; bits beyond the last byte are left out. -/
def toBytes : Nat → List Bool → List UInt8
  | 0, _ => []
  | count + 1, bits => toByte (bits.take 8) :: toBytes count (bits.drop 8)

/-- Packs bits into bytes. A set bit must have its place in one of them. -/
def pack (bits : List Bool) (count : Nat) : Except Fault (List UInt8) :=
  if (bits.drop (8 * count)).any id then .error .outOfRange else .ok (toBytes count bits)

/-- Packs bits and the delimiter after them. -/
def packList (bits : List Bool) : List UInt8 := toBytes (bits.length / 8 + 1) (bits ++ [true])

/-- The number of bits in a number. -/
def width : Nat → Nat
  | 0 => 0
  | n + 1 => Nat.log2 (n + 1) + 1

/-- The number of bits before the delimiter. -/
def listLength (bs : List UInt8) : Except Fault Nat :=
  match bs.getLast? with
  | none => .error missingDelimiter
  | some last =>
      if last = 0 then .error missingDelimiter
      else .ok ((bs.length - 1) * 8 + width last.toNat - 1)

/-- The bit at a position. -/
def get (bs : List UInt8) (i : Nat) : Except Fault Bool :=
  match bs[i / 8]? with
  | some b => .ok (b.toNat.testBit (i % 8))
  | none => .error .outOfRange

/-- The first bits of bytes. -/
def take (bs : List UInt8) (count : Nat) : Except Fault (List Bool) :=
  (List.range count).mapM (get bs)

/-- Reads a bit vector: no bit may be set behind its last one. -/
def unpackVector (bs : List UInt8) (count : Nat) : Except Fault (List Bool) :=
  if count % 8 = 0 then take bs count
  else
    match bs.getLast? with
    | none => .error .outOfRange
    | some last =>
        if last.toNat >>> (count % 8) ≠ 0 then
          .error (.raised .bitfield "bitvector padding bits are not zero")
        else take bs count

/-- The length of a bit list, which must be within the limit if there is one. -/
def boundedLength (bs : List UInt8) (limit : Option Nat) : Except Fault Nat := do
  let n ← listLength bs
  match limit with
  | some limit =>
      if n > limit then
        .error (.raised .listTooBig (toString n ++ " bits > " ++ toString limit))
      else return n
  | none => return n

/-- Reads a bit list. -/
def unpackList (bs : List UInt8) (limit : Option Nat) : Except Fault (List Bool) := do
  take bs (← boundedLength bs limit)

/-- Checks a bit list that stays packed. -/
def checkPacked (bs : List UInt8) (limit : Option Nat) : Except Fault (List UInt8) := do
  let _ ← boundedLength bs limit
  return bs

/-- Reads a truth value from the first byte. -/
def decodeBool (bs : List UInt8) : Except Fault Bool :=
  match bs.head? with
  | none => .error .outOfRange
  | some b =>
      if b > 1 then
        .error (.raised .bool ("byte 0x" ++ String.ofList (Text.hexPadded 2 b.toNat)))
      else .ok (b == 1)

end SszSchema.Bits
