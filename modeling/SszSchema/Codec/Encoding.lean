import SszSchema.Codec.Bits
import SszSchema.Codec.Bytes
import SszSchema.Routine.Code

/-!
# Encoding

Running encoders. They append to a buffer; where a dynamic value is to follow, they leave four bytes
and put its offset there as soon as its position is known. A routine that stops leaves the buffer as
far as it was written.

`marshalTo` appends the encoding of a record to a buffer and `marshal` encodes it alone.
-/

namespace SszSchema

/-- A step that writes to a buffer. -/
abbrev Writing (α : Type) := ExceptT Fault (StateM (List UInt8)) α

namespace Writing

/-- Appends bytes. -/
def append (bs : List UInt8) : Writing Unit := modify (· ++ bs)

/-- The number of bytes in the buffer. -/
def position : Writing Nat := return (← get).length

/-- Leaves zeros for an offset, and returns their position. -/
def reserve : Writing Nat := do
  let slot ← position
  append (List.replicate offsetBytes 0)
  return slot

/-- Puts the offset of the next byte, counted from `start`, into its place. -/
def putOffset (slot start : Nat) : Writing Unit := do
  let buf ← get
  let offset := buf.length - start
  if 1 <<< (8 * offsetBytes) ≤ offset then throw .overflow
  else set (Bytes.patch buf slot (Bytes.littleEndian offsetBytes offset))

/-- Raises an error unless a condition holds. -/
def ensure (condition : Bool) (sort : ErrorClass) (detail : String) : Writing Unit :=
  if condition then return () else throw (.raised sort detail)

/-- A number that code needs, or a part that a value needs. -/
def need : Option α → Writing α
  | some a => return a
  | none => throw .wrongShape

/-- The field of a record. -/
def fieldOf (v : Value) (name : String) : Writing Value :=
  match v.field? name with
  | some field => return field
  | none => throw (.missingField name)

/-- Writes elements one after the other. -/
def each (write : Value → Writing Unit) : List Value → Writing Unit
  | [] => return ()
  | v :: rest => do
      write v
      each write rest

/-- Writes elements whose offsets belong to a table at `start`, from a place in it on. -/
def eachAt (write : Value → Writing Unit) (start : Nat) : Nat → List Value → Writing Unit
  | _, [] => return ()
  | i, v :: rest => do
      putOffset (start + offsetBytes * i) start
      write v
      eachAt write start (i + 1) rest

end Writing

open Writing

namespace Extent

/-- Checks the number of elements. -/
def check (place : String) (count : Nat) : Extent → Writing Unit
  | .exactly length => do
      let length ← need length
      ensure (count == length) .marshalVector
        (place ++ ": " ++ toString count ++ " elements, expected " ++ toString length)
  | .atMost limit => do
      let limit ← need limit
      ensure (count ≤ limit) .marshalList
        (place ++ ": " ++ toString count ++ " elements > " ++ toString limit)

end Extent

namespace Encoder

/-- Checks the number of bits against the limit, if there is one. -/
def checkBits (place : String) (count : Nat) : Option Nat → Writing Unit
  | some limit => ensure (count ≤ limit) .marshalList
      (place ++ ": " ++ toString count ++ " bits > " ++ toString limit)
  | none => return ()

/-- A step on bits inside one that writes. -/
def ofBits (result : Except Fault α) : Writing α :=
  match result with
  | .ok a => return a
  | .error fault => throw fault

/-- Appends the encoding of a value. `call` runs the routine of a record, and `place` names the
value in errors. -/
def run (call : String → Value → Writing Unit) (place : String) : Encoder → Value → Writing Unit
  | .uint width, .uint n => do
      ensure (0 ≤ n && n < (1 <<< (8 * width) : Nat)) .marshalUint
        (place ++ ": " ++ toString n ++ " does not fit uint" ++ toString (8 * width))
      append (Bytes.littleEndian width n.toNat)
  | .bool, .bool b => append [if b then 1 else 0]
  | .fixedBytes length, .bytes bs => do
      ensure (bs.length == length) .marshalFixedBytes
        (place ++ ": " ++ toString bs.length ++ " bytes, expected " ++ toString length)
      append bs
  | .boundedBytes limit, .bytes bs => do
      let limit ← need limit
      ensure (bs.length ≤ limit) .marshalDynamicBytes
        (place ++ ": " ++ toString bs.length ++ " bytes > " ++ toString limit)
      append bs
  | .bitVector length size, v => do
      let bits ← need v.bits?
      let length ← need length
      ensure (bits.length == length) .marshalVector
        (place ++ ": " ++ toString bits.length ++ " bits, expected " ++ toString length)
      append (← ofBits (Bits.pack bits (← need size)))
  | .packedBits limit, .bytes bs => do
      checkBits place (← ofBits (Bits.listLength bs)) limit
      append bs
  | .bitList limit, v => do
      let bits ← need v.bits?
      checkBits place bits.length limit
      append (Bits.packList bits)
  | .record name, v => call name v
  | .sequence extent isDynamic item, .list items => do
      extent.check place items.length
      if isDynamic then do
        let start ← position
        append (List.replicate (offsetBytes * items.length) 0)
        eachAt (run call (place ++ "[]") item) start 0 items
      else each (run call (place ++ "[]") item) items
  | _, _ => throw .wrongShape

end Encoder

namespace RecordCode

/-- How a field is named in errors. -/
def place (c : RecordCode) (f : FieldCode) : String := c.name ++ "." ++ f.name

/-- Writes the encoding of a field. -/
def writeField (c : RecordCode) (call : String → Value → Writing Unit) (v : Value) (f : FieldCode) :
    Writing Unit := do
  f.encoder.run call (c.place f) (← fieldOf v f.name)

/-- Writes the fixed region, and returns the dynamic fields with the places of their offsets. -/
def writeHeads (c : RecordCode) (call : String → Value → Writing Unit) (v : Value) :
    List FieldCode → Writing (List (FieldCode × Nat))
  | [] => return []
  | f :: rest => do
      match f.size with
      | some _ =>
          c.writeField call v f
          writeHeads c call v rest
      | none =>
          let slot ← reserve
          return (f, slot) :: (← writeHeads c call v rest)

/-- Writes dynamic fields and their offsets from `start`. -/
def writeBodies (c : RecordCode) (call : String → Value → Writing Unit) (v : Value) (start : Nat) :
    List (FieldCode × Nat) → Writing Unit
  | [] => return ()
  | (f, slot) :: rest => do
      putOffset slot start
      c.writeField call v f
      writeBodies c call v start rest

/-- Appends the encoding of a record. -/
def write (c : RecordCode) (call : String → Value → Writing Unit) (v : Value) : Writing Unit := do
  let start ← position
  let slots ← c.writeHeads call v c.fields
  c.writeBodies call v start slots

end RecordCode

namespace Codec

/-- Appends the encoding of a record; the fuel bounds how deep records are nested. -/
def marshalWith (codes : List RecordCode) : Nat → String → Value → Writing Unit
  | 0, _, _ => throw .tooDeep
  | fuel + 1, name, v =>
      match RecordCode.find? codes name with
      | none => throw (.missingRecord name)
      | some c => c.write (marshalWith codes fuel) v

/-- Appends the encoding of a record to a buffer. Returns the buffer as far as it was written. -/
def marshalTo (codes : List RecordCode) (name : String) (v : Value) (buf : List UInt8) :
    Except Fault Unit × List UInt8 :=
  marshalWith codes (v.depth + 1) name v buf

/-- Encodes a record. -/
def marshal (codes : List RecordCode) (name : String) (v : Value) : Except Fault (List UInt8) :=
  let (result, buf) := marshalTo codes name v []
  result.map fun _ => buf

end Codec

end SszSchema
