import SszSchema.Codec.Bits
import SszSchema.Codec.Offsets
import SszSchema.Routine.Code

/-!
# Decoding

Running decoders. A record's fixed region is read first and its offsets are checked: the first must
point behind the fixed region, the others must not decrease or leave the buffer. Then each dynamic
field is read from its offset up to the next one, the last up to the end.

`unmarshal` decodes a record. Records inside a dynamic record have shorter spans and fixed records
are nested at most as deep as there are records, so its fuel never runs out.
-/

namespace SszSchema

/-- A step that reads values. -/
abbrev Reading (α : Type) := Except Fault α

namespace Reading

/-- A number that code needs. -/
def need : Option α → Reading α
  | some a => .ok a
  | none => .error .wrongShape

end Reading

namespace Decoder

/-- The spans of a sequence's elements. -/
def spans (data : List UInt8) : Extent → Option Nat → Reading (List (List UInt8))
  | extent, some step => do
      let count ← match extent with
        | .exactly length => Reading.need length
        | .atMost limit => do Offsets.fixedCount data.length step (← Reading.need limit)
      return (List.range count).map fun i => Bytes.slice data (i * step) ((i + 1) * step)
  | extent, none => do
      let count ← match extent with
        | .exactly length => Reading.need length
        | .atMost limit => do Offsets.dynamicCount data (← Reading.need limit)
      return (← Offsets.spans data count).map fun (start, stop) => Bytes.slice data start stop

/-- Reads a value from its span. `call` runs the routine of a record. -/
def run (call : String → List UInt8 → Reading Value) : Decoder → List UInt8 → Reading Value
  | .uint, span => .ok (.uint (Bytes.toNat span))
  | .bool, span => (Bits.decodeBool span).map .bool
  | .fixedBytes, span => .ok (.bytes span)
  | .boundedBytes limit, span => do
      let limit ← Reading.need limit
      if span.length > limit then
        .error (.raised .listTooBig
          (toString span.length ++ " bytes > " ++ toString limit))
      else return .bytes span
  | .bitVector length, span => do
      return .ofBits (← Bits.unpackVector span (← Reading.need length))
  | .packedBits limit, span => (Bits.checkPacked span limit).map .bytes
  | .bitList limit, span => (Bits.unpackList span limit).map .ofBits
  | .record name, span => call name span
  | .sequence extent step item, span => do
      return .list (← (← spans span extent step).mapM (run call item))

end Decoder

namespace RecordCode

/-- What the fixed region tells about a field: its value, or where it begins. -/
inductive Head where
  | value (v : Value)
  | offset (n : Nat)

/-- Checks an offset: the first against the size of the fixed region, the others against the one
before and the size of the buffer. -/
def checkOffset (c : RecordCode) (f : FieldCode) (size offset : Nat) : Option Nat → Reading Unit
  | none => do
      let fixed ← Reading.need c.fixedSize
      if offset ≠ fixed then
        .error (.raised .offset (c.name ++ "." ++ f.name ++ ": first offset " ++ toString offset ++
          " != " ++ toString fixed))
      else return ()
  | some previous =>
      if offset < previous || offset > size then
        .error (.raised .offset (c.name ++ "." ++ f.name ++ ": offset " ++ toString offset))
      else .ok ()

/-- Reads the fixed region from a position on; `previous` is the last offset read. -/
def readHeads (c : RecordCode) (call : String → List UInt8 → Reading Value) (buf : List UInt8) :
    Nat → Option Nat → List FieldCode → Reading (List (FieldCode × Head))
  | _, _, [] => .ok []
  | pos, previous, f :: rest =>
      match f.size with
      | some size => do
          let v ← f.decoder.run call (Bytes.slice buf pos (pos + size))
          return (f, .value v) :: (← readHeads c call buf (pos + size) previous rest)
      | none => do
          let offset := Bytes.toNat (Bytes.slice buf pos (pos + offsetBytes))
          c.checkOffset f buf.length offset previous
          return (f, .offset offset) ::
            (← readHeads c call buf (pos + offsetBytes) (some offset) rest)

/-- Where a dynamic field ends: at the next offset, or at the end of the buffer. -/
def stopOf (size : Nat) : List (FieldCode × Head) → Nat
  | [] => size
  | (_, .offset n) :: _ => n
  | (_, .value _) :: rest => stopOf size rest

/-- Reads the dynamic fields, and returns all fields. -/
def readBodies (call : String → List UInt8 → Reading Value) (buf : List UInt8) :
    List (FieldCode × Head) → Reading (List (String × Value))
  | [] => .ok []
  | (f, .value v) :: rest => return (f.name, v) :: (← readBodies call buf rest)
  | (f, .offset start) :: rest => do
      let v ← f.decoder.run call (Bytes.slice buf start (stopOf buf.length rest))
      return (f.name, v) :: (← readBodies call buf rest)

/-- Checks the size of a buffer. -/
def checkSize (c : RecordCode) (size : Nat) : Reading Unit := do
  let fixed ← Reading.need c.fixedSize
  if c.isDynamic then
    if size < fixed then
      .error (.raised .size (c.name ++ ": " ++ toString size ++ " bytes, expected at least " ++
        toString fixed))
    else return ()
  else if size ≠ fixed then
    .error (.raised .size (c.name ++ ": " ++ toString size ++ " bytes, expected " ++ toString fixed))
  else return ()

/-- Reads a record from a buffer. -/
def read (c : RecordCode) (call : String → List UInt8 → Reading Value) (buf : List UInt8) :
    Reading Value := do
  c.checkSize buf.length
  return .record (← readBodies call buf (← c.readHeads call buf 0 none c.fields))

end RecordCode

namespace Codec

/-- Decodes a record; the fuel bounds how deep records are nested. -/
def unmarshalWith (codes : List RecordCode) : Nat → String → List UInt8 → Reading Value
  | 0, _, _ => .error .tooDeep
  | fuel + 1, name, buf =>
      match RecordCode.find? codes name with
      | none => .error (.missingRecord name)
      | some c => c.read (unmarshalWith codes fuel) buf

/-- Decodes a record. -/
def unmarshal (codes : List RecordCode) (name : String) (buf : List UInt8) : Reading Value :=
  unmarshalWith codes (buf.length + codes.length + 2) name buf

end Codec

end SszSchema
