import SszSchema.Graph
import SszSchema.Routine.Helper
import SszSchema.Text.Decimal

/-!
# Code of routines

What the routines of a record do, read off its node: `Encoder` appends the encoding of one value to
a buffer, `Decoder` reads a value back from its span, and `Measure` computes the size of a dynamic
value. Records are not expanded: code refers to the routines of another record by its name, so
recursive records have finite code. Numbers that code only shows may be missing. Numbers that are
computed from declared ones may be too long for the text of the code.

`RecordCode.ofSchema` reads the code of a record, or says why the record has none.
-/

namespace SszSchema

/-- How many elements a sequence has. -/
inductive Extent where
  | exactly (length : Option Nat)
  | atMost (limit : Option Nat)
  deriving DecidableEq, Repr

/-- Code that appends the encoding of a value. -/
inductive Encoder where
  | uint (width : Nat)
  | bool
  | fixedBytes (length : Nat)
  | boundedBytes (limit : Option Nat)
  | bitVector (length size : Option Nat)
  | packedBits (limit : Option Nat)
  | bitList (limit : Option Nat)
  | record (name : String)
  /-- Elements one after the other, behind a table of their offsets if they are dynamic. -/
  | sequence (extent : Extent) (isDynamic : Bool) (item : Encoder)
  deriving DecidableEq, Repr

/-- Code that reads a value from its span. -/
inductive Decoder where
  | uint
  | bool
  | fixedBytes
  | boundedBytes (limit : Option Nat)
  | bitVector (length : Option Nat)
  | packedBits (limit : Option Nat)
  | bitList (limit : Option Nat)
  | record (name : String)
  /-- Elements of `step` bytes each, or spans between offsets if there is no `step`. -/
  | sequence (extent : Extent) (step : Option Nat) (item : Decoder)
  deriving DecidableEq, Repr

/-- Code that computes the size of a dynamic value. -/
inductive Measure where
  | bytes
  | bitList
  | record (name : String)
  | fixedItems (size : Option Nat)
  | dynamicItems (item : Measure)
  deriving DecidableEq, Repr

/-- The code of a field; `size` is its size in the fixed region, or none for an offset. -/
structure FieldCode where
  name : String
  encoder : Encoder
  decoder : Decoder
  size : Option Nat
  deriving DecidableEq, Repr

/-- The code of a record. -/
structure RecordCode where
  name : String
  isDynamic : Bool
  /-- The size of the fixed region. -/
  fixedSize : Option Nat
  fields : List FieldCode
  /-- What the dynamic fields of a dynamic record add to its size. -/
  measures : List (String × Measure)
  deriving DecidableEq, Repr

/-- A step from nodes to code. -/
abbrev Generation (α : Type) := Except Failure α

namespace Generation

/-- A step on the graph as a step to code. -/
def ofGraph (result : Except GraphFault α) : Generation α := result.mapError .graph

/-- Stops because a node lacks something. -/
def incomplete : Generation α := .error (.graph .incomplete)

/-- Stops with a diagnostic. -/
def refuse (message : String) (record : Option String) : Generation α :=
  .error (.reported (.make .generation message
    [("record", (record.map Datum.text).getD .null)]))

/-- What a node must have. -/
def need : Option α → Generation α
  | some a => .ok a
  | none => incomplete

/-- Writes out a number, which must not be too long. -/
@[irreducible]
def printed (n : Nat) : Generation Unit :=
  if n < Nat.pow 10 Text.maxDigits then .ok () else .error .digitLimit

end Generation

open Generation

/-- The element of a sequence. -/
def Schema.element (s : Schema) (n : Node) : Generation Node := do
  ofGraph (s.node (← need n.element))

/-- The extent of a sequence. -/
def Node.extent (n : Node) : Extent :=
  if n.kind = .vector then .exactly n.length else .atMost n.limit

namespace Encoder

/-- Reads the code of a node; the fuel bounds elements in each other. -/
def ofNode (s : Schema) : Nat → Node → Generation Encoder
  | 0, _ => .error (.graph .endless)
  | fuel + 1, n =>
      match n.kind with
      | .uint => do
          let width ← need n.width
          printed (8 * width)
          return .uint width
      | .bool => return .bool
      | .bytes =>
          match n.length with
          | some length => return .fixedBytes length
          | none => return .boundedBytes n.limit
      | .bitVector => return .bitVector n.length n.fixedSize
      | .bitList => return if n.packed then .packedBits n.limit else .bitList n.limit
      | .container => return .record (← need n.record)
      | .vector | .list => do
          let element ← s.element n
          let isFixed ← ofGraph element.isFixed
          return .sequence n.extent (!isFixed) (← ofNode s fuel element)

/-- The helpers that the code calls. -/
def helpers : Encoder → List Helper
  | .bitVector _ _ => [.packBits]
  | .packedBits _ => [.bitListLength]
  | .bitList _ => [.packBitList]
  | .sequence _ isDynamic item => (if isDynamic then [.putOffset] else []) ++ item.helpers
  | _ => []

end Encoder

namespace Decoder

/-- Reads the code of a node; the fuel bounds elements in each other. Elements without bytes could
not be counted. -/
def ofNode (s : Schema) : Nat → Node → Generation Decoder
  | 0, _ => .error (.graph .endless)
  | fuel + 1, n =>
      match n.kind with
      | .uint => return .uint
      | .bool => return .bool
      | .bytes => return if n.length.isSome then .fixedBytes else .boundedBytes n.limit
      | .bitVector => return .bitVector n.length
      | .bitList => return if n.packed then .packedBits n.limit else .bitList n.limit
      | .container => return .record (← need n.record)
      | .vector | .list => do
          let element ← s.element n
          if ← ofGraph element.isFixed then
            match element.fixedSize with
            | some (step + 1) => do
                printed (step + 1)
                return .sequence n.extent (some (step + 1)) (← ofNode s fuel element)
            | _ => refuse "sequence of zero-size elements cannot be decoded" element.record
          else return .sequence n.extent none (← ofNode s fuel element)

/-- The helpers that the code calls. -/
def helpers : Decoder → List Helper
  | .bool => [.decodeBool]
  | .boundedBytes _ => [.decodeBytes]
  | .bitVector _ => [.unpackBitVector]
  | .packedBits _ => [.packedBitList]
  | .bitList _ => [.unpackBitList]
  | .sequence extent step item =>
      (match extent, step with
        | .exactly _, some _ => []
        | .atMost _, some _ => [.fixedCount]
        | .exactly _, none => [.offsetSpans]
        | .atMost _, none => [.dynamicCount, .offsetSpans]) ++ item.helpers
  | _ => []

end Decoder

namespace Measure

/-- Reads the code of a dynamic node; the fuel bounds elements in each other. -/
def ofNode (s : Schema) : Nat → Node → Generation Measure
  | 0, _ => .error (.graph .endless)
  | fuel + 1, n =>
      match n.kind with
      | .bytes => return .bytes
      | .bitList => return if n.packed then .bytes else .bitList
      | .container => return .record (← need n.record)
      | .vector | .list => do
          let element ← s.element n
          if ← ofGraph element.isFixed then return .fixedItems element.fixedSize
          else return .dynamicItems (← ofNode s fuel element)
      | kind => refuse ("no size rule for dynamic " ++ kind.text ++ " node") n.record

end Measure

namespace RecordCode

/-- A bound on how deep elements can be nested in each other. -/
def depth (s : Schema) : Nat := s.arena.size + 1

/-- The encoders of the fields: those of fixed fields are read first. -/
def encoders (s : Schema) (fields : List (FieldRef × Node)) : Generation (List Encoder) := do
  let inline ← fields.mapM fun (_, n) => do
    if ← ofGraph n.isFixed then return some (← Encoder.ofNode s (depth s) n) else return none
  (fields.zip inline).mapM fun ((_, n), encoder) =>
    match encoder with
    | some e => return e
    | none => Encoder.ofNode s (depth s) n

/-- The decoders and sizes of the fields: those of fixed fields are read first. -/
def decoders (s : Schema) (fields : List (FieldRef × Node)) :
    Generation (List (Decoder × Option Nat)) := do
  let inline ← fields.mapM fun (_, n) => do
    if ← ofGraph n.isFixed then
      let size ← need n.fixedSize
      return some (← Decoder.ofNode s (depth s) n, some size)
    else return none
  (fields.zip inline).mapM fun ((_, n), decoder) =>
    match decoder with
    | some d => return d
    | none => return (← Decoder.ofNode s (depth s) n, none)

/-- Reads the code of a record. -/
def ofSchema (s : Schema) (name : String) : Generation RecordCode := do
  let record ← ofGraph (s.record name)
  let fields ← ofGraph (s.fieldNodes name)
  let encoders ← encoders s fields
  let isFixed ← ofGraph record.isFixed
  record.fixedSize.forM printed
  let decoders ← decoders s fields
  let measures ← if isFixed then pure [] else
    (fields.filter fun f => f.2.isDynamic = some true).mapM fun (f, n) => do
      return (f.name, ← Measure.ofNode s (depth s) n)
  return {
    name
    isDynamic := !isFixed
    fixedSize := record.fixedSize
    fields := (fields.zip (encoders.zip decoders)).map fun ((f, _), encoder, decoder, size) =>
      { name := f.name, encoder, decoder, size }
    measures }

/-- Reads the code of records. -/
def ofRecords (s : Schema) (names : List String) : Generation (List RecordCode) :=
  names.mapM (ofSchema s)

/-- The code of a record. -/
def find? (codes : List RecordCode) (name : String) : Option RecordCode :=
  codes.find? (·.name == name)

/-- Whether no two fields share a name. -/
def hasDistinctFields (c : RecordCode) : Bool := (c.fields.map (·.name)).Nodup

/-- Whether some field is dynamic. -/
def hasOffsets (c : RecordCode) : Bool := c.fields.any (·.size.isNone)

/-- The helpers that the code calls. -/
def helpers (c : RecordCode) : List Helper :=
  (if c.hasOffsets then [.putOffset] else []) ++ c.fields.flatMap fun f =>
    f.encoder.helpers ++ f.decoder.helpers

end RecordCode

end SszSchema
