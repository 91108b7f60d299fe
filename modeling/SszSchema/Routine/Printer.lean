import SszSchema.Routine.Code
import SszSchema.Routine.Line
import SszSchema.Text.Blank

/-!
# Text of routines

The routines of a record as text: `RecordCode.functions` writes the four functions that its code
stands for. `call` writes the routine of another record, with its module in front if another module
holds it. Temporaries are numbered from zero in each function.
-/

namespace SszSchema

namespace Printer

open CodeLine

/-- A step that may take numbers of temporaries. -/
abbrev Numbered := StateM Nat

/-- A fresh temporary. -/
def fresh : Numbered CodeLine := do
  let n ← get
  set (n + 1)
  return Variable.temporary n

/-- The lines of a step, with temporaries numbered from zero. -/
def numbered (step : Numbered (List CodeLine)) : List CodeLine := (step.run 0).1

/-- The number that code shows, if there is one. -/
def shown : Option Nat → String
  | some n => toString n
  | none => "None"

/-- How the routines of other records are written. -/
abbrev Caller := Routine → String → CodeLine

/-- The value of a field. -/
def fieldOf (name : String) : CodeLine := Variable.obj ++ "." ++ name

/-- The statement that appends bytes to the buffer. -/
def append (bytes : CodeLine) : CodeLine := Variable.buf ++ " += " ++ bytes

/-- The number that bytes stand for. -/
def numberOf (span : CodeLine) : CodeLine :=
  Builtin.int ++ ".from_bytes(" ++ span ++ ", \"little\")"

/-! ## Encoding -/

/-- The check of a sequence's length. -/
def checkExtent (value : CodeLine) (place : String) : Extent → List CodeLine
  | .exactly length =>
      raiseIf (lengthOf value ++ " != " ++ shown length) .marshalVector
        (formatted (place ++ ": " ++ inserted (lengthOf value) ++ " elements, expected " ++
          shown length))
  | .atMost limit =>
      raiseIf (lengthOf value ++ " > " ++ shown limit) .marshalList
        (formatted (place ++ ": " ++ inserted (lengthOf value) ++ " elements > " ++ shown limit))

/-- The check of a bit list's length. -/
def checkBits (length : CodeLine) (place : String) : Option Nat → List CodeLine
  | some limit =>
      raiseIf (length ++ " > " ++ toString limit) .marshalList
        (formatted (place ++ ": " ++ inserted length ++ " bits > " ++ toString limit))
  | none => []

/-- The statements that append the encoding of a value. -/
def encode (call : Caller) (value : CodeLine) (place : String) :
    Encoder → Numbered (List CodeLine)
  | .uint width => pure <|
      raiseIf ("not 0 <= " ++ value ++ " < 1 << " ++ toString (8 * width)) .marshalUint
        (formatted (place ++ ": " ++ inserted value ++ " does not fit uint" ++
          toString (8 * width))) ++
      [append (value ++ ".to_bytes(" ++ toString width ++ ", \"little\")")]
  | .bool => return [append ("b\"\\x01\" if " ++ value ++ " else b\"\\x00\"")]
  | .fixedBytes length => pure <|
      raiseIf (lengthOf value ++ " != " ++ toString length) .marshalFixedBytes
        (formatted (place ++ ": " ++ inserted (lengthOf value) ++ " bytes, expected " ++
          toString length)) ++
      [append value]
  | .boundedBytes limit => pure <|
      raiseIf (lengthOf value ++ " > " ++ shown limit) .marshalDynamicBytes
        (formatted (place ++ ": " ++ inserted (lengthOf value) ++ " bytes > " ++ shown limit)) ++
      [append value]
  | .bitVector length size => pure <|
      raiseIf (lengthOf value ++ " != " ++ shown length) .marshalVector
        (formatted (place ++ ": " ++ inserted (lengthOf value) ++ " bits, expected " ++
          shown length)) ++
      [append (Helper.packBits ++ "(" ++ value ++ ", " ++ shown size ++ ")")]
  | .packedBits limit => do
      let n ← fresh
      return [assign n (Helper.bitListLength ++ "(" ++ value ++ ")")] ++
        checkBits n place limit ++ [append value]
  | .bitList limit => pure <|
      checkBits (lengthOf value) place limit ++ [append (Helper.packBitList ++ "(" ++ value ++ ")")]
  | .record name => pure [call .marshalTo name ++ "(" ++ value ++ ", " ++ Variable.buf ++ ")"]
  | .sequence extent false item => do
      let x ← fresh
      let body ← encode call x (place ++ "[]") item
      return checkExtent value place extent ++ block ("for " ++ x ++ " in " ++ value ++ ":") body
  | .sequence extent true item => do
      let start ← fresh
      let i ← fresh
      let x ← fresh
      let body ← encode call x (place ++ "[]") item
      let offset := toString offsetBytes
      return checkExtent value place extent ++
        [assign start (lengthOf Variable.buf),
          append (Builtin.bytes ++ "(" ++ offset ++ " * " ++ lengthOf value ++ ")")] ++
        block ("for " ++ i ++ ", " ++ x ++ " in " ++ Builtin.enumerate ++ "(" ++ value ++ "):")
          ((Helper.putOffset ++ "(" ++ Variable.buf ++ ", " ++ start ++ " + " ++ offset ++ " * " ++
            i ++ ", " ++ start ++ ")") :: body)

/-- The comment on a field. -/
def fieldComment (word : String) (index : Nat) (f : FieldCode) : CodeLine :=
  "# " ++ word ++ " (" ++ toString index ++ ") '" ++ f.name ++ "'"

/-- The statements that write a field into a record's fixed region. -/
def encodeHead (call : Caller) (record : String) (index : Nat) (f : FieldCode) :
    Numbered (List CodeLine) :=
  match f.size with
  | some _ => do
      let body ← encode call (fieldOf f.name) (record ++ "." ++ f.name) f.encoder
      return fieldComment "Field" index f :: body
  | none =>
      return [fieldComment "Offset" index f,
        assign (Variable.offset index) (lengthOf Variable.buf),
        append "b\"\\x00\\x00\\x00\\x00\""]

/-- The statements that write a record's fixed region. -/
def encodeHeads (call : Caller) (record : String) :
    Nat → List FieldCode → Numbered (List CodeLine)
  | _, [] => return []
  | index, f :: rest => do
      let lines ← encodeHead call record index f
      return blank :: lines ++ (← encodeHeads call record (index + 1) rest)

/-- The statements that write a field behind a record's fixed region. -/
def encodeBody (call : Caller) (record : String) (index : Nat) (f : FieldCode) :
    Numbered (List CodeLine) :=
  match f.size with
  | some _ => return []
  | none => do
      let body ← encode call (fieldOf f.name) (record ++ "." ++ f.name) f.encoder
      return blank :: fieldComment "Field" index f ::
        (Helper.putOffset ++ "(" ++ Variable.buf ++ ", " ++ Variable.offset index ++ ", " ++
          Variable.start ++ ")") :: body

/-- The statements that write a record's dynamic fields. -/
def encodeBodies (call : Caller) (record : String) :
    Nat → List FieldCode → Numbered (List CodeLine)
  | _, [] => return []
  | index, f :: rest => do
      let lines ← encodeBody call record index f
      return lines ++ (← encodeBodies call record (index + 1) rest)

/-- The function that encodes a record. -/
def marshal (c : RecordCode) : List CodeLine :=
  block ("def " ++ RoutineName.marshal c.name ++ "(" ++ Variable.obj ++ ") -> bytes:") <|
    docstring ("SSZ encoding of a " ++ c.name ++ ".") ::
    returns (Builtin.bytes ++ "(" ++ Entity.routine .marshalTo c.name ++ "(" ++ Variable.obj ++
      ", " ++ Builtin.bytearray ++ "()))")

/-- The function that appends the encoding of a record. -/
def marshalTo (call : Caller) (c : RecordCode) : List CodeLine :=
  let body : Numbered (List CodeLine) := do
    let heads ← encodeHeads call c.name 0 c.fields
    return heads ++ (← encodeBodies call c.name 0 c.fields)
  block ("def " ++ RoutineName.marshalTo c.name ++ "(" ++ Variable.obj ++ ", " ++ Variable.buf ++
      ": bytearray) -> bytearray:") <|
    docstring ("Append the SSZ encoding of a " ++ c.name ++ " to buf.") ::
    (if c.isDynamic then [assign Variable.start (lengthOf Variable.buf)] else []) ++
    numbered body ++ blank :: returns Variable.buf

/-! ## Decoding -/

/-- The expression that decodes a value without statements of its own. -/
def leaf (call : Caller) (span : CodeLine) : Decoder → Option CodeLine
  | .uint => some (numberOf span)
  | .bool => some (Helper.decodeBool ++ "(" ++ span ++ ")")
  | .fixedBytes => some (Builtin.bytes ++ "(" ++ span ++ ")")
  | .boundedBytes limit => some (Helper.decodeBytes ++ "(" ++ span ++ ", " ++ shown limit ++ ")")
  | .bitVector length => some (Helper.unpackBitVector ++ "(" ++ span ++ ", " ++ shown length ++ ")")
  | .packedBits limit => some (Helper.packedBitList ++ "(" ++ span ++ ", " ++ shown limit ++ ")")
  | .bitList limit => some (Helper.unpackBitList ++ "(" ++ span ++ ", " ++ shown limit ++ ")")
  | .record name => some (call .unmarshal name ++ "(" ++ span ++ ")")
  | .sequence _ _ _ => none

/-- The statements that count elements, and the count. -/
def counted (data : CodeLine) (step : Option Nat) :
    Extent → Numbered (List CodeLine × CodeLine)
  | .exactly length => return ([], shown length)
  | .atMost limit => do
      let count ← fresh
      let call : CodeLine := match step with
        | some step =>
            Helper.fixedCount ++ "(" ++ lengthOf data ++ ", " ++ toString step ++ ", " ++
              shown limit ++ ")"
        | none => Helper.dynamicCount ++ "(" ++ data ++ ", " ++ shown limit ++ ")"
      return ([assign count call], count)

/-- The header of a loop over so many elements, and the span of an element. -/
def loop (data count : CodeLine) : Option Nat → Numbered (CodeLine × CodeLine)
  | some step => do
      let i ← fresh
      let step := toString step
      return ("for " ++ i ++ " in " ++ Builtin.range ++ "(" ++ count ++ ")",
        data ++ "[" ++ i ++ " * " ++ step ++ ":(" ++ i ++ " + 1) * " ++ step ++ "]")
  | none => do
      let lo ← fresh
      let hi ← fresh
      return ("for " ++ lo ++ ", " ++ hi ++ " in " ++ Helper.offsetSpans ++ "(" ++ data ++ ", " ++
        count ++ ")", data ++ "[" ++ lo ++ ":" ++ hi ++ "]")

/-- The statements that bind a variable to the value decoded from a span. -/
def decode (call : Caller) (span dest : CodeLine) : Decoder → Numbered (List CodeLine)
  | .sequence extent step item => do
      let data ← fresh
      let (setup, count) ← counted data step extent
      let (header, itemSpan) ← loop data count step
      let start := assign data span :: setup
      match leaf call itemSpan item with
      | some e => return start ++ [assign dest ("[" ++ e ++ " " ++ header ++ "]")]
      | none => do
          let x ← fresh
          let body ← decode call itemSpan x item
          return start ++ [assign dest "[]"] ++
            block (header ++ ":") (body ++ [dest ++ ".append(" ++ x ++ ")"])
  | d => return ((leaf call span d).map (assign dest)).toList

/-- A part of the buffer. -/
def part (start stop : CodeLine) : CodeLine := Variable.buf ++ "[" ++ start ++ ":" ++ stop ++ "]"

/-- The check of an offset; `previous` is the field of the offset before. -/
def checkOffset (c : RecordCode) (place : String) (offset : CodeLine) :
    Option Nat → List CodeLine
  | none =>
      raiseIf (offset ++ " != " ++ shown c.fixedSize) .offset
        (formatted (place ++ ": first offset " ++ inserted offset ++ " != " ++ shown c.fixedSize))
  | some previous =>
      raiseIf (offset ++ " < " ++ Variable.offset previous ++ " or " ++ offset ++ " > " ++
          Variable.size) .offset
        (formatted (place ++ ": offset " ++ inserted offset))

/-- The statements that read a record's fixed region and check its offsets; `previous` is the field
of the offset before. -/
def decodeHeads (call : Caller) (c : RecordCode) :
    Nat → Nat → Option Nat → List FieldCode → Numbered (List CodeLine)
  | _, _, _, [] => return []
  | index, pos, previous, f :: rest =>
      match f.size with
      | some size => do
          let body ← decode call (part (toString pos) (toString (pos + size)))
            (Variable.decoded f.name) f.decoder
          return blank :: fieldComment "Field" index f :: body ++
            (← decodeHeads call c (index + 1) (pos + size) previous rest)
      | none => do
          let offset : CodeLine := Variable.offset index
          let stop := pos + offsetBytes
          return blank :: fieldComment "Offset" index f ::
            assign offset (numberOf (part (toString pos) (toString stop))) ::
            checkOffset c (c.name ++ "." ++ f.name) offset previous ++
            (← decodeHeads call c (index + 1) stop (some index) rest)

/-- The dynamic fields with their numbers. -/
def dynamicFields : Nat → List FieldCode → List (Nat × FieldCode)
  | _, [] => []
  | index, f :: rest =>
      if f.size.isNone then (index, f) :: dynamicFields (index + 1) rest
      else dynamicFields (index + 1) rest

/-- Where a dynamic field ends: at the next one, or with the buffer. -/
def stopOf : List (Nat × FieldCode) → Variable
  | (next, _) :: _ => .offset next
  | [] => .size

/-- The statements that read a record's dynamic fields. -/
def decodeBodies (call : Caller) : List (Nat × FieldCode) → Numbered (List CodeLine)
  | [] => return []
  | (index, f) :: rest => do
      let body ← decode call (part (Variable.offset index) (stopOf rest)) (Variable.decoded f.name)
        f.decoder
      return blank :: fieldComment "Field" index f :: body ++ (← decodeBodies call rest)

/-- The check of a buffer's size. -/
def checkSize (c : RecordCode) : List CodeLine :=
  let size : CodeLine := Variable.size
  let expected := shown c.fixedSize
  if c.isDynamic then
    raiseIf (size ++ " < " ++ expected) .size
      (formatted (c.name ++ ": " ++ inserted size ++ " bytes, expected at least " ++ expected))
  else
    raiseIf (size ++ " != " ++ expected) .size
      (formatted (c.name ++ ": " ++ inserted size ++ " bytes, expected " ++ expected))

/-- The arguments that make a record of its decoded fields. -/
def arguments : List FieldCode → CodeLine
  | [] => []
  | [f] => f.name ++ "=" ++ Variable.decoded f.name
  | f :: rest => f.name ++ "=" ++ Variable.decoded f.name ++ ", " ++ arguments rest

/-- The function that decodes a record. -/
def unmarshal (call : Caller) (c : RecordCode) : List CodeLine :=
  let body : Numbered (List CodeLine) := do
    let heads ← decodeHeads call c 0 0 none c.fields
    return heads ++ (← decodeBodies call (dynamicFields 0 c.fields))
  block ("def " ++ RoutineName.unmarshal c.name ++ "(" ++ Variable.buf ++ ") -> " ++ c.name ++
      ":") <|
    docstring ("Decode a " ++ c.name ++ " from its SSZ encoding.") ::
    assign Variable.buf (Builtin.memoryview ++ "(" ++ Variable.buf ++ ")") ::
    assign Variable.size (lengthOf Variable.buf) ::
    checkSize c ++ numbered body ++
    blank :: returns (Entity.record c.name ++ "(" ++ arguments c.fields ++ ")")

/-! ## Sizes -/

/-- The expression of a dynamic value's size. -/
def measure (call : Caller) (value : CodeLine) : Measure → Numbered CodeLine
  | .bytes => return lengthOf value
  | .bitList => return "(" ++ lengthOf value ++ " // 8 + 1)"
  | .record name => return call .size name ++ "(" ++ value ++ ")"
  | .fixedItems size => return lengthOf value ++ " * " ++ shown size
  | .dynamicItems item => do
      let x ← fresh
      let inner ← measure call x item
      return Builtin.sum ++ "(" ++ toString offsetBytes ++ " + " ++ inner ++ " for " ++ x ++
        " in " ++ value ++ ")"

/-- The statements that add up the sizes of dynamic fields. -/
def addMeasures (call : Caller) : List (String × Measure) → Numbered (List CodeLine)
  | [] => return []
  | (name, m) :: rest => do
      let size ← measure call (fieldOf name) m
      return (Variable.size ++ " += " ++ size) :: (← addMeasures call rest)

/-- The function that measures a record. -/
def size (call : Caller) (c : RecordCode) : List CodeLine :=
  block ("def " ++ RoutineName.size c.name ++ "(" ++ Variable.obj ++ ") -> int:") <|
    docstring ("Encoded size of a " ++ c.name ++ " in bytes.") ::
    if c.isDynamic then
      assign Variable.size (shown c.fixedSize) :: numbered (addMeasures call c.measures) ++
        returns Variable.size
    else returns (shown c.fixedSize)

end Printer

namespace RecordCode

/-- The four routines of a record. -/
def functions (call : Printer.Caller) (c : RecordCode) : List (List CodeLine) :=
  [Printer.marshal c, Printer.marshalTo call c, Printer.unmarshal call c, Printer.size call c]

/-- The routines of records as lines. -/
def lines (call : Printer.Caller) (codes : List RecordCode) : List CodeLine :=
  CodeLine.spaced (codes.flatMap (functions call))

/-- The routines of records as text; `qualify` gives what stands before the routines of another
record. -/
def text (qualify : String → String) (codes : List RecordCode) : String :=
  CodeLine.joined (lines (fun r record => (qualify record ++ r.name record : String)) codes)

end RecordCode

end SszSchema
