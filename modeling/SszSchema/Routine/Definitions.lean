import SszSchema.Routine.Line
import SszSchema.Text.Quoted

/-!
# Definitions of generated modules

What generated modules define beside routines: the error classes, in the first module of a run, and
the helpers that the module's routines call. `ErrorClass.definitions` and `Helper.source` are the
texts; `ErrorClass.groups` and `Helper.lines` are the same as lines.
-/

namespace SszSchema

open CodeLine

namespace ErrorClass

/-- The lines that define the root class. -/
def rootLines : List CodeLine :=
  let self : CodeLine := Variable.inner "self"
  let detail : CodeLine := Variable.inner "detail"
  block ("class " ++ rootName ++ "(" ++ Builtin.valueError ++ "):") <|
    docstring "Raised when a value cannot be encoded or a buffer cannot be decoded." ::
    blank ::
    "message = \"ssz error\"" ::
    blank ::
    block ("def __init__(" ++ self ++ ", " ++ detail ++ ": str = \"\") -> None:")
      [Builtin.super ++ "().__init__(" ++
        formatted (inserted (self ++ ".message") ++ ": " ++ inserted detail) ++
        " if " ++ detail ++ " else " ++ self ++ ".message)"]

/-- The lines that define one class. -/
def lines (e : ErrorClass) : List CodeLine :=
  block ("class " ++ e.name ++ "(" ++ Entity.errorRoot ++ "):")
    ["message = " ++ Text.quoted e.message]

/-- The definitions of the family. -/
def groups : List (List CodeLine) := rootLines :: all.map lines

/-- The text that defines the family. -/
def definitions : String := joined (spaced groups)

end ErrorClass

namespace Helper

/-- The parameters of a helper with their annotations, and what it is said to return. -/
def signature : Helper → List (String × String) × String
  | .putOffset => ([("buf", ": bytearray"), ("pos", ": int"), ("start", ": int")], "None")
  | .packBits => ([("bits", ""), ("nbytes", ": int")], "bytes")
  | .packBitList => ([("bits", "")], "bytes")
  | .bitListLength => ([("data", "")], "int")
  | .unpackBitVector => ([("span", ""), ("nbits", ": int")], "list")
  | .unpackBitList => ([("span", ""), ("limit", "")], "list")
  | .packedBitList => ([("span", ""), ("limit", "")], "bytes")
  | .decodeBool => ([("span", "")], "bool")
  | .decodeBytes => ([("span", ""), ("limit", ": int")], "bytes")
  | .fixedCount => ([("size", ": int"), ("elem_size", ": int"), ("limit", ": int")], "int")
  | .dynamicCount => ([("span", ""), ("limit", ": int")], "int")
  | .offsetSpans => ([("span", ""), ("count", ": int")], "list")

/-- Parameters with commas between them. -/
def parameters : List (String × String) → CodeLine
  | [] => []
  | [(name, annotation)] => Variable.inner name ++ annotation
  | (name, annotation) :: rest => Variable.inner name ++ annotation ++ ", " ++ parameters rest

/-- The statements of a helper. -/
def body (h : Helper) : List CodeLine :=
  let bit : CodeLine := Variable.inner "bit"
  let bits : CodeLine := Variable.inner "bits"
  let buf : CodeLine := Variable.inner "buf"
  let count : CodeLine := Variable.inner "count"
  let data : CodeLine := Variable.inner "data"
  let elemSize : CodeLine := Variable.inner "elem_size"
  let first : CodeLine := Variable.inner "first"
  let i : CodeLine := Variable.inner "i"
  let limit : CodeLine := Variable.inner "limit"
  let n : CodeLine := Variable.inner "n"
  let nbits : CodeLine := Variable.inner "nbits"
  let nbytes : CodeLine := Variable.inner "nbytes"
  let offsets : CodeLine := Variable.inner "offsets"
  let out : CodeLine := Variable.inner "out"
  let pos : CodeLine := Variable.inner "pos"
  let rem : CodeLine := Variable.inner "rem"
  let size : CodeLine := Variable.inner "size"
  let span : CodeLine := Variable.inner "span"
  let start : CodeLine := Variable.inner "start"
  let setBits : List CodeLine :=
    block ("for " ++ i ++ ", " ++ bit ++ " in " ++ Builtin.enumerate ++ "(" ++ bits ++ "):") <|
      block ("if " ++ bit ++ ":") [out ++ "[" ++ i ++ " >> 3] |= 1 << (" ++ i ++ " & 7)"]
  let bitCount (data : CodeLine) : CodeLine :=
    "(" ++ lengthOf data ++ " - 1) * 8 + " ++ data ++ "[-1].bit_length() - 1"
  let checkDelimiter (data : CodeLine) : List CodeLine :=
    raiseIf ("not " ++ lengthOf data ++ " or " ++ data ++ "[-1] == 0") .bitfield
      "\"bitlist delimiter bit is missing\""
  let readBits (count : CodeLine) : CodeLine :=
    "[" ++ Builtin.bool ++ "(" ++ span ++ "[" ++ i ++ " >> 3] >> (" ++ i ++ " & 7) & 1) for " ++
      i ++ " in " ++ Builtin.range ++ "(" ++ count ++ ")]"
  let checkLimit (condition found noun : CodeLine) : List CodeLine :=
    raiseIf (condition ++ found ++ " > " ++ limit) .listTooBig
      (formatted (inserted found ++ " " ++ noun ++ " > " ++ inserted limit))
  match h with
  | .putOffset =>
      [buf ++ "[" ++ pos ++ ":" ++ pos ++ " + 4] = (" ++ lengthOf buf ++ " - " ++ start ++
        ").to_bytes(4, \"little\")"]
  | .packBits =>
      [assign out (Builtin.bytearray ++ "(" ++ nbytes ++ ")")] ++ setBits ++
      returns (Builtin.bytes ++ "(" ++ out ++ ")")
  | .packBitList =>
      [assign n (lengthOf bits), assign out (Builtin.bytearray ++ "(" ++ n ++ " // 8 + 1)")] ++
      setBits ++ [out ++ "[" ++ n ++ " >> 3] |= 1 << (" ++ n ++ " & 7)"] ++
      returns (Builtin.bytes ++ "(" ++ out ++ ")")
  | .bitListLength => checkDelimiter data ++ returns (bitCount data)
  | .unpackBitVector =>
      raiseIf (nbits ++ " & 7 and " ++ span ++ "[-1] >> (" ++ nbits ++ " & 7)") .bitfield
        "\"bitvector padding bits are not zero\"" ++
      returns (readBits nbits)
  | .unpackBitList =>
      checkDelimiter span ++ [assign n (bitCount span)] ++
      checkLimit (limit ++ " is not None and ") n "bits" ++ returns (readBits n)
  | .packedBitList =>
      checkDelimiter span ++ [assign n (bitCount span)] ++
      checkLimit (limit ++ " is not None and ") n "bits" ++
      returns (Builtin.bytes ++ "(" ++ span ++ ")")
  | .decodeBool =>
      raiseIf (span ++ "[0] > 1") .bool (formatted ("byte " ++ inserted (span ++ "[0]:#04x"))) ++
      returns (span ++ "[0] == 1")
  | .decodeBytes =>
      checkLimit [] (lengthOf span) "bytes" ++ returns (Builtin.bytes ++ "(" ++ span ++ ")")
  | .fixedCount =>
      [assign (count ++ ", " ++ rem) (Builtin.divmod ++ "(" ++ size ++ ", " ++ elemSize ++ ")")] ++
      raiseIf rem .divideInt
        (formatted (inserted size ++ " bytes is not a multiple of " ++ inserted elemSize)) ++
      checkLimit [] count "elements" ++ returns count
  | .dynamicCount =>
      block ("if not " ++ lengthOf span ++ ":") (returns "0") ++
      raiseIf (lengthOf span ++ " < 4") .offset "\"list shorter than its first offset\"" ++
      [assign first (Builtin.int ++ ".from_bytes(" ++ span ++ "[0:4], \"little\")")] ++
      raiseIf (first ++ " == 0 or " ++ first ++ " % 4") .offset
        (formatted ("first list offset " ++ inserted first)) ++
      [assign count (first ++ " // 4")] ++ checkLimit [] count "elements" ++ returns count
  | .offsetSpans =>
      [assign size (lengthOf span)] ++
      raiseIf (size ++ " < 4 * " ++ count) .offset
        (formatted ("offset table of " ++ inserted count ++ " entries exceeds " ++ inserted size ++
          " bytes")) ++
      [assign offsets ("[" ++ Builtin.int ++ ".from_bytes(" ++ span ++ "[4 * " ++ i ++ ":4 * " ++
        i ++ " + 4], \"little\") for " ++ i ++ " in " ++ Builtin.range ++ "(" ++ count ++ ")]")] ++
      raiseIf (count ++ " and " ++ offsets ++ "[0] != 4 * " ++ count) .offset
        (formatted ("first offset " ++ inserted (offsets ++ "[0]") ++ " != " ++
          inserted ("4 * " ++ count))) ++
      [offsets ++ ".append(" ++ size ++ ")"] ++
      block ("for " ++ i ++ " in " ++ Builtin.range ++ "(" ++ count ++ "):")
        (raiseIf (offsets ++ "[" ++ i ++ "] > " ++ offsets ++ "[" ++ i ++ " + 1]") .offset
          (formatted ("offset " ++ inserted (offsets ++ "[" ++ i ++ "]") ++ " out of order"))) ++
      returns ("[(" ++ offsets ++ "[" ++ i ++ "], " ++ offsets ++ "[" ++ i ++ " + 1]) for " ++ i ++
        " in " ++ Builtin.range ++ "(" ++ count ++ ")]")

/-- The lines of a helper's definition. -/
def lines (h : Helper) : List CodeLine :=
  block ("def " ++ h.name ++ "(" ++ parameters h.signature.1 ++ ") -> " ++ h.signature.2 ++ ":")
    h.body

/-- The definition of a helper. -/
def source (h : Helper) : String := joined h.lines

/-- The given helpers, each once, in the order of `all`. -/
def kept (wanted : List Helper) : List Helper := all.filter wanted.contains

/-- The definitions of the given helpers, each once, in the order of `all`. -/
def sources (wanted : List Helper) : List String := (kept wanted).map source

end Helper

end SszSchema
