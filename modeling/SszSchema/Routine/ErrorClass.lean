/-!
# Error classes of generated modules

The routines of generated modules fail with one family of classes: a root and one class for each
sort of fault. The first module of a run defines the family, and the others import it.
-/

namespace SszSchema

/-- The sorts of fault that generated routines raise. -/
inductive ErrorClass where
  | offset
  | size
  | marshalVector
  | marshalList
  | marshalFixedBytes
  | marshalDynamicBytes
  | marshalUint
  | divideInt
  | listTooBig
  | bitfield
  | bool
  deriving DecidableEq, Repr

namespace ErrorClass

/-- All classes, in the order in which they are defined. -/
def all : List ErrorClass :=
  [.offset, .size, .marshalVector, .marshalList, .marshalFixedBytes, .marshalDynamicBytes,
    .marshalUint, .divideInt, .listTooBig, .bitfield, .bool]

/-- The name of a class. -/
def name : ErrorClass → String
  | .offset => "OffsetError"
  | .size => "SizeError"
  | .marshalVector => "MarshalVectorError"
  | .marshalList => "MarshalListError"
  | .marshalFixedBytes => "MarshalFixedBytesError"
  | .marshalDynamicBytes => "MarshalDynamicBytesError"
  | .marshalUint => "MarshalUintError"
  | .divideInt => "DivideIntError"
  | .listTooBig => "ListTooBigError"
  | .bitfield => "BitfieldError"
  | .bool => "BoolError"

/-- What every fault of a class says first. -/
def message : ErrorClass → String
  | .offset => "incorrect offset"
  | .size => "incorrect size"
  | .marshalVector => "incorrect vector marshalling"
  | .marshalList => "incorrect vector list"
  | .marshalFixedBytes => "incorrect fixed bytes marshalling"
  | .marshalDynamicBytes => "incorrect dynamic bytes marshalling"
  | .marshalUint => "incorrect uint marshalling"
  | .divideInt => "incorrect int divide"
  | .listTooBig => "incorrect list size, too big"
  | .bitfield => "incorrect bitfield encoding"
  | .bool => "incorrect bool encoding"

/-- The name of the root class. -/
def rootName : String := "SSZError"

/-- The names of the whole family, the root first. -/
def familyNames : List String := rootName :: all.map name

end ErrorClass

end SszSchema
