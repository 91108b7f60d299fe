/-!
# Helpers of generated modules

A generated module carries private copies of the helpers that its routines call, in the order of
`Helper.all`. What they compute is defined in `SszSchema.Codec`.
-/

namespace SszSchema

/-- The helpers that generated routines call. -/
inductive Helper where
  /-- Writes an offset into its slot. -/
  | putOffset
  /-- Packs bits into bytes. -/
  | packBits
  /-- Packs bits and a delimiter. -/
  | packBitList
  /-- Counts the bits of a packed bit list. -/
  | bitListLength
  /-- Unpacks the bits of a vector. -/
  | unpackBitVector
  /-- Unpacks the bits of a list. -/
  | unpackBitList
  /-- Checks a packed bit list. -/
  | packedBitList
  /-- Reads a truth value. -/
  | decodeBool
  /-- Reads bytes up to a bound. -/
  | decodeBytes
  /-- Counts the elements of a list of fixed elements. -/
  | fixedCount
  /-- Counts the elements of a list of dynamic elements. -/
  | dynamicCount
  /-- Divides a sequence by its offset table. -/
  | offsetSpans
  deriving DecidableEq, Repr

namespace Helper

/-- All helpers, in the order in which modules hold them. -/
def all : List Helper :=
  [.putOffset, .packBits, .packBitList, .bitListLength,
    .unpackBitVector, .unpackBitList, .packedBitList, .decodeBool,
    .decodeBytes, .fixedCount, .dynamicCount, .offsetSpans]

/-- The name that a helper is called by. -/
def name : Helper → String
  | .putOffset => "_put_offset"
  | .packBits => "_pack_bits"
  | .packBitList => "_pack_bitlist"
  | .bitListLength => "_bitlist_len"
  | .unpackBitVector => "_unpack_bitvector"
  | .unpackBitList => "_unpack_bitlist"
  | .packedBitList => "_decode_packed_bitlist"
  | .decodeBool => "_decode_bool"
  | .decodeBytes => "_decode_bytes"
  | .fixedCount => "_fixed_list_count"
  | .dynamicCount => "_dynamic_list_count"
  | .offsetSpans => "_offset_spans"

/-- The helper of a name. -/
def ofName? (s : String) : Option Helper := all.find? (·.name == s)

end Helper

end SszSchema
