import SszSchema.Codec.Bytes
import SszSchema.Codec.Value
import SszSchema.Graph

/-!
# Counts and offset tables

How many elements a span holds, and where the elements lie that offsets point to. The offsets of a
sequence stand before its elements: the first points behind the table, so it tells the count, each
element reaches up to the next offset and the last one to the end of the span.
-/

namespace SszSchema.Offsets

/-- The error of more elements than allowed. -/
def tooMany (count limit : Nat) : Fault :=
  .raised .listTooBig (toString count ++ " elements > " ++ toString limit)

/-- The number of elements of one size in a span. -/
def fixedCount (size step limit : Nat) : Except Fault Nat :=
  if size % step ≠ 0 then
    .error (.raised .divideInt (toString size ++ " bytes is not a multiple of " ++ toString step))
  else if size / step > limit then .error (tooMany (size / step) limit)
  else .ok (size / step)

/-- The number of elements that the first offset of a span tells. -/
def dynamicCount (span : List UInt8) (limit : Nat) : Except Fault Nat :=
  if span.isEmpty then .ok 0
  else if span.length < offsetBytes then
    .error (.raised .offset "list shorter than its first offset")
  else
    let first := Bytes.toNat (Bytes.slice span 0 offsetBytes)
    if first = 0 || first % offsetBytes ≠ 0 then
      .error (.raised .offset ("first list offset " ++ toString first))
    else if first / offsetBytes > limit then .error (tooMany (first / offsetBytes) limit)
    else .ok (first / offsetBytes)

/-- The offset at a place in the table. -/
def entry (span : List UInt8) (i : Nat) : Nat :=
  Bytes.toNat (Bytes.slice span (offsetBytes * i) (offsetBytes * i + offsetBytes))

/-- The spans between increasing positions. -/
def between : List Nat → Except Fault (List (Nat × Nat))
  | start :: stop :: rest =>
      if start > stop then
        .error (.raised .offset ("offset " ++ toString start ++ " out of order"))
      else (between (stop :: rest)).map ((start, stop) :: ·)
  | _ => .ok []

/-- The spans of elements behind a table of offsets. -/
def spans (span : List UInt8) (count : Nat) : Except Fault (List (Nat × Nat)) :=
  if span.length < offsetBytes * count then
    .error (.raised .offset ("offset table of " ++ toString count ++ " entries exceeds " ++
      toString span.length ++ " bytes"))
  else if count ≠ 0 && entry span 0 ≠ offsetBytes * count then
    .error (.raised .offset ("first offset " ++ toString (entry span 0) ++ " != " ++
      toString (offsetBytes * count)))
  else between ((List.range count).map (entry span) ++ [span.length])

end SszSchema.Offsets
