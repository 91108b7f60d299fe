import SszSchema.Codec.Value
import SszSchema.Routine.Code

/-!
# Sizes of encodings

Running measures: `Codec.size` is the size of a record's encoding, computed from the numbers of
elements and bytes alone. Bounds are not checked.
-/

namespace SszSchema

namespace Measure

/-- A part that a value or its code needs. -/
def need : Option α → Except Fault α
  | some a => .ok a
  | none => .error .wrongShape

/-- The number of bytes or items of a value. -/
def length : Value → Except Fault Nat
  | .bytes bs => .ok bs.length
  | .list items => .ok items.length
  | _ => .error .wrongShape

/-- Adds up the sizes of elements and of their offsets. -/
def sum (size : Value → Except Fault Nat) : List Value → Except Fault Nat
  | [] => .ok 0
  | v :: rest => do
      let n ← size v
      return offsetBytes + n + (← sum size rest)

/-- The size of a dynamic value. `call` runs the routine of a record. -/
def run (call : String → Value → Except Fault Nat) : Measure → Value → Except Fault Nat
  | .bytes, v => length v
  | .bitList, v => do return (← length v) / 8 + 1
  | .record name, v => call name v
  | .fixedItems size, v => do
      let n ← length v
      return n * (← need size)
  | .dynamicItems item, .list items => sum (run call item) items
  | .dynamicItems _, _ => .error .wrongShape

end Measure

namespace RecordCode

/-- What dynamic fields add to the size of a record. -/
def addSizes (call : String → Value → Except Fault Nat) (v : Value) :
    List (String × Measure) → Except Fault Nat
  | [] => .ok 0
  | (name, m) :: rest =>
      match v.field? name with
      | none => .error (.missingField name)
      | some field => do
          let n ← m.run call field
          return n + (← addSizes call v rest)

/-- The size of a record. -/
def sizeOf (c : RecordCode) (call : String → Value → Except Fault Nat) (v : Value) :
    Except Fault Nat := do
  let fixed ← Measure.need c.fixedSize
  if c.isDynamic then return fixed + (← addSizes call v c.measures)
  else return fixed

end RecordCode

namespace Codec

/-- The size of a record's encoding; the fuel bounds how deep records are nested. -/
def sizeWith (codes : List RecordCode) : Nat → String → Value → Except Fault Nat
  | 0, _, _ => .error .tooDeep
  | fuel + 1, name, v =>
      match RecordCode.find? codes name with
      | none => .error (.missingRecord name)
      | some c => c.sizeOf (sizeWith codes fuel) v

/-- The size of a record's encoding. -/
def size (codes : List RecordCode) (name : String) (v : Value) : Except Fault Nat :=
  sizeWith codes (v.depth + 1) name v

end Codec

end SszSchema
