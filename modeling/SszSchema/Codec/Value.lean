import SszSchema.Routine.ErrorClass

/-!
# Values and faults of routines

`Value` is what routines encode and decode, and `Fault` is why a routine stops. Decoded numbers are
not negative; numbers to encode may be anything.
-/

namespace SszSchema

/-- A value of a schema's types. Bits are a list of truth values, packed bits are bytes. -/
inductive Value where
  | uint (n : Int)
  | bool (b : Bool)
  | bytes (bs : List UInt8)
  | list (items : List Value)
  | record (fields : List (String × Value))
  deriving Repr, Inhabited

/-- Why a routine stops. -/
inductive Fault where
  /-- The routine raises an error. -/
  | raised (sort : ErrorClass) (detail : String)
  /-- An offset does not fit its four bytes. -/
  | overflow
  /-- The value has no such field. -/
  | missingField (name : String)
  /-- No routines are there for the record. -/
  | missingRecord (name : String)
  /-- A byte past the end of a span is asked for. -/
  | outOfRange
  /-- The value does not have the shape of its type. -/
  | wrongShape
  /-- A record is nested too deep. -/
  | tooDeep
  deriving DecidableEq, Repr

namespace Fault

/-- Whether a fault belongs to the family of errors that routines raise. -/
def isRaised : Fault → Bool
  | .raised _ _ => true
  | _ => false

end Fault

namespace Value

mutual

/-- How deep a value is nested. -/
def depth : Value → Nat
  | .list items => depthItems items + 1
  | .record fields => depthFields fields + 1
  | _ => 0

/-- The depth of the deepest item. -/
def depthItems : List Value → Nat
  | [] => 0
  | v :: rest => max (depth v) (depthItems rest)

/-- The depth of the deepest field. -/
def depthFields : List (String × Value) → Nat
  | [] => 0
  | (_, v) :: rest => max (depth v) (depthFields rest)

end

/-- The value of a field. -/
def field? (v : Value) (name : String) : Option Value :=
  match v with
  | .record fields => (fields.find? (·.1 == name)).map (·.2)
  | _ => none

/-- The truth value that a value is. -/
def bool? : Value → Option Bool
  | .bool b => some b
  | _ => none

/-- The bits that a value is. -/
def bits? : Value → Option (List Bool)
  | .list items => items.mapM bool?
  | _ => none

/-- The value of bits. -/
def ofBits (bits : List Bool) : Value := .list (bits.map .bool)

end Value

end SszSchema
