import SszSchema.Path
import SszSchema.TypeExpr

/-!
# Declarations

A unit is one source file; it declares records, and each record declares fields, all in the order in
which they are written. Nothing is resolved here: a field has a shape and the text of its
annotation.
-/

namespace SszSchema

/-- A field as it is declared. -/
structure FieldDecl where
  name : String
  shape : TypeExpr
  /-- The shape as messages show it. -/
  shapeText : String
  tagText : String
  line : Nat
  deriving DecidableEq, Repr

/-- A record as it is declared. -/
structure RecordDecl where
  name : String
  fields : List FieldDecl
  path : String
  line : Nat
  deriving DecidableEq, Repr

/-- A source file and its records. -/
structure SourceUnit where
  path : Path
  /-- The name that the file is imported by. -/
  moduleName : String
  inPackage : Bool
  records : List RecordDecl
  deriving DecidableEq, Repr

namespace SourceUnit

/-- The names of the records of a unit. -/
def names (u : SourceUnit) : List String := u.records.map (·.name)

end SourceUnit

/-- All records of units, in their order. -/
def declarations (units : List SourceUnit) : List RecordDecl := units.flatMap (·.records)

end SszSchema
