import SszSchema.Text.Shortest

/-!
# Expressions of declaration modules

The shape of a field is an expression. `Expr` holds every expression that the language knows, since
a shape that is no type is quoted in a message.
-/

namespace SszSchema.Source

/-- A literal; `marked` if a string has the prefix `u`. -/
inductive Constant where
  | none
  | bool (b : Bool)
  | int (n : Nat)
  | float (x : Text.Decimal)
  | imaginary (x : Text.Decimal)
  | text (value : List Char) (marked : Bool)
  | bytes (value : List UInt8)
  | ellipsis
  deriving DecidableEq, Repr

/-- Operators before an operand. -/
inductive UnaryOp where
  | invert
  | negate
  | plus
  | minus
  deriving DecidableEq, Repr

/-- Operators between two operands. -/
inductive BinaryOp where
  | bitOr
  | bitXor
  | bitAnd
  | shiftLeft
  | shiftRight
  | add
  | sub
  | mul
  | matMul
  | div
  | mod
  | floorDiv
  | pow
  deriving DecidableEq, Repr

/-- Comparisons. -/
inductive CompareOp where
  | eq
  | notEq
  | lt
  | le
  | gt
  | ge
  | is
  | isNot
  | isIn
  | notIn
  deriving DecidableEq, Repr

/-- Roles of parameters. -/
inductive ParamRole where
  | positional
  | plain
  | rest
  | keyword
  | keywords
  deriving DecidableEq, Repr

/-- What a comprehension builds. -/
inductive Collection where
  | list
  | set
  | generator
  deriving DecidableEq, Repr

mutual

/-- An expression. -/
inductive Expr where
  | name (id : String)
  | constant (value : Constant)
  /-- A string literal with replacement fields. -/
  | formatted (pieces : List Piece)
  | member (value : Expr) (id : String)
  | subscript (value index : Expr)
  | call (callee : Expr) (args : List Expr) (keywords : List Keyword)
  | tuple (items : List Expr)
  | list (items : List Expr)
  | set (items : List Expr)
  | dict (entries : List Entry)
  | unary (op : UnaryOp) (operand : Expr)
  | binary (op : BinaryOp) (left right : Expr)
  | conjunction (operands : List Expr)
  | disjunction (operands : List Expr)
  | compare (first : Expr) (rest : List Comparison)
  | conditional (test body otherwise : Expr)
  | lambda (params : List Param) (body : Expr)
  | starred (value : Expr)
  | assign (target : String) (value : Expr)
  | await (value : Expr)
  | yield (value : Option Expr)
  | yieldFrom (value : Expr)
  | comprehension (collection : Collection) (item : Expr) (clauses : List Clause)
  | dictComprehension (key value : Expr) (clauses : List Clause)
  | slice (lower upper step : Option Expr)

/-- A keyword argument; without a name, a map of keyword arguments. -/
inductive Keyword where
  | mk (name : Option String) (value : Expr)

/-- An entry of a map; without a key, a map that is merged. -/
inductive Entry where
  | mk (key : Option Expr) (value : Expr)

/-- A further operand of a comparison. -/
inductive Comparison where
  | mk (op : CompareOp) (operand : Expr)

/-- A parameter. -/
inductive Param where
  | mk (role : ParamRole) (name : String) (hint fallback : Option Expr)

/-- A loop of a comprehension and its conditions. -/
inductive Clause where
  | mk (isAsync : Bool) (target iterable : Expr) (conditions : List Expr)

/-- A part of a string literal with replacement fields. -/
inductive Piece where
  | text (value : List Char)
  | field (value : Expr) (conversion : Option Char) (spec : Option (List Piece))

end

instance : Inhabited Expr := ⟨.constant .none⟩

namespace Expr

/-- The name at the end of a dotted path. -/
def lastName? : Expr → Option String
  | .name id => some id
  | .member _ id => some id
  | _ => none

/-- The name at the end of a dotted path, which may have an index. -/
def headName? : Expr → Option String
  | .subscript value _ => value.lastName?
  | e => e.lastName?

end Expr

end SszSchema.Source
