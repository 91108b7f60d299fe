import SszSchema.Source.Expr.Printer
import SszSchema.Source.Grammar.Statement

/-!
# Shapes of fields

The shape of a field is read from an expression, of which only a few forms matter: a name, a dotted
name, and a name applied to one element. A shape may be quoted, so that it can name a record before
its declaration; reading takes the quotes off, once around a field and once around an element. Forms
that are no shapes keep their text, which messages show.
-/

namespace SszSchema

/-- The shape of a field as it is written. -/
inductive TypeExpr where
  | name (id : String)
  /-- A dotted name: its last part and its text. -/
  | member (id text : String)
  /-- A generic type and its element; `head` is its name, or its text if it has none. -/
  | apply (head : String) (element : TypeExpr)
  /-- A generic type with several elements. -/
  | applyMany (head : String)
  /-- An element between quotes that stand between quotes. -/
  | quoted (inner : TypeExpr)
  /-- Anything else. -/
  | other (text : String)
  deriving DecidableEq, Repr

namespace TypeExpr

/-- The name that a shape goes by. -/
def head? : TypeExpr → Option String
  | .name id => some id
  | .member id _ => some id
  | _ => none

/-- The expression in a string literal, if it holds one. -/
def unquote : Source.Expr → Source.Expr
  | .constant (.text value marked) =>
      (Source.parseExpression value).getD (.constant (.text value marked))
  | e => e

/-- Whether an expression is a string literal. -/
def isText : Source.Expr → Bool
  | .constant (.text _ _) => true
  | _ => false

/-- Reads a shape from an expression without quotes. The fuel bounds elements in each other. -/
def ofExpr : Nat → Source.Expr → TypeExpr
  | 0, e => .other e.text
  | fuel + 1, e =>
      match e with
      | .name id => .name id
      | .member _ id => .member id e.text
      | .subscript value index =>
          let head := value.lastName?.getD value.text
          match index with
          | .tuple _ => .applyMany head
          | index =>
              let element := unquote index
              let inner := unquote element
              if isText element && !isText inner then .apply head (.quoted (ofExpr fuel inner))
              else .apply head (ofExpr fuel element)
      | e => .other e.text

/-- Reads the shape of a field. -/
def ofField (fuel : Nat) (e : Source.Expr) : TypeExpr := ofExpr fuel (unquote e)

end TypeExpr

end SszSchema
