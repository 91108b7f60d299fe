import SszSchema.Source.Expr

/-!
# Statements of declaration modules

Of a module only its classes and their annotated fields are used, yet all statements are read, since
a module is refused as a whole.
-/

namespace SszSchema.Source

/-- What a subject is matched against. -/
inductive Pattern where
  | capture (name : String)
  | wildcard
  /-- A literal or a dotted name. -/
  | value (e : Expr)
  | star (name : Option String)
  | sequence (items : List Pattern)
  | mapping (keys : List Expr) (values : List Pattern) (rest : Option String)
  | record (callee : Expr) (positional : List Pattern) (names : List String)
      (named : List Pattern)
  | choice (options : List Pattern)
  | bind (pattern : Pattern) (name : String)

mutual

/-- A statement. -/
inductive Statement where
  | expression (value : Expr)
  | assign (targets : List Expr) (value : Expr)
  | augment (target value : Expr)
  | annotate (target hint : Expr) (value : Option Expr) (line : Nat)
  | ret (value : Option Expr)
  | raise (error cause : Option Expr)
  | delete (targets : List Expr)
  | assert (test : Expr) (message : Option Expr)
  | pass
  | break
  | continue
  | global (names : List String)
  | nonlocal (names : List String)
  /-- The names that the import binds. -/
  | imports (names : List String)
  /-- Names from a module; none if everything is imported. -/
  | importFrom (level : Nat) (source : String) (names : Option (List (String × String)))
  | branch (test : Expr) (body otherwise : List Statement)
  | whileLoop (test : Expr) (body otherwise : List Statement)
  | forLoop (isAsync : Bool) (target iterable : Expr) (body otherwise : List Statement)
  | within (isAsync : Bool) (items : List (Expr × Option Expr)) (body : List Statement)
  | attempt (isGroup : Bool) (body : List Statement) (handlers : List Handler)
      (otherwise always : List Statement)
  | select (subject : Expr) (cases : List Case)
  | function (isAsync : Bool) (name : String) (params : List Param) (result : Option Expr)
      (decorators : List Expr) (body : List Statement)
  | record (name : String) (args : List Expr) (keywords : List Keyword) (decorators : List Expr)
      (body : List Statement) (line : Nat)

/-- What is done with an error; all errors if no class is given. -/
inductive Handler where
  | mk (error : Option Expr) (name : Option String) (body : List Statement)

/-- A case of a selection. -/
inductive Case where
  | mk (pattern : Pattern) (guard : Option Expr) (body : List Statement)

end

end SszSchema.Source
