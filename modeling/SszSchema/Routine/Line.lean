import SszSchema.Routine.ErrorClass
import SszSchema.Routine.Helper
import SszSchema.RoutineName

/-!
# Lines of generated code

Generated code is made of lines, and lines of fragments. A fragment is plain text or a name. Names
are kept apart by what they are meant to stand for: a `Variable` belongs to the function that the
line stands in, and an `Entity` to its module or to the language. What a name does stand for where
it is read is another matter, since a name has no other mark than its letters.

Names that stand for nothing when a function runs are plain text: those in comments, in annotations
and behind the dot of a value.
-/

namespace SszSchema

/-- The routines of a record. -/
inductive Routine where
  | marshal
  | marshalTo
  | unmarshal
  | size
  deriving DecidableEq, Repr

/-- The name of a routine of a record. -/
def Routine.name (record : String) : Routine → String
  | .marshal => RoutineName.marshal record
  | .marshalTo => RoutineName.marshalTo record
  | .unmarshal => RoutineName.unmarshal record
  | .size => RoutineName.size record

/-- What generated code takes from the language. -/
inductive Builtin where
  | int
  | len
  | bytes
  | bytearray
  | memoryview
  | range
  | enumerate
  | sum
  | divmod
  | bool
  | super
  | valueError
  deriving DecidableEq, Repr

/-- The name of what the language provides. -/
def Builtin.name : Builtin → String
  | .int => "int"
  | .len => "len"
  | .bytes => "bytes"
  | .bytearray => "bytearray"
  | .memoryview => "memoryview"
  | .range => "range"
  | .enumerate => "enumerate"
  | .sum => "sum"
  | .divmod => "divmod"
  | .bool => "bool"
  | .super => "super"
  | .valueError => "ValueError"

/-- What a name outside of functions is meant to stand for. -/
inductive Entity where
  /-- The class of a record. -/
  | record (name : String)
  /-- The root of the error classes. -/
  | errorRoot
  | error (e : ErrorClass)
  /-- Another generated module. -/
  | sibling (name : String)
  | helper (h : Helper)
  /-- A routine of the record `owner`. -/
  | routine (r : Routine) (owner : String)
  /-- The list of the names that a module exports. -/
  | exports
  | builtin (b : Builtin)
  deriving DecidableEq, Repr

/-- The name of what stands outside of functions. -/
def Entity.name : Entity → String
  | .record name => name
  | .errorRoot => ErrorClass.rootName
  | .error e => e.name
  | .sibling name => name
  | .helper h => h.name
  | .routine r owner => r.name owner
  | .exports => "__all__"
  | .builtin b => b.name

/-- A parameter or variable of a function. -/
inductive Variable where
  /-- The value to encode or to measure. -/
  | obj
  /-- The buffer. -/
  | buf
  /-- Where a record begins in the buffer. -/
  | start
  /-- The size of a buffer or of an encoding. -/
  | size
  /-- A numbered temporary. -/
  | temporary (n : Nat)
  /-- The offset of a field, by the number of the field. -/
  | offset (index : Nat)
  /-- A decoded field. -/
  | decoded (field : String)
  /-- A variable of a helper or of the root of the error classes. -/
  | inner (name : String)
  deriving DecidableEq, Repr

/-- The name of a variable. -/
def Variable.name : Variable → String
  | .obj => "obj"
  | .buf => "buf"
  | .start => "start"
  | .size => "size"
  | .temporary n => "_t" ++ toString n
  | .offset index => "_o" ++ toString index
  | .decoded field => RoutineName.fieldLocal field
  | .inner name => name

/-- A fragment of generated code. -/
inductive Fragment where
  | plain (text : String)
  | var (v : Variable)
  | entity (e : Entity)
  /-- A routine of the record `owner`, which another module holds. -/
  | member (sibling : String) (r : Routine) (owner : String)
  deriving DecidableEq, Repr

/-- What a fragment is written as. -/
def Fragment.text : Fragment → String
  | .plain text => text
  | .var v => v.name
  | .entity e => e.name
  | .member sibling r owner => sibling ++ "." ++ r.name owner

/-- A line of generated code, or a part of one. -/
abbrev CodeLine := List Fragment

instance : Coe String CodeLine := ⟨fun text => [.plain text]⟩

instance : Coe Variable CodeLine := ⟨fun v => [.var v]⟩

instance : Coe Entity CodeLine := ⟨fun e => [.entity e]⟩

instance : Coe ErrorClass CodeLine := ⟨fun e => [.entity (.error e)]⟩

instance : Coe Helper CodeLine := ⟨fun h => [.entity (.helper h)]⟩

instance : Coe Builtin CodeLine := ⟨fun b => [.entity (.builtin b)]⟩

namespace CodeLine

/-- What a line is written as. -/
def text (line : CodeLine) : String := String.join (line.map Fragment.text)

/-- What lines are written as. -/
def joined (lines : List CodeLine) : String := Text.join "\n" (lines.map text) ++ "\n"

/-- A blank line. -/
def blank : CodeLine := []

/-- Lines one level deeper; blank lines stay blank. -/
def indent (lines : List CodeLine) : List CodeLine :=
  lines.map fun line => if line.isEmpty then blank else .plain "    " :: line

/-- A header and the lines below it. -/
def block (header : CodeLine) (body : List CodeLine) : List CodeLine := header :: indent body

/-- Groups of lines with two blank lines between them. -/
def spaced : List (List CodeLine) → List CodeLine
  | [] => []
  | [lines] => lines
  | lines :: rest => lines ++ [blank, blank] ++ spaced rest

/-- A value between braces, for a message to show. -/
def inserted (value : CodeLine) : CodeLine := "\x7b" ++ value ++ "\x7d"

/-- The length of a value. -/
def lengthOf (value : CodeLine) : CodeLine := Builtin.len ++ "(" ++ value ++ ")"

/-- A message that shows values. -/
def formatted (detail : CodeLine) : CodeLine := "f\"" ++ detail ++ "\""

/-- What a class or function says of itself. -/
def docstring (text : String) : CodeLine := "\"\"\"" ++ text ++ "\"\"\""

/-- A statement that binds a variable. -/
def assign (target value : CodeLine) : CodeLine := target ++ " = " ++ value

/-- A statement that ends a function with a value. -/
def returns (value : CodeLine) : List CodeLine := ["return " ++ value]

/-- A statement that raises an error when a condition holds. -/
def raiseIf (condition : CodeLine) (error : ErrorClass) (message : CodeLine) : List CodeLine :=
  block ("if " ++ condition ++ ":") ["raise " ++ error ++ "(" ++ message ++ ")"]

end CodeLine

end SszSchema
