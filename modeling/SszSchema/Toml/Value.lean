/-!
# Values of configuration files

What a TOML file holds: a table of named values, in the order of the file. Numbers and times keep
their spelling.
-/

namespace SszSchema.Toml

/-- A value. -/
inductive Value where
  | text (s : String)
  | bool (b : Bool)
  | number (literal : String)
  | time (literal : String)
  | array (items : List Value)
  | table (entries : List (String × Value))
  deriving Repr, Inhabited

/-- Named values in order. -/
abbrev Table := List (String × Value)

/-- Names of tables inside each other, the outermost first. -/
abbrev Key := List String

/-- Why a file cannot be read. -/
inductive Fault where
  | invalid
  /-- A whole number has too many digits. -/
  | digitLimit
  deriving DecidableEq, Repr

namespace Table

/-- The value of a name. -/
def get? (t : Table) (name : String) : Option Value :=
  (t.find? (·.1 == name)).map (·.2)

/-- Sets the value of a name, in place if the name is taken. -/
def set (t : Table) (name : String) (v : Value) : Table :=
  if (get? t name).isSome then t.map fun e => if e.1 == name then (name, v) else e
  else t ++ [(name, v)]

/-- Changes the table under a key, which is made if it is missing. Below an array of tables the last
one is meant, if `inArrays` allows that. -/
def modifyAt (inArrays : Bool) (f : Table → Option Table) : Key → Table → Option Table
  | [], t => f t
  | name :: rest, t =>
      match get? t name with
      | none => (modifyAt inArrays f rest []).map fun sub => set t name (.table sub)
      | some (.table sub) => (modifyAt inArrays f rest sub).map fun sub => set t name (.table sub)
      | some (.array items) =>
          if inArrays then
            match items.getLast? with
            | some (.table sub) => (modifyAt inArrays f rest sub).map fun sub =>
                set t name (.array (items.dropLast ++ [.table sub]))
            | _ => none
          else none
      | some _ => none

/-- Adds a name that is not taken. -/
def insertNew (name : String) (v : Value) (t : Table) : Option Table :=
  if (get? t name).isSome then none else some (t ++ [(name, v)])

/-- Adds an empty table to an array of tables, which is made if it is missing. -/
def appendTable (name : String) (t : Table) : Option Table :=
  match get? t name with
  | none => some (t ++ [(name, .array [.table []])])
  | some (.array items) => some (set t name (.array (items ++ [.table []])))
  | some _ => none

end Table

end SszSchema.Toml
