import SszSchema.Routine.Definitions
import SszSchema.Routine.Printer
import SszSchema.ModuleName

/-!
# Generated modules

A generated module as a structure: what it draws on, which names it takes from other modules, the
helpers and routines it defines, and what it exports. `Module.text` writes it out.
-/

namespace SszSchema

/-- Names taken from a module; a module beside the importing one in its package is named with a
dot. -/
structure NamesImport where
  sibling : Bool
  source : String
  names : List String
  deriving DecidableEq, Repr

namespace NamesImport

/-- The statement that takes the names. -/
def text (i : NamesImport) : String :=
  "from " ++ (if i.sibling then "." else "") ++ i.source ++ " import " ++ Text.join ", " i.names

end NamesImport

/-- A generated module. -/
structure Module where
  file : Path
  header : String
  /-- The names of the source files. -/
  sources : List String
  /-- Where the record classes come from. -/
  classes : List NamesImport
  /-- Where the error classes come from, if this module does not define them. -/
  errors : Option NamesImport
  /-- Whether modules of other records belong to the same package. -/
  sibling : Bool
  /-- The modules of other records. -/
  others : List String
  /-- The modules of the records that are called but not held here. -/
  foreign : List (String × String)
  /-- The routines, record by record. -/
  codes : List RecordCode
  deriving DecidableEq, Repr

namespace Module

/-- The records whose routines a module holds. -/
def records (m : Module) : List String := m.codes.map (·.name)

/-- Whether a module defines the error classes. -/
def definesErrors (m : Module) : Bool := m.errors.isNone

/-- The helpers that a module's routines call. -/
def helpers (m : Module) : List Helper := m.codes.flatMap RecordCode.helpers

/-- The module of a record held elsewhere. -/
def home? (m : Module) (record : String) : Option String :=
  ((m.foreign.find? (·.1 == record)).map (·.2)).filter (· ≠ "")

/-- How a routine of a record is written. -/
def call (m : Module) (r : Routine) (record : String) : CodeLine :=
  match m.home? record with
  | some home => [.member home r record]
  | none => Entity.routine r record

/-- The names that a module exports. -/
def exports (m : Module) : List String :=
  (if m.definesErrors then ErrorClass.familyNames else []) ++ m.records.flatMap publicNames

/-- The header and the source files. -/
def headText (m : Module) : String :=
  m.header ++ "\n# source: " ++ Text.join ", " m.sources

/-- The definition of the error classes, or where they come from. -/
def errorsText (m : Module) : String :=
  match m.errors with
  | none => ErrorClass.definitions
  | some i => i.text

/-- The statement that makes another module known. -/
def otherText (m : Module) (name : String) : String :=
  (if m.sibling then "from . import " else "import ") ++ name

/-- The statement that lists the exported names. -/
def exportsText (m : Module) : String :=
  Entity.exports.name ++ " = [\n" ++
    String.join (m.exports.map fun name => "    " ++ Text.quoted name ++ ",\n") ++ "]"

/-- The sections of a module. -/
def sections (m : Module) : List String :=
  [m.headText, Text.join "\n" (m.classes.map NamesImport.text), m.errorsText,
    Text.join "\n" (m.others.map m.otherText)] ++ Helper.sources m.helpers ++
  [CodeLine.joined (RecordCode.lines m.call m.codes), m.exportsText]

/-- The text of a module: its sections with blank lines between them. -/
def text (m : Module) : String :=
  Text.join "\n\n\n" (m.sections.filter (· ≠ ""))

end Module

end SszSchema
