import SszSchema.Routine.Code
import SszSchema.Settings

/-!
# Plan of a run's modules

Which module holds which records. Records of one unit go into one module beside it; if the run
names an output, the records of all units go there. Units are taken in the order of their paths, so
that the plan does not depend on the order in which they were given.

`Plan.owner?` is the file of the module that holds a record, and `referenced` lists the records
whose routines the routines of others call.
-/

namespace SszSchema

/-- A module to write: its file, the units that it draws on and the records that it holds. -/
structure ModulePlan where
  file : Path
  units : List SourceUnit
  records : List String
  deriving DecidableEq, Repr

/-- The units of a run in order, and the modules to write. -/
structure Plan where
  units : List SourceUnit
  modules : List ModulePlan
  deriving DecidableEq, Repr

namespace Plan

/-- Units in the order of their paths. -/
def sortUnits (units : List SourceUnit) : List SourceUnit :=
  units.mergeSort fun u v => u.path.toString ≤ v.path.toString

/-- The records of a unit that are selected and belong to the schema. -/
def chosen (s : Schema) (selected : List String) (u : SourceUnit) : List String :=
  u.names.filter fun name => selected.contains name && s.contains name

/-- One module for the records of all units. -/
def merged (s : Schema) (selected : List String) (file : Path) (units : List SourceUnit) :
    List ModulePlan :=
  let records := units.flatMap (chosen s selected)
  if records.isEmpty then [] else [⟨file, units, records⟩]

/-- One module for the records of each unit that has some. -/
def besideUnits (s : Schema) (selected : List String) (suffix : String) :
    List SourceUnit → Except Failure (List ModulePlan)
  | [] => .ok []
  | u :: rest =>
      let records := chosen s selected u
      if records.isEmpty then besideUnits s selected suffix rest
      else
        match outputPath? u.path suffix with
        | none => .error (.unnamed u.path (u.path.stem ++ suffix))
        | some file => (besideUnits s selected suffix rest).map (⟨file, [u], records⟩ :: ·)

/-- Plans the modules of a run. -/
def ofUnits (s : Schema) (units : List SourceUnit) (selected : List String) (output : Option Path)
    (suffix : String) : Except Failure Plan :=
  let units := sortUnits units
  match output with
  | some file => .ok ⟨units, merged s selected file units⟩
  | none => (besideUnits s selected suffix units).map (⟨units, ·⟩)

/-- The file of the module that holds a record. -/
def owner? (p : Plan) (record : String) : Option Path :=
  (p.modules.reverse.find? (·.records.contains record)).map (·.file)

/-- The unit that declares a record. -/
def unitOf? (p : Plan) (record : String) : Option SourceUnit :=
  p.units.reverse.find? (·.names.contains record)

end Plan

/-- The type at the end of a chain of elements; the fuel bounds its length. -/
def Schema.innermost (s : Schema) : Nat → Node → Generation Node
  | 0, _ => .error (.graph .endless)
  | fuel + 1, n => do
      if n.kind = .vector || n.kind = .list then s.innermost fuel (← s.element n) else return n

/-- The records that a node's routines call, after those found before. -/
def Schema.addReferenced (s : Schema) (found : List String) (n : Node) :
    Generation (List String) := do
  let n ← s.innermost (RecordCode.depth s) n
  if n.kind = .container then
    let name ← Generation.need n.record
    return if found.contains name then found else found ++ [name]
  else return found

/-- The records whose routines the routines of some records call, each once. -/
def Schema.referenced (s : Schema) (records : List String) : Generation (List String) :=
  records.foldlM (fun found name => do
    let fields ← Generation.ofGraph (s.fieldNodes name)
    fields.foldlM (fun found f => s.addReferenced found f.2) found) []

end SszSchema
