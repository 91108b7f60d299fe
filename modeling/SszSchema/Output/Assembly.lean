import SszSchema.Output.Layout
import SszSchema.Output.Module
import SszSchema.Output.Plan

/-!
# Assembly

From a schema to the texts of modules. The first module of a plan defines the error classes, the
others take them from there. `assemble` refuses records whose names would clash inside a module,
records that are called but generated nowhere, and texts that are not accepted.
-/

namespace SszSchema

/-- A generated module ready to be written. -/
structure Output where
  file : Path
  text : String
  records : List String
  definesErrors : Bool
  deriving DecidableEq, Repr

namespace Assembly

/-- Stops with a diagnostic about a record. -/
def refuse (message : String) (key record : String) : Generation α :=
  .error (.reported (.make .generation message [(key, .text record)]))

/-- Records must not be named like error classes; the first name in order is reported. -/
def checkErrorNames (records : List String) : Generation Unit :=
  match (records.filter ErrorClass.familyNames.contains).mergeSort fun a b => a ≤ b with
  | name :: _ => refuse ("record " ++ Text.quoted name ++ " clashes with a generated error class")
      "record" name
  | [] => .ok ()

/-- The first routine of a record that an earlier record has too, with that record. -/
def clash? (taken : List (String × String)) (record : String) : Option (String × String) :=
  (publicNames record).findSome? fun routine =>
    (taken.find? (·.1 == routine)).map fun e => (e.2, routine)

/-- Records must not share routines; `taken` lists routines with their records. -/
def checkRoutines : List (String × String) → List String → Generation Unit
  | _, [] => .ok ()
  | taken, record :: rest =>
      match clash? taken record with
      | some (other, routine) => refuse ("records " ++ Text.quoted other ++ " and " ++
          Text.quoted record ++ " generate the same routine " ++ Text.quoted routine)
          "record" record
      | none => checkRoutines (taken ++ (publicNames record).map (·, record)) rest

/-- The modules of the records that are called but not held in the module itself. -/
def foreign (p : Plan) (held called : List String) : Generation (List (String × String)) :=
  (called.filter fun name => !held.contains name).mapM fun name =>
    match p.owner? name with
    | some file => return (name, moduleName file)
    | none => refuse ("record " ++ Text.quoted name ++ " is referenced but not generated")
        "record_ref" name

/-- Names taken from the module of a unit or of a file beside it. -/
def takeFrom (file : Path) (u : SourceUnit) (source : String) (names : List String) :
    NamesImport where
  sibling := u.inPackage && file.parent.location = u.path.parent.location
  source
  names

/-- The classes that a module takes from the units that declare them. -/
def classImports (file : Path) (records : List String) (units : List SourceUnit) :
    List NamesImport :=
  (units.map fun u => takeFrom file u u.moduleName (u.names.filter records.contains)).filter
    (!·.names.isEmpty)

/-- Where a module takes the error classes from: the first module of the plan, unless it is that
module itself. -/
def errorImport (p : Plan) (file : Path) : Option NamesImport := do
  let first ← p.modules.head?
  if file = first.file then none
  else
    let u ← first.records.head?.bind p.unitOf?
    return takeFrom file u (moduleName first.file) ErrorClass.familyNames

/-- The module of a part of a plan. -/
def moduleOf (s : Schema) (p : Plan) (header : String) (part : ModulePlan) : Generation Module := do
  checkErrorNames part.records
  checkRoutines [] part.records
  let foreign ← foreign p part.records (← s.referenced part.records)
  let codes ← RecordCode.ofRecords s part.records
  let drawnOn := part.units.filter fun u => u.names.any part.records.contains
  return {
    file := part.file
    header
    sources := drawnOn.map (·.path.name)
    classes := classImports part.file part.records part.units
    errors := errorImport p part.file
    sibling := part.units.head?.any (·.inPackage)
    others := (foreign.map (·.2)).eraseDups.mergeSort fun a b => a ≤ b
    foreign
    codes }

/-- The diagnostic of a text that is not accepted. -/
def unacceptable (file : Path) : Diagnostic :=
  .make .format "generated code does not compile: invalid syntax" [("path", .text file.toString)]

/-- The text of a module in normal form. A decoder names each field once in the call that makes the
record, so a record with two fields of one name has no routines that could be accepted. -/
def outputOf (accepts : String → Bool) (m : Module) : Generation Output :=
  if m.codes.all RecordCode.hasDistinctFields then
    match Layout.format accepts m.text with
    | some text => .ok ⟨m.file, text, m.records, m.definesErrors⟩
    | none => .error (.reported (unacceptable m.file))
  else .error (.reported (unacceptable m.file))

end Assembly

/-- Generates modules for the selected records of a schema, or for all of them. -/
def assemble (accepts : String → Bool) (s : Schema) (units : List SourceUnit)
    (selected : Option (List String)) (output : Option Path) (settings : Settings) :
    Generation (List Output) := do
  let p ← Plan.ofUnits s units (selected.getD s.order) output settings.suffix
  if p.modules.isEmpty then
    .error (.reported (.make .noOutput DiagnosticKind.noOutput.defaultMessage))
  else
    p.modules.mapM fun part => do
      Assembly.outputOf accepts (← Assembly.moduleOf s p settings.header part)

end SszSchema
