import SszSchema.Classification
import SszSchema.Output.Assembly
import SszSchema.Run.Sources
import SszSchema.Source.Acceptance

/-!
# Generating modules

`Run.build` makes modules for the records that a request asks for, and `Run.generate` also writes
them. What passes for a valid program does not matter to what is made (`Run.buildWith`,
`Run.generateWith`). A record that cannot be resolved or has no finite size ends the run, or, if the
settings say so, is left out and its diagnostic kept. Nothing is written unless all modules have
been made.
-/

namespace SszSchema

/-- What a run is asked for. -/
structure Request where
  /-- Where the sources are, as given. -/
  input : String
  /-- The records to generate modules for; none stands for all. -/
  targets : List String := []
  /-- The one file for all records, if they are not to go beside their sources. -/
  output : Option Path := none
  settings : Settings := {}
  deriving DecidableEq, Repr

/-- What a run has made. -/
structure Product where
  units : List SourceUnit
  schema : Schema
  outputs : List Output
  /-- Why records were left out. -/
  errors : List Diagnostic := []
  /-- The files written. -/
  written : List Path := []
  deriving Repr

namespace Product

/-- The records that modules were made for. -/
def records (p : Product) : List String := p.outputs.flatMap (·.records)

end Product

namespace Run

/-- The logger of a run as a whole. -/
def pipelineLogger : String := "sszgen.pipeline"

/-- The logger of everything about modules. -/
def assemblyLogger : String := "sszgen.assemble"

/-- What is told about a record that is left out. -/
def skipMessage : String := "skipping record"

/-- Tells how the resolution of a record went. -/
def tellAttempt (failFast : Bool) (r : Resolution) (a : Attempt) : Run Unit :=
  within [("record", .text a.record)] do
    match a.result with
    | .ok _ =>
        if a.isFirst then
          let fields := ((r.declaration? a.record).map (·.fields.length)).getD 0
          tell "sszgen.resolver" Level.debug "resolved record"
            [("record", .text a.record), ("fields", .int fields)]
    | .error (.reported d) =>
        if !failFast then
          tell pipelineLogger Level.warning skipMessage
            [("error", .text d.message), ("where", .text d.location)]
    | .error _ => return ()

/-- Resolves the targets, or all declared records. -/
def resolve (targets : List String) (failFast : Bool) (r : Resolution) :
    Run (Resolution × List Diagnostic) := do
  let (attempts, last) := r.attempts failFast (r.wanted targets)
  attempts.forM (tellAttempt failFast r)
  let (_, errors) ← ofResult (Attempt.settle failFast attempts)
  return (last, errors)

/-- Classifies the records that were resolved. -/
def classify (failFast : Bool) (r : Resolution) : Run (Schema × List Diagnostic) := do
  let (schema, errors) ← ofResult (r.schema none !failFast)
  errors.forM fun d =>
    tell "sszgen.classify" Level.warning skipMessage
      [("record", (d.data.get? "record").getD .null), ("error", .text d.message)]
  tell "sszgen.classify" Level.debug "classified records" [("records", .int schema.order.length)]
  return (schema, errors)

/-- Makes modules if their texts are accepted, and writes none. -/
def buildWith (accepts : String → Bool) (q : Request) : Run Product := do
  let settings ← ofReport q.settings.validate
  let units ← load q.input settings
  tell pipelineLogger Level.info "scanned input"
    [("units", .int units.length), ("path", .text q.input)]
  let (r, unresolved) ← resolve q.targets settings.failFast (← ofReport (Resolution.ofUnits units))
  let (schema, infinite) ← classify settings.failFast r
  let errors := unresolved ++ infinite
  if !errors.isEmpty && schema.order.isEmpty then throw (.reported (.batch errors))
  let outputs ← ofResult
    (assemble accepts schema units (some schema.order) q.output settings)
  let product : Product := { units, schema, outputs, errors }
  tell assemblyLogger Level.info "assembled outputs"
    [("files", .int outputs.length), ("records", .int product.records.length)]
  return product

/-- Makes modules that are valid programs, and writes none. -/
def build (q : Request) : Run Product := buildWith Source.accepts q

/-- What a caller is told about files that cannot be written. -/
def writeFault (fault : FileFault) : Diagnostic :=
  .make .write ("failed to write output: " ++ fault.text)
    [("path", ((fault.path?).map fun p => Datum.text p.toString).getD .null)]

/-- Writes files, and returns their paths. -/
def write (files : List (Path × String)) : Run (List Path) := do
  let s ← get
  let (result, tree) := s.files.writeAll files
  set { s with files := tree }
  match result with
  | .error fault => throw (.reported (writeFault fault))
  | .ok _ =>
      let written := files.map (·.1)
      written.forM fun file =>
        tell assemblyLogger Level.info "wrote file" [("path", .text file.toString)]
      return written

/-- Names a run around all of its events. -/
def named (id : String) (run : Run α) : Run α := within [("run_id", .text id)] run

/-- Makes modules if their texts are accepted, and writes them unless this is a rehearsal. -/
def generateWith (accepts : String → Bool) (id : String) (rehearsal : Bool) (q : Request) :
    Run Product := named id do
  let product ← buildWith accepts q
  let written ←
    if rehearsal then pure []
    else write (product.outputs.map fun o => (o.file, o.text))
  tell pipelineLogger Level.info "generation finished"
    [("files", .int product.outputs.length), ("records_out", .int product.records.length),
      ("skipped", .int product.errors.length), ("dry_run", .bool rehearsal)]
  return { product with written }

/-- Makes modules that are valid programs, and writes them unless this is a rehearsal. -/
def generate (id : String) (rehearsal : Bool) (q : Request) : Run Product :=
  generateWith Source.accepts id rehearsal q

end Run

end SszSchema
