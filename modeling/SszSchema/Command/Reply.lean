import SszSchema.Command
import SszSchema.Datum.Json
import SszSchema.Log.Handler
import SszSchema.Run.Generate
import SszSchema.Selection
import SszSchema.Settings.Layer
import SszSchema.Version

/-!
# Replies to commands

`Command.reply` performs a command on a file tree and says what the program then prints and with
which status it ends: 0 if all went well, 2 if the caller can mend the fault, and 1 otherwise. The
log of the run stands before anything else that is printed about faults.
-/

namespace SszSchema

/-- Where and when a command is given. -/
structure Surroundings where
  /-- Where the file tree stands. -/
  root : Path := ⟨"", []⟩
  environment : Environment := []
  /-- Whether the log goes to a terminal. -/
  terminal : Bool := false
  /-- The name of the run. -/
  runId : String := ""
  /-- The time of all events. -/
  time : String := ""

/-- What the program prints, and the status that it ends with. -/
structure Reply where
  status : Nat := 0
  stdout : String := ""
  stderr : String := ""
  deriving DecidableEq, Repr

namespace Reply

/-- Lines of text. -/
def lines (texts : List String) : String := String.join (texts.map (· ++ "\n"))

/-- The reply to words that are no command. -/
def usage : Reply where
  status := 2
  stderr := lines ["Usage: sszgen [OPTIONS] COMMAND [ARGS]..."]

/-- The reply to a run that a failure has ended; none for failures that nobody foresees. -/
def ofFailure? : Failure → Option Reply
  | .reported d => some {
      status := if d.isConfig then 2 else 1
      stderr := lines (("error: " ++ d.text) :: d.parts.map fun part => "  - " ++ part.text) }
  | .syntaxError source =>
      some { status := 2, stderr := lines ["error: " ++ source.toString ++ ": syntax error"] }
  | _ => none

/-- The reply that names the modules made. -/
def ofModules (rehearsal : Bool) (p : Product) : Reply where
  stdout := lines (p.outputs.map fun o =>
    (if rehearsal then "would write " else "wrote ") ++ o.file.toString ++ " (" ++
      Text.join ", " o.records ++ ")")
  stderr := lines (p.errors.map fun d => "warning: skipped record: " ++ d.text)

/-- The reply that shows a schema. -/
def ofSchema (s : Schema) : Reply where
  stdout := lines [Datum.indented 0 s.toDatum]

/-- The reply that tells the version. -/
def ofVersion : Reply where
  stdout := lines ["sszgen " ++ Version.current]

end Reply

namespace Command

/-- The settings that a command asks for. -/
def asked (c : Command) : DataMap :=
  [("suffix", ((c.value? .suffix).map Datum.text).getD .null),
    ("fail_fast", (c.failFast?.map Datum.bool).getD .null)]

/-- The path that a command names. -/
def path (c : Command) : Path := Path.ofString ((c.value? .path).getD "")

/-- What a command asks a run for. -/
def request (c : Command) (settings : Settings) : Request where
  input := c.path.toString
  targets := ((c.value? .targets).map Selection.ofString).getD []
  output := (c.value? .output).map Path.ofString
  settings

/-- The run of a command, and what the program prints if it succeeds. -/
def run (here : Surroundings) (c : Command) : Run Reply := do
  if c.verb = .version then return .ofVersion
  else
    let settings ← Run.ofResult
      (Settings.load here.root (← get).files (some c.path) here.environment c.asked)
    let q := c.request settings
    if c.verb = .inspect then return .ofSchema (← Run.named here.runId (Run.build q)).schema
    else
      let rehearsal := c.has .rehearsal
      return .ofModules rehearsal (← Run.generate here.runId rehearsal q)

/-- What the log of a run shows of its events. -/
def logOf (here : Surroundings) (c : Command) (events : List Event) : String :=
  (Handler.configure here.environment c.jsonLog? ((c.value? .logLevel).map Level.ofText)
    here.terminal).written here.time events

/-- Performs a command on a file tree. A failure that nobody foresees is passed on. -/
def reply (here : Surroundings) (files : FileTree) (c : Command) :
    Except Failure Reply × FileTree :=
  let (result, s) := Run.perform { files } (c.run here)
  let told (r : Reply) : Reply := { r with stderr := c.logOf here s.events ++ r.stderr }
  match result with
  | .ok r => (.ok (told r), s.files)
  | .error failure =>
      match Reply.ofFailure? failure with
      | some r => (.ok (told r), s.files)
      | none => (.error failure, s.files)

/-- Performs what words tell the program to do. -/
def replyTo (here : Surroundings) (files : FileTree) (words : List String) :
    Except Failure Reply × FileTree :=
  match ofWords? words with
  | some c => c.reply here files
  | none => (.ok .usage, files)

end Command

end SszSchema
