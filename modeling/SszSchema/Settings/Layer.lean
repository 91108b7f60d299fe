import SszSchema.Graph
import SszSchema.Log.Handler
import SszSchema.Settings
import SszSchema.Toml.Document

/-!
# Layers of settings

Settings come in layers, each over the one before: the defaults, the nearest project file, the
environment, and what the caller asks for. `Settings.load` stacks them and validates the result, so
a bad value in a lower layer does no harm if a higher one replaces it, unless it has the wrong type.
-/

namespace SszSchema

/-- The settings that a layer has. -/
structure SettingsLayer where
  suffix : Option String := none
  reservedPrefixes : Option (List String) := none
  failFast : Option Bool := none
  header : Option String := none
  deriving DecidableEq, Repr

/-- Puts a layer over settings. -/
def Settings.under (s : Settings) (l : SettingsLayer) : Settings where
  suffix := l.suffix.getD s.suffix
  reservedPrefixes := l.reservedPrefixes.getD s.reservedPrefixes
  failFast := l.failFast.getD s.failFast
  header := l.header.getD s.header

namespace SettingsLayer

/-- Refuses a layer. -/
def refuse (message : String) (data : DataMap := []) : Except Diagnostic α :=
  .error (.make .config message data)

/-- The parts of a text between commas, without blanks around them and without empty ones. -/
def parts (s : String) : List String :=
  ((Text.splitAt ',' s.toList).map fun part => Text.trim (String.ofList part)).filter (· ≠ "")

/-! ## The project file -/

/-- The name of project files. -/
def projectFileName : String := "pyproject.toml"

/-- The text that a value is. -/
def text? : Toml.Value → Option String
  | .text s => some s
  | _ => none

/-- Adds an entry of a project file to a layer. -/
def addEntry (file : String) (l : SettingsLayer) (key : String) (v : Toml.Value) :
    Except Diagnostic SettingsLayer :=
  let place : DataMap := [("path", .text file)]
  match key, v with
  | "suffix", .text s => .ok { l with suffix := some s }
  | "header", .text s => .ok { l with header := some s }
  | "fail-fast", .bool b => .ok { l with failFast := some b }
  | "reserved-prefixes", .text s => .ok { l with reservedPrefixes := some (parts s) }
  | "reserved-prefixes", .array items =>
      match items.mapM text? with
      | some prefixes => .ok { l with reservedPrefixes := some prefixes }
      | none => refuse "reserved-prefixes must be a list of strings" place
  | "reserved-prefixes", _ => refuse "reserved-prefixes must be a list of strings" place
  | "fail-fast", _ => refuse "fail-fast must be a boolean" place
  | "suffix", _ => refuse "suffix must be a string" place
  | "header", _ => refuse "header must be a string" place
  | key, _ => refuse ("unknown [tool.sszgen] key " ++ Text.quoted key) place

/-- The layer of a program's own table. -/
def ofEntries (file : String) (entries : Toml.Table) : Except Diagnostic SettingsLayer :=
  entries.foldlM (fun l e => addEntry file l e.1 e.2) {}

/-- A table below another one; a missing one is empty. -/
def tableUnder (t : Toml.Table) (name : String) : Except Failure Toml.Table :=
  match Toml.Table.get? t name with
  | none => .ok []
  | some (.table sub) => .ok sub
  | some _ => .error .noTable

/-- The layer of a project file. -/
def ofProject (file text : String) : Except Failure SettingsLayer := do
  match Toml.parse text with
  | .error .digitLimit => .error .digitLimit
  | .error .invalid =>
      .error (.reported (.make .config "invalid TOML: not a document" [("path", .text file)]))
  | .ok document => do
      let own ← tableUnder (← tableUnder document "tool") "sszgen"
      (ofEntries file own).mapError .reported

/-- The nearest project file in a directory or above it; the list holds the names on the way to the
directory, the last first. -/
def nearest? (files : FileTree) : List String → Option Place
  | [] => if files.isFileAt [projectFileName] then some [projectFileName] else none
  | name :: above =>
      let file := (name :: above).reverse ++ [projectFileName]
      if files.isFileAt file then some file else nearest? files above

/-- The project file for a path. -/
def projectFile? (files : FileTree) (start : Path) : Option Place :=
  let l := start.location
  if l.absolute || l.climb ≠ 0 then none
  else nearest? files (if files.isFileAt l.parts then l.parts.dropLast else l.parts).reverse

/-! ## The environment and the caller -/

/-- The truth value that a variable's value names. -/
def flag (name value : String) : Except Diagnostic Bool :=
  let word := Environment.word value
  if ["1", "true", "yes", "on"].contains word then .ok true
  else if ["0", "false", "no", "off"].contains word then .ok false
  else refuse ("Invalid boolean for " ++ name ++ ": " ++ Text.quoted value) [("key", .text name)]

/-- The layer of an environment. Blank variables do not count. -/
def ofEnvironment (env : Environment) : Except Diagnostic SettingsLayer := do
  let failFast ← (env.given? "SSZGEN_FAIL_FAST").mapM (flag "SSZGEN_FAIL_FAST")
  return {
    suffix := (env.given? "SSZGEN_SUFFIX").map Text.trim
    failFast
    reservedPrefixes := (env.given? "SSZGEN_RESERVED_PREFIXES").map parts
    header := env.given? "SSZGEN_HEADER" }

/-- The names of settings. -/
def names : List String := ["suffix", "reserved_prefixes", "fail_fast", "header"]

/-- The value of a name that is asked for. -/
def asked? (entries : DataMap) (name : String) : Option Datum := DataMap.get? entries name

/-- The text that a datum is. -/
def datumText? : Datum → Option String
  | .text s => some s
  | _ => none

/-- The layer of what the caller asks for, by name. Names without a value are checked too. -/
def ofAsked (entries : DataMap) : Except Diagnostic SettingsLayer :=
  let unknown := (entries.map (·.1)).filter fun name => !names.contains name
  if unknown.isEmpty then .ok {
    suffix := (asked? entries "suffix").bind datumText?
    reservedPrefixes := match asked? entries "reserved_prefixes" with
      | some (.list items) => some (items.filterMap datumText?)
      | _ => none
    failFast := match asked? entries "fail_fast" with
      | some (.bool b) => some b
      | _ => none
    header := (asked? entries "header").bind datumText? }
  else refuse ("unknown config keys: " ++
    Text.quotedList (unknown.mergeSort fun a b => a ≤ b))

end SettingsLayer

namespace Settings

/-- The layer of the project file for a path, if there is one. -/
def projectLayer (root : Path) (files : FileTree) (start : Path) : Except Failure SettingsLayer :=
  match SettingsLayer.projectFile? files start with
  | none => .ok {}
  | some place =>
      match files.readRaw ⟨"", place⟩ with
      | .error fault => .error (.file fault)
      | .ok text =>
          SettingsLayer.ofProject ({ root with parts := root.parts ++ place } : Path).toString text

/-- Loads settings. The search for a project file begins at `start`, if there is one; `root` is
where the files stand. -/
def load (root : Path) (files : FileTree) (start : Option Path) (env : Environment)
    (asked : DataMap) : Except Failure Settings := do
  let project ← match start with
    | some start => projectLayer root files start
    | none => pure {}
  let environment ← (SettingsLayer.ofEnvironment env).mapError .reported
  let asked ← (SettingsLayer.ofAsked asked).mapError .reported
  ((((({} : Settings).under project).under environment).under asked).validate).mapError .reported

end Settings

end SszSchema
