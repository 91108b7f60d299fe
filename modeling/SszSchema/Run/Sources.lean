import SszSchema.Declaration.Reading
import SszSchema.Run
import SszSchema.Settings

/-!
# Sources of a run

The source files of a run are one file, or those of one directory that no earlier run has generated,
in the order of their names. A file beside the mark of a package is part of that package.
-/

namespace SszSchema

/-- The file that marks a directory as a package. -/
def packageMark : String := "__init__.py"

namespace FileTree

/-- Whether a name in a directory is that of a source that no run has generated. -/
def isSourceName (suffix name : String) : Bool :=
  Text.endsWith name moduleEnding && !Text.endsWith name suffix

/-- The source files at a path. -/
def sources (t : FileTree) (input : Path) (suffix : String) : Except FileFault (List Path) :=
  match t.find? input with
  | none => .error (.notFound input)
  | some place =>
      match t.at? place with
      | none => .error (.notFound input)
      | some (.file _) => .ok [input]
      | some .directory =>
          .ok ((((t.namesAt place).filter (isSourceName suffix)).mergeSort fun a b => a ≤ b).map
            input.child)

/-- Reads the unit of a source file. -/
def readUnit (t : FileTree) (reserved : List String) (file : Path) : Except Failure SourceUnit := do
  let text ← (t.read file).mapError .file
  match SourceUnit.ofSource? text file reserved (t.contains (file.parent.child packageMark)) with
  | some u => .ok u
  | none => .error (.syntaxError file)

end FileTree

namespace Run

/-- Reads the units of source files. -/
def readUnits (reserved : List String) : List Path → Run (List SourceUnit)
  | [] => return []
  | file :: rest => do
      let u ← ofResult ((← get).files.readUnit reserved file)
      tell "sszgen.scanner" Level.debug "scanned unit"
        [("unit", .text file.toString), ("records", .list (u.names.map .text))]
      return u :: (← readUnits reserved rest)

/-- Reads the units at a path. -/
def scan (input : Path) (suffix : String) (reserved : List String) : Run (List SourceUnit) := do
  let files ← ofResult (((← get).files.sources input suffix).mapError .file)
  readUnits reserved files

/-- What a caller is told about an input that cannot be read. -/
def inputFault (input : String) : FileFault → Diagnostic
  | .notFound _ => .make .config "input path does not exist" [("path", .text input)]
  | fault => .wrap ⟨fault.label, [fault.text]⟩ .config [("path", .text input)]

/-- Reads the units of an input. -/
def load (input : String) (settings : Settings) : Run (List SourceUnit) :=
  tryCatch (scan (Path.ofString input) settings.suffix settings.reservedPrefixes) fun
    | .file fault => throw (.reported (inputFault input fault))
    | failure => throw failure

end Run

end SszSchema
