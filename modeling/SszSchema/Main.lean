import SszSchema.Command.Reply
import SszSchema.Log.Moment
import Std.Time.DateTime.Timestamp

/-!
# The program

Reads the files below the working directory, performs the command that the arguments give, and
stores what the command has changed. Paths lead from the working directory.
-/

namespace SszSchema.Program

/-- The variables that the program listens to. -/
def listened : List String :=
  ["SSZGEN_SUFFIX", "SSZGEN_FAIL_FAST", "SSZGEN_RESERVED_PREFIXES", "SSZGEN_HEADER",
    "SSZGEN_LOG_LEVEL", "SSZGEN_LOG_FORMAT", "NO_COLOR"]

/-- The variables that are set. -/
def environment : IO Environment :=
  listened.filterMapM fun name => do return (← IO.getEnv name).map (name, ·)

/-- The entries below a place. -/
partial def entriesBelow (place : Place) : IO (List (Place × Entry)) := do
  let directory := place.foldl (fun path (name : String) => path / name) (← IO.currentDir)
  let mut entries := []
  for e in ← directory.readDir do
    let here := place ++ [e.fileName]
    if ← e.path.isDir then
      entries := entries ++ (here, Entry.directory) :: (← entriesBelow here)
    else
      let bytes ← IO.FS.readBinFile e.path
      entries := entries ++ [(here, .file (.ofBytes bytes.toList))]
  return entries

/-- Stores what has changed. -/
def store (before after : FileTree) : IO Unit := do
  let root ← IO.currentDir
  for (place, e) in after.entries do
    if before.at? place ≠ some e then
      let path := place.foldl (fun path (name : String) => path / name) root
      match e with
      | .directory => IO.FS.createDirAll path
      | .file (.text s) => IO.FS.writeFile path s
      | .file (.bytes bs _) => IO.FS.writeBinFile path ⟨bs.toArray⟩
  for (place, _) in before.entries do
    if (after.at? place).isNone then
      IO.FS.removeFile (place.foldl (fun path (name : String) => path / name) root)

/-- A name for a run. -/
def freshRunId : IO String :=
  return String.ofList (Text.hexPadded 12 (← IO.rand 0 0xFFFFFFFFFFFF))

/-- The present moment. -/
def now : IO String :=
  return Moment.text (← Std.Time.Timestamp.now).toMillisecondsSinceUnixEpoch.val.toNat

/-- Where and when the program runs. -/
def surroundings : IO Surroundings := do
  return {
    root := Path.ofString (← IO.currentDir).toString
    environment := ← environment
    terminal := ← (← IO.getStderr).isTty
    runId := ← freshRunId
    time := ← now }

end SszSchema.Program

open SszSchema in
/-- Performs the command that the arguments give. -/
def main (arguments : List String) : IO UInt32 := do
  let files : FileTree := ⟨← Program.entriesBelow []⟩
  let (result, after) := Command.replyTo (← Program.surroundings) files arguments
  Program.store files after
  match result with
  | .ok r =>
      IO.eprint r.stderr
      IO.print r.stdout
      return r.status.toUInt32
  | .error _ =>
      IO.eprintln "error: unexpected failure"
      return 1
