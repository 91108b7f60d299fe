import SszSchema.Path
import SszSchema.Text.Utf8

/-!
# File trees

The files and directories that a run works on, below one directory. Places are the names on the way
from that directory. Steps on a tree fail the way a file system fails them; what they did before
they failed remains.
-/

namespace SszSchema

/-- What a file holds: text, or bytes that are no text. -/
inductive Content where
  | text (s : String)
  | bytes (bs : List UInt8) (fault : Text.Utf8.Fault)
  deriving DecidableEq, Repr

namespace Content

/-- The content that bytes are. -/
def ofBytes (bs : List UInt8) : Content :=
  match Text.Utf8.decode bs with
  | .ok cs => .text (String.ofList cs)
  | .error fault => .bytes bs fault

end Content

/-- Something that a place holds. -/
inductive Entry where
  | file (content : Content)
  | directory
  deriving DecidableEq, Repr

/-- Why a step on files fails. -/
inductive FileFault where
  | notFound (path : Path)
  | exists (path : Path)
  | isDirectory (path : Path)
  | notDirectory (path : Path)
  | undecodable (fault : Text.Utf8.Fault)
  deriving DecidableEq, Repr

namespace FileFault

/-- What a fault is called, and what it says. -/
def describe : FileFault → String × String
  | .notFound p => ("FileNotFoundError",
      "[Errno 2] No such file or directory: " ++ Text.quoted p.toString)
  | .exists p => ("FileExistsError", "[Errno 17] File exists: " ++ Text.quoted p.toString)
  | .notDirectory p => ("NotADirectoryError",
      "[Errno 20] Not a directory: " ++ Text.quoted p.toString)
  | .isDirectory p => ("IsADirectoryError", "[Errno 21] Is a directory: " ++ Text.quoted p.toString)
  | .undecodable fault => ("UnicodeDecodeError", fault.text)

/-- The name of a fault. -/
def label (f : FileFault) : String := f.describe.1

/-- What a fault says. -/
def text (f : FileFault) : String := f.describe.2

/-- The path that a fault is about. -/
def path? : FileFault → Option Path
  | .notFound p | .exists p | .isDirectory p | .notDirectory p => some p
  | .undecodable _ => none

end FileFault

/-- The names on the way to a place. -/
abbrev Place := List String

/-- Files and directories by place. The top is a directory and not listed. -/
structure FileTree where
  entries : List (Place × Entry) := []
  deriving DecidableEq, Repr

namespace FileTree

/-- What a place holds. -/
def at? (t : FileTree) (place : Place) : Option Entry :=
  if place.isEmpty then some .directory
  else (t.entries.find? (·.1 == place)).map (·.2)

/-- Puts something at a place. -/
def put (t : FileTree) (place : Place) (e : Entry) : FileTree :=
  if (t.at? place).isSome then
    ⟨t.entries.map fun old => if old.1 == place then (place, e) else old⟩
  else ⟨t.entries ++ [(place, e)]⟩

/-- Empties a place. -/
def erase (t : FileTree) (place : Place) : FileTree := ⟨t.entries.filter (·.1 != place)⟩

/-- Follows names from a place. Every name but the last must lead to a directory. -/
def walk (t : FileTree) (place : Place) : List String → Option Place
  | [] => some place
  | name :: rest =>
      if t.at? place ≠ some .directory then none
      else if name = ".." then
        if place.isEmpty then none else walk t place.dropLast rest
      else walk t (place ++ [name]) rest

/-- The place of a path; none if the way there is blocked or leads out of the tree. -/
def find? (t : FileTree) (p : Path) : Option Place :=
  if p.root = "" then t.walk [] p.parts else none

/-- What a path leads to. -/
def get? (t : FileTree) (p : Path) : Option Entry := (t.find? p).bind t.at?

/-- Whether there is something at a path. -/
def contains (t : FileTree) (p : Path) : Bool := (t.get? p).isSome

/-- Whether a path leads to a directory. -/
def isDirectory (t : FileTree) (p : Path) : Bool := t.get? p = some .directory

/-- Whether there is a file at a place. -/
def isFileAt (t : FileTree) (place : Place) : Bool :=
  match t.at? place with
  | some (.file _) => true
  | _ => false

/-- The names in the directory at a place. -/
def namesAt (t : FileTree) (place : Place) : List String :=
  t.entries.filterMap fun e => if e.1.dropLast == place then e.1.getLast? else none

/-- Line ends of other systems as line feeds. -/
def plainLineEnds : List Char → List Char
  | '\r' :: '\n' :: rest => '\n' :: plainLineEnds rest
  | '\r' :: rest => '\n' :: plainLineEnds rest
  | c :: rest => c :: plainLineEnds rest
  | [] => []

/-- The text of a file as it stands there. -/
def readRaw (t : FileTree) (p : Path) : Except FileFault String :=
  match t.get? p with
  | none => .error (.notFound p)
  | some .directory => .error (.isDirectory p)
  | some (.file (.bytes _ fault)) => .error (.undecodable fault)
  | some (.file (.text s)) => .ok s

/-- The text of a file with plain line ends. -/
def read (t : FileTree) (p : Path) : Except FileFault String :=
  (t.readRaw p).map fun s => String.ofList (plainLineEnds s.toList)

/-- Makes the directories on the way from a place, as far as they are missing. -/
def makeDirectories (t : FileTree) (place : Place) :
    List String → Except FileFault Place × FileTree
  | [] => (.ok place, t)
  | name :: rest =>
      if name = ".." then
        if place.isEmpty then (.error (.notFound ⟨"", [name]⟩), t)
        else makeDirectories t place.dropLast rest
      else
        let next := place ++ [name]
        match t.at? next with
        | some .directory => makeDirectories t next rest
        | some (.file _) =>
            (.error (if rest.isEmpty then .exists ⟨"", next⟩ else .notDirectory ⟨"", next⟩), t)
        | none => makeDirectories (t.put next .directory) next rest

/-- Makes a directory and those above it, and returns its place. -/
def makeDirectory (t : FileTree) (p : Path) : Except FileFault Place × FileTree :=
  if p.root = "" then t.makeDirectories [] p.parts else (.error (.notFound p), t)

/-! ## Writing -/

/-- A name made from the name of a file that is not reserved and that no entry of a directory has;
the fuel is the number of names to try. -/
def freshName (t : FileTree) (reserved : List String) (directory : Place) (name : String) :
    Nat → String
  | 0 => "." ++ name ++ ".0.tmp"
  | n + 1 =>
      let candidate := "." ++ name ++ "." ++ toString (n + 1) ++ ".tmp"
      if reserved.contains candidate || (t.at? (directory ++ [candidate])).isSome then
        freshName t reserved directory name n
      else candidate

/-- A file that waits under a temporary name for its place. -/
structure Staged where
  temporary : Place
  directory : Place
  name : String
  path : Path
  deriving DecidableEq, Repr

/-- Writes texts under temporary names beside their places; reserved names are not used. -/
def stage (reserved : List String) (t : FileTree) :
    List (Path × String) → Except FileFault Unit × List Staged × FileTree
  | [] => (.ok (), [], t)
  | (path, text) :: rest =>
      match t.makeDirectory path.parent with
      | (.error fault, t) => (.error fault, [], t)
      | (.ok directory, t) =>
          let tries := t.entries.length + reserved.length
          let temporary := directory ++ [t.freshName reserved directory path.name tries]
          let (result, staged, t) := stage reserved (t.put temporary (.file (.text text))) rest
          (result, ⟨temporary, directory, path.name, path⟩ :: staged, t)

/-- Moves a staged file to its place. -/
def moveStaged (t : FileTree) (s : Staged) : Except FileFault FileTree :=
  match t.at? s.temporary with
  | none => .error (.notFound ⟨"", s.temporary⟩)
  | some e =>
      if s.name = "" || s.name = ".." then .error (.isDirectory s.path)
      else
        let place := s.directory ++ [s.name]
        if t.at? place = some .directory then .error (.isDirectory s.path)
        else .ok ((t.erase s.temporary).put place e)

/-- Moves staged files to their places, one after the other. -/
def moveAll (t : FileTree) : List Staged → Except FileFault Unit × FileTree
  | [] => (.ok (), t)
  | s :: rest =>
      match t.moveStaged s with
      | .error fault => (.error fault, t)
      | .ok t => moveAll t rest

/-- Writes files: all are staged before the first one is moved to its place. Temporary files do not
remain. -/
def writeAll (t : FileTree) (files : List (Path × String)) : Except FileFault Unit × FileTree :=
  let (result, staged, t) := t.stage (files.map (·.1.name)) files
  let (result, t) := match result with
    | .ok _ => t.moveAll staged
    | .error fault => (.error fault, t)
  (result, staged.foldl (fun t s => t.erase s.temporary) t)

end FileTree

end SszSchema
