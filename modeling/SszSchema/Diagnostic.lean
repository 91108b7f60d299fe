import SszSchema.Datum

/-!
# Diagnostics

A diagnostic says what went wrong in a run: its kind, a message for people, and data for
programs. On the way out of nested work it is enriched with context; a name that already has a
value keeps it (`Diagnostic.withContext`), so the place nearest to the fault wins.
-/

namespace SszSchema

/-- The domains of failure of a run. -/
inductive DiagnosticKind where
  | internal
  | config
  | annotationMissing
  | annotationMalformed
  | unsupportedShape
  | unknownRecord
  | infiniteSize
  | noOutput
  | batch
  | generation
  | format
  | write
  deriving DecidableEq, Repr, Inhabited

namespace DiagnosticKind

/-- The code that programs recognise a kind by. -/
def code : DiagnosticKind → String
  | .internal => "SSZGEN/INTERNAL"
  | .config => "SSZGEN/CONFIG"
  | .annotationMissing => "SSZGEN/ANNOTATION_MISSING"
  | .annotationMalformed => "SSZGEN/ANNOTATION_MALFORMED"
  | .unsupportedShape => "SSZGEN/UNSUPPORTED_SHAPE"
  | .unknownRecord => "SSZGEN/UNKNOWN_RECORD"
  | .infiniteSize => "SSZGEN/INFINITE_SIZE"
  | .noOutput => "SSZGEN/NO_OUTPUT"
  | .batch => "SSZGEN/BATCH"
  | .generation => "SSZGEN/GENERATION"
  | .format => "SSZGEN/FORMAT"
  | .write => "SSZGEN/IO"

/-- The kinds that whoever calls the program can mend. -/
def isConfig : DiagnosticKind → Bool
  | .internal | .generation | .format | .write => false
  | _ => true

/-- The kinds that arise while modules are generated. -/
def isGeneration : DiagnosticKind → Bool
  | .generation | .format => true
  | _ => false

/-- What a diagnostic of a kind says when nothing better is known. -/
def defaultMessage : DiagnosticKind → String
  | .internal => "internal error"
  | .noOutput => "no files to generate"
  | .generation => "code generation failed"
  | .format => "generated source failed to format"
  | .write => "failed to write output"
  | _ => "invalid configuration"

end DiagnosticKind

/-- A failure from outside the program: what it is called and what it was given. -/
structure Cause where
  label : String
  arguments : List String
  deriving DecidableEq, Repr

namespace Cause

/-- What a failure says: its only argument, or all of them in parentheses. A missing key is quoted,
and a failure of the system with two arguments begins with its number. -/
def text (c : Cause) : String :=
  match c.arguments with
  | [] => ""
  | [a] => if c.label = "KeyError" then Text.quoted a else a
  | [a, b] =>
      if c.label = "OSError" || c.label = "FileNotFoundError" || c.label = "PermissionError" ||
          c.label = "IsADirectoryError" || c.label = "NotADirectoryError" ||
          c.label = "FileExistsError" then "[Errno " ++ a ++ "] " ++ b
      else "(" ++ Text.quoted a ++ ", " ++ Text.quoted b ++ ")"
  | args => "(" ++ Text.join ", " (args.map Text.quoted) ++ ")"

end Cause

/-- What went wrong, where, and why. A batch also keeps its `parts`. -/
structure Diagnostic where
  kind : DiagnosticKind
  message : String
  data : DataMap := []
  cause : Option Cause := none
  parts : List Diagnostic := []
  deriving Repr, Inhabited

namespace Diagnostic

/-- A diagnostic of a kind with its data; names without a value are left out. -/
def make (kind : DiagnosticKind) (message : String) (data : DataMap := []) : Diagnostic :=
  { kind, message, data := data.given }

/-- Whether the caller can mend it. -/
def isConfig (d : Diagnostic) : Bool := d.kind.isConfig

/-- Adds context; a name that has a value keeps it. -/
def withContext (d : Diagnostic) (context : DataMap) : Diagnostic :=
  { d with data := context.given.foldl (fun data e => data.attach e.1 e.2) d.data }

/-- Names the failure behind a diagnostic. -/
def withCause (d : Diagnostic) (cause : Cause) : Diagnostic := { d with cause := some cause }

/-- The path and line of the fault, as far as they are known. -/
def location (d : Diagnostic) : String :=
  let path := (d.data.get? "path").getD .null
  let line := (d.data.get? "line").getD .null
  if !path.isGiven then ""
  else if line.isGiven then path.display ++ ":" ++ line.display
  else path.display

/-- A value cut to 96 characters. -/
def preview (d : Datum) : String :=
  let cs := d.display.toList
  if cs.length ≤ 96 then d.display else String.ofList (cs.take 96 ++ ['…'])

/-- Code, message and data on one line. -/
def text (d : Diagnostic) : String :=
  let head := d.kind.code ++ ": " ++ d.message
  if d.data.isEmpty then head
  else head ++ " [" ++ Text.join ", " (d.data.map fun e => e.1 ++ "=" ++ preview e.2) ++ "]"

/-- Code, message and data as a value. -/
def toDatum (d : Diagnostic) : Datum :=
  .map [("code", .text d.kind.code), ("message", .text d.message), ("data", .map d.data)]

/-- As `toDatum`, with the failure behind it. -/
def toDatumWithCause (d : Diagnostic) : Datum :=
  .map ([("code", .text d.kind.code), ("message", .text d.message), ("data", .map d.data)] ++
    match d.cause with
    | some c => [("cause", .map [("type", .text c.label), ("message", .text c.text)])]
    | none => [])

/-- A name that no declaration carries. -/
def unknownRecord (name : String) (data : DataMap := []) : Diagnostic :=
  make .unknownRecord ("unknown record type " ++ Text.quoted name) (("record_ref", .text name) :: data)

/-- A record that contains itself; `cycle` lists the records on the way round. -/
def infiniteSize (cycle : List String) (data : DataMap := []) : Diagnostic :=
  make .infiniteSize "record references itself without passing through a list"
    (("cycle", .text (Text.join " -> " cycle)) :: data)

/-- Several failures of one run. -/
def batch (parts : List Diagnostic) : Diagnostic :=
  { make .batch (toString parts.length ++ " record(s) failed to resolve")
      [("errors", .list (parts.map toDatum))] with parts }

/-- A diagnostic of a kind for a failure from outside; a failure that says nothing is named. -/
def wrap (cause : Cause) (kind : DiagnosticKind := .internal) (context : DataMap := []) :
    Diagnostic :=
  let message := if cause.text = "" then cause.label else cause.text
  withCause
    (match kind with
      | .unknownRecord => unknownRecord message context
      | .infiniteSize => infiniteSize (message.toList.map (String.ofList [·])) context
      | kind => make kind message context) cause

end Diagnostic

end SszSchema
