import SszSchema.Declaration.Reading
import SszSchema.Diagnostic

/-!
# Settings

What a run can be told besides its input. `Settings.validate` refuses settings under which modules
could not be written, and says which one is at fault.
-/

namespace SszSchema

/-- The settings of a run. -/
structure Settings where
  /-- What is added to the stem of a source to name its module. -/
  suffix : String := "_encoding.py"
  /-- Fields whose names begin with one of these are left out. -/
  reservedPrefixes : List String := defaultReservedPrefixes
  /-- Whether the first record that fails ends the run. -/
  failFast : Bool := true
  /-- The first line of every module. -/
  header : String := "# Code generated by sszgen. DO NOT EDIT."
  deriving DecidableEq, Repr

namespace Settings

/-- Refuses a setting. -/
def refuse (message : String) (data : DataMap := []) : Except Diagnostic Settings :=
  .error (.make .config message data)

/-- Passes settings on unless one of them is at fault. -/
def validate (s : Settings) : Except Diagnostic Settings :=
  if !Text.endsWith s.suffix moduleEnding || s.suffix = moduleEnding then
    refuse "suffix must end with '.py' and add something to the stem" [("suffix", .text s.suffix)]
  else if s.suffix.toList.contains '/' || s.suffix.toList.contains '\\' then
    refuse "suffix must not contain a path separator" [("suffix", .text s.suffix)]
  else if s.reservedPrefixes.contains "" then
    refuse "reserved prefixes must be non-empty"
  else if !Text.startsWith s.header "#" || s.header.toList.contains '\n' then
    refuse "header must be a single comment line" [("header", .text s.header)]
  else .ok s

end Settings

end SszSchema
