import SszSchema.Path

/-!
# Names and places of modules

Where the generated module of a source file goes, and the name that a module is imported by.
-/

namespace SszSchema

/-- The ending of module files. -/
def moduleEnding : String := ".py"

/-- The place of the module generated from a source: beside it, the suffix added to its stem. None
if the source has no name or the new name is none. -/
def outputPath? (source : Path) (suffix : String) : Option Path :=
  source.withName? (source.stem ++ suffix)

/-- The name that the module in a file is imported by. -/
def moduleName (file : Path) : String :=
  if Text.endsWith file.name moduleEnding then String.ofList (file.name.toList.dropLast.dropLast.dropLast)
  else file.stem

/-- Names that begin with a low line are private; all others are exported. -/
def isExported (name : String) : Bool :=
  match name.toList with
  | [] => false
  | c :: _ => c != '_'

end SszSchema
