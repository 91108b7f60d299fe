import SszSchema.Text.Blank

/-!
# Selections

The records that a run is asked for: names divided by commas, each once, in the order given. The
empty selection stands for all records.
-/

namespace SszSchema.Selection

/-- The names of a list without white space, blank ones and repetitions left out. -/
def ofList (items : List String) : List String :=
  items.foldl (fun names item =>
    let name := Text.trim item
    if name = "" || names.contains name then names else names ++ [name]) []

/-- The names of a text divided by commas. -/
def ofString (s : String) : List String :=
  ofList ((Text.splitAt ',' s.toList).map String.ofList)

end SszSchema.Selection
