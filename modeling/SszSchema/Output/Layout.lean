import SszSchema.Text.Blank

/-!
# Layout of generated modules

The normal form of a module's text: no line ends in white space, at most two blank lines stand in a
row and none at either end, and the last line is ended. `Layout.format` brings a text into normal
form and lets it pass if it is accepted, whatever accepts it.
-/

namespace SszSchema.Layout

/-- Keeps at most two blank lines in a row; `run` counts the blank lines just kept. -/
def squeeze : Nat → List (List Char) → List (List Char)
  | _, [] => []
  | run, [] :: rest => if run < 2 then [] :: squeeze (run + 1) rest else squeeze run rest
  | _, (c :: line) :: rest => (c :: line) :: squeeze 0 rest

/-- Drops blank lines at both ends. -/
def dropBlankEnds (lines : List (List Char)) : List (List Char) :=
  ((lines.dropWhile List.isEmpty).reverse.dropWhile List.isEmpty).reverse

/-- The lines of a text in normal form. -/
def normalLines (text : List Char) : List (List Char) :=
  dropBlankEnds (squeeze 0 ((Text.lines text).map (Text.dropEndWhile Text.isBlank)))

/-- A text in normal form. -/
def normalize (text : List Char) : List Char :=
  Text.joinWith ['\n'] (normalLines text) ++ ['\n']

/-- A text in normal form, if that is accepted. -/
def format (accepts : String → Bool) (text : String) : Option String :=
  let result := String.ofList (normalize text.toList)
  if accepts result then some result else none

end SszSchema.Layout
