import SszSchema.Text.Shortest

/-!
# Tokens of declaration modules

Record declarations are written in Python. A source is read as a list of `Lexeme`s: tokens with
the line they stand on, where `indent` and `dedent` enclose the lines of a block.
-/

namespace SszSchema.Source

/-- A token. Words that the grammar reserves are `keyword`s; all other words are `name`s. -/
inductive Token where
  | name (id : String)
  | keyword (word : String)
  | int (value : Nat)
  | float (value : Text.Decimal)
  | imaginary (value : Text.Decimal)
  /-- A string literal; `marked` if it has the prefix `u`. -/
  | text (value : List Char) (marked : Bool)
  | bytes (value : List UInt8)
  /-- A literal with replacement fields; `raw` if backslashes stand for themselves. -/
  | format (raw : Bool) (body : List Char)
  | op (symbol : String)
  | newline
  | indent
  | dedent
  | stop
  deriving DecidableEq, Repr

/-- A token and its line, counted from 1. -/
structure Lexeme where
  token : Token
  line : Nat
  deriving Repr

namespace Lexeme

/-- How many levels a lexeme can add to what is read: one, and more in the fields of a literal. -/
def levels (l : Lexeme) : Nat :=
  match l.token with
  | .format _ body => body.length + 1
  | _ => 1

/-- How deep what is read from lexemes can be nested. -/
def extent (lexemes : List Lexeme) : Nat := lexemes.foldl (fun n l => n + l.levels) 0

end Lexeme

/-- The words that the grammar reserves. -/
def keywords : List String :=
  ["False", "None", "True", "and", "as", "assert", "async", "await", "break", "class",
    "continue", "def", "del", "elif", "else", "except", "finally", "for", "from", "global", "if",
    "import", "in", "is", "lambda", "nonlocal", "not", "or", "pass", "raise", "return", "try",
    "while", "with", "yield"]

end SszSchema.Source
