import SszSchema.Source.Token

/-!
# Parsers over lexemes

A parser takes lexemes from the front of a list and may fail. An alternative (`<|>`) begins where
the failed one began. Repetitions are bounded by the number of all lexemes, of which each round
takes at least one.
-/

namespace SszSchema.Source

/-- Where a parser stands: the lexemes left, and a bound on the rounds of a repetition. -/
structure Cursor where
  lexemes : List Lexeme
  bound : Nat

/-- A parser. -/
abbrev Parse (α : Type) := StateT Cursor Option α

namespace Parse

/-- The next token; the end of the source if there is none. -/
def peek : Parse Token := do
  return ((← get).lexemes.head?.map (·.token)).getD .stop

/-- The line of the next token. -/
def line : Parse Nat := do
  return ((← get).lexemes.head?.map (·.line)).getD 0

/-- Takes the next token. -/
def take : Parse Token := do
  let cursor ← get
  match cursor.lexemes with
  | [] => failure
  | l :: rest =>
      set { cursor with lexemes := rest }
      return l.token

/-- Takes the given token. -/
def expect (t : Token) : Parse Unit := do
  if (← take) = t then return () else failure

/-- Takes an operator. -/
def op (symbol : String) : Parse Unit := expect (.op symbol)

/-- Takes a reserved word. -/
def keyword (word : String) : Parse Unit := expect (.keyword word)

/-- Takes a name. -/
def name : Parse String := do
  match ← take with
  | .name id => return id
  | _ => failure

/-- Whether the given token comes next. -/
def next (t : Token) : Parse Bool := do
  return (← peek) = t

/-- Whether the given token comes second. -/
def second (t : Token) : Parse Bool := do
  match (← get).lexemes with
  | _ :: l :: _ => return l.token = t
  | _ => return false

/-- Takes the given token if it comes next, and says whether it did. -/
def given (t : Token) : Parse Bool := do
  if ← next t then
    let _ ← take
    return true
  else return false

/-- Takes an operator if it comes next, and says whether it did. -/
def givenOp (symbol : String) : Parse Bool := given (.op symbol)

/-- Takes a reserved word if it comes next, and says whether it did. -/
def givenKeyword (word : String) : Parse Bool := given (.keyword word)

/-- What a parser reads, if it reads anything. -/
def optional (p : Parse α) : Parse (Option α) :=
  (do return some (← p)) <|> return none

/-- What a parser reads as long as it succeeds. -/
def many (p : Parse α) : Parse (List α) := do
  let rec loop : Nat → Parse (List α)
    | 0 => return []
    | fuel + 1 => do
        match ← optional p with
        | none => return []
        | some a => return a :: (← loop fuel)
  loop (← get).bound

/-- At least one of what a parser reads. -/
def many1 (p : Parse α) : Parse (List α) := do
  let a ← p
  return a :: (← many p)

/-- Items with commas between them; the second part tells whether a comma ends the list. -/
def commas (p : Parse α) : Parse (List α × Bool) := do
  let rec loop : Nat → Parse (List α × Bool)
    | 0 => return ([], false)
    | fuel + 1 => do
        if ← givenOp "," then
          match ← optional p with
          | none => return ([], true)
          | some a =>
              let (rest, ended) ← loop fuel
              return (a :: rest, ended)
        else return ([], false)
  let a ← p
  let (rest, ended) ← loop (← get).bound
  return (a :: rest, ended)

/-- The items after the first of a list with commas, which a comma may end. -/
def more (p : Parse α) : Parse (List α) := do
  if ← givenOp "," then
    match ← optional (commas p) with
    | none => return []
    | some (items, _) => return items
  else return []

/-- Items with a separator between them, which cannot end the list. -/
def separated (separator : Parse Unit) (p : Parse α) : Parse (List α) := do
  let a ← p
  return a :: (← many (do separator; p))

/-- Runs a parser on lexemes, and returns what it reads and what is left. -/
def run (p : Parse α) (lexemes : List Lexeme) : Option (α × List Lexeme) :=
  (StateT.run p ⟨lexemes, lexemes.length + 1⟩).map fun (a, cursor) => (a, cursor.lexemes)

end Parse

end SszSchema.Source
