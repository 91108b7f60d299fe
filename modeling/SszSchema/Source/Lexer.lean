import SszSchema.Source.Literal
import SszSchema.Text.IdentifierChar
import SszSchema.Text.Compatibility
import SszSchema.Text.Printable

/-!
# Lexer

`lex` reads a source into lexemes. Lines are joined inside brackets and after a backslash; the
indentation of every other line that holds a token opens and closes blocks. A source that is not
read says nothing about where it failed.
-/

namespace SszSchema.Source

/-- The state of the lexer: the line, the open indentations (columns with tabs of eight and of one),
the open brackets, and the lexemes so far, last first. -/
structure Lexer where
  line : Nat := 1
  indents : List (Nat × Nat) := []
  brackets : List Char := []
  lexemes : List Lexeme := []

namespace Lexer

/-- The most brackets, and the most blocks, that can be open at a time. -/
def maxBrackets : Nat := 200
def maxIndents : Nat := 99

/-- Adds a token on the current line. -/
def add (l : Lexer) (t : Token) : Lexer := { l with lexemes := ⟨t, l.line⟩ :: l.lexemes }

/-- Carriage returns, alone or before a line feed, become line feeds. -/
def joinReturns : List Char → List Char
  | '\r' :: '\n' :: rest => '\n' :: joinReturns rest
  | '\r' :: rest => '\n' :: joinReturns rest
  | c :: rest => c :: joinReturns rest
  | [] => []

/-- The text with a line feed at its end. -/
def endLine (cs : List Char) : List Char :=
  match cs.getLast? with
  | none => ['\n']
  | some c => if c = '\n' then cs else cs ++ ['\n']

/-- The text after the line feed that a backslash joins, unless it ends there. -/
def joined? : List Char → Option (List Char)
  | '\n' :: [] => none
  | '\n' :: rest => some rest
  | _ => none

/-- The indentation that a line begins with. -/
structure Indent where
  column : Nat := 0
  narrow : Nat := 0
  /-- The column of the first of the lines that backslashes join. -/
  joinedAt : Nat := 0
  lines : Nat := 0

/-- Measures the indentation of a line, and returns the rest of the line. -/
def measure : Nat → Indent → List Char → Option (Indent × List Char)
  | 0, _, _ => none
  | fuel + 1, i, cs =>
      match cs with
      | ' ' :: rest => measure fuel { i with column := i.column + 1, narrow := i.narrow + 1 } rest
      | '\t' :: rest =>
          measure fuel { i with column := (i.column / 8 + 1) * 8, narrow := i.narrow + 1 } rest
      | '\x0c' :: rest => measure fuel { i with column := 0, narrow := 0 } rest
      | '\\' :: rest =>
          match joined? rest with
          | none => none
          | some rest =>
              let joinedAt := if i.joinedAt = 0 then i.column else i.joinedAt
              measure fuel { i with joinedAt, lines := i.lines + 1 } rest
      | _ => some (i, cs)

/-- Closes the blocks whose column lies right of the given one. -/
def close (l : Lexer) (column narrow : Nat) : List (Nat × Nat) → Option Lexer
  | [] => if column = 0 && narrow = 0 then some { l with indents := [] } else none
  | (c, n) :: rest =>
      if column < c then close (l.add .dedent) column narrow rest
      else if column = c && narrow = n then some { l with indents := (c, n) :: rest } else none

/-- Opens or closes blocks at the indentation of a line. -/
def indent (l : Lexer) (i : Indent) : Option Lexer :=
  let column := if i.joinedAt = 0 then i.column else i.joinedAt
  let narrow := if i.joinedAt = 0 then i.narrow else i.joinedAt
  let (c, n) := l.indents.headD (0, 0)
  if column = c then if narrow = n then some l else none
  else if c < column then
    if l.indents.length < maxIndents && n < narrow then
      some { l.add .indent with indents := (column, narrow) :: l.indents }
    else none
  else close l column narrow l.indents

/-- The body of a string literal up to its closing quote, the rest, and the number of lines begun
inside. -/
def stringBody (quote : Char) (long : Bool) (body : List Char) (lines : Nat) :
    List Char → Option (List Char × List Char × Nat)
  | [] => none
  | '\\' :: c :: rest =>
      stringBody quote long (c :: '\\' :: body) (if c = '\n' then lines + 1 else lines) rest
  | c :: rest =>
      if c = quote then
        if long then
          match rest with
          | a :: b :: rest' =>
              if a = quote && b = quote then some (body.reverse, rest', lines)
              else stringBody quote long (c :: body) lines rest
          | _ => none
        else some (body.reverse, rest, lines)
      else if c = '\n' then
        if long then stringBody quote long (c :: body) (lines + 1) rest else none
      else stringBody quote long (c :: body) lines rest

/-- Reads a string literal after its prefix and first quote. -/
def string (l : Lexer) (mark : List Char) (quote : Char) (cs : List Char) :
    Option (Lexer × List Char) := do
  let (long, cs) := match cs with
    | a :: b :: rest => if a = quote && b = quote then (true, rest) else (false, cs)
    | _ => (false, cs)
  let (body, rest, lines) ← stringBody quote long [] 0 cs
  let t ← Literal.stringToken mark body
  let l := l.add t
  return ({ l with line := l.line + lines }, rest)

/-- The token of a word. Letters past ASCII are allowed in names only, which are normalized. -/
def wordToken (w : List Char) : Option Token :=
  if w.all (·.toNat < 128) then
    let s := String.ofList w
    some (if keywords.contains s then .keyword s else .name s)
  else if Text.isIdentifier w then some (.name (String.ofList (Text.normalize w)))
  else none

/-- The operators of three, two and one characters. -/
def longOperators : List String := ["**=", "//=", ">>=", "<<=", "...", "!=", "->", "+=", "-=", "*=",
  "/=", "%=", "&=", "|=", "^=", "@=", "==", "<=", ">=", "<<", ">>", "**", "//", ":="]

/-- The operators of one character; brackets are apart. -/
def shortOperators : List Char :=
  [':', ',', ';', '+', '-', '*', '/', '|', '&', '<', '>', '=', '.', '%', '~', '^', '@']

/-- The closing bracket of an opening one. -/
def closing? (c : Char) : Option Char :=
  if c = '(' then some ')' else if c = '[' then some ']' else if c = '\x7b' then some '\x7d' else none

/-- Reads an operator or a bracket. -/
def operator (l : Lexer) (cs : List Char) : Option (Lexer × List Char) :=
  match longOperators.find? fun s => s.toList.isPrefixOf cs with
  | some s => some (l.add (.op s), cs.drop s.length)
  | none =>
      match cs with
      | [] => none
      | c :: rest =>
          match closing? c with
          | some _ =>
              if l.brackets.length < maxBrackets then
                some ({ l.add (.op (String.singleton c)) with brackets := c :: l.brackets }, rest)
              else none
          | none =>
              if shortOperators.contains c then some (l.add (.op (String.singleton c)), rest)
              else
                match l.brackets with
                | b :: brackets =>
                    if closing? b = some c then
                      some ({ l.add (.op (String.singleton c)) with brackets }, rest)
                    else none
                | [] => none

/-- Reads one token of the rest of a line. -/
def token (l : Lexer) (cs : List Char) : Option (Lexer × List Char) :=
  match cs with
  | [] => none
  | c :: rest =>
      if c = '"' || c = '\'' then string l [] c rest
      else if c.isDigit || (c = '.' && rest.head?.any Char.isDigit) then
        (Literal.readNumber cs).map fun (t, rest) => (l.add t, rest)
      else if Literal.isWordChar c then
        let w := cs.takeWhile Literal.isWordChar
        match cs.dropWhile Literal.isWordChar with
        | q :: rest =>
            if (q = '"' || q = '\'') && Literal.isMark w then string l w q rest
            else (wordToken w).map fun t => (l.add t, q :: rest)
        | [] => (wordToken w).map fun t => (l.add t, [])
      else operator l cs

/-- A blank inside a line. -/
def isGap (c : Char) : Bool := c = ' ' || c = '\t' || c.toNat = 12

/-- The rest of a line after blanks and a comment. -/
def skip (cs : List Char) : List Char :=
  match cs.dropWhile isGap with
  | '#' :: rest => rest.dropWhile (· ≠ '\n')
  | rest => rest

/-- Ends the source. -/
def finish (l : Lexer) : Option (List Lexeme) :=
  if l.brackets.isEmpty then some (l.add .stop).lexemes.reverse else none

/-- Reads the rest of a source. `fresh` at the beginning of a line; `blank` on a line that holds no
token yet and cannot open or close blocks. -/
def run : Nat → Lexer → Bool → Bool → List Char → Option (List Lexeme)
  | 0, _, _, _, _ => none
  | fuel + 1, l, true, _, cs => do
      let (i, rest) ← measure (cs.length + 1) {} cs
      let l := { l with line := l.line + i.lines }
      if rest.head? = some '#' || rest.head? = some '\n' then run fuel l false true rest
      else if l.brackets.isEmpty then run fuel (← l.indent i) false false rest
      else run fuel l false false rest
  | fuel + 1, l, false, blank, cs =>
      match skip cs with
      | [] => l.finish
      | '\n' :: rest =>
          let next (l : Lexer) : Lexer := { l with line := l.line + 1 }
          if blank || !l.brackets.isEmpty then run fuel (next l) true false rest
          else run fuel (next (l.add .newline)) true false rest
      | '\\' :: rest =>
          match joined? rest with
          | none => none
          | some rest => run fuel { l with line := l.line + 1 } false blank rest
      | rest =>
          match l.token rest with
          | none => none
          | some (l, rest) => run fuel l false blank rest

end Lexer

/-- Reads a source into lexemes; `whole` for the text of a module, whose last line need not be
ended. -/
def lex (whole : Bool) (cs : List Char) : Option (List Lexeme) :=
  let cs := Lexer.joinReturns cs
  let cs := if whole then Lexer.endLine cs else cs
  if cs.contains (Char.ofNat 0) then none
  else Lexer.run (2 * cs.length + 2) {} true false cs

end SszSchema.Source
