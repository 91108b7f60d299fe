import SszSchema.Source.Expr
import SszSchema.Source.Literal

/-!
# Literals with replacement fields

The body of a literal is divided into texts and replacement fields between braces. The format of a
field may hold fields again, which hold none. How the expression of a field is read is a parameter.
-/

namespace SszSchema.Source.Formatted

/-- The white space that a field may consist of without holding an expression. -/
def isSpace (c : Char) : Bool := c = ' ' || c = '\t' || c = '\n' || c.toNat = 12

/-- A text up to a brace: the text, whether a doubled brace ended it, and the rest. A single closing
brace at the outermost level is refused. -/
def literal (raw outer : Bool) : Nat → List Char → Option (List Char × Bool × List Char)
  | 0, _ => none
  | _ + 1, [] => some ([], false, [])
  | fuel + 1, c :: rest =>
      let brace (c : Char) (rest : List Char) : Option (List Char × Bool × List Char) :=
        if outer && rest.head? = some c then some ([c], true, rest.drop 1)
        else if outer && c = '\x7d' then none
        else some ([], false, c :: rest)
      let plain (taken rest : List Char) : Option (List Char × Bool × List Char) :=
        (literal raw outer fuel rest).map fun (cs, doubled, rest) => (taken ++ cs, doubled, rest)
      if c = '\x7b' || c = '\x7d' then brace c rest
      else if c = '\\' && !raw then
        match rest with
        | [] => plain [c] []
        | 'N' :: '\x7b' :: rest =>
            let name := rest.takeWhile (· ≠ '\x7d')
            plain ([c, 'N', '\x7b'] ++ name ++ ['\x7d']) ((rest.dropWhile (· ≠ '\x7d')).drop 1)
        | d :: rest =>
            if d = '\x7b' || d = '\x7d' then
              (brace d rest).map fun (cs, doubled, rest) => (c :: cs, doubled, rest)
            else plain [c, d] rest
      else plain [c] rest

/-- Where the scan of a field's expression stands: inside a string with the given quote, or inside
brackets. -/
structure Place where
  quote : Option (Char × Bool) := none
  brackets : List Char := []

/-- Whether three of a character come first. -/
def isTriple (c : Char) : List Char → Bool
  | a :: b :: _ => a = c && b = c
  | _ => false

/-- The expression of a field and the rest, from the character that ends it on. -/
def expressionText : Nat → Place → List Char → Option (List Char × List Char)
  | 0, _, _ => none
  | _ + 1, _, [] => none
  | fuel + 1, place, c :: rest =>
      let go (taken : List Char) (place : Place) (rest : List Char) :=
        (expressionText fuel place rest).map fun (cs, rest) => (taken ++ cs, rest)
      if c = '\\' then none
      else
        match place.quote with
        | some (q, long) =>
            if c ≠ q then go [c] place rest
            else if !long then go [c] { place with quote := none } rest
            else if isTriple c rest then go [c, c, c] { place with quote := none } (rest.drop 2)
            else go [c] place rest
        | none =>
            if c = '\'' || c = '"' then
              if isTriple c rest then go [c, c, c] { place with quote := some (c, true) } (rest.drop 2)
              else go [c] { place with quote := some (c, false) } rest
            else if c = '[' || c = '\x7b' || c = '(' then
              go [c] { place with brackets := c :: place.brackets } rest
            else if c = '#' then none
            else if place.brackets.isEmpty && ['!', ':', '\x7d', '=', '>', '<'].contains c then
              match rest with
              | [] => if c = '>' || c = '<' then none else some ([], c :: rest)
              | d :: after =>
                  if d = '=' && ['!', '=', '<', '>'].contains c then go [c, d] place after
                  else if c = '>' || c = '<' then go [c] place rest
                  else some ([], c :: rest)
            else if c = ']' || c = '\x7d' || c = ')' then
              match place.brackets with
              | b :: brackets =>
                  if (b = '(' && c = ')') || (b = '[' && c = ']') || (b = '\x7b' && c = '\x7d') then
                    go [c] { place with brackets } rest
                  else none
              | [] => none
            else go [c] place rest

/-- Joins neighbouring texts, and drops empty ones. -/
def join : List Piece → List Piece
  | [] => []
  | .text a :: rest =>
      match join rest with
      | .text b :: rest => .text (a ++ b) :: rest
      | rest => if a.isEmpty then rest else .text a :: rest
  | p :: rest => p :: join rest

/-- The mark of a conversion, and the rest. -/
def conversion : List Char → Option (Option Char × List Char)
  | '!' :: c :: rest => if c = 's' || c = 'r' || c = 'a' then some (some c, rest) else none
  | '!' :: [] => none
  | cs => some (none, cs)

/-- The parts of a literal at a depth of nesting, and the rest from the closing brace of the
enclosing field on; `read` reads the expression of a field. -/
def pieces (read : List Char → Option Expr) (raw : Bool) :
    Nat → Nat → List Char → Option (List Piece × List Char)
  | 0, _, _ => none
  | fuel + 1, depth, cs => do
      let (text, doubled, rest) ← literal raw (depth = 0) (cs.length + 1) cs
      let text ← if raw then some text else Literal.unescape text.length text
      if doubled then
        let (more, rest) ← pieces read raw fuel depth rest
        return (.text text :: more, rest)
      else
        match rest with
        | '\x7b' :: inside =>
            if 2 ≤ depth then none
            else
              let (source, rest) ← expressionText (inside.length + 1) {} inside
              if source.all isSpace then none
              else
                let value ← read source
                let (shown, rest) := match rest with
                  | '=' :: after =>
                      let space := after.takeWhile fun c => c = ' ' || (9 ≤ c.toNat && c.toNat ≤ 13)
                      (some (source ++ '=' :: space), after.drop space.length)
                  | rest => (none, rest)
                let (mark, rest) ← conversion rest
                let (spec, rest) ← match rest with
                  | ':' :: after => do
                      let (spec, rest) ← pieces read raw fuel (depth + 1) after
                      some (some (join spec), rest)
                  | rest => some (none, rest)
                match rest with
                | '\x7d' :: rest =>
                    let mark := if shown.isSome && mark.isNone && spec.isNone then some 'r' else mark
                    let (more, rest) ← pieces read raw fuel depth rest
                    return (.text text :: .text (shown.getD []) :: .field value mark spec :: more, rest)
                | _ => none
        | rest => return ([.text text], rest)

/-- The parts of a literal's body. -/
def read (expression : List Char → Option Expr) (raw : Bool) (body : List Char) :
    Option (List Piece) := do
  let (parts, rest) ← pieces expression raw (body.length + 1) 0 body
  if rest.isEmpty then return parts else none

end SszSchema.Source.Formatted
