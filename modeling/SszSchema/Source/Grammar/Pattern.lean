import SszSchema.Source.Grammar.Expression
import SszSchema.Source.Statement

/-!
# Grammar of patterns

The patterns of a selection. `pattern` and `closed` nest through fuel.
-/

namespace SszSchema.Source.Grammar

open Parse

/-- A signed number. -/
def signedNumber : Parse Expr := do
  let negative ← givenOp "-"
  let e ← match ← take with
    | .int n => pure (Expr.constant (.int n))
    | .float x => pure (Expr.constant (.float x))
    | .imaginary x => pure (Expr.constant (.imaginary x))
    | _ => failure
  return if negative then .unary .minus e else e

/-- Whether a literal is an imaginary number. -/
def isImaginary : Expr → Bool
  | .constant (.imaginary _) => true
  | .unary _ (.constant (.imaginary _)) => true
  | _ => false

/-- A number, which may have a real and an imaginary part. -/
def numberPattern : Parse Expr := do
  let e ← signedNumber
  let isSum ← next (.op "+")
  if isSum || (← next (.op "-")) then
    let _ ← take
    if isImaginary e || (← next (.op "-")) then failure
    let part ← signedNumber
    if isImaginary part then return .binary (if isSum then .add else .sub) e part else failure
  else return e

/-- A literal, and whether it is a pattern that compares by identity. -/
def literalPattern (r : Inner) : Parse Expr := do
  match ← peek with
  | .int _ | .float _ | .imaginary _ | .op "-" => numberPattern
  | .text _ _ | .bytes _ | .format _ _ => strings r
  | .keyword "None" =>
      let _ ← take
      return .constant .none
  | .keyword "True" =>
      let _ ← take
      return .constant (.bool true)
  | .keyword "False" =>
      let _ ← take
      return .constant (.bool false)
  | _ => failure

/-- A dotted name. -/
def dotted : Parse Expr := do
  let id ← name
  let members ← many (do op "."; name)
  return members.foldl .member (.name id)

/-- A name that a pattern binds. -/
def target : Parse String := do
  let id ← name
  if id = "_" then failure else return id

/-- A key of a mapping pattern. -/
def mappingKey (r : Inner) : Parse Expr := do
  match ← peek with
  | .name _ =>
      match ← dotted with
      | .name _ => failure
      | e => return e
  | _ => literalPattern r

/-- An entry of a mapping pattern; the rest of the mapping has no key. -/
inductive MappingItem where
  | entry (key : Expr) (value : Pattern)
  | rest (name : String)

/-- Whether only the last entry takes the rest of a mapping. -/
def restIsLast : List MappingItem → Bool
  | [] => true
  | [_] => true
  | .rest _ :: _ => false
  | _ :: rest => restIsLast rest

/-- A mapping pattern from its entries. -/
def mappingOf (items : List MappingItem) : Option Pattern :=
  if restIsLast items then
    some (.mapping
      (items.filterMap fun
        | .entry key _ => some key
        | .rest _ => none)
      (items.filterMap fun
        | .entry _ value => some value
        | .rest _ => none)
      (items.findSome? fun
        | .rest id => some id
        | .entry _ _ => none))
  else none

/-- Whether no positional argument of a record pattern follows a named one. -/
def namedAreLast : List (Option String × Pattern) → Bool
  | [] => true
  | (none, _) :: rest => namedAreLast rest
  | (some _, _) :: rest => rest.all (·.1.isSome)

/-- A record pattern from its arguments. -/
def recordOf (callee : Expr) (args : List (Option String × Pattern)) : Option Pattern :=
  if namedAreLast args then
    some (.record callee ((args.filter (·.1.isNone)).map (·.2)) (args.filterMap (·.1))
      ((args.filter (·.1.isSome)).map (·.2)))
  else none

/-- An item of a sequence pattern. -/
def maybeStar (pattern : Parse Pattern) : Parse Pattern := do
  if ← givenOp "*" then
    let id ← name
    return .star (if id = "_" then none else some id)
  else pattern

/-- Patterns without brackets: one, or a sequence. -/
def openSequence (pattern : Parse Pattern) : Parse Pattern := do
  match ← commas (maybeStar pattern) with
  | ([.star _], false) => failure
  | ([p], false) => return p
  | (items, _) => return .sequence items

/-- A pattern without alternatives; `pattern` reads the nested ones. -/
def closed (r : Inner) (pattern : Parse Pattern) : Parse Pattern := do
  match ← peek with
  | .name _ =>
      match ← dotted with
      | .name id =>
          if ← next (.op "(") then callPattern (.name id)
          else if ← next (.op "=") then failure
          else if id = "_" then return .wildcard
          else return .capture id
      | e =>
          if ← next (.op "(") then callPattern e
          else if ← next (.op "=") then failure
          else return .value e
  | .op "(" =>
      op "("
      if ← givenOp ")" then return .sequence []
      else
        let p ← openSequence pattern
        op ")"
        return p
  | .op "[" =>
      op "["
      if ← givenOp "]" then return .sequence []
      else
        let (items, _) ← commas (maybeStar pattern)
        op "]"
        return .sequence items
  | .op "\x7b" =>
      op "\x7b"
      if ← givenOp "\x7d" then return .mapping [] [] none
      else
        let (items, _) ← commas mappingItem
        op "\x7d"
        (mappingOf items : Option Pattern)
  | _ => return .value (← literalPattern r)
where
  /-- An entry of a mapping pattern. -/
  mappingItem : Parse MappingItem := do
    if ← givenOp "**" then return .rest (← target)
    else
      let key ← mappingKey r
      op ":"
      return .entry key (← pattern)
  /-- The arguments of a record pattern. -/
  callPattern (callee : Expr) : Parse Pattern := do
    op "("
    if ← givenOp ")" then return .record callee [] [] []
    else
      let item : Parse (Option String × Pattern) := do
        if ← second (.op "=") then
          let id ← name
          op "="
          return (some id, ← pattern)
        else return (none, ← pattern)
      let (items, _) ← commas item
      op ")"
      (recordOf callee items : Option Pattern)

/-- A pattern, with fuel. -/
def pattern (r : Inner) : Nat → Parse Pattern
  | 0 => failure
  | fuel + 1 => do
      let options ← separated (op "|") (closed r fun s => pattern r fuel s)
      let p := match options with
        | [p] => p
        | options => .choice options
      if ← givenKeyword "as" then return .bind p (← target) else return p

/-- The patterns of a case. -/
def casePattern (r : Inner) (fuel : Nat) : Parse Pattern := openSequence (pattern r fuel)

end SszSchema.Source.Grammar
