import SszSchema.Source.Grammar.Pattern

/-!
# Grammar of statements

`parseModule` reads a whole module. A statement reads the statements of its blocks through a
`Block`, which `block` ties with fuel.
-/

namespace SszSchema.Source.Grammar

open Parse

/-! ## Simple statements -/

/-- The operators that assign a combination of target and value. -/
def augmenting : List String :=
  ["+=", "-=", "*=", "@=", "/=", "%=", "&=", "|=", "^=", "<<=", ">>=", "**=", "//="]

/-- The further parts of a chain of assignments; the last is the value. -/
def assignments (r : Inner) (targets : List Expr) : Nat → Expr → Parse Statement
  | 0, _ => failure
  | fuel + 1, e => do
      if ← givenOp "=" then
        if isStarTarget e then assignments r (targets ++ [e]) fuel (← value r) else failure
      else return .assign targets e

/-- An expression, or an assignment to it. -/
def expressionStatement (r : Inner) : Parse Statement := do
  let line ← line
  let e ← value r
  match ← peek with
  | .op ":" =>
      if isSingleTarget e then
        op ":"
        let hint ← r.expression
        let assigned ← if ← givenOp "=" then some <$> value r else pure none
        return .annotate e hint assigned line
      else failure
  | .op "=" => assignments r [] (← get).bound e
  | .op symbol =>
      if augmenting.contains symbol then
        op symbol
        if isSingleTarget e then return .augment e (← value r) else failure
      else return .expression e
  | _ => return .expression e

/-- A dotted name as its parts. -/
def dottedName : Parse (List String) := separated (op ".") name

/-- What follows `as`, if it is there. -/
def asName : Parse (Option String) := do
  if ← givenKeyword "as" then some <$> name else return none

/-- A module to import, and the name that it binds. -/
def importedModule : Parse String := do
  let parts ← dottedName
  return (← asName).getD (parts.headD "")

/-- A name to import from a module, and the name that it binds. -/
def importedName : Parse (String × String) := do
  let id ← name
  return (id, (← asName).getD id)

/-- The dots before the module that names come from. -/
def leadingDots : Parse Nat := do
  let dots ← many (do
    match ← take with
    | .op "." => return 1
    | .op "..." => return 3
    | _ => failure)
  return dots.foldl (· + ·) 0

/-- An import of names. -/
def importFrom : Parse Statement := do
  keyword "from"
  let level ← leadingDots
  let source ← if ← next (.keyword "import") then
      if level = 0 then failure else pure ""
    else (String.intercalate ".") <$> dottedName
  keyword "import"
  if ← givenOp "*" then return .importFrom level source none
  else if ← givenOp "(" then
    let (names, _) ← commas importedName
    op ")"
    return .importFrom level source (some names)
  else return .importFrom level source (some (← separated (op ",") importedName))

/-- The targets of a deletion. -/
def deletion (r : Inner) : Parse Statement := do
  keyword "del"
  let (items, _) ← commas (primary r (targets r (← get).bound))
  if areDeletable items then return .delete items else failure

/-- A statement that holds no block. -/
def simple (r : Inner) : Parse Statement := do
  match ← peek with
  | .keyword "return" =>
      keyword "return"
      return .ret (← Parse.optional (starExpressions r))
  | .keyword "import" =>
      keyword "import"
      return .imports (← separated (op ",") importedModule)
  | .keyword "from" => importFrom
  | .keyword "raise" =>
      keyword "raise"
      match ← Parse.optional r.expression with
      | none => return .raise none none
      | some e =>
          let cause ← if ← givenKeyword "from" then some <$> r.expression else pure none
          return .raise (some e) cause
  | .keyword "pass" =>
      keyword "pass"
      return .pass
  | .keyword "del" => deletion r
  | .keyword "assert" =>
      keyword "assert"
      let test ← r.expression
      let message ← if ← givenOp "," then some <$> r.expression else pure none
      return .assert test message
  | .keyword "break" =>
      keyword "break"
      return .break
  | .keyword "continue" =>
      keyword "continue"
      return .continue
  | .keyword "global" =>
      keyword "global"
      return .global (← separated (op ",") name)
  | .keyword "nonlocal" =>
      keyword "nonlocal"
      return .nonlocal (← separated (op ",") name)
  | _ => expressionStatement r

/-- The simple statements of a line. -/
def simpleLine (r : Inner) : Parse (List Statement) := do
  let first ← simple r
  let rest ← many (do op ";"; simple r)
  let _ ← givenOp ";"
  expect .newline
  return first :: rest

/-! ## Blocks -/

/-- Reads the statements after a colon. -/
abbrev Block := Parse (List Statement)

/-- A colon and a block. -/
def body (b : Block) : Parse (List Statement) := do
  op ":"
  b

/-- The block after `else`, if it is there. -/
def otherwise (b : Block) : Parse (List Statement) := do
  if ← givenKeyword "else" then body b else return []

/-- A branch after its first word. -/
def branch (r : Inner) (b : Block) : Nat → Parse Statement
  | 0 => failure
  | fuel + 1 => do
      let test ← named r
      let stmts ← body b
      if ← givenKeyword "elif" then return .branch test stmts [← branch r b fuel]
      else return .branch test stmts (← otherwise b)

/-- The targets of a loop. -/
def loopTargets (r : Inner) : Parse Expr := do
  let target := primary r (targets r (← get).bound)
  let e ← tupleOf (do if ← givenOp "*" then return .starred (← target) else target)
  if isStarTarget e then return e else failure

/-- A loop over items. -/
def forLoop (r : Inner) (b : Block) (isAsync : Bool) : Parse Statement := do
  keyword "for"
  let target ← loopTargets r
  keyword "in"
  let iterable ← starExpressions r
  let stmts ← body b
  return .forLoop isAsync target iterable stmts (← otherwise b)

/-- A context, and what it is bound to. -/
def context (r : Inner) : Parse (Expr × Option Expr) := do
  let e ← r.expression
  if ← givenKeyword "as" then
    let item := primary r (targets r (← get).bound)
    let target ← if ← givenOp "*" then Expr.starred <$> item else item
    if isStarTarget target then return (e, some target) else failure
  else return (e, none)

/-- A block within contexts. -/
def within (r : Inner) (b : Block) (isAsync : Bool) : Parse Statement := do
  keyword "with"
  let enclosed : Parse (List (Expr × Option Expr)) := do
    op "("
    let (items, _) ← commas (context r)
    op ")"
    op ":"
    return items
  let plain : Parse (List (Expr × Option Expr)) := do
    let items ← separated (op ",") (context r)
    op ":"
    return items
  let items ← enclosed <|> plain
  return .within isAsync items (← b)

/-- What is done with an error. -/
def handler (r : Inner) (b : Block) (isGroup : Bool) : Parse Handler := do
  keyword "except"
  if isGroup then op "*"
  if !isGroup && (← next (.op ":")) then return .mk none none (← body b)
  else
    let e ← r.expression
    let id ← asName
    return .mk (some e) id (← body b)

/-- A block whose errors are handled. -/
def attempt (r : Inner) (b : Block) : Parse Statement := do
  keyword "try"
  let stmts ← body b
  let isGroup := (← next (.keyword "except")) && (← second (.op "*"))
  let handlers ← many (handler r b isGroup)
  let rest ← if handlers.isEmpty then pure [] else otherwise b
  if ← givenKeyword "finally" then return .attempt isGroup stmts handlers rest (← body b)
  else if handlers.isEmpty then failure
  else return .attempt isGroup stmts handlers rest []

/-- A definition of a function. -/
def function (r : Inner) (b : Block) (isAsync : Bool) (decorators : List Expr) :
    Parse Statement := do
  keyword "def"
  let id ← name
  op "("
  let ps ← paramList r true
  op ")"
  let result ← if ← givenOp "->" then some <$> r.expression else pure none
  return .function isAsync id ps result decorators (← body b)

/-- A definition of a class. -/
def record (r : Inner) (b : Block) (decorators : List Expr) : Parse Statement := do
  let line ← line
  keyword "class"
  let id ← name
  let (args, keywords) ← if ← givenOp "(" then do
      let arguments ← arguments r
      op ")"
      pure arguments
    else pure ([], [])
  return .record id args keywords decorators (← body b) line

/-- A definition, with the decorators before it. -/
def definition (r : Inner) (b : Block) : Parse Statement := do
  let decorators ← many (do
    op "@"
    let e ← named r
    expect .newline
    return e)
  if ← next (.keyword "class") then record r b decorators
  else
    let isAsync ← givenKeyword "async"
    function r b isAsync decorators

/-- A selection by patterns. Its words are not reserved. -/
def select (r : Inner) (b : Block) : Parse Statement := do
  expect (.name "match")
  let subject ← tupleOf (starNamed r)
  if subject matches .starred _ then failure
  op ":"
  expect .newline
  expect .indent
  let cases ← many1 (do
    expect (.name "case")
    let p ← casePattern r (← get).bound
    let guard ← if ← givenKeyword "if" then some <$> named r else pure none
    return Case.mk p guard (← body b))
  expect .dedent
  return .select subject cases

/-- A statement that holds blocks. -/
def compound (r : Inner) (b : Block) : Parse Statement := do
  match ← peek with
  | .keyword "if" =>
      keyword "if"
      branch r b (← get).bound
  | .keyword "while" =>
      keyword "while"
      let test ← named r
      let stmts ← body b
      return .whileLoop test stmts (← otherwise b)
  | .keyword "for" => forLoop r b false
  | .keyword "with" => within r b false
  | .keyword "try" => attempt r b
  | .keyword "def" | .keyword "class" | .op "@" => definition r b
  | .keyword "async" =>
      if ← second (.keyword "def") then definition r b
      else
        keyword "async"
        if ← next (.keyword "for") then forLoop r b true else within r b true
  | .name "match" => select r b
  | _ => failure

/-- One statement, or the statements of one line. -/
def statement (r : Inner) (b : Block) : Parse (List Statement) :=
  (do return [← compound r b]) <|> simpleLine r

/-- Statements one after the other. -/
def statements (r : Inner) (b : Block) : Parse (List Statement) := do
  return (← many1 (statement r b)).flatten

/-- The block after a colon, with fuel. -/
def block (r : Inner) : Nat → Block
  | 0 => failure
  | fuel + 1 => do
      if ← given .newline then
        expect .indent
        let stmts ← statements r (block r fuel)
        expect .dedent
        return stmts
      else simpleLine r

end Grammar

open Grammar

/-- Reads a module from its lexemes. -/
def parseLexemes (lexemes : List Lexeme) : Option (List Statement) := do
  let fuel := Lexeme.extent lexemes + 2
  let r := Grammar.inner fuel
  let (stmts, rest) ← (Parse.optional (statements r (block r fuel))).run lexemes
  match rest with
  | [⟨.stop, _⟩] => return stmts.getD []
  | _ => none

/-- Reads a module. -/
def parseModule (source : String) : Option (List Statement) := do
  parseLexemes (← lex true source.toList)

/-- Reads a single expression. -/
def parseExpression (source : List Char) : Option Expr := do
  let lexemes ← lex false source
  let (e, rest) ← (tupleOf (Grammar.inner (source.length + 2)).expression).run lexemes
  match rest.filter fun l => l.token ≠ .newline with
  | [⟨.stop, _⟩] => return e
  | _ => none

end SszSchema.Source
