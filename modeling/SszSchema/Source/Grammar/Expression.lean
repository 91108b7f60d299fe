import SszSchema.Source.Grammar.Formatted
import SszSchema.Source.Lexer
import SszSchema.Source.Parse

/-!
# Grammar of expressions

One function for each level of the grammar, from `expression` down to `atom`. Where a level needs a
whole expression inside brackets or after an operator it asks its `Inner` for it; `inner` ties the
knot with fuel, of which every turn takes one, and a turn takes at least one character.
-/

namespace SszSchema.Source

/-- The levels that other levels nest. -/
structure Inner where
  expression : Parse Expr
  disjunction : Parse Expr
  bitOr : Parse Expr
  factor : Parse Expr
  /-- Reads the expression of a replacement field. -/
  field : List Char → Option Expr

namespace Grammar

open Parse

/-! ## Lists and their items -/

/-- An expression to which a name may be given. -/
def named (r : Inner) : Parse Expr := do
  if ← second (.op ":=") then
    let target ← name
    op ":="
    return .assign target (← r.expression)
  else r.expression

/-- An item of a list that may stand without brackets. -/
def starItem (r : Inner) : Parse Expr := do
  if ← givenOp "*" then return .starred (← r.bitOr) else r.expression

/-- An item of a list between brackets. -/
def starNamed (r : Inner) : Parse Expr := do
  if ← givenOp "*" then return .starred (← r.bitOr) else named r

/-- One item, or a tuple of several. -/
def tupleOf (p : Parse Expr) : Parse Expr := do
  match ← commas p with
  | ([e], false) => return e
  | (items, _) => return .tuple items

/-- One expression or several with commas. -/
def starExpressions (r : Inner) : Parse Expr := tupleOf (starItem r)

/-- A yield. -/
def yieldExpression (r : Inner) : Parse Expr := do
  keyword "yield"
  if ← givenKeyword "from" then return .yieldFrom (← r.expression)
  else return .yield (← Parse.optional (starExpressions r))

/-- What can stand right of an assignment. -/
def value (r : Inner) : Parse Expr := yieldExpression r <|> starExpressions r

/-! ## Parameters -/

/-- What stands between the commas of a list of parameters. -/
inductive ParamItem where
  | slash
  | star
  | param (role : ParamRole) (name : String) (hint fallback : Option Expr)

/-- What a colon gives, where colons are allowed. -/
def hint (typed : Bool) (p : Parse Expr) : Parse (Option Expr) := do
  if typed && (← next (.op ":")) then
    op ":"
    return some (← p)
  else return none

/-- An item of a list of parameters. -/
def paramItem (r : Inner) (typed : Bool) : Parse ParamItem := do
  if ← givenOp "/" then return .slash
  else if ← givenOp "**" then
    let id ← name
    return .param .keywords id (← hint typed r.expression) none
  else if ← givenOp "*" then
    if ← next (.op ",") then return .star
    else
      let id ← name
      return .param .rest id (← hint typed (starItem r)) none
  else
    let id ← name
    let type ← hint typed r.expression
    if ← givenOp "=" then return .param .plain id type (some (← r.expression))
    else return .param .plain id type none

/-- The parameters after the asterisk. -/
def keywordParams : List ParamItem → Option (List Param)
  | [] => some []
  | .param .plain id type fallback :: rest =>
      (keywordParams rest).map (Param.mk .keyword id type fallback :: ·)
  | [.param .keywords id type _] => some [.mk .keywords id type none]
  | _ => none

/-- The role of a plain parameter that stands before a slash. -/
def makePositional : Param → Param
  | .mk .plain id type fallback => .mk .positional id type fallback
  | p => p

/-- The parameters of a list, each in its role: a slash ends the positional ones, once and not
first; an asterisk begins the keyword ones; after a fallback every parameter before the asterisk has
one. -/
def params (slashed : Bool) (seen : List Param) (optional : Bool) :
    List ParamItem → Option (List Param)
  | [] => some seen
  | .slash :: rest =>
      if slashed || seen.isEmpty then none
      else params true (seen.map makePositional) optional rest
  | .star :: rest =>
      match rest with
      | .param .plain _ _ _ :: _ => (keywordParams rest).map (seen ++ ·)
      | _ => none
  | .param .plain id type fallback :: rest =>
      if optional && fallback.isNone then none
      else params slashed (seen ++ [.mk .plain id type fallback]) fallback.isSome rest
  | .param .rest id type _ :: rest =>
      (keywordParams rest).map fun ps => seen ++ Param.mk .rest id type none :: ps
  | [.param .keywords id type _] => some (seen ++ [.mk .keywords id type none])
  | _ => none

/-- A list of parameters, which may be empty. -/
def paramList (r : Inner) (typed : Bool) : Parse (List Param) := do
  match ← Parse.optional (commas (paramItem r typed)) with
  | none => return []
  | some (items, _) => (params false [] false items : Option (List Param))

/-! ## Trailers of a primary -/

/-- What stands between the commas of a call. -/
inductive Argument where
  | positional (value : Expr)
  | starred (value : Expr)
  | keyword (name : Option String) (value : Expr)

/-- An argument of a call. -/
def argument (r : Inner) : Parse Argument := do
  if ← givenOp "*" then return .starred (← r.expression)
  else if ← givenOp "**" then return .keyword none (← r.expression)
  else if ← second (.op "=") then
    let id ← name
    op "="
    return .keyword (some id) (← r.expression)
  else return .positional (← named r)

/-- Sorts arguments. No positional argument follows a keyword, and no argument list follows a map of
keyword arguments. -/
def sortArguments (keywords maps : Bool) : List Argument → Option (List Expr × List Keyword)
  | [] => some ([], [])
  | .positional e :: rest =>
      if keywords then none
      else (sortArguments false maps rest).map fun (args, ks) => (e :: args, ks)
  | .starred e :: rest =>
      if maps then none
      else (sortArguments keywords maps rest).map fun (args, ks) => (.starred e :: args, ks)
  | .keyword name e :: rest =>
      (sortArguments true (maps || name.isNone) rest).map fun (args, ks) =>
        (args, Keyword.mk name e :: ks)

/-- The arguments after the first, sorted with it. -/
def moreArguments (r : Inner) (first : Argument) : Parse (List Expr × List Keyword) := do
  let items ← more (argument r)
  (sortArguments false false (first :: items) : Option (List Expr × List Keyword))

/-- Arguments up to the closing bracket. -/
def arguments (r : Inner) : Parse (List Expr × List Keyword) := do
  if ← next (.op ")") then return ([], [])
  else moreArguments r (← argument r)

/-- An index or a slice. -/
def slice (r : Inner) : Parse Expr := do
  let part : Parse (Option Expr) := Parse.optional r.expression
  let isNamed ← second (.op ":=")
  let lower ← if ← next (.op ":") then pure none else some <$> named r
  if !isNamed && (← next (.op ":")) then
    op ":"
    let upper ← part
    let step ← if ← givenOp ":" then part else pure none
    return .slice lower upper step
  else
    match lower with
    | some e => return e
    | none => failure

/-- What stands between the brackets of a subscript. -/
def index (r : Inner) : Parse Expr := do
  let item : Parse Expr := do
    if ← givenOp "*" then return .starred (← r.expression) else slice r
  match ← commas item with
  | ([.starred e], false) => return .tuple [.starred e]
  | ([e], false) => return e
  | (items, _) => return .tuple items

/-! ## Targets -/

mutual

/-- Whether an expression can be assigned to. -/
def isTarget : Expr → Bool
  | .name _ => true
  | .member _ _ => true
  | .subscript _ _ => true
  | .tuple items => areTargets items
  | .list items => areTargets items
  | _ => false

/-- Whether expressions can be assigned to, each of which may be starred. -/
def areTargets : List Expr → Bool
  | [] => true
  | .starred e :: rest => isTarget e && areTargets rest
  | e :: rest => isTarget e && areTargets rest

end

/-- Whether an expression can stand left of an assignment. -/
def isStarTarget : Expr → Bool
  | .starred e => isTarget e
  | e => isTarget e

/-- Whether an expression is a target of its own: no list of targets. -/
def isSingleTarget : Expr → Bool
  | .name _ => true
  | .member _ _ => true
  | .subscript _ _ => true
  | _ => false

mutual

/-- Whether an expression can be deleted. -/
def isDeletable : Expr → Bool
  | .name _ => true
  | .member _ _ => true
  | .subscript _ _ => true
  | .tuple items => areDeletable items
  | .list items => areDeletable items
  | _ => false

/-- Whether expressions can be deleted. -/
def areDeletable : List Expr → Bool
  | [] => true
  | e :: rest => isDeletable e && areDeletable rest

end

/-! ## Comprehensions -/

/-- Whether a comprehension goes on with a loop. -/
def atLoop : Parse Bool := do
  return (← next (.keyword "for")) || (← next (.keyword "async"))

/-- A loop of a comprehension; `primary` reads its targets. -/
def clause (r : Inner) (primary : Parse Expr) : Parse Clause := do
  let isAsync ← givenKeyword "async"
  keyword "for"
  let item : Parse Expr := do
    if ← givenOp "*" then return .starred (← primary) else primary
  let target ← tupleOf item
  if !isStarTarget target then failure
  keyword "in"
  let iterable ← r.disjunction
  let conditions ← many (do keyword "if"; r.disjunction)
  return .mk isAsync target iterable conditions

/-! ## Atoms -/

/-- The pieces of neighbouring string literals. -/
def joinStrings (r : Inner) : List Token → Option (List Piece × Bool)
  | [] => some ([], false)
  | .text value _ :: rest => (joinStrings r rest).map fun (ps, f) => (.text value :: ps, f)
  | .format raw body :: rest => do
      let parts ← Formatted.read r.field raw body
      let (ps, _) ← joinStrings r rest
      return (parts ++ ps, true)
  | _ => none

/-- The bytes of neighbouring literals. -/
def joinBytes : List Token → Option (List UInt8)
  | [] => some []
  | .bytes value :: rest => (joinBytes rest).map (value ++ ·)
  | _ => none

/-- A literal from neighbouring literals, which are all texts or all bytes. -/
def stringsOf (r : Inner) (tokens : List Token) : Option Expr :=
  match tokens with
  | .bytes _ :: _ => (joinBytes tokens).map fun value => .constant (.bytes value)
  | _ => do
      let (pieces, isFormatted) ← joinStrings r tokens
      if isFormatted then return .formatted (Formatted.join pieces)
      else
        let marked := match tokens with
          | .text _ marked :: _ => marked
          | _ => false
        match Formatted.join pieces with
        | [.text value] => return .constant (.text value marked)
        | _ => return .constant (.text [] marked)

/-- A string literal. -/
def strings (r : Inner) : Parse Expr := do
  let literal : Parse Token := do
    match ← take with
    | .text value marked => return .text value marked
    | .bytes value => return .bytes value
    | .format raw body => return .format raw body
    | _ => failure
  (stringsOf r (← many1 literal) : Option Expr)

/-- The inside of parentheses. -/
def parenthesized (r : Inner) (primary : Parse Expr) : Parse Expr := do
  if ← next (.op ")") then return .tuple []
  else if ← next (.keyword "yield") then yieldExpression r
  else
    let isStarred ← next (.op "*")
    let first ← starNamed r
    if !isStarred && (← atLoop) then
      return .comprehension .generator first (← many1 (clause r primary))
    else if ← next (.op ",") then return .tuple (first :: (← more (starNamed r)))
    else if isStarred then failure
    else return first

/-- The inside of brackets. -/
def bracketed (r : Inner) (primary : Parse Expr) : Parse Expr := do
  if ← next (.op "]") then return .list []
  else
    let isStarred ← next (.op "*")
    let first ← starNamed r
    if !isStarred && (← atLoop) then
      return .comprehension .list first (← many1 (clause r primary))
    else return .list (first :: (← more (starNamed r)))

/-- An entry of a map. -/
def entry (r : Inner) : Parse Entry := do
  if ← givenOp "**" then return .mk none (← r.bitOr)
  else
    let key ← r.expression
    op ":"
    return .mk (some key) (← r.expression)

/-- The inside of braces: a map or a set. -/
def braced (r : Inner) (primary : Parse Expr) : Parse Expr := do
  if ← next (.op "\x7d") then return .dict []
  else if ← next (.op "**") then
    let first ← entry r
    return .dict (first :: (← more (entry r)))
  else
    let isPlain := !(← next (.op "*")) && !(← second (.op ":="))
    let first ← starNamed r
    if isPlain && (← next (.op ":")) then
      op ":"
      let value ← r.expression
      if ← atLoop then return .dictComprehension first value (← many1 (clause r primary))
      else return .dict (.mk (some first) value :: (← more (entry r)))
    else if !(first matches .starred _) && (← atLoop) then
      return .comprehension .set first (← many1 (clause r primary))
    else return .set (first :: (← more (starNamed r)))

/-- An atom; `primary` reads the targets of comprehensions. -/
def atom (r : Inner) (primary : Parse Expr) : Parse Expr := do
  match ← peek with
  | .name id =>
      let _ ← take
      return .name id
  | .int n =>
      let _ ← take
      return .constant (.int n)
  | .float x =>
      let _ ← take
      return .constant (.float x)
  | .imaginary x =>
      let _ ← take
      return .constant (.imaginary x)
  | .keyword word =>
      let _ ← take
      match word with
      | "True" => return .constant (.bool true)
      | "False" => return .constant (.bool false)
      | "None" => return .constant .none
      | _ => failure
  | .op symbol =>
      let _ ← take
      if symbol = "(" then
        let e ← parenthesized r primary
        op ")"
        return e
      else if symbol = "[" then
        let e ← bracketed r primary
        op "]"
        return e
      else if symbol = "\x7b" then
        let e ← braced r primary
        op "\x7d"
        return e
      else if symbol = "..." then return .constant .ellipsis
      else failure
  | _ => strings r

/-! ## Levels -/

/-- The arguments of a call: a lone generator needs no parentheses of its own. -/
def callArguments (r : Inner) (primary : Parse Expr) : Parse (List Expr × List Keyword) := do
  if ← next (.op ")") then return ([], [])
  else
    let first ← argument r
    match first with
    | .positional item =>
        if ← atLoop then
          return ([.comprehension .generator item (← many1 (clause r primary))], [])
        else moreArguments r first
    | _ => moreArguments r first

/-- What follows an atom: members, calls and subscripts. -/
def trailers (r : Inner) (primary : Parse Expr) : Nat → Expr → Parse Expr
  | 0, e => return e
  | fuel + 1, e => do
      if ← givenOp "." then trailers r primary fuel (.member e (← name))
      else if ← givenOp "[" then
        let i ← index r
        op "]"
        trailers r primary fuel (.subscript e i)
      else if ← givenOp "(" then
        let (args, keywords) ← callArguments r primary
        op ")"
        trailers r primary fuel (.call e args keywords)
      else return e

/-- An atom with its trailers. The targets of the comprehensions in it are primaries again. -/
def primary (r : Inner) (targets : Parse Expr) : Parse Expr := do
  let e ← atom r targets
  trailers r targets (← get).bound e

/-- Operators of one level, which bind to the left. -/
def leftward (operand : Parse Expr) (operator : Token → Option BinaryOp) : Parse Expr := do
  let rec loop : Nat → Expr → Parse Expr
    | 0, e => return e
    | fuel + 1, e => do
        match operator (← peek) with
        | none => return e
        | some o =>
            let _ ← take
            loop fuel (.binary o e (← operand))
  let e ← operand
  loop (← get).bound e

def shiftOperator : Token → Option BinaryOp
  | .op "<<" => some .shiftLeft
  | .op ">>" => some .shiftRight
  | _ => none

def sumOperator : Token → Option BinaryOp
  | .op "+" => some .add
  | .op "-" => some .sub
  | _ => none

def termOperator : Token → Option BinaryOp
  | .op "*" => some .mul
  | .op "/" => some .div
  | .op "//" => some .floorDiv
  | .op "%" => some .mod
  | .op "@" => some .matMul
  | _ => none

def bitOperator (symbol : String) (o : BinaryOp) (t : Token) : Option BinaryOp :=
  if t = .op symbol then some o else none

/-- A power, whose exponent is a factor. -/
def power (r : Inner) (targets : Parse Expr) : Parse Expr := do
  let base ← if ← givenKeyword "await" then Expr.await <$> primary r targets else primary r targets
  if ← givenOp "**" then return .binary .pow base (← r.factor) else return base

/-- A factor: signs before a power. -/
def factor (r : Inner) (targets : Parse Expr) : Parse Expr := do
  if ← givenOp "+" then return .unary .plus (← r.factor)
  else if ← givenOp "-" then return .unary .minus (← r.factor)
  else if ← givenOp "~" then return .unary .invert (← r.factor)
  else power r targets

/-- Arithmetic and bit operators. -/
def bitOr (r : Inner) (targets : Parse Expr) : Parse Expr :=
  let term := leftward (factor r targets) termOperator
  let sum := leftward term sumOperator
  let shift := leftward sum shiftOperator
  let bitAnd := leftward shift (bitOperator "&" .bitAnd)
  let bitXor := leftward bitAnd (bitOperator "^" .bitXor)
  leftward bitXor (bitOperator "|" .bitOr)

/-- A comparison operator. -/
def compareOperator : Parse CompareOp := do
  match ← take with
  | .op "==" => return .eq
  | .op "!=" => return .notEq
  | .op "<" => return .lt
  | .op "<=" => return .le
  | .op ">" => return .gt
  | .op ">=" => return .ge
  | .keyword "in" => return .isIn
  | .keyword "not" =>
      keyword "in"
      return .notIn
  | .keyword "is" => if ← givenKeyword "not" then return .isNot else return .is
  | _ => failure

/-- A chain of comparisons. -/
def comparison (r : Inner) (targets : Parse Expr) : Parse Expr := do
  let first ← bitOr r targets
  let rest ← many (do
    let o ← compareOperator
    return Comparison.mk o (← bitOr r targets))
  if rest.isEmpty then return first else return .compare first rest

/-- Negations before a comparison. -/
def negation (r : Inner) (targets : Parse Expr) : Parse Expr := do
  let marks ← many (keyword "not")
  let e ← comparison r targets
  return marks.foldl (fun e _ => .unary .negate e) e

/-- Negations joined by `and`. -/
def conjunction (r : Inner) (targets : Parse Expr) : Parse Expr := do
  match ← separated (keyword "and") (negation r targets) with
  | [e] => return e
  | operands => return .conjunction operands

/-- Conjunctions joined by `or`. -/
def disjunction (r : Inner) (targets : Parse Expr) : Parse Expr := do
  match ← separated (keyword "or") (conjunction r targets) with
  | [e] => return e
  | operands => return .disjunction operands

/-- A function without a name. -/
def lambda (r : Inner) : Parse Expr := do
  keyword "lambda"
  let ps ← paramList r false
  op ":"
  return .lambda ps (← r.expression)

/-- An expression. -/
def expression (r : Inner) (targets : Parse Expr) : Parse Expr := do
  if ← next (.keyword "lambda") then lambda r
  else
    let body ← disjunction r targets
    let choice : Parse Expr := do
      keyword "if"
      let test ← r.disjunction
      keyword "else"
      return .conditional test body (← r.expression)
    choice <|> return body

/-- The primaries that comprehensions assign to, with fuel. -/
def targets (r : Inner) : Nat → Parse Expr
  | 0 => failure
  | fuel + 1 => primary r fun s => targets r fuel s

/-- The levels of the grammar, with fuel. -/
def inner : Nat → Inner
  | 0 => ⟨failure, failure, failure, failure, fun _ => none⟩
  | fuel + 1 => {
      expression := fun s => let r := inner fuel; expression r (targets r fuel) s
      disjunction := fun s => let r := inner fuel; disjunction r (targets r fuel) s
      bitOr := fun s => let r := inner fuel; bitOr r (targets r fuel) s
      factor := fun s => let r := inner fuel; factor r (targets r fuel) s
      field := fun cs => do
        let lexemes ← lex true ('(' :: cs ++ [')'])
        let (e, _) ← (starExpressions (inner fuel)).run lexemes
        return e }

end Grammar

end SszSchema.Source
