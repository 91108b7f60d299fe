import SszSchema.Source.Expr
import SszSchema.Text.Blank
import SszSchema.Text.Quoted

/-!
# Text of expressions

`Expr.text` writes an expression in one way, whatever its source looked like: one blank around
binary operators, parentheses only where an operand binds less tightly than its place asks for.
Places and operators have levels (`Level`), and an expression is put between parentheses when its
place has a higher level than its operator.
-/

namespace SszSchema.Source

/-! ## Levels -/

namespace Level

def assign : Nat := 1
def tuple : Nat := 2
def yield : Nat := 3
def test : Nat := 4
def disjunction : Nat := 5
def conjunction : Nat := 6
def negation : Nat := 7
def comparison : Nat := 8
def bitOr : Nat := 9
def bitXor : Nat := 10
def bitAnd : Nat := 11
def shift : Nat := 12
def sum : Nat := 13
def term : Nat := 14
def factor : Nat := 15
def power : Nat := 16
def await : Nat := 17
def atom : Nat := 18

/-- The next tighter level. -/
def next (level : Nat) : Nat := min (level + 1) atom

end Level

/-- Text and level of an operator before an operand. -/
def UnaryOp.text : UnaryOp → String × Nat
  | .invert => ("~", Level.factor)
  | .negate => ("not ", Level.negation)
  | .plus => ("+", Level.factor)
  | .minus => ("-", Level.factor)

/-- Text and level of an operator between operands. -/
def BinaryOp.text : BinaryOp → String × Nat
  | .bitOr => ("|", Level.bitOr)
  | .bitXor => ("^", Level.bitXor)
  | .bitAnd => ("&", Level.bitAnd)
  | .shiftLeft => ("<<", Level.shift)
  | .shiftRight => (">>", Level.shift)
  | .add => ("+", Level.sum)
  | .sub => ("-", Level.sum)
  | .mul => ("*", Level.term)
  | .matMul => ("@", Level.term)
  | .div => ("/", Level.term)
  | .mod => ("%", Level.term)
  | .floorDiv => ("//", Level.term)
  | .pow => ("**", Level.power)

/-- Text of a comparison. -/
def CompareOp.text : CompareOp → String
  | .eq => "=="
  | .notEq => "!="
  | .lt => "<"
  | .le => "<="
  | .gt => ">"
  | .ge => ">="
  | .is => "is"
  | .isNot => "is not"
  | .isIn => "in"
  | .notIn => "not in"

/-- Opening and closing bracket of what a comprehension builds. -/
def Collection.brackets : Collection → String × String
  | .list => ("[", "]")
  | .set => ("\x7b", "\x7d")
  | .generator => ("(", ")")

/-! ## Literals -/

/-- A byte inside quotes. -/
def byteText (quote : Char) (b : UInt8) : List Char :=
  let c := Char.ofNat b.toNat
  if c = quote || c = '\\' then ['\\', c]
  else if c = '\t' then ['\\', 't']
  else if c = '\n' then ['\\', 'n']
  else if c = '\r' then ['\\', 'r']
  else if 32 ≤ b.toNat && b.toNat < 127 then [c]
  else '\\' :: 'x' :: Text.hexPadded 2 b.toNat

/-- A literal of bytes. -/
def bytesText (bs : List UInt8) : String :=
  let quote := Text.quoteFor (bs.map fun b => Char.ofNat b.toNat)
  String.ofList ('b' :: quote :: bs.flatMap (byteText quote) ++ [quote])

namespace Quoting

/-- The quotes of a string literal, the preferred ones first. -/
def quotes : List (List Char) :=
  [['\''], ['"'], ['"', '"', '"'], ['\'', '\'', '\'']]

/-- Whether a text holds another. -/
def holds (part : List Char) : List Char → Bool
  | [] => part.isEmpty
  | c :: rest => part.isPrefixOf (c :: rest) || holds part rest

/-- A character with as few escapes as possible; `all` if line feeds and tabs are escaped too. -/
def escapeChar (all : Bool) (c : Char) : List Char :=
  if !all && (c = '\n' || c = '\t') then [c]
  else if c = '\\' then ['\\', '\\']
  else if Text.isPrintable c then [c]
  else Text.escapeUnshown c

/-- A quotation of a text between any quotes, without the quotes. -/
def plain (cs : List Char) : List Char × Char :=
  let quote := Text.quoteFor cs
  (cs.flatMap (Text.escapeChar quote), quote)

/-- The text of a literal with few escapes, and the quotes that can enclose it. -/
def choose (all : Bool) (quotes : List (List Char)) (cs : List Char) :
    List Char × List (List Char) :=
  let escaped := cs.flatMap (escapeChar all)
  let fitting := quotes.filter fun q =>
    (q.length = 3 || !escaped.contains '\n') && !holds q escaped
  match fitting with
  | [] =>
      let (body, quote) := plain cs
      (body, [(quotes.find? (·.contains quote)).getD [quote]])
  | _ =>
      match escaped.getLast? with
      | none => (escaped, fitting)
      | some last =>
          let sorted := fitting.filter (·.head? ≠ some last) ++ fitting.filter (·.head? = some last)
          if (sorted.headD []).head? = some last then (escaped.dropLast ++ ['\\', last], sorted)
          else (escaped, sorted)

/-- A literal with as few escapes as possible. -/
def lean (cs : List Char) : String :=
  let (body, quotes) := choose false quotes cs
  let quote := quotes.headD []
  String.ofList (quote ++ body ++ quote)

/-- The parts of a literal under quotes that fit all of them; none if there are no such quotes. -/
def fit (quotes : List (List Char)) : List (List Char × Bool) → Option (List Char × List Char)
  | [] => some ([], quotes.headD [])
  | (cs, constant) :: rest =>
      let (body, fitting) := choose constant quotes cs
      if fitting.any quotes.contains then
        (fit fitting rest).map fun (bodies, quote) => (body ++ bodies, quote)
      else none

/-- A literal with replacement fields from its parts; constant parts escape line feeds. -/
def formatted (parts : List (List Char × Bool)) : String :=
  match fit quotes parts with
  | some (body, quote) => String.ofList (quote ++ body ++ quote)
  | none =>
      let body := parts.flatMap fun p => ((plain ('"' :: p.1)).1).drop 1
      String.ofList (['\'', '\'', '\''] ++ body ++ ['\'', '\'', '\''])

/-- A constant part with its braces doubled. -/
def doubleBraces (cs : List Char) : List Char :=
  cs.flatMap fun c => if c = '\x7b' || c = '\x7d' then [c, c] else [c]

end Quoting

/-- The text of a literal; `bare` inside a replacement field, where no backslash may stand. -/
def Constant.render (bare : Bool) : Constant → String
  | .none => "None"
  | .bool b => if b then "True" else "False"
  | .int n => toString n
  | .float x => x.text true
  | .imaginary x => x.text false ++ "j"
  | .text value marked =>
      (if marked then "u" else "") ++
        if bare then Quoting.lean value else Text.quoted (String.ofList value)
  | .bytes value => bytesText value
  | .ellipsis => "..."

/-! ## Expressions -/

/-- A text between parentheses if its place is tighter than its level. -/
def inParens (place level : Nat) (s : String) : String :=
  if level < place then "(" ++ s ++ ")" else s

/-- Items with commas; a single item keeps its comma. -/
def itemsText (items : List String) : String :=
  match items with
  | [s] => s ++ ","
  | _ => Text.join ", " items

/-- Whether a literal is written with digits or is a truth value; a blank then keeps it apart from a
point. -/
def Expr.endsInDigits : Expr → Bool
  | .constant (.int _) => true
  | .constant (.bool _) => true
  | _ => false

/-- Parameters with their marks: a slash after the last positional one, an asterisk before the
first that goes by keyword only. -/
def paramsText (params : List (ParamRole × String)) : String :=
  let positional := params.filter (·.1 = .positional)
  let plain := params.filter (·.1 = .plain)
  let rest := params.filter (·.1 = .rest)
  let keyword := params.filter (·.1 = .keyword)
  let keywords := params.filter (·.1 = .keywords)
  let texts := fun (ps : List (ParamRole × String)) => ps.map (·.2)
  let slash := if positional.isEmpty then [] else ["/"]
  let star :=
    match rest with
    | [] => if keyword.isEmpty then [] else ["*"]
    | _ => (texts rest).map ("*" ++ ·)
  Text.join ", " (texts positional ++ slash ++ texts plain ++ star ++ texts keyword ++
    (texts keywords).map ("**" ++ ·))

mutual

/-- The text of an expression in a place of a level. -/
def Expr.render (bare : Bool) (place : Nat) : Expr → String
  | .name id => id
  | .constant c => c.render bare
  | .formatted pieces =>
      "f" ++
        if bare then Quoting.lean ((Expr.renderPieces pieces).flatMap (·.1))
        else Quoting.formatted (Expr.renderPieces pieces)
  | .member value id =>
      value.render bare Level.atom ++ (if value.endsInDigits then " ." else ".") ++ id
  | .subscript value index =>
      value.render bare Level.atom ++ "[" ++
        (match index with
          | .tuple (first :: rest) => itemsText (Expr.renderItems bare Level.test (first :: rest))
          | index => index.render bare Level.test) ++ "]"
  | .call callee args keywords =>
      callee.render bare Level.atom ++ "(" ++
        Text.join ", " (Expr.renderItems bare Level.test args ++ Expr.renderKeywords bare keywords) ++
        ")"
  | .tuple items =>
      match items with
      | [] => "()"
      | items => inParens place Level.tuple (itemsText (Expr.renderItems bare Level.test items))
  | .list items => "[" ++ Text.join ", " (Expr.renderItems bare Level.test items) ++ "]"
  | .set items => "\x7b" ++ Text.join ", " (Expr.renderItems bare Level.test items) ++ "\x7d"
  | .dict entries => "\x7b" ++ Text.join ", " (Expr.renderEntries bare entries) ++ "\x7d"
  | .unary op operand =>
      let (symbol, level) := op.text
      inParens place level (symbol ++ operand.render bare level)
  | .binary op left right =>
      let (symbol, level) := op.text
      let (atLeft, atRight) :=
        if op = .pow then (Level.next level, level) else (level, Level.next level)
      inParens place level
        (left.render bare atLeft ++ " " ++ symbol ++ " " ++ right.render bare atRight)
  | .conjunction operands =>
      inParens place Level.conjunction
        (Text.join " and " (Expr.renderRising bare Level.conjunction operands))
  | .disjunction operands =>
      inParens place Level.disjunction
        (Text.join " or " (Expr.renderRising bare Level.disjunction operands))
  | .compare first rest =>
      inParens place Level.comparison
        (first.render bare Level.bitOr ++ Text.join "" (Expr.renderComparisons bare rest))
  | .conditional test body otherwise =>
      inParens place Level.test
        (body.render bare Level.disjunction ++ " if " ++ test.render bare Level.disjunction ++
          " else " ++ otherwise.render bare Level.test)
  | .lambda params body =>
      let ps := paramsText (Expr.renderParams bare params)
      inParens place Level.test
        ("lambda" ++ (if ps = "" then "" else " " ++ ps) ++ ": " ++ body.render bare Level.test)
  | .starred value => "*" ++ value.render bare Level.bitOr
  | .assign target value =>
      inParens place Level.assign (target ++ " := " ++ value.render bare Level.atom)
  | .await value => inParens place Level.await ("await " ++ value.render bare Level.atom)
  | .yield value =>
      inParens place Level.yield
        (match value with
          | none => "yield"
          | some e => "yield " ++ e.render bare Level.atom)
  | .yieldFrom value => inParens place Level.yield ("yield from " ++ value.render bare Level.atom)
  | .comprehension collection item clauses =>
      let (left, right) := collection.brackets
      left ++ item.render bare Level.test ++ Text.join "" (Expr.renderClauses bare clauses) ++ right
  | .dictComprehension key value clauses =>
      "\x7b" ++ key.render bare Level.test ++ ": " ++ value.render bare Level.test ++
        Text.join "" (Expr.renderClauses bare clauses) ++ "\x7d"
  | .slice lower upper step =>
      (match lower with
        | none => ""
        | some e => e.render bare Level.test) ++ ":" ++
      (match upper with
        | none => ""
        | some e => e.render bare Level.test) ++
      (match step with
        | none => ""
        | some e => ":" ++ e.render bare Level.test)

/-- Items in places of one level. -/
def Expr.renderItems (bare : Bool) (place : Nat) : List Expr → List String
  | [] => []
  | e :: rest => e.render bare place :: Expr.renderItems bare place rest

/-- Operands of which each stands in a tighter place than the one before. -/
def Expr.renderRising (bare : Bool) (place : Nat) : List Expr → List String
  | [] => []
  | e :: rest =>
      e.render bare (Level.next place) :: Expr.renderRising bare (Level.next place) rest

/-- Keyword arguments. -/
def Expr.renderKeywords (bare : Bool) : List Keyword → List String
  | [] => []
  | .mk (some word) value :: rest =>
      (word ++ "=" ++ value.render bare Level.test) :: Expr.renderKeywords bare rest
  | .mk none value :: rest =>
      ("**" ++ value.render bare Level.test) :: Expr.renderKeywords bare rest

/-- Entries of a map. -/
def Expr.renderEntries (bare : Bool) : List Entry → List String
  | [] => []
  | .mk (some key) value :: rest =>
      (key.render bare Level.test ++ ": " ++ value.render bare Level.test) ::
        Expr.renderEntries bare rest
  | .mk none value :: rest =>
      ("**" ++ value.render bare Level.bitOr) :: Expr.renderEntries bare rest

/-- Further operands of a comparison. -/
def Expr.renderComparisons (bare : Bool) : List Comparison → List String
  | [] => []
  | .mk op operand :: rest =>
      (" " ++ op.text ++ " " ++ operand.render bare Level.bitOr) ::
        Expr.renderComparisons bare rest

/-- Parameters with their roles. -/
def Expr.renderParams (bare : Bool) : List Param → List (ParamRole × String)
  | [] => []
  | .mk role word hint fallback :: rest =>
      (role, word ++
        (match hint with
          | none => ""
          | some e => ": " ++ e.render bare Level.test) ++
        (match fallback with
          | none => ""
          | some e => "=" ++ e.render bare Level.test)) :: Expr.renderParams bare rest

/-- The loops of a comprehension. -/
def Expr.renderClauses (bare : Bool) : List Clause → List String
  | [] => []
  | .mk isAsync target iterable conditions :: rest =>
      ((if isAsync then " async for " else " for ") ++ target.render bare Level.tuple ++ " in " ++
        iterable.render bare Level.disjunction ++
        Text.join "" ((Expr.renderItems bare Level.disjunction conditions).map (" if " ++ ·))) ::
        Expr.renderClauses bare rest

/-- The parts of a literal with replacement fields; constant parts are marked. -/
def Expr.renderPieces : List Piece → List (List Char × Bool)
  | [] => []
  | .text value :: rest => (Quoting.doubleBraces value, true) :: Expr.renderPieces rest
  | .field value conversion spec :: rest =>
      let inner := (value.render true Level.disjunction).toList
      let inner := if inner.head? = some '\x7b' then ' ' :: inner else inner
      ('\x7b' :: inner ++
        (match conversion with
          | none => []
          | some c => ['!', c]) ++
        (match spec with
          | none => []
          | some pieces => ':' :: (Expr.renderPieces pieces).flatMap (·.1)) ++ ['\x7d'], false) ::
        Expr.renderPieces rest

end

/-- The text of an expression. -/
def Expr.text (e : Expr) : String := e.render false Level.test

end SszSchema.Source
