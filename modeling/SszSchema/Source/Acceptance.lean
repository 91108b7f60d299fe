import SszSchema.Source.Expr.Printer
import SszSchema.Source.Grammar.Statement

/-!
# Acceptance of modules

A module that is read can still be refused when it is compiled: a return outside a function, a
keyword argument given twice, blocks nested too deeply. `accepts` tells whether a text is a module
that compiles. Fuel bounds the depth of statements and expressions by the extent of the lexemes, so
blanks and comments have no part in it.
-/

namespace SszSchema.Source

/-! ## Parts of expressions -/

mutual

/-- The expressions of the fields of a literal. -/
def pieceValues : List Piece → List Expr
  | [] => []
  | .text _ :: rest => pieceValues rest
  | .field value _ spec :: rest => value :: specValues spec ++ pieceValues rest

/-- The expressions of the fields of a format. -/
def specValues : Option (List Piece) → List Expr
  | none => []
  | some pieces => pieceValues pieces

end

/-- The value under a star. -/
def Expr.unstarred : Expr → Expr
  | .starred e => e
  | e => e

/-- The value of a keyword argument. -/
def Keyword.value : Keyword → Expr
  | .mk _ e => e

/-- The name of a keyword argument. -/
def Keyword.name? : Keyword → Option String
  | .mk name _ => name

/-- The name of a parameter. -/
def Param.name : Param → String
  | .mk _ name _ _ => name

/-- The annotation of a parameter; a star is allowed there. -/
def Param.hint? : Param → Option Expr
  | .mk .rest _ hint _ => hint.map Expr.unstarred
  | .mk _ _ hint _ => hint

/-- The fallback of a parameter. -/
def Param.fallback? : Param → Option Expr
  | .mk _ _ _ fallback => fallback

/-- The parts of an expression that belong to its own scope; stars that are allowed where they
stand are left out. The parts of comprehensions and the bodies of functions are not among them. -/
def Expr.parts : Expr → List Expr
  | .name _ | .constant _ => []
  | .formatted pieces => pieceValues pieces
  | .member value _ => [value]
  | .subscript value (.tuple items) => value :: items.map Expr.unstarred
  | .subscript value index => [value, index]
  | .call callee args keywords =>
      callee :: args.map Expr.unstarred ++ keywords.map Keyword.value
  | .tuple items | .list items | .set items => items.map Expr.unstarred
  | .dict entries => entries.flatMap fun
      | .mk key value => key.toList ++ [value]
  | .unary _ e => [e]
  | .binary _ l r => [l, r]
  | .conjunction es | .disjunction es => es
  | .compare first rest => first :: rest.map fun
      | .mk _ e => e
  | .conditional test body otherwise => [test, body, otherwise]
  | .lambda params _ => params.filterMap Param.fallback?
  | .starred value => [value]
  | .assign _ value => [value]
  | .await value => [value]
  | .yield value => value.toList
  | .yieldFrom value => [value]
  | .comprehension _ _ clauses => firstIterable clauses
  | .dictComprehension _ _ clauses => firstIterable clauses
  | .slice lower upper step => lower.toList ++ upper.toList ++ step.toList
where
  /-- The first iterable of a comprehension. -/
  firstIterable : List Clause → List Expr
    | .mk _ _ iterable _ :: _ => [iterable]
    | [] => []

namespace Acceptance

/-- The name that nothing can be assigned to. -/
def constantName : String := "__debug__"

/-- Whether names are pairwise distinct. -/
def distinct : List String → Bool
  | [] => true
  | a :: rest => !rest.contains a && distinct rest

/-! ## Scopes -/

/-- What a scope belongs to. -/
inductive ScopeKind where
  | module
  | record
  | function (isAsync : Bool)
  | lambda
  | comprehension
  deriving DecidableEq

/-- Where a statement or an expression stands. -/
structure Scope where
  kind : ScopeKind := .module
  /-- Open blocks that a jump has to leave. -/
  depth : Nat := 0
  /-- Inside a loop that a jump can leave. -/
  inLoop : Bool := false
  /-- Inside a handler of error groups, which no jump can leave. -/
  inGroup : Bool := false
  /-- The names bound in the enclosing functions. -/
  enclosing : List String := []

/-- The most blocks that can be open in one function. -/
def maxDepth : Nat := 20

/-- Whether a scope is that of a function of some kind. -/
def Scope.isFunction (s : Scope) : Bool :=
  match s.kind with
  | .module | .record => false
  | _ => true

/-- Whether waiting is allowed in a scope. -/
def Scope.canWait (s : Scope) : Bool :=
  s.kind = .function true || s.kind = .comprehension

/-! ## Expressions -/

/-- Whether an expression waits in its own scope. -/
def waits : Nat → Expr → Bool
  | 0, _ => false
  | fuel + 1, e =>
      match e with
      | .await _ => true
      | .comprehension .generator _ clauses => (Expr.parts.firstIterable clauses).any (waits fuel)
      | .comprehension _ item clauses => clausesWait fuel [item] clauses
      | .dictComprehension key value clauses => clausesWait fuel [key, value] clauses
      | e => e.parts.any (waits fuel)
where
  /-- Whether the loops of a comprehension wait. -/
  clausesWait (fuel : Nat) (items : List Expr) (clauses : List Clause) : Bool :=
    items.any (waits fuel) || clauses.any fun
      | .mk isAsync _ iterable conditions =>
          isAsync || waits fuel iterable || conditions.any (waits fuel)

/-- Whether an expression gives a name, in its own scope or in a function inside it. -/
def assigns : Nat → Expr → Bool
  | 0, _ => false
  | fuel + 1, e =>
      match e with
      | .assign _ _ => true
      | .comprehension _ item clauses => clausesAssign fuel [item] clauses
      | .dictComprehension key value clauses => clausesAssign fuel [key, value] clauses
      | .lambda params body => assigns fuel body || (Expr.lambda params body).parts.any (assigns fuel)
      | e => e.parts.any (assigns fuel)
where
  /-- Whether the loops of a comprehension give a name. -/
  clausesAssign (fuel : Nat) (items : List Expr) (clauses : List Clause) : Bool :=
    items.any (assigns fuel) || clauses.any fun
      | .mk _ _ iterable conditions => assigns fuel iterable || conditions.any (assigns fuel)

/-- The names that targets bind. -/
def boundNames : Nat → Expr → List String
  | 0, _ => []
  | fuel + 1, e =>
      match e with
      | .name id => [id]
      | .tuple items | .list items => items.flatMap fun e => boundNames fuel e.unstarred
      | .starred e => boundNames fuel e
      | _ => []

/-- The names that an expression gives inside comprehensions of its own scope. -/
def assignedNames : Nat → Expr → List String
  | 0, _ => []
  | fuel + 1, e =>
      match e with
      | .assign id value => id :: assignedNames fuel value
      | .comprehension _ item clauses => ofClauses fuel [item] clauses
      | .dictComprehension key value clauses => ofClauses fuel [key, value] clauses
      | e => e.parts.flatMap (assignedNames fuel)
where
  /-- The names given in the loops of a comprehension. -/
  ofClauses (fuel : Nat) (items : List Expr) (clauses : List Clause) : List String :=
    items.flatMap (assignedNames fuel) ++ clauses.flatMap fun
      | .mk _ _ _ conditions => conditions.flatMap (assignedNames fuel)

mutual

/-- Whether an expression compiles where it is read. -/
def expression : Nat → Scope → Expr → Bool
  | 0, _, _ => false
  | fuel + 1, s, e =>
      match e with
      | .starred _ => false
      | .call callee args keywords =>
          distinct (keywords.filterMap Keyword.name?) &&
            !(keywords.filterMap Keyword.name?).contains constantName &&
            (Expr.call callee args keywords).parts.all (expression fuel s)
      | .assign id value => id ≠ constantName && expression fuel s value
      | .await value => s.canWait && expression fuel s value
      | .yield value => yields s && value.toList.all (expression fuel s)
      | .yieldFrom value => yields s && s.kind ≠ .function true && expression fuel s value
      | .lambda params body =>
          parameters fuel s params &&
            expression fuel { kind := .lambda, enclosing := s.enclosing } body
      | .comprehension collection item clauses =>
          let isAsync := waits.clausesWait (fuel + 1) [item] (localClauses clauses)
          (collection = .generator || !isAsync || s.canWait) && loops fuel s [item] clauses
      | .dictComprehension key value clauses =>
          let isAsync := waits.clausesWait (fuel + 1) [key, value] (localClauses clauses)
          (!isAsync || s.canWait) && loops fuel s [key, value] clauses
      | e => e.parts.all (expression fuel s)
where
  /-- Whether a scope can yield. -/
  yields (s : Scope) : Bool := s.isFunction && s.kind ≠ .comprehension
  /-- The loops of a comprehension without the first iterable, which is evaluated outside. -/
  localClauses : List Clause → List Clause
    | .mk isAsync target _ conditions :: rest =>
        .mk isAsync target (.constant .none) conditions :: rest
    | [] => []

/-- Whether the loops and items of a comprehension compile. -/
def loops : Nat → Scope → List Expr → List Clause → Bool
  | 0, _, _, _ => false
  | fuel + 1, s, items, clauses =>
      let inside : Scope := { kind := .comprehension, enclosing := s.enclosing }
      let bound := clauses.flatMap fun
        | .mk _ t _ _ => boundNames fuel t
      let given := assignedNames.ofClauses fuel items clauses
      (s.kind ≠ .record || given.isEmpty) && !given.any bound.contains &&
        items.all (expression fuel inside) &&
        (Expr.parts.firstIterable clauses).all (expression fuel s) &&
        (clauses.drop 1).all (fun
          | .mk _ _ iterable _ => expression fuel inside iterable) &&
        clauses.all fun
          | .mk _ t iterable conditions =>
              target fuel inside t && !assigns fuel iterable &&
                conditions.all (expression fuel inside)

/-- Whether something can be assigned to an expression. -/
def target : Nat → Scope → Expr → Bool
  | 0, _, _ => false
  | fuel + 1, s, e =>
      match e with
      | .name id => id ≠ constantName
      | .member value id => id ≠ constantName && expression fuel s value
      | .tuple items | .list items =>
          (items.filter (· matches .starred _)).length ≤ 1 &&
            (items.map Expr.unstarred).all (target fuel s)
      | .starred _ => false
      | e => expression (fuel + 1) s e

/-- Whether the parameters of a function compile in the scope around it. -/
def parameters : Nat → Scope → List Param → Bool
  | 0, _, _ => false
  | fuel + 1, s, params =>
      let names := params.map Param.name
      distinct names && !names.contains constantName &&
        (params.filterMap Param.fallback?).all (expression fuel s) &&
        (params.filterMap Param.hint?).all (expression fuel s)

end

/-- Whether an expression can be deleted. -/
def deletion : Nat → Scope → Expr → Bool
  | 0, _, _ => false
  | fuel + 1, s, e =>
      match e with
      | .name id => id ≠ constantName
      | .tuple items | .list items => items.all (deletion fuel s)
      | e => expression (fuel + 1) s e

/-! ## Patterns -/

/-- The names that a pattern binds, in order. -/
def patternNames : Nat → Pattern → List String
  | 0, _ => []
  | fuel + 1, p =>
      match p with
      | .capture id => [id]
      | .wildcard | .value _ => []
      | .star id => id.toList
      | .sequence items => items.flatMap (patternNames fuel)
      | .mapping _ values rest => values.flatMap (patternNames fuel) ++ rest.toList
      | .record _ positional _ named => (positional ++ named).flatMap (patternNames fuel)
      | .choice options => (options.head?.map (patternNames fuel)).getD []
      | .bind p id => patternNames fuel p ++ [id]

/-- Whether a pattern matches everything. -/
def isOpen : Nat → Pattern → Bool
  | 0, _ => false
  | fuel + 1, p =>
      match p with
      | .capture _ | .wildcard => true
      | .bind p _ => isOpen fuel p
      | .choice options => (options.getLast?.map (isOpen fuel)).getD false
      | _ => false

/-- Whether two lists hold the same names. -/
def sameNames (a b : List String) : Bool := a.all b.contains && b.all a.contains

/-- Whether a pattern compiles; `patternNames` are checked for the whole. -/
def pattern : Nat → Scope → Pattern → Bool
  | 0, _, _ => false
  | fuel + 1, s, p =>
      match p with
      | .capture id => id ≠ constantName
      | .wildcard => true
      | .value e => expression fuel s e
      | .star id => id ≠ some constantName
      | .sequence items =>
          (items.filter (· matches .star _)).length ≤ 1 && items.all (pattern fuel s)
      | .mapping keys values rest =>
          distinct ((keys.filter (· matches .constant _)).map Expr.text) &&
            keys.all (expression fuel s) && values.all (pattern fuel s) && rest ≠ some constantName
      | .record callee positional names named =>
          distinct names && expression fuel s callee && (positional ++ named).all (pattern fuel s)
      | .choice options =>
          let names := patternNames fuel (.choice options)
          options.all (fun o => sameNames names (patternNames fuel o)) &&
            !options.dropLast.any (isOpen fuel) && options.all (pattern fuel s)
      | .bind p id => id ≠ constantName && pattern fuel s p

/-! ## Names of a scope -/

/-- What a scope does with names, in the order in which it is read. -/
inductive Event where
  | use (name : String)
  | bind (name : String)
  | annotate (name : String)
  | global (name : String)
  | nonlocal (name : String)
  | yield
  | give

/-- The events of an expression. -/
def expressionEvents : Nat → Expr → List Event
  | 0, _ => []
  | fuel + 1, e =>
      match e with
      | .name id => [.use id]
      | .assign id value => .bind id :: expressionEvents fuel value
      | .yield value => .yield :: value.toList.flatMap (expressionEvents fuel)
      | .yieldFrom value => .yield :: expressionEvents fuel value
      | .comprehension _ item clauses =>
          (assignedNames.ofClauses fuel [item] clauses).map .bind ++
            e.parts.flatMap (expressionEvents fuel)
      | .dictComprehension key value clauses =>
          (assignedNames.ofClauses fuel [key, value] clauses).map .bind ++
            e.parts.flatMap (expressionEvents fuel)
      | e => e.parts.flatMap (expressionEvents fuel)

/-- The events of a target. -/
def targetEvents : Nat → Expr → List Event
  | 0, _ => []
  | fuel + 1, e =>
      match e with
      | .name id => [.bind id]
      | .tuple items | .list items => (items.map Expr.unstarred).flatMap (targetEvents fuel)
      | e => e.parts.flatMap (expressionEvents fuel)

/-- The events of a statement, without those of the functions and classes in it. -/
def events : Nat → Statement → List Event
  | 0, _ => []
  | fuel + 1, s =>
      let reads := fun (es : List Expr) => es.flatMap (expressionEvents fuel)
      let block := fun (ss : List Statement) => ss.flatMap (events fuel)
      match s with
      | .expression value => reads [value]
      | .assign targets value => targets.flatMap (targetEvents fuel) ++ reads [value]
      | .augment target value => targetEvents fuel target ++ reads [value]
      | .annotate (.name id) hint value _ => .annotate id :: reads (hint :: value.toList)
      | .annotate target hint value _ => targetEvents fuel target ++ reads (hint :: value.toList)
      | .ret value => (if value.isSome then [.give] else []) ++ reads value.toList
      | .raise error cause => reads (error.toList ++ cause.toList)
      | .delete targets => targets.flatMap (targetEvents fuel)
      | .assert test message => reads (test :: message.toList)
      | .pass | .break | .continue => []
      | .global names => names.map .global
      | .nonlocal names => names.map .nonlocal
      | .imports names => names.map .bind
      | .importFrom _ _ names => (names.getD []).map fun n => .bind n.2
      | .branch test body otherwise => reads [test] ++ block body ++ block otherwise
      | .whileLoop test body otherwise => reads [test] ++ block body ++ block otherwise
      | .forLoop _ target iterable body otherwise =>
          targetEvents fuel target ++ reads [iterable] ++ block body ++ block otherwise
      | .within _ items body =>
          (items.flatMap fun i => reads [i.1] ++ i.2.toList.flatMap (targetEvents fuel)) ++
            block body
      | .attempt _ body handlers otherwise always =>
          block body ++ (handlers.flatMap fun
            | .mk error name body => reads error.toList ++ name.toList.map .bind ++ block body) ++
            block otherwise ++ block always
      | .select subject cases =>
          reads [subject] ++ cases.flatMap fun
            | .mk p guard body =>
                (patternNames fuel p).map .bind ++ reads guard.toList ++ block body
      | .function _ name params result decorators _ =>
          .bind name :: reads (params.filterMap Param.fallback? ++
            params.filterMap Param.hint? ++ result.toList ++ decorators)
      | .record name args keywords decorators _ _ =>
          .bind name :: reads (args.map Expr.unstarred ++ keywords.map Keyword.value ++ decorators)

/-- Whether the declarations of a scope come before all other uses of their names, which are not
annotated then, and no name is declared in two ways; `seen` are the names used so far, `globals` and
`others` the names declared so far. -/
def declarationsFirst (s : Scope) (seen globals others : List String) : List Event → Bool
  | [] => true
  | .use name :: rest | .bind name :: rest =>
      declarationsFirst s (name :: seen) globals others rest
  | .annotate name :: rest =>
      (s.kind = .module || !(globals ++ others).contains name) &&
        declarationsFirst s (name :: seen) globals others rest
  | .global name :: rest =>
      !seen.contains name && !others.contains name &&
        declarationsFirst s seen (name :: globals) others rest
  | .nonlocal name :: rest =>
      s.kind ≠ .module && !seen.contains name && !globals.contains name &&
        s.enclosing.contains name && declarationsFirst s seen globals (name :: others) rest
  | _ :: rest => declarationsFirst s seen globals others rest

/-- Whether a function that yields also returns a value. -/
def yieldsAndGives (es : List Event) : Bool :=
  es.any (· matches .yield) && es.any (· matches .give)

/-- The names that a function binds. -/
def functionNames (params : List String) (es : List Event) : List String :=
  let declared := es.filterMap fun
    | .global id => some id
    | .nonlocal id => some id
    | _ => none
  (params ++ es.filterMap fun
    | .bind id => some id
    | .annotate id => some id
    | _ => none).filter (!declared.contains ·)

/-! ## Statements -/

/-- A scope with more open blocks. -/
def Scope.deeper (s : Scope) (blocks : Nat) : Scope := { s with depth := s.depth + blocks }

/-- Whether only the last handler takes all errors. -/
def openHandlerLast : List Handler → Bool
  | [] => true
  | [_] => true
  | .mk none _ _ :: _ => false
  | _ :: rest => openHandlerLast rest

/-- Whether only the last case matches everything. -/
def openCaseLast (fuel : Nat) : List Case → Bool
  | [] => true
  | [_] => true
  | .mk p none _ :: rest => !isOpen fuel p && openCaseLast fuel rest
  | _ :: rest => openCaseLast fuel rest

/-- Whether a statement compiles. -/
def statement : Nat → Scope → Statement → Bool
  | 0, _, _ => false
  | fuel + 1, s, stmt =>
      let reads := fun (es : List Expr) => es.all (expression fuel s)
      let block := fun (s : Scope) (ss : List Statement) =>
        s.depth ≤ maxDepth && ss.all (statement fuel s)
      let isName := fun (name : String) => name ≠ constantName
      match stmt with
      | .expression value => reads [value]
      | .assign targets value => targets.all (target fuel s) && reads [value]
      | .augment t value => target fuel s t && reads [value]
      | .annotate t hint value _ => target fuel s t && reads (hint :: value.toList)
      | .ret value => s.isFunction && !s.inGroup && reads value.toList
      | .raise error cause => reads (error.toList ++ cause.toList)
      | .delete targets => targets.all (deletion fuel s)
      | .assert test message => reads (test :: message.toList)
      | .pass | .global _ | .nonlocal _ => true
      | .break | .continue => s.inLoop
      | .imports names => names.all isName
      | .importFrom _ _ names =>
          match names with
          | none => s.kind = .module
          | some names => names.all fun n => isName n.2
      | .branch test body otherwise => reads [test] && block s body && block s otherwise
      | .whileLoop test body otherwise =>
          reads [test] && block { s.deeper 1 with inLoop := true } body &&
            block s otherwise
      | .forLoop isAsync t iterable body otherwise =>
          (!isAsync || s.kind = .function true) && target fuel s t && reads [iterable] &&
            block { s.deeper 1 with inLoop := true } body && block s otherwise
      | .within isAsync items body =>
          (!isAsync || s.kind = .function true) &&
            (items.all fun i => reads [i.1] && i.2.toList.all (target fuel s)) &&
            block (s.deeper items.length) body
      | .attempt isGroup body handlers otherwise always =>
          let outer := if always.isEmpty then 0 else 1
          let inner := if handlers.isEmpty then 0 else 1
          block (s.deeper (outer + inner)) body && openHandlerLast handlers &&
            (handlers.all fun
              | .mk error name body =>
                  reads error.toList && name ≠ some constantName &&
                    block { s.deeper (outer + 2) with
                      inLoop := s.inLoop && !isGroup, inGroup := s.inGroup || isGroup } body) &&
            block (s.deeper outer) otherwise && block (s.deeper outer) always
      | .select subject cases =>
          reads [subject] && openCaseLast fuel cases && cases.all fun
            | .mk p guard body =>
                distinct (patternNames fuel p) && pattern fuel s p && reads guard.toList &&
                  block s body
      | .function isAsync name params result decorators body =>
          let es := body.flatMap (events fuel)
          let names := params.map Param.name
          let inside : Scope :=
            { kind := .function isAsync, enclosing := s.enclosing }
          isName name && parameters fuel s params && reads (result.toList ++ decorators) &&
            declarationsFirst inside names [] [] es && !(isAsync && yieldsAndGives es) &&
            block { inside with enclosing := functionNames names es ++ s.enclosing } body
      | .record name args keywords decorators body _ =>
          let inside : Scope := { kind := .record, enclosing := s.enclosing }
          isName name && reads (args.map Expr.unstarred ++ keywords.map Keyword.value) &&
            distinct (keywords.filterMap Keyword.name?) && reads decorators &&
            declarationsFirst inside [] [] [] (body.flatMap (events fuel)) && block inside body

/-! ## Features -/

/-- The module that features of the language are imported from. -/
def featureModule : String := "__future__"

/-- The features of the language. -/
def features : List String :=
  ["nested_scopes", "generators", "division", "absolute_import", "with_statement",
    "print_function", "unicode_literals", "barry_as_FLUFL", "generator_stop", "annotations"]

/-- Whether a statement imports features. -/
def isFeatureImport : Statement → Bool
  | .importFrom _ source _ => source = featureModule
  | _ => false

/-- Whether a statement imports features, and all of them exist. -/
def importsFeatures : Statement → Bool
  | .importFrom _ _ (some names) => names.all fun n => features.contains n.1
  | _ => false

/-- Whether features are imported before all else. -/
def featuresFirst : List Statement → Bool
  | [] => true
  | s :: rest =>
      if isFeatureImport s then importsFeatures s && featuresFirst rest
      else !rest.any isFeatureImport

/-- The statements of a module after its description. -/
def afterDescription : List Statement → List Statement
  | .expression (.constant (.text _ _)) :: rest => rest
  | statements => statements

/-- Whether a statement inside a block imports features. -/
def hidesFeatures : Nat → Statement → Bool
  | 0, _ => false
  | fuel + 1, s =>
      let block := fun (ss : List Statement) =>
        ss.any fun s => isFeatureImport s || hidesFeatures fuel s
      match s with
      | .branch _ body otherwise | .whileLoop _ body otherwise | .forLoop _ _ _ body otherwise =>
          block body || block otherwise
      | .within _ _ body | .function _ _ _ _ _ body | .record _ _ _ _ body _ => block body
      | .attempt _ body handlers otherwise always =>
          block body || (handlers.any fun
            | .mk _ _ body => block body) || block otherwise || block always
      | .select _ cases => cases.any fun
          | .mk _ _ body => block body
      | _ => false

/-- Whether a module compiles. -/
def module (fuel : Nat) (statements : List Statement) : Bool :=
  featuresFirst (afterDescription statements) && !statements.any (hidesFeatures fuel) &&
    declarationsFirst {} [] [] [] (statements.flatMap (events fuel)) &&
    statements.all (statement fuel {})

end Acceptance

/-- Whether lexemes are those of a module that compiles. -/
def acceptsLexemes (lexemes : List Lexeme) : Bool :=
  match parseLexemes lexemes with
  | none => false
  | some statements => Acceptance.module (2 * Lexeme.extent lexemes + 4) statements

/-- Whether a text is a module that compiles. -/
def accepts (source : String) : Bool := (lex true source.toList).any acceptsLexemes

end SszSchema.Source
