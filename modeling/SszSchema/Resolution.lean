import SszSchema.TagList
import SszSchema.Declaration
import SszSchema.Graph

/-!
# Resolution

`Resolution.resolve` turns the declaration of a record into nodes, together with the declarations of
all records that it refers to. A record's node is reserved while its fields are resolved, so a
record that refers back to it finds it open. Records are registered when the outermost resolution
succeeds; if it fails, its error is kept and none of the records that it opened is registered.

A field that cannot be resolved is reported with its place: path, record, field, line and shape.
-/

namespace SszSchema

/-- The names of byte strings. -/
def byteNames : List String := ["bytes", "bytearray"]

/-- The names of sequences. -/
def sequenceNames : List String := ["List", "list", "Sequence", "MutableSequence"]

/-- The name of bit lists. -/
def bitListName : String := "Bitlist"

/-- The name of bit vectors. -/
def bitVectorName : String := "Bitvector"

/-- The name of truth values. -/
def boolName : String := "bool"

/-- The widths of unsigned integers in bytes. -/
def uintWidths : List (String × Nat) := [("uint8", 1), ("uint16", 2), ("uint32", 4), ("uint64", 8)]

/-- Names of types that say nothing about their width. -/
def widthlessNames : List String :=
  ["int", "float", "complex", "str", "object", "Any", "dict", "set", "tuple", "Optional", "Union"]

/-- The state of a resolution. -/
structure Resolution where
  units : List SourceUnit
  arena : Arena := .empty
  registry : Registry := {}
  /-- The errors of failed records, the first first. -/
  failed : List (String × Diagnostic) := []
  /-- The records that are being resolved, in the order in which they were met. -/
  pending : List (String × NodeId) := []
  deriving Repr

namespace Resolution

/-- A step of a resolution. What a failing step has changed stays changed. -/
abbrev Step (α : Type) := ExceptT Failure (StateM Resolution) α

/-- All declarations, in the order of the units. -/
def declarations (r : Resolution) : List RecordDecl := SszSchema.declarations r.units

/-- The names of all declarations. -/
def declared (r : Resolution) : List String := r.declarations.map (·.name)

/-- The declaration of a record. -/
def declaration? (r : Resolution) (name : String) : Option RecordDecl :=
  r.declarations.find? (·.name == name)

/-- The declaration of a record, which must exist. -/
def declaration (r : Resolution) (name : String) : Except Diagnostic RecordDecl :=
  match r.declaration? name with
  | some d => .ok d
  | none => .error (.unknownRecord name)

/-- Two declarations of one name. -/
def declaredTwice (second first : RecordDecl) : Diagnostic :=
  .make .config ("record " ++ Text.quoted second.name ++ " is declared twice")
    [("record", .text second.name), ("path", .text second.path), ("line", .int second.line),
      ("first", .text (first.path ++ ":" ++ toString first.line))]

/-- The first declaration whose name is taken, with the declaration that took it. -/
def duplicate? : List RecordDecl → List RecordDecl → Option (RecordDecl × RecordDecl)
  | _, [] => none
  | seen, d :: rest =>
      match seen.find? (·.name == d.name) with
      | some first => some (d, first)
      | none => duplicate? (seen ++ [d]) rest

/-- A resolution of units in which no name is declared twice. -/
def ofUnits (units : List SourceUnit) : Except Diagnostic Resolution :=
  match duplicate? [] (SszSchema.declarations units) with
  | some (second, first) => .error (declaredTwice second first)
  | none => .ok { units }

/-! ## Steps -/

/-- Stops with a diagnostic. -/
def report (kind : DiagnosticKind) (message : String) : Step α :=
  throw (.reported (.make kind message))

/-- Adds a node. -/
def add (n : Node) : Step NodeId := do
  let r ← get
  let (arena, id) := r.arena.add n
  set { r with arena }
  return id

/-- What an annotation says, or what is wrong with it. -/
def ofTags (raw : String) (result : Except TagList.Fault α) : Step α :=
  match result with
  | .ok a => return a
  | .error .digitLimit => throw .digitLimit
  | .error fault => throw (.reported (.make .annotationMalformed fault.message (fault.data raw)))

/-- The exact size of a field. -/
def sizeOf (a : TagList) : Step (Option Nat) := ofTags a.raw a.size?

/-- The bound of a field. -/
def maxOf (a : TagList) : Step (Option Nat) := ofTags a.raw a.max?

/-- A byte string. -/
def bytesNode (a : TagList) : Step NodeId := do
  if a.isBitList then add { kind := .bitList, limit := ← maxOf a, packed := true }
  else
    match ← sizeOf a with
    | some 0 => report .annotationMalformed (TagList.sizeKey ++ " must be positive")
    | some n => add { kind := .bytes, length := some n }
    | none =>
        match ← maxOf a with
        | some n => add { kind := .bytes, limit := some n }
        | none =>
            report .annotationMissing ("bytes expects either " ++ TagList.maxKey ++ ", " ++
              TagList.sizeKey ++ " or " ++ TagList.markerKey ++ ":\"" ++
              TagList.bitListMarker ++ "\"")

/-- A bit vector. -/
def bitVectorNode (a : TagList) : Step NodeId := do
  match ← sizeOf a with
  | none =>
      report .annotationMissing
        (bitVectorName ++ " expects " ++ TagList.sizeKey ++ " (bit length)")
  | some 0 =>
      report .annotationMalformed (bitVectorName ++ " " ++ TagList.sizeKey ++ " must be positive")
  | some n => add { kind := .bitVector, length := some n }

/-- A sequence of byte strings of one size. -/
def byteVectorsNode (a : TagList) : Step NodeId := do
  match ← ofTags a.raw a.sizePair? with
  | none =>
      report .annotationMissing ("sequence of bytes expects " ++ TagList.sizeKey ++ ":\"F,S\"")
  | some ⟨outer, inner⟩ =>
      if inner = 0 then
        report .annotationMalformed (TagList.sizeKey ++ " inner byte length must be positive")
      else
        let element ← add { kind := .bytes, length := some inner }
        match outer with
        | some n => add { kind := .vector, length := some n, element := some element }
        | none =>
            match ← maxOf a with
            | some n => add { kind := .list, limit := some n, element := some element }
            | none =>
                report .annotationMissing
                  (TagList.maxKey ++ " not set after '?' in " ++ TagList.sizeKey)

/-- A sequence of elements that have a node. -/
def sequenceNode (a : TagList) (element : NodeId) : Step NodeId := do
  match ← sizeOf a with
  | some 0 =>
      report .annotationMalformed ("vector " ++ TagList.sizeKey ++ " must be positive")
  | some n => add { kind := .vector, length := some n, element := some element }
  | none =>
      match ← maxOf a with
      | some n => add { kind := .list, limit := some n, element := some element }
      | none =>
          report .annotationMissing ("sequence expects either " ++ TagList.maxKey ++ " or " ++
            TagList.sizeKey)

/-- What the name of a shape stands for. -/
inductive Meaning where
  | bytes
  | uint (width : Nat)
  | bool
  | bitList
  | bitVector
  | other
  deriving DecidableEq

/-- What a name stands for. -/
def meaning (name : String) : Meaning :=
  if byteNames.contains name then .bytes
  else
    match uintWidths.find? (·.1 == name) with
    | some (_, width) => .uint width
    | none =>
        if name = boolName then .bool
        else if name = bitListName then .bitList
        else if name = bitVectorName then .bitVector
        else .other

/-- The node of a basic type; `other` for a name that is none. -/
def basicNode (a : TagList) (name : String) (other : Step NodeId) : Step NodeId := do
  match meaning name with
  | .bytes => bytesNode a
  | .uint width => add { kind := .uint, width := some width }
  | .bool => add { kind := .bool, width := some 1 }
  | .bitList => add { kind := .bitList, limit := ← maxOf a }
  | .bitVector => bitVectorNode a
  | .other => other

/-- A shape that no type has. -/
def unsupported (message : String) : Step NodeId := report .unsupportedShape message

/-- The node of a shape; `record` resolves records. -/
def shape (record : String → Step NodeId) (a : TagList) : TypeExpr → Step NodeId
  | .name id =>
      basicNode a id
        (if widthlessNames.contains id then
          unsupported (Text.quoted id ++ " has no SSZ encoding; use uint8/16/32/64, bool or bytes")
        else record id)
  | .member id text => basicNode a id (unsupported ("unsupported type " ++ Text.quoted text))
  | .apply head e =>
      if sequenceNames.contains head then
        if e.head?.any byteNames.contains then byteVectorsNode a
        else if e.head? = some boolName && a.isBitList then do
          add { kind := .bitList, limit := ← maxOf a }
        else do sequenceNode a (← shape record a e)
      else unsupported ("unsupported generic type " ++ Text.quoted head)
  | .applyMany head =>
      if sequenceNames.contains head then unsupported "sequence expects a single element type"
      else unsupported ("unsupported generic type " ++ Text.quoted head)
  | .quoted e => shape record a e
  | .other text => unsupported ("unsupported field shape " ++ Text.quoted text)

/-- The place of a field. -/
def place (d : RecordDecl) (f : FieldDecl) : DataMap :=
  [("path", .text d.path), ("record", .text d.name), ("field", .text f.name), ("line", .int f.line),
    ("shape", .text f.shapeText)]

/-- Adds context to the diagnostic of a failing step. -/
def within (context : DataMap) (step : Step α) : Step α :=
  tryCatch step fun
    | .reported d => throw (.reported (d.withContext context))
    | failure => throw failure

/-- Resolves a field. -/
def field (record : String → Step NodeId) (d : RecordDecl) (f : FieldDecl) : Step FieldRef :=
  within (place d f) do
    let a ← ofTags f.tagText (TagList.parse f.tagText)
    return { name := f.name, node := ← shape record a f.shape, line := f.line }

/-- Reserves the node of a record. -/
def reserve (name : String) : Step NodeId := do
  let id ← add { kind := .container, record := some name }
  modify fun r => { r with pending := r.pending ++ [(name, id)] }
  return id

/-- Fills the node of a record. -/
def fill (name : String) (id : NodeId) (fields : List FieldRef) : Step Unit := do
  let r ← get
  match r.arena.fill id { kind := .container, record := some name, fields } with
  | .ok arena => set { r with arena }
  | .error fault => throw (.graph fault)

/-- Registers all records of a resolution that has succeeded. -/
def commit : Step Unit := do
  let r ← get
  match r.pending.foldlM (fun registry (name, id) => registry.put name id) r.registry with
  | .ok registry => set { r with registry, pending := [] }
  | .error fault => throw (.graph fault)

/-- Keeps the error of a record whose resolution failed, and gives up all records that it opened. -/
def abandon (name : String) (d : Diagnostic) : Step Unit :=
  modify fun r => { r with pending := [], failed := r.failed ++ [(name, d)] }

/-- Resolves a declared record; the outermost one settles what becomes of all. -/
def expand (record : String → Step NodeId) (d : RecordDecl) : Step NodeId := do
  let outermost := (← get).pending.isEmpty
  let id ← reserve d.name
  let fields ← tryCatch (d.fields.mapM (field record d)) fun
    | .reported e => do
        let e := e.withContext [("record", .text d.name), ("path", .text d.path)]
        if outermost then abandon d.name e
        throw (.reported e)
    | failure => throw failure
  fill d.name id fields
  if outermost then commit
  return id

/-- The node of a record that has one, or the error of one that failed; `fresh` resolves others. -/
def lookUp (name : String) (fresh : RecordDecl → Step NodeId) : Step NodeId := do
  let r ← get
  match r.registry.get? name with
  | some id => return id
  | none =>
      match r.pending.find? (·.1 == name) with
      | some (_, id) => return id
      | none =>
          match r.failed.find? (·.1 == name) with
          | some (_, d) => throw (.reported d)
          | none =>
              match r.declaration name with
              | .error d => throw (.reported d)
              | .ok d => fresh d

/-- Resolves a record with fuel, which bounds how many records are open at a time. -/
def resolveWith : Nat → String → Step NodeId
  | 0, name => lookUp name fun _ => throw (.reported (.unknownRecord name))
  | fuel + 1, name => lookUp name (expand (resolveWith fuel))

/-- Resolves a record, and returns its node. -/
def resolve (name : String) : Step NodeId := do
  resolveWith ((← get).declarations.length + 1) name

/-- Resolves records, or all that are declared. -/
def resolveAll (names : Option (List String)) : Step (List NodeId) := do
  (names.getD (← get).declared).mapM resolve

/-- Runs a step. -/
def run (r : Resolution) (step : Step α) : Except Failure α × Resolution := step r

end Resolution

/-- How the resolution of one target went. -/
structure Attempt where
  record : String
  result : Except Failure NodeId
  /-- Whether the record had no node before. -/
  isFirst : Bool

namespace Attempt

/-- Whether an attempt ends the run. Unless `failFast`, a diagnostic does not. -/
def ends (failFast : Bool) (a : Attempt) : Bool :=
  match a.result with
  | .ok _ => false
  | .error (.reported _) => failFast
  | .error _ => true

/-- The records that resolved, and the diagnostics of those left out. -/
def settle (failFast : Bool) : List Attempt → Except Failure (List String × List Diagnostic)
  | [] => .ok ([], [])
  | a :: rest =>
      match a.result with
      | .ok _ => (settle failFast rest).map fun (ok, errors) => (a.record :: ok, errors)
      | .error (.reported d) =>
          if failFast then .error (.reported d)
          else (settle failFast rest).map fun (ok, errors) => (ok, d :: errors)
      | .error failure => .error failure

end Attempt

namespace Resolution

/-- Resolves records one after the other, until one ends the run. -/
def attempts (failFast : Bool) : Resolution → List String → List Attempt × Resolution
  | r, [] => ([], r)
  | r, name :: rest =>
      let (result, next) := r.run (resolve name)
      let attempt : Attempt := ⟨name, result, !r.registry.contains name⟩
      if attempt.ends failFast then ([attempt], next)
      else
        let (more, last) := attempts failFast next rest
        (attempt :: more, last)

/-- The records to resolve: the targets, or all declared records if there are none. -/
def wanted (r : Resolution) (targets : List String) : List String :=
  if targets.isEmpty then r.declared else targets

/-- Resolves the targets, or all declared records if there are none. Unless `failFast`, a record
that fails is left out and its diagnostic collected. -/
def resolveTargets (targets : List String) (failFast : Bool) :
    Step (List String × List Diagnostic) := fun r =>
  let (attempts, last) := r.attempts failFast (r.wanted targets)
  (Attempt.settle failFast attempts, last)

end Resolution

end SszSchema
