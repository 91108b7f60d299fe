import SszSchema.Resolution

/-!
# Classification

A type is fixed if all its values have encodings of one size, and dynamic otherwise. The size of a
dynamic container is that of its fixed region, in which a dynamic field counts as an offset.

`Classifier.visit` computes this bottom up and remembers finished nodes. A list ends the search for
sizes: a record met again below a list is dynamic, since it contains that list. A record met again
without a list between has no finite size (`Infinite`).
-/

namespace SszSchema

/-- What is known of a classified node. -/
structure Verdict where
  isDynamic : Bool
  size : Option Nat
  deriving DecidableEq, Repr

namespace Verdict

/-- The verdict on types whose values differ in size. -/
def dynamic : Verdict := ⟨true, none⟩

/-- The verdict on types of one size. -/
def fixed (size : Option Nat) : Verdict := ⟨false, size⟩

/-- The bytes that a field takes in the fixed region of its container. -/
def slot (v : Verdict) : Option Nat := if v.isDynamic then some offsetBytes else v.size

end Verdict

/-- Why a node cannot be classified. -/
inductive ClassifyFault where
  /-- Records that contain each other without a list between, the first at both ends. -/
  | infinite (cycle : List String)
  | graph (fault : GraphFault)
  deriving DecidableEq, Repr

/-- The verdicts on finished nodes, the last first. -/
structure Classifier where
  done : List (NodeId × Verdict) := []
  deriving DecidableEq, Repr

namespace Classifier

/-- A step of a classification. What a failing step has finished stays finished. -/
abbrev Step (α : Type) := ExceptT ClassifyFault (StateM Classifier) α

/-- The nodes being classified, the innermost first; none stands for the bounds of a list. -/
abbrev Stack := List (Option NodeId)

/-- The verdict on a finished node. -/
def get? (c : Classifier) (id : NodeId) : Option Verdict :=
  (c.done.find? (·.1 == id)).map (·.2)

/-- The part of a stack inside the innermost list. -/
def segment (stack : Stack) : Stack := stack.takeWhile Option.isSome

/-- The records from the outer occurrence of a node to the inner one. -/
def cycle (a : Arena) (stack : Stack) (id : NodeId) : List String :=
  let inside := stack.takeWhile (· != some id)
  ((some id :: inside ++ [some id]).reverse.filterMap fun
    | some i => (a.get? i).bind (·.record)
    | none => none).filter (· ≠ "")

/-- Stops with a fault of the graph. -/
def fail (fault : GraphFault) : Step α := throw (.graph fault)

/-- The node of a number. -/
def nodeOf (a : Arena) (id : NodeId) : Step Node :=
  match a.get id with
  | .ok n => return n
  | .error fault => fail fault

/-- The element of a sequence. One that is missing passes for dynamic inside a list. -/
def elementVerdict (visit : Stack → NodeId → Step Verdict) (stack : Stack) :
    Option NodeId → Step Verdict
  | some id => visit stack id
  | none => if stack.contains none then return .dynamic else fail .incomplete

/-- Adds up the fields of a container. -/
def addSlots (verdicts : List Verdict) : Option Verdict :=
  verdicts.foldlM (fun total v => do
    let sum ← total.size
    let slot ← v.slot
    return ⟨total.isDynamic || v.isDynamic, some (sum + slot)⟩) (Verdict.fixed (some 0))

/-- The verdicts on the fields of a container, as long as they have sizes. -/
def fieldVerdicts (visit : NodeId → Step Verdict) : List FieldRef → Step (List Verdict)
  | [] => return []
  | f :: rest => do
      let v ← visit f.node
      if v.slot.isNone then fail .incomplete
      return v :: (← fieldVerdicts visit rest)

/-- The verdict on a node from those on its parts. -/
def judge (visit : Stack → NodeId → Step Verdict) (stack : Stack) (n : Node) : Step Verdict := do
  match n.kind with
  | .uint | .bool => return .fixed n.width
  | .bitVector =>
      match n.length with
      | some bits => return .fixed (some ((bits + 7) / 8))
      | none => fail .incomplete
  | .bytes => return if n.length.isSome then .fixed n.length else .dynamic
  | .list | .bitList =>
      match n.element with
      | some id =>
          let _ ← visit (none :: stack) id
          return .dynamic
      | none => return .dynamic
  | .vector =>
      let v ← elementVerdict visit stack n.element
      if v.isDynamic then return .dynamic
      else
        match n.length, v.size with
        | some length, some size => return .fixed (some (length * size))
        | _, _ => fail .incomplete
  | .container =>
      match addSlots (← fieldVerdicts (visit stack) n.fields) with
      | some v => return v
      | none => fail .incomplete

/-- Classifies a node with fuel, which bounds how many nodes are being classified at a time. -/
def visitWith (a : Arena) : Nat → Stack → NodeId → Step Verdict
  | fuel, stack, id => do
      match (← get).get? id with
      | some v => return v
      | none =>
          if stack.contains (some id) then
            if (segment stack).contains (some id) then throw (.infinite (cycle a stack id))
            else return .dynamic
          else
            let n ← nodeOf a id
            match fuel with
            | 0 => fail .endless
            | fuel + 1 =>
                let v ← judge (visitWith a fuel) (some id :: stack) n
                modify fun c => ⟨(id, v) :: c.done⟩
                return v

/-- Classifies a node and all that it is made of. -/
def visit (a : Arena) (id : NodeId) : Step Verdict := visitWith a (a.size + 1) [] id

/-- Runs a step. -/
def run (c : Classifier) (step : Step α) : Except ClassifyFault α × Classifier := step c

/-- A node with the verdict on it, if there is one. -/
def mark (c : Classifier) (id : NodeId) (n : Node) : Node :=
  match c.get? id with
  | some v => { n with isDynamic := some v.isDynamic, fixedSize := v.size }
  | none => n

/-- Marks nodes, of which the first has the given number. -/
def markFrom (c : Classifier) : NodeId → List Node → List Node
  | _, [] => []
  | id, n :: rest => c.mark id n :: markFrom c (id + 1) rest

/-- The arena with all verdicts. -/
def arena (c : Classifier) (a : Arena) : Arena := ⟨c.markFrom 0 a.nodes⟩

end Classifier

/-- Classifies the nodes that some nodes are made of, or all nodes. -/
def classify (a : Arena) (roots : Option (List NodeId)) : Except ClassifyFault Arena :=
  let (result, c) :=
    Classifier.run {} ((roots.getD (List.range a.size)).forM fun id => do
      let _ ← Classifier.visit a id)
  match result with
  | .ok _ => .ok (c.arena a)
  | .error fault => .error fault

namespace Resolution

/-- The diagnostic of a record without finite size. -/
def infiniteSize (r : Resolution) (name : String) (cycle : List String) : Diagnostic :=
  let place := match r.declaration? name with
    | some d => [("record", Datum.text name), ("path", .text d.path), ("line", .int d.line)]
    | none => []
  (Diagnostic.infiniteSize cycle).withContext place

/-- Classifies records one by one. With `collect`, those without finite size are left out and their
diagnostics collected. -/
def classifyRecords (r : Resolution) (collect : Bool) :
    Classifier → List String → Except Failure (Classifier × List String × List Diagnostic)
  | c, [] => .ok (c, [], [])
  | c, name :: rest =>
      match r.registry.get? name with
      | none => .error (.graph (.unregistered name))
      | some id =>
          match Classifier.run c (Classifier.visit r.arena id) with
          | (.ok _, c) =>
              (classifyRecords r collect c rest).map fun (c, kept, errors) =>
                (c, name :: kept, errors)
          | (.error (.infinite cycle), c) =>
              let d := r.infiniteSize name cycle
              if collect then
                (classifyRecords r collect c rest).map fun (c, kept, errors) =>
                  (c, kept, d :: errors)
              else .error (.reported d)
          | (.error (.graph fault), _) => .error (.graph fault)

/-- The schema of the registered records, or of some of them, and the diagnostics collected. -/
def schema (r : Resolution) (names : Option (List String)) (collect : Bool) :
    Except Failure (Schema × List Diagnostic) :=
  (classifyRecords r collect {} (names.getD r.registry.order)).map fun (c, kept, errors) =>
    (⟨c.arena r.arena, r.registry.entries.filter fun e => kept.contains e.1⟩, errors)

end Resolution

end SszSchema
