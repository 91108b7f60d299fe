import SszSchema.Proofs.Serialization
import SszSchema.Proofs.Steps
import SszSchema.Resolution

/-!
# Types of nodes

The tree that a node of a graph unfolds to. `Arena.typeOf?` computes it, down to records, which stay
names. `TypeOf` says in addition that each record on the way is the registered node of its name, so
that names and nodes stand for the same records; `TypeOf.typeOf?_eq` is the link between the two.

The types of a resolution are those of its registered records (`Resolution.catalog`).
-/

namespace SszSchema

namespace Arena

/-- The type that a node unfolds to; the fuel bounds elements in each other. -/
def typeWith (a : Arena) : Nat → NodeId → Option SszType
  | 0, _ => none
  | fuel + 1, id => do
      let n ← a.get? id
      match n.kind with
      | .uint => return .uint (← n.width)
      | .bool => return .bool
      | .bytes =>
          match n.length with
          | some length => return .fixedBytes length
          | none => return .boundedBytes (← n.limit)
      | .bitVector => return .bitVector (← n.length)
      | .bitList => return if n.packed then .packedBits n.limit else .bitList n.limit
      | .vector => return .vector (← n.length) (← a.typeWith fuel (← n.element))
      | .list => return .list (← n.limit) (← a.typeWith fuel (← n.element))
      | .container => return .record (← n.record)

/-- The type that a node unfolds to. Elements have smaller numbers than their sequences. -/
def typeOf? (a : Arena) (id : NodeId) : Option SszType := a.typeWith (id + 1) id

/-- The fields of a node with their types. -/
def fieldTypes? (a : Arena) (n : Node) : Option Fields :=
  n.fields.mapM fun f => do return (f.name, ← a.typeOf? f.node)

end Arena

namespace Resolution

/-- The fields of the registered records. -/
def catalog (r : Resolution) : Catalog := fun name => do
  let id ← r.registry.get? name
  let n ← r.arena.get? id
  r.arena.fieldTypes? n

end Resolution

/-- The type of a node, in which all records are among those given with their nodes. -/
inductive TypeOf (a : Arena) (entries : List (String × NodeId)) : NodeId → SszType → Prop
  | uint {id : NodeId} {n : Node} {width : Nat} (hn : a.get? id = some n) (hk : n.kind = .uint)
      (hw : n.width = some width) : TypeOf a entries id (.uint width)
  | bool {id : NodeId} {n : Node} (hn : a.get? id = some n) (hk : n.kind = .bool)
      (hw : n.width = some 1) : TypeOf a entries id .bool
  | fixedBytes {id : NodeId} {n : Node} {length : Nat} (hn : a.get? id = some n)
      (hk : n.kind = .bytes) (hl : n.length = some length) :
      TypeOf a entries id (.fixedBytes length)
  | boundedBytes {id : NodeId} {n : Node} {limit : Nat} (hn : a.get? id = some n)
      (hk : n.kind = .bytes) (hl : n.length = none) (hm : n.limit = some limit) :
      TypeOf a entries id (.boundedBytes limit)
  | bitVector {id : NodeId} {n : Node} {length : Nat} (hn : a.get? id = some n)
      (hk : n.kind = .bitVector) (hl : n.length = some length) :
      TypeOf a entries id (.bitVector length)
  | packedBits {id : NodeId} {n : Node} (hn : a.get? id = some n) (hk : n.kind = .bitList)
      (he : n.element = none) (hp : n.packed = true) : TypeOf a entries id (.packedBits n.limit)
  | bitList {id : NodeId} {n : Node} (hn : a.get? id = some n) (hk : n.kind = .bitList)
      (he : n.element = none) (hp : n.packed = false) : TypeOf a entries id (.bitList n.limit)
  | vector {id element : NodeId} {n : Node} {length : Nat} {t : SszType} (hn : a.get? id = some n)
      (hk : n.kind = .vector) (hl : n.length = some length) (hpos : 0 < length)
      (he : n.element = some element) (hlt : element < id) (h : TypeOf a entries element t) :
      TypeOf a entries id (.vector length t)
  | list {id element : NodeId} {n : Node} {limit : Nat} {t : SszType} (hn : a.get? id = some n)
      (hk : n.kind = .list) (hm : n.limit = some limit) (he : n.element = some element)
      (hlt : element < id) (h : TypeOf a entries element t) : TypeOf a entries id (.list limit t)
  | record {id : NodeId} {n : Node} {name : String} (hn : a.get? id = some n)
      (hk : n.kind = .container) (hr : n.record = some name) (he : (name, id) ∈ entries) :
      TypeOf a entries id (.record name)

namespace TypeOf

variable {a : Arena} {entries : List (String × NodeId)} {id : NodeId} {t : SszType}

theorem typeWith_eq (h : TypeOf a entries id t) {fuel : Nat} (hfuel : id < fuel) :
    a.typeWith fuel id = some t := by
  induction h generalizing fuel with
  | vector hn hk hl _ he hlt _ ih =>
    obtain ⟨fuel, rfl⟩ := Nat.exists_eq_add_one_of_ne_zero (Nat.ne_zero_of_lt hfuel)
    have helement := ih (Nat.lt_of_lt_of_le hlt (Nat.le_of_lt_succ hfuel))
    simp [Arena.typeWith, hn, hk, hl, he, helement]
  | list hn hk hm he hlt _ ih =>
    obtain ⟨fuel, rfl⟩ := Nat.exists_eq_add_one_of_ne_zero (Nat.ne_zero_of_lt hfuel)
    have helement := ih (Nat.lt_of_lt_of_le hlt (Nat.le_of_lt_succ hfuel))
    simp [Arena.typeWith, hn, hk, hm, he, helement]
  | _ =>
    obtain ⟨fuel, rfl⟩ := Nat.exists_eq_add_one_of_ne_zero (Nat.ne_zero_of_lt hfuel)
    simp [Arena.typeWith, *]

theorem typeOf?_eq (h : TypeOf a entries id t) : a.typeOf? id = some t :=
  h.typeWith_eq (Nat.lt_succ_self id)

/-- A node has one type. -/
theorem unique {t' : SszType} (h : TypeOf a entries id t) (h' : TypeOf a entries id t') : t = t' :=
  Option.some.inj (h.typeOf?_eq.symm.trans h'.typeOf?_eq)

theorem get? (h : TypeOf a entries id t) : ∃ n, a.get? id = some n := by
  cases h <;> exact ⟨_, ‹_›⟩

end TypeOf

/-- The node of a record is a container that bears its name and has typed fields. -/
def Arena.Holds (a : Arena) (entries : List (String × NodeId)) (e : String × NodeId) : Prop :=
  ∃ n, a.get? e.2 = some n ∧ n.kind = .container ∧ n.record = some e.1 ∧
    ∀ f ∈ n.fields, ∃ t, TypeOf a entries f.node t

namespace Registry

theorem get?_eq_some_iff {r : Registry} (h : (r.entries.map (·.1)).Nodup) {name : String}
    {id : NodeId} : r.get? name = some id ↔ (name, id) ∈ r.entries := by
  obtain ⟨entries⟩ := r
  induction entries with
  | nil => simp [get?]
  | cons e entries ih =>
    obtain ⟨name', id'⟩ := e
    obtain ⟨hfirst, hrest⟩ := List.nodup_cons.mp h
    by_cases hname : name' = name
    · subst hname
      have hnot : ∀ id, (name', id) ∉ entries := fun id hid =>
        hfirst (List.mem_map.mpr ⟨_, hid, rfl⟩)
      simp [get?, hnot, eq_comm]
    · have := ih hrest
      simp only [get?] at this
      simp [get?, hname, Ne.symm hname, this]

theorem contains_eq_false_iff {r : Registry} {name : String} :
    r.contains name = false ↔ name ∉ r.entries.map (·.1) := by
  rw [contains, Option.isSome_eq_false_iff, Option.isNone_iff_eq_none]
  simp only [get?, Option.map_eq_none_iff, List.find?_eq_none, beq_iff_eq, List.mem_map, not_exists,
    not_and]

end Registry

end SszSchema
