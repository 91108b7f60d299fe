import Mathlib.Algebra.Ring.Nat
import SszSchema.Graph
import SszSchema.Proofs.Steps

/-!
# Types and their sizes

A type as a tree. A record stands in it by its name, so that types stay finite where records refer
to each other; a `Catalog` tells the fields of each record.

A type is dynamic if a list of any kind, a bit list or a bounded byte string can be reached from it
through fields and elements of vectors (`IsDynamic`). `HasSize` gives the size of all encodings of a
type that is not. Both are least relations, so a record that contains itself without a list between
has neither (`HasSize.not_isDynamic`, `HasSize.unique`).
-/

namespace SszSchema

/-- A type of a schema. -/
inductive SszType where
  | uint (width : Nat)
  | bool
  | fixedBytes (length : Nat)
  | boundedBytes (limit : Nat)
  | bitVector (length : Nat)
  | packedBits (limit : Option Nat)
  | bitList (limit : Option Nat)
  | vector (length : Nat) (element : SszType)
  | list (limit : Nat) (element : SszType)
  | record (name : String)
  deriving DecidableEq, Repr

namespace SszType

/-- The record at the end of a chain of elements. -/
def innermost : SszType → Option String
  | .vector _ element => element.innermost
  | .list _ element => element.innermost
  | .record name => some name
  | _ => none

end SszType

/-- The fields of a record with their types, in order. -/
abbrev Fields := List (String × SszType)

/-- The fields of each record. -/
abbrev Catalog := String → Option Fields

namespace Catalog

variable {env : Catalog}

/-- A type whose values have encodings of different sizes. -/
inductive IsDynamic (env : Catalog) : SszType → Prop
  | boundedBytes {limit : Nat} : IsDynamic env (.boundedBytes limit)
  | packedBits {limit : Option Nat} : IsDynamic env (.packedBits limit)
  | bitList {limit : Option Nat} : IsDynamic env (.bitList limit)
  | list {limit : Nat} {element : SszType} : IsDynamic env (.list limit element)
  | vector {length : Nat} {element : SszType} (h : IsDynamic env element) :
      IsDynamic env (.vector length element)
  | record {name : String} {fields : Fields} {f : String × SszType}
      (hr : env name = some fields) (hf : f ∈ fields) (h : IsDynamic env f.2) :
      IsDynamic env (.record name)

/-- The size of all encodings of a type. -/
inductive HasSize (env : Catalog) : SszType → Nat → Prop
  | uint {width : Nat} : HasSize env (.uint width) width
  | bool : HasSize env .bool 1
  | fixedBytes {length : Nat} : HasSize env (.fixedBytes length) length
  | bitVector {length : Nat} : HasSize env (.bitVector length) ((length + 7) / 8)
  | vector {length size : Nat} {element : SszType} (h : HasSize env element size) :
      HasSize env (.vector length element) (length * size)
  | record {name : String} {fields : Fields} (size : SszType → Nat)
      (hr : env name = some fields) (h : ∀ f ∈ fields, HasSize env f.2 (size f.2)) :
      HasSize env (.record name) (fields.map fun f => size f.2).sum

/-- The bytes that a type takes in the fixed region of its container. -/
inductive HasSlot (env : Catalog) : SszType → Nat → Prop
  | inline {t : SszType} {size : Nat} (h : HasSize env t size) : HasSlot env t size
  | offset {t : SszType} (h : IsDynamic env t) : HasSlot env t offsetBytes

/-- The size of the fixed region of a record with these fields. -/
def HasRegion (env : Catalog) (fields : Fields) (size : Nat) : Prop :=
  ∃ slot : SszType → Nat, (∀ f ∈ fields, HasSlot env f.2 (slot f.2)) ∧
    size = (fields.map fun f => slot f.2).sum

/-- A type of one size is not dynamic. -/
theorem HasSize.not_isDynamic {t : SszType} {size : Nat} (h : HasSize env t size) :
    ¬IsDynamic env t := by
  induction h with
  | uint => nofun
  | bool => nofun
  | fixedBytes => nofun
  | bitVector => nofun
  | vector _ ih =>
    rintro (_ | _ | _ | _ | hd)
    exact ih hd
  | record size hr _ ih =>
    intro hd
    cases hd with
    | record hr' hf hd =>
      obtain rfl := Option.some.inj (hr.symm.trans hr')
      exact ih _ hf hd

/-- A type has at most one size. -/
theorem HasSize.unique {t : SszType} {m n : Nat} (hm : HasSize env t m) (hn : HasSize env t n) :
    m = n := by
  induction hm generalizing n with
  | uint => cases hn; rfl
  | bool => cases hn; rfl
  | fixedBytes => cases hn; rfl
  | bitVector => cases hn; rfl
  | vector _ ih =>
    cases hn with
    | vector hn => rw [ih hn]
  | record size hr _ ih =>
    cases hn with
    | record size' hr' hn =>
      obtain rfl := Option.some.inj (hr.symm.trans hr')
      congr 1
      exact List.map_congr_left fun f hf => ih f hf (hn f hf)

/-- A type takes one number of bytes in a fixed region. -/
theorem HasSlot.unique {t : SszType} {m n : Nat} (hm : HasSlot env t m) (hn : HasSlot env t n) :
    m = n := by
  cases hm with
  | inline hm =>
    cases hn with
    | inline hn => exact hm.unique hn
    | offset hd => exact absurd hd hm.not_isDynamic
  | offset hd =>
    cases hn with
    | inline hn => exact absurd hd hn.not_isDynamic
    | offset => rfl

/-- The size of a fixed region, field by field. -/
theorem hasRegion_iff {fields : Fields} {size : Nat} : HasRegion env fields size ↔
    ∃ slots, List.Forall₂ (fun f n => HasSlot env f.2 n) fields slots ∧ size = slots.sum := by
  constructor
  · rintro ⟨slot, hslot, rfl⟩
    exact ⟨fields.map fun f => slot f.2, List.forall₂_map_right_iff.mpr
      (List.forall₂_same.mpr hslot), rfl⟩
  · rintro ⟨slots, hslots, rfl⟩
    classical
    let slot : SszType → Nat := fun t => if h : ∃ n, HasSlot env t n then h.choose else 0
    have hslot {t : SszType} {n : Nat} (h : HasSlot env t n) : slot t = n := by
      have hex : ∃ n, HasSlot env t n := ⟨n, h⟩
      simp only [slot, dif_pos hex]
      exact hex.choose_spec.unique h
    refine ⟨slot, fun f hf => ?_, ?_⟩
    · obtain ⟨n, -, hn⟩ := exists_of_forall₂ hslots hf
      rwa [hslot hn]
    · clear_value slot
      induction hslots with
      | nil => rfl
      | cons hn _ ih => rw [List.map_cons, List.sum_cons, List.sum_cons, hslot hn, ih]

theorem HasSlot.hasSize {t : SszType} {n : Nat} (h : HasSlot env t n) (hd : ¬IsDynamic env t) :
    HasSize env t n := by
  cases h with
  | inline h => exact h
  | offset h => exact absurd h hd

/-- A record without dynamic fields has the size of its fixed region. -/
theorem HasRegion.hasSize {name : String} {fields : Fields} {size : Nat}
    (h : HasRegion env fields size) (hr : env name = some fields)
    (hd : ∀ f ∈ fields, ¬IsDynamic env f.2) : HasSize env (.record name) size := by
  obtain ⟨slot, hslot, rfl⟩ := h
  exact .record slot hr fun f hf => (hslot f hf).hasSize (hd f hf)

theorem isDynamic_record_iff {name : String} {fields : Fields} (hr : env name = some fields) :
    IsDynamic env (.record name) ↔ ∃ f ∈ fields, IsDynamic env f.2 := by
  constructor
  · intro h
    cases h with
    | record hr' hf h =>
      obtain rfl := Option.some.inj (hr.symm.trans hr')
      exact ⟨_, hf, h⟩
  · rintro ⟨f, hf, h⟩
    exact .record hr hf h

@[simp] theorem isDynamic_vector_iff {length : Nat} {element : SszType} :
    IsDynamic env (.vector length element) ↔ IsDynamic env element :=
  ⟨fun h => by cases h with | vector h => exact h, .vector⟩

end Catalog

end SszSchema
