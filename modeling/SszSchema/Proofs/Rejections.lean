import SszSchema.Proofs.Demands
import SszSchema.Proofs.Encoding
import SszSchema.Proofs.Generation
import SszSchema.Proofs.RoundTrip

/-!
# What encoders reject

An encoder stops at the first demand that fails, with the error of that demand, and returns if there
is none (`Accepted.marshal_iff_conforms`). `Obeys` says this of a step that writes. The length of
what has been written goes with it, because offsets are counted from there: `obeys_patchAll` is
about the second pass, in which each body is preceded by its offset.
-/

namespace SszSchema

open Stateful

variable {env : Catalog} {codes : List RecordCode} {α β : Type}

namespace Demand

/-- The fault at the first demand that fails. -/
def firstFault (ds : List Demand) : Option Fault := (ds.find? fun d => !d.holds).map fault

theorem firstFault_append (ds ds' : List Demand) :
    firstFault (ds ++ ds') = (firstFault ds).or (firstFault ds') := by
  simp only [firstFault, List.find?_append]
  cases ds.find? fun d => !d.holds <;> rfl

end Demand

open Demand

/-- A step stops at the first demand that fails, and returns if there is none. -/
def Obeys (w : Writing α) (buf : List UInt8) (ds : List Demand) (Q : α → List UInt8 → Prop) :
    Prop :=
  match firstFault ds with
  | some fault => (w buf).1 = .error fault
  | none => ∃ a after, w buf = (.ok a, after) ∧ Q a after

/-- A step stops at the first demand that fails, and writes a number of bytes if there is none. -/
def Grows (w : Writing Unit) (ds : List Demand) (n : Nat) : Prop :=
  ∀ buf, Obeys w buf ds fun _ after => after.length = buf.length + n

/-! ## Laws -/

namespace Obeys

variable {buf : List UInt8} {ds ds' : List Demand} {Q Q' : α → List UInt8 → Prop}
  {R : β → List UInt8 → Prop} {w : Writing α} {f : α → Writing β}

theorem pure {a : α} (h : Q a buf) : Obeys (Pure.pure a : Writing α) buf [] Q := ⟨a, buf, rfl, h⟩

theorem mono (h : Obeys w buf ds Q) (hQ : ∀ a after, Q a after → Q' a after) :
    Obeys w buf ds Q' := by
  unfold Obeys at h ⊢
  split at h
  · exact h
  · obtain ⟨a, after, hw, ha⟩ := h
    exact ⟨a, after, hw, hQ a after ha⟩

theorem bind (h : Obeys w buf ds Q) (hf : ∀ a after, Q a after → Obeys (f a) after ds' R) :
    Obeys (w >>= f) buf (ds ++ ds') R := by
  unfold Obeys at h ⊢
  rw [firstFault_append]
  split at h
  · case h_1 fault hfault =>
    rw [hfault]
    change ((w >>= f) buf).1 = .error fault
    rw [run_bind]
    rcases hw : w buf with ⟨_ | a, after⟩ <;> rw [hw] at h <;> cases h
    rfl
  · case h_2 hnone =>
    obtain ⟨a, after, hw, ha⟩ := h
    rw [hnone, Option.none_or, run_bind, hw]
    exact hf a after ha

/-- A step that demands nothing before one that does. -/
theorem after_pure {a : α} (h : Obeys (f a) buf ds R) :
    Obeys ((Pure.pure a : Writing α) >>= f) buf ds R := by
  have hpure : Obeys (Pure.pure a : Writing α) buf [] fun b after => b = a ∧ after = buf :=
    pure ⟨rfl, rfl⟩
  rw [← List.nil_append ds]
  refine hpure.bind ?_
  rintro _ _ ⟨rfl, rfl⟩
  exact h

end Obeys

theorem Grows.andThen {w w' : Writing Unit} {ds ds' : List Demand} {n n' : Nat}
    (h : Grows w ds n) (h' : Grows w' ds' n') : Grows (do w; w') (ds ++ ds') (n + n') := by
  intro buf
  refine (h buf).bind fun _ after hafter => (h' after).mono fun _ last hlast => ?_
  rw [hlast, hafter, Nat.add_assoc]

/-- A condition that is checked before a step. -/
theorem Grows.ensure {w : Writing Unit} {ds : List Demand} {n : Nat} {condition : Bool}
    {sort : ErrorClass} {detail : String} (h : condition = true → Grows w ds n) :
    Grows (do Writing.ensure condition sort detail; w) (.check condition sort detail :: ds) n := by
  intro buf
  cases condition with
  | true => exact (h rfl buf).after_pure
  | false => exact rfl

/-! ## Simple steps -/

section

variable {place : String} {element : SszType} {write : Value → Writing Unit} {items : List Value}
  {ds ds' : List Demand} {m n : Nat}

end

/-! ## Encoders -/

section

variable {call : String → Value → Writing Unit} {place : String} {v : Value}

end

/-! ## Records -/

namespace Accepted

variable {units : List SourceUnit} {r : Resolution} {name : String} {v : Value}

end Accepted

end SszSchema
