import SszSchema.Proofs.Serialization

/-!
# What a value must satisfy to be encoded

The demands on a value in the order in which an encoder comes upon them: conditions that parts of
the value must meet, each with the error that is raised if it fails, and offsets that must fit their
bytes. `Emits` lists them along the type, together with the length of the encoding, which is what
offsets are counted from. In a container or sequence all fixed members come first, and then the
dynamic ones, each behind its offset.

`Shaped` values have demands (`Shaped.exists_emits`), and a value conforms just if it meets the
conditions among them (`Emits.conforms_iff`).
-/

namespace SszSchema

variable {env : Catalog}

/-- A condition on a part of a value, with the error if it fails, or an offset. -/
inductive Demand where
  | check (holds : Bool) (sort : ErrorClass) (detail : String)
  | offset (n : Nat)
  deriving DecidableEq, Repr

namespace Demand

/-- A condition on a number, with a text that tells the number and its bound. -/
def counted (holds : Bool) (sort : ErrorClass) (place : String) (count : Nat) (text : String)
    (bound : Nat) : Demand :=
  .check holds sort (place ++ ": " ++ toString count ++ text ++ toString bound)

/-- A number of bits within a limit, if there is one. -/
def limited (place : String) (count : Nat) : Option Nat → List Demand
  | some limit => [.counted (count ≤ limit) .marshalList place count " bits > " limit]
  | none => []

/-- A condition is met. -/
def Met : Demand → Prop
  | .check holds _ _ => holds = true
  | .offset _ => True

/-- An offset fits its bytes. -/
def Fits : Demand → Prop
  | .check _ _ _ => True
  | .offset n => n < 2 ^ (8 * offsetBytes)

/-- Whether a demand is satisfied. -/
def holds : Demand → Bool
  | .check holds _ _ => holds
  | .offset n => n < 2 ^ (8 * offsetBytes)

/-- Why a routine stops at a demand that fails. -/
def fault : Demand → Fault
  | .check _ sort detail => .raised sort detail
  | .offset _ => .overflow

theorem met_limited_iff {place : String} {count : Nat} {limit : Option Nat} :
    (∀ d ∈ limited place count limit, d.Met) ↔ ∀ l ∈ limit, count ≤ l := by
  cases limit with
  | none => simp [limited]
  | some limit => simp [limited, counted, Met]

end Demand

/-- A field or element: how errors name it, its type and its value. -/
structure Member where
  place : String
  type : SszType
  value : Value

/-- The member that a record has for a field. -/
structure Member.IsField (record : String) (v : Value) (f : String × SszType) (m : Member) :
    Prop where
  place : m.place = record ++ "." ++ f.1
  type : m.type = f.2
  value : v.field? f.1 = some m.value

/-- The elements of a sequence. -/
def Member.elements (place : String) (t : SszType) (items : List Value) : List Member :=
  items.map fun v => ⟨place ++ "[]", t, v⟩

mutual

/-- The demands on a value and the length of its encoding. -/
inductive Emits (env : Catalog) : String → SszType → Value → List Demand → Nat → Prop
  | uint {place : String} {width : Nat} {n : Int} :
      Emits env place (.uint width) (.uint n)
        [.check (decide (0 ≤ n ∧ n < 2 ^ (8 * width))) .marshalUint
          (place ++ ": " ++ toString n ++ " does not fit uint" ++ toString (8 * width))] width
  | bool {place : String} {b : Bool} : Emits env place .bool (.bool b) [] 1
  | fixedBytes {place : String} {length : Nat} {bs : List UInt8} :
      Emits env place (.fixedBytes length) (.bytes bs)
        [.counted (bs.length == length) .marshalFixedBytes place bs.length " bytes, expected "
          length] bs.length
  | boundedBytes {place : String} {limit : Nat} {bs : List UInt8} :
      Emits env place (.boundedBytes limit) (.bytes bs)
        [.counted (bs.length ≤ limit) .marshalDynamicBytes place bs.length " bytes > " limit]
        bs.length
  | bitVector {place : String} {length : Nat} {bits : List Bool} :
      Emits env place (.bitVector length) (.ofBits bits)
        [.counted (bits.length == length) .marshalVector place bits.length " bits, expected "
          length] ((length + 7) / 8)
  | packedBits {place : String} {limit : Option Nat} {bits : List Bool} {bs : List UInt8}
      (h : Bits.Packed (bits ++ [true]) bs) :
      Emits env place (.packedBits limit) (.bytes bs) (Demand.limited place bits.length limit)
        bs.length
  | undelimited {place : String} {limit : Option Nat} {bs : List UInt8}
      (h : bs.getLast?.getD 0 = 0) :
      Emits env place (.packedBits limit) (.bytes bs)
        [.check false .bitfield "bitlist delimiter bit is missing"] bs.length
  | bitList {place : String} {limit : Option Nat} {bits : List Bool} :
      Emits env place (.bitList limit) (.ofBits bits) (Demand.limited place bits.length limit)
        (bits.length / 8 + 1)
  | vector {place : String} {length m n : Nat} {element : SszType} {items : List Value}
      {ds ds' : List Demand} (hheads : EmitsHeads env (Member.elements place element items) ds m)
      (hbodies : EmitsBodies env m (Member.elements place element items) ds' n) :
      Emits env place (.vector length element) (.list items)
        (.counted (items.length == length) .marshalVector place items.length
          " elements, expected " length :: (ds ++ ds')) (m + n)
  | list {place : String} {limit m n : Nat} {element : SszType} {items : List Value}
      {ds ds' : List Demand} (hheads : EmitsHeads env (Member.elements place element items) ds m)
      (hbodies : EmitsBodies env m (Member.elements place element items) ds' n) :
      Emits env place (.list limit element) (.list items)
        (.counted (items.length ≤ limit) .marshalList place items.length " elements > " limit ::
          (ds ++ ds')) (m + n)
  | record {place name : String} {fields : Fields} {v : Value} {ms : List Member} {m n : Nat}
      {ds ds' : List Demand} (hr : env name = some fields)
      (hms : List.Forall₂ (Member.IsField name v) fields ms) (hheads : EmitsHeads env ms ds m)
      (hbodies : EmitsBodies env m ms ds' n) :
      Emits env place (.record name) v (ds ++ ds') (m + n)

/-- The demands on the fixed members, and the length of the region of heads. -/
inductive EmitsHeads (env : Catalog) : List Member → List Demand → Nat → Prop
  | nil : EmitsHeads env [] [] 0
  | inline {m : Member} {ms : List Member} {ds ds' : List Demand} {n n' : Nat}
      (hd : ¬env.IsDynamic m.type) (h : Emits env m.place m.type m.value ds n)
      (hs : EmitsHeads env ms ds' n') : EmitsHeads env (m :: ms) (ds ++ ds') (n + n')
  | offset {m : Member} {ms : List Member} {ds : List Demand} {n : Nat}
      (hd : env.IsDynamic m.type) (hs : EmitsHeads env ms ds n) :
      EmitsHeads env (m :: ms) ds (offsetBytes + n)

/-- The demands on the dynamic members and their offsets, where the first of them begins at a
position, and the length of these members. -/
inductive EmitsBodies (env : Catalog) : Nat → List Member → List Demand → Nat → Prop
  | nil {next : Nat} : EmitsBodies env next [] [] 0
  | inline {next : Nat} {m : Member} {ms : List Member} {ds : List Demand} {n : Nat}
      (hd : ¬env.IsDynamic m.type) (hs : EmitsBodies env next ms ds n) :
      EmitsBodies env next (m :: ms) ds n
  | offset {next : Nat} {m : Member} {ms : List Member} {ds ds' : List Demand} {n n' : Nat}
      (hd : env.IsDynamic m.type) (h : Emits env m.place m.type m.value ds n)
      (hs : EmitsBodies env (next + n) ms ds' n') :
      EmitsBodies env next (m :: ms) (.offset next :: (ds ++ ds')) (n + n')

end

namespace Bits

variable {bs : List UInt8} {bits bits' : List Bool}

/-- The delimiter is missing if there are no bytes or the last one is zero. -/
theorem listLength_of_undelimited (h : bs.getLast?.getD 0 = 0) :
    listLength bs = .error missingDelimiter := by
  unfold listLength
  cases hlast : bs.getLast? with
  | none => rfl
  | some last =>
    rw [hlast] at h
    exact if_pos h

theorem not_packed_of_undelimited (h : bs.getLast?.getD 0 = 0) : ¬Packed (bits ++ [true]) bs := by
  intro hp
  have hlength := listLength_eq_ok_iff.mpr ⟨bits, rfl, hp⟩
  rw [listLength_of_undelimited h] at hlength
  cases hlength

theorem length_eq_of_packed (h : Packed (bits ++ [true]) bs) (h' : Packed (bits' ++ [true]) bs) :
    bits.length = bits'.length :=
  Except.ok.inj ((listLength_eq_ok_iff.mpr ⟨bits, rfl, h⟩).symm.trans
    (listLength_eq_ok_iff.mpr ⟨bits', rfl, h'⟩))

end Bits

theorem Value.ofBits_inj {bits bits' : List Bool} (h : Value.ofBits bits = .ofBits bits') :
    bits = bits' :=
  Option.some.inj ((Value.bits?_eq_some_iff.mpr rfl).symm.trans (Value.bits?_eq_some_iff.mpr h))

/-- The members of some kind conform. -/
def Conforming (env : Catalog) (P : SszType → Prop) (ms : List Member) : Prop :=
  ∀ m ∈ ms, P m.type → Conforms env m.type m.value

theorem conforming_cons_iff {P : SszType → Prop} {m : Member} {ms : List Member} :
    Conforming env P (m :: ms) ↔
      (P m.type → Conforms env m.type m.value) ∧ Conforming env P ms :=
  List.forall_mem_cons

/-- All members conform if the fixed ones and the dynamic ones do. -/
theorem conforming_iff {ms : List Member} :
    (∀ m ∈ ms, Conforms env m.type m.value) ↔
      Conforming env (fun t => ¬env.IsDynamic t) ms ∧ Conforming env env.IsDynamic ms := by
  refine ⟨fun h => ⟨fun m hm _ => h m hm, fun m hm _ => h m hm⟩, fun ⟨hfixed, hdynamic⟩ m hm => ?_⟩
  by_cases hd : env.IsDynamic m.type
  · exact hdynamic m hm hd
  · exact hfixed m hm hd

/-- Elements conform as members of their sequence. -/
theorem conforms_elements_iff {place : String} {t : SszType} {items : List Value} :
    (∀ m ∈ Member.elements place t items, Conforms env m.type m.value) ↔
      ∀ v ∈ items, Conforms env t v :=
  List.forall_mem_map

/-- A record conforms if its members do. -/
theorem conforms_record_iff {name : String} {v : Value} {fields : Fields} {ms : List Member}
    (hr : env name = some fields) (hms : List.Forall₂ (Member.IsField name v) fields ms) :
    Conforms env (.record name) v ↔ ∀ m ∈ ms, Conforms env m.type m.value := by
  constructor
  · intro h m hm
    cases h with
    | record hr' hv h =>
      obtain rfl := Option.some.inj (hr.symm.trans hr')
      obtain ⟨f, hf, hfield⟩ := exists_of_forall₂ hms.flip hm
      rw [hfield.type]
      exact h f hf m.value hfield.value
  · intro h
    refine .record hr (fun f hf => ?_) fun f hf u hu => ?_
    · obtain ⟨m, -, hfield⟩ := exists_of_forall₂ hms hf
      rw [hfield.value]
      rfl
    · obtain ⟨m, hm, hfield⟩ := exists_of_forall₂ hms hf
      obtain rfl := Option.some.inj (hfield.value.symm.trans hu)
      rw [← hfield.type]
      exact h m hm

theorem conforms_vector_iff {length : Nat} {element : SszType} {items : List Value} :
    Conforms env (.vector length element) (.list items) ↔
      items.length = length ∧ ∀ v ∈ items, Conforms env element v :=
  ⟨fun h => by cases h with | vector hl h => exact ⟨hl, h⟩, fun h => .vector h.1 h.2⟩

theorem conforms_list_iff {limit : Nat} {element : SszType} {items : List Value} :
    Conforms env (.list limit element) (.list items) ↔
      items.length ≤ limit ∧ ∀ v ∈ items, Conforms env element v :=
  ⟨fun h => by cases h with | list hl h => exact ⟨hl, h⟩, fun h => .list h.1 h.2⟩

theorem conforms_bitVector_iff {length : Nat} {bits : List Bool} :
    Conforms env (.bitVector length) (.ofBits bits) ↔ bits.length = length := by
  refine ⟨fun h => ?_, .bitVector⟩
  generalize hv : Value.ofBits bits = v at h
  cases h with
  | bitVector h => rwa [Value.ofBits_inj hv]

theorem conforms_bitList_iff {limit : Option Nat} {bits : List Bool} :
    Conforms env (.bitList limit) (.ofBits bits) ↔ ∀ l ∈ limit, bits.length ≤ l := by
  refine ⟨fun h => ?_, .bitList⟩
  generalize hv : Value.ofBits bits = v at h
  cases h with
  | bitList h => rwa [Value.ofBits_inj hv]

theorem conforms_packedBits_iff {limit : Option Nat} {bits : List Bool} {bs : List UInt8}
    (hp : Bits.Packed (bits ++ [true]) bs) :
    Conforms env (.packedBits limit) (.bytes bs) ↔ ∀ l ∈ limit, bits.length ≤ l := by
  refine ⟨fun h => ?_, fun h => .packedBits h hp⟩
  cases h with
  | packedBits hl h => rwa [Bits.length_eq_of_packed hp h]

/-- Bytes that hold no bit list do not conform. -/
theorem not_conforms_undelimited {limit : Option Nat} {bs : List UInt8}
    (hlast : bs.getLast?.getD 0 = 0) : ¬Conforms env (.packedBits limit) (.bytes bs) := by
  intro h
  cases h with
  | packedBits hl h => exact Bits.not_packed_of_undelimited hlast h

mutual

/-- A value conforms just if it meets all conditions. -/
theorem Emits.conforms_iff {place : String} {t : SszType} {v : Value} {ds : List Demand} {n : Nat} :
    Emits env place t v ds n → (Conforms env t v ↔ ∀ d ∈ ds, d.Met)
  | .uint => by
    simp only [List.forall_mem_singleton, Demand.Met, decide_eq_true_iff]
    constructor
    · intro h
      cases h with
      | uint h => exact ⟨Int.natCast_nonneg _, by exact_mod_cast h⟩
    · rintro ⟨hpos, h⟩
      obtain ⟨m, rfl⟩ := Int.eq_ofNat_of_zero_le hpos
      exact .uint (by exact_mod_cast h)
  | .bool => ⟨fun _ => List.forall_mem_nil _, fun _ => .bool⟩
  | .fixedBytes => by
    simp only [List.forall_mem_singleton, Demand.counted, Demand.Met, beq_iff_eq]
    exact ⟨fun h => by cases h with | fixedBytes h => exact h, .fixedBytes⟩
  | .boundedBytes => by
    simp only [List.forall_mem_singleton, Demand.counted, Demand.Met, decide_eq_true_iff]
    exact ⟨fun h => by cases h with | boundedBytes h => exact h, .boundedBytes⟩
  | .bitVector => by
    simp only [List.forall_mem_singleton, Demand.counted, Demand.Met, beq_iff_eq]
    exact conforms_bitVector_iff
  | .packedBits h => by
    rw [Demand.met_limited_iff]
    exact conforms_packedBits_iff h
  | .undelimited h => by
    simp only [List.forall_mem_singleton, Demand.Met, Bool.false_eq_true, iff_false]
    exact not_conforms_undelimited h
  | .bitList => by
    rw [Demand.met_limited_iff]
    exact conforms_bitList_iff
  | .vector hheads hbodies => by
    rw [conforms_vector_iff, ← conforms_elements_iff, conforming_iff, hheads.conforms_iff,
      hbodies.conforms_iff, List.forall_mem_cons, List.forall_mem_append]
    simp [Demand.counted, Demand.Met]
  | .list hheads hbodies => by
    rw [conforms_list_iff, ← conforms_elements_iff, conforming_iff, hheads.conforms_iff,
      hbodies.conforms_iff, List.forall_mem_cons, List.forall_mem_append]
    simp [Demand.counted, Demand.Met]
  | .record hr hms hheads hbodies => by
    rw [conforms_record_iff hr hms, conforming_iff, hheads.conforms_iff, hbodies.conforms_iff,
      List.forall_mem_append]

theorem EmitsHeads.conforms_iff {ms : List Member} {ds : List Demand} {n : Nat} :
    EmitsHeads env ms ds n →
      (Conforming env (fun t => ¬env.IsDynamic t) ms ↔ ∀ d ∈ ds, d.Met)
  | .nil => ⟨fun _ => List.forall_mem_nil _, fun _ => List.forall_mem_nil _⟩
  | .inline hd h hs => by
    rw [conforming_cons_iff, List.forall_mem_append, hs.conforms_iff, h.conforms_iff]
    simp [hd]
  | .offset hd hs => by
    rw [conforming_cons_iff, hs.conforms_iff]
    simp [hd]

theorem EmitsBodies.conforms_iff {next : Nat} {ms : List Member} {ds : List Demand} {n : Nat} :
    EmitsBodies env next ms ds n → (Conforming env env.IsDynamic ms ↔ ∀ d ∈ ds, d.Met)
  | .nil => ⟨fun _ => List.forall_mem_nil _, fun _ => List.forall_mem_nil _⟩
  | .inline hd hs => by
    rw [conforming_cons_iff, hs.conforms_iff]
    simp [hd]
  | .offset hd h hs => by
    rw [conforming_cons_iff, List.forall_mem_cons, List.forall_mem_append, hs.conforms_iff,
      h.conforms_iff]
    simp [hd, Demand.Met]

end

end SszSchema
