import SszSchema.Proofs.PackedBits
import SszSchema.Proofs.Parts
import SszSchema.Proofs.SszType

/-!
# Serialization

The encoding of a value by its type, as the format defines it. Numbers are little-endian, bits are
packed, and a container or sequence is the layout of the encodings of its members, each of which
stands in the region of heads unless its type is dynamic. There is no buffer here: the encoding of a
whole is put together from the encodings of its members.

`Conforms` says that a value has the shape of a type and keeps to its bounds, `Same` that two values
agree on all fields of the type, and `Exact` that the records in a value have no other fields.
-/

namespace SszSchema

variable {env : Catalog}

mutual

/-- The bytes are the encoding of the value. -/
inductive Serialized (env : Catalog) : SszType → Value → List UInt8 → Prop
  | uint {width n : Nat} (h : n < 2 ^ (8 * width)) :
      Serialized env (.uint width) (.uint n) (Bytes.littleEndian width n)
  | bool {b : Bool} : Serialized env .bool (.bool b) [if b then 1 else 0]
  | fixedBytes {length : Nat} {bs : List UInt8} (h : bs.length = length) :
      Serialized env (.fixedBytes length) (.bytes bs) bs
  | boundedBytes {limit : Nat} {bs : List UInt8} (h : bs.length ≤ limit) :
      Serialized env (.boundedBytes limit) (.bytes bs) bs
  | bitVector {length : Nat} {bits : List Bool} {bs : List UInt8} (hl : bits.length = length)
      (h : Bits.Packed bits bs) : Serialized env (.bitVector length) (.ofBits bits) bs
  | packedBits {limit : Option Nat} {bits : List Bool} {bs : List UInt8}
      (hl : ∀ l ∈ limit, bits.length ≤ l) (h : Bits.Packed (bits ++ [true]) bs) :
      Serialized env (.packedBits limit) (.bytes bs) bs
  | bitList {limit : Option Nat} {bits : List Bool} {bs : List UInt8}
      (hl : ∀ l ∈ limit, bits.length ≤ l) (h : Bits.Packed (bits ++ [true]) bs) :
      Serialized env (.bitList limit) (.ofBits bits) bs
  | vector {length : Nat} {element : SszType} {items : List Value} {ps : List Part}
      (hl : items.length = length) (h : SerializedItems env element items ps)
      (hfit : Part.Fit (Part.region ps) ps) :
      Serialized env (.vector length element) (.list items) (Part.layout ps)
  | list {limit : Nat} {element : SszType} {items : List Value} {ps : List Part}
      (hl : items.length ≤ limit) (h : SerializedItems env element items ps)
      (hfit : Part.Fit (Part.region ps) ps) :
      Serialized env (.list limit element) (.list items) (Part.layout ps)
  | record {name : String} {fields : Fields} {v : Value} {ps : List Part}
      (hr : env name = some fields) (h : SerializedFields env v fields ps)
      (hfit : Part.Fit (Part.region ps) ps) :
      Serialized env (.record name) v (Part.layout ps)

/-- The part is the encoding of the value, in its place. -/
inductive SerializedPart (env : Catalog) : SszType → Value → Part → Prop
  | inline {t : SszType} {v : Value} {bs : List UInt8} (hd : ¬env.IsDynamic t)
      (h : Serialized env t v bs) : SerializedPart env t v (.inline bs)
  | offset {t : SszType} {v : Value} {bs : List UInt8} (hd : env.IsDynamic t)
      (h : Serialized env t v bs) : SerializedPart env t v (.offset bs)

/-- The parts are the encodings of the elements. -/
inductive SerializedItems (env : Catalog) : SszType → List Value → List Part → Prop
  | nil {t : SszType} : SerializedItems env t [] []
  | cons {t : SszType} {v : Value} {vs : List Value} {p : Part} {ps : List Part}
      (h : SerializedPart env t v p) (hs : SerializedItems env t vs ps) :
      SerializedItems env t (v :: vs) (p :: ps)

/-- The parts are the encodings of the fields. -/
inductive SerializedFields (env : Catalog) : Value → Fields → List Part → Prop
  | nil {v : Value} : SerializedFields env v [] []
  | cons {v u : Value} {name : String} {t : SszType} {fields : Fields} {p : Part} {ps : List Part}
      (hv : v.field? name = some u) (h : SerializedPart env t u p)
      (hs : SerializedFields env v fields ps) :
      SerializedFields env v ((name, t) :: fields) (p :: ps)

end

/-- The value has the shape of the type and keeps to its bounds. -/
inductive Conforms (env : Catalog) : SszType → Value → Prop
  | uint {width n : Nat} (h : n < 2 ^ (8 * width)) : Conforms env (.uint width) (.uint n)
  | bool {b : Bool} : Conforms env .bool (.bool b)
  | fixedBytes {length : Nat} {bs : List UInt8} (h : bs.length = length) :
      Conforms env (.fixedBytes length) (.bytes bs)
  | boundedBytes {limit : Nat} {bs : List UInt8} (h : bs.length ≤ limit) :
      Conforms env (.boundedBytes limit) (.bytes bs)
  | bitVector {length : Nat} {bits : List Bool} (h : bits.length = length) :
      Conforms env (.bitVector length) (.ofBits bits)
  | packedBits {limit : Option Nat} {bits : List Bool} {bs : List UInt8}
      (hl : ∀ l ∈ limit, bits.length ≤ l) (h : Bits.Packed (bits ++ [true]) bs) :
      Conforms env (.packedBits limit) (.bytes bs)
  | bitList {limit : Option Nat} {bits : List Bool} (h : ∀ l ∈ limit, bits.length ≤ l) :
      Conforms env (.bitList limit) (.ofBits bits)
  | vector {length : Nat} {element : SszType} {items : List Value} (hl : items.length = length)
      (h : ∀ v ∈ items, Conforms env element v) :
      Conforms env (.vector length element) (.list items)
  | list {limit : Nat} {element : SszType} {items : List Value} (hl : items.length ≤ limit)
      (h : ∀ v ∈ items, Conforms env element v) :
      Conforms env (.list limit element) (.list items)
  | record {name : String} {fields : Fields} {v : Value} (hr : env name = some fields)
      (hv : ∀ f ∈ fields, (v.field? f.1).isSome)
      (h : ∀ f ∈ fields, ∀ u, v.field? f.1 = some u → Conforms env f.2 u) :
      Conforms env (.record name) v

/-- A type without members. -/
def SszType.isLeaf : SszType → Bool
  | .vector _ _ | .list _ _ | .record _ => false
  | _ => true

/-- The values agree on all fields of the type, at every level. -/
inductive Same (env : Catalog) : SszType → Value → Value → Prop
  | leaf {t : SszType} {v : Value} (ht : t.isLeaf) : Same env t v v
  | vector {length : Nat} {element : SszType} {vs ws : List Value} (hl : vs.length = ws.length)
      (h : ∀ p ∈ vs.zip ws, Same env element p.1 p.2) :
      Same env (.vector length element) (.list vs) (.list ws)
  | list {limit : Nat} {element : SszType} {vs ws : List Value} (hl : vs.length = ws.length)
      (h : ∀ p ∈ vs.zip ws, Same env element p.1 p.2) :
      Same env (.list limit element) (.list vs) (.list ws)
  | record {name : String} {fields : Fields} {v w : Value} (hr : env name = some fields)
      (hv : ∀ f ∈ fields, (v.field? f.1).isSome) (hw : ∀ f ∈ fields, (w.field? f.1).isSome)
      (h : ∀ f ∈ fields, ∀ u u', v.field? f.1 = some u → w.field? f.1 = some u' →
        Same env f.2 u u') : Same env (.record name) v w

/-- The records in the value have just the fields that they are declared with, in order. -/
inductive Exact (env : Catalog) : SszType → Value → Prop
  | leaf {t : SszType} {v : Value} (ht : t.isLeaf) : Exact env t v
  | vector {length : Nat} {element : SszType} {items : List Value}
      (h : ∀ v ∈ items, Exact env element v) : Exact env (.vector length element) (.list items)
  | list {limit : Nat} {element : SszType} {items : List Value}
      (h : ∀ v ∈ items, Exact env element v) : Exact env (.list limit element) (.list items)
  | record {name : String} {fields : Fields} {es : List (String × Value)}
      (hr : env name = some fields) (hn : es.map (·.1) = fields.map (·.1))
      (h : ∀ f ∈ fields, ∀ u, (Value.record es).field? f.1 = some u → Exact env f.2 u) :
      Exact env (.record name) (.record es)

/-! ## Members -/

/-- The bytes are the layout of encoded elements. -/
def SerializedSequence (env : Catalog) (t : SszType) (items : List Value) (bs : List UInt8) :
    Prop :=
  ∃ ps, List.Forall₂ (SerializedPart env t) items ps ∧ Part.Fit (Part.region ps) ps ∧
    Part.layout ps = bs

/-- The part is the encoding of a field of the value. -/
def SerializedField (env : Catalog) (v : Value) (f : String × SszType) (p : Part) : Prop :=
  ∃ u, v.field? f.1 = some u ∧ SerializedPart env f.2 u p

theorem serializedItems_iff {t : SszType} {vs : List Value} {ps : List Part} :
    SerializedItems env t vs ps ↔ List.Forall₂ (SerializedPart env t) vs ps := by
  constructor
  · intro h
    induction vs generalizing ps with
    | nil => cases h; exact .nil
    | cons v vs ih => cases h with | cons h hs => exact .cons h (ih hs)
  · intro h
    induction h with
    | nil => exact .nil
    | cons h _ ih => exact .cons h ih

theorem serializedFields_iff {v : Value} {fields : Fields} {ps : List Part} :
    SerializedFields env v fields ps ↔ List.Forall₂ (SerializedField env v) fields ps := by
  constructor
  · intro h
    induction fields generalizing ps with
    | nil => cases h; exact .nil
    | cons f fields ih => cases h with | cons hv h hs => exact .cons ⟨_, hv, h⟩ (ih hs)
  · intro h
    induction h with
    | nil => exact .nil
    | cons h _ ih =>
      obtain ⟨u, hv, h⟩ := h
      exact .cons hv h ih

theorem serialized_bitVector_iff {length : Nat} {v : Value} {bs : List UInt8} :
    Serialized env (.bitVector length) v bs ↔
      ∃ bits, v = .ofBits bits ∧ bits.length = length ∧ Bits.Packed bits bs := by
  constructor
  · intro h
    cases h with
    | bitVector hl h => exact ⟨_, rfl, hl, h⟩
  · rintro ⟨bits, rfl, hl, h⟩
    exact .bitVector hl h

theorem serialized_bitList_iff {limit : Option Nat} {v : Value} {bs : List UInt8} :
    Serialized env (.bitList limit) v bs ↔
      ∃ bits, v = .ofBits bits ∧ Bits.Packed (bits ++ [true]) bs ∧
        ∀ l ∈ limit, bits.length ≤ l := by
  constructor
  · intro h
    cases h with
    | bitList hl h => exact ⟨_, rfl, h, hl⟩
  · rintro ⟨bits, rfl, h, hl⟩
    exact .bitList hl h

theorem serialized_packedBits_iff {limit : Option Nat} {v : Value} {bs : List UInt8} :
    Serialized env (.packedBits limit) v bs ↔ v = .bytes bs ∧
      ∃ bits, Bits.Packed (bits ++ [true]) bs ∧ ∀ l ∈ limit, bits.length ≤ l := by
  constructor
  · intro h
    cases h with
    | packedBits hl h => exact ⟨rfl, _, h, hl⟩
  · rintro ⟨rfl, bits, h, hl⟩
    exact .packedBits hl h

theorem serialized_vector_iff {length : Nat} {element : SszType} {v : Value} {bs : List UInt8} :
    Serialized env (.vector length element) v bs ↔ ∃ items, v = .list items ∧
      items.length = length ∧ SerializedSequence env element items bs := by
  constructor
  · intro h
    cases h with
    | vector hl h hfit => exact ⟨_, rfl, hl, _, serializedItems_iff.mp h, hfit, rfl⟩
  · rintro ⟨items, rfl, hl, ps, h, hfit, rfl⟩
    exact .vector hl (serializedItems_iff.mpr h) hfit

theorem serialized_list_iff {limit : Nat} {element : SszType} {v : Value} {bs : List UInt8} :
    Serialized env (.list limit element) v bs ↔ ∃ items, v = .list items ∧
      items.length ≤ limit ∧ SerializedSequence env element items bs := by
  constructor
  · intro h
    cases h with
    | list hl h hfit => exact ⟨_, rfl, hl, _, serializedItems_iff.mp h, hfit, rfl⟩
  · rintro ⟨items, rfl, hl, ps, h, hfit, rfl⟩
    exact .list hl (serializedItems_iff.mpr h) hfit

theorem serialized_record_iff {name : String} {fields : Fields} (hr : env name = some fields)
    {v : Value} {bs : List UInt8} :
    Serialized env (.record name) v bs ↔ ∃ ps, List.Forall₂ (SerializedField env v) fields ps ∧
      Part.Fit (Part.region ps) ps ∧ Part.layout ps = bs := by
  constructor
  · intro h
    cases h with
    | record hr' h hfit =>
      obtain rfl := Option.some.inj (hr.symm.trans hr')
      exact ⟨_, serializedFields_iff.mp h, hfit, rfl⟩
  · rintro ⟨ps, h, hfit, rfl⟩
    exact .record hr (serializedFields_iff.mpr h) hfit

theorem SerializedPart.serialized {t : SszType} {v : Value} {p : Part}
    (h : SerializedPart env t v p) : Serialized env t v p.bytes := by
  cases h <;> assumption

/-! ## Values -/

theorem Value.depth_lt_of_mem {v : Value} {items : List Value} (h : v ∈ items) :
    v.depth < (Value.list items).depth := by
  have hle : v.depth ≤ Value.depthItems items := by
    induction items with
    | nil => simp at h
    | cons w items ih =>
      rw [Value.depthItems]
      rcases List.mem_cons.mp h with rfl | h
      · exact Nat.le_max_left _ _
      · exact Nat.le_trans (ih h) (Nat.le_max_right _ _)
  rw [Value.depth]
  omega

theorem Value.depth_lt_of_field? {v u : Value} {name : String} (h : v.field? name = some u) :
    u.depth < v.depth := by
  cases v with
  | record fields =>
    have hle : u.depth ≤ Value.depthFields fields := by
      induction fields with
      | nil => simp [Value.field?] at h
      | cons f fields ih =>
        rw [Value.depthFields]
        by_cases hname : f.1 = name
        · obtain rfl : f.2 = u := by simpa [Value.field?, hname] using h
          exact Nat.le_max_left _ _
        · have h' : (Value.record fields).field? name = some u := by
            simpa [Value.field?, hname] using h
          exact Nat.le_trans (ih h') (Nat.le_max_right _ _)
    rw [Value.depth]
    omega
  | _ => simp [Value.field?] at h

theorem Value.bits?_eq_some_iff {v : Value} {bits : List Bool} :
    v.bits? = some bits ↔ v = .ofBits bits := by
  cases v with
  | list items =>
    have hbool (u : Value) (b : Bool) : u.bool? = some b ↔ u = .bool b := by
      cases u <;> simp [Value.bool?]
    simp only [Value.bits?, Outcome.mapM_eq_some_iff, hbool, Value.ofBits, Value.list.injEq]
    rw [← List.forall₂_map_right_iff, List.forall₂_eq_eq_eq]
  | _ => simp [Value.bits?, Value.ofBits]

theorem Value.field?_of_mem {es : List (String × Value)} (hn : (es.map (·.1)).Nodup)
    {e : String × Value} (he : e ∈ es) : (Value.record es).field? e.1 = some e.2 := by
  induction es with
  | nil => simp at he
  | cons d es ih =>
    obtain ⟨hd, hn⟩ := List.nodup_cons.mp hn
    rcases List.mem_cons.mp he with rfl | he
    · simp [Value.field?]
    · have hne : ¬d.1 = e.1 := fun h => hd (List.mem_map.mpr ⟨e, he, h.symm⟩)
      simpa [Value.field?, hne] using ih hn he

/-! ## Sizes and bounds -/

mutual

/-- A value that has an encoding keeps to the bounds of its type. -/
theorem Serialized.conforms {t : SszType} {v : Value} {bs : List UInt8} :
    Serialized env t v bs → Conforms env t v
  | .uint h => .uint h
  | .bool => .bool
  | .fixedBytes h => .fixedBytes h
  | .boundedBytes h => .boundedBytes h
  | .bitVector hl _ => .bitVector hl
  | .packedBits hl h => .packedBits hl h
  | .bitList hl _ => .bitList hl
  | .vector hl h _ => .vector hl h.conforms
  | .list hl h _ => .list hl h.conforms
  | .record hr h _ => .record hr h.isSome h.conforms

theorem SerializedPart.conforms {t : SszType} {v : Value} {p : Part} :
    SerializedPart env t v p → Conforms env t v
  | .inline _ h => h.conforms
  | .offset _ h => h.conforms

theorem SerializedItems.conforms {t : SszType} {vs : List Value} {ps : List Part} :
    SerializedItems env t vs ps → ∀ v ∈ vs, Conforms env t v
  | .nil => nofun
  | .cons h hs => List.forall_mem_cons.mpr ⟨h.conforms, hs.conforms⟩

theorem SerializedFields.conforms {v : Value} {fields : Fields} {ps : List Part} :
    SerializedFields env v fields ps →
      ∀ f ∈ fields, ∀ u, v.field? f.1 = some u → Conforms env f.2 u
  | .nil => nofun
  | .cons hv h hs => List.forall_mem_cons.mpr
      ⟨fun _ hu => Option.some.inj (hv.symm.trans hu) ▸ h.conforms, hs.conforms⟩

theorem SerializedFields.isSome {v : Value} {fields : Fields} {ps : List Part} :
    SerializedFields env v fields ps → ∀ f ∈ fields, (v.field? f.1).isSome
  | .nil => nofun
  | .cons hv _ hs => List.forall_mem_cons.mpr ⟨Option.isSome_of_eq_some hv, hs.isSome⟩

end

/-- Parts of given sizes that all stand in the region of heads. -/
theorem length_layout_of_inline {α : Type} {l : List α} {ps : List Part} {size : α → Nat}
    (h : List.Forall₂ (fun a p => p.body = [] ∧ p.width = size a) l ps) :
    (Part.layout ps).length = (l.map size).sum := by
  rw [Part.length_layout]
  induction h with
  | nil => rfl
  | cons h _ ih =>
    simp only [Part.region_cons, Part.bodies_cons, h.1, h.2, List.nil_append, List.map_cons,
      List.sum_cons]
    omega

/-- A part of a type of one size stands in the region of heads. -/
theorem SerializedPart.inline_of_hasSize {t : SszType} {n : Nat} (hs : env.HasSize t n)
    (hl : ∀ {v bs}, Serialized env t v bs → bs.length = n) {v : Value} {p : Part}
    (h : SerializedPart env t v p) : p.body = [] ∧ p.width = n := by
  cases h with
  | inline _ h => exact ⟨rfl, hl h⟩
  | offset hd _ => exact absurd hd hs.not_isDynamic

/-- All encodings of a type that has a size are of that size. -/
theorem Serialized.length_eq {t : SszType} {n : Nat} (hs : env.HasSize t n) {v : Value}
    {bs : List UInt8} (h : Serialized env t v bs) : bs.length = n := by
  induction hs generalizing v bs with
  | uint => cases h; simp
  | bool => cases h; rfl
  | fixedBytes => cases h; assumption
  | bitVector =>
    cases h with
    | bitVector hl h => rw [h.1, hl]
  | @vector length size element hs ih =>
    obtain ⟨items, rfl, rfl, ps, hparts, -, rfl⟩ := serialized_vector_iff.mp h
    rw [length_layout_of_inline (hparts.imp fun _ _ hp => hp.inline_of_hasSize hs ih),
      List.map_const', List.sum_replicate, Nat.nsmul_eq_mul]
  | @record name fields size hr hs ih =>
    obtain ⟨ps, hparts, -, rfl⟩ := (serialized_record_iff hr).mp h
    refine length_layout_of_inline (forall₂_imp_of_mem hparts ?_)
    rintro f hf p ⟨u, -, hp⟩
    exact hp.inline_of_hasSize (hs f hf) (ih f hf)

/-! ## Exact values -/

/-- The fields of an exact record and their encodings, one by one. -/
inductive ReadFields (env : Catalog) : Fields → List (String × Value) → List Part → Prop
  | nil : ReadFields env [] [] []
  | cons {name : String} {t : SszType} {fields : Fields} {u : Value} {es : List (String × Value)}
      {p : Part} {ps : List Part} (he : Exact env t u) (h : SerializedPart env t u p)
      (hs : ReadFields env fields es ps) :
      ReadFields env ((name, t) :: fields) ((name, u) :: es) (p :: ps)

theorem ReadFields.names {fields : Fields} {es : List (String × Value)} {ps : List Part}
    (h : ReadFields env fields es ps) : es.map (·.1) = fields.map (·.1) := by
  induction h with
  | nil => rfl
  | cons _ _ _ ih => simp [ih]

theorem readFields_iff {v : Value} {fields : Fields} {es : List (String × Value)} {ps : List Part}
    (hes : ∀ e ∈ es, v.field? e.1 = some e.2) :
    ReadFields env fields es ps ↔ es.map (·.1) = fields.map (·.1) ∧
      (∀ f ∈ fields, ∀ u, v.field? f.1 = some u → Exact env f.2 u) ∧
        List.Forall₂ (SerializedField env v) fields ps := by
  constructor
  · intro h
    refine ⟨h.names, ?_⟩
    induction h with
    | nil => exact ⟨nofun, .nil⟩
    | cons he h _ ih =>
      obtain ⟨hu, hes⟩ := List.forall_mem_cons.mp hes
      obtain ⟨hexact, hparts⟩ := ih hes
      refine ⟨List.forall_mem_cons.mpr ⟨fun u hv => ?_, hexact⟩, .cons ⟨_, hu, h⟩ hparts⟩
      exact Option.some.inj (hu.symm.trans hv) ▸ he
  · rintro ⟨hn, hexact, hparts⟩
    induction hparts generalizing es with
    | nil =>
      obtain rfl : es = [] := by simpa using hn
      exact .nil
    | @cons f p fields ps hp _ ih =>
      obtain ⟨name, t⟩ := f
      cases es with
      | nil => simp at hn
      | cons e es =>
        obtain ⟨name', u⟩ := e
        simp only [List.map_cons, List.cons.injEq] at hn
        obtain ⟨rfl, hn⟩ := hn
        obtain ⟨hu, hes⟩ := List.forall_mem_cons.mp hes
        obtain ⟨hexact, hrest⟩ := List.forall_mem_cons.mp hexact
        obtain ⟨u', hu', hp⟩ := hp
        obtain rfl := Option.some.inj (hu.symm.trans hu')
        exact .cons (hexact u hu) hp (ih hes hn hrest)

/-- The encoding of an exact record, field by field. -/
theorem serialized_exact_record_iff {name : String} {fields : Fields} (hr : env name = some fields)
    (hn : (fields.map (·.1)).Nodup) {w : Value} {bs : List UInt8} :
    Serialized env (.record name) w bs ∧ Exact env (.record name) w ↔
      ∃ es ps, w = .record es ∧ ReadFields env fields es ps ∧ Part.Fit (Part.region ps) ps ∧
        Part.layout ps = bs := by
  constructor
  · rintro ⟨hs, he⟩
    obtain ⟨ps, hparts, hfit, rfl⟩ := (serialized_record_iff hr).mp hs
    cases he with
    | leaf ht => simp [SszType.isLeaf] at ht
    | record hr' hnames hexact =>
      obtain rfl := Option.some.inj (hr.symm.trans hr')
      have hread := (readFields_iff fun e => Value.field?_of_mem (hnames ▸ hn)).mpr
        ⟨hnames, hexact, hparts⟩
      exact ⟨_, ps, rfl, hread, hfit, rfl⟩
  · rintro ⟨es, ps, rfl, h, hfit, rfl⟩
    obtain ⟨hnames, hexact, hparts⟩ :=
      (readFields_iff fun e => Value.field?_of_mem (h.names ▸ hn)).mp h
    exact ⟨(serialized_record_iff hr).mpr ⟨ps, hparts, hfit, rfl⟩, .record hr hnames hexact⟩

/-- A record with the same fields, one by one. -/
theorem Same.of_fields {name : String} {fields : Fields} (hr : env name = some fields)
    (hn : (fields.map (·.1)).Nodup) {v : Value} {es : List (String × Value)}
    (hnames : es.map (·.1) = fields.map (·.1))
    (h : List.Forall₂ (fun f e => e.1 = f.1 ∧ ∃ u, v.field? f.1 = some u ∧ Same env f.2 u e.2)
      fields es) : Same env (.record name) v (.record es) := by
  have hfield : ∀ f ∈ fields, ∃ u u', v.field? f.1 = some u ∧
      (Value.record es).field? f.1 = some u' ∧ Same env f.2 u u' := by
    intro f hf
    obtain ⟨e, he, hname, u, hu, hsame⟩ := exists_of_forall₂ h hf
    exact ⟨u, e.2, hu, hname ▸ Value.field?_of_mem (hnames ▸ hn) he, hsame⟩
  refine .record hr (fun f hf => ?_) (fun f hf => ?_) fun f hf u u' hu hu' => ?_
  · obtain ⟨u, -, hu, -⟩ := hfield f hf
    exact Option.isSome_of_eq_some hu
  · obtain ⟨-, u', -, hu', -⟩ := hfield f hf
    exact Option.isSome_of_eq_some hu'
  · obtain ⟨w, w', hw, hw', hsame⟩ := hfield f hf
    obtain rfl := Option.some.inj (hu.symm.trans hw)
    obtain rfl := Option.some.inj (hu'.symm.trans hw')
    exact hsame

/-- A set of records that mention no others, each with fields of different names. -/
structure Catalog.Closed (env : Catalog) (known : String → Prop) : Prop where
  declared : ∀ {name}, known name → ∃ fields, env name = some fields
  distinct : ∀ {name fields}, known name → env name = some fields → (fields.map (·.1)).Nodup
  closed : ∀ {name fields}, known name → env name = some fields →
    ∀ f ∈ fields, ∀ inner, f.2.innermost = some inner → known inner

section

variable {known : String → Prop}

mutual

/-- A value with an encoding has an exact one that is the same and encoded alike. -/
theorem Serialized.exact (hc : env.Closed known) {t : SszType} {v : Value} {bs : List UInt8} :
    Serialized env t v bs → (∀ name, t.innermost = some name → known name) →
      ∃ w, Exact env t w ∧ Same env t v w ∧ Serialized env t w bs
  | .uint h, _ => ⟨_, .leaf rfl, .leaf rfl, .uint h⟩
  | .bool, _ => ⟨_, .leaf rfl, .leaf rfl, .bool⟩
  | .fixedBytes h, _ => ⟨_, .leaf rfl, .leaf rfl, .fixedBytes h⟩
  | .boundedBytes h, _ => ⟨_, .leaf rfl, .leaf rfl, .boundedBytes h⟩
  | .bitVector hl h, _ => ⟨_, .leaf rfl, .leaf rfl, .bitVector hl h⟩
  | .packedBits hl h, _ => ⟨_, .leaf rfl, .leaf rfl, .packedBits hl h⟩
  | .bitList hl h, _ => ⟨_, .leaf rfl, .leaf rfl, .bitList hl h⟩
  | .vector hl h hfit, ht => by
    obtain ⟨ws, hlength, hexact, hsame, hs⟩ := h.exact hc ht
    exact ⟨_, .vector hexact, .vector hlength hsame, .vector (hlength ▸ hl) hs hfit⟩
  | .list hl h hfit, ht => by
    obtain ⟨ws, hlength, hexact, hsame, hs⟩ := h.exact hc ht
    exact ⟨_, .list hexact, .list hlength hsame, .list (hlength ▸ hl) hs hfit⟩
  | .record hr h hfit, ht => by
    have hn := hc.distinct (ht _ rfl) hr
    obtain ⟨es, hread, hsame⟩ := h.exact hc (hc.closed (ht _ rfl) hr)
    obtain ⟨hs, he⟩ := (serialized_exact_record_iff hr hn).mpr ⟨es, _, rfl, hread, hfit, rfl⟩
    exact ⟨_, he, .of_fields hr hn hread.names hsame, hs⟩

theorem SerializedPart.exact (hc : env.Closed known) {t : SszType} {v : Value} {p : Part} :
    SerializedPart env t v p → (∀ name, t.innermost = some name → known name) →
      ∃ w, Exact env t w ∧ Same env t v w ∧ SerializedPart env t w p
  | .inline hd h, ht => by
    obtain ⟨w, he, hs, h⟩ := h.exact hc ht
    exact ⟨w, he, hs, .inline hd h⟩
  | .offset hd h, ht => by
    obtain ⟨w, he, hs, h⟩ := h.exact hc ht
    exact ⟨w, he, hs, .offset hd h⟩

theorem SerializedItems.exact (hc : env.Closed known) {t : SszType} {vs : List Value}
    {ps : List Part} :
    SerializedItems env t vs ps → (∀ name, t.innermost = some name → known name) →
      ∃ ws, vs.length = ws.length ∧ (∀ w ∈ ws, Exact env t w) ∧
        (∀ p ∈ vs.zip ws, Same env t p.1 p.2) ∧ SerializedItems env t ws ps
  | .nil, _ => ⟨[], rfl, nofun, nofun, .nil⟩
  | .cons h hs, ht => by
    obtain ⟨w, he, hsame, h⟩ := h.exact hc ht
    obtain ⟨ws, hlength, hes, hsames, hs⟩ := hs.exact hc ht
    exact ⟨w :: ws, congrArg (· + 1) hlength, List.forall_mem_cons.mpr ⟨he, hes⟩,
      List.forall_mem_cons.mpr ⟨hsame, hsames⟩, .cons h hs⟩

theorem SerializedFields.exact (hc : env.Closed known) {v : Value} {fields : Fields}
    {ps : List Part} :
    SerializedFields env v fields ps →
      (∀ f ∈ fields, ∀ name, f.2.innermost = some name → known name) →
        ∃ es, ReadFields env fields es ps ∧ List.Forall₂
          (fun f e => e.1 = f.1 ∧ ∃ u, v.field? f.1 = some u ∧ Same env f.2 u e.2) fields es
  | .nil, _ => ⟨[], .nil, .nil⟩
  | .cons hv h hs, hf => by
    obtain ⟨hf, hfs⟩ := List.forall_mem_cons.mp hf
    obtain ⟨w, he, hsame, h⟩ := h.exact hc hf
    obtain ⟨es, hread, hsames⟩ := hs.exact hc hfs
    exact ⟨(_, w) :: es, .cons he h hread, .cons ⟨rfl, _, hv, hsame⟩ hsames⟩

end

end

end SszSchema
