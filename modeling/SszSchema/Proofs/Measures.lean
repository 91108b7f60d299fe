import SszSchema.Codec.Size
import SszSchema.Proofs.RoundTrip

/-!
# Sizes of encodings

A size routine adds up numbers of elements and bytes and never looks at an encoding. `MeasuredBy`
says when the code that does so is right for a dynamic type, and `MeasuredFields` when a record
measures just its dynamic fields. Such code returns the length of the encoding of every value that
has one (`Measures.size_eq_length`). The code that a schema gives its records is of this kind
(`Accepted.measures`), so its three ways to tell a size agree: the one found by classification, the
one computed from a value, and the number of bytes that the encoder writes.
-/

namespace SszSchema

open Catalog Generation

variable {env : Catalog} {codes : List RecordCode}

/-- The code that computes the size of a dynamic type. -/
inductive MeasuredBy (env : Catalog) : SszType → Measure → Prop
  | boundedBytes {limit : Nat} : MeasuredBy env (.boundedBytes limit) .bytes
  | packedBits {limit : Option Nat} : MeasuredBy env (.packedBits limit) .bytes
  | bitList {limit : Option Nat} : MeasuredBy env (.bitList limit) .bitList
  | record {name : String} : MeasuredBy env (.record name) (.record name)
  | vector {length : Nat} {element : SszType} {item : Measure} (hd : env.IsDynamic element)
      (h : MeasuredBy env element item) : MeasuredBy env (.vector length element) (.dynamicItems item)
  | fixedList {limit size : Nat} {element : SszType} (hs : env.HasSize element size) :
      MeasuredBy env (.list limit element) (.fixedItems (some size))
  | list {limit : Nat} {element : SszType} {item : Measure} (hd : env.IsDynamic element)
      (h : MeasuredBy env element item) : MeasuredBy env (.list limit element) (.dynamicItems item)

/-- The dynamic fields have code for their sizes, and the others have none. -/
inductive MeasuredFields (env : Catalog) : Fields → List (String × Measure) → Prop
  | nil : MeasuredFields env [] []
  | inline {f : String × SszType} {fields : Fields} {ms : List (String × Measure)}
      (hd : ¬env.IsDynamic f.2) (h : MeasuredFields env fields ms) :
      MeasuredFields env (f :: fields) ms
  | dynamic {name : String} {t : SszType} {m : Measure} {fields : Fields}
      {ms : List (String × Measure)} (hd : env.IsDynamic t) (hm : MeasuredBy env t m)
      (h : MeasuredFields env fields ms) :
      MeasuredFields env ((name, t) :: fields) ((name, m) :: ms)

/-- Every dynamic record has code for the sizes of its dynamic fields. -/
structure Measures (env : Catalog) (codes : List RecordCode) : Prop where
  fields : ∀ {name c fields}, RecordCode.find? codes name = some c → env name = some fields →
    c.isDynamic = true → MeasuredFields env fields c.measures

/-! ## Sizes of values -/

/-- The length of a sequence of elements of one size. -/
theorem SerializedSequence.length_of_hasSize {t : SszType} {n : Nat} {items : List Value}
    {bs : List UInt8} (h : SerializedSequence env t items bs) (hs : env.HasSize t n) :
    bs.length = items.length * n := by
  obtain ⟨ps, hparts, -, rfl⟩ := h
  rw [length_layout_of_inline (hparts.imp fun _ _ hp =>
      hp.inline_of_hasSize hs fun hv => hv.length_eq hs),
    List.map_const', List.sum_replicate, Nat.nsmul_eq_mul]

/-- The sizes of dynamic elements and of their offsets add up to the length of the sequence. -/
theorem SerializedSequence.sum_eq_length {t : SszType} {size : Value → Except Fault Nat}
    {items : List Value} {bs : List UInt8} (h : SerializedSequence env t items bs)
    (hd : env.IsDynamic t)
    (hsize : ∀ v ∈ items, ∀ bs, Serialized env t v bs → size v = .ok bs.length) :
    Measure.sum size items = .ok bs.length := by
  obtain ⟨ps, hparts, -, rfl⟩ := h
  rw [Part.length_layout]
  induction hparts with
  | nil => rfl
  | @cons v p items ps hp _ ih =>
    obtain ⟨hv, hrest⟩ := List.forall_mem_cons.mp hsize
    cases hp with
    | inline hd' => exact absurd hd hd'
    | offset _ hs =>
      rw [Measure.sum, hv _ hs, ih hrest, Part.region_cons, Part.bodies_cons, List.length_append,
        Part.width, Part.body]
      simp only [bind, Except.bind, pure, Except.pure, Except.ok.injEq]
      omega

/-- The size of a dynamic value is the length of its encoding, if the routines that are called
return such sizes. -/
theorem MeasuredBy.run_eq_length {t : SszType} {m : Measure} (h : MeasuredBy env t m)
    {call : String → Value → Except Fault Nat} {bound : Nat}
    (hcall : ∀ name, t.innermost = some name → ∀ w, w.depth ≤ bound → ∀ bs,
      Serialized env (.record name) w bs → call name w = .ok bs.length)
    {v : Value} (hv : v.depth ≤ bound) {bs : List UInt8} (hs : Serialized env t v bs) :
    m.run call v = .ok bs.length := by
  induction h generalizing v bs with
  | boundedBytes => cases hs; rfl
  | packedBits => cases hs; rfl
  | bitList =>
    cases hs with
    | @bitList _ bits _ _ h =>
      rw [(Bits.packed_concat_iff.mp h).1, Measure.run, Value.ofBits, Measure.length, List.length_map]
      rfl
  | record => exact hcall _ rfl v hv bs hs
  | vector hd _ ih =>
    obtain ⟨items, rfl, -, hitems⟩ := serialized_vector_iff.mp hs
    rw [Measure.run]
    exact hitems.sum_eq_length hd fun v hmem bs =>
      ih hcall (Nat.le_trans (Nat.le_of_lt (Value.depth_lt_of_mem hmem)) hv)
  | fixedList hsize =>
    obtain ⟨items, rfl, -, hitems⟩ := serialized_list_iff.mp hs
    rw [hitems.length_of_hasSize hsize]
    rfl
  | list hd _ ih =>
    obtain ⟨items, rfl, -, hitems⟩ := serialized_list_iff.mp hs
    rw [Measure.run]
    exact hitems.sum_eq_length hd fun v hmem bs =>
      ih hcall (Nat.le_trans (Nat.le_of_lt (Value.depth_lt_of_mem hmem)) hv)

/-- The sizes of dynamic fields add up to the length of what stands behind the heads. -/
theorem MeasuredFields.addSizes_eq {fields : Fields} {ms : List (String × Measure)}
    (h : MeasuredFields env fields ms) {v : Value} {call : String → Value → Except Fault Nat}
    (hcall : ∀ f ∈ fields, ∀ name, f.2.innermost = some name → ∀ w, w.depth < v.depth → ∀ bs,
      Serialized env (.record name) w bs → call name w = .ok bs.length)
    {ps : List Part} (hparts : List.Forall₂ (SerializedField env v) fields ps) :
    RecordCode.addSizes call v ms = .ok (Part.bodies ps).length := by
  induction h generalizing ps with
  | nil =>
    cases hparts
    rfl
  | inline hd _ ih =>
    cases hparts with
    | cons hp hps =>
      obtain ⟨u, -, ⟨-, -⟩ | ⟨hd', -⟩⟩ := hp
      · rw [Part.bodies_cons, Part.body, List.nil_append]
        exact ih (List.forall_mem_cons.mp hcall).2 hps
      · exact absurd hd' hd
  | dynamic hd hm _ ih =>
    obtain ⟨hfirst, hrest⟩ := List.forall_mem_cons.mp hcall
    cases hparts with
    | cons hp hps =>
      obtain ⟨u, hu, ⟨hd', -⟩ | ⟨-, hs⟩⟩ := hp
      · exact absurd hd hd'
      · have hsize := hm.run_eq_length (fun name hname w hw =>
          hfirst name hname w (Nat.lt_of_le_of_lt hw (Value.depth_lt_of_field? hu)))
          (Nat.le_refl u.depth) hs
        rw [RecordCode.addSizes, hu]
        simp only [hsize, ih hrest hps, Part.bodies_cons, Part.body, List.length_append]
        rfl

/-! ## Sizes of records -/

/-- The encoding of a record fills the places of its fields. -/
theorem RecordCode.Realizes.fills {fields : Fields} {c : RecordCode} (h : c.Realizes env fields)
    {v : Value} {ps : List Part} (hparts : List.Forall₂ (SerializedField env v) fields ps) :
    List.Forall₂ Part.Fills c.sizes ps := by
  refine List.forall₂_map_left_iff.mpr (forall₂_comp_iff.mpr ⟨fields, h.fields.flip, hparts⟩ |>.imp ?_)
  rintro code p ⟨f, hcode, u, -, hp⟩
  exact hcode.size.fills hp

/-- Without a place for an offset there is nothing behind the heads. -/
theorem bodies_eq_nil_of_fills {sizes : List (Option Nat)} {ps : List Part}
    (h : List.Forall₂ Part.Fills sizes ps) (hnone : none ∉ sizes) : Part.bodies ps = [] := by
  induction h with
  | nil => rfl
  | @cons s p sizes ps hp _ ih =>
    obtain ⟨hs, hrest⟩ := not_or.mp (mt List.mem_cons.mpr hnone)
    rw [Part.bodies_cons, ih hrest, List.append_nil]
    rcases s with _ | n <;> rcases p with bs | bs
    · exact absurd rfl hs
    · exact absurd rfl hs
    · rfl
    · exact absurd hp id

/-- The encoding of a record is as long as its fixed region, or at least so if it is dynamic. -/
theorem RecordCode.Realizes.length_layout {fields : Fields} {c : RecordCode}
    (h : c.Realizes env fields) {v : Value} {ps : List Part}
    (hparts : List.Forall₂ (SerializedField env v) fields ps) :
    (Part.layout ps).length = Part.regionOf c.sizes + (Part.bodies ps).length ∧
      (c.isDynamic = false → Part.bodies ps = []) := by
  have hfills := h.fills hparts
  refine ⟨by rw [Part.length_layout, Part.region_of_fills hfills], fun hfixed => ?_⟩
  refine bodies_eq_nil_of_fills hfills fun hnone => ?_
  rw [h.isDynamic.mpr hnone] at hfixed
  cases hfixed

/-- The size of a record is the length of its encoding, if the routines that are called return such
sizes. -/
theorem RecordCode.Realizes.sizeOf_eq_length {name : String} {fields : Fields} {c : RecordCode}
    (h : c.Realizes env fields) (hr : env name = some fields)
    (hm : c.isDynamic = true → MeasuredFields env fields c.measures) {v : Value}
    {call : String → Value → Except Fault Nat}
    (hcall : ∀ f ∈ fields, ∀ inner, f.2.innermost = some inner → ∀ w, w.depth < v.depth → ∀ bs,
      Serialized env (.record inner) w bs → call inner w = .ok bs.length)
    {bs : List UInt8} (hs : Serialized env (.record name) v bs) :
    c.sizeOf call v = .ok bs.length := by
  obtain ⟨ps, hparts, -, rfl⟩ := (serialized_record_iff hr).mp hs
  obtain ⟨hlength, hfixed⟩ := h.length_layout hparts
  rw [RecordCode.sizeOf, h.fixedSize, hlength]
  cases hd : c.isDynamic with
  | true =>
    rw [(hm hd).addSizes_eq hcall hparts]
    rfl
  | false =>
    rw [hfixed hd]
    rfl

/-- Size routines return the lengths of encodings, if their fuel suffices for the depth of the
value. -/
theorem Measures.sizeWith_eq_length (hm : Measures env codes) (h : Implements env codes)
    {fuel : Nat} {name : String} (hname : Coded codes name) {v : Value} (hv : v.depth < fuel)
    {bs : List UInt8} (hs : Serialized env (.record name) v bs) :
    Codec.sizeWith codes fuel name v = .ok bs.length := by
  induction fuel generalizing name v bs with
  | zero => omega
  | succ fuel ih =>
    obtain ⟨c, hc⟩ := Option.isSome_iff_exists.mp hname
    obtain ⟨fields, hr, hcode⟩ := h.realizes hc
    rw [Codec.sizeWith, hc]
    exact hcode.sizeOf_eq_length hr (hm.fields hc hr) (fun f hf inner hinner w hw bs =>
      ih (h.closed hc hr f hf inner hinner) (by omega)) hs

/-- The size routine of a record returns the lengths of encodings. -/
theorem Measures.size_eq_length (hm : Measures env codes) (h : Implements env codes) {name : String}
    (hname : Coded codes name) {v : Value} {bs : List UInt8}
    (hs : Serialized env (.record name) v bs) : Codec.size codes name v = .ok bs.length :=
  hm.sizeWith_eq_length h hname (Nat.lt_succ_self v.depth) hs

/-! ## Measures of nodes -/

namespace Schema.Marks

variable {s : Schema} {a : Arena} {entries : List (String × NodeId)} {c : Classifier} {id : NodeId}
  {t : SszType} {n : Node}

/-- The measure of a sequence, by whether its elements have a size. -/
theorem sequence_measure (h : s.Marks a entries env c) {fuel : Nat} {m : Measure} {element : NodeId}
    (hel : n.element = some element) (ht : TypeOf a entries element t)
    (ih : ∀ {id t n m}, a.get? id = some n → TypeOf a entries id t → env.IsDynamic t →
      Measure.ofNode s fuel (c.mark id n) = .ok m → MeasuredBy env t m)
    (hm : (do
      let element ← s.element (c.mark id n)
      if ← ofGraph element.isFixed then return Measure.fixedItems element.fixedSize
      else return Measure.dynamicItems (← Measure.ofNode s fuel element)) = .ok m) :
    (∃ size, m = .fixedItems (some size) ∧ env.HasSize t size) ∨
      ∃ item, m = .dynamicItems item ∧ env.IsDynamic t ∧ MeasuredBy env t item := by
  obtain ⟨m', hm', hm⟩ := Outcome.bind_eq_ok.mp hm
  obtain ⟨n', hn', rfl⟩ := h.element_eq_ok hel hm'
  obtain ⟨isFixed, hfixed, hm⟩ := Outcome.bind_eq_ok.mp hm
  have hfixed := Outcome.mapError_eq_ok.mp hfixed
  cases isFixed with
  | true =>
    obtain ⟨size, hsize, hs⟩ := h.hasSize hn' ht hfixed
    obtain rfl := Outcome.pure_eq_ok.mp hm
    exact .inl ⟨size, by rw [hsize], hs⟩
  | false =>
    have hd := (h.isDynamic_iff hn' ht hfixed).mp rfl
    obtain ⟨item, hitem, hm⟩ := Outcome.bind_eq_ok.mp hm
    exact .inr ⟨item, (Outcome.pure_eq_ok.mp hm).symm, hd, ih hn' ht hd hitem⟩

/-- The measure that a node has is that of its type. -/
theorem measuredBy_ofNode (h : s.Marks a entries env c) {fuel : Nat} {m : Measure}
    (hn : a.get? id = some n) (ht : TypeOf a entries id t) (hd : env.IsDynamic t)
    (hm : Measure.ofNode s fuel (c.mark id n) = .ok m) : MeasuredBy env t m := by
  induction fuel generalizing id t n m with
  | zero => cases hm
  | succ fuel ih =>
    unfold Measure.ofNode at hm
    cases ht with
    | boundedBytes hn' hk =>
      obtain rfl := Option.some.inj (hn.symm.trans hn')
      simp only [Classifier.mark_kind, hk] at hm
      cases hm
      exact .boundedBytes
    | packedBits hn' hk _ hp =>
      obtain rfl := Option.some.inj (hn.symm.trans hn')
      simp only [Classifier.mark_kind, Classifier.mark_packed, hk, hp] at hm
      cases hm
      exact .packedBits
    | bitList hn' hk _ hp =>
      obtain rfl := Option.some.inj (hn.symm.trans hn')
      simp only [Classifier.mark_kind, Classifier.mark_packed, hk, hp] at hm
      cases hm
      exact .bitList
    | record hn' hk hr =>
      obtain rfl := Option.some.inj (hn.symm.trans hn')
      simp only [Classifier.mark_kind, Classifier.mark_record, hk, hr] at hm
      cases hm
      exact .record
    | vector hn' hk _ _ hel _ ht =>
      obtain rfl := Option.some.inj (hn.symm.trans hn')
      simp only [Classifier.mark_kind, hk] at hm
      have hd := isDynamic_vector_iff.mp hd
      obtain ⟨size, -, hs⟩ | ⟨item, rfl, hd, hitem⟩ := h.sequence_measure hel ht ih hm
      · exact absurd hd hs.not_isDynamic
      · exact .vector hd hitem
    | list hn' hk _ hel _ ht =>
      obtain rfl := Option.some.inj (hn.symm.trans hn')
      simp only [Classifier.mark_kind, hk] at hm
      obtain ⟨size, rfl, hs⟩ | ⟨item, rfl, hd, hitem⟩ := h.sequence_measure hel ht ih hm
      · exact .fixedList hs
      · exact .list hd hitem
    | _ => cases hd

/-- The measures of fields are those of the dynamic ones. -/
theorem measuredFields (h : s.Marks a entries env c) {pairs : List (FieldRef × Node)}
    {fields : Fields} (hf : List.Forall₂ (FieldNode a entries c) pairs fields)
    (hclassified : ∀ p ∈ pairs, ∃ b, p.2.isFixed = .ok b) {ms : List (String × Measure)}
    (hm : (pairs.filter fun p => p.2.isDynamic = some true).mapM (fun (f, n) => do
      return (f.name, ← Measure.ofNode s (RecordCode.depth s) n)) = Except.ok (ε := Failure) ms) :
    MeasuredFields env fields ms := by
  induction hf generalizing ms with
  | nil =>
    obtain rfl := Outcome.pure_eq_ok.mp hm
    exact .nil
  | @cons p g pairs fields hp _ ih =>
    obtain ⟨f, m⟩ := p
    obtain ⟨name, t⟩ := g
    obtain ⟨hname, n, hn, hm', ht⟩ := hp
    dsimp only at hname hn hm' ht
    subst hname hm'
    obtain ⟨⟨b, hb⟩, hclassified⟩ := List.forall_mem_cons.mp hclassified
    have hd := h.isDynamic_iff hn ht hb
    have hmark : (c.mark f.node n).isDynamic = some !b := Node.isFixed_eq_ok.mp hb
    rw [List.filter_cons] at hm
    cases b with
    | true =>
      rw [if_neg (by simp [hmark])] at hm
      exact .inline (fun hdyn => nomatch hd.mpr hdyn) (ih hclassified hm)
    | false =>
      have hd := hd.mp rfl
      rw [if_pos (by simp [hmark]), List.mapM_cons] at hm
      obtain ⟨first, hfirst, hm⟩ := Outcome.bind_eq_ok.mp hm
      obtain ⟨rest, hrest, hm⟩ := Outcome.bind_eq_ok.mp hm
      obtain rfl := Outcome.pure_eq_ok.mp hm
      obtain ⟨m, hcode, hfirst⟩ := Outcome.bind_eq_ok.mp hfirst
      obtain rfl := Outcome.pure_eq_ok.mp hfirst
      exact .dynamic hd (h.measuredBy_ofNode hn ht hd hcode) (ih hclassified hrest)

end Schema.Marks

/-- What the measures of a dynamic record are read from. -/
theorem RecordCode.measures_of_ofSchema {s : Schema} {name : String} {code : RecordCode}
    (h : RecordCode.ofSchema s name = .ok code) (hd : code.isDynamic = true) :
    ∃ pairs es, s.fieldNodes name = .ok pairs ∧ RecordCode.encoders s pairs = .ok es ∧
      (pairs.filter fun p => p.2.isDynamic = some true).mapM (fun (f, n) => do
        return (f.name, ← Measure.ofNode s (RecordCode.depth s) n)) = .ok code.measures := by
  obtain ⟨m, -, h⟩ := Outcome.bind_eq_ok.mp h
  obtain ⟨pairs, hpairs, h⟩ := Outcome.bind_eq_ok.mp h
  obtain ⟨es, hes, h⟩ := Outcome.bind_eq_ok.mp h
  obtain ⟨isFixed, -, h⟩ := Outcome.bind_eq_ok.mp h
  obtain ⟨_, -, h⟩ := Outcome.bind_eq_ok.mp h
  obtain ⟨ds, -, h⟩ := Outcome.bind_eq_ok.mp h
  refine ⟨pairs, es, Outcome.mapError_eq_ok.mp hpairs, hes, ?_⟩
  cases isFixed with
  | true =>
    obtain rfl := Outcome.pure_eq_ok.mp h
    cases hd
  | false =>
    obtain ⟨measures, hmeasures, h⟩ := Outcome.bind_eq_ok.mp h
    obtain rfl := Outcome.pure_eq_ok.mp h
    exact hmeasures

/-- A record of one size measures nothing. -/
theorem RecordCode.measures_eq_nil {s : Schema} {name : String} {code : RecordCode}
    (h : RecordCode.ofSchema s name = .ok code) (hd : code.isDynamic = false) :
    code.measures = [] := by
  obtain ⟨m, -, h⟩ := Outcome.bind_eq_ok.mp h
  obtain ⟨pairs, -, h⟩ := Outcome.bind_eq_ok.mp h
  obtain ⟨es, -, h⟩ := Outcome.bind_eq_ok.mp h
  obtain ⟨isFixed, -, h⟩ := Outcome.bind_eq_ok.mp h
  obtain ⟨_, -, h⟩ := Outcome.bind_eq_ok.mp h
  obtain ⟨ds, -, h⟩ := Outcome.bind_eq_ok.mp h
  cases isFixed with
  | true =>
    obtain rfl := Outcome.pure_eq_ok.mp h
    rfl
  | false =>
    obtain ⟨measures, -, h⟩ := Outcome.bind_eq_ok.mp h
    obtain rfl := Outcome.pure_eq_ok.mp h
    cases hd

/-- The code of a dynamic record measures its dynamic fields. -/
theorem Schema.Marks.measures {s : Schema} {a : Arena} {entries : List (String × NodeId)}
    {c : Classifier} (h : s.Marks a entries env c) {name : String} {code : RecordCode}
    (hcode : RecordCode.ofSchema s name = .ok code) {fields : Fields}
    (hfields : env name = some fields) (hd : code.isDynamic = true) :
    MeasuredFields env fields code.measures := by
  obtain ⟨pairs, es, hpairs, hes, hm⟩ := RecordCode.measures_of_ofSchema hcode hd
  obtain ⟨fields', hfields', hpf⟩ := h.fieldNodes_eq_ok hpairs
  obtain rfl := Option.some.inj (hfields.symm.trans hfields')
  refine h.measuredFields hpf (fun p hp => ?_) hm
  obtain ⟨e, -, hclassified, -⟩ := exists_of_forall₂ (RecordCode.encoders_eq_ok hes) hp
  exact hclassified

/-! ## Generated size routines -/

variable {units : List SourceUnit} {r : Resolution}

/-- The code of a schema measures the dynamic fields of its dynamic records. -/
theorem Emitted.measures (h : Emitted units r codes) : Measures r.catalog codes := by
  obtain ⟨s, c, hmarks, hcode⟩ := h.marks
  exact ⟨fun hc hfields hd => hmarks.measures (hcode hc) hfields hd⟩

namespace Accepted

variable {name : String} {v : Value} {bs : List UInt8}

/-- Where a generated encoder returns bytes, the size routine returns how many. For a record
classified as fixed this is always its fixed size, and for a dynamic one at least the size of its
fixed region. -/
theorem size_of_marshal (h : Accepted units r codes) (hname : Coded codes name)
    (hv : Codec.marshal codes name v = .ok bs) :
    Codec.size codes name v = .ok bs.length ∧
      ∃ c size, RecordCode.find? codes name = some c ∧ c.fixedSize = some size ∧
        if c.isDynamic then size ≤ bs.length else bs.length = size := by
  have hs := (h.implements.marshal_eq_ok_iff hname).mp hv
  refine ⟨h.emitted.measures.size_eq_length h.implements hname hs, ?_⟩
  obtain ⟨c, hc⟩ := Option.isSome_iff_exists.mp hname
  obtain ⟨fields, hr, hcode⟩ := h.implements.realizes hc
  obtain ⟨ps, hparts, -, rfl⟩ := (serialized_record_iff hr).mp hs
  obtain ⟨hlength, hfixed⟩ := hcode.length_layout hparts
  refine ⟨c, _, hc, hcode.fixedSize, ?_⟩
  cases hd : c.isDynamic with
  | true => exact hlength ▸ Nat.le_add_right _ _
  | false => simpa [hfixed hd] using hlength

theorem size_smallTree : Codec.size treeCodes "Tree" smallTree = .ok smallTreeBytes.length ∧
    ∃ c size, RecordCode.find? treeCodes "Tree" = some c ∧ c.fixedSize = some size ∧
      if c.isDynamic then size ≤ smallTreeBytes.length else smallTreeBytes.length = size :=
  accepted_tree.size_of_marshal coded_tree (by decide +kernel)

end Accepted

end SszSchema
