import SszSchema.Proofs.BestEffort
import SszSchema.Proofs.Generation

/-!
# Assembling what is left

A schema may hold only some of the records of a resolution. If it encloses its records
(`Schema.Closed`), then whatever their code is read from is classified, and each record that is
called belongs to the schema and has a module. So `assemble` may still refuse its records, but not
because a node lacks a verdict and not because a record is called that is generated nowhere
(`Schema.Closed.fails_assemble`).

`Resolution.Reached.bestEffort` puts this together with the classification: which records a
best-effort run keeps, which diagnostics it tells, and that the records kept can be assembled.
-/

namespace SszSchema

open Catalog Generation Relation

/-! ## Faults of assembly -/

/-- A failure that is no fault of the graph and blames no record for being generated nowhere. -/
def Failure.Benign : Failure → Prop
  | .graph _ => False
  | .reported d => d.data.get? "record_ref" = none
  | _ => True

instance : DecidablePred Failure.Benign
  | .graph _ => .isFalse id
  | .reported d => inferInstanceAs (Decidable (d.data.get? "record_ref" = none))
  | .digitLimit | .unnamed _ _ | .syntaxError _ | .file _ | .noTable => .isTrue trivial

theorem fails_refuse {α : Type} (message : String) (record : Option String) :
    Fails Failure.Benign (Generation.refuse message record : Generation α) := by
  refine .error ?_
  cases record <;> rfl

theorem fails_refuse_record {α : Type} (message name : String) :
    Fails Failure.Benign (Assembly.refuse message "record" name : Generation α) :=
  .error rfl

theorem fails_printed (n : Nat) : Fails Failure.Benign (Generation.printed n) := by
  unfold Generation.printed
  split
  · exact .ok _
  · exact .error trivial

theorem ofGraph_eq_ok {α : Type} {m : Except GraphFault α} {b : α} (h : m = .ok b) :
    ofGraph m = .ok b := by
  rw [h]
  rfl

/-! ## Closed schemas -/

/-- A schema with right verdicts that encloses its records. -/
structure Schema.Closed (s : Schema) (a : Arena) (entries : List (String × NodeId)) (env : Catalog)
    (c : Classifier) : Prop extends s.Marks a entries env c where
  encloses : ∀ e ∈ s.records, s.Encloses a entries e.2

variable {s : Schema} {a : Arena} {entries : List (String × NodeId)} {env : Catalog}
  {c : Classifier} {id child : NodeId} {t : SszType} {n : Node} {fuel : Nat}

/-- The element of a sequence, which has a smaller number. -/
theorem TypeOf.exists_element (hn : a.get? id = some n) (ht : TypeOf a entries id t)
    (hk : n.kind = .vector ∨ n.kind = .list) : ∃ child u, n.element = some child ∧ child < id ∧
      TypeOf a entries child u ∧ a.Refers id child := by
  cases ht with
  | vector hn' hkind hl hpos he hlt h =>
    obtain rfl := Option.some.inj (hn.symm.trans hn')
    exact ⟨_, _, he, hlt, h, n, hn, .inl (by simp [Node.parts, hkind, he])⟩
  | list hn' hkind hm he hlt h =>
    obtain rfl := Option.some.inj (hn.symm.trans hn')
    exact ⟨_, _, he, hlt, h, n, hn, .inr (by simp [Node.listed, hkind, he])⟩
  | _ =>
    obtain rfl := Option.some.inj (hn.symm.trans ‹a.get? id = some _›)
    simp [*] at hk

theorem Schema.Encloses.of_refers (h : s.Encloses a entries id) (hchild : a.Refers id child) :
    s.Encloses a entries child :=
  fun x hx => h x (.head hchild hx)

namespace Schema.Marks

/-- Elements nested in each other are no more than there are nodes. -/
theorem lt_depth (h : s.Marks a entries env c) (hn : a.get? id = some n) :
    id < RecordCode.depth s := by
  have hget : s.arena.get? id = some (c.mark id n) := by
    rw [h.arena, Classifier.get?_arena, hn]
    rfl
  exact (Arena.lt_size_of_get? hget).trans (Nat.lt_succ_self _)

/-- An enclosed node is known to be fixed or not. -/
theorem isFixed_eq_ok (h : s.Marks a entries env c) (henc : s.Encloses a entries id)
    (hn : a.get? id = some n) : ∃ b, (c.mark id n).isFixed = .ok b := by
  obtain ⟨⟨m, b, hm, hb⟩, -⟩ := henc id .refl
  obtain ⟨n', hn', rfl⟩ := h.node_eq_ok hm
  obtain rfl := Option.some.inj (hn.symm.trans hn')
  exact ⟨b, hb⟩

theorem node_of_get? (h : s.Marks a entries env c) (hn : a.get? id = some n) :
    s.node id = .ok (c.mark id n) := by
  rw [Schema.node, Arena.get, h.arena, Classifier.get?_arena, hn]
  rfl

theorem element_of_get? (h : s.Marks a entries env c) (he : n.element = some child) {m : Node}
    (hm : a.get? child = some m) : s.element (c.mark id n) = .ok (c.mark child m) := by
  unfold Schema.element
  rw [Classifier.mark_element, he]
  exact ofGraph_eq_ok (h.node_of_get? hm)

/-- A record of a schema has a node, and so have its fields. -/
theorem exists_record (h : s.Marks a entries env c) {name : String} (hname : name ∈ s.order) :
    ∃ e n pairs, e ∈ s.records ∧ e.1 = name ∧ a.get? e.2 = some n ∧
      TypeOf a entries e.2 (.record name) ∧ s.record name = .ok (c.mark e.2 n) ∧
      s.fieldNodes name = .ok pairs ∧ ∀ p ∈ pairs, a.Refers e.2 p.1.node ∧
        ∃ m t, a.get? p.1.node = some m ∧ p.2 = c.mark p.1.node m ∧ TypeOf a entries p.1.node t := by
  obtain ⟨e, hfind⟩ : ∃ e, s.records.find? (·.1 == name) = some e := by
    rw [← Option.isSome_iff_exists, List.find?_isSome]
    obtain ⟨e, he, rfl⟩ := List.mem_map.mp hname
    exact ⟨e, he, beq_self_eq_true _⟩
  have hmem := List.mem_of_find?_eq_some hfind
  obtain rfl : e.1 = name := by simpa using List.find?_some hfind
  obtain ⟨n, fields, hn, hk, hr, -, hfs⟩ := h.bears e (h.records hmem)
  have hrecord : s.record e.1 = .ok (c.mark e.2 n) := by
    unfold Schema.record
    rw [hfind]
    exact h.node_of_get? hn
  have hfields (f : FieldRef) (hf : f ∈ n.fields) :
      ∃ p, (do return (f, ← s.arena.get f.node) : Except GraphFault (FieldRef × Node)) = .ok p ∧
        a.Refers e.2 p.1.node ∧
        ∃ m t, a.get? p.1.node = some m ∧ p.2 = c.mark p.1.node m ∧ TypeOf a entries p.1.node t := by
    obtain ⟨g, -, -, ht⟩ := exists_of_forall₂ hfs hf
    obtain ⟨m, hm⟩ := ht.get?
    have hrefers : a.Refers e.2 f.node := by
      refine ⟨n, hn, .inl ?_⟩
      rw [(Node.parts_of_container hk).1]
      exact List.mem_map_of_mem hf
    have hnode : s.arena.get f.node = .ok (c.mark f.node m) := h.node_of_get? hm
    refine ⟨(f, c.mark f.node m), ?_, hrefers, m, g.2, hm, rfl, ht⟩
    rw [hnode]
    rfl
  obtain ⟨pairs, hpairs, hnodes⟩ := Outcome.exists_mapM_eq_ok hfields
  refine ⟨e, n, pairs, hmem, rfl, hn, .record hn hk hr (h.records hmem), hrecord, ?_, hnodes⟩
  unfold Schema.fieldNodes
  rw [hrecord, ← hpairs, ← Classifier.mark_fields c e.2 n]
  rfl

/-! ## Reading code -/

/-- Reading code from a node has no fault of the graph if reading code without elements has none and
reading the code of a sequence asks for nothing but its element. -/
theorem fails_ofNode (h : s.Marks a entries env c) {β : Type} {ofNode : Nat → Node → Generation β}
    (hleaf : ∀ {fuel id n t}, a.get? id = some n → TypeOf a entries id t →
      ¬(n.kind = .vector ∨ n.kind = .list) →
      Fails Failure.Benign (ofNode (fuel + 1) (c.mark id n)))
    (hsequence : ∀ {fuel n m b}, n.kind = .vector ∨ n.kind = .list → s.element n = .ok m →
      m.isFixed = .ok b → Fails Failure.Benign (ofNode fuel m) →
      Fails Failure.Benign (ofNode (fuel + 1) n))
    (hid : id < fuel) (hn : a.get? id = some n) (ht : TypeOf a entries id t)
    (henc : s.Encloses a entries id) : Fails Failure.Benign (ofNode fuel (c.mark id n)) := by
  induction fuel generalizing id t n with
  | zero => cases hid
  | succ fuel ih =>
    by_cases hk : n.kind = .vector ∨ n.kind = .list
    · obtain ⟨child, u, he, hlt, hu, hchild⟩ := ht.exists_element hn hk
      obtain ⟨m, hm⟩ := hu.get?
      have henc' := henc.of_refers hchild
      obtain ⟨b, hb⟩ := h.isFixed_eq_ok henc' hm
      have hrest := ih (hlt.trans_le (Nat.le_of_lt_succ hid)) hm hu henc'
      exact hsequence (by simpa using hk) (h.element_of_get? he hm) hb hrest
    · exact hleaf hn ht hk

/-- A type without elements tells the code of its node at once. -/
theorem fails_leaf_code (hn : a.get? id = some n) (ht : TypeOf a entries id t)
    (hk : ¬(n.kind = .vector ∨ n.kind = .list)) :
    Fails Failure.Benign (Encoder.ofNode s (fuel + 1) (c.mark id n)) ∧
      Fails Failure.Benign (Decoder.ofNode s (fuel + 1) (c.mark id n)) ∧
      Fails Failure.Benign (Measure.ofNode s (fuel + 1) (c.mark id n)) := by
  unfold Encoder.ofNode Decoder.ofNode Measure.ofNode
  cases ht with
  | vector hn' hkind =>
    obtain rfl := Option.some.inj (hn.symm.trans hn')
    exact absurd (.inl hkind) hk
  | list hn' hkind =>
    obtain rfl := Option.some.inj (hn.symm.trans hn')
    exact absurd (.inr hkind) hk
  | _ =>
    obtain rfl := Option.some.inj (hn.symm.trans ‹a.get? id = some _›)
    simp only [Classifier.mark_kind, Classifier.mark_width, Classifier.mark_length,
      Classifier.mark_limit, Classifier.mark_packed, Classifier.mark_record, *]
    exact ⟨by first | exact .ok _ | exact (fails_printed _).bind fun _ _ => .ok _, .ok _,
      by first | exact .ok _ | exact fails_refuse _ _⟩

/-- The code of a sequence is that of its element, which is known to be fixed or not. -/
theorem fails_element {β : Type} {m : Node} {b : Bool} {f : Node → Bool → Generation β}
    (hm : s.element n = .ok m) (hb : m.isFixed = .ok b) (hf : Fails Failure.Benign (f m b)) :
    Fails Failure.Benign (do
      let element ← s.element n
      f element (← ofGraph element.isFixed)) :=
  .bind_of_eq_ok hm (.bind_of_eq_ok (ofGraph_eq_ok hb) hf)

theorem fails_encoder (h : s.Marks a entries env c) (hid : id < fuel) (hn : a.get? id = some n)
    (ht : TypeOf a entries id t) (henc : s.Encloses a entries id) :
    Fails Failure.Benign (Encoder.ofNode s fuel (c.mark id n)) := by
  refine h.fails_ofNode (fun hn ht hk => (fails_leaf_code hn ht hk).1) ?_ hid hn ht henc
  intro fuel n m b hk hm hb hrest
  have hsequence := hrest.bind fun e _ => .ok (Encoder.sequence n.extent (!b) e)
  rcases hk with hk | hk <;> simp only [Encoder.ofNode, hk] <;>
    exact fails_element hm hb hsequence

theorem fails_decoder (h : s.Marks a entries env c) (hid : id < fuel) (hn : a.get? id = some n)
    (ht : TypeOf a entries id t) (henc : s.Encloses a entries id) :
    Fails Failure.Benign (Decoder.ofNode s fuel (c.mark id n)) := by
  refine h.fails_ofNode (fun hn ht hk => (fails_leaf_code hn ht hk).2.1) ?_ hid hn ht henc
  intro fuel n m b hk hm hb hrest
  have hsequence (step : Option Nat) :=
    hrest.bind fun d _ => .ok (Decoder.sequence n.extent step d)
  rcases hk with hk | hk <;> simp only [Decoder.ofNode, hk] <;> refine fails_element hm hb ?_ <;>
    split
  · split
    · exact (fails_printed _).bind fun _ _ => hsequence _
    · exact fails_refuse _ _
  · exact hsequence _
  · split
    · exact (fails_printed _).bind fun _ _ => hsequence _
    · exact fails_refuse _ _
  · exact hsequence _

theorem fails_measure (h : s.Marks a entries env c) (hid : id < fuel) (hn : a.get? id = some n)
    (ht : TypeOf a entries id t) (henc : s.Encloses a entries id) :
    Fails Failure.Benign (Measure.ofNode s fuel (c.mark id n)) := by
  refine h.fails_ofNode (fun hn ht hk => (fails_leaf_code hn ht hk).2.2) ?_ hid hn ht henc
  intro fuel n m b hk hm hb hrest
  have hitems := hrest.bind fun item _ => .ok (Measure.dynamicItems item)
  rcases hk with hk | hk <;> simp only [Measure.ofNode, hk] <;> refine fails_element hm hb ?_ <;>
    split
  · exact .ok _
  · exact hitems
  · exact .ok _
  · exact hitems

/-! ## Fields and records -/

/-- A field with its node, which is enclosed. -/
def Enclosed (s : Schema) (a : Arena) (entries : List (String × NodeId)) (c : Classifier)
    (p : FieldRef × Node) : Prop :=
  s.Encloses a entries p.1.node ∧
    ∃ n t, a.get? p.1.node = some n ∧ p.2 = c.mark p.1.node n ∧ TypeOf a entries p.1.node t

variable {pairs : List (FieldRef × Node)}

theorem fails_encoders (h : s.Marks a entries env c) (hp : ∀ p ∈ pairs, Enclosed s a entries c p) :
    Fails Failure.Benign (RecordCode.encoders s pairs) := by
  have hcode (p : FieldRef × Node) (hmem : p ∈ pairs) :
      (∃ b, p.2.isFixed = .ok b) ∧
        Fails Failure.Benign (Encoder.ofNode s (RecordCode.depth s) p.2) := by
    obtain ⟨henc, n, t, hn, hp, ht⟩ := hp p hmem
    rw [hp]
    exact ⟨h.isFixed_eq_ok henc hn, h.fails_encoder (h.lt_depth hn) hn ht henc⟩
  refine (Fails.mapM fun p hmem => ?_).bind fun inline _ => .mapM fun p hmem => ?_
  · obtain ⟨⟨b, hb⟩, hread⟩ := hcode p hmem
    refine .bind_of_eq_ok (ofGraph_eq_ok hb) ?_
    split
    · exact hread.bind fun _ _ => .ok _
    · exact .ok _
  · obtain ⟨-, hread⟩ := hcode p.1 (List.of_mem_zip hmem).1
    obtain ⟨_, _ | e⟩ := p
    · exact hread
    · exact .ok e

theorem fails_decoders (h : s.Marks a entries env c) (hp : ∀ p ∈ pairs, Enclosed s a entries c p) :
    Fails Failure.Benign (RecordCode.decoders s pairs) := by
  have hcode (p : FieldRef × Node) (hmem : p ∈ pairs) :
      (∃ b, p.2.isFixed = .ok b ∧ (b = true → ∃ size, p.2.fixedSize = some size)) ∧
        Fails Failure.Benign (Decoder.ofNode s (RecordCode.depth s) p.2) := by
    obtain ⟨henc, n, t, hn, hp, ht⟩ := hp p hmem
    obtain ⟨b, hb⟩ := h.isFixed_eq_ok henc hn
    rw [hp]
    refine ⟨⟨b, hb, fun hfixed => ?_⟩, h.fails_decoder (h.lt_depth hn) hn ht henc⟩
    subst hfixed
    obtain ⟨size, hsize, -⟩ := h.hasSize hn ht hb
    exact ⟨size, hsize⟩
  refine (Fails.mapM fun p hmem => ?_).bind fun inline _ => .mapM fun p hmem => ?_
  · obtain ⟨⟨b, hb, hsize⟩, hread⟩ := hcode p hmem
    refine .bind_of_eq_ok (ofGraph_eq_ok hb) ?_
    split
    · case isTrue hfixed =>
      obtain ⟨size, hsize⟩ := hsize hfixed
      rw [hsize]
      exact (Fails.ok size).bind fun _ _ => hread.bind fun _ _ => .ok _
    · exact .ok _
  · obtain ⟨-, hread⟩ := hcode p.1 (List.of_mem_zip hmem).1
    obtain ⟨_, _ | d⟩ := p
    · exact hread.bind fun _ _ => .ok _
    · exact .ok d

end Schema.Marks

namespace Schema.Closed

variable {name : String}

/-- A record of a closed schema has a node, and so have its fields. -/
theorem record_eq_ok (h : s.Closed a entries env c) (hname : name ∈ s.order) :
    ∃ m b pairs, s.record name = .ok m ∧ m.isFixed = .ok b ∧ s.fieldNodes name = .ok pairs ∧
      ∀ p ∈ pairs, Marks.Enclosed s a entries c p := by
  obtain ⟨e, n, pairs, he, -, hn, -, hrecord, hpairs, hp⟩ := h.exists_record hname
  have henc := h.encloses e he
  obtain ⟨b, hb⟩ := h.isFixed_eq_ok henc hn
  refine ⟨_, b, pairs, hrecord, hb, hpairs, fun p hmem => ?_⟩
  obtain ⟨hrefers, htyped⟩ := hp p hmem
  exact ⟨henc.of_refers hrefers, htyped⟩

/-- The code of a record is read without a fault of the graph. -/
theorem fails_ofSchema (h : s.Closed a entries env c) (hname : name ∈ s.order) :
    Fails Failure.Benign (RecordCode.ofSchema s name) := by
  obtain ⟨m, b, pairs, hm, hb, hpairs, hp⟩ := h.record_eq_ok hname
  refine .bind_of_eq_ok (ofGraph_eq_ok hm) (.bind_of_eq_ok (ofGraph_eq_ok hpairs) ?_)
  refine (h.fails_encoders hp).bind fun es _ => .bind_of_eq_ok (ofGraph_eq_ok hb) ?_
  refine Fails.bind ?_ fun _ _ => (h.fails_decoders hp).bind fun ds _ => ?_
  · cases m.fixedSize with
    | none => exact .ok _
    | some size => exact fails_printed size
  -- Measures are read for dynamic records only.
  cases b with
  | true => exact .ok _
  | false =>
    refine (Fails.mapM fun p hmem => ?_).bind fun measures _ => .ok _
    obtain ⟨henc, n, t, hn, hpair, ht⟩ := hp p (List.mem_of_mem_filter hmem)
    have hread := h.fails_measure (h.lt_depth hn) hn ht henc
    rw [← hpair] at hread
    exact hread.bind fun _ _ => .ok _

/-! ## Calls -/

/-- At the end of a chain of elements stands a node that is no sequence, and if it is a record, then
one of the schema. -/
theorem innermost (h : s.Closed a entries env c) (hid : id < fuel) (hn : a.get? id = some n)
    (ht : TypeOf a entries id t) (henc : s.Encloses a entries id) :
    ∃ m, s.innermost fuel (c.mark id n) = .ok m ∧
      (m.kind = .container → ∃ name, m.record = some name ∧ name ∈ s.order) := by
  induction fuel generalizing id t n with
  | zero => cases hid
  | succ fuel ih =>
    unfold Schema.innermost
    simp only [Classifier.mark_kind]
    by_cases hk : n.kind = .vector ∨ n.kind = .list
    · obtain ⟨child, u, he, hlt, hu, hchild⟩ := ht.exists_element hn hk
      obtain ⟨m, hm⟩ := hu.get?
      obtain ⟨m', hm', hrecord⟩ :=
        ih (hlt.trans_le (Nat.le_of_lt_succ hid)) hm hu (henc.of_refers hchild)
      refine ⟨m', ?_, hrecord⟩
      rw [if_pos (by simpa using hk), h.element_of_get? he hm]
      exact hm'
    · refine ⟨c.mark id n, by rw [if_neg (by simpa using hk)]; rfl, fun hcontainer => ?_⟩
      rw [Classifier.mark_kind] at hcontainer
      cases ht with
      | record hn' hk' hr he =>
        obtain rfl := Option.some.inj (hn.symm.trans hn')
        obtain ⟨-, hrecords⟩ := henc id .refl
        exact ⟨_, by rw [Classifier.mark_record, hr], List.mem_map_of_mem (hrecords _ he rfl)⟩
      | _ =>
        obtain rfl := Option.some.inj (hn.symm.trans ‹a.get? id = some _›)
        simp [*] at hcontainer

theorem addReferenced (h : s.Closed a entries env c) {p : FieldRef × Node}
    (hp : Marks.Enclosed s a entries c p) {found : List String} (hfound : found ⊆ s.order) :
    ∃ found', s.addReferenced found p.2 = .ok found' ∧ found' ⊆ s.order := by
  obtain ⟨henc, n, t, hn, hpair, ht⟩ := hp
  obtain ⟨m, hm, hrecord⟩ := h.innermost (h.lt_depth hn) hn ht henc
  rw [← hpair] at hm
  unfold Schema.addReferenced
  rw [hm]
  change ∃ found', (if m.kind = .container then _ else _) = _ ∧ _
  by_cases hk : m.kind = .container
  · obtain ⟨name, hname, hmem⟩ := hrecord hk
    rw [if_pos hk, hname]
    refine ⟨_, rfl, ?_⟩
    split
    · exact hfound
    · exact List.append_subset.mpr ⟨hfound, by simpa using hmem⟩
  · rw [if_neg hk]
    exact ⟨found, rfl, hfound⟩

/-- The records that are called belong to the schema. -/
theorem referenced (h : s.Closed a entries env c) {names : List String} (hnames : names ⊆ s.order) :
    ∃ called, s.referenced names = .ok called ∧ called ⊆ s.order := by
  refine Outcome.exists_foldlM_eq_ok (I := (· ⊆ s.order)) (fun name hname found hfound => ?_)
    (List.nil_subset _)
  obtain ⟨-, -, pairs, -, -, hpairs, hp⟩ := h.record_eq_ok (hnames hname)
  obtain ⟨found', hrun, hfound'⟩ := Outcome.exists_foldlM_eq_ok (I := (· ⊆ s.order))
    (fun p hmem found hfound => h.addReferenced (hp p hmem) hfound) hfound
  refine ⟨found', ?_, hfound'⟩
  rw [hpairs]
  exact hrun

end Schema.Closed

/-! ## Plans -/

namespace Plan

variable {units : List SourceUnit} {selected : List String} {modules : List ModulePlan}
  {p : Plan} {name : String} {output : Option Path} {suffix : String}

/-- Modules hold records of a schema only, and all records chosen from some units. -/
structure Holds (s : Schema) (selected : List String) (units : List SourceUnit)
    (modules : List ModulePlan) : Prop where
  known : ∀ part ∈ modules, part.records ⊆ s.order
  chosen : ∀ u ∈ units, ∀ name ∈ chosen s selected u, ∃ part ∈ modules, name ∈ part.records

theorem chosen_subset (s : Schema) (selected : List String) (u : SourceUnit) :
    chosen s selected u ⊆ s.order := by
  intro name hname
  have hboth := (List.mem_filter.mp hname).2
  rw [Bool.and_eq_true] at hboth
  exact List.contains_iff_mem.mp hboth.2

theorem holds_merged (s : Schema) (selected : List String) (file : Path) (units : List SourceUnit) :
    Holds s selected units (merged s selected file units) := by
  have hmem {u : SourceUnit} (hu : u ∈ units) {name : String} (hname : name ∈ chosen s selected u) :
      name ∈ units.flatMap (chosen s selected) := List.mem_flatMap.mpr ⟨u, hu, hname⟩
  unfold merged
  dsimp only
  split
  · case isTrue hempty =>
    refine ⟨List.forall_mem_nil _, fun u hu name hname => ?_⟩
    have hnone := List.isEmpty_iff.mp hempty ▸ hmem hu hname
    exact absurd hnone List.not_mem_nil
  · refine ⟨List.forall_mem_singleton.mpr fun name hname => ?_, fun u hu name hname => ?_⟩
    · obtain ⟨u, -, hname⟩ := List.mem_flatMap.mp hname
      exact chosen_subset s selected u hname
    · exact ⟨_, List.mem_cons_self, hmem hu hname⟩

theorem holds_besideUnits (h : besideUnits s selected suffix units = .ok modules) :
    Holds s selected units modules := by
  induction units generalizing modules with
  | nil =>
    obtain rfl := Except.ok.inj h
    exact ⟨List.forall_mem_nil _, fun u hu => absurd hu List.not_mem_nil⟩
  | cons u units ih =>
    unfold besideUnits at h
    dsimp only at h
    split at h
    · case isTrue hempty =>
      obtain ⟨hknown, hchosen⟩ := ih h
      refine ⟨hknown, List.forall_mem_cons.mpr ⟨fun name hname => ?_, hchosen⟩⟩
      rw [List.isEmpty_iff.mp hempty] at hname
      exact absurd hname List.not_mem_nil
    · split at h
      · cases h
      · obtain ⟨rest, hrest, rfl⟩ := Outcome.map_eq_ok.mp h
        obtain ⟨hknown, hchosen⟩ := ih hrest
        refine ⟨List.forall_mem_cons.mpr ⟨chosen_subset s selected u, hknown⟩,
          List.forall_mem_cons.mpr ⟨fun name hname => ⟨_, List.mem_cons_self, hname⟩, ?_⟩⟩
        intro v hv name hname
        obtain ⟨part, hpart, hmem⟩ := hchosen v hv name hname
        exact ⟨part, List.mem_cons_of_mem _ hpart, hmem⟩

theorem fails_besideUnits (s : Schema) (selected : List String) (suffix : String)
    (units : List SourceUnit) : Fails Failure.Benign (besideUnits s selected suffix units) := by
  induction units with
  | nil => exact .ok _
  | cons u units ih =>
    unfold besideUnits
    dsimp only
    split
    · exact ih
    · split
      · exact .error trivial
      · exact ih.map

/-- A plan has modules for all records of a schema that are selected and declared. -/
theorem holds_ofUnits (h : ofUnits s units selected output suffix = .ok p) :
    Holds s selected units p.modules := by
  have hsorted {modules : List ModulePlan} (h : Holds s selected (sortUnits units) modules) :
      Holds s selected units modules :=
    ⟨h.known, fun u hu => h.chosen u (List.mem_mergeSort.mpr hu)⟩
  unfold ofUnits at h
  cases output with
  | some file =>
    obtain rfl := Except.ok.inj h
    exact hsorted (holds_merged s selected file _)
  | none =>
    obtain ⟨modules, hmodules, rfl⟩ := Outcome.map_eq_ok.mp h
    exact hsorted (holds_besideUnits hmodules)

theorem fails_ofUnits (s : Schema) (units : List SourceUnit) (selected : List String)
    (output : Option Path) (suffix : String) :
    Fails Failure.Benign (ofUnits s units selected output suffix) := by
  cases output with
  | some file => exact .ok _
  | none => exact (fails_besideUnits s selected suffix _).map

/-- A record that some module holds has an owner. -/
theorem exists_owner? {part : ModulePlan} (hpart : part ∈ p.modules) (hname : name ∈ part.records) :
    ∃ file, p.owner? name = some file := by
  unfold owner?
  rw [← Option.isSome_iff_exists, Option.isSome_map, List.find?_isSome]
  exact ⟨part, List.mem_reverse.mpr hpart, List.contains_iff_mem.mpr hname⟩

end Plan

/-! ## Modules -/

namespace Assembly

theorem fails_checkErrorNames (records : List String) :
    Fails Failure.Benign (checkErrorNames records) := by
  unfold checkErrorNames
  split
  · exact fails_refuse_record _ _
  · exact .ok _

theorem fails_checkRoutines (taken : List (String × String)) (records : List String) :
    Fails Failure.Benign (checkRoutines taken records) := by
  induction records generalizing taken with
  | nil => exact .ok _
  | cons record records ih =>
    unfold checkRoutines
    split
    · exact fails_refuse_record _ _
    · exact ih _

/-- Records that all have modules can be called. -/
theorem fails_foreign {p : Plan} {called : List String} (held : List String)
    (h : ∀ name ∈ called, ∃ part ∈ p.modules, name ∈ part.records) :
    Fails Failure.Benign (foreign p held called) := by
  refine .mapM fun name hname => ?_
  obtain ⟨part, hpart, hmem⟩ := h name (List.mem_of_mem_filter hname)
  obtain ⟨file, hfile⟩ := Plan.exists_owner? hpart hmem
  rw [hfile]
  exact .ok _

theorem fails_outputOf (accepts : String → Bool) (m : Module) :
    Fails Failure.Benign (outputOf accepts m) := by
  unfold outputOf
  split
  · split
    · exact .ok _
    · exact .error rfl
  · exact .error rfl

end Assembly

namespace Schema.Closed

variable {units : List SourceUnit} {selected : Option (List String)} {output : Option Path}
  {settings : Settings} {p : Plan} {part : ModulePlan}

theorem fails_moduleOf (h : s.Closed a entries env c) {header : String}
    (hpart : part.records ⊆ s.order)
    (hplan : ∀ name ∈ s.order, ∃ part ∈ p.modules, name ∈ part.records) :
    Fails Failure.Benign (Assembly.moduleOf s p header part) := by
  obtain ⟨called, hcalled, hknown⟩ := h.referenced hpart
  have hforeign := Assembly.fails_foreign part.records fun name hname => hplan name (hknown hname)
  have hcodes : Fails Failure.Benign (RecordCode.ofRecords s part.records) :=
    .mapM fun name hname => h.fails_ofSchema (hpart hname)
  refine (Assembly.fails_checkErrorNames _).bind fun _ _ => ?_
  refine (Assembly.fails_checkRoutines _ _).bind fun _ _ => ?_
  exact .bind_of_eq_ok hcalled (hforeign.bind fun _ _ => hcodes.bind fun _ _ => .ok _)

/-- All records of a closed schema can be assembled, as far as their nodes and the records that they
call are concerned. -/
theorem fails_assemble (h : s.Closed a entries env c) (accepts : String → Bool)
    (hdeclared : ∀ name ∈ s.order, ∃ u ∈ units, name ∈ u.names)
    (hselected : s.order ⊆ selected.getD s.order) :
    Fails Failure.Benign (assemble accepts s units selected output settings) := by
  refine (Plan.fails_ofUnits _ _ _ _ _).bind fun p hp => ?_
  have hholds := Plan.holds_ofUnits hp
  have hplan (name : String) (hname : name ∈ s.order) :
      ∃ part ∈ p.modules, name ∈ part.records := by
    obtain ⟨u, hu, hmem⟩ := hdeclared name hname
    have hcontains : s.contains name = true := List.contains_iff_mem.mpr hname
    refine hholds.chosen u hu name (List.mem_filter.mpr ⟨hmem, ?_⟩)
    rw [hcontains, Bool.and_true]
    exact List.contains_iff_mem.mpr (hselected hname)
  split
  · exact .error rfl
  · refine .mapM fun part hpart => ?_
    exact (h.fails_moduleOf (hholds.known part hpart) hplan).bind fun m _ =>
      Assembly.fails_outputOf accepts m

end Schema.Closed

namespace Resolution

variable {units : List SourceUnit} {r : Resolution} {names : Option (List String)}

theorem Sound.exists_unit (h : r.Sound) {e : String × NodeId} (he : e ∈ r.registry.entries) :
    ∃ u ∈ r.units, e.1 ∈ u.names := by
  have hdeclared := h.declared e (List.mem_append_left _ he)
  obtain ⟨d, hd, hname⟩ := List.mem_map.mp hdeclared
  obtain ⟨u, hu, hd⟩ := List.mem_flatMap.mp hd
  exact ⟨u, hu, List.mem_map.mpr ⟨d, hd, hname⟩⟩

/-- A best-effort run over some records keeps all that have finite size, and tells one diagnostic
for each record that it drops. It keeps a record of infinite size only if visits from there get to a
tangled node. If it ran over the whole registry and kept no such record, then all that its records
refer to is kept and classified, and nothing is found missing when they are assembled. -/
theorem Reached.bestEffort (h : r.Reached units)
    (hasked : names.getD r.registry.order ⊆ r.registry.order)
    (hdistinct : (names.getD r.registry.order).Nodup) :
    ∃ s ds, r.schema names true = .ok (s, ds) ∧
      r.Salvages (names.getD r.registry.order) s ds ∧
      (r.registry.order ⊆ names.getD r.registry.order → (∀ e ∈ s.records, r.arena.Clear e.2) →
        (∀ e ∈ s.records, s.Encloses r.arena r.registry.entries e.2) ∧
        ∀ accepts selected output settings, s.order ⊆ selected.getD s.order →
          Fails Failure.Benign (assemble accepts s r.units selected output settings)) := by
  have hr := h.sound
  obtain ⟨c, kept, ds, hschema, hc, hsifts⟩ := hr.exists_left hasked
  have hsalvages := hr.salvages_left hasked hdistinct hc hsifts
  refine ⟨r.left c kept, ds, hschema, hsalvages, fun hwhole hclear => ?_⟩
  have hrecords := hsalvages.records.subset
  have hclosed : (r.left c kept).Closed r.arena r.registry.entries r.catalog c :=
    { arena := rfl
      good := hc.good
      unmarked := hr.unmarked
      bears := hr.bears
      records := hrecords
      encloses := fun e he =>
        hr.encloses_left hwhole hc hsifts he (hsalvages.clear e he (hclear e he)) }
  refine ⟨hclosed.encloses, fun accepts selected output settings hselected => ?_⟩
  refine hclosed.fails_assemble accepts (fun name hname => ?_) hselected
  obtain ⟨e, he, rfl⟩ := List.mem_map.mp hname
  exact hr.exists_unit (hrecords he)

/-! ### Records beside records of infinite size -/

/-- A field in which a record contains itself. -/
def selfField : FieldDecl := ⟨"a", .name "A", "A", "", 4⟩

/-- A unit with a record that contains itself, one with a list of it, and one with neither. -/
def mixedUnit : SourceUnit where
  path := ⟨"", ["types.py"]⟩
  moduleName := "types"
  inPackage := false
  records := [⟨"A", [selfField], "types.py", 2⟩,
    ⟨"B", [⟨"l", .apply "List" (.name "A"), "List[A]", "ssz-max:\"4\"", 6⟩], "types.py", 5⟩,
    ⟨"C", [⟨"n", .name "uint64", "uint64", "", 9⟩], "types.py", 8⟩]

/-- The resolution of its records. -/
def mixedResolution : Resolution :=
  (((Resolution.run { units := [mixedUnit] } (resolve "A")).2.run (resolve "B")).2.run
    (resolve "C")).2

theorem reached_mixedResolution : mixedResolution.Reached [mixedUnit] :=
  .step (.step (.step (.start (ofUnits_eq_ok rfl)) "A") "B") "C"

/-- Only the third record is kept. -/
theorem bestEffort_mixed : ∃ s ds, mixedResolution.schema none true = .ok (s, ds) ∧
    s.order = ["C"] ∧ ds.length = 2 ∧
    Fails Failure.Benign
      (assemble (fun _ => true) s mixedResolution.units none (some ⟨"", ["out.py"]⟩) {}) := by
  obtain ⟨s, ds, hs, -, hrest⟩ :=
    @Reached.bestEffort _ _ none reached_mixedResolution (by decide +kernel) (by decide +kernel)
  have hcomputed : (mixedResolution.schema none true).map (fun p => (p.1.order, p.2.length)) =
      .ok (["C"], 2) := by decide +kernel
  rw [hs] at hcomputed
  obtain ⟨horder, hlength⟩ := Prod.mk.inj (Except.ok.inj hcomputed)
  -- `B` lies above its list, and the list above `A`.
  have hclear (id : NodeId) : mixedResolution.arena.Clear id :=
    Arena.clear_of_level (fun id => if id = 1 then 2 else if id = 2 then 1 else 0)
      (by decide +kernel) id
  have hwhole : mixedResolution.registry.order ⊆ none.getD mixedResolution.registry.order := by
    rw [Option.getD_none]
    exact List.Subset.refl _
  obtain ⟨-, hassemble⟩ := hrest hwhole fun e _ => hclear e.2
  exact ⟨s, ds, hs, horder, hlength, hassemble _ none _ _ fun _ hname => hname⟩

/-- A record that is met first below a list of a record of infinite size is kept, although it
contains that record. Then that record is found missing. -/
theorem not_bestEffort_pair : ∃ r : Resolution,
    r.Reached [pairUnit [pairListField, selfField]] ∧ r.registry.order = r.declared ∧
    ∃ s ds, r.schema none true = .ok (s, ds) ∧ ds.length = 1 ∧
      (∃ e ∈ s.records, r.arena.Infinite e.2) ∧
      ¬Fails Failure.Benign (assemble (fun _ => true) s r.units none none {}) := by
  have hrun : ∃ p, (pairResolution [pairListField, selfField]).schema none true = .ok p ∧
      p.2.length = 1 ∧ ("B", 1) ∈ p.1.records ∧ ¬Fails Failure.Benign (assemble (fun _ => true)
        p.1 (pairResolution [pairListField, selfField]).units none none {}) := by
    decide +kernel
  obtain ⟨⟨s, ds⟩, hs, hlength, hmem, hfails⟩ := hrun
  refine ⟨_, reached_pairResolution, by decide +kernel, s, ds, hs, hlength, ⟨_, hmem, ?_⟩, hfails⟩
  have hself : (pairResolution [pairListField, selfField]).arena.Contains 0 0 := by decide +kernel
  have hpart : (pairResolution [pairListField, selfField]).arena.Contains 1 0 := by decide +kernel
  exact (Arena.Infinite.of_cycle (.single hself)).of_reaches (.single hpart.refers)

end Resolution

end SszSchema
