import SszSchema.Proofs.Registration

/-!
# Resolving a record

What each step of a resolution comes to. While a record is open, a step that returns a node for a
shape returns one of the declared type, and a step that fails has a cause: a shape without a type or
a doomed record (`Resolution.Advances`). So resolving a record either returns its node, with all
records opened on the way resolved too, or the record is doomed (`Resolution.resolveWith_advances`).

The outermost resolution registers what it has opened or gives all of it up
(`Resolution.Concludes`). Numbers that are too long to be read are the one way out of this: they
leave records open.
-/

namespace SszSchema

namespace Resolution

open Stateful

/-- A failure has a cause. If a number is too long to be read, some annotation has one. -/
def Justified (units : List SourceUnit) (cause : Prop) : Failure → Prop
  | .reported _ => cause
  | .digitLimit => ¬Convertible units ∧ cause
  | _ => False

theorem Justified.mono {units : List SourceUnit} {cause cause' : Prop} {failure : Failure}
    (h : Justified units cause failure) (himp : cause → cause') :
    Justified units cause' failure := by
  cases failure with
  | reported => exact himp h
  | digitLimit => exact h.imp_right himp
  | _ => exact h.elim

variable {α β : Type} {units : List SourceUnit} {depth : Nat} {P : Resolution → Prop}
  {R R' : α → Resolution → Prop} {S : β → Resolution → Prop} {cause cause' : Prop}
  {r r' : Resolution}

/-- While more than `depth` records are open, a step keeps the invariant and what has been resolved.
It returns a result with a property and leaves no more nodes reserved, or fails with a cause. -/
structure Advances (units : List SourceUnit) (depth : Nat) (P : Resolution → Prop) (m : Step α)
    (R : α → Resolution → Prop) (cause : Prop) : Prop where
  run : ∀ r : Resolution, r.Sound → r.units = units → depth < r.pending.length → P r →
    match m r with
    | (.ok a, r') => r'.Sound ∧ r.Completes r' ∧ R a r'
    | (.error failure, r') => r'.Sound ∧ r.Extends r' ∧ Justified units cause failure

theorem Extends.lt_length_pending (h : r.Extends r') (hdepth : depth < r.pending.length) :
    depth < r'.pending.length :=
  hdepth.trans_le h.pending.length_le

namespace Advances

theorem pure {a : α} (h : ∀ r, P r → R a r) : Advances units depth P (Pure.pure a) R cause :=
  ⟨fun r hr _ _ hP => ⟨hr, .refl r, h r hP⟩⟩

theorem throw {failure : Failure} (h : Justified units cause failure) :
    Advances units depth P (MonadExcept.throw failure) R cause :=
  ⟨fun r hr _ _ _ => ⟨hr, .refl r, h⟩⟩

theorem report {R : NodeId → Resolution → Prop} {kind : DiagnosticKind} {message : String}
    (h : cause) : Advances units depth P (Resolution.report kind message) R cause :=
  throw h

theorem bind {m : Step α} {f : α → Step β} (hm : Advances units depth P m R cause)
    (hf : ∀ a, Advances units depth (R a) (f a) S cause) :
    Advances units depth P (m >>= f) S cause := by
  refine ⟨fun r hr hunits hdepth hP => ?_⟩
  have h := hm.run r hr hunits hdepth hP
  rw [run_bind]
  rcases hrun : m r with ⟨failure | a, r'⟩ <;> rw [hrun] at h
  · exact h
  · obtain ⟨hr', hext, hR⟩ := h
    have h := (hf a).run r' hr' (hext.units.trans hunits) (hext.lt_length_pending hdepth) hR
    dsimp only
    rcases hrun : f a r' with ⟨failure | b, r''⟩ <;> rw [hrun] at h
    · exact ⟨h.1, hext.toExtends.trans h.2.1, h.2.2⟩
    · exact ⟨h.1, hext.trans h.2.1, h.2.2⟩

theorem conseq {P' : Resolution → Prop} {m : Step α} (hm : Advances units depth P m R cause)
    (hP : ∀ r, P' r → P r) (hR : ∀ a r, R a r → R' a r) (hcause : cause → cause') :
    Advances units depth P' m R' cause' := by
  refine ⟨fun r hr hunits hdepth hP' => ?_⟩
  have h := hm.run r hr hunits hdepth (hP r hP')
  rcases hrun : m r with ⟨failure | a, r'⟩ <;> rw [hrun] at h
  · exact ⟨h.1, h.2.1, h.2.2.mono hcause⟩
  · exact ⟨h.1, h.2.1, hR a r' h.2.2⟩

/-- A fact that does not depend on the state. -/
theorem assume {p : Prop} {m : Step α} (hm : p → Advances units depth P m R cause) :
    Advances units depth (fun r => P r ∧ p) m R cause :=
  ⟨fun r hr hunits hdepth hP => (hm hP.2).run r hr hunits hdepth hP.1⟩

/-- Something that does not depend on the state, with a property that does. -/
theorem choose {γ : Type} {p : γ → Prop} {T : γ → Resolution → Prop} {m : Step α}
    (hm : ∀ c, p c → Advances units depth (T c) m R cause) :
    Advances units depth (fun r => ∃ c, p c ∧ T c r) m R cause :=
  ⟨fun r hr hunits hdepth ⟨c, hc, hT⟩ => (hm c hc).run r hr hunits hdepth hT⟩

/-- Steps for the elements of a list keep the properties of earlier results, if those stay. -/
theorem mapM {f : α → Step β} {T : α → β → Resolution → Prop} {l : List α}
    (hT : ∀ a b r r', T a b r → r.Extends r' → T a b r')
    (hf : ∀ a ∈ l, Advances units depth (fun _ => True) (f a) (T a) cause) :
    Advances units depth (fun _ => True) (l.mapM f)
      (fun bs r => List.Forall₂ (fun a b => T a b r) l bs) cause := by
  induction l with
  | nil =>
    rw [List.mapM_nil]
    exact pure fun _ _ => .nil
  | cons a l ih =>
    obtain ⟨ha, hl⟩ := List.forall_mem_cons.mp hf
    rw [List.mapM_cons]
    refine bind ha fun b => ?_
    -- The property of the first result holds before the other steps, hence after them.
    refine ⟨fun r hr hunits hdepth hb => ?_⟩
    have h := (ih hl).run r hr hunits hdepth trivial
    rw [run_bind]
    rcases hrun : l.mapM f r with ⟨failure | bs, r'⟩ <;> rw [hrun] at h
    · exact h
    · obtain ⟨hr', hext, hbs⟩ := h
      exact ⟨hr', hext, .cons (hT a b r r' hb hext.toExtends) hbs⟩

theorem within {context : DataMap} {m : Step α} (hm : Advances units depth P m R cause) :
    Advances units depth P (Resolution.within context m) R cause := by
  refine ⟨fun r hr hunits hdepth hP => ?_⟩
  have h := hm.run r hr hunits hdepth hP
  rw [Resolution.within, run_tryCatch]
  rcases hrun : m r with ⟨failure | a, r'⟩ <;> rw [hrun] at h
  · cases failure <;> exact h
  · exact h

/-- What an annotation says is known afterwards. -/
theorem ofTags {raw : String} {result : Except TagList.Fault α}
    (hread : Convertible units → result ≠ .error .digitLimit)
    (hcause : ∀ fault, result = .error fault → cause) :
    Advances units depth P (Resolution.ofTags raw result) (fun a r => P r ∧ result = .ok a)
      cause := by
  rcases result with fault | a
  · cases fault with
    | digitLimit => exact throw ⟨fun hconv => hread hconv rfl, hcause _ rfl⟩
    | _ => exact throw (hcause _ rfl)
  · exact pure fun _ hP => ⟨hP, rfl⟩

theorem add {n : Node} {R : NodeId → Resolution → Prop} (hn : n.Plain)
    (h : ∀ r, P r → R r.arena.size { r with arena := (r.arena.add n).1 }) :
    Advances units depth P (Resolution.add n) R cause :=
  ⟨fun r hr _ _ hP => ⟨hr.add hn, completes_add r n, h r hP⟩⟩

/-- Adding the node of a type. -/
theorem node {n : Node} {t? : Option SszType} {t : SszType} (ht : t? = some t) (hn : n.Plain)
    (h : ∀ (a : Arena) entries, (a.add n).1.get? a.size = some n →
      TypeOf (a.add n).1 entries a.size t) :
    Advances units depth P (Resolution.add n) (fun id r => r.HasType id t?) cause :=
  .add hn fun _ _ => ⟨t, ht, h _ _ (Arena.get?_add_size _ _)⟩

end Advances

/-! ## Shapes -/

section

variable {a : TagList} (ha : Convertible units → a.Convertible)

include ha

theorem sizeOf_advances (h : ∀ fault, a.size? = .error fault → cause) :
    Advances units depth P (sizeOf a) (fun size r => P r ∧ a.size? = .ok size) cause :=
  .ofTags (fun hconv => (ha hconv).1) h

theorem maxOf_advances (h : ∀ fault, a.max? = .error fault → cause) :
    Advances units depth P (maxOf a) (fun limit r => P r ∧ a.max? = .ok limit) cause :=
  .ofTags (fun hconv => (ha hconv).2.1) h

theorem bitListNode_advances (hn : a.bitListType? = none → cause) :
    Advances units depth P (do add { kind := .bitList, limit := ← maxOf a })
      (fun id r => r.HasType id a.bitListType?) cause := by
  refine .bind (maxOf_advances ha fun fault h => hn ?_) fun limit => .assume fun hmax => ?_
  · simp [TagList.bitListType?, h, Except.toOption]
  · have ht : a.bitListType? = some (.bitList limit) := by
      simp [TagList.bitListType?, hmax, Except.toOption]
    exact .node ht (.bitList limit) fun _ _ h => .bitList h rfl rfl rfl

theorem bytesNode_advances : Advances units depth P (bytesNode a)
    (fun id r => r.HasType id a.bytesType?) (a.bytesType? = none) := by
  unfold bytesNode
  split
  · case isTrue hbits =>
    refine .bind (maxOf_advances ha fun fault h => ?_) fun limit => .assume fun hmax => ?_
    · simp [TagList.bytesType?, hbits, h, Except.toOption]
    · have ht : a.bytesType? = some (.packedBits limit) := by
        simp [TagList.bytesType?, hbits, hmax, Except.toOption]
      exact .node ht (.packedBits limit) fun _ _ h => .packedBits h rfl rfl rfl
  · case isFalse hbits =>
    refine .bind (sizeOf_advances ha fun fault h => ?_) fun size => .assume fun hsize => ?_
    · simp [TagList.bytesType?, hbits, h]
    rcases size with _ | _ | n
    · refine .bind (maxOf_advances ha fun fault h => ?_) fun limit => .assume fun hmax => ?_
      · simp [TagList.bytesType?, hbits, hsize, h]
      rcases limit with _ | limit
      · exact .report (by simp [TagList.bytesType?, hbits, hsize, hmax])
      · have ht : a.bytesType? = some (.boundedBytes limit) := by
          simp [TagList.bytesType?, hbits, hsize, hmax]
        exact .node ht (.boundedBytes limit) fun _ _ h => .boundedBytes h rfl rfl rfl
    · exact .report (by simp [TagList.bytesType?, hbits, hsize])
    · have ht : a.bytesType? = some (.fixedBytes (n + 1)) := by
        simp [TagList.bytesType?, hbits, hsize]
      exact .node ht (.fixedBytes (n + 1)) fun _ _ h => .fixedBytes h rfl rfl

theorem bitVectorNode_advances : Advances units depth P (bitVectorNode a)
    (fun id r => r.HasType id a.bitVectorType?) (a.bitVectorType? = none) := by
  refine .bind (sizeOf_advances ha fun fault h => ?_) fun size => .assume fun hsize => ?_
  · simp [TagList.bitVectorType?, h]
  rcases size with _ | _ | n
  · exact .report (by simp [TagList.bitVectorType?, hsize])
  · exact .report (by simp [TagList.bitVectorType?, hsize])
  · have ht : a.bitVectorType? = some (.bitVector (n + 1)) := by
      simp [TagList.bitVectorType?, hsize]
    exact .node ht (.bitVector (n + 1)) fun _ _ h => .bitVector h rfl rfl

end

/-- A vector whose element has a type. -/
theorem vectorNode_advances {element : NodeId} {n : Nat} {t : SszType} {t? : Option SszType}
    (hpos : 0 < n) (ht : t? = some (.vector n t)) :
    Advances units depth (fun r => TypeOf r.arena r.known element t)
      (add { kind := .vector, length := some n, element := some element })
      (fun id r => r.HasType id t?) cause := by
  refine .add (.vector n element) fun r helement => ?_
  obtain ⟨_, hget⟩ := helement.get?
  exact ⟨_, ht, .vector (Arena.get?_add_size _ _) rfl rfl hpos rfl (Arena.lt_size_of_get? hget)
    (helement.mono (Arena.keeps_add _ _) (List.Subset.refl _))⟩

theorem listNode_advances {element : NodeId} {n : Nat} {t : SszType} {t? : Option SszType}
    (ht : t? = some (.list n t)) :
    Advances units depth (fun r => TypeOf r.arena r.known element t)
      (add { kind := .list, limit := some n, element := some element })
      (fun id r => r.HasType id t?) cause := by
  refine .add (.list n element) fun r helement => ?_
  obtain ⟨_, hget⟩ := helement.get?
  exact ⟨_, ht, .list (Arena.get?_add_size _ _) rfl rfl rfl (Arena.lt_size_of_get? hget)
    (helement.mono (Arena.keeps_add _ _) (List.Subset.refl _))⟩

/-- The first of two sizes is not zero. -/
theorem readOuter_pos {value : List Char} {n : Nat} (h : TagList.readOuter value = .ok (some n)) :
    0 < n := by
  unfold TagList.readOuter at h
  split at h
  · cases h
  · split at h
    · cases h
    · cases h
    case h_3 hzero _ =>
      cases h
      exact Nat.pos_of_ne_zero hzero

theorem sizePair?_pos {a : TagList} {n inner : Nat} (h : a.sizePair? = .ok (some ⟨some n, inner⟩)) :
    0 < n := by
  unfold TagList.sizePair? at h
  split at h
  · cases h
  · split at h
    · obtain ⟨outer, houter, h⟩ := Outcome.bind_eq_ok.mp h
      obtain ⟨inner, -, h⟩ := Outcome.bind_eq_ok.mp h
      cases Outcome.pure_eq_ok.mp h
      exact readOuter_pos houter
    · cases h

section

variable {a : TagList} (ha : Convertible units → a.Convertible)

include ha

theorem byteVectorsNode_advances : Advances units depth P (byteVectorsNode a)
    (fun id r => r.HasType id a.byteVectorsType?) (a.byteVectorsType? = none) := by
  refine .bind (.ofTags (fun hconv => (ha hconv).2.2) fun fault h => ?_) fun pair =>
    .assume fun hpair => ?_
  · simp [TagList.byteVectorsType?, h]
  rcases pair with _ | ⟨outer, _ | inner⟩
  · exact .report (by simp [TagList.byteVectorsType?, hpair])
  · exact .report (by simp [TagList.byteVectorsType?, hpair])
  · refine .bind (R := fun id r => TypeOf r.arena r.known id (.fixedBytes (inner + 1)))
      (.add (.fixedBytes _) fun r _ => .fixedBytes (Arena.get?_add_size _ _) rfl rfl)
      fun element => ?_
    rcases outer with _ | n
    · refine .bind (maxOf_advances ha fun fault h => ?_) fun limit => .assume fun hmax => ?_
      · simp [TagList.byteVectorsType?, hpair, h]
      rcases limit with _ | limit
      · exact .report (by simp [TagList.byteVectorsType?, hpair, hmax])
      · exact listNode_advances (by simp [TagList.byteVectorsType?, hpair, hmax])
    · exact vectorNode_advances (sizePair?_pos hpair) (by simp [TagList.byteVectorsType?, hpair])

theorem sequenceNode_advances {element : NodeId} {t : SszType} :
    Advances units depth (fun r => TypeOf r.arena r.known element t) (sequenceNode a element)
      (fun id r => r.HasType id (a.sequenceType? t)) (a.sequenceType? t = none) := by
  refine .bind (sizeOf_advances ha fun fault h => ?_) fun size => .assume fun hsize => ?_
  · simp [TagList.sequenceType?, h]
  rcases size with _ | _ | n
  · refine .bind (maxOf_advances ha fun fault h => ?_) fun limit => .assume fun hmax => ?_
    · simp [TagList.sequenceType?, hsize, h]
    rcases limit with _ | limit
    · exact .report (by simp [TagList.sequenceType?, hsize, hmax])
    · exact listNode_advances (by simp [TagList.sequenceType?, hsize, hmax])
  · exact .report (by simp [TagList.sequenceType?, hsize])
  · exact vectorNode_advances (Nat.succ_pos n) (by simp [TagList.sequenceType?, hsize])

/-- A name that stands for no record; for one that does, `other` is asked. -/
theorem basicNode_advances {name : String} {other : Step NodeId} {t? : Option SszType}
    (hbasic : meaning name ≠ .other → t? = a.basicType? (meaning name))
    (hother : meaning name = .other →
      Advances units depth P other (fun id r => r.HasType id t?) cause)
    (hcause : t? = none → cause) :
    Advances units depth P (basicNode a name other) (fun id r => r.HasType id t?) cause := by
  unfold basicNode
  cases hm : meaning name with
  | bytes =>
    obtain rfl := hbasic (by simp [hm])
    simp only [hm, TagList.basicType?] at hcause ⊢
    exact (bytesNode_advances ha).conseq (fun _ => id) (fun _ _ => id) hcause
  | uint width =>
    obtain rfl := hbasic (by simp [hm])
    exact .node (by rw [hm]; rfl) (.uint width) fun _ _ h => .uint h rfl rfl
  | bool =>
    obtain rfl := hbasic (by simp [hm])
    exact .node (by rw [hm]; rfl) .bool fun _ _ h => .bool h rfl rfl
  | bitList =>
    obtain rfl := hbasic (by simp [hm])
    simp only [hm, TagList.basicType?] at hcause ⊢
    exact bitListNode_advances ha hcause
  | bitVector =>
    obtain rfl := hbasic (by simp [hm])
    simp only [hm, TagList.basicType?] at hcause ⊢
    exact (bitVectorNode_advances ha).conseq (fun _ => id) (fun _ _ => id) hcause
  | other => exact hother hm

/-- A sequence gets a node of its type, if its element gets one. -/
theorem apply_advances {record : String → Step NodeId} (head : String) (e : TypeExpr)
    (ih : Advances units depth (fun _ => True) (shape record a e)
      (fun id r => r.HasType id (e.type? a))
      (e.type? a = none ∨ ∃ y ∈ e.record?, Doomed units y)) :
    Advances units depth (fun _ => True) (shape record a (.apply head e))
      (fun id r => r.HasType id ((TypeExpr.apply head e).type? a))
      ((TypeExpr.apply head e).type? a = none ∨ ∃ y ∈ e.record?, Doomed units y) := by
  unfold shape
  split
  · case isTrue hhead =>
    split
    · case isTrue hbytes =>
      have ht : (TypeExpr.apply head e).type? a = a.byteVectorsType? := by
        simp only [TypeExpr.type?, if_pos hhead, if_pos hbytes]
      rw [ht]
      exact (byteVectorsNode_advances ha).conseq (fun _ => id) (fun _ _ => id) .inl
    · case isFalse hbytes =>
      split
      · case isTrue hbool =>
        have ht : (TypeExpr.apply head e).type? a = a.bitListType? := by
          simp only [TypeExpr.type?, if_pos hhead, if_neg hbytes, if_pos hbool]
        rw [ht]
        exact bitListNode_advances ha .inl
      · case isFalse hbool =>
        have ht : (TypeExpr.apply head e).type? a = (e.type? a).bind a.sequenceType? := by
          simp only [TypeExpr.type?, if_pos hhead, if_neg hbytes, if_neg hbool]
        rw [ht]
        refine .bind (ih.conseq (fun _ => id) (fun _ _ => id) (Or.imp_left ?_)) fun element => ?_
        · intro he
          rw [he, Option.bind_none]
        · refine .choose fun t he => ?_
          rw [he, Option.bind_some]
          exact (sequenceNode_advances ha).conseq (fun _ => id) (fun _ _ => id) .inl
  · case isFalse hhead =>
    exact .report (.inl (by simp only [TypeExpr.type?, if_neg hhead]))

/-- A shape gets a node of its type, if records get theirs. It fails if it has no type, or with the
record that it mentions. -/
theorem shape_advances {record : String → Step NodeId}
    (h : ∀ name, Advances units depth (fun _ => True) (record name)
      (fun id r => TypeOf r.arena r.known id (.record name)) (Doomed units name)) (e : TypeExpr) :
    Advances units depth (fun _ => True) (shape record a e) (fun id r => r.HasType id (e.type? a))
      (e.type? a = none ∨ ∃ y ∈ e.record?, Doomed units y) := by
  induction e with
  | name id =>
    refine basicNode_advances ha (fun hm => ?_) (fun hm => ?_) .inl
    · simp [TypeExpr.type?, TypeExpr.isRecordName, hm]
    split
    · case isTrue hw =>
      have hname : TypeExpr.isRecordName id = false := by
        simpa [TypeExpr.isRecordName] using fun _ => hw
      exact .report (.inl (by simp [TypeExpr.type?, hname, hm, TagList.basicType?]))
    · case isFalse hw =>
      have hname : TypeExpr.isRecordName id = true := by simpa [TypeExpr.isRecordName, hm] using hw
      have hmentions : (TypeExpr.name id).record? = some id := by simp [TypeExpr.record?, hname]
      have ht : (TypeExpr.name id).type? a = some (.record id) := by simp [TypeExpr.type?, hname]
      exact (h id).conseq (fun _ _ => trivial) (fun _ _ htype => ⟨_, ht, htype⟩)
        fun hd => .inr ⟨id, hmentions, hd⟩
  | member id text =>
    refine basicNode_advances ha (fun _ => rfl) (fun hm => ?_) .inl
    exact .report (.inl (by simp [TypeExpr.type?, hm, TagList.basicType?]))
  | apply head e ih => exact apply_advances ha head e ih
  | applyMany head =>
    unfold shape
    split <;> exact .report (.inl rfl)
  | quoted e ih => exact ih
  | other text => exact .report (.inl rfl)

end

/-! ## Fields -/

/-- Reading pairs takes no numbers. -/
theorem readPairs_ne_digitLimit (length fuel : Nat) (cs : List Char) :
    TagList.readPairs length fuel cs ≠ .error .digitLimit := by
  induction fuel generalizing cs with
  | zero => exact nofun
  | succ fuel ih =>
    unfold TagList.readPairs
    split
    · exact nofun
    · split
      · exact nofun
      · case h_2 pair rest _ =>
        have hrest := ih rest
        cases hread : TagList.readPairs length fuel rest with
        | ok => exact nofun
        | error fault =>
          intro h
          rw [hread] at hrest
          exact hrest (by rw [Except.error.inj h])

theorem parse_ne_digitLimit (raw : String) : TagList.parse raw ≠ .error .digitLimit := by
  have hread := readPairs_ne_digitLimit (TagList.core raw.toList).length
    ((TagList.core raw.toList).length + 1) (TagList.core raw.toList)
  unfold TagList.parse
  cases h : TagList.readPairs (TagList.core raw.toList).length
    ((TagList.core raw.toList).length + 1) (TagList.core raw.toList) with
  | ok => simp only [h]; exact nofun
  | error fault =>
    simp only [h]
    intro heq
    rw [h] at hread
    exact hread (by rw [Except.error.inj heq])

section

variable {record : String → Step NodeId} {d : RecordDecl}

/-- A field is resolved as it is declared. -/
theorem field_advances (hd : d ∈ SszSchema.declarations units)
    (h : ∀ name, Advances units depth (fun _ => True) (record name)
      (fun id r => TypeOf r.arena r.known id (.record name)) (Doomed units name))
    {f : FieldDecl} (hf : f ∈ d.fields) :
    Advances units depth (fun _ => True) (field record d f)
      (fun g r => f.Matches r.arena r.known g)
      (f.type? = none ∨ ∃ y ∈ f.shape.record?, Doomed units y) := by
  refine .within (.bind (.ofTags (fun _ => parse_ne_digitLimit _) fun fault hparse => ?_) fun a =>
    .assume fun hparse => ?_)
  · exact .inl (by simp [FieldDecl.type?, hparse, Except.toOption])
  · have ht : f.type? = f.shape.type? a := by simp [FieldDecl.type?, hparse, Except.toOption]
    have hshape := shape_advances (fun hconv => hconv d hd f hf a hparse) h f.shape
    rw [← ht] at hshape
    exact .bind hshape fun id => .pure fun r htype => ⟨rfl, rfl, htype⟩

/-- The fields of a record are resolved as they are declared, or the record is doomed. -/
theorem fields_advances (hd : declared? units d.name = some d)
    (h : ∀ name, Advances units depth (fun _ => True) (record name)
      (fun id r => TypeOf r.arena r.known id (.record name)) (Doomed units name)) :
    Advances units depth (fun _ => True) (d.fields.mapM (field record d))
      (fun fields r => List.Forall₂ (FieldDecl.Matches r.arena r.known) d.fields fields)
      (Doomed units d.name) := by
  have hmem := (declared?_eq_some hd).2
  refine .mapM ?_ fun f hf => ?_
  · rintro f g r r' ⟨hname, hline, htype⟩ hext
    exact ⟨hname, hline, HasType.mono hext htype⟩
  · refine (field_advances hmem h hf).conseq (fun _ => id) (fun _ _ => id) ?_
    rintro (ht | ⟨y, hy, hdoomed⟩)
    · exact .of_field hd hf ht
    · exact .of_mentions hd hf hy hdoomed

/-! ## Records -/

/-- The resolution after the outermost record has been resolved. -/
def committed (r : Resolution) : Resolution := { r with registry := ⟨r.known⟩, pending := [] }

/-- The resolution after a record has failed: the outermost one gives up all that is open. -/
def failing (r : Resolution) (outermost : Bool) (name : String) : Failure → Resolution
  | .reported d =>
      if outermost then { r with pending := [], failed := r.failed ++ [(name, d)] } else r
  | _ => r

/-- Filling the node that was reserved for a record completes what was open before. -/
theorem completes_filled {name : String} (hr' : r'.Sound)
    (hext : (r.reserved name).Completes r') (hd : declared? r'.units name = some d)
    {fields : List FieldRef}
    (hmatches : List.Forall₂ (FieldDecl.Matches r'.arena r'.known) d.fields fields) :
    r.Completes (r'.filled name r.arena.size fields) := by
  have hid := hext.pending.subset (mem_pending_reserved r name)
  refine ⟨⟨?_, (extends_reserved r name).pending.trans hext.pending, hext.registry, hext.failed,
    hext.units⟩, fun e he => ?_⟩
  · -- The node is filled behind all those that were there before.
    obtain ⟨more, hmore⟩ := hext.nodes
    have hset : (r'.filled name r.arena.size fields).arena.nodes = r.arena.nodes ++
        { kind := .container, record := some name, fields } :: more := by
      simp [filled, Arena.set, ← hmore, reserved, Arena.add, Arena.size]
    rw [hset]
    exact List.prefix_append _ _
  · by_cases hne : e = (name, r.arena.size)
    · subst hne
      exact .inr (hr'.matches_filled hid hd hmatches)
    · have hknown : e ∈ r'.known := List.mem_append_right _ he
      rcases hext.filled e he with he | he
      · refine .inl ((List.mem_append.mp he).resolve_right fun he => hne ?_)
        exact List.mem_singleton.mp he
      · exact .inr (he.mono (hr'.keeps_filled hid) (List.Subset.refl _) fun _ =>
          hr'.get?_filled_of_ne hid hknown hne)

/-- Resolving a declared record opens it and resolves its fields. It returns with the node filled,
or fails with a cause. -/
theorem expand_cases (hr : r.Sound) (hd : declared? r.units d.name = some d)
    (hname : d.name ∉ r.known.map (·.1))
    (h : ∀ name, Advances r.units r.pending.length (fun _ => True) (record name)
      (fun id r => TypeOf r.arena r.known id (.record name)) (Doomed r.units name)) :
    (∃ r', r'.Sound ∧ r.Completes r' ∧ (d.name, r.arena.size) ∈ r'.pending ∧
      expand record d r =
        (.ok r.arena.size, if r.pending.isEmpty then r'.committed else r')) ∨
    ∃ r' failure, r'.Sound ∧ (r.reserved d.name).Extends r' ∧
      Justified r.units (Doomed r.units d.name) failure ∧
      expand record d r = (.error failure, r'.failing r.pending.isEmpty d.name failure) := by
  have hdeclared : d.name ∈ r.declared := List.mem_map_of_mem (declared?_eq_some hd).2
  have hopen := hr.reserved hname hdeclared
  have hlength : r.pending.length < (r.reserved d.name).pending.length := by simp [reserved]
  have hfields := (fields_advances hd h).run _ hopen rfl hlength trivial
  unfold expand
  rw [run_get_bind, run_bind, reserve_eq]
  dsimp only
  rw [run_bind, run_tryCatch]
  rcases hrun : d.fields.mapM (field record d) (r.reserved d.name) with ⟨failure | fields, r'⟩ <;>
    rw [hrun] at hfields
  · obtain ⟨hr', hext, hcause⟩ := hfields
    refine .inr ?_
    cases failure with
    | reported e =>
      refine ⟨r', .reported (e.withContext [("record", .text d.name), ("path", .text d.path)]), hr',
        hext, hcause, ?_⟩
      cases r.pending.isEmpty <;> rfl
    | _ => exact ⟨r', _, hr', hext, hcause, rfl⟩
  · obtain ⟨hr', hext, hmatches⟩ := hfields
    refine .inl ⟨r'.filled d.name r.arena.size fields, ?_⟩
    have hid := hext.pending.subset (mem_pending_reserved r d.name)
    have hunits : r'.units = r.units := hext.units
    have hnode : r'.arena.get? r.arena.size = some { kind := .container, record := some d.name } :=
      Arena.get?_of_nodes hext.nodes (Arena.get?_add_size _ _)
    dsimp only
    rw [run_bind, fill_eq hnode rfl]
    have hsound := hr'.filled hid (hunits ▸ hd) hmatches
    refine ⟨hsound, completes_filled hr' hext (hunits ▸ hd) hmatches, hid, ?_⟩
    dsimp only
    cases r.pending.isEmpty with
    | false => rfl
    | true =>
      simp only [if_true]
      rw [run_bind, commit_eq hsound]
      rfl

end

/-- A record has a node, or is doomed, or is resolved afresh. -/
theorem lookUp_cases (hr : r.Sound) (name : String) (fresh : RecordDecl → Step NodeId) :
    (∃ id, (name, id) ∈ r.known ∧ lookUp name fresh r = (.ok id, r)) ∨
    (∃ d, Doomed r.units name ∧ lookUp name fresh r = (.error (.reported d), r)) ∨
    ∃ d, declared? r.units name = some d ∧ name ∉ r.known.map (·.1) ∧
      lookUp name fresh r = fresh d r := by
  unfold lookUp
  rw [run_get_bind]
  cases hget : r.registry.get? name with
  | some id =>
    have hid := (Registry.get?_eq_some_iff (registered_nodup hr)).mp hget
    exact .inl ⟨id, List.mem_append_left _ hid, rfl⟩
  | none =>
    cases hfind : r.pending.find? (·.1 == name) with
    | some e =>
      have hname : e.1 = name := by simpa using List.find?_some hfind
      refine .inl ⟨e.2, List.mem_append_right _ ?_, rfl⟩
      rw [← hname]
      exact List.mem_of_find?_eq_some hfind
    | none =>
      cases hfailed : r.failed.find? (·.1 == name) with
      | some e =>
        have hname : e.1 = name := by simpa using List.find?_some hfailed
        have hdoomed := hr.doomed e (List.mem_of_find?_eq_some hfailed)
        exact .inr (.inl ⟨e.2, hname ▸ hdoomed, rfl⟩)
      | none =>
        cases hd : declared? r.units name with
        | none =>
          have hdeclaration : r.declaration name = .error (.unknownRecord name) := by
            have hnone : r.declaration? name = none := hd
            simp only [declaration, hnone]
          refine .inr (.inl ⟨.unknownRecord name, .of_undeclared hd, ?_⟩)
          dsimp only
          rw [hdeclaration]
          rfl
        | some d =>
          have hdeclaration : r.declaration name = .ok d := by
            have hsome : r.declaration? name = some d := hd
            simp only [declaration, hsome]
          refine .inr (.inr ⟨d, rfl, ?_, ?_⟩)
          · rw [known, List.map_append, List.mem_append, not_or]
            refine ⟨Registry.contains_eq_false_iff.mp ?_, ?_⟩
            · rw [Registry.contains, hget, Option.isSome_none]
            · simpa only [List.find?_eq_none, beq_iff_eq, List.mem_map, not_exists, not_and]
                using hfind
          · dsimp only
            rw [hdeclaration]

/-- While other records are open, a record gets its node or is doomed. The fuel is enough: each call
inside opens one more record, and no more are open than declared. -/
theorem resolveWith_advances (fuel : Nat)
    (hfuel : (SszSchema.declarations units).length ≤ fuel + depth) (name : String) :
    Advances units depth (fun _ => True) (resolveWith fuel name)
      (fun id r => TypeOf r.arena r.known id (.record name)) (Doomed units name) := by
  induction fuel generalizing depth name with
  | zero =>
    refine ⟨fun r hr hunits hdepth _ => ?_⟩
    have hle := hr.length_pending_le
    rw [hunits] at hle
    omega
  | succ fuel ih =>
    refine ⟨fun r hr hunits hdepth _ => ?_⟩
    subst hunits
    unfold resolveWith
    obtain ⟨id, hid, heq⟩ | ⟨d, hdoomed, heq⟩ | ⟨d, hd, hname, heq⟩ :=
      lookUp_cases hr name (expand (resolveWith fuel))
    · rw [heq]
      exact ⟨hr, .refl r, hr.typeOf_record hid⟩
    · rw [heq]
      exact ⟨hr, .refl r, hdoomed⟩
    · obtain rfl := (declared?_eq_some hd).1
      have hopen : r.pending.isEmpty = false := by
        rw [List.isEmpty_eq_false_iff]
        exact List.ne_nil_of_length_pos (by omega)
      have hinner (name : String) := @ih r.pending.length (by omega) name
      rw [heq]
      obtain ⟨r', hr', hext, hid, heq⟩ | ⟨r', failure, hr', hext, hcause, heq⟩ :=
        expand_cases hr hd hname hinner
      · rw [heq, hopen]
        exact ⟨hr', hext, hr'.typeOf_record (List.mem_append_right _ hid)⟩
      · have hext := (extends_reserved r d.name).trans hext
        rw [heq, hopen]
        cases failure <;> exact ⟨hr', hext, hcause⟩

/-! ## Outermost records -/

/-- What resolving a record comes to if no record is open. A record that is returned is registered
behind those that were there, all together; a doomed one is noted and nothing else changes but
for nodes at the end. Only if a number is too long to be read, records stay open. -/
def Concludes (r : Resolution) (name : String) : Except Failure NodeId × Resolution → Prop
  | (.ok id, r') => r'.pending = [] ∧ r.arena.nodes <+: r'.arena.nodes ∧
      r.registry.entries <+: r'.registry.entries ∧ r'.failed = r.failed ∧ r'.units = r.units ∧
      (name, id) ∈ r'.registry.entries
  | (.error failure, r') => r.arena.nodes <+: r'.arena.nodes ∧ r'.registry = r.registry ∧
      r'.units = r.units ∧ Justified r.units (Doomed r.units name) failure ∧
      (r'.pending = [] ↔ ∃ d, failure = .reported d)

theorem run_resolve (r : Resolution) (name : String) : r.run (resolve name) =
    resolveWith ((SszSchema.declarations r.units).length + 1) name r := by
  rw [run, resolve, run_get_bind, declarations]

/-- Resolving a record afresh while no other is open comes to an end. -/
theorem expand_concludes (hr : r.Sound) (hopen : r.pending = [])
    (hd : declared? r.units d.name = some d) (hname : d.name ∉ r.known.map (·.1))
    {record : String → Step NodeId}
    (h : ∀ name, Advances r.units r.pending.length (fun _ => True) (record name)
      (fun id r => TypeOf r.arena r.known id (.record name)) (Doomed r.units name)) :
    (expand record d r).2.Sound ∧ r.Concludes d.name (expand record d r) := by
  obtain ⟨r', hr', hext, hid, heq⟩ | ⟨r', failure, hr', hext, hcause, heq⟩ :=
    expand_cases hr hd hname h
  · have hfilled : ∀ e ∈ r'.pending, r'.arena.Matches r'.units r'.known e := by
      intro e he
      simpa [hopen] using hext.filled e he
    have hentries : r.registry.entries <+: r'.known := by
      rw [known, hext.registry]
      exact List.prefix_append _ _
    rw [heq, hopen]
    exact ⟨hr'.commit hfilled, rfl, hext.nodes, hentries, hext.failed, hext.units,
      List.mem_append_right _ hid⟩
  · have hreserved := hext.pending.subset (mem_pending_reserved r d.name)
    have hext := (extends_reserved r d.name).trans hext
    rw [heq, hopen]
    cases failure with
    | reported e =>
      have hdoomed : Doomed r'.units d.name := hext.units ▸ hcause
      exact ⟨hr'.abandon hdoomed e, hext.nodes, hext.registry, hext.units, hcause,
        iff_of_true rfl ⟨e, rfl⟩⟩
    | _ =>
      exact ⟨hr', hext.nodes, hext.registry, hext.units, hcause,
        iff_of_false (List.ne_nil_of_mem hreserved) (by rintro ⟨e, ⟨⟩⟩)⟩

/-- Resolving a record keeps the invariant, and comes to an end if no record is open. -/
theorem resolve_concludes (hr : r.Sound) (name : String) :
    (r.run (resolve name)).2.Sound ∧
      (r.pending = [] → r.Concludes name (r.run (resolve name))) := by
  rw [run_resolve]
  by_cases hopen : r.pending = []
  · unfold resolveWith
    obtain ⟨id, hid, heq⟩ | ⟨d, hdoomed, heq⟩ | ⟨d, hd, hname, heq⟩ :=
      lookUp_cases hr name
        (expand (resolveWith (SszSchema.declarations r.units).length))
    · have hid : (name, id) ∈ r.registry.entries := by simpa [known, hopen] using hid
      rw [heq]
      exact ⟨hr, fun _ => ⟨hopen, List.prefix_refl _, List.prefix_refl _, rfl, rfl, hid⟩⟩
    · rw [heq]
      exact ⟨hr, fun _ => ⟨List.prefix_refl _, rfl, rfl, hdoomed, iff_of_true hopen ⟨d, rfl⟩⟩⟩
    · obtain rfl := (declared?_eq_some hd).1
      obtain ⟨hsound, hends⟩ := expand_concludes hr hopen hd hname fun name =>
        resolveWith_advances (SszSchema.declarations r.units).length (by omega) name
      rw [heq]
      exact ⟨hsound, fun _ => hends⟩
  · have hresolve := @resolveWith_advances r.units 0
      ((SszSchema.declarations r.units).length + 1) (by omega) name
    have h := hresolve.run r hr rfl (List.length_pos_of_ne_nil hopen) trivial
    refine ⟨?_, fun hclosed => absurd hclosed hopen⟩
    rcases hrun : resolveWith ((SszSchema.declarations r.units).length + 1) name r with
      ⟨failure | id, r'⟩ <;> rw [hrun] at h <;> exact h.1

/-! ## Runs -/

/-- A resolution that some units lead to by resolving records, in any order, failing or not. -/
inductive Reached (units : List SourceUnit) : Resolution → Prop
  | start {r : Resolution} (h : Resolution.ofUnits units = .ok r) : Reached units r
  | step {r : Resolution} (h : Reached units r) (name : String) :
      Reached units (r.run (resolve name)).2

theorem ofUnits_eq_ok {units : List SourceUnit}
    (h : duplicate? [] (SszSchema.declarations units) = none) :
    Resolution.ofUnits units = .ok { units } := by
  rw [Resolution.ofUnits, h]

theorem Reached.sound {units : List SourceUnit} (h : Reached units r) : r.Sound := by
  induction h with
  | start h => exact .ofUnits h
  | step _ name ih => exact (resolve_concludes ih name).1

end Resolution

end SszSchema
