import SszSchema.Proofs.WellFormed

/-!
# When code is generated

Over a schema that leaves nothing out, generation cannot run into a node that lacks something. It
stops for two reasons only: an element of a sequence has a fixed size of zero, so that elements
could not be counted, or a size is too long to be written. `Generation.Hinges` says of a step that
it returns just if neither is so, and composes along steps.

A field may begin a chain of sequences, and `Schema.Strides` tells the sizes of the fixed elements
along it. A decoder hinges on these (`Schema.Marks.hinges_decoder`), encoders and measures on
nothing, and the code of a record on the size of its fixed region besides
(`Schema.Marks.hinges_ofSchema`). `Resolution.Reached.generates` puts this together with
`Resolution.Sound.sturdy`. Sizes are products of declared numbers, and nothing keeps them short
(`Resolution.not_generates_vast`).
-/

namespace SszSchema

open Generation Relation

/-! ## Reasons to stop -/

/-- What is told of a sequence whose elements have no bytes. -/
def emptyElement (record : Option String) : Failure :=
  .reported (.make .generation "sequence of zero-size elements cannot be decoded"
    [("record", (record.map Datum.text).getD .null)])

instance : DecidablePred (· = Failure.digitLimit)
  | .digitLimit => .isTrue rfl
  | .graph _ | .reported _ | .unnamed _ _ | .syntaxError _ | .file _ | .noTable => .isFalse nofun

/-- A number is too long to be written. -/
def TooLong (size : Nat) : Prop := 10 ^ Text.maxDigits ≤ size

theorem not_tooLong {n : Nat} (h : n < 100) : ¬TooLong n := by
  have hpow : 10 ^ 2 ≤ 10 ^ Text.maxDigits := Nat.pow_le_pow_right (by decide) (by decide)
  exact Nat.not_le_of_lt (h.trans_le hpow)

namespace Generation

variable {α β γ : Type} {empty empty' long long' : Prop} {m : Generation α} {f : α → Generation β}

/-- A step returns unless something has no bytes or is too long, and stops with that. -/
structure Hinges (empty long : Prop) (m : Generation α) : Prop where
  returns : m.isOk = true ↔ ¬empty ∧ ¬long
  fails : Fails (fun failure => (∃ record, failure = emptyElement record) ∧ empty ∨
    failure = .digitLimit ∧ long) m

namespace Hinges

theorem ok (a : α) : Hinges False False (.ok a : Generation α) :=
  ⟨by simp [Except.isOk, Except.toBool], .ok a⟩

theorem congr (h : Hinges empty long m) (he : empty ↔ empty') (hl : long ↔ long') :
    Hinges empty' long' m := by
  rwa [← propext he, ← propext hl]

theorem bind (hm : Hinges empty long m) (hf : ∀ a, m = .ok a → Hinges empty' long' (f a)) :
    Hinges (empty ∨ empty') (long ∨ long') (m >>= f) := by
  have hfails : Fails (fun failure => (∃ record, failure = emptyElement record) ∧ (empty ∨ empty') ∨
      failure = .digitLimit ∧ (long ∨ long')) (m >>= f) := by
    refine Fails.bind (hm.fails.imp ?_) fun a ha => (hf a ha).fails.imp ?_
    · exact fun _ h => h.imp (.imp_right .inl) (.imp_right .inl)
    · exact fun _ h => h.imp (.imp_right .inr) (.imp_right .inr)
  refine ⟨?_, hfails⟩
  cases hrun : m with
  | error failure =>
    have hnot : ¬(¬empty ∧ ¬long) := fun h => by
      have := hm.returns.mpr h
      rw [hrun] at this
      cases this
    exact iff_of_false Bool.false_ne_true fun ⟨he, hl⟩ =>
      hnot ⟨fun h => he (.inl h), fun h => hl (.inl h)⟩
  | ok a =>
    obtain ⟨he, hl⟩ := hm.returns.mp (by rw [hrun]; rfl)
    change (f a).isOk = true ↔ _
    rw [(hf a hrun).returns, or_iff_right he, or_iff_right hl]

/-- A step after one that returns. -/
theorem of_eq_ok {a : α} (hm : m = .ok a) (hf : Hinges empty long (f a)) :
    Hinges empty long (m >>= f) := by
  rw [hm]
  exact hf

/-- A step that cannot stop after one that can. -/
theorem andThen (hm : Hinges empty long m) (hf : ∀ a, Hinges False False (f a)) :
    Hinges empty long (m >>= f) :=
  (hm.bind fun a _ => hf a).congr (or_iff_left id) (or_iff_left id)

theorem mapM {empty long : α → Prop} {l : List α}
    (h : ∀ a ∈ l, Hinges (empty a) (long a) (f a)) :
    Hinges (∃ a ∈ l, empty a) (∃ a ∈ l, long a) (l.mapM f) := by
  induction l with
  | nil => exact (ok []).congr (by simp) (by simp)
  | cons a l ih =>
    obtain ⟨ha, hl⟩ := List.forall_mem_cons.mp h
    rw [List.mapM_cons]
    refine (ha.bind fun b _ => (ih hl).andThen fun bs => ok (b :: bs)).congr ?_ ?_ <;>
      exact (List.exists_mem_cons_iff ..).symm

/-- Numbers are written unless they are too long. -/
theorem printed (n : Nat) : Hinges False (TooLong n) (printed n) := by
  unfold Generation.printed TooLong
  rw [Nat.pow_eq]
  split
  · case isTrue hlt => exact (ok ()).congr Iff.rfl (iff_of_false id (by omega))
  · case isFalse hlt =>
    have hlong : 10 ^ Text.maxDigits ≤ n := by omega
    exact ⟨by simp [Except.isOk, Except.toBool, hlong], .error (.inr ⟨rfl, hlong⟩)⟩

/-- A sequence of elements without bytes is refused. -/
theorem refuse (record : Option String) (hempty : empty) :
    Hinges empty long (Generation.refuse "sequence of zero-size elements cannot be decoded" record :
      Generation α) :=
  ⟨by simp [Generation.refuse, Except.isOk, Except.toBool, hempty],
    .error (.inl ⟨⟨record, rfl⟩, hempty⟩)⟩

/-- Steps on members in two passes, those that are early in the first one. -/
theorem twoPasses {early empty long : α → Prop} {first : α → Generation (Option β)}
    {second : α × Option β → Generation γ} {l : List α}
    (hfirst : ∀ a ∈ l, early a →
      Hinges (empty a) (long a) (first a) ∧ ∀ r, first a = .ok r → r.isSome)
    (hskip : ∀ a ∈ l, ¬early a → first a = .ok none)
    (hdone : ∀ a ∈ l, ∀ b, ∃ c, second (a, some b) = .ok c)
    (hsecond : ∀ a ∈ l, ¬early a → Hinges (empty a) (long a) (second (a, none))) :
    Hinges (∃ a ∈ l, empty a) (∃ a ∈ l, long a)
      (l.mapM first >>= fun inline => (l.zip inline).mapM second) := by
  have hearly : Hinges (∃ a ∈ l, early a ∧ empty a) (∃ a ∈ l, early a ∧ long a)
      (l.mapM first) := .mapM fun a ha => by
    by_cases he : early a
    · exact (hfirst a ha he).1.congr (by simp [he]) (by simp [he])
    · rw [hskip a ha he]
      exact (ok none).congr (by simp [he]) (by simp [he])
  have hlate (inline : List (Option β)) (hrun : l.mapM first = .ok inline) :
      Hinges (∃ a ∈ l, ¬early a ∧ empty a) (∃ a ∈ l, ¬early a ∧ long a)
        ((l.zip inline).mapM second) := by
    have hruns := Outcome.mapM_eq_ok_iff.mp hrun
    have hpairs (P : α → Prop) : (∃ p ∈ l.zip inline, P p.1) ↔ ∃ a ∈ l, P a := by
      have hl : (l.zip inline).map Prod.fst = l := List.map_fst_zip hruns.length_eq.le
      conv_rhs => rw [← hl]
      simp only [List.mem_map, exists_exists_and_eq_and]
    have hmembers : Hinges (∃ p ∈ l.zip inline, ¬early p.1 ∧ empty p.1)
        (∃ p ∈ l.zip inline, ¬early p.1 ∧ long p.1) ((l.zip inline).mapM second) := by
      refine .mapM fun p hp => ?_
      obtain ⟨a, r⟩ := p
      have ha : a ∈ l := (List.of_mem_zip hp).1
      have hr : first a = .ok r := List.forall₂_zip hruns hp
      by_cases he : early a
      · obtain ⟨b, rfl⟩ := Option.isSome_iff_exists.mp ((hfirst a ha he).2 r hr)
        obtain ⟨c, hc⟩ := hdone a ha b
        rw [hc]
        exact (ok c).congr (by simp [he]) (by simp [he])
      · rw [hskip a ha he] at hr
        obtain rfl := Except.ok.inj hr
        exact (hsecond a ha he).congr (by simp [he]) (by simp [he])
    exact hmembers.congr (hpairs fun a => ¬early a ∧ empty a) (hpairs fun a => ¬early a ∧ long a)
  have hsplit (P : α → Prop) :
      ((∃ a ∈ l, early a ∧ P a) ∨ ∃ a ∈ l, ¬early a ∧ P a) ↔ ∃ a ∈ l, P a := by
    constructor
    · rintro (⟨a, ha, -, h⟩ | ⟨a, ha, -, h⟩) <;> exact ⟨a, ha, h⟩
    · rintro ⟨a, ha, h⟩
      exact (em (early a)).imp (fun he => ⟨a, ha, he, h⟩) fun he => ⟨a, ha, he, h⟩
  exact (hearly.bind hlate).congr (hsplit empty) (hsplit long)

end Hinges

end Generation

/-! ## Chains of sequences -/

/-- A node begins a chain of sequences, one of which has fixed elements of some size. -/
inductive Schema.Strides (s : Schema) : Node → Nat → Prop
  | here {n m : Node} {size : Nat} (hk : n.kind = .vector ∨ n.kind = .list)
      (hm : s.element n = .ok m) (hd : m.isDynamic = some false) (hsize : m.fixedSize = some size) :
      Strides s n size
  | deeper {n m : Node} {size : Nat} (hk : n.kind = .vector ∨ n.kind = .list)
      (hm : s.element n = .ok m) (h : Strides s m size) : Strides s n size

variable {s : Schema} {n m : Node} {size fuel : Nat}

theorem Schema.not_strides (hk : ¬(n.kind = .vector ∨ n.kind = .list)) : ¬s.Strides n size := by
  rintro (⟨hk', -⟩ | ⟨hk', -⟩) <;> exact hk hk'

theorem Schema.strides_iff (hk : n.kind = .vector ∨ n.kind = .list) (hm : s.element n = .ok m) :
    s.Strides n size ↔ m.isDynamic = some false ∧ m.fixedSize = some size ∨ s.Strides m size := by
  constructor
  · rintro (⟨-, hm', hd, hsize⟩ | ⟨-, hm', h⟩) <;> obtain rfl := Except.ok.inj (hm.symm.trans hm')
    · exact .inl ⟨hd, hsize⟩
    · exact .inr h
  · rintro (⟨hd, hsize⟩ | h)
    · exact .here hk hm hd hsize
    · exact .deeper hk hm h

/-- A size on the chain that a node begins is too long. -/
def Schema.LongStride (s : Schema) (n : Node) : Prop := ∃ size, s.Strides n size ∧ TooLong size

theorem Schema.longStride_iff (hk : n.kind = .vector ∨ n.kind = .list) (hm : s.element n = .ok m) :
    s.LongStride n ↔
      (∃ size, m.isDynamic = some false ∧ m.fixedSize = some size ∧ TooLong size) ∨
        s.LongStride m := by
  simp only [LongStride, strides_iff hk hm, or_and_right, exists_or, and_assoc]

/-! ## Code of nodes -/

namespace Decoder

/-- The decoder of a sequence whose element is dynamic. -/
theorem ofNode_dynamicElement (hk : n.kind = .vector ∨ n.kind = .list) (hm : s.element n = .ok m)
    (hb : m.isFixed = .ok false) :
    ofNode s (fuel + 1) n = do return .sequence n.extent none (← ofNode s fuel m) := by
  rcases hk with hk | hk <;> rw [ofNode, hk] <;>
    exact (Outcome.bind_of_ok hm _).trans (Outcome.bind_of_ok (ofGraph_eq_ok hb) _)

/-- The decoder of a sequence whose element has a fixed size. -/
theorem ofNode_fixedElement {step : Nat} (hk : n.kind = .vector ∨ n.kind = .list)
    (hm : s.element n = .ok m) (hb : m.isFixed = .ok true) (hsize : m.fixedSize = some (step + 1)) :
    ofNode s (fuel + 1) n = do
      printed (step + 1)
      return .sequence n.extent (some (step + 1)) (← ofNode s fuel m) := by
  rcases hk with hk | hk <;> rw [ofNode, hk] <;>
    refine (Outcome.bind_of_ok hm _).trans ((Outcome.bind_of_ok (ofGraph_eq_ok hb) _).trans ?_) <;>
    simp only [hsize, if_true]

/-- A sequence whose element has no bytes has no decoder. -/
theorem ofNode_emptyElement (hk : n.kind = .vector ∨ n.kind = .list) (hm : s.element n = .ok m)
    (hb : m.isFixed = .ok true) (hsize : m.fixedSize = some 0) :
    ofNode s (fuel + 1) n =
      refuse "sequence of zero-size elements cannot be decoded" m.record := by
  rcases hk with hk | hk <;> rw [ofNode, hk] <;>
    refine (Outcome.bind_of_ok hm _).trans ((Outcome.bind_of_ok (ofGraph_eq_ok hb) _).trans ?_) <;>
    simp only [hsize, if_true]

end Decoder

namespace Schema.Marks

variable {a : Arena} {entries : List (String × NodeId)} {env : Catalog} {c : Classifier}
  {id : NodeId} {t : SszType}

/-- Reading code from a node hinges on something if this is so of nodes without elements, and of a
sequence whenever it is so of its element. Elements may be read only while a guard holds. -/
theorem hinges_ofNode (h : s.Marks a entries env c) {β : Type} {ofNode : Nat → Node → Generation β}
    {guard empty long : Node → Prop}
    (hleaf : ∀ {fuel n}, s.WellFormed n → ¬(n.kind = .vector ∨ n.kind = .list) → guard n →
      Hinges (empty n) (long n) (ofNode (fuel + 1) n))
    (hsequence : ∀ {fuel n m b}, n.kind = .vector ∨ n.kind = .list → s.element n = .ok m →
      m.isFixed = .ok b → (b = true → ∃ size, m.fixedSize = some size) → guard n →
      (guard m → Hinges (empty m) (long m) (ofNode fuel m)) →
      Hinges (empty n) (long n) (ofNode (fuel + 1) n))
    (hid : id < fuel) (hn : a.get? id = some n) (ht : TypeOf a entries id t)
    (hwf : ∀ x, ReflTransGen a.Refers id x → ∀ m, s.node x = .ok m → s.WellFormed m)
    (hguard : guard (c.mark id n)) :
    Hinges (empty (c.mark id n)) (long (c.mark id n)) (ofNode fuel (c.mark id n)) := by
  induction fuel generalizing id t n with
  | zero => cases hid
  | succ fuel ih =>
    by_cases hk : n.kind = .vector ∨ n.kind = .list
    · obtain ⟨child, u, he, hlt, hu, hchild⟩ := ht.exists_element hn hk
      obtain ⟨m, hm⟩ := hu.get?
      have hbelow := hwf child (.single hchild) _ (h.node_of_get? hm)
      obtain ⟨d, hd⟩ := Option.isSome_iff_exists.mp hbelow.classified
      have hfixed : (c.mark child m).isFixed = .ok !d :=
        Node.isFixed_eq_ok.mpr (by rw [Bool.not_not, hd])
      have hsized (hb : (!d) = true) : ∃ size, (c.mark child m).fixedSize = some size := by
        rw [Bool.not_eq_true'] at hb
        exact hbelow.fixedSize (by rw [hd, hb])
      refine hsequence (by simpa using hk) (h.element_of_get? he hm) hfixed hsized hguard ?_
      exact ih (hlt.trans_le (Nat.le_of_lt_succ hid)) hm hu fun x hx => hwf x (.head hchild hx)
    · exact hleaf (hwf id .refl _ (h.node_of_get? hn)) (by simpa using hk) hguard

/-- Encoders are always found. -/
theorem hinges_encoder (h : s.Marks a entries env c) (hid : id < fuel) (hn : a.get? id = some n)
    (ht : TypeOf a entries id t)
    (hwf : ∀ x, ReflTransGen a.Refers id x → ∀ m, s.node x = .ok m → s.WellFormed m) :
    Hinges False False (Encoder.ofNode s fuel (c.mark id n)) := by
  refine @hinges_ofNode _ _ _ _ _ _ _ _ _ h _ _ (fun _ => True) (fun _ => False) (fun _ => False)
    ?_ ?_ hid hn ht hwf trivial
  · intro fuel n hwf hk _
    unfold Encoder.ofNode
    cases hkind : n.kind with
    | uint =>
      obtain ⟨width, hwidth, hmem⟩ := hwf.uint hkind
      have hshort : ¬TooLong (8 * width) := not_tooLong (by revert hmem; simp; omega)
      refine .of_eq_ok (by rw [hwidth]; rfl) ?_
      exact ((Hinges.printed _).congr Iff.rfl (iff_false_intro hshort)).andThen fun _ => .ok _
    | container =>
      obtain ⟨name, hname⟩ := hwf.record hkind
      exact .of_eq_ok (by rw [hname]; rfl) (.ok (Encoder.record name))
    | bytes => cases n.length <;> exact .ok _
    | vector => exact absurd (.inl hkind) hk
    | list => exact absurd (.inr hkind) hk
    | bool | bitVector | bitList => exact .ok _
  · intro fuel n m b hk hm hb _ _ hrest
    have hsequence := (hrest trivial).andThen fun e => .ok (Encoder.sequence n.extent (!b) e)
    rcases hk with hk | hk <;> simp only [Encoder.ofNode, hk] <;>
      exact .of_eq_ok hm (.of_eq_ok (ofGraph_eq_ok hb) hsequence)

/-- Measures of dynamic nodes are always found. -/
theorem hinges_measure (h : s.Marks a entries env c) (hid : id < fuel) (hn : a.get? id = some n)
    (ht : TypeOf a entries id t)
    (hwf : ∀ x, ReflTransGen a.Refers id x → ∀ m, s.node x = .ok m → s.WellFormed m)
    (hd : (c.mark id n).isDynamic = some true) :
    Hinges False False (Measure.ofNode s fuel (c.mark id n)) := by
  refine @hinges_ofNode _ _ _ _ _ _ _ _ _ h _ _ (·.isDynamic = some true) (fun _ => False)
    (fun _ => False) ?_ ?_ hid hn ht hwf hd
  · intro fuel n hwf hk hd
    have hscalar (hkind : n.kind = .uint ∨ n.kind = .bool ∨ n.kind = .bitVector) : False := by
      have := hwf.scalar hkind
      rw [hd] at this
      cases this
    unfold Measure.ofNode
    cases hkind : n.kind with
    | container =>
      obtain ⟨name, hname⟩ := hwf.record hkind
      exact .of_eq_ok (by rw [hname]; rfl) (.ok (Measure.record name))
    | vector => exact absurd (.inl hkind) hk
    | list => exact absurd (.inr hkind) hk
    | bytes | bitList => exact .ok _
    | uint | bool | bitVector => exact absurd (by simp [hkind]) hscalar
  · intro fuel n m b hk hm hb _ _ hrest
    have hitems : Hinges False False (if b then Except.ok (Measure.fixedItems m.fixedSize) else do
        return Measure.dynamicItems (← Measure.ofNode s fuel m)) := by
      cases b with
      | true => exact .ok _
      | false =>
        exact (hrest (Node.isFixed_eq_ok.mp hb)).andThen fun item => .ok (Measure.dynamicItems item)
    rcases hk with hk | hk <;> simp only [Measure.ofNode, hk] <;>
      exact .of_eq_ok hm (.of_eq_ok (ofGraph_eq_ok hb) hitems)

/-- Decoders hinge on the chain that their node begins. -/
theorem hinges_decoder (h : s.Marks a entries env c) (hid : id < fuel) (hn : a.get? id = some n)
    (ht : TypeOf a entries id t)
    (hwf : ∀ x, ReflTransGen a.Refers id x → ∀ m, s.node x = .ok m → s.WellFormed m) :
    Hinges (s.Strides (c.mark id n) 0) (s.LongStride (c.mark id n))
      (Decoder.ofNode s fuel (c.mark id n)) := by
  refine @hinges_ofNode _ _ _ _ _ _ _ _ _ h _ _ (fun _ => True) (s.Strides · 0) s.LongStride
    ?_ ?_ hid hn ht hwf trivial
  · intro fuel n hwf hk _
    have hleaf {d : Decoder} : Hinges (s.Strides n 0) (s.LongStride n) (.ok d) :=
      (Hinges.ok d).congr (iff_of_false not_false (not_strides hk))
        (iff_of_false not_false fun ⟨_, h, _⟩ => not_strides hk h)
    unfold Decoder.ofNode
    cases hkind : n.kind with
    | container =>
      obtain ⟨name, hname⟩ := hwf.record hkind
      exact .of_eq_ok (by rw [hname]; rfl) hleaf
    | vector => exact absurd (.inl hkind) hk
    | list => exact absurd (.inr hkind) hk
    | uint | bool | bytes | bitVector | bitList => exact hleaf
  · intro fuel n m b hk hm hb hsized _ hrest
    have hsequence (step : Option Nat) :=
      (hrest trivial).andThen fun d => .ok (Decoder.sequence n.extent step d)
    have hd := Node.isFixed_eq_ok.mp hb
    cases b with
    | false =>
      rw [Decoder.ofNode_dynamicElement hk hm hb]
      exact (hsequence none).congr (by simp [strides_iff hk hm, hd])
        (by simp [longStride_iff hk hm, hd])
    | true =>
      obtain ⟨size, hsize⟩ := hsized rfl
      cases size with
      | zero =>
        rw [Decoder.ofNode_emptyElement hk hm hb hsize]
        exact .refuse _ (.here hk hm hd hsize)
      | succ step =>
        rw [Decoder.ofNode_fixedElement hk hm hb hsize]
        refine ((Hinges.printed (step + 1)).bind fun _ _ => hsequence _).congr ?_ ?_
        · simp [strides_iff hk hm, hsize]
        · simp [longStride_iff hk hm, hsize, hd]

end Schema.Marks

/-! ## Code of records -/

/-- What is found out from the node of a field. -/
structure Schema.Readable (s : Schema) (n : Node) : Prop where
  wellFormed : s.WellFormed n
  encoder : Hinges False False (Encoder.ofNode s (RecordCode.depth s) n)
  decoder : Hinges (s.Strides n 0) (s.LongStride n) (Decoder.ofNode s (RecordCode.depth s) n)
  measure : n.isDynamic = some true →
    Hinges False False (Measure.ofNode s (RecordCode.depth s) n)

namespace Schema.Readable

variable {pairs : List (FieldRef × Node)}

theorem isFixed_eq_ok (h : s.Readable n) :
    (n.isDynamic = some false → n.isFixed = .ok true) ∧
      (¬n.isDynamic = some false → n.isFixed = .ok false ∧ n.isDynamic = some true) := by
  obtain ⟨d, hd⟩ := Option.isSome_iff_exists.mp h.wellFormed.classified
  cases d <;> simp [Node.isFixed_eq_ok, hd]

/-- The encoders of fields are always found. -/
theorem hinges_encoders (h : ∀ p ∈ pairs, s.Readable p.2) :
    Hinges False False (RecordCode.encoders s pairs) := by
  refine (@Hinges.twoPasses _ _ _ (·.2.isDynamic = some false) (fun _ => False) (fun _ => False)
    _ _ pairs ?_ ?_ ?_ ?_).congr (by simp) (by simp)
  · intro p hp hd
    have hfixed := ofGraph_eq_ok ((h p hp).isFixed_eq_ok.1 hd)
    refine ⟨.of_eq_ok hfixed ((h p hp).encoder.andThen fun e => .ok (some e)), fun r hr => ?_⟩
    obtain ⟨_, hb, hr⟩ := Outcome.bind_eq_ok.mp hr
    obtain rfl := Except.ok.inj (hfixed.symm.trans hb)
    obtain ⟨e, -, hr⟩ := Outcome.bind_eq_ok.mp hr
    obtain rfl := Outcome.pure_eq_ok.mp hr
    rfl
  · intro p hp hd
    exact Outcome.bind_eq_ok.mpr ⟨_, ofGraph_eq_ok ((h p hp).isFixed_eq_ok.2 hd).1, rfl⟩
  · exact fun _ _ e => ⟨e, rfl⟩
  · exact fun p hp _ => (h p hp).encoder

/-- The decoders of fields hinge on the chains of the fields. -/
theorem hinges_decoders (h : ∀ p ∈ pairs, s.Readable p.2) :
    Hinges (∃ p ∈ pairs, s.Strides p.2 0) (∃ p ∈ pairs, s.LongStride p.2)
      (RecordCode.decoders s pairs) := by
  refine @Hinges.twoPasses _ _ _ (·.2.isDynamic = some false) (s.Strides ·.2 0)
    (s.LongStride ·.2) _ _ pairs ?_ ?_ ?_ ?_
  · intro p hp hd
    have hfixed := ofGraph_eq_ok ((h p hp).isFixed_eq_ok.1 hd)
    obtain ⟨size, hsize⟩ := (h p hp).wellFormed.fixedSize hd
    have hneed : need p.2.fixedSize = .ok size := by rw [hsize]; rfl
    refine ⟨.of_eq_ok hfixed (.of_eq_ok hneed ((h p hp).decoder.andThen fun d =>
      .ok (some (d, some size)))), fun r hr => ?_⟩
    obtain ⟨_, hb, hr⟩ := Outcome.bind_eq_ok.mp hr
    obtain rfl := Except.ok.inj (hfixed.symm.trans hb)
    obtain ⟨_, -, hr⟩ := Outcome.bind_eq_ok.mp hr
    obtain ⟨d, -, hr⟩ := Outcome.bind_eq_ok.mp hr
    obtain rfl := Outcome.pure_eq_ok.mp hr
    rfl
  · intro p hp hd
    exact Outcome.bind_eq_ok.mpr ⟨_, ofGraph_eq_ok ((h p hp).isFixed_eq_ok.2 hd).1, rfl⟩
  · exact fun _ _ d => ⟨d, rfl⟩
  · exact fun p hp _ => (h p hp).decoder.andThen fun d => .ok (d, none)

end Schema.Readable

/-- Some field of a record begins a chain of sequences with fixed elements of a size. -/
def Schema.FieldStrides (s : Schema) (name : String) (size : Nat) : Prop :=
  ∃ pairs, s.fieldNodes name = .ok pairs ∧ ∃ p ∈ pairs, s.Strides p.2 size

/-- The code of a record shows a size: that of its fixed region or one along its fields. -/
def Schema.Shows (s : Schema) (name : String) (size : Nat) : Prop :=
  (∃ m, s.record name = .ok m ∧ m.fixedSize = some size) ∨ s.FieldStrides name size

namespace Schema.Marks

variable {a : Arena} {entries : List (String × NodeId)} {env : Catalog} {c : Classifier}
  {name : String}

/-- A record of a schema is readable, and so are its fields. -/
theorem exists_readable (h : s.Marks a entries env c) (hs : s.Sturdy) (hname : name ∈ s.order) :
    ∃ m b pairs, s.record name = .ok m ∧ m.isFixed = .ok b ∧ s.fieldNodes name = .ok pairs ∧
      ∀ p ∈ pairs, s.Readable p.2 := by
  obtain ⟨e, n, pairs, he, -, hn, -, hrecord, hpairs, hp⟩ := h.exists_record hname
  have hwf (x : NodeId) (hx : ReflTransGen a.Refers e.2 x) (m : Node) (hm : s.node x = .ok m) :
      s.WellFormed m := by
    have hrefers {y z : NodeId} (hyz : a.Refers y z) : s.arena.Refers y z := by
      rw [h.arena]
      exact Classifier.refers_arena.mpr hyz
    obtain ⟨m', hm', hwf⟩ := hs e he x (ReflTransGen.mono (fun y z => hrefers) _ _ hx)
    rwa [Except.ok.inj (hm.symm.trans hm')]
  obtain ⟨d, hd⟩ := Option.isSome_iff_exists.mp (hwf _ .refl _ (h.node_of_get? hn)).classified
  refine ⟨_, !d, pairs, hrecord, Node.isFixed_eq_ok.mpr (by rw [hd, Bool.not_not]), hpairs, ?_⟩
  intro p hmem
  obtain ⟨hrefers, m, t, hm, hpair, ht⟩ := hp p hmem
  have hbelow (x : NodeId) (hx : ReflTransGen a.Refers p.1.node x) := hwf x (.head hrefers hx)
  rw [hpair]
  exact ⟨hbelow _ .refl _ (h.node_of_get? hm), h.hinges_encoder (h.lt_depth hm) hm ht hbelow,
    h.hinges_decoder (h.lt_depth hm) hm ht hbelow, h.hinges_measure (h.lt_depth hm) hm ht hbelow⟩

/-- The code of a record hinges on the sizes that it shows. -/
theorem hinges_ofSchema (h : s.Marks a entries env c) (hs : s.Sturdy) (hname : name ∈ s.order) :
    Hinges (s.FieldStrides name 0) (∃ size, s.Shows name size ∧ TooLong size)
      (RecordCode.ofSchema s name) := by
  obtain ⟨m, b, pairs, hm, hb, hpairs, hp⟩ := h.exists_readable hs hname
  have hregion : Hinges False (∃ size, m.fixedSize = some size ∧ TooLong size)
      (m.fixedSize.forM printed) := by
    cases hsize : m.fixedSize with
    | none => exact (Hinges.ok ()).congr Iff.rfl (by simp)
    | some size => exact (Hinges.printed size).congr Iff.rfl (by simp)
  have hfields (size : Nat) : s.FieldStrides name size ↔ ∃ p ∈ pairs, s.Strides p.2 size := by
    simp [FieldStrides, hpairs]
  refine (Hinges.of_eq_ok (ofGraph_eq_ok hm) (.of_eq_ok (ofGraph_eq_ok hpairs)
    ((Readable.hinges_encoders hp).bind fun es _ => .of_eq_ok (ofGraph_eq_ok hb)
      (hregion.bind fun _ _ => (Readable.hinges_decoders hp).andThen fun ds => ?_)))).congr ?_ ?_
  -- Measures are read for dynamic records only.
  · cases b with
    | true => exact .ok _
    | false =>
      refine Hinges.andThen ((@Hinges.mapM _ _ _ (fun _ => False) (fun _ => False) _ fun p hmem =>
        ?_).congr (by simp) (by simp)) fun measures => .ok _
      obtain ⟨hmem, hd⟩ := List.mem_filter.mp hmem
      exact ((hp p hmem).measure (of_decide_eq_true hd)).andThen fun measure =>
        .ok (p.1.name, measure)
  · simp [hfields]
  · simp only [Shows, hfields, hm, LongStride, false_or]
    constructor
    · rintro (⟨size, hsize, hlong⟩ | ⟨p, hmem, size, hsize, hlong⟩)
      · exact ⟨size, .inl ⟨m, rfl, hsize⟩, hlong⟩
      · exact ⟨size, .inr ⟨p, hmem, hsize⟩, hlong⟩
    · rintro ⟨size, ⟨_, heq, hsize⟩ | ⟨p, hmem, hsize⟩, hlong⟩
      · cases heq
        exact .inl ⟨size, hsize, hlong⟩
      · exact .inr ⟨p, hmem, size, hsize, hlong⟩

end Schema.Marks

/-- The code of records hinges on the sizes that it shows. -/
theorem Resolution.Sound.hinges_ofRecords {r : Resolution} (hr : r.Sound)
    {names : Option (List String)} {s : Schema} {ds : List Diagnostic}
    (hs : r.schema names false = .ok (s, ds)) {records : List String} (hsub : records ⊆ s.order) :
    Hinges (∃ name ∈ records, s.FieldStrides name 0)
      (∃ name ∈ records, ∃ size, s.Shows name size ∧ TooLong size)
      (RecordCode.ofRecords s records) := by
  obtain ⟨c, hmarks, -⟩ := hr.marks_classifies hr.bears hs
  exact .mapM fun name hname => hmarks.hinges_ofSchema (hr.sturdy hs) (hsub hname)

namespace Resolution

variable {units : List SourceUnit} {r : Resolution}

/-- **Totality of generation.** What the records of a schema without gaps reach is well formed, and
generation of any of its records stops for two reasons only: a field begins a chain of sequences
with fixed elements of no bytes, or a size that the code shows is too long. The records have code
unless there is such a reason, and if no size is too long, then the first reason is told whenever it
is there. -/
theorem Reached.generates (h : r.Reached units) {names : Option (List String)} {s : Schema}
    {ds : List Diagnostic} (hs : r.schema names false = .ok (s, ds)) :
    s.Sturdy ∧ ∀ records ⊆ s.order,
      ((RecordCode.ofRecords s records).isOk = true ↔
        (∀ name ∈ records, ¬s.FieldStrides name 0) ∧
          ∀ name ∈ records, ∀ size, s.Shows name size → ¬TooLong size) ∧
      (∀ failure, RecordCode.ofRecords s records = .error failure →
        (∃ record, failure = emptyElement record) ∧ (∃ name ∈ records, s.FieldStrides name 0) ∨
          failure = .digitLimit ∧ ∃ name ∈ records, ∃ size, s.Shows name size ∧ TooLong size) ∧
      ((∀ name ∈ records, ∀ size, s.Shows name size → ¬TooLong size) →
        ((∃ record, RecordCode.ofRecords s records = .error (emptyElement record)) ↔
          ∃ name ∈ records, s.FieldStrides name 0)) := by
  refine ⟨h.sound.sturdy hs, fun records hsub => ?_⟩
  obtain ⟨hreturns, hfails⟩ := h.sound.hinges_ofRecords hs hsub
  have hshort : (¬∃ name ∈ records, ∃ size, s.Shows name size ∧ TooLong size) ↔
      ∀ name ∈ records, ∀ size, s.Shows name size → ¬TooLong size := by
    simp only [not_exists, not_and]
  refine ⟨by rw [hreturns, hshort]; simp, hfails, fun hsizes => ⟨?_, fun hempty => ?_⟩⟩
  · rintro ⟨record, hrun⟩
    rcases hfails _ hrun with ⟨-, hempty⟩ | ⟨heq, -⟩
    · exact hempty
    · cases heq
  · cases hrun : RecordCode.ofRecords s records with
    | ok codes => exact absurd hempty (hreturns.mp (by rw [hrun]; rfl)).1
    | error failure =>
      rcases hfails failure hrun with ⟨⟨record, rfl⟩, -⟩ | ⟨-, hlong⟩
      · exact ⟨record, rfl⟩
      · exact absurd hlong (hshort.mpr hsizes)

/-! ### Records that are refused -/

/-- A unit with these records. -/
def plainUnit (records : List RecordDecl) : SourceUnit where
  path := ⟨"", ["types.py"]⟩
  moduleName := "types"
  inPackage := false
  records := records

/-- A record with a list of records without fields. -/
def hollowRecords : List RecordDecl :=
  [⟨"A", [⟨"l", .apply "List" (.name "E"), "List[E]", "ssz-max:\"4\"", 3⟩], "types.py", 2⟩,
    ⟨"E", [], "types.py", 5⟩]

/-- Lists in each other, with their text. -/
def nestedLists : Nat → TypeExpr × String
  | 0 => (.name "uint64", "uint64")
  | depth + 1 => (.apply "List" (nestedLists depth).1, "List[" ++ (nestedLists depth).2 ++ "]")

/-- A record with lists in each other, all of a length of 51 digits. -/
def vastRecords : List RecordDecl :=
  let tag := String.ofList ("ssz-size:\"1".toList ++ List.replicate 50 '0' ++ ['"'])
  [⟨"A", [⟨"v", (nestedLists 90).1, (nestedLists 90).2, tag, 3⟩], "types.py", 2⟩]

/-- The resolution of the first of some records. -/
def plainResolution (records : List RecordDecl) : Resolution :=
  (Resolution.run { units := [plainUnit records] } (resolve "A")).2

theorem reached_plainResolution {records : List RecordDecl}
    (h : Resolution.ofUnits [plainUnit records] = .ok { units := [plainUnit records] }) :
    (plainResolution records).Reached [plainUnit records] := .step (.start h) "A"

/-- A list of records without fields is refused, since its elements have no bytes. -/
theorem generates_hollow : ∃ s ds, (plainResolution hollowRecords).schema none false = .ok (s, ds) ∧
    (∃ record, RecordCode.ofRecords s ["A", "E"] = .error (emptyElement record)) ∧
    ∃ name ∈ ["A", "E"], s.FieldStrides name 0 := by
  have hrun : ∃ p, (plainResolution hollowRecords).schema none false = .ok p ∧
      ["A", "E"] ⊆ p.1.order ∧ (RecordCode.ofRecords p.1 ["A", "E"]).isOk = false ∧
      RecordCode.ofRecords p.1 ["A", "E"] ≠ .error .digitLimit := by
    decide +kernel
  obtain ⟨⟨s, ds⟩, hs, hsub, hstops, hshort⟩ := hrun
  obtain ⟨-, hgenerates⟩ := Reached.generates (reached_plainResolution (ofUnits_eq_ok rfl)) hs
  obtain ⟨-, hfails, -⟩ := hgenerates ["A", "E"] hsub
  refine ⟨s, ds, hs, ?_⟩
  cases hrefused : RecordCode.ofRecords s ["A", "E"] with
  | ok codes => simp [hrefused, Except.isOk, Except.toBool] at hstops
  | error failure =>
    rcases hfails failure hrefused with ⟨⟨record, rfl⟩, hempty⟩ | ⟨rfl, -⟩
    · exact ⟨⟨record, rfl⟩, hempty⟩
    · exact absurd hrefused hshort

/-- Long lengths, one inside another, make a size that is too long. -/
theorem not_generates_vast : ∃ (r : Resolution) (s : Schema) (ds : List Diagnostic),
    r.Reached [plainUnit vastRecords] ∧ r.schema none false = .ok (s, ds) ∧
    RecordCode.ofRecords s s.order = .error .digitLimit := by
  have hrun : ∃ p, (plainResolution vastRecords).schema none false = .ok p ∧
      RecordCode.ofRecords p.1 p.1.order = .error .digitLimit := by
    decide +kernel
  obtain ⟨⟨s, ds⟩, hs, hrefused⟩ := hrun
  have hreached : (plainResolution vastRecords).Reached [plainUnit vastRecords] :=
    reached_plainResolution (ofUnits_eq_ok rfl)
  exact ⟨plainResolution vastRecords, s, ds, hreached, hs, hrefused⟩

end Resolution

end SszSchema
