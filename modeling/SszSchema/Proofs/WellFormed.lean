import SszSchema.Proofs.Assembling

/-!
# Well-formed nodes

A schema that is built without leaving anything out knows all that code is read from. A visit that
succeeds leaves no reference from a finished node to one that is neither finished nor open
(`Classifier.visitWith_closes`), so each node that a record of the schema reaches has a verdict.
Types of declarations have lengths and widths that make sense (`SszType.Admissible`), and what a
record reaches has such types (`Resolution.Sound.admissible_of_reaches`). Both together make these
nodes well formed (`Schema.WellFormed`, `Resolution.Sound.sturdy`).
-/

namespace SszSchema

open Relation Resolution

/-! ## Types of declarations -/

/-- Unsigned integers have one of the known widths, and byte strings and bit vectors of fixed length
are not empty. -/
def SszType.Admissible : SszType → Prop
  | .uint width => width ∈ uintWidths.map (·.2)
  | .fixedBytes length => 0 < length
  | .bitVector length => 0 < length
  | .vector _ element => element.Admissible
  | .list _ element => element.Admissible
  | _ => True

section

variable {a : TagList} {t element : SszType}

theorem admissible_bytesType? (h : a.bytesType? = some t) : t.Admissible := by
  unfold TagList.bytesType? at h
  split at h
  · obtain ⟨limit, -, rfl⟩ := Option.map_eq_some_iff.mp h
    trivial
  · split at h
    · cases h; exact Nat.succ_pos _
    · split at h
      · cases h; trivial
      · cases h
    · cases h

theorem admissible_byteVectorsType? (h : a.byteVectorsType? = some t) : t.Admissible := by
  unfold TagList.byteVectorsType? at h
  split at h
  · cases h; exact Nat.succ_pos _
  · split at h
    · cases h; exact Nat.succ_pos _
    · cases h
  · cases h

theorem admissible_sequenceType? (h : a.sequenceType? element = some t)
    (helement : element.Admissible) : t.Admissible := by
  unfold TagList.sequenceType? at h
  split at h
  · cases h; exact helement
  · split at h
    · cases h; exact helement
    · cases h
  · cases h

theorem admissible_bitListType? (h : a.bitListType? = some t) : t.Admissible := by
  obtain ⟨limit, -, rfl⟩ := Option.map_eq_some_iff.mp h
  trivial

theorem width_of_meaning {id : String} {width : Nat} (h : meaning id = .uint width) :
    width ∈ uintWidths.map (·.2) := by
  unfold meaning at h
  split at h
  · cases h
  · split at h
    · case h_1 name found hfind =>
      cases h
      exact List.mem_map_of_mem (List.mem_of_find?_eq_some hfind)
    · split at h
      · cases h
      · split at h
        · cases h
        · split at h <;> cases h

theorem admissible_basicType? {id : String} (h : a.basicType? (meaning id) = some t) :
    t.Admissible := by
  cases hm : meaning id with
  | bytes => rw [hm] at h; exact admissible_bytesType? h
  | uint width => rw [hm] at h; cases h; exact width_of_meaning hm
  | bool => rw [hm] at h; cases h; trivial
  | bitList => rw [hm] at h; exact admissible_bitListType? h
  | bitVector =>
    rw [hm, TagList.basicType?, TagList.bitVectorType?] at h
    split at h
    · cases h; exact Nat.succ_pos _
    · cases h
  | other => rw [hm] at h; cases h

/-- Shapes have admissible types. -/
theorem TypeExpr.admissible_type? {e : TypeExpr} (h : e.type? a = some t) : t.Admissible := by
  induction e generalizing t with
  | name id =>
    unfold type? at h
    split at h
    · cases h; trivial
    · exact admissible_basicType? h
  | member id text => exact admissible_basicType? h
  | apply head e ih =>
    unfold type? at h
    split at h
    · split at h
      · exact admissible_byteVectorsType? h
      · split at h
        · exact admissible_bitListType? h
        · obtain ⟨element, he, ht⟩ := Option.bind_eq_some_iff.mp h
          exact admissible_sequenceType? ht (ih he)
    · cases h
  | quoted e ih => exact ih h
  | applyMany => cases h
  | other => cases h

end

/-- What a registered record reaches has an admissible type. -/
theorem Resolution.Sound.admissible_of_reaches {r : Resolution} (hr : r.Sound)
    {e : String × NodeId} (he : e ∈ r.registry.entries) {x : NodeId}
    (hreach : ReflTransGen r.arena.Refers e.2 x) :
    ∃ t, TypeOf r.arena r.registry.entries x t ∧ t.Admissible := by
  induction hreach with
  | refl =>
    obtain ⟨d, n, -, hn, hk, hname, -⟩ := hr.complete e he
    exact ⟨.record e.1, .record hn hk hname he, trivial⟩
  | @tail x y _ hxy ih =>
    obtain ⟨t, ht, hadmissible⟩ := ih
    obtain ⟨n, hn, hpart | hlisted⟩ := hxy
    · obtain ⟨_, u, rfl, hu⟩ | ⟨name, -, he', f, hf, rfl⟩ := ht.of_mem_parts hn hpart
      · exact ⟨u, hu, hadmissible⟩
      · obtain ⟨d, n', -, hn', -, -, hfields⟩ := hr.complete _ he'
        obtain rfl := Option.some.inj (hn.symm.trans hn')
        obtain ⟨g, -, -, -, u, hu, htype⟩ := exists_of_forall₂ hfields.flip hf
        obtain ⟨a, -, hshape⟩ := Option.bind_eq_some_iff.mp hu
        exact ⟨u, htype, TypeExpr.admissible_type? hshape⟩
    · obtain ⟨_, u, rfl, hu⟩ := ht.of_mem_listed hn hlisted
      exact ⟨u, hu, hadmissible⟩

/-! ## Finished nodes -/

namespace Classifier

variable {a : Arena} {stack : Stack} {c c' : Classifier} {id : NodeId} {v : Verdict} {fuel : Nat}
  {n : Node}

/-- A node has been visited: it is finished or open. -/
def Seen (stack : Stack) (c : Classifier) (id : NodeId) : Prop := id ∈ c.nodes ∨ some id ∈ stack

/-- Finished nodes refer to nodes that have been visited. -/
def Closed (a : Arena) (stack : Stack) (c : Classifier) : Prop :=
  ∀ x ∈ c.nodes, ∀ y, a.Refers x y → Seen stack c y

/-- A visit closes what it finishes if it succeeds. -/
def Closes (a : Arena) (visit : Stack → NodeId → Step Verdict) : Prop :=
  ∀ {stack id c v c'}, visit stack id c = (.ok v, c') → Closed a stack c →
    Closed a stack c' ∧ c.nodes ⊆ c'.nodes ∧ Seen stack c' id

theorem Seen.mono (h : Seen stack c id) (hsub : c.nodes ⊆ c'.nodes) : Seen stack c' id :=
  h.imp_left fun hmem => hsub hmem

theorem Closed.push (h : Closed a stack c) (i : Option NodeId) : Closed a (i :: stack) c :=
  fun x hx y hxy => (h x hx y hxy).imp_right (List.mem_cons_of_mem _)

theorem seen_none_iff : Seen (none :: stack) c id ↔ Seen stack c id := by simp [Seen]

/-- Judging a node visits all that it refers to. -/
theorem judge_closes {visit : Stack → NodeId → Step Verdict} (hvisit : Closes a visit)
    (h : judge visit stack n c = (.ok v, c')) (hc : Closed a stack c) :
    Closed a stack c' ∧ c.nodes ⊆ c'.nodes ∧ ∀ y ∈ n.parts ++ n.listed, Seen stack c' y := by
  have hjudge : Triple (fun c' => Closed a stack c' ∧ c.nodes ⊆ c'.nodes) (judge visit stack n)
      (fun _ c' => (Closed a stack c' ∧ c.nodes ⊆ c'.nodes) ∧
        ∀ y ∈ n.parts ++ n.listed, Seen stack c' y) fun _ _ => True := by
    refine judge_visits (fun _ _ _ => trivial) (fun y _ seen => ?_) fun y _ => ?_
    · rintro c₁ ⟨⟨hc₁, hsub⟩, hseen⟩
      rcases hrun : visit stack y c₁ with ⟨fault | v, c₂⟩
      · trivial
      obtain ⟨hc₂, hsub', hy⟩ := hvisit hrun hc₁
      exact ⟨⟨hc₂, List.Subset.trans hsub hsub'⟩,
        List.forall_mem_cons.mpr ⟨hy, fun x hx => (hseen x hx).mono hsub'⟩⟩
    · rintro c₁ ⟨hc₁, hsub⟩
      rcases hrun : visit (none :: stack) y c₁ with ⟨fault | v, c₂⟩
      · trivial
      obtain ⟨hc₂, hsub', hy⟩ := hvisit hrun (hc₁.push none)
      exact ⟨⟨fun x hx z hxz => seen_none_iff.mp (hc₂ x hx z hxz), List.Subset.trans hsub hsub'⟩,
        seen_none_iff.mp hy⟩
  have hended := hjudge c ⟨hc, List.Subset.refl _⟩
  rw [h] at hended
  exact ⟨hended.1.1, hended.1.2, hended.2⟩

/-- A visit that succeeds finds a node finished or open, or meets it for the first time. -/
theorem visited_or_fresh (h : visitWith a fuel stack id c = (.ok v, c')) :
    c = c' ∧ Seen stack c' id ∨
      c.get? id = none ∧ some id ∉ stack ∧ ∃ n, a.get? id = some n := by
  cases encounter a fuel stack id c with
  | finished hget hvisit =>
    rw [hvisit] at h
    obtain ⟨-, rfl⟩ := Prod.mk.inj h
    exact .inl ⟨rfl, .inl (mem_nodes_of_get? hget)⟩
  | inside _ _ hvisit =>
    rw [hvisit] at h
    cases h
  | outside _ hopen _ hvisit =>
    rw [hvisit] at h
    obtain ⟨-, rfl⟩ := Prod.mk.inj h
    exact .inl ⟨rfl, .inr hopen⟩
  | fresh hget hopen =>
    refine .inr ⟨hget, hopen, ?_⟩
    cases hn : a.get? id with
    | some n => exact ⟨n, rfl⟩
    | none =>
      rw [visitWith_of_missing hget hopen hn] at h
      cases h

/-- Finishing an open node whose references have been visited. -/
theorem Closed.finish (h : Closed a (some id :: stack) c') (hn : a.get? id = some n)
    (hseen : ∀ y ∈ n.parts ++ n.listed, Seen (some id :: stack) c' y) (hsub : c.nodes ⊆ c'.nodes)
    {v : Verdict} : Closed a stack ⟨(id, v) :: c'.done⟩ ∧
      c.nodes ⊆ nodes ⟨(id, v) :: c'.done⟩ ∧ Seen stack ⟨(id, v) :: c'.done⟩ id := by
  have hself : id ∈ nodes ⟨(id, v) :: c'.done⟩ := List.mem_cons_self
  have hgrow : c'.nodes ⊆ nodes ⟨(id, v) :: c'.done⟩ := List.subset_cons_self _ _
  have hpop {y : NodeId} (hy : Seen (some id :: stack) c' y) :
      Seen stack ⟨(id, v) :: c'.done⟩ y := by
    rcases hy with hy | hy
    · exact .inl (hgrow hy)
    · rcases List.mem_cons.mp hy with hy | hy
      · obtain rfl := Option.some.inj hy
        exact .inl hself
      · exact .inr hy
  refine ⟨fun x hx y hxy => hpop ?_, List.Subset.trans hsub hgrow, .inl hself⟩
  rcases List.mem_cons.mp hx with rfl | hx
  · obtain ⟨n', hn', hrefs⟩ := hxy
    obtain rfl := Option.some.inj (hn.symm.trans hn')
    exact hseen y (List.mem_append.mpr hrefs)
  · exact h x hx y hxy

/-- A visit that succeeds leaves no reference from a finished node to one that has not been
visited. -/
theorem visitWith_closes (a : Arena) (fuel : Nat) : Closes a (visitWith a fuel) := by
  induction fuel with
  | zero =>
    intro stack id c v c' h hc
    rcases visited_or_fresh h with ⟨rfl, hseen⟩ | ⟨hget, hopen, n, hn⟩
    · exact ⟨hc, List.Subset.refl _, hseen⟩
    · rw [visitWith_zero_of_fresh hget hopen hn] at h
      cases h
  | succ fuel ih =>
    intro stack id c v c' h hc
    rcases visited_or_fresh h with ⟨rfl, hseen⟩ | ⟨hget, hopen, n, hn⟩
    · exact ⟨hc, List.Subset.refl _, hseen⟩
    · rw [visitWith_of_fresh hget hopen hn] at h
      obtain ⟨v', c₁, hjudge, h⟩ := Stateful.bind_eq_ok.mp h
      obtain ⟨⟨⟩, c₂, hfinish, h⟩ := Stateful.bind_eq_ok.mp h
      obtain ⟨-, rfl⟩ := Stateful.pure_eq_ok.mp h
      obtain rfl := (Stateful.modify_eq_ok.mp hfinish)
      obtain ⟨hc₁, hsub, hseen⟩ := judge_closes ih hjudge (hc.push (some id))
      exact hc₁.finish hn hseen hsub

/-- A classification that stops at the first fault closes what it finishes. -/
theorem classifyRecords_closes {r : Resolution} {names kept : List String} {ds : List Diagnostic}
    (h : r.classifyRecords false c names = .ok (c', kept, ds)) (hc : Closed r.arena [] c) :
    Closed r.arena [] c' ∧ c.nodes ⊆ c'.nodes ∧
      ∀ name ∈ kept, ∃ id, r.registry.get? name = some id ∧ id ∈ c'.nodes := by
  induction names generalizing c kept ds with
  | nil =>
    obtain ⟨rfl, rfl, -⟩ := by simpa using Except.ok.inj h
    exact ⟨hc, List.Subset.refl _, List.forall_mem_nil _⟩
  | cons name names ih =>
    unfold Resolution.classifyRecords at h
    split at h
    · cases h
    · case h_2 id hid =>
      split at h
      · case h_1 v c₁ hrun =>
        obtain ⟨⟨c₂, rest, ds₂⟩, hrest, heq⟩ := Outcome.map_eq_ok.mp h
        obtain ⟨rfl, rfl, -⟩ := by simpa using heq
        obtain ⟨hc₁, hsub, hseen⟩ := visitWith_closes _ _ hrun hc
        obtain ⟨hc₂, hsub', hkept⟩ := ih hrest hc₁
        refine ⟨hc₂, List.Subset.trans hsub hsub', List.forall_mem_cons.mpr ⟨⟨id, hid, ?_⟩, hkept⟩⟩
        exact hsub' (hseen.resolve_right List.not_mem_nil)
      · cases h
      · cases h

/-- Verdicts do not change what nodes refer to. -/
theorem refers_arena {x y : NodeId} : (c.arena a).Refers x y ↔ a.Refers x y := by
  have hparts (n : Node) : (c.mark x n).parts = n.parts := by simp [Node.parts]
  have hlisted (n : Node) : (c.mark x n).listed = n.listed := by simp [Node.listed]
  constructor
  · rintro ⟨_, hget, hrefs⟩
    rw [get?_arena] at hget
    obtain ⟨n, hn, rfl⟩ := Option.map_eq_some_iff.mp hget
    rw [hparts, hlisted] at hrefs
    exact ⟨n, hn, hrefs⟩
  · rintro ⟨n, hn, hrefs⟩
    refine ⟨c.mark x n, by rw [get?_arena, hn]; rfl, ?_⟩
    rwa [hparts, hlisted]

end Classifier

/-! ## Schemas -/

/-- All that a node reaches has a verdict in a schema. -/
def Schema.Classifies (s : Schema) (a : Arena) (id : NodeId) : Prop :=
  ∀ x, ReflTransGen a.Refers id x → ∃ n b, s.node x = .ok n ∧ n.isFixed = .ok b

/-- A schema that leaves nothing out has verdicts for all that its records reach. -/
theorem Resolution.Sound.marks_classifies {r : Resolution} (hr : r.Sound) {env : Catalog}
    (hb : r.arena.Bears r.registry.entries env) {names : Option (List String)} {s : Schema}
    {ds : List Diagnostic} (hs : r.schema names false = .ok (s, ds)) :
    ∃ c, s.Marks r.arena r.registry.entries env c ∧
      ∀ e ∈ s.records, s.Classifies r.arena e.2 := by
  obtain ⟨⟨c, kept, ds'⟩, hrun, heq⟩ := Outcome.map_eq_ok.mp hs
  obtain ⟨rfl, -⟩ := Prod.mk.inj heq
  have hgood :=
    Classifier.good_classifyRecords hr hb (fun _ he => absurd he List.not_mem_nil) hrun
  obtain ⟨hclosed, -, hkept⟩ :=
    Classifier.classifyRecords_closes hrun fun _ hx => absurd hx List.not_mem_nil
  refine ⟨c, ⟨rfl, hgood, hr.unmarked, hb, List.filter_sublist.subset⟩, fun e he x hreach => ?_⟩
  obtain ⟨he, hname⟩ := List.mem_filter.mp he
  have hx : x ∈ c.nodes := by
    induction hreach with
    | refl =>
      obtain ⟨id, hid, hmem⟩ := hkept e.1 (List.contains_iff_mem.mp hname)
      rwa [Option.some.inj (hid.symm.trans (hr.get?_eq_some he))] at hmem
    | tail _ hyz ih => exact (hclosed _ ih _ hyz).resolve_right List.not_mem_nil
  obtain ⟨t, ht, -⟩ := hr.admissible_of_reaches he hreach
  obtain ⟨n, hn⟩ := ht.get?
  obtain ⟨b, hfixed⟩ := Classifier.isFixed_mark hx n
  exact ⟨_, b, by rw [Schema.node, Arena.get, Classifier.get?_arena, hn]; rfl, hfixed⟩

/-- A node of a schema has a verdict and what its kind needs. -/
structure Schema.WellFormed (s : Schema) (n : Node) : Prop where
  classified : n.isDynamic.isSome
  scalar : n.kind = .uint ∨ n.kind = .bool ∨ n.kind = .bitVector → n.isDynamic = some false
  record : n.kind = .container → ∃ name, n.record = some name
  uint : n.kind = .uint → ∃ width, n.width = some width ∧ width ∈ [1, 2, 4, 8]
  bitVector : n.kind = .bitVector → ∃ length, n.length = some length ∧ 0 < length
  vector : n.kind = .vector → ∃ length, n.length = some length ∧ 0 < length
  fixedBytes : n.kind = .bytes → n.isDynamic = some false →
    ∃ length, n.length = some length ∧ 0 < length
  boundedBytes : n.kind = .bytes → n.isDynamic = some true → ∃ limit, n.limit = some limit
  list : n.kind = .list → ∃ limit, n.limit = some limit
  element : n.kind = .vector ∨ n.kind = .list → ∃ id m, n.element = some id ∧ s.node id = .ok m
  fixedSize : n.isDynamic = some false → ∃ size, n.fixedSize = some size

/-- A node with a verdict and an admissible type is well formed. -/
theorem Schema.Marks.wellFormed {s : Schema} {a : Arena} {entries : List (String × NodeId)}
    {env : Catalog} {c : Classifier} (h : s.Marks a entries env c) {id : NodeId} {n : Node}
    {t : SszType} (hn : a.get? id = some n) (ht : TypeOf a entries id t)
    (hadmissible : t.Admissible) {b : Bool} (hb : (c.mark id n).isFixed = .ok b) :
    s.WellFormed (c.mark id n) := by
  have hverdict := Node.isFixed_eq_ok.mp hb
  have hdynamic := h.isDynamic_iff hn ht hb
  have hclassified : (c.mark id n).isDynamic.isSome := by rw [hverdict]; rfl
  have hfixed (ht : ¬env.IsDynamic t) : (c.mark id n).isDynamic = some false := by
    rw [hverdict, Bool.eq_false_iff.mpr (mt hdynamic.mp ht)]
  have hunfixed (ht : env.IsDynamic t) : (c.mark id n).isDynamic = some true := by
    rw [hverdict, hdynamic.mpr ht]
  have hsized (hd : (c.mark id n).isDynamic = some false) :
      ∃ size, (c.mark id n).fixedSize = some size := by
    obtain rfl : b = true := by simpa [hverdict] using hd
    obtain ⟨size, hsize, -⟩ := h.hasSize hn ht hb
    exact ⟨size, hsize⟩
  have hchild {child : NodeId} {u : SszType} (hu : TypeOf a entries child u) :
      ∃ m, s.node child = .ok m := by
    obtain ⟨m, hm⟩ := hu.get?
    exact ⟨_, h.node_of_get? hm⟩
  -- The type tells what its kind needs; what is said of other kinds does not apply.
  cases ht with
  | uint hn' hk hw =>
    obtain rfl := Option.some.inj (hn.symm.trans hn')
    have hd := hfixed nofun
    have hwidth := by simpa [SszType.Admissible, uintWidths] using hadmissible
    constructor <;> simp [hk, hw, hd, hsized hd, hwidth]
  | bool hn' hk =>
    obtain rfl := Option.some.inj (hn.symm.trans hn')
    have hd := hfixed nofun
    constructor <;> simp [hk, hd, hsized hd]
  | fixedBytes hn' hk hl =>
    obtain rfl := Option.some.inj (hn.symm.trans hn')
    have hd := hfixed nofun
    have hpos : 0 < _ := hadmissible
    constructor <;> simp [hk, hl, hd, hsized hd, hpos]
  | boundedBytes hn' hk hl hm =>
    obtain rfl := Option.some.inj (hn.symm.trans hn')
    constructor <;> simp [hk, hm, hunfixed .boundedBytes]
  | bitVector hn' hk hl =>
    obtain rfl := Option.some.inj (hn.symm.trans hn')
    have hd := hfixed nofun
    have hpos : 0 < _ := hadmissible
    constructor <;> simp [hk, hl, hd, hsized hd, hpos]
  | packedBits hn' hk =>
    obtain rfl := Option.some.inj (hn.symm.trans hn')
    constructor <;> simp [hk, hunfixed .packedBits]
  | bitList hn' hk =>
    obtain rfl := Option.some.inj (hn.symm.trans hn')
    constructor <;> simp [hk, hunfixed .bitList]
  | vector hn' hk hl hpos he hlt hu =>
    obtain rfl := Option.some.inj (hn.symm.trans hn')
    have hm := hchild hu
    constructor <;> first | exact hsized | simp [hk, hl, hpos, he, hm, hclassified]
  | list hn' hk hl he hlt hu =>
    obtain rfl := Option.some.inj (hn.symm.trans hn')
    have hm := hchild hu
    constructor <;> simp [hk, hl, he, hm, hunfixed .list]
  | record hn' hk hr =>
    obtain rfl := Option.some.inj (hn.symm.trans hn')
    constructor <;> first | exact hsized | simp [hk, hr, hclassified]

/-- What the records of a schema reach is well formed. -/
def Schema.Sturdy (s : Schema) : Prop :=
  ∀ e ∈ s.records, ∀ x, ReflTransGen s.arena.Refers e.2 x → ∃ n, s.node x = .ok n ∧ s.WellFormed n

/-- A schema that leaves nothing out has well-formed nodes. -/
theorem Resolution.Sound.sturdy {r : Resolution} (hr : r.Sound) {names : Option (List String)}
    {s : Schema} {ds : List Diagnostic} (hs : r.schema names false = .ok (s, ds)) : s.Sturdy := by
  obtain ⟨c, hmarks, hclassifies⟩ := hr.marks_classifies hr.bears hs
  intro e he x hreach
  replace hreach : ReflTransGen r.arena.Refers e.2 x :=
    ReflTransGen.mono (fun y z hyz => Classifier.refers_arena.mp (hmarks.arena ▸ hyz)) _ _ hreach
  obtain ⟨t, ht, hadmissible⟩ := hr.admissible_of_reaches (hmarks.records he) hreach
  obtain ⟨_, b, hnode, hb⟩ := hclassifies e he x hreach
  obtain ⟨n, hn, rfl⟩ := hmarks.node_eq_ok hnode
  exact ⟨_, hnode, hmarks.wellFormed hn ht hadmissible hb⟩

end SszSchema
