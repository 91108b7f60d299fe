import SszSchema.Proofs.InfiniteSize

/-!
# Best-effort classification

What is left of a registry when records of infinite size are dropped and the others kept. A visit
that fails leaves its finished nodes behind, and later visits rely on them. So what matters is what
finished nodes refer to (`Classifier.Sealed`): nodes that are finished or open themselves, or nodes
of infinite size, which may have been open when a visit failed.

A record that refers to an infinite one is dropped with it, unless it was finished below a list of
that one, while the infinite one passed for dynamic. This takes a way that visits go from a node of
infinite size through a list and back (`Arena.Tangled`). Visits get no further than the first
infinite part of a node (`Arena.Tries`), so it matters in which order the fields stand. Records from
which visits get to no tangled node are sorted right, whichever visits failed before
(`Resolution.Salvages`).
-/

namespace SszSchema

open Relation

namespace Arena

variable {a : Arena} {x y z : NodeId}

/-- A node lists another one. -/
def Lists (a : Arena) (x y : NodeId) : Prop := ∃ n, a.get? x = some n ∧ y ∈ n.listed

/-- A node has no finite size: it reaches a node that contains itself. -/
def Infinite (a : Arena) (x : NodeId) : Prop := a.InfiniteFrom [x]

/-- A visit of a node gets to a node that it lists, and to a part if no part before that one is of
infinite size. -/
def Tries (a : Arena) (x y : NodeId) : Prop :=
  ∃ n, a.get? x = some n ∧ (y ∈ n.listed ∨
    ∃ before after, n.parts = before ++ y :: after ∧ ∀ z ∈ before, ¬a.Infinite z)

/-- Visits get from one node to another through a list. -/
def Below (a : Arena) (x y : NodeId) : Prop :=
  ∃ u v, ReflTransGen a.Tries x u ∧ a.Lists u v ∧ ReflTransGen a.Tries v y

/-- Visits get from a node of infinite size through a list back to it. -/
def Tangled (a : Arena) (x : NodeId) : Prop := a.Infinite x ∧ a.Below x x

/-- Visits from a node get to no tangled node. -/
def Clear (a : Arena) (x : NodeId) : Prop := ∀ y, ReflTransGen a.Tries x y → ¬a.Tangled y

theorem Contains.refers (h : a.Contains x y) : a.Refers x y := by
  obtain ⟨n, hn, hpart⟩ := h
  exact ⟨n, hn, .inl hpart⟩

theorem Lists.refers (h : a.Lists x y) : a.Refers x y := by
  obtain ⟨n, hn, hlisted⟩ := h
  exact ⟨n, hn, .inr hlisted⟩

/-- What a node refers to are its parts and what it lists. -/
theorem forall_refers {n : Node} {P : NodeId → Prop} {refs : List NodeId} (hn : a.get? x = some n)
    (hrefs : n.parts ++ n.listed = refs) (h : ∀ y ∈ refs, P y) (y : NodeId) (hy : a.Refers x y) :
    P y := by
  obtain ⟨n', hn', hy⟩ := hy
  obtain rfl := Option.some.inj (hn.symm.trans hn')
  exact h y (hrefs ▸ List.mem_append.mpr hy)

theorem infinite_iff :
    a.Infinite x ↔ ∃ y, ReflTransGen a.Refers x y ∧ TransGen a.Contains y y := by
  simp [Infinite, InfiniteFrom]

theorem Infinite.of_reaches (h : a.Infinite y) (hreach : ReflTransGen a.Refers x y) :
    a.Infinite x := by
  obtain ⟨z, hz, hcycle⟩ := infinite_iff.mp h
  exact infinite_iff.mpr ⟨z, hreach.trans hz, hcycle⟩

/-- A node that contains itself. -/
theorem Infinite.of_cycle (h : TransGen a.Contains x x) : a.Infinite x :=
  infinite_iff.mpr ⟨x, .refl, h⟩

/-- A node of infinite size refers to one. -/
theorem Infinite.exists_refers (h : a.Infinite x) : ∃ y, a.Refers x y ∧ a.Infinite y := by
  obtain ⟨z, hreach, hcycle⟩ := infinite_iff.mp h
  rcases hreach.cases_head with rfl | ⟨y, hxy, hyz⟩
  · obtain ⟨y, hxy, hyx⟩ := TransGen.head'_iff.mp hcycle
    have hback : ReflTransGen a.Refers y x :=
      ReflTransGen.mono (fun _ _ => Contains.refers) _ _ hyx
    exact ⟨y, hxy.refers, (Infinite.of_cycle hcycle).of_reaches hback⟩
  · exact ⟨y, hxy, infinite_iff.mpr ⟨z, hyz, hcycle⟩⟩

theorem Lists.tries (h : a.Lists x y) : a.Tries x y := by
  obtain ⟨n, hn, hlisted⟩ := h
  exact ⟨n, hn, .inl hlisted⟩

theorem Tries.refers (h : a.Tries x y) : a.Refers x y := by
  obtain ⟨n, hn, hlisted | ⟨before, after, hparts, -⟩⟩ := h
  · exact ⟨n, hn, .inr hlisted⟩
  · refine ⟨n, hn, .inl ?_⟩
    rw [hparts]
    exact List.mem_append_right _ List.mem_cons_self

/-- If there is a part of infinite size among the first ones, a visit gets to one of them. -/
theorem exists_tries {n : Node} {before after : List NodeId} (hn : a.get? x = some n)
    (hparts : n.parts = before ++ after) (hy : y ∈ before) (hinfinite : a.Infinite y) :
    ∃ z ∈ before, a.Tries x z ∧ a.Infinite z := by
  classical
  obtain ⟨z, hz⟩ : ∃ z, before.find? (fun z => decide (a.Infinite z)) = some z := by
    rw [← Option.isSome_iff_exists, List.find?_isSome]
    exact ⟨y, hy, decide_eq_true hinfinite⟩
  obtain ⟨hzinfinite, first, rest, rfl, hfirst⟩ := List.find?_eq_some_iff_append.mp hz
  refine ⟨z, List.mem_of_find?_eq_some hz, ⟨n, hn, .inr ⟨first, rest ++ after, ?_, ?_⟩⟩,
    of_decide_eq_true hzinfinite⟩
  · rw [hparts, List.append_assoc, List.cons_append]
  · exact fun w hw => by simpa using hfirst w hw

/-- A visit of a node of infinite size gets to one. -/
theorem Infinite.exists_tries (h : a.Infinite x) : ∃ y, a.Tries x y ∧ a.Infinite y := by
  obtain ⟨y, ⟨n, hn, hy⟩, hinfinite⟩ := h.exists_refers
  rcases hy with hpart | hlisted
  · have hparts : n.parts = n.parts ++ [] := (List.append_nil _).symm
    obtain ⟨z, -, hz⟩ := Arena.exists_tries hn hparts hpart hinfinite
    exact ⟨z, hz⟩
  · exact ⟨y, ⟨n, hn, .inl hlisted⟩, hinfinite⟩

theorem Clear.of_tries (h : a.Clear x) (hreach : ReflTransGen a.Tries x y) : a.Clear y :=
  fun z hz => h z (hreach.trans hz)

theorem Below.tail (h : a.Below x y) (hyz : a.Tries y z) : a.Below x z := by
  obtain ⟨u, v, hu, hlists, hv⟩ := h
  exact ⟨u, v, hu, hlists, hv.tail hyz⟩

/-- If parts never lead up and lists lead down, then no way through a list leads back. -/
theorem clear_of_level (level : NodeId → Nat)
    (h : ∀ x < a.size, ∀ n ∈ a.get? x,
      (∀ y ∈ n.parts, level y ≤ level x) ∧ ∀ y ∈ n.listed, level y < level x)
    (x : NodeId) : a.Clear x := by
  have hlists {x y : NodeId} (hxy : a.Lists x y) : level y < level x := by
    obtain ⟨n, hn, hy⟩ := hxy
    exact (h x (lt_size_of_get? hn) n hn).2 y hy
  have hrefers {x y : NodeId} (hxy : a.Refers x y) : level y ≤ level x := by
    obtain ⟨n, hn, hy | hy⟩ := hxy
    · exact (h x (lt_size_of_get? hn) n hn).1 y hy
    · exact Nat.le_of_lt (hlists ⟨n, hn, hy⟩)
  have hreach {x y : NodeId} (hxy : ReflTransGen a.Tries x y) : level y ≤ level x := by
    induction hxy with
    | refl => exact Nat.le_refl _
    | tail _ hyz ih => exact (hrefers hyz.refers).trans ih
  intro y _ ⟨_, u, v, hu, huv, hv⟩
  have hdown := hlists huv
  have hbefore := hreach hu
  have hafter := hreach hv
  omega

end Arena

namespace Classifier

variable {a : Arena} {entries : List (String × NodeId)} {env : Catalog} {stack : Stack}
  {id child x y : NodeId} {t : SszType} {n : Node} {c : Classifier} {known : List NodeId}
  {fuel : Nat} {fault : ClassifyFault}

/-! ## Where a visit stands -/

/-- The open nodes inside the innermost list contain the node to visit. From those that reach no
tangled node, visits get there, and through a list from those outside. -/
structure Descends (a : Arena) (stack : Stack) (id : NodeId) : Prop where
  inside : ∀ x, some x ∈ segment stack → TransGen a.Contains x id
  tried : ∀ x, some x ∈ stack → a.Clear x → ReflTransGen a.Tries x id
  outside : ∀ x, some x ∈ stack → some x ∉ segment stack → a.Clear x → a.Below x id

theorem Descends.nil (a : Arena) (id : NodeId) : Descends a [] id :=
  ⟨fun _ h => absurd h List.not_mem_nil, fun _ h => absurd h List.not_mem_nil,
    fun _ h => absurd h List.not_mem_nil⟩

/-- Going on to a part. -/
theorem Descends.part (h : Descends a stack id) (hchild : a.Contains id child)
    (htries : a.Clear id → a.Tries id child) : Descends a (some id :: stack) child where
  inside x hx := by
    rw [segment_some] at hx
    rcases List.mem_cons.mp hx with hx | hx
    · rw [Option.some.inj hx]
      exact .single hchild
    · exact (h.inside x hx).tail hchild
  tried x hx hclear := by
    rcases List.mem_cons.mp hx with hx | hx
    · obtain rfl := Option.some.inj hx
      exact .single (htries hclear)
    · have hreach := h.tried x hx hclear
      exact hreach.tail (htries (hclear.of_tries hreach))
  outside x hx hout hclear := by
    rw [segment_some, List.mem_cons, not_or] at hout
    have hx := (List.mem_cons.mp hx).resolve_left hout.1
    have hreach := h.tried x hx hclear
    exact (h.outside x hx hout.2 hclear).tail (htries (hclear.of_tries hreach))

/-- Going on to the node of a field, if those of the fields before it have turned out finite. -/
theorem Descends.field (h : Descends a stack id) (hn : a.get? id = some n)
    (hk : n.kind = .container) {before after : List FieldRef} {f : FieldRef}
    (hsplit : n.fields = before ++ f :: after)
    (hbefore : ∀ g ∈ before, a.Clear g.node → ¬a.Infinite g.node) :
    Descends a (some id :: stack) f.node := by
  have hparts : n.parts = before.map (·.node) ++ f.node :: after.map (·.node) := by
    rw [(Node.parts_of_container hk).1, hsplit, List.map_append, List.map_cons]
  have hcontains : a.Contains id f.node := ⟨n, hn, by simp [hparts]⟩
  refine h.part hcontains fun hclear => ⟨n, hn, .inr ⟨_, _, hparts, ?_⟩⟩
  intro y hy hinfinite
  obtain ⟨z, hz, htries, hzinfinite⟩ := Arena.exists_tries hn hparts hy hinfinite
  obtain ⟨g, hg, rfl⟩ := List.mem_map.mp hz
  exact hbefore g hg (hclear.of_tries (.single htries)) hzinfinite

/-- Going on to the element of a list. -/
theorem Descends.element (h : Descends a stack id) (hchild : a.Lists id child) :
    Descends a (none :: some id :: stack) child := by
  have htried (x : NodeId) (hx : some x ∈ none :: some id :: stack) (hclear : a.Clear x) :
      ReflTransGen a.Tries x id := by
    rcases List.mem_cons.mp ((List.mem_cons.mp hx).resolve_left nofun) with hx | hx
    · rw [Option.some.inj hx]
    · exact h.tried x hx hclear
  exact ⟨fun _ hx => absurd hx List.not_mem_nil,
    fun x hx hclear => (htried x hx hclear).tail hchild.tries,
    fun x hx _ hclear => ⟨id, child, htried x hx hclear, hchild, .refl⟩⟩

/-- Finished nodes have right verdicts and refer to nodes that are finished or open, or have no
finite size. Those that have none reach a tangled node. Some nodes are known to be finished. -/
structure Sealed (a : Arena) (entries : List (String × NodeId)) (env : Catalog)
    (known : List NodeId) (stack : Stack) (c : Classifier) : Prop where
  good : Good a entries env c
  known : known ⊆ c.nodes
  closed : ∀ x ∈ c.nodes, ∀ y, a.Refers x y → y ∈ c.nodes ∨ some y ∈ stack ∨ a.Infinite y
  finite : ∀ x ∈ c.nodes, a.Clear x → ¬a.Infinite x

/-- A node has been visited: it is finished or open, and it has no finite size only if it reaches a
tangled node. -/
structure Met (a : Arena) (stack : Stack) (id : NodeId) (c : Classifier) : Prop where
  mem : id ∈ c.nodes ∨ some id ∈ stack
  finite : a.Clear id → ¬a.Infinite id

/-- A visit of a node stops because the node has no finite size. -/
structure Stops (a : Arena) (entries : List (String × NodeId)) (env : Catalog)
    (known : List NodeId) (stack : Stack) (id : NodeId) (fault : ClassifyFault) (c : Classifier) :
    Prop where
  infinite : ∃ records, fault = .infinite records
  node : a.Infinite id
  state : Sealed a entries env known stack c

theorem Sealed.start (a : Arena) (entries : List (String × NodeId)) (env : Catalog) :
    Sealed a entries env [] [] {} :=
  ⟨fun _ h => absurd h List.not_mem_nil, List.nil_subset _, fun _ h => absurd h List.not_mem_nil,
    fun _ h => absurd h List.not_mem_nil⟩

theorem Sealed.weaken {known' : List NodeId} (h : Sealed a entries env known stack c)
    (hsub : known' ⊆ known) : Sealed a entries env known' stack c :=
  { h with known := List.Subset.trans hsub h.known }

theorem Sealed.push (h : Sealed a entries env known stack c) (i : Option NodeId) :
    Sealed a entries env known (i :: stack) c where
  good := h.good
  known := h.known
  closed x hx y hxy := (h.closed x hx y hxy).imp_right (.imp_left (List.mem_cons_of_mem _))
  finite := h.finite

/-- The bounds of a list are no open node. -/
theorem Sealed.pop_none (h : Sealed a entries env known (none :: stack) c) :
    Sealed a entries env known stack c where
  good := h.good
  known := h.known
  closed x hx y hxy := by simpa using h.closed x hx y hxy
  finite := h.finite

/-- Giving up an open node of infinite size. -/
theorem Sealed.pop (h : Sealed a entries env known (some id :: stack) c) (hid : a.Infinite id) :
    Sealed a entries env known stack c where
  good := h.good
  known := h.known
  closed x hx y hxy := by
    rcases h.closed x hx y hxy with hy | hy | hy
    · exact .inl hy
    · rcases List.mem_cons.mp hy with hy | hy
      · obtain rfl := Option.some.inj hy
        exact .inr (.inr hid)
      · exact .inr (.inl hy)
    · exact .inr (.inr hy)
  finite := h.finite

/-- A node is as finite as all that it refers to. -/
theorem not_infinite_of_refers (hmet : ∀ y, a.Refers id y → a.Clear y → ¬a.Infinite y)
    (hclear : a.Clear id) : ¬a.Infinite id := by
  intro hid
  obtain ⟨y, hy, hinfinite⟩ := hid.exists_tries
  exact hmet y hy.refers (hclear.of_tries (.single hy)) hinfinite

/-- Finishing an open node whose parts have been visited. -/
theorem Sealed.finish (h : Sealed a entries env known (some id :: stack) c) {v : Verdict}
    (ht : TypeOf a entries id t) (hv : v.Settles env t)
    (hmet : ∀ y, a.Refers id y → Met a (some id :: stack) y c) :
    Sealed a entries env known stack ⟨(id, v) :: c.done⟩ ∧
      Met a stack id ⟨(id, v) :: c.done⟩ := by
  have hfinite := not_infinite_of_refers fun y hy => (hmet y hy).finite
  have hopen {y : NodeId} (hy : some y ∈ some id :: stack) : y = id ∨ some y ∈ stack := by
    simpa using hy
  have hself : id ∈ nodes ⟨(id, v) :: c.done⟩ := List.mem_cons_self
  have hgrow : c.nodes ⊆ nodes ⟨(id, v) :: c.done⟩ := List.subset_cons_self _ _
  refine ⟨⟨List.forall_mem_cons.mpr ⟨⟨t, ht, hv⟩, h.good⟩, List.Subset.trans h.known hgrow, ?_, ?_⟩,
    .inl hself, hfinite⟩
  · intro x hx y hxy
    have hy : y ∈ c.nodes ∨ some y ∈ some id :: stack ∨ a.Infinite y := by
      rcases List.mem_cons.mp hx with rfl | hx
      · exact (hmet y hxy).mem.imp_right .inl
      · exact h.closed x hx y hxy
    rcases hy with hy | hy | hy
    · exact .inl (hgrow hy)
    · rcases hopen hy with rfl | hy
      · exact .inl hself
      · exact .inr (.inl hy)
    · exact .inr (.inr hy)
  · intro x hx
    rcases List.mem_cons.mp hx with rfl | hx
    · exact hfinite
    · exact h.finite x hx

/-! ## Visits -/

/-- A visit seals what it finishes, whether it succeeds or not, and stops only at nodes of infinite
size. -/
def Seals (a : Arena) (entries : List (String × NodeId)) (env : Catalog) (fuel : Nat) : Prop :=
  ∀ known {stack id t}, TypeOf a entries id t → Grounds a entries env stack id →
    Descends a stack id → Fueled a stack fuel →
    Triple (Sealed a entries env known stack) (visitWith a fuel stack id)
      (fun v c => (Sealed a entries env known stack c ∧ Met a stack id c) ∧ v.Fits env t)
      (Stops a entries env known stack id)

theorem fieldVerdicts_seals (hvisit : Seals a entries env fuel) (known : List NodeId)
    {fs : List FieldRef} {fields : Fields}
    (hfs : List.Forall₂ (fun (f : FieldRef) g => f.name = g.1 ∧ TypeOf a entries f.node g.2) fs
      fields)
    (hground : ∀ f ∈ fs, Grounds a entries env stack f.node)
    (hdescends : ∀ before f after, fs = before ++ f :: after →
      (∀ g ∈ before, a.Clear g.node → ¬a.Infinite g.node) → Descends a stack f.node)
    (hfuel : Fueled a stack fuel) :
    Triple (Sealed a entries env known stack) (fieldVerdicts (visitWith a fuel stack) fs)
      (fun vs c => (Sealed a entries env known stack c ∧ ∀ f ∈ fs, Met a stack f.node c) ∧
        List.Forall₂ (fun v g => v.Fits env g.2) vs fields)
      (fun fault c => ∃ f ∈ fs, Stops a entries env known stack f.node fault c) := by
  induction hfs generalizing known with
  | nil => exact .pure fun c hc => ⟨⟨hc, nofun⟩, .nil⟩
  | @cons f g fs fields hf _ ih =>
    obtain ⟨hgf, hgrest⟩ := List.forall_mem_cons.mp hground
    have hfirst := hvisit known hf.2 hgf (hdescends [] f fs rfl (List.forall_mem_nil _)) hfuel
    refine .bind (hfirst.conseq (fun _ h => h) (fun _ _ h => h) fun _ _ h =>
      ⟨f, List.mem_cons_self, h⟩) fun v => .assume fun hv => ?_
    obtain ⟨size, hslot, -⟩ := hv.slot
    simp only [hslot, Option.isNone_some, Bool.false_eq_true, if_false]
    intro c ⟨hc, hmet⟩
    -- Whatever is finished by now stays finished.
    have hrest := ih c.nodes hgrest fun before f' after hfs hbefore =>
      hdescends (f :: before) f' after (congrArg (f :: ·) hfs)
        (List.forall_mem_cons.mpr ⟨hmet.finite, hbefore⟩)
    refine Triple.bind (hrest.conseq (fun _ h => h) (fun _ _ h => h) ?_)
      (fun vs => .assume fun hvs => .pure ?_) c { hc with known := List.Subset.refl _ }
    · intro fault c' ⟨f', hf', hstop⟩
      exact ⟨f', List.mem_cons_of_mem _ hf',
        hstop.infinite, hstop.node, hstop.state.weaken hc.known⟩
    · intro c' ⟨hc', hmets⟩
      have hmet' : Met a stack f.node c' := ⟨hmet.mem.imp_left fun h => hc'.known h, hmet.finite⟩
      exact ⟨⟨hc'.weaken hc.known, List.forall_mem_cons.mpr ⟨hmet', hmets⟩⟩, .cons hv hvs⟩

/-- The parts and elements of a judged node have been visited. -/
theorem judge_seals (hb : a.Bears entries env) (hvisit : Seals a entries env fuel)
    (known : List NodeId)
    (hn : a.get? id = some n) (ht : TypeOf a entries id t) (hg : Grounds a entries env stack id)
    (hd : Descends a stack id) (hfuel : Fueled a (some id :: stack) fuel) :
    Triple (Sealed a entries env known (some id :: stack))
      (judge (visitWith a fuel) (some id :: stack) n)
      (fun _ c => Sealed a entries env known (some id :: stack) c ∧
        ∀ y, a.Refers id y → Met a (some id :: stack) y c)
      (fun fault c => ∃ y, a.Refers id y ∧
        Stops a entries env known (some id :: stack) y fault c) := by
  have hcontains {child : NodeId} (hchild : child ∈ n.parts) : a.Contains id child :=
    ⟨n, hn, hchild⟩
  have hground {child : NodeId} (hchild : child ∈ n.parts) := hg.of_mem_parts hb hn ht hchild
  have hground' {child : NodeId} (hchild : child ∈ n.listed) := hg.of_mem_listed hn ht hchild
  cases judgement hb hn ht with
  | leaf hparts hlisted _ h =>
    have hrefs : n.parts ++ n.listed = [] := by rw [hparts, hlisted, List.append_nil]
    rw [h]
    exact .pure fun c hc => ⟨hc, Arena.forall_refers hn hrefs (List.forall_mem_nil _)⟩
  | @vector child _ _ hparts hlisted hu hv h =>
    have hchild : child ∈ n.parts := hparts ▸ List.mem_cons_self
    have hrefs : n.parts ++ n.listed = [child] := by rw [hparts, hlisted, List.append_nil]
    have htries : a.Tries id child := ⟨n, hn, .inr ⟨[], [], hparts, List.forall_mem_nil _⟩⟩
    have hvisited := hvisit known hu (hground hchild)
      (hd.part (hcontains hchild) fun _ => htries) hfuel
    rw [h]
    refine .bind (hvisited.conseq (fun _ h => h) (fun _ _ h => h) fun _ _ h =>
      ⟨_, (hcontains hchild).refers, h⟩) fun v => .assume fun hfits => ?_
    obtain ⟨w, hw, -⟩ := hv v hfits
    rw [hw]
    exact .pure fun c hc =>
      ⟨hc.1, Arena.forall_refers hn hrefs (List.forall_mem_singleton.mpr hc.2)⟩
  | @list child _ _ hparts hlisted hu _ h =>
    have hchild : child ∈ n.listed := hlisted ▸ List.mem_cons_self
    have hrefs : n.parts ++ n.listed = [child] := by rw [hparts, hlisted, List.nil_append]
    have hlists : a.Lists id child := ⟨n, hn, hchild⟩
    have hvisited := hvisit known hu (hground' hchild) (hd.element hlists) hfuel.element
    rw [h]
    refine .bind (hvisited.conseq (fun _ h => h.push none) (fun _ _ h => h) ?_) fun v =>
      .assume fun _ => .pure ?_
    · intro fault c hstop
      exact ⟨_, hlists.refers, hstop.infinite, hstop.node, hstop.state.pop_none⟩
    · intro c ⟨hc, hmet⟩
      have hmet' : Met a (some id :: stack) child c := ⟨by simpa using hmet.mem, hmet.finite⟩
      exact ⟨hc.pop_none, Arena.forall_refers hn hrefs (List.forall_mem_singleton.mpr hmet')⟩
  | record hkind hfs hv h =>
    obtain ⟨hparts, hlisted⟩ := Node.parts_of_container hkind
    have hrefs : n.parts ++ n.listed = n.fields.map (·.node) := by
      rw [hparts, hlisted, List.append_nil]
    have hchild (f : FieldRef) (hf : f ∈ n.fields) : f.node ∈ n.parts := by
      rw [hparts]
      exact List.mem_map_of_mem hf
    have hvisited := fieldVerdicts_seals hvisit known hfs (fun f hf => hground (hchild f hf))
      (fun _ _ _ hsplit hbefore => hd.field hn hkind hsplit hbefore) hfuel
    rw [h]
    refine .bind (hvisited.conseq (fun _ h => h) (fun _ _ h => h) fun _ _ ⟨f, hf, h⟩ =>
      ⟨_, (hcontains (hchild f hf)).refers, h⟩) fun vs => .assume fun hvs => ?_
    obtain ⟨w, hw, -⟩ := hv vs hvs
    rw [hw]
    exact .pure fun c hc =>
      ⟨hc.1, Arena.forall_refers hn hrefs (List.forall_mem_map.mpr hc.2)⟩

/-- Visits seal what they finish if they do where nodes are met for the first time. -/
theorem seals_of_fresh
    (h : ∀ known {stack id t n}, TypeOf a entries id t → Grounds a entries env stack id →
      Descends a stack id → Fueled a stack fuel → a.get? id = some n → some id ∉ stack →
      Triple (fun c => Sealed a entries env known stack c ∧ c.get? id = none)
        (visitWith a fuel stack id)
        (fun v c => (Sealed a entries env known stack c ∧ Met a stack id c) ∧ v.Fits env t)
        (Stops a entries env known stack id)) :
    Seals a entries env fuel := by
  intro known stack id t ht hg hd hfuel c hc
  cases encounter a fuel stack id c with
  | finished hget hvisit =>
    have hmem := mem_nodes_of_get? hget
    rw [hvisit]
    exact ⟨⟨hc, .inl hmem, hc.finite id hmem⟩, (hc.good.get? hget ht).fits⟩
  | inside _ hopen hvisit =>
    rw [hvisit]
    exact ⟨⟨_, rfl⟩, .of_cycle (hd.inside id hopen), hc⟩
  | outside _ hopen hout hvisit =>
    rw [hvisit]
    have hbelow := hd.outside id hopen hout
    have hdynamic := hg.outside id hopen hout
    exact ⟨⟨hc, .inr hopen, fun hclear hid => hclear id .refl ⟨hid, hbelow hclear⟩⟩,
      .dynamic ((dynamicNode_iff ht).mp hdynamic)⟩
  | fresh hget hopen =>
    obtain ⟨n, hn⟩ := ht.get?
    exact h known ht hg hd hfuel hn hopen c ⟨hc, hget⟩

/-- Visits seal what they finish. -/
theorem seals (hb : a.Bears entries env) (fuel : Nat) : Seals a entries env fuel := by
  induction fuel with
  | zero =>
    refine seals_of_fresh fun _ _ _ _ _ _ _ _ hfuel hn hopen => ?_
    exact absurd rfl (hfuel.fuel_ne_zero (Arena.lt_size_of_get? hn) hopen)
  | succ fuel ih =>
    refine seals_of_fresh fun known {stack id t n} ht hg hd hfuel hn hopen c hc => ?_
    obtain ⟨hc, hget⟩ := hc
    rw [visitWith_of_fresh hget hopen hn]
    have hjudge := (judge_seals hb ih known hn ht hg hd (hfuel.part hopen hn)).and
      (judge_settles hb (visitWith_fits hb fuel) hn ht hg)
    refine Triple.bind (hjudge.conseq (fun _ h => h) (fun _ _ h => h) ?_) (fun v => ?_) c
      ⟨hc.push (some id), hc.good⟩
    · rintro fault c' ⟨⟨y, hy, hstop⟩, -⟩
      have hid : a.Infinite id := hstop.node.of_reaches (.single hy)
      exact ⟨hstop.infinite, hid, hstop.state.pop hid⟩
    · refine .bind (Q := fun _ c => _) (.update fun c' hc' => ?_) fun _ => .pure fun c hc => hc
      obtain ⟨⟨hsealed, hmets⟩, -, hv⟩ := hc'
      exact ⟨hsealed.finish ht hv hmets, hv.fits⟩

/-- Without open nodes left, all that a node of finite size reaches is finished if the node is. -/
theorem Sealed.mem_of_reaches (h : Sealed a entries env known [] c) (hx : x ∈ c.nodes)
    (hfinite : ¬a.Infinite x) (hreach : ReflTransGen a.Refers x y) : y ∈ c.nodes := by
  induction hreach with
  | refl => exact hx
  | @tail y z hxy hyz ih =>
    have hz : ¬a.Infinite z := fun hz => hfinite (hz.of_reaches (hxy.tail hyz))
    rcases h.closed y ih z hyz with hmem | hopen | hinfinite
    · exact hmem
    · exact absurd hopen List.not_mem_nil
    · exact absurd hinfinite hz

/-! ## Schemas -/

/-- Records are sorted into those whose visit succeeded and those of infinite size, each of which
has a diagnostic. -/
inductive Sifts (r : Resolution) (c : Classifier) :
    List String → List String → List Diagnostic → Prop
  | nil : Sifts r c [] [] []
  | keep {name : String} {root : NodeId} {names kept : List String} {ds : List Diagnostic}
      (hroot : r.registry.get? name = some root) (hdone : root ∈ c.nodes)
      (h : Sifts r c names kept ds) : Sifts r c (name :: names) (name :: kept) ds
  | drop {name : String} {root : NodeId} {names kept records : List String} {ds : List Diagnostic}
      (hroot : r.registry.get? name = some root) (hinfinite : r.arena.Infinite root)
      (h : Sifts r c names kept ds) :
      Sifts r c (name :: names) kept (r.infiniteSize name records :: ds)

namespace Sifts

variable {r : Resolution} {name : String} {root : NodeId} {names kept : List String}
  {ds : List Diagnostic}

theorem subset (h : Sifts r c names kept ds) : kept ⊆ names := by
  induction h with
  | nil => exact List.Subset.refl _
  | keep _ _ _ ih => exact List.cons_subset_cons _ ih
  | drop _ _ _ ih => exact List.subset_cons_of_subset _ ih

/-- The records that are kept are finished. -/
theorem mem_nodes (h : Sifts r c names kept ds) (hname : name ∈ kept)
    (hroot : r.registry.get? name = some root) : root ∈ c.nodes := by
  induction h with
  | nil => cases hname
  | keep hroot' hdone _ ih =>
    rcases List.mem_cons.mp hname with rfl | hname
    · rwa [Option.some.inj (hroot.symm.trans hroot')]
    · exact ih hname
  | drop _ _ _ ih => exact ih hname

/-- The records of finite size are kept. -/
theorem mem_kept (h : Sifts r c names kept ds) (hname : name ∈ names)
    (hroot : r.registry.get? name = some root) (hfinite : ¬r.arena.Infinite root) :
    name ∈ kept := by
  induction h with
  | nil => cases hname
  | keep _ _ _ ih =>
    rcases List.mem_cons.mp hname with rfl | hname
    · exact List.mem_cons_self
    · exact List.mem_cons_of_mem _ (ih hname)
  | drop hroot' hinfinite _ ih =>
    rcases List.mem_cons.mp hname with rfl | hname
    · rw [Option.some.inj (hroot.symm.trans hroot')] at hfinite
      exact absurd hinfinite hfinite
    · exact ih hname

/-- Of different records, just those that are not kept have diagnostics, in their order. -/
theorem errors (h : Sifts r c names kept ds) (hnames : names.Nodup) :
    List.Forall₂ (fun name d => ∃ records, d = r.infiniteSize name records)
      (names.filter fun name => !kept.contains name) ds := by
  induction h with
  | nil => exact .nil
  | @keep name _ names kept _ _ _ _ ih =>
    obtain ⟨hname, hnames⟩ := List.nodup_cons.mp hnames
    have hfilter : (name :: names).filter (fun x => !(name :: kept).contains x) =
        names.filter fun x => !kept.contains x := by
      rw [List.filter_cons_of_neg (by simp)]
      refine List.filter_congr fun x hx => ?_
      have hne : x ≠ name := fun hx' => hname (hx' ▸ hx)
      simp [hne]
    rw [hfilter]
    exact ih hnames
  | @drop name _ names kept records _ _ _ h ih =>
    obtain ⟨hname, hnames⟩ := List.nodup_cons.mp hnames
    have hkept : name ∉ kept := fun hkept => hname (h.subset hkept)
    rw [List.filter_cons_of_pos (by simpa using hkept)]
    exact .cons ⟨records, rfl⟩ (ih hnames)

end Sifts

/-- Classifying the records that have nodes, with diagnostics collected, sorts them. -/
theorem classifyRecords_sifts {r : Resolution} (hr : r.Sound) {names : List String}
    (hnames : ∀ name ∈ names, ∃ root, r.registry.get? name = some root)
    (hc : Sealed r.arena r.registry.entries r.catalog known [] c) :
    ∃ c' kept ds, r.classifyRecords true c names = .ok (c', kept, ds) ∧
      Sealed r.arena r.registry.entries r.catalog known [] c' ∧ Sifts r c' names kept ds := by
  induction names generalizing c known with
  | nil => exact ⟨c, [], [], rfl, hc, .nil⟩
  | cons name names ih =>
    obtain ⟨⟨root, hroot⟩, hnames⟩ := List.forall_mem_cons.mp hnames
    have he := (Registry.get?_eq_some_iff (Resolution.registered_nodup hr)).mp hroot
    obtain ⟨n, hn, hk, hrecord, -⟩ := hr.registered _ he
    have hvisit := seals hr.bears (r.arena.size + 1) known (.record hn hk hrecord he) .nil
      (.nil r.arena root) (.start r.arena) c hc
    unfold Resolution.classifyRecords
    rw [hroot]
    dsimp only [run, visit]
    rcases hrun : visitWith r.arena (r.arena.size + 1) [] root c with ⟨fault | v, c₁⟩ <;>
      rw [hrun] at hvisit
    · obtain ⟨⟨records, rfl⟩, hinfinite, hc₁⟩ := hvisit
      obtain ⟨c', kept, ds, hrest, hc', hsifts⟩ := ih hnames hc₁
      exact ⟨c', kept, _, by dsimp only; rw [hrest]; rfl, hc', .drop hroot hinfinite hsifts⟩
    · obtain ⟨⟨hc₁, hmet⟩, -⟩ := hvisit
      have hroot₁ : root ∈ c₁.nodes := hmet.mem.resolve_right List.not_mem_nil
      have hstart : Sealed r.arena r.registry.entries r.catalog c₁.nodes [] c₁ :=
        { hc₁ with known := List.Subset.refl _ }
      obtain ⟨c', kept, ds, hrest, hc', hsifts⟩ := ih hnames hstart
      exact ⟨c', name :: kept, ds, by dsimp only; rw [hrest]; rfl, hc'.weaken hc₁.known,
        .keep hroot (hc'.known hroot₁) hsifts⟩

end Classifier

/-- A finished node is known to be fixed or not. -/
theorem Classifier.isFixed_mark {c : Classifier} {id : NodeId} (h : id ∈ c.nodes) (n : Node) :
    ∃ b, (c.mark id n).isFixed = .ok b := by
  cases hget : c.get? id with
  | none => exact absurd h (Classifier.get?_eq_none_iff.mp hget)
  | some v => exact ⟨!v.isDynamic, by simp [Classifier.mark, hget, Node.isFixed]⟩

/-- All that a node reaches has a verdict in a schema, and its records belong to the schema. -/
def Schema.Encloses (s : Schema) (a : Arena) (entries : List (String × NodeId)) (id : NodeId) :
    Prop :=
  ∀ x, ReflTransGen a.Refers id x →
    (∃ n b, s.node x = .ok n ∧ n.isFixed = .ok b) ∧ ∀ e ∈ entries, e.2 = x → e ∈ s.records

namespace Resolution

variable {r : Resolution} {c : Classifier} {known : List NodeId} {names kept : List String}
  {ds : List Diagnostic}

/-- The schema of the records that are kept. -/
def left (r : Resolution) (c : Classifier) (kept : List String) : Schema :=
  ⟨c.arena r.arena, r.registry.entries.filter fun e => kept.contains e.1⟩

/-- A schema holds the records that are left of some, and each of the others has a diagnostic. All
that have finite size are left, and of the rest only such as reach tangled nodes. -/
structure Salvages (r : Resolution) (names : List String) (s : Schema) (ds : List Diagnostic) :
    Prop where
  records : s.records.Sublist r.registry.entries
  asked : s.order ⊆ names
  errors : List.Forall₂ (fun name d => ∃ records, d = r.infiniteSize name records)
    (names.filter fun name => !s.contains name) ds
  finite : ∀ e ∈ r.registry.entries, e.1 ∈ names → ¬r.arena.Infinite e.2 → e ∈ s.records
  clear : ∀ e ∈ s.records, r.arena.Clear e.2 → ¬r.arena.Infinite e.2

theorem mem_left_iff {e : String × NodeId} :
    e ∈ (r.left c kept).records ↔ e ∈ r.registry.entries ∧ e.1 ∈ kept := by
  rw [left, List.mem_filter, List.contains_iff_mem]

theorem contains_left {name : String} (hname : name ∈ r.registry.order) :
    (r.left c kept).contains name = kept.contains name := by
  obtain ⟨e, he, rfl⟩ := List.mem_map.mp hname
  rw [Bool.eq_iff_iff, List.contains_iff_mem, Schema.contains, List.contains_iff_mem]
  constructor
  · intro hmem
    obtain ⟨e', he', hname'⟩ := List.mem_map.mp hmem
    exact hname' ▸ (mem_left_iff.mp he').2
  · exact fun hkept => List.mem_map_of_mem (mem_left_iff.mpr ⟨he, hkept⟩)

theorem Sound.get?_eq_some (hr : r.Sound) {e : String × NodeId} (he : e ∈ r.registry.entries) :
    r.registry.get? e.1 = some e.2 :=
  (Registry.get?_eq_some_iff (registered_nodup hr)).mpr he

theorem Sound.salvages_left (hr : r.Sound) (hasked : names ⊆ r.registry.order)
    (hdistinct : names.Nodup)
    (hc : Classifier.Sealed r.arena r.registry.entries r.catalog known [] c)
    (h : Classifier.Sifts r c names kept ds) : r.Salvages names (r.left c kept) ds where
  records := List.filter_sublist
  asked name hname := by
    obtain ⟨e, he, rfl⟩ := List.mem_map.mp hname
    exact h.subset (mem_left_iff.mp he).2
  errors := by
    have hfilter : (names.filter fun name => !(r.left c kept).contains name) =
        names.filter fun name => !kept.contains name :=
      List.filter_congr fun name hname => by rw [contains_left (hasked hname)]
    rw [hfilter]
    exact h.errors hdistinct
  finite e he hname hfinite :=
    mem_left_iff.mpr ⟨he, h.mem_kept hname (hr.get?_eq_some he) hfinite⟩
  clear e he hclear := by
    obtain ⟨he, hkept⟩ := mem_left_iff.mp he
    exact hc.finite e.2 (h.mem_nodes hkept (hr.get?_eq_some he)) hclear

/-- Of the whole registry a schema is left that encloses its records of finite size. -/
theorem Sound.encloses_left (hr : r.Sound) (hwhole : r.registry.order ⊆ names)
    (hc : Classifier.Sealed r.arena r.registry.entries r.catalog known [] c)
    (h : Classifier.Sifts r c names kept ds) {e : String × NodeId}
    (he : e ∈ (r.left c kept).records) (hfinite : ¬r.arena.Infinite e.2) :
    (r.left c kept).Encloses r.arena r.registry.entries e.2 := by
  intro x hreach
  obtain ⟨he, hkept⟩ := mem_left_iff.mp he
  have hx := hc.mem_of_reaches (h.mem_nodes hkept (hr.get?_eq_some he)) hfinite hreach
  have hxfinite : ¬r.arena.Infinite x := fun hx => hfinite (hx.of_reaches hreach)
  constructor
  · obtain ⟨v, hv, rfl⟩ := List.mem_map.mp hx
    obtain ⟨t, ht, -⟩ := hc.good v hv
    obtain ⟨n, hn⟩ := ht.get?
    obtain ⟨b, hb⟩ := Classifier.isFixed_mark hx n
    exact ⟨_, b, by rw [left, Schema.node, Arena.get, Classifier.get?_arena, hn]; rfl, hb⟩
  · rintro e' he' rfl
    have hname : e'.1 ∈ names := hwhole (List.mem_map_of_mem he')
    exact mem_left_iff.mpr ⟨he', h.mem_kept hname (hr.get?_eq_some he') hxfinite⟩

/-- The best-effort schema of some records. -/
theorem Sound.exists_left (hr : r.Sound) {names : Option (List String)}
    (hasked : names.getD r.registry.order ⊆ r.registry.order) :
    ∃ c kept ds, r.schema names true = .ok (r.left c kept, ds) ∧
      Classifier.Sealed r.arena r.registry.entries r.catalog [] [] c ∧
      Classifier.Sifts r c (names.getD r.registry.order) kept ds := by
  have hroots (name : String) (hname : name ∈ names.getD r.registry.order) :
      ∃ root, r.registry.get? name = some root := by
    obtain ⟨e, he, rfl⟩ := List.mem_map.mp (hasked hname)
    exact ⟨e.2, hr.get?_eq_some he⟩
  obtain ⟨c, kept, ds, hrun, hc, h⟩ := Classifier.classifyRecords_sifts hr hroots
    (Classifier.Sealed.start r.arena r.registry.entries r.catalog)
  refine ⟨c, kept, ds, ?_, hc, h⟩
  rw [schema, hrun]
  rfl

end Resolution

end SszSchema
