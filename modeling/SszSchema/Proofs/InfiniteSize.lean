import SszSchema.Proofs.Verdicts

/-!
# Records of infinite size

Which records `Classifier.visit` finds to be infinite. Its finished and open nodes are those that a
walk has met (`Classifier.Synced`), and an open node lies inside the innermost list just if it was
met first in the current stretch (`Classifier.Follows`). So a visit stops just if some nodes contain
each other and were all met first in one stretch.

A cycle whose nodes are met first in different stretches is not found: a record that is met below a
list is finished while the record that it leads back to is open, and is not looked into again.
-/

namespace SszSchema

namespace Classifier

variable {a : Arena} {entries : List (String × NodeId)} {env : Catalog} {stack : Stack}
  {id child entry x : NodeId} {t : SszType} {n : Node} {c : Classifier} {met met' : Trail}
  {fuel : Nat}

/-- The finished nodes, the last first. -/
def nodes (c : Classifier) : List NodeId := c.done.map (·.1)

/-- The open nodes. -/
def opened (stack : Stack) : List NodeId := stack.filterMap fun i => i

theorem mem_opened_iff : x ∈ opened stack ↔ some x ∈ stack := by
  simp [opened]

theorem get?_eq_none_iff : c.get? id = none ↔ id ∉ c.nodes := by
  simp only [get?, nodes, Option.map_eq_none_iff, List.find?_eq_none, beq_iff_eq, List.mem_map,
    not_exists, not_and]

theorem mem_nodes_of_get? {v : Verdict} (h : c.get? id = some v) : id ∈ c.nodes := by
  by_contra hmem
  rw [get?_eq_none_iff.mpr hmem] at h
  cases h

/-- A trail is that of the nodes that are finished or open. -/
structure Synced (a : Arena) (stack : Stack) (met : Trail) (c : Classifier) : Prop where
  mem_iff : ∀ x, x ∈ met.nodes ↔ x ∈ c.nodes ∨ some x ∈ stack
  apart : ∀ x, some x ∈ stack → x ∉ c.nodes
  nodup : met.nodes.Nodup
  entries : ∀ e ∈ met, e.2 ∈ met.nodes
  ordered : a.Ordered met c.nodes

/-- Each open node up to the next list contains the one inside it, the innermost the given one. -/
def Leads (a : Arena) : Stack → NodeId → Prop
  | some x :: stack, id => a.Contains x id ∧ Leads a stack x
  | _, _ => True

/-- The fuel lasts for all nodes that can still be opened. -/
structure Fueled (a : Arena) (stack : Stack) (fuel : Nat) : Prop where
  nodup : (opened stack).Nodup
  bound : ∀ x ∈ opened stack, x < a.size
  fuel : a.size + 1 ≤ fuel + (opened stack).length

/-- A visit of a node goes with a walk from there: the current stretch has met the open nodes inside
the innermost list and, unless the node has been met, no other open nodes. -/
structure Follows (a : Arena) (stack : Stack) (fuel : Nat) (entry : NodeId) (met : Trail)
    (id : NodeId) : Prop extends Fueled a stack fuel where
  inside : ∀ x, some x ∈ segment stack → (x, entry) ∈ met
  outside : id ∉ met.nodes → ∀ x, some x ∈ stack → some x ∉ segment stack → (x, entry) ∉ met
  entry : entry = id ∨ entry ∈ met.nodes
  leads : Leads a stack id

/-! ## Open nodes -/

theorem segment_some (id : NodeId) (stack : Stack) :
    segment (some id :: stack) = some id :: segment stack :=
  List.takeWhile_cons_of_pos rfl

theorem transGen_of_leads (hleads : Leads a stack id)
    (hinside : ∀ x, some x ∈ segment stack → (x, entry) ∈ met) (hid : (id, entry) ∈ met)
    (hx : some x ∈ segment stack) : Relation.TransGen (a.SameStretch met) x id := by
  induction stack generalizing id with
  | nil => cases hx
  | cons i stack ih =>
    cases i with
    | none => cases hx
    | some y =>
      rw [segment_some] at hinside hx
      have hy := hinside y List.mem_cons_self
      have hstep : a.SameStretch met y id := ⟨hleads.1, entry, hy, hid⟩
      rcases List.mem_cons.mp hx with hx | hx
      · obtain rfl := Option.some.inj hx
        exact .single hstep
      · have hrest := ih hleads.2 (fun x hx => hinside x (List.mem_cons_of_mem _ hx)) hy hx
        exact hrest.tail hstep

/-- A node that is met again inside the innermost list belongs to a loop. -/
theorem Follows.hasLoop (h : Follows a stack fuel entry met id) (hid : some id ∈ segment stack) :
    a.HasLoop met :=
  ⟨id, transGen_of_leads h.leads h.inside (h.inside id hid) hid⟩

theorem Fueled.start (a : Arena) : Fueled a [] (a.size + 1) where
  nodup := List.nodup_nil
  bound _ h := absurd h List.not_mem_nil
  fuel := Nat.le_refl _

theorem Fueled.part (h : Fueled a stack (fuel + 1)) (hopen : some id ∉ stack)
    (hn : a.get? id = some n) : Fueled a (some id :: stack) fuel where
  nodup := List.nodup_cons.mpr ⟨mt mem_opened_iff.mp hopen, h.nodup⟩
  bound := List.forall_mem_cons.mpr ⟨Arena.lt_size_of_get? hn, h.bound⟩
  fuel := by
    have hlength : (opened (some id :: stack)).length = (opened stack).length + 1 := rfl
    have := h.fuel
    omega

/-- The bounds of a list need no fuel. -/
theorem Fueled.element (h : Fueled a (some id :: stack) fuel) :
    Fueled a (none :: some id :: stack) fuel := ⟨h.nodup, h.bound, h.fuel⟩

/-- The fuel lasts as long as nodes are met for the first time. -/
theorem Fueled.fuel_ne_zero (h : Fueled a stack fuel) (hid : id < a.size)
    (hopen : some id ∉ stack) : fuel ≠ 0 := by
  rintro rfl
  have hnodup : (id :: opened stack).Nodup :=
    List.nodup_cons.mpr ⟨mt mem_opened_iff.mp hopen, h.nodup⟩
  have hsub : id :: opened stack ⊆ List.range a.size := fun x hx =>
    List.mem_range.mpr ((List.mem_cons.mp hx).elim (fun hx => hx ▸ hid) (h.bound x))
  have hlength := (hnodup.subperm hsub).length_le
  rw [List.length_cons, List.length_range] at hlength
  have := h.fuel
  omega

theorem Follows.start (a : Arena) (met : Trail) (root : NodeId) :
    Follows a [] (a.size + 1) root met root where
  inside _ h := absurd h List.not_mem_nil
  outside _ _ h := absurd h List.not_mem_nil
  entry := .inl rfl
  leads := trivial
  toFueled := .start a

/-- Opening a node that has not been met. -/
theorem Synced.push (h : Synced a stack met c) (hentry : entry = id ∨ entry ∈ met.nodes)
    (hid : id ∉ met.nodes) : Synced a (some id :: stack) ((id, entry) :: met) c where
  mem_iff x := by
    have hmem := h.mem_iff x
    simp only [Trail.nodes, List.map_cons, List.mem_cons, Option.some.injEq] at hmem ⊢
    rw [hmem]
    exact or_left_comm
  apart x hx := by
    rcases List.mem_cons.mp hx with hx | hx
    · rw [Option.some.inj hx]
      exact fun hdone => hid ((h.mem_iff id).mpr (.inl hdone))
    · exact h.apart x hx
  nodup := List.nodup_cons.mpr ⟨hid, h.nodup⟩
  entries e he := by
    rcases List.mem_cons.mp he with rfl | he
    · exact List.mem_cons.mpr hentry
    · exact List.mem_cons_of_mem _ (h.entries e he)
  ordered := h.ordered.mono (List.subset_cons_self _ _)

/-- The bounds of a list do not count as open nodes. -/
theorem synced_none_iff : Synced a (none :: stack) met c ↔ Synced a stack met c := by
  constructor <;> intro h <;> refine ⟨?_, ?_, h.nodup, h.entries, h.ordered⟩
  · simpa using h.mem_iff
  · simpa using h.apart
  · simpa using h.mem_iff
  · simpa using h.apart

/-- Open nodes outside the innermost list stay in other stretches. -/
theorem Follows.not_mem_of_outside (h : Follows a stack fuel entry met id)
    (hs : Synced a stack met c) (hfresh : id ∉ met.nodes) (hsuffix : met <:+ met')
    (hmet : met'.nodes.Nodup) (x : NodeId) (hx : some x ∈ stack)
    (hout : some x ∉ segment stack) : (x, entry) ∉ met' := by
  intro hentry
  obtain ⟨⟨_, entry'⟩, he, rfl⟩ := List.mem_map.mp ((hs.mem_iff x).mpr (.inr hx))
  obtain rfl := Trail.entry_unique hmet hentry (hsuffix.subset he)
  exact h.outside hfresh _ hx hout he

/-- A visit of a part goes on in the same stretch. -/
theorem Follows.part (h : Follows a stack (fuel + 1) entry met id) (hs : Synced a stack met c)
    (hfresh : id ∉ met.nodes) (hopen : some id ∉ stack) (hn : a.get? id = some n)
    (hchild : child ∈ n.parts) (hsuffix : (id, entry) :: met <:+ met') (hmet : met'.nodes.Nodup) :
    Follows a (some id :: stack) fuel entry met' child where
  inside x hx := by
    rw [segment_some] at hx
    rcases List.mem_cons.mp hx with hx | hx
    · rw [Option.some.inj hx]
      exact hsuffix.subset List.mem_cons_self
    · exact hsuffix.subset (List.mem_cons_of_mem _ (h.inside x hx))
  outside _ x hx hout hentry := by
    rw [segment_some, List.mem_cons, not_or] at hout
    exact h.not_mem_of_outside hs hfresh ((List.suffix_cons _ met).trans hsuffix) hmet x
      ((List.mem_cons.mp hx).resolve_left hout.1) hout.2 hentry
  entry := by
    right
    have hsub : Trail.nodes ((id, entry) :: met) ⊆ met'.nodes := List.map_subset _ hsuffix.subset
    rcases h.entry with rfl | hentry
    · exact hsub List.mem_cons_self
    · exact hsub (List.mem_cons_of_mem _ hentry)
  leads := ⟨⟨n, hn, hchild⟩, h.leads⟩
  toFueled := h.toFueled.part hopen hn

/-- A visit of the element of a list begins a stretch. -/
theorem Follows.element (h : Follows a stack (fuel + 1) entry met id) (hopen : some id ∉ stack)
    (hn : a.get? id = some n) (hmet : ∀ e ∈ met', e.2 ∈ met'.nodes) :
    Follows a (none :: some id :: stack) fuel child met' child where
  inside _ hx := absurd hx List.not_mem_nil
  outside hfresh _ _ _ hentry := hfresh (hmet _ hentry)
  entry := .inl rfl
  leads := trivial
  toFueled := (h.toFueled.part hopen hn).element

/-- Finishing a node whose parts are finished, or were open outside the innermost list. -/
theorem Synced.finish (h : Synced a (some id :: stack) met' c) (v : Verdict)
    (hopen : some id ∉ stack) (hn : a.get? id = some n) (hentry : (id, entry) ∈ met')
    (houtside : ∀ x, some x ∈ stack → some x ∉ segment stack → (x, entry) ∉ met')
    (hparts : ∀ part ∈ n.parts, some part ∉ segment (some id :: stack) ∧ part ∈ met'.nodes) :
    Synced a stack met' ⟨(id, v) :: c.done⟩ where
  mem_iff x := by
    have hmem := h.mem_iff x
    simp only [nodes, List.map_cons, List.mem_cons, Option.some.injEq] at hmem ⊢
    rw [hmem]
    exact or_left_comm.trans or_assoc.symm
  apart x hx hdone := by
    rcases List.mem_cons.mp hdone with rfl | hdone
    · exact hopen hx
    · exact h.apart x (List.mem_cons_of_mem _ hx) hdone
  nodup := h.nodup
  entries := h.entries
  ordered := by
    refine ⟨?_, h.ordered⟩
    rintro part ⟨n', hn', hpart⟩
    obtain rfl := Option.some.inj (hn.symm.trans hn')
    obtain ⟨hout, hmem⟩ := hparts part hpart
    rcases (h.mem_iff part).mp hmem with hdone | hstack
    · exact .inl hdone
    · rw [segment_some, List.mem_cons, not_or] at hout
      have hstack := (List.mem_cons.mp hstack).resolve_left hout.1
      obtain ⟨⟨_, entry'⟩, he, rfl⟩ := List.mem_map.mp hmem
      refine .inr ⟨entry, entry', hentry, he, ?_⟩
      rintro rfl
      exact houtside _ hstack hout.2 he

/-! ## Visits and walks -/

/-- A visit stops because of a loop on a trail. -/
def Loops (a : Arena) (met : Trail) (fault : ClassifyFault) (_ : Classifier) : Prop :=
  (∃ records, fault = .infinite records) ∧ a.HasLoop met

theorem Loops.mono (hsuffix : met <:+ met') {fault : ClassifyFault} (h : Loops a met fault c) :
    Loops a met' fault c :=
  ⟨h.1, h.2.mono hsuffix.subset⟩

/-- A visit finishes or leaves open what a walk meets, and stops just if the walk meets a loop. -/
def Tracks (a : Arena) (entries : List (String × NodeId)) (env : Catalog) (fuel : Nat) : Prop :=
  ∀ {stack id entry met t}, TypeOf a entries id t → Grounds a entries env stack id →
    Follows a stack fuel entry met id →
    Triple (fun c => Synced a stack met c ∧ Good a entries env c) (visitWith a fuel stack id)
      (fun v c => (Synced a stack (a.walkWith fuel entry met id) c ∧ Good a entries env c) ∧
        v.Fits env t ∧ some id ∉ segment stack ∧ id ∈ (a.walkWith fuel entry met id).nodes)
      (Loops a (a.walkWith fuel entry met id))

theorem fieldVerdicts_tracks (hvisit : Tracks a entries env fuel) {fs : List FieldRef}
    {fields : Fields}
    (hfs : List.Forall₂ (fun (f : FieldRef) g => f.name = g.1 ∧ TypeOf a entries f.node g.2) fs
      fields)
    (hground : ∀ f ∈ fs, Grounds a entries env stack f.node)
    (hfollows : ∀ f ∈ fs, ∀ met' : Trail, met <:+ met' → met'.nodes.Nodup →
      Follows a stack fuel entry met' f.node) (hsuffix : met <:+ met') :
    Triple (fun c => Synced a stack met' c ∧ Good a entries env c)
      (fieldVerdicts (visitWith a fuel stack) fs)
      (fun vs c =>
        (Synced a stack ((fs.map (·.node)).foldl (a.walkWith fuel entry) met') c ∧
          Good a entries env c) ∧
        List.Forall₂ (fun v g => v.Fits env g.2) vs fields ∧
        ∀ f ∈ fs, some f.node ∉ segment stack ∧
          f.node ∈ ((fs.map (·.node)).foldl (a.walkWith fuel entry) met').nodes)
      (Loops a ((fs.map (·.node)).foldl (a.walkWith fuel entry) met')) := by
  induction hfs generalizing met' with
  | nil => exact .pure fun c hc => ⟨hc, .nil, nofun⟩
  | @cons f g fs fields hf _ ih =>
    obtain ⟨hgf, hgrest⟩ := List.forall_mem_cons.mp hground
    obtain ⟨hff, hfrest⟩ := List.forall_mem_cons.mp hfollows
    intro c hc
    have hfirst := hvisit hf.2 hgf (hff met' hsuffix hc.1.nodup)
    have hgrow := Arena.suffix_walkWith a fuel entry met' f.node
    have hlast : a.walkWith fuel entry met' f.node <:+
        ((f :: fs).map (·.node)).foldl (a.walkWith fuel entry) met' :=
      Arena.suffix_foldl (Arena.suffix_walkWith a fuel entry) _ _
    refine Triple.bind (hfirst.conseq (fun _ h => h) (fun _ _ h => h) fun _ _ h => h.mono hlast)
      (fun v => .assume fun ⟨hv, hout, hmem⟩ => ?_) c hc
    obtain ⟨size, hslot, -⟩ := hv.slot
    simp only [hslot, Option.isNone_some, Bool.false_eq_true, if_false]
    refine .bind (ih hgrest hfrest (hsuffix.trans hgrow)) fun vs => .assume fun ⟨hvs, hparts⟩ =>
      .pure fun c hc => ⟨hc, .cons hv hvs, List.forall_mem_cons.mpr ⟨⟨hout, ?_⟩, hparts⟩⟩
    exact List.map_subset _ hlast.subset hmem

/-- The verdict on a node goes with a walk through its parts. -/
theorem judge_tracks (hb : a.Bears entries env) (hvisit : Tracks a entries env fuel)
    (hn : a.get? id = some n) (ht : TypeOf a entries id t) (hg : Grounds a entries env stack id)
    (hf : Follows a stack (fuel + 1) entry met id) (hs : Synced a stack met c)
    (hfresh : id ∉ met.nodes) (hopen : some id ∉ stack) :
    Triple (fun c => Synced a (some id :: stack) ((id, entry) :: met) c ∧ Good a entries env c)
      (judge (visitWith a fuel) (some id :: stack) n)
      (fun _ c =>
        (Synced a (some id :: stack)
          (Arena.walkParts (a.walkWith fuel) entry n ((id, entry) :: met)) c ∧
          Good a entries env c) ∧
        ∀ part ∈ n.parts, some part ∉ segment (some id :: stack) ∧
          part ∈ (Arena.walkParts (a.walkWith fuel) entry n ((id, entry) :: met)).nodes)
      (Loops a (Arena.walkParts (a.walkWith fuel) entry n ((id, entry) :: met))) := by
  have hpush := hs.push hf.entry hfresh
  have hground {child : NodeId} (hchild : child ∈ n.parts) := hg.of_mem_parts hb hn ht hchild
  have hground' {child : NodeId} (hchild : child ∈ n.listed) := hg.of_mem_listed hn ht hchild
  have hpart {child : NodeId} (hchild : child ∈ n.parts) (met' : Trail)
      (hsuffix : (id, entry) :: met <:+ met') (hmet : met'.nodes.Nodup) :=
    hf.part hs hfresh hopen hn hchild hsuffix hmet
  cases judgement hb hn ht with
  | leaf hparts hlisted _ h =>
    simp only [h, Arena.walkParts, hparts, hlisted, List.foldl_nil]
    exact .pure fun c hc => ⟨hc, nofun⟩
  | vector hparts hlisted hu hv h =>
    simp only [Arena.walkParts, hparts, hlisted, List.foldl_nil, List.foldl_cons,
      List.forall_mem_singleton] at hground hpart ⊢
    have hfollow := hpart _ (List.suffix_refl _) hpush.nodup
    rw [h]
    refine .bind (hvisit hu hground hfollow) fun v => .assume ?_
    rintro ⟨hfits, hmet⟩
    obtain ⟨w, hw, -⟩ := hv v hfits
    rw [hw]
    exact .pure fun c hc => ⟨hc, hmet⟩
  | list hparts hlisted hu _ h =>
    simp only [Arena.walkParts, hparts, hlisted, List.foldl_nil, List.foldl_cons] at hground' ⊢
    have hvisited := hvisit hu (hground' List.mem_cons_self) (hf.element hopen hn hpush.entries)
    rw [h]
    refine .bind (hvisited.conseq (fun _ h => ⟨synced_none_iff.mpr h.1, h.2⟩)
      (fun _ _ h => ⟨⟨synced_none_iff.mp h.1.1, h.1.2⟩, h.2⟩) fun _ _ h => h)
      fun v => .assume fun _ => .pure fun c hc => ⟨hc, nofun⟩
  | record hkind hfs hv h =>
    obtain ⟨hparts, hlisted⟩ := Node.parts_of_container hkind
    simp only [Arena.walkParts, hparts, hlisted, List.foldl_nil,
      List.forall_mem_map] at hground hpart ⊢
    rw [h]
    refine .bind (fieldVerdicts_tracks hvisit hfs hground hpart (List.suffix_refl _)) fun vs =>
      .assume ?_
    rintro ⟨hvs, hmet⟩
    obtain ⟨w, hw, -⟩ := hv vs hvs
    rw [hw]
    exact .pure fun c hc => ⟨hc, hmet⟩

/-- Visits go with walks if they do where nodes are met for the first time. -/
theorem tracks_of_fresh {fuel : Nat}
    (h : ∀ {stack id entry met t n}, TypeOf a entries id t → Grounds a entries env stack id →
      Follows a stack fuel entry met id → a.get? id = some n → id ∉ met.nodes → some id ∉ stack →
      Triple (fun c => (Synced a stack met c ∧ Good a entries env c) ∧ c.get? id = none)
        (visitWith a fuel stack id)
        (fun v c => (Synced a stack (a.walkWith fuel entry met id) c ∧ Good a entries env c) ∧
          v.Fits env t ∧ some id ∉ segment stack ∧ id ∈ (a.walkWith fuel entry met id).nodes)
        (Loops a (a.walkWith fuel entry met id))) :
    Tracks a entries env fuel := by
  intro stack id entry met t ht hg hf c hc
  obtain ⟨hs, hgood⟩ := hc
  by_cases hmem : id ∈ met.nodes
  · rw [Arena.walkWith_of_mem hmem]
    cases encounter a fuel stack id c with
    | finished hget hvisit =>
      rw [hvisit]
      refine ⟨⟨hs, hgood⟩, (hgood.get? hget ht).fits, fun hsegment => ?_, hmem⟩
      exact hs.apart id ((List.takeWhile_prefix _).subset hsegment) (mem_nodes_of_get? hget)
    | inside _ hopen hvisit =>
      rw [hvisit]
      exact ⟨⟨_, rfl⟩, hf.hasLoop hopen⟩
    | outside _ hopen hout hvisit =>
      rw [hvisit]
      exact ⟨⟨hs, hgood⟩, .dynamic ((dynamicNode_iff ht).mp (hg.outside id hopen hout)), hout,
        hmem⟩
    | fresh hget hopen =>
      exact absurd ((hs.mem_iff id).mp hmem) (not_or.mpr ⟨get?_eq_none_iff.mp hget, hopen⟩)
  · obtain ⟨n, hn⟩ := ht.get?
    rw [hs.mem_iff, not_or] at hmem
    have hmem' : id ∉ met.nodes := by rw [hs.mem_iff, not_or]; exact hmem
    exact h ht hg hf hn hmem' hmem.2 c ⟨⟨hs, hgood⟩, get?_eq_none_iff.mpr hmem.1⟩

/-- Visits go with walks. -/
theorem tracks (hb : a.Bears entries env) (fuel : Nat) : Tracks a entries env fuel := by
  induction fuel with
  | zero =>
    refine tracks_of_fresh fun _ _ hf hn _ hopen => ?_
    exact absurd rfl (hf.fuel_ne_zero (Arena.lt_size_of_get? hn) hopen)
  | succ fuel ih =>
    refine tracks_of_fresh fun {stack id entry met t n} ht hg hf hn hfresh hopen c hc => ?_
    obtain ⟨⟨hs, hgood⟩, hget⟩ := hc
    rw [Arena.walkWith_of_fresh hfresh hn, visitWith_of_fresh hget hopen hn]
    have hpush := hs.push hf.entry hfresh
    have hgrow := Arena.suffix_walkParts (Arena.suffix_walkWith a fuel) entry n ((id, entry) :: met)
    have hjudge := (judge_tracks hb ih hn ht hg hf hs hfresh hopen).and
      (judge_settles hb (visitWith_fits hb fuel) hn ht hg)
    refine Triple.bind (hjudge.conseq (fun _ h => h) (fun _ _ h => h) fun _ _ h => h.1)
      (fun v => ?_) c ⟨⟨hpush, hgood⟩, hgood⟩
    refine .bind (Q := fun _ c => _) (.update fun c hc => ?_) fun _ => .pure fun c hc => hc
    obtain ⟨⟨⟨hs', -⟩, hparts⟩, hgood', hv⟩ := hc
    have hentry := hgrow.subset List.mem_cons_self
    have houtside :=
      hf.not_mem_of_outside hs hfresh ((List.suffix_cons _ met).trans hgrow) hs'.nodup
    refine ⟨⟨hs'.finish v hopen hn hentry houtside hparts, ?_⟩, hv.fits, ?_, ?_⟩
    · exact List.forall_mem_cons.mpr ⟨⟨t, ht, hv⟩, hgood'⟩
    · exact fun hsegment => hopen ((List.takeWhile_prefix _).subset hsegment)
    · exact Trail.mem_nodes_of_mem hentry

theorem Synced.start (a : Arena) : Synced a [] [] {} where
  mem_iff x := by simp [Trail.nodes, nodes]
  apart _ h := absurd h List.not_mem_nil
  nodup := List.nodup_nil
  entries _ h := absurd h List.not_mem_nil
  ordered := trivial

/-- Without open nodes left, there is no loop. -/
theorem Synced.not_hasLoop (h : Synced a [] met c) : ¬a.HasLoop met :=
  h.ordered.not_hasLoop h.nodup fun x hx => ((h.mem_iff x).mp hx).resolve_right List.not_mem_nil

/-! ## Schemas -/

variable {r : Resolution} {name : String} {names : List String} {roots : List NodeId}

/-- The error about a record without finite size. -/
def IsInfinite (r : Resolution) (names : List String) (failure : Failure) : Prop :=
  ∃ name ∈ names, ∃ records, failure = .reported (r.infiniteSize name records)

/-- Classification goes with a walk from one record to the next, and stops just if that meets a
loop. -/
theorem classifyRecords_tracks (hr : r.Sound)
    (hroots : List.Forall₂ (fun name root => r.registry.get? name = some root) names roots)
    (hs : Synced r.arena [] met c) (hgood : Good r.arena r.registry.entries r.catalog c) :
    (∃ c' kept, r.classifyRecords false c names = .ok (c', kept, []) ∧
      Synced r.arena [] (r.arena.walkFrom met roots) c') ∨
    ∃ failure, r.classifyRecords false c names = .error failure ∧ IsInfinite r names failure ∧
      r.arena.HasLoop (r.arena.walkFrom met roots) := by
  induction hroots generalizing c met with
  | nil => exact .inl ⟨c, [], rfl, hs⟩
  | @cons name root names roots hname _ ih =>
    have he := (Registry.get?_eq_some_iff (Resolution.registered_nodup hr)).mp hname
    obtain ⟨n, hn, hk, hrecord, -⟩ := hr.registered _ he
    have hvisit := tracks hr.bears (r.arena.size + 1) (.record hn hk hrecord he) .nil
      (Follows.start r.arena met root) c ⟨hs, hgood⟩
    unfold Resolution.classifyRecords
    rw [hname]
    dsimp only [run, visit]
    rcases hrun : visitWith r.arena (r.arena.size + 1) [] root c with ⟨fault | v, c'⟩ <;>
      rw [hrun] at hvisit
    · obtain ⟨⟨records, rfl⟩, hloop⟩ := hvisit
      exact .inr ⟨_, rfl, ⟨name, List.mem_cons_self, records, rfl⟩,
        hloop.mono (Arena.suffix_walkFrom _ _ roots).subset⟩
    · obtain ⟨⟨hs', hgood'⟩, -⟩ := hvisit
      rcases ih hs' hgood' with ⟨c'', kept, hrest, hs''⟩ | ⟨failure, hrest, hinfinite, hloop⟩
      · exact .inl ⟨c'', name :: kept, by dsimp only; rw [hrest]; rfl, hs''⟩
      · obtain ⟨name', hname', records, hfailure⟩ := hinfinite
        exact .inr ⟨failure, by dsimp only; rw [hrest]; rfl,
          ⟨name', List.mem_cons_of_mem _ hname', records, hfailure⟩, hloop⟩

end Classifier

namespace Resolution

variable {units : List SourceUnit} {r : Resolution} {names : Option (List String)}
  {roots : List NodeId}

/-- No schema is built because of a record of infinite size. -/
def Refuses (r : Resolution) (names : Option (List String)) : Prop :=
  ∃ name ∈ names.getD r.registry.order, ∃ records,
    r.schema names false = .error (.reported (r.infiniteSize name records))

theorem not_refuses_of_eq_ok {s : Schema} {ds : List Diagnostic}
    (h : r.schema names false = .ok (s, ds)) : ¬r.Refuses names := by
  rintro ⟨name, -, records, herror⟩
  rw [h] at herror
  cases herror

/-- A schema is refused because of a loop, or else built without one. -/
theorem refuses_or_eq_ok (hr : r.Sound)
    (hroots : (names.getD r.registry.order).mapM r.registry.get? = some roots) :
    r.Refuses names ∧ r.arena.HasLoop (r.arena.walk roots) ∨
      (∃ s, r.schema names false = .ok (s, [])) ∧ ¬r.arena.HasLoop (r.arena.walk roots) := by
  have htracks := Classifier.classifyRecords_tracks hr (Outcome.mapM_eq_some_iff.mp hroots)
    (Classifier.Synced.start r.arena) (fun _ he => absurd he List.not_mem_nil)
  rcases htracks with ⟨c, kept, hrun, hs⟩ | ⟨failure, hrun, ⟨name, hname, records, rfl⟩, hloop⟩
  · refine .inr ⟨?_, hs.not_hasLoop⟩
    rw [schema, hrun]
    exact ⟨_, rfl⟩
  · refine .inl ⟨⟨name, hname, records, ?_⟩, hloop⟩
    rw [schema, hrun]
    rfl

/-- A schema is refused just if, walking depth first from the records asked for, nodes that contain
each other are all met first in one stretch without lists; else it is built. A schema is never
refused without a cycle, but a cycle is overlooked if each cycle has nodes that are met first in
different stretches. -/
theorem refuses_iff (h : r.Reached units)
    (hroots : (names.getD r.registry.order).mapM r.registry.get? = some roots) :
    (r.Refuses names ↔ r.arena.HasLoop (r.arena.walk roots)) ∧
    (¬r.Refuses names → ∃ s, r.schema names false = .ok (s, [])) ∧
    (r.Refuses names → r.arena.InfiniteFrom roots) ∧
    ((r.Refuses names ↔ r.arena.InfiniteFrom roots) ↔
      (r.arena.InfiniteFrom roots → r.arena.HasLoop (r.arena.walk roots))) := by
  have hcases := refuses_or_eq_ok h.sound hroots
  have hloop : r.Refuses names ↔ r.arena.HasLoop (r.arena.walk roots) := by
    rcases hcases with ⟨hrefuses, hloop⟩ | ⟨⟨s, hok⟩, hloop⟩
    · exact ⟨fun _ => hloop, fun _ => hrefuses⟩
    · exact ⟨fun hrefuses => absurd hrefuses (not_refuses_of_eq_ok hok), fun h => absurd h hloop⟩
  have hbuilt (hnot : ¬r.Refuses names) : ∃ s, r.schema names false = .ok (s, []) :=
    hcases.elim (fun h => absurd h.1 hnot) And.left
  have hinfinite (hrefuses : r.Refuses names) : r.arena.InfiniteFrom roots :=
    (hloop.mp hrefuses).infiniteFrom
  refine ⟨hloop, hbuilt, hinfinite, ?_⟩
  rw [← hloop]
  exact ⟨Iff.mpr, fun h => ⟨hinfinite, h⟩⟩

/-! ### Two records that contain each other -/

/-- A unit with two records, of which the second contains the first. -/
def pairUnit (fields : List FieldDecl) : SourceUnit where
  path := ⟨"", ["types.py"]⟩
  moduleName := "types"
  inPackage := false
  records := [⟨"A", fields, "types.py", 2⟩, ⟨"B", [⟨"a", .name "A", "A", "", 6⟩], "types.py", 5⟩]

/-- A field with the second record. -/
def pairField : FieldDecl := ⟨"b", .name "B", "B", "", 4⟩

/-- A field with a list of the second record. -/
def pairListField : FieldDecl := ⟨"l", .apply "List" (.name "B"), "List[B]", "ssz-max:\"4\"", 3⟩

/-- The resolution of both records. -/
def pairResolution (fields : List FieldDecl) : Resolution :=
  (Resolution.run { units := [pairUnit fields] } (resolve "A")).2

theorem reached_pairResolution {fields : List FieldDecl} :
    (pairResolution fields).Reached [pairUnit fields] :=
  .step (.start (ofUnits_eq_ok rfl)) "A"

/-- With the list behind the field the cycle is found. -/
theorem refuses_pair : (pairResolution [pairField, pairListField]).Refuses none := by
  refine (@refuses_iff _ _ none [0, 1] reached_pairResolution (by decide +kernel)).1.mpr
    ⟨0, .head (b := 1) ?_ (.single ?_)⟩
  · exact ⟨by decide +kernel, 0, by decide +kernel, by decide +kernel⟩
  · exact ⟨by decide +kernel, 0, by decide +kernel, by decide +kernel⟩

/-- With the list before the field the cycle is overlooked: `B` is met first as its element. -/
theorem not_refuses_pair : ∃ r : Resolution, ∃ roots,
    r.Reached [pairUnit [pairListField, pairField]] ∧ r.registry.order = r.declared ∧
    r.registry.order.mapM r.registry.get? = some roots ∧ r.arena.InfiniteFrom roots ∧
    (r.schema none false).isOk = true ∧ ¬r.Refuses none := by
  have hok : ((pairResolution [pairListField, pairField]).schema none false).isOk = true := by
    decide +kernel
  refine ⟨pairResolution [pairListField, pairField], [0, 1], reached_pairResolution,
    by decide +kernel, by decide +kernel,
    ⟨0, List.mem_cons_self, 0, .refl, .head (b := 1) ?_ (.single ?_)⟩, hok, ?_⟩
  · decide +kernel
  · decide +kernel
  · obtain ⟨s, hs⟩ := Outcome.exists_eq_ok hok
    exact not_refuses_of_eq_ok hs

end Resolution

end SszSchema
