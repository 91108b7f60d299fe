import Mathlib.Data.List.Nodup
import Mathlib.Data.List.Perm.Subperm
import Mathlib.Logic.Relation
import SszSchema.Proofs.Unfolding

/-!
# Stretches of a walk

A node contains the fields of a container and the element of a vector; it lists the element of a
list. A record that contains itself has no finite size (`Arena.Contains`).

`Arena.walk` goes through a graph depth first, parts in order, and notes where each node is met
first: outside all lists, or inside the list whose element it came through first. Nodes met without
a list between make up a stretch, named by its first node, its entry. `Arena.SameStretch` is
`Contains` between nodes of one stretch.
-/

namespace SszSchema

/-- The nodes that a value of a node holds each once: fields, or the element of a vector. -/
def Node.parts (n : Node) : List NodeId :=
  match n.kind with
  | .container => n.fields.map (·.node)
  | .vector => n.element.toList
  | _ => []

/-- The element of a list. -/
def Node.listed (n : Node) : List NodeId :=
  match n.kind with
  | .list | .bitList => n.element.toList
  | _ => []

namespace Node

variable {n : Node} {element : NodeId}

theorem parts_of_vector (hk : n.kind = .vector) (he : n.element = some element) :
    n.parts = [element] ∧ n.listed = [] := by
  simp [parts, listed, hk, he]

theorem parts_of_list (hk : n.kind = .list) (he : n.element = some element) :
    n.parts = [] ∧ n.listed = [element] := by
  simp [parts, listed, hk, he]

theorem parts_of_container (hk : n.kind = .container) :
    n.parts = n.fields.map (·.node) ∧ n.listed = [] := by
  simp [parts, listed, hk]

end Node

section

variable {a : Arena} {entries : List (String × NodeId)} {id child : NodeId} {t : SszType} {n : Node}

/-- Nodes without parts and elements are those of types without members. -/
theorem TypeOf.parts_of_isLeaf (hn : a.get? id = some n) (ht : TypeOf a entries id t)
    (hleaf : t.isLeaf = true) : n.parts = [] ∧ n.listed = [] := by
  cases ht with
  | vector => cases hleaf
  | list => cases hleaf
  | record => cases hleaf
  | _ =>
    obtain rfl := Option.some.inj (hn.symm.trans ‹a.get? id = some _›)
    simp [Node.parts, Node.listed, *]

/-- Vectors contain their elements, and containers their fields. -/
theorem TypeOf.of_mem_parts (hn : a.get? id = some n) (ht : TypeOf a entries id t)
    (h : child ∈ n.parts) :
    (∃ length element, t = .vector length element ∧ TypeOf a entries child element) ∨
      ∃ name, t = .record name ∧ (name, id) ∈ entries ∧ ∃ f ∈ n.fields, f.node = child := by
  cases hleaf : t.isLeaf with
  | true => simp [(ht.parts_of_isLeaf hn hleaf).1] at h
  | false =>
    cases ht with
    | vector hn' hk hl hpos he hlt ht =>
      obtain rfl := Option.some.inj (hn.symm.trans hn')
      rw [(Node.parts_of_vector hk he).1, List.mem_singleton] at h
      subst h
      exact .inl ⟨_, _, rfl, ht⟩
    | list hn' hk hm he =>
      obtain rfl := Option.some.inj (hn.symm.trans hn')
      simp [(Node.parts_of_list hk he).1] at h
    | record hn' hk hr he =>
      obtain rfl := Option.some.inj (hn.symm.trans hn')
      rw [(Node.parts_of_container hk).1, List.mem_map] at h
      exact .inr ⟨_, rfl, he, h⟩
    | _ => cases hleaf

/-- Only lists list anything. -/
theorem TypeOf.of_mem_listed (hn : a.get? id = some n) (ht : TypeOf a entries id t)
    (h : child ∈ n.listed) :
    ∃ limit element, t = .list limit element ∧ TypeOf a entries child element := by
  cases hleaf : t.isLeaf with
  | true => simp [(ht.parts_of_isLeaf hn hleaf).2] at h
  | false =>
    cases ht with
    | vector hn' hk hl hpos he =>
      obtain rfl := Option.some.inj (hn.symm.trans hn')
      simp [(Node.parts_of_vector hk he).2] at h
    | list hn' hk hm he hlt ht =>
      obtain rfl := Option.some.inj (hn.symm.trans hn')
      rw [(Node.parts_of_list hk he).2, List.mem_singleton] at h
      subst h
      exact ⟨_, _, rfl, ht⟩
    | record hn' hk =>
      obtain rfl := Option.some.inj (hn.symm.trans hn')
      simp [(Node.parts_of_container hk).2] at h
    | _ => cases hleaf

end

/-- The nodes met so far with the entries of their stretches, the last first. -/
abbrev Trail := List (NodeId × NodeId)

namespace Trail

/-- The nodes met so far. -/
def nodes (met : Trail) : List NodeId := met.map (·.1)

/-- Whether a node has been met. -/
def meets (met : Trail) (id : NodeId) : Bool := met.any (·.1 == id)

theorem meets_eq_true_iff {met : Trail} {id : NodeId} : met.meets id = true ↔ id ∈ met.nodes := by
  simp [meets, nodes]

theorem mem_nodes_of_mem {met : Trail} {e : NodeId × NodeId} (h : e ∈ met) : e.1 ∈ met.nodes :=
  List.mem_map.mpr ⟨e, h, rfl⟩

/-- A node met once has one entry. -/
theorem entry_unique {met : Trail} (h : met.nodes.Nodup) {id entry entry' : NodeId}
    (he : (id, entry) ∈ met) (he' : (id, entry') ∈ met) : entry = entry' :=
  congrArg Prod.snd (List.inj_on_of_nodup_map h he he' rfl)

end Trail

namespace Arena

variable {a : Arena} {met met' : Trail} {id entry x y : NodeId} {n : Node}

/-- A node contains another one. -/
def Contains (a : Arena) (x y : NodeId) : Prop := ∃ n, a.get? x = some n ∧ y ∈ n.parts

instance (a : Arena) (x y : NodeId) : Decidable (a.Contains x y) :=
  decidable_of_iff ((a.get? x).any fun n => n.parts.contains y)
    (by simp [Contains, Option.any_eq_true])

/-- A node contains or lists another one. -/
def Refers (a : Arena) (x y : NodeId) : Prop :=
  ∃ n, a.get? x = some n ∧ (y ∈ n.parts ∨ y ∈ n.listed)

/-- A node contains another one that is met first in the same stretch. -/
def SameStretch (a : Arena) (met : Trail) (x y : NodeId) : Prop :=
  a.Contains x y ∧ ∃ entry, (x, entry) ∈ met ∧ (y, entry) ∈ met

/-- Nodes of one stretch contain each other. -/
def HasLoop (a : Arena) (met : Trail) : Prop := ∃ id, Relation.TransGen (a.SameStretch met) id id

/-- Walks through the parts of a node, each element of a list in a new stretch. -/
def walkParts (walk : NodeId → Trail → NodeId → Trail) (entry : NodeId) (n : Node) (met : Trail) :
    Trail :=
  n.listed.foldl (fun met part => walk part met part)
    (n.parts.foldl (fun met part => walk entry met part) met)

/-- Walks from a node in a stretch; the fuel bounds how deep nodes are nested. -/
def walkWith (a : Arena) : Nat → NodeId → Trail → NodeId → Trail
  | 0, _, met, _ => met
  | fuel + 1, entry, met, id =>
      if met.meets id then met
      else
        match a.get? id with
        | none => met
        | some n => walkParts (walkWith a fuel) entry n ((id, entry) :: met)

/-- Goes on with walks from some nodes one after the other, each outside all lists. -/
def walkFrom (a : Arena) (met : Trail) (roots : List NodeId) : Trail :=
  roots.foldl (fun met root => a.walkWith (a.size + 1) root met root) met

/-- Walks from some nodes one after the other. -/
def walk (a : Arena) (roots : List NodeId) : Trail := a.walkFrom [] roots

/-! ## Trails grow -/

theorem suffix_foldl {f : Trail → NodeId → Trail} (hf : ∀ met id, met <:+ f met id)
    (ids : List NodeId) (met : Trail) : met <:+ ids.foldl f met := by
  induction ids generalizing met with
  | nil => exact List.suffix_refl met
  | cons id ids ih => exact (hf met id).trans (ih (f met id))

theorem suffix_walkParts {walk : NodeId → Trail → NodeId → Trail}
    (h : ∀ entry met id, met <:+ walk entry met id) (entry : NodeId) (n : Node) (met : Trail) :
    met <:+ walkParts walk entry n met :=
  (suffix_foldl (h entry) n.parts met).trans (suffix_foldl (fun met part => h part met part) _ _)

theorem suffix_walkWith (a : Arena) (fuel : Nat) (entry : NodeId) (met : Trail) (id : NodeId) :
    met <:+ a.walkWith fuel entry met id := by
  induction fuel generalizing entry met id with
  | zero => exact List.suffix_refl met
  | succ fuel ih =>
    unfold walkWith
    split
    · exact List.suffix_refl met
    · split
      · exact List.suffix_refl met
      · exact (List.suffix_cons _ met).trans (suffix_walkParts ih entry _ _)

theorem suffix_walkFrom (a : Arena) (met : Trail) (roots : List NodeId) :
    met <:+ a.walkFrom met roots :=
  suffix_foldl (fun met root => suffix_walkWith a _ root met root) roots met

theorem walkWith_of_mem {fuel : Nat} (h : id ∈ met.nodes) : a.walkWith fuel entry met id = met := by
  cases fuel with
  | zero => rfl
  | succ fuel => rw [walkWith, Trail.meets_eq_true_iff.mpr h, if_pos rfl]

theorem walkWith_of_fresh {fuel : Nat} (h : id ∉ met.nodes) (hn : a.get? id = some n) :
    a.walkWith (fuel + 1) entry met id =
      walkParts (a.walkWith fuel) entry n ((id, entry) :: met) := by
  rw [walkWith, if_neg (mt Trail.meets_eq_true_iff.mp h), hn]

/-! ## Loops -/

theorem SameStretch.mono (hsub : met ⊆ met') (h : a.SameStretch met x y) : a.SameStretch met' x y :=
  ⟨h.1, h.2.imp fun _ he => ⟨hsub he.1, hsub he.2⟩⟩

theorem HasLoop.mono (hsub : met ⊆ met') (h : a.HasLoop met) : a.HasLoop met' :=
  h.imp fun _ hid => Relation.TransGen.mono (fun _ _ => .mono hsub) _ _ hid

/-- A loop is a cycle of nodes that contain each other. -/
theorem SameStretch.contains (h : Relation.TransGen (a.SameStretch met) x y) :
    Relation.TransGen a.Contains x y :=
  Relation.TransGen.mono (fun _ _ => And.left) _ _ h

/-- In the order in which nodes are finished, the last first, a node stands before all that it
contains in its own stretch. -/
def Ordered (a : Arena) (met : Trail) : List NodeId → Prop
  | [] => True
  | id :: rest =>
      (∀ part, a.Contains id part → part ∈ rest ∨
        ∃ entry entry', (id, entry) ∈ met ∧ (part, entry') ∈ met ∧ entry ≠ entry') ∧
      Ordered a met rest

theorem Ordered.mono (hsub : met ⊆ met') {ids : List NodeId} (h : Ordered a met ids) :
    Ordered a met' ids := by
  induction ids with
  | nil => trivial
  | cons id ids ih =>
    refine ⟨fun part hpart => (h.1 part hpart).imp_right ?_, ih h.2⟩
    rintro ⟨entry, entry', he, he', hne⟩
    exact ⟨entry, entry', hsub he, hsub he', hne⟩

/-- Nodes of one stretch that a node contains are finished before it. -/
theorem Ordered.mem_of_sameStretch (hmet : met.nodes.Nodup) {id part : NodeId} {rest : List NodeId}
    (h : Ordered a met (id :: rest)) (hs : a.SameStretch met id part) : part ∈ rest := by
  refine (h.1 part hs.1).resolve_right ?_
  rintro ⟨e, e', he, he', hne⟩
  obtain ⟨entry, hid, hpart⟩ := hs.2
  have := Trail.entry_unique hmet he hid
  have := Trail.entry_unique hmet he' hpart
  exact hne (by rw [‹e = entry›, ‹e' = entry›])

theorem Ordered.closed (hmet : met.nodes.Nodup) {ids : List NodeId} (h : Ordered a met ids)
    (hx : x ∈ ids) (hs : a.SameStretch met x y) : y ∈ ids := by
  induction ids with
  | nil => cases hx
  | cons id ids ih =>
    rcases List.mem_cons.mp hx with rfl | hx
    · exact List.mem_cons_of_mem _ (h.mem_of_sameStretch hmet hs)
    · exact List.mem_cons_of_mem _ (ih h.2 hx)

theorem Ordered.closed_trans (hmet : met.nodes.Nodup) {ids : List NodeId} (h : Ordered a met ids)
    (hx : x ∈ ids) (hs : Relation.ReflTransGen (a.SameStretch met) x y) : y ∈ ids := by
  induction hs with
  | refl => exact hx
  | tail _ hs ih => exact h.closed hmet ih hs

/-- Nodes that are all finished form no loop. -/
theorem Ordered.not_transGen (hmet : met.nodes.Nodup) {ids : List NodeId} (h : Ordered a met ids)
    (hx : x ∈ ids) : ¬Relation.TransGen (a.SameStretch met) x x := by
  induction ids with
  | nil => cases hx
  | cons id ids ih =>
    intro hloop
    by_cases hrest : x ∈ ids
    · exact ih h.2 hrest hloop
    · obtain rfl := (List.mem_cons.mp hx).resolve_right hrest
      obtain ⟨y, hxy, hyx⟩ := Relation.TransGen.head'_iff.mp hloop
      exact hrest (h.2.closed_trans hmet (h.mem_of_sameStretch hmet hxy) hyx)

theorem Ordered.not_hasLoop (hmet : met.nodes.Nodup) {ids : List NodeId} (h : Ordered a met ids)
    (hall : met.nodes ⊆ ids) : ¬a.HasLoop met := by
  rintro ⟨id, hloop⟩
  obtain ⟨-, entry, hid, -⟩ := (Relation.TransGen.head'_iff.mp hloop).choose_spec.1
  exact h.not_transGen hmet (hall (Trail.mem_nodes_of_mem hid)) hloop

/-! ## Reachable nodes -/

theorem reaches_of_mem_foldl {f : Trail → NodeId → Trail} {R : NodeId → Prop}
    {ids : List NodeId} (hf : ∀ id ∈ ids, ∀ met x, x ∈ (f met id).nodes → x ∈ met.nodes ∨ R x)
    (hx : x ∈ (ids.foldl f met).nodes) : x ∈ met.nodes ∨ R x := by
  induction ids generalizing met with
  | nil => exact .inl hx
  | cons id ids ih =>
    obtain ⟨hid, hids⟩ := List.forall_mem_cons.mp hf
    rcases ih hids hx with hx | hx
    · exact hid met x hx
    · exact .inr hx

/-- A walk meets only nodes that its start refers to, however far. -/
theorem reaches_of_mem_walkWith {fuel : Nat} (hx : x ∈ (a.walkWith fuel entry met id).nodes) :
    x ∈ met.nodes ∨ Relation.ReflTransGen a.Refers id x := by
  induction fuel generalizing entry met id x with
  | zero => exact .inl hx
  | succ fuel ih =>
    unfold walkWith at hx
    split at hx
    · exact .inl hx
    · split at hx
      · exact .inl hx
      · case h_2 n hn =>
        have hstep {part : NodeId} (hpart : part ∈ n.parts ∨ part ∈ n.listed) {entry : NodeId}
            {met : Trail} {y : NodeId} (hy : y ∈ (a.walkWith fuel entry met part).nodes) :
            y ∈ met.nodes ∨ Relation.ReflTransGen a.Refers id y :=
          (ih hy).imp_right fun hreach => .head ⟨n, hn, hpart⟩ hreach
        rcases reaches_of_mem_foldl (fun part hpart met y hy => hstep (.inr hpart) hy) hx with
          hx | hx
        · rcases reaches_of_mem_foldl (fun part hpart met y hy => hstep (.inl hpart) hy) hx with
            hx | hx
          · rcases List.mem_cons.mp hx with rfl | hx
            · exact .inr .refl
            · exact .inl hx
          · exact .inr hx
        · exact .inr hx

theorem reaches_of_mem_walk {roots : List NodeId} (hx : x ∈ (a.walk roots).nodes) :
    ∃ root ∈ roots, Relation.ReflTransGen a.Refers root x := by
  have hfold : x ∈ Trail.nodes [] ∨ ∃ root ∈ roots, Relation.ReflTransGen a.Refers root x :=
    reaches_of_mem_foldl (R := fun x => ∃ root ∈ roots, Relation.ReflTransGen a.Refers root x)
      (fun root hroot met y hy => (reaches_of_mem_walkWith hy).imp_right fun h => ⟨root, hroot, h⟩)
      hx
  exact hfold.resolve_left List.not_mem_nil

/-- From some of the nodes a node can be reached that contains itself, by way of others or not. -/
def InfiniteFrom (a : Arena) (roots : List NodeId) : Prop :=
  ∃ root ∈ roots, ∃ id, Relation.ReflTransGen a.Refers root id ∧ Relation.TransGen a.Contains id id

theorem HasLoop.infiniteFrom {roots : List NodeId} (h : a.HasLoop (a.walk roots)) :
    a.InfiniteFrom roots := by
  obtain ⟨id, hloop⟩ := h
  obtain ⟨-, entry, hid, -⟩ := (Relation.TransGen.head'_iff.mp hloop).choose_spec.1
  obtain ⟨root, hroot, hreach⟩ := reaches_of_mem_walk (Trail.mem_nodes_of_mem hid)
  exact ⟨root, hroot, id, hreach, SameStretch.contains hloop⟩

end Arena

end SszSchema
