import SszSchema.Proofs.Registry

/-!
# Resolution without history

Registered, open and failed records are remembered between calls, and later calls rely on them. None
of this shows in what a call returns. A record resolves just if it and all records that it leads to
are acceptable, which is said of declarations alone, and the node that is returned unfolds to a tree
that is read off the declarations as well (`SszType.unfold`). So both are the same in all states
that calls lead to (`Resolution.resolve_history_free`).

Trees of recursive records do not end. They are compared cut at each depth.
-/

namespace SszSchema

open Relation

/-- A tree of types with all that their nodes say, cut at some depth. -/
inductive TypeTree where
  | cut
  | node (kind : NodeKind) (width length limit : Option Nat) (packed : Bool)
      (record : Option String) (element : Option TypeTree) (fields : List (String × TypeTree))

/-- The tree of a node up to a depth. -/
def Arena.unfold (a : Arena) : Nat → NodeId → TypeTree
  | 0, _ => .cut
  | depth + 1, id =>
      match a.get? id with
      | none => .cut
      | some n => .node n.kind n.width n.length n.limit n.packed n.record
          (n.element.map (a.unfold depth)) (n.fields.map fun f => (f.name, a.unfold depth f.node))

/-- The tree of a type up to a depth, with the declared fields of records. -/
def SszType.unfold (units : List SourceUnit) : Nat → SszType → TypeTree
  | 0, _ => .cut
  | _ + 1, .uint width => .node .uint (some width) none none false none none []
  | _ + 1, .bool => .node .bool (some 1) none none false none none []
  | _ + 1, .fixedBytes length => .node .bytes none (some length) none false none none []
  | _ + 1, .boundedBytes limit => .node .bytes none none (some limit) false none none []
  | _ + 1, .bitVector length => .node .bitVector none (some length) none false none none []
  | _ + 1, .packedBits limit => .node .bitList none none limit true none none []
  | _ + 1, .bitList limit => .node .bitList none none limit false none none []
  | depth + 1, .vector length element =>
      .node .vector none (some length) none false none (some (element.unfold units depth)) []
  | depth + 1, .list limit element =>
      .node .list none none (some limit) false none (some (element.unfold units depth)) []
  | depth + 1, .record name =>
      .node .container none none none false (some name) none
        (((declared? units name).elim [] (·.fields)).map fun f =>
          (f.name, f.type?.elim .cut fun t => t.unfold units depth))

/-- A typed node unfolds to the tree of its type if records have their declared fields. -/
theorem TypeOf.unfold_eq {units : List SourceUnit} {a : Arena} {entries : List (String × NodeId)}
    (hall : ∀ e ∈ entries, a.Matches units entries e) (hplain : ∀ n ∈ a.nodes, n.Plain)
    {depth : Nat} {id : NodeId} {t : SszType} (h : TypeOf a entries id t) :
    a.unfold depth id = t.unfold units depth := by
  induction depth generalizing id t with
  | zero => simp only [Arena.unfold, SszType.unfold]
  | succ depth ih =>
    obtain ⟨n, hn⟩ := h.get?
    have hshape := hplain n (List.mem_of_getElem? hn)
    unfold Arena.unfold
    rw [hn]
    dsimp only
    cases h with
    | record hn' hk hr he =>
      obtain rfl := Option.some.inj (hn.symm.trans hn')
      obtain ⟨d, m, hd, hm, -, hrecord, hfields⟩ := hall _ he
      obtain rfl := Option.some.inj (hn.symm.trans hm)
      have htrees : n.fields.map (fun g => (g.name, a.unfold depth g.node)) =
          d.fields.map fun f => (f.name, f.type?.elim .cut fun t => t.unfold units depth) := by
        refine map_eq_map_of_forall₂ (hfields.flip.imp ?_)
        rintro g f ⟨hname, -, t, ht, htype⟩
        rw [hname, ht, ih htype, Option.elim_some]
      cases hshape <;> cases hk
      cases hr
      simp only [SszType.unfold, hd, Option.elim_some, Option.map_none]
      rw [← htrees]
    | vector hn' hk hl hpos he hlt helement =>
      obtain rfl := Option.some.inj (hn.symm.trans hn')
      cases hshape <;> cases hk
      cases hl
      cases he
      simp only [SszType.unfold, Option.map_some, List.map_nil, ih helement]
    | list hn' hk hm he hlt helement =>
      obtain rfl := Option.some.inj (hn.symm.trans hn')
      cases hshape <;> cases hk
      cases hm
      cases he
      simp only [SszType.unfold, Option.map_some, List.map_nil, ih helement]
    | _ =>
      obtain rfl := Option.some.inj (hn.symm.trans ‹a.get? id = some _›)
      cases hshape <;> simp_all [SszType.unfold]

namespace Resolution

variable {units : List SourceUnit} {r r' : Resolution} {name : String} {id id' : NodeId}

/-- If all numbers can be read, no record is open between calls. -/
theorem Reached.closed (hconv : Convertible units) (h : r.Reached units) :
    r.units = units ∧ r.pending = [] := by
  induction h with
  | start h =>
    obtain rfl := eq_of_ofUnits h
    exact ⟨rfl, rfl⟩
  | @step r h name ih =>
    obtain ⟨hunits, hclosed⟩ := ih
    have hends := (resolve_concludes h.sound name).2 hclosed
    rcases hrun : r.run (resolve name) with ⟨failure | id, r'⟩ <;> rw [hrun] at hends
    · obtain ⟨-, -, hunits', hcause, hsettled⟩ := hends
      refine ⟨hunits'.trans hunits, ?_⟩
      cases failure with
      | reported d => exact hsettled.mpr ⟨d, rfl⟩
      | digitLimit => exact absurd (hunits ▸ hconv) hcause.1
      | _ => exact hcause.elim
    · obtain ⟨hclosed', -, -, -, hunits', -⟩ := hends
      exact ⟨hunits'.trans hunits, hclosed'⟩

/-- A record that resolves is registered and not doomed; a doomed one is reported. -/
theorem Reached.resolve_cases (hconv : Convertible units) (h : r.Reached units) (name : String) :
    (¬Doomed units name ∧ ∃ id, (r.run (resolve name)).1 = .ok id ∧
      (name, id) ∈ (r.run (resolve name)).2.registry.entries) ∨
    (Doomed units name ∧ ∃ d, (r.run (resolve name)).1 = .error (.reported d)) := by
  obtain ⟨hunits, hclosed⟩ := h.closed hconv
  obtain ⟨hsound, hends⟩ := resolve_concludes h.sound name
  have hends := hends hclosed
  rcases hrun : r.run (resolve name) with ⟨failure | id, r'⟩ <;> rw [hrun] at hends hsound
  · obtain ⟨-, -, -, hcause, -⟩ := hends
    rw [hunits] at hcause
    cases failure with
    | reported d => exact .inr ⟨hcause, d, rfl⟩
    | digitLimit => exact absurd hconv hcause.1
    | _ => exact hcause.elim
  · obtain ⟨-, -, -, -, hunits', hid⟩ := hends
    refine .inl ⟨?_, id, rfl, hid⟩
    rw [← hunits, ← hunits']
    exact hsound.not_doomed (List.mem_map.mpr ⟨_, hid, rfl⟩)

/-- The node that is returned unfolds to the declared tree. -/
theorem Reached.unfold_eq (hconv : Convertible units) (h : r.Reached units)
    (hrun : (r.run (resolve name)).1 = .ok id) (depth : Nat) :
    (r.run (resolve name)).2.arena.unfold depth id = (SszType.record name).unfold units depth := by
  have hstep : (r.run (resolve name)).2.Reached units := .step h name
  obtain ⟨hunits, -⟩ := hstep.closed hconv
  have hsound := hstep.sound
  obtain ⟨-, root, hroot, hid⟩ | ⟨-, d, hd⟩ := h.resolve_cases hconv name
  · obtain rfl := Except.ok.inj (hrun.symm.trans hroot)
    rw [← hunits]
    exact (hsound.typeOf_registered hid).unfold_eq hsound.complete hsound.plain
  · rw [hrun] at hd
    cases hd

/-- Resolving a record succeeds just if it leads to acceptable records only, and then gives the same
tree in all states. -/
theorem resolve_history_free (hconv : Convertible units) (h : r.Reached units)
    (h' : r'.Reached units) (name : String) :
    ((∃ id, (r.run (resolve name)).1 = .ok id) ↔
      ∀ x, ReflTransGen (Mentions units) name x → Acceptable units x) ∧
    ∀ id id', (r.run (resolve name)).1 = .ok id → (r'.run (resolve name)).1 = .ok id' → ∀ depth,
      (r.run (resolve name)).2.arena.unfold depth id =
        (r'.run (resolve name)).2.arena.unfold depth id' := by
  constructor
  · rw [← not_doomed_iff]
    obtain ⟨hsafe, id, hid, -⟩ | ⟨hdoomed, d, hd⟩ := h.resolve_cases hconv name
    · exact iff_of_true ⟨id, hid⟩ hsafe
    · refine iff_of_false (fun ⟨id, hid⟩ => ?_) (not_not_intro hdoomed)
      rw [hd] at hid
      cases hid
  · intro id id' hid hid' depth
    exact (h.unfold_eq hconv hid depth).trans (h'.unfold_eq hconv hid' depth).symm

/-- A record that is resolved anew after the failure of another one gets a node elsewhere, and the
same tree. -/
theorem history_free_torn :
    (∀ x, ReflTransGen (Mentions [tornUnit]) "A" x → Acceptable [tornUnit] x) ∧
    (tornResolution.run (resolve "A")).1 = .ok 3 ∧
    (Resolution.run { units := [tornUnit] } (resolve "A")).1 = .ok 0 ∧
    ∀ depth, (tornResolution.run (resolve "A")).2.arena.unfold depth 3 =
      (Resolution.run { units := [tornUnit] } (resolve "A")).2.arena.unfold depth 0 := by
  have hstart : Reached [tornUnit] { units := [tornUnit] } := .start (ofUnits_eq_ok rfl)
  have htorn : tornResolution.Reached [tornUnit] := .step (.step hstart "C") "A"
  have hconv : Convertible [tornUnit] := by decide +kernel
  obtain ⟨hiff, htree⟩ := resolve_history_free hconv htorn hstart "A"
  have hid : (tornResolution.run (resolve "A")).1 = .ok 3 := by decide +kernel
  have hid' : (Resolution.run { units := [tornUnit] } (resolve "A")).1 = .ok 0 := by decide +kernel
  exact ⟨hiff.mp ⟨3, hid⟩, hid, hid', htree 3 0 hid hid'⟩

end Resolution

end SszSchema
