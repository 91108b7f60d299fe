import SszSchema.Proofs.Resolving
import SszSchema.Proofs.Stretches

/-!
# The registry between calls

Callers resolve records one after the other, or several at once, and go on after a diagnostic
(`Resolution.Called`). Between calls no record is open, and the registry is consistent
(`Resolution.Tidy`): each registered record has one filled node, which all that refer to the record
share, and none of them has failed. Later calls only add to the graph and to the registry
(`Resolution.Continues`), so what has been registered stays as it is, whether they succeed or not
(`Resolution.tidy_of_called`).
-/

namespace SszSchema

open Relation

/-! ## Below a typed node -/

section

variable {a b : Arena} {entries : List (String × NodeId)} {id x y : NodeId} {t : SszType} {n : Node}

/-- A typed container is the node of its record. -/
theorem TypeOf.mem_of_container (h : TypeOf a entries id t) (hn : a.get? id = some n)
    (hk : n.kind = .container) : ∃ record, n.record = some record ∧ (record, id) ∈ entries := by
  cases h with
  | record hn' _ hr he =>
    obtain rfl := Option.some.inj (hn.symm.trans hn')
    exact ⟨_, hr, he⟩
  | _ =>
    obtain rfl := Option.some.inj (hn.symm.trans ‹a.get? id = some _›)
    simp [*] at hk

/-- The innermost record of a type has a node. -/
theorem TypeOf.mem_of_innermost {name : String} (h : TypeOf a entries id t)
    (ht : t.innermost = some name) : ∃ root, (name, root) ∈ entries := by
  induction h with
  | record _ _ _ he =>
    cases ht
    exact ⟨_, he⟩
  | vector _ _ _ _ _ _ _ ih => exact ih ht
  | list _ _ _ _ _ _ ih => exact ih ht
  | _ => cases ht

/-- What typed nodes refer to is typed if records have typed fields. -/
theorem TypeOf.of_refers (hall : ∀ e ∈ entries, a.Holds entries e) (h : TypeOf a entries x t)
    (hxy : a.Refers x y) : ∃ u, TypeOf a entries y u := by
  obtain ⟨n, hn, hpart | hlisted⟩ := hxy
  · obtain ⟨_, u, -, hu⟩ | ⟨name, -, he, f, hf, rfl⟩ := h.of_mem_parts hn hpart
    · exact ⟨u, hu⟩
    · obtain ⟨n', hn', -, -, htyped⟩ := hall _ he
      obtain rfl := Option.some.inj (hn.symm.trans hn')
      exact htyped f hf
  · obtain ⟨_, u, -, hu⟩ := h.of_mem_listed hn hlisted
    exact ⟨u, hu⟩

theorem TypeOf.of_reaches (hall : ∀ e ∈ entries, a.Holds entries e) (h : TypeOf a entries x t)
    (hreach : ReflTransGen a.Refers x y) : ∃ u, TypeOf a entries y u := by
  induction hreach with
  | refl => exact ⟨t, h⟩
  | tail _ hyz ih =>
    obtain ⟨u, hu⟩ := ih
    exact hu.of_refers hall hyz

/-- Below a typed node, a graph that grows stays as it is. -/
theorem TypeOf.reaches_iff_of_nodes (hall : ∀ e ∈ entries, a.Holds entries e)
    (h : TypeOf a entries x t) (hab : a.nodes <+: b.nodes) :
    ReflTransGen b.Refers x y ↔ ReflTransGen a.Refers x y := by
  constructor
  · intro hreach
    induction hreach with
    | refl => exact .refl
    | tail _ hyz ih =>
      obtain ⟨u, hu⟩ := h.of_reaches hall ih
      obtain ⟨n, hn⟩ := hu.get?
      obtain ⟨n', hn', hrefs⟩ := hyz
      obtain rfl := Option.some.inj ((Arena.get?_of_nodes hab hn).symm.trans hn')
      exact ih.tail ⟨n, hn, hrefs⟩
  · refine ReflTransGen.mono (fun y z hyz => ?_) x y
    obtain ⟨n, hn, hrefs⟩ := hyz
    exact ⟨n, Arena.get?_of_nodes hab hn, hrefs⟩

end

/-- A diagnostic for the caller, after which a resolution can go on. -/
def Failure.IsReported : Failure → Prop
  | .reported _ => True
  | _ => False

instance Failure.decidableIsReported : DecidablePred Failure.IsReported
  | .reported _ => .isTrue trivial
  | .digitLimit | .graph _ | .unnamed _ _ | .syntaxError _ | .file _ | .noTable => .isFalse id

namespace Resolution

variable {units : List SourceUnit} {r r' r'' r₀ : Resolution} {name x y : String} {id : NodeId}

/-! ## Registered records -/

/-- A registered record is acceptable, and the records that it mentions are registered. -/
theorem Sound.acceptable (hr : r.Sound) (hx : x ∈ r.registry.order) :
    Acceptable r.units x ∧ ∀ y, Mentions r.units x y → y ∈ r.registry.order := by
  obtain ⟨e, he, rfl⟩ := List.mem_map.mp hx
  obtain ⟨d, n, hd, -, -, -, hfields⟩ := hr.complete e he
  have hfield (f : FieldDecl) (hf : f ∈ d.fields) : f.type?.isSome ∧
      ∀ y ∈ f.shape.record?, y ∈ r.registry.order := by
    obtain ⟨g, -, -, -, t, ht, htype⟩ := exists_of_forall₂ hfields hf
    refine ⟨by simp [ht], fun y hy => ?_⟩
    obtain ⟨id, hid⟩ := htype.mem_of_innermost ((FieldDecl.innermost_type? ht).trans hy)
    exact List.mem_map.mpr ⟨_, hid, rfl⟩
  refine ⟨⟨d, hd, fun f hf => ⟨(hfield f hf).1, fun y hy => ?_⟩⟩, ?_⟩
  · obtain ⟨e', he', rfl⟩ := List.mem_map.mp ((hfield f hf).2 y hy)
    obtain ⟨d', -, hd', -⟩ := hr.complete e' he'
    simp [hd']
  · rintro y ⟨d', hd', f, hf, hy⟩
    obtain rfl := Option.some.inj (hd.symm.trans hd')
    exact (hfield f hf).2 y hy

/-- No registered record is doomed. -/
theorem Sound.not_doomed (hr : r.Sound) (hx : x ∈ r.registry.order) : ¬Doomed r.units x := by
  refine not_doomed_iff.mpr fun y hreach => ?_
  have hy : y ∈ r.registry.order := by
    induction hreach with
    | refl => exact hx
    | tail _ hyz ih => exact (hr.acceptable ih).2 _ hyz
  exact (hr.acceptable hy).1

/-! ## Calls -/

/-- A call that returns or ends in a diagnostic. -/
inductive Called : Resolution → Resolution → Prop
  | resolve {r : Resolution} (name : String)
      (h : Fails Failure.IsReported (r.run (resolve name)).1) : Called r (r.run (resolve name)).2
  | resolveAll {r : Resolution} (names : Option (List String))
      (h : Fails Failure.IsReported (r.run (resolveAll names)).1) :
      Called r (r.run (resolveAll names)).2

/-- What a call leaves: nodes and registered records are only added. -/
structure Continues (r r' : Resolution) : Prop where
  sound : r'.Sound
  closed : r'.pending = []
  nodes : r.arena.nodes <+: r'.arena.nodes
  entries : r.registry.entries <+: r'.registry.entries
  units : r'.units = r.units

namespace Continues

theorem refl (hr : r.Sound) (hclosed : r.pending = []) : r.Continues r :=
  ⟨hr, hclosed, List.prefix_refl _, List.prefix_refl _, rfl⟩

theorem trans (h : r.Continues r') (h' : r'.Continues r'') : r.Continues r'' :=
  ⟨h'.sound, h'.closed, h.nodes.trans h'.nodes, h.entries.trans h'.entries,
    h'.units.trans h.units⟩

end Continues

theorem resolve_continues (hr : r.Sound) (hclosed : r.pending = [])
    (h : Fails Failure.IsReported (r.run (resolve name)).1) :
    r.Continues (r.run (resolve name)).2 := by
  obtain ⟨hsound, hends⟩ := resolve_concludes hr name
  have hends := hends hclosed
  rcases hrun : r.run (resolve name) with ⟨failure | id, r'⟩ <;> rw [hrun] at h hends hsound
  · obtain ⟨hnodes, hregistry, hunits, -, hsettled⟩ := hends
    cases failure with
    | reported d =>
      have hentries : r.registry.entries <+: r'.registry.entries :=
        hregistry ▸ List.prefix_refl _
      exact ⟨hsound, hsettled.mpr ⟨d, rfl⟩, hnodes, hentries, hunits⟩
    | _ => exact (h _ rfl).elim
  · obtain ⟨hpending, hnodes, hentries, -, hunits, -⟩ := hends
    exact ⟨hsound, hpending, hnodes, hentries, hunits⟩

/-- Records resolved one after the other, up to the first that fails. -/
theorem mapM_resolve_continues {names : List String} (hr : r.Sound) (hclosed : r.pending = [])
    (h : Fails Failure.IsReported (names.mapM resolve r).1) :
    r.Continues (names.mapM resolve r).2 := by
  induction names generalizing r with
  | nil => exact .refl hr hclosed
  | cons name names ih =>
    rw [List.mapM_cons, Stateful.run_bind] at h ⊢
    have hfirst := @resolve_continues r name hr hclosed
    rw [run] at hfirst
    rcases hrun : resolve name r with ⟨failure | id, r'⟩ <;> rw [hrun] at h hfirst <;>
      dsimp only at h hfirst ⊢
    · exact hfirst (.error (h failure rfl))
    · have hfirst := hfirst (.ok id)
      have hrest := @ih r' hfirst.sound hfirst.closed
      rw [Stateful.run_bind] at h ⊢
      rcases hrun : names.mapM resolve r' with ⟨failure | ids, r''⟩ <;> rw [hrun] at h hrest <;>
        dsimp only at h hrest ⊢
      · exact hfirst.trans (hrest h)
      · exact hfirst.trans (hrest (.ok ids))

theorem Called.continues (h : Called r r') (hr : r.Sound) (hclosed : r.pending = []) :
    r.Continues r' := by
  cases h with
  | resolve name h => exact resolve_continues hr hclosed h
  | resolveAll names h => exact mapM_resolve_continues hr hclosed h

theorem continues_of_calls (h : ReflTransGen Called r r') (hr : r.Sound)
    (hclosed : r.pending = []) : r.Continues r' := by
  induction h with
  | refl => exact .refl hr hclosed
  | tail _ hcall ih => exact ih.trans (hcall.continues ih.sound ih.closed)

/-- From the start on, calls keep the resolution of some units going. -/
theorem continues_of_ofUnits (h₀ : Resolution.ofUnits units = .ok r₀)
    (h : ReflTransGen Called r₀ r) : Continues { units } r := by
  have hsound : r₀.Sound := .ofUnits h₀
  obtain rfl := eq_of_ofUnits h₀
  exact continues_of_calls h hsound rfl

/-! ## Between calls -/

/-- What holds between calls. No record is open. The order lists the registered records, each once,
and each has a filled node with the declared fields. Every container that such a node reaches is the
registered node of its record. No registered record has failed. -/
structure Tidy (units : List SourceUnit) (r : Resolution) : Prop where
  closed : r.pending = []
  nodup : r.registry.order.Nodup
  order : ∀ name, name ∈ r.registry.order ↔ r.registry.contains name = true
  filled : ∀ name id, r.registry.get? name = some id →
    ∃ d n, declared? units name = some d ∧ r.arena.get? id = some n ∧ n.kind = .container ∧
      n.record = some name ∧ n.fields.map (·.name) = d.fields.map (·.name)
  shared : ∀ name id, r.registry.get? name = some id → ∀ x, ReflTransGen r.arena.Refers id x →
    ∃ n, r.arena.get? x = some n ∧ (n.kind = .container →
      ∃ record, n.record = some record ∧ r.registry.get? record = some x)
  apart : ∀ e ∈ r.failed, r.registry.contains e.1 = false

theorem Sound.get?_eq_some_iff (hr : r.Sound) :
    r.registry.get? name = some id ↔ (name, id) ∈ r.registry.entries :=
  Registry.get?_eq_some_iff (registered_nodup hr)

theorem Sound.typeOf_registered (hr : r.Sound) (h : (name, id) ∈ r.registry.entries) :
    TypeOf r.arena r.registry.entries id (.record name) := by
  obtain ⟨n, hn, hk, hrecord, -⟩ := hr.registered _ h
  exact .record hn hk hrecord h

theorem Sound.tidy (hr : r.Sound) (hclosed : r.pending = []) : r.Tidy r.units where
  closed := hclosed
  nodup := registered_nodup hr
  order name := by
    have h := @Registry.contains_eq_false_iff r.registry name
    rw [Registry.order, ← not_iff_not, ← h, Bool.not_eq_true]
  filled name id hid := by
    obtain ⟨d, n, hd, hn, hk, hrecord, hfields⟩ := hr.complete _ (hr.get?_eq_some_iff.mp hid)
    have hnames : List.Forall₂ (fun g f => g.name = f.name) n.fields d.fields :=
      hfields.flip.imp fun _ _ h => h.1
    exact ⟨d, n, hd, hn, hk, hrecord, map_eq_map_of_forall₂ hnames⟩
  shared name id hid x hx := by
    have htype := hr.typeOf_registered (hr.get?_eq_some_iff.mp hid)
    obtain ⟨t, ht⟩ := htype.of_reaches hr.registered hx
    obtain ⟨n, hn⟩ := ht.get?
    refine ⟨n, hn, fun hk => ?_⟩
    obtain ⟨record, hrecord, he⟩ := ht.mem_of_container hn hk
    exact ⟨record, hrecord, hr.get?_eq_some_iff.mpr he⟩
  apart e he := by
    rw [Registry.contains_eq_false_iff]
    exact fun hmem => hr.not_doomed hmem (hr.doomed e he)

/-- Between calls the registry is consistent, and what has been registered stays, with all that it
reaches. -/
theorem tidy_of_called (h₀ : Resolution.ofUnits units = .ok r₀) (h : ReflTransGen Called r₀ r)
    (h' : ReflTransGen Called r r') :
    r.Tidy units ∧ ∀ name id, r.registry.get? name = some id →
      r'.registry.get? name = some id ∧ ∀ x,
        (ReflTransGen r'.arena.Refers id x ↔ ReflTransGen r.arena.Refers id x) ∧
          (ReflTransGen r.arena.Refers id x → r'.arena.get? x = r.arena.get? x) := by
  have hr := continues_of_ofUnits h₀ h
  have hr' := continues_of_calls h' hr.sound hr.closed
  have hunits : r.units = units := hr.units
  refine ⟨hunits ▸ hr.sound.tidy hr.closed, fun name id hid => ?_⟩
  have he := hr.sound.get?_eq_some_iff.mp hid
  have htype := hr.sound.typeOf_registered he
  refine ⟨hr'.sound.get?_eq_some_iff.mpr (hr'.entries.subset he), fun x => ⟨?_, fun hx => ?_⟩⟩
  · exact htype.reaches_iff_of_nodes hr.sound.registered hr'.nodes
  · obtain ⟨t, ht⟩ := htype.of_reaches hr.sound.registered hx
    obtain ⟨n, hn⟩ := ht.get?
    rw [hn, Arena.get?_of_nodes hr'.nodes hn]

/-! ### A record that fails among others -/

/-- A unit with a record that contains another one and a list of itself, and a record that also
contains the other one but has a field without a type. -/
def tornUnit : SourceUnit where
  path := ⟨"", ["types.py"]⟩
  moduleName := "types"
  inPackage := false
  records := [⟨"A", [⟨"b", .name "B", "B", "", 3⟩,
      ⟨"l", .apply "List" (.name "A"), "List[A]", "ssz-max:\"4\"", 4⟩], "types.py", 2⟩,
    ⟨"B", [⟨"n", .name "uint64", "uint64", "", 6⟩], "types.py", 5⟩,
    ⟨"C", [⟨"b", .name "B", "B", "", 8⟩, ⟨"x", .name "float", "float", "", 9⟩], "types.py", 7⟩]

/-- The resolution of its records after the last one has failed and the first has been resolved. -/
def tornResolution : Resolution :=
  ((Resolution.run { units := [tornUnit] } (resolve "C")).2.run (resolve "A")).2

theorem called_tornResolution : ReflTransGen Called { units := [tornUnit] } tornResolution := by
  have hfirst : Called { units := [tornUnit] }
      (Resolution.run { units := [tornUnit] } (resolve "C")).2 :=
    .resolve "C" (by decide +kernel)
  exact .tail (.single hfirst) (.resolve "A" (by decide +kernel))

/-- What the failed record has opened is given up, and the others are resolved anew. They stay when
the failed record stops another call. -/
theorem tidy_torn : tornResolution.Tidy [tornUnit] ∧ tornResolution.arena.size = 7 ∧
    tornResolution.registry.entries = [("A", 3), ("B", 4)] ∧
    tornResolution.failed.map (·.1) = ["C"] ∧
    (tornResolution.run (resolveAll none)).1.isOk = false ∧
    (tornResolution.run (resolveAll none)).2.arena.get? 3 = tornResolution.arena.get? 3 := by
  have hcalled : Called tornResolution (tornResolution.run (resolveAll none)).2 :=
    .resolveAll none (by decide +kernel)
  have hstart : Resolution.ofUnits [tornUnit] = .ok { units := [tornUnit] } := ofUnits_eq_ok rfl
  obtain ⟨htidy, hkept⟩ := tidy_of_called hstart called_tornResolution (.single hcalled)
  have hregistered : tornResolution.registry.get? "A" = some 3 := by decide +kernel
  obtain ⟨-, hnodes⟩ := hkept "A" 3 hregistered
  exact ⟨htidy, by decide +kernel, by decide +kernel, by decide +kernel, by decide +kernel,
    (hnodes 3).2 .refl⟩

end Resolution

end SszSchema
