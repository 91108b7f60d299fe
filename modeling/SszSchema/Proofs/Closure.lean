import SszSchema.Proofs.Maintaining
import SszSchema.Proofs.Registry

/-!
# Records that targets lead to

Resolving a record opens the records that its fields mention, those that their fields mention, and
so on, but no others (`Resolution.resolveWith_confines`). Together with the closedness of the
registry this tells which records are registered once some targets have been tried: those that the
sound targets lead to, no matter which targets failed on the way and in what order they were taken
(`Resolution.Sound.attempts_settle`).
-/

namespace SszSchema

open Relation

namespace Resolution

variable {α β : Type} {units : List SourceUnit} {P : String → Prop} {r r' : Resolution}

/-- All records that have nodes have some property. -/
def Confined (units : List SourceUnit) (P : String → Prop) (r : Resolution) : Prop :=
  r.units = units ∧ ∀ e ∈ r.known, P e.1

/-- A step gives nodes only to records with some property, also if it fails. -/
abbrev Confines (units : List SourceUnit) (P : String → Prop) (m : Step α) : Prop :=
  Maintains (Confined units P) (fun _ => True) m

theorem reserve_confines {name : String} (h : P name) : Confines units P (reserve name) := by
  refine ⟨fun r hr => ?_⟩
  rw [reserve_eq]
  refine ⟨hr.1, fun e he => ?_⟩
  rw [known, reserved, ← List.append_assoc] at he
  rcases List.mem_append.mp he with he | he
  · exact hr.2 e he
  · obtain rfl := List.mem_singleton.mp he
    exact h

/-- Registering makes no new names. -/
theorem entries_of_put {registry registry' : Registry} {pending : List (String × NodeId)}
    (h : pending.foldlM (fun registry (name, id) => registry.put name id) registry =
      .ok registry') : registry'.entries ⊆ registry.entries ++ pending := by
  induction pending generalizing registry with
  | nil =>
    rw [List.foldlM_nil] at h
    obtain rfl := Outcome.pure_eq_ok.mp h
    simp
  | cons e pending ih =>
    rw [List.foldlM_cons] at h
    obtain ⟨next, hput, h⟩ := Outcome.bind_eq_ok.mp h
    have hnext : next.entries = registry.entries ++ [e] := by
      obtain ⟨name, id⟩ := e
      change registry.put name id = _ at hput
      unfold Registry.put at hput
      split at hput
      · cases hput
      · exact (congrArg Registry.entries (Except.ok.inj hput)).symm
    have hsub := ih h
    rwa [hnext, List.append_assoc] at hsub

theorem commit_confines : Confines units P commit := by
  refine commit_maintains (fun r registry hr hput => ?_) fun _ => trivial
  refine ⟨hr.1, fun e he => hr.2 e (entries_of_put hput ?_)⟩
  simpa [known] using he

theorem abandon_confines (name : String) (d : Diagnostic) :
    Confines units P (abandon name d) := by
  refine ⟨Triple.update fun r hr => ⟨hr.1, fun e he => hr.2 e ?_⟩⟩
  rw [known, List.append_nil] at he
  exact List.mem_append_left _ he

/-- Resolving a record opens only records that it leads to. -/
theorem resolveWith_confines (hP : ∀ x y, P x → Mentions units x y → P y) (fuel : Nat)
    {name : String} (hname : P name) : Confines units P (resolveWith fuel name) := by
  have hlookUp {name : String} {fresh : RecordDecl → Step NodeId}
      (h : ∀ d, declared? units name = some d → Confines units P (fresh d)) :
      Confines units P (lookUp name fresh) :=
    lookUp_maintains (fun _ hr => hr.1) (fun _ _ _ _ _ => trivial) (fun _ => trivial) h
  induction fuel generalizing name with
  | zero => exact hlookUp fun _ _ => .throw trivial
  | succ fuel ih =>
    refine hlookUp fun d hd => ?_
    obtain rfl := (declared?_eq_some hd).1
    -- A field opens what it mentions.
    have hfields (f : FieldDecl) (hf : f ∈ d.fields) :
        Confines units P (field (resolveWith fuel) d f) :=
      field_maintains (E := fun _ => True) (fun _ _ hr => hr) (fun _ _ => trivial)
        (fun _ _ => trivial) fun y hy => ih (hP _ _ hname ⟨d, hd, f, hf, hy⟩)
    exact expand_maintains (reserve_confines hname) hfields (fun _ _ => id)
      (fun e _ => abandon_confines _ e) (fill_maintains (fun _ _ hr => hr) (fun _ => trivial) _)
      commit_confines

theorem resolve_confines (hP : ∀ x y, P x → Mentions units x y → P y) {name : String}
    (hname : P name) : Confines units P (resolve name) :=
  .get_bind fun r => resolveWith_confines hP (r.declarations.length + 1) hname

/-! ## Targets -/

/-- What is registered already leads to nothing that is not. -/
theorem Sound.mem_of_reaches (hr : r.Sound) {x y : String} (hx : x ∈ r.registry.order)
    (h : ReflTransGen (Mentions r.units) x y) : y ∈ r.registry.order := by
  induction h with
  | refl => exact hx
  | tail _ hyz ih => exact (hr.acceptable ih).2 _ hyz

/-- A record that resolves is registered with all that it leads to and nothing else. One that does
not is doomed, and the registry stays as it is. -/
theorem Sound.resolve_registers (hr : r.Sound) (hclosed : r.pending = []) {name : String}
    (h : Fails Failure.IsReported (r.run (resolve name)).1) :
    ((r.run (resolve name)).1.isOk = true ↔ ¬Doomed r.units name) ∧
      ∀ x, x ∈ (r.run (resolve name)).2.registry.order ↔ x ∈ r.registry.order ∨
        ¬Doomed r.units name ∧ ReflTransGen (Mentions r.units) name x := by
  obtain ⟨hsound, hends⟩ := resolve_concludes hr name
  have hends := hends hclosed
  have hconfined : Confined r.units
      (fun x => x ∈ r.registry.order ∨ ReflTransGen (Mentions r.units) name x)
      (r.run (resolve name)).2 := by
    have hstart : Confined r.units
        (fun x => x ∈ r.registry.order ∨ ReflTransGen (Mentions r.units) name x) r := by
      refine ⟨rfl, fun e he => .inl ?_⟩
      rw [known, hclosed, List.append_nil] at he
      exact List.mem_map_of_mem he
    have hresolve := resolve_confines (P := fun x => x ∈ r.registry.order ∨
        ReflTransGen (Mentions r.units) name x)
      (fun x y hx hxy => hx.imp (fun hx => (hr.acceptable hx).2 y hxy) (·.tail hxy)) (.inr .refl)
    exact hresolve.keeps hstart
  rcases hrun : r.run (resolve name) with ⟨failure | id, r'⟩ <;>
    rw [hrun] at h hends hsound hconfined
  · obtain ⟨-, hregistry, -, hcause, -⟩ := hends
    cases failure with
    | reported d =>
      refine ⟨iff_of_false Bool.false_ne_true (not_not_intro hcause), fun x => ?_⟩
      rw [hregistry]
      exact ⟨.inl, fun hx => hx.resolve_right fun hx => hx.1 hcause⟩
    | _ => exact (h _ rfl).elim
  · obtain ⟨hpending, -, hentries, -, hunits, hid⟩ := hends
    have hname : name ∈ r'.registry.order := List.mem_map.mpr ⟨_, hid, rfl⟩
    have hsafe : ¬Doomed r.units name := hunits ▸ hsound.not_doomed hname
    refine ⟨iff_of_true rfl hsafe, fun x => ⟨fun hx => ?_, fun hx => ?_⟩⟩
    · obtain ⟨e, he, rfl⟩ := List.mem_map.mp hx
      exact (hconfined.2 e (List.mem_append_left _ he)).imp_right (⟨hsafe, ·⟩)
    · rcases hx with hx | ⟨-, hreach⟩
      · obtain ⟨e, he, rfl⟩ := List.mem_map.mp hx
        exact List.mem_map_of_mem (hentries.subset he)
      · exact hsound.mem_of_reaches hname (hunits ▸ hreach)

end Resolution

/-- Attempts are settled one after the other: none of them ends the run. -/
theorem Attempt.settle_cons {failFast : Bool} {first : Attempt} {rest : List Attempt}
    {settled : List String × List Diagnostic}
    (h : Attempt.settle failFast (first :: rest) = .ok settled) :
    (Fails Failure.IsReported first.result ∧ first.ends failFast = false) ∧
      ∃ more, Attempt.settle failFast rest = .ok more := by
  unfold settle at h
  split at h
  · case h_1 id hid =>
    obtain ⟨more, hmore, -⟩ := Outcome.map_eq_ok.mp h
    rw [hid, ends, hid]
    exact ⟨⟨.ok id, rfl⟩, more, hmore⟩
  · case h_2 d hd =>
    cases failFast with
    | true => cases h
    | false =>
      obtain ⟨more, hmore, -⟩ := Outcome.map_eq_ok.mp h
      rw [hd, ends, hd]
      exact ⟨⟨.error trivial, rfl⟩, more, hmore⟩
  · cases h

namespace Resolution

variable {r : Resolution}

/-- Once targets have been tried, the records are registered that sound targets lead to. If the
first failure would have ended the run, all targets are sound. -/
theorem Sound.attempts_settle (hr : r.Sound) (hclosed : r.pending = []) {failFast : Bool}
    {names : List String} {settled : List String × List Diagnostic}
    (h : Attempt.settle failFast (r.attempts failFast names).1 = .ok settled) :
    r.Continues (r.attempts failFast names).2 ∧
      (∀ x, x ∈ (r.attempts failFast names).2.registry.order ↔ x ∈ r.registry.order ∨
        ∃ t ∈ names, ¬Doomed r.units t ∧ ReflTransGen (Mentions r.units) t x) ∧
      (failFast = true → ∀ t ∈ names, ¬Doomed r.units t) := by
  induction names generalizing r settled with
  | nil => exact ⟨.refl hr hclosed, by simp [attempts], by simp⟩
  | cons name names ih =>
    unfold attempts at h ⊢
    dsimp only at h ⊢
    split at h
    · case isTrue hend =>
      obtain ⟨⟨-, hnot⟩, -⟩ := Attempt.settle_cons h
      rw [hnot] at hend
      cases hend
    · case isFalse hgoes =>
      rw [if_neg hgoes]
      dsimp only at h ⊢
      obtain ⟨⟨hreported, hstays⟩, rest, hrest⟩ := Attempt.settle_cons h
      dsimp only at hreported
      have hcontinues := resolve_continues hr hclosed hreported
      obtain ⟨hok, hregistered⟩ := hr.resolve_registers hclosed hreported
      obtain ⟨hcont, hclosure, hsafe⟩ := ih hcontinues.sound hcontinues.closed hrest
      rw [hcontinues.units] at hclosure hsafe
      refine ⟨hcontinues.trans hcont, fun x => ?_, fun hfast => ?_⟩
      · rw [hclosure, hregistered, List.exists_mem_cons_iff, or_assoc]
      · refine List.forall_mem_cons.mpr ⟨hok.mp ?_, hsafe hfast⟩
        -- A failure would have ended the run.
        rcases hrun : (r.run (resolve name)).1 with failure | id
        · rw [hrun] at hreported hstays
          cases failure with
          | reported d => rw [hfast] at hstays; cases hstays
          | _ => exact (hreported _ rfl).elim
        · rfl

end Resolution

end SszSchema
