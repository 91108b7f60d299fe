import SszSchema.Proofs.Steps
import SszSchema.Run.Generate

/-!
# Runs as functions of their units

A run reads its units and tells events on the way. What it makes depends on the units alone
(`Product.ofUnits`), and `Run.buildWith` makes just that, or fails just like that
(`Run.buildWith_eq`). So a run is a function of the files, and leaves them as they are
(`Run.buildWith_eq_ofFiles`). The units that a run reads come from one place: they are the files of
one directory, or one file (`Run.load_siblings`).
-/

namespace SszSchema

/-- The resolution once all targets have been tried, and the diagnostics of those left out. -/
def Resolution.settled (r : Resolution) (targets : List String) (failFast : Bool) :
    Except Failure (Resolution × List Diagnostic) := do
  let (attempts, last) := r.attempts failFast (r.wanted targets)
  let (_, errors) ← Attempt.settle failFast attempts
  return (last, errors)

/-- What a run makes of the units that it has read. -/
def Product.ofUnits (accepts : String → Bool) (units : List SourceUnit) (q : Request) :
    Except Failure Product := do
  let r ← (Resolution.ofUnits units).mapError .reported
  let (last, unresolved) ← r.settled q.targets q.settings.failFast
  let (schema, infinite) ← last.schema none (!q.settings.failFast)
  let errors := unresolved ++ infinite
  if !errors.isEmpty && schema.order.isEmpty then .error (.reported (.batch errors))
  let outputs ← assemble accepts schema units (some schema.order) q.output q.settings
  return { units, schema, outputs, errors }

/-- What a product comes from. -/
theorem Product.ofUnits_eq_ok {accepts : String → Bool} {units : List SourceUnit} {q : Request}
    {p : Product} (h : ofUnits accepts units q = .ok p) :
    p.units = units ∧ ∃ r settled infinite, Resolution.ofUnits units = .ok r ∧
      Attempt.settle q.settings.failFast
        (r.attempts q.settings.failFast (r.wanted q.targets)).1 = .ok settled ∧
      (r.attempts q.settings.failFast (r.wanted q.targets)).2.schema none (!q.settings.failFast) =
        .ok (p.schema, infinite) ∧
      p.errors = settled.2 ++ infinite ∧
      assemble accepts p.schema units (some p.schema.order) q.output q.settings =
        .ok p.outputs := by
  obtain ⟨r, hr, hmade⟩ := Outcome.bind_eq_ok.mp h
  obtain ⟨⟨last, unresolved⟩, hsettled, hclassified⟩ := Outcome.bind_eq_ok.mp hmade
  obtain ⟨⟨s, infinite⟩, hs, hassembled⟩ := Outcome.bind_eq_ok.mp hclassified
  obtain ⟨settled, hsettle, hlast⟩ := Outcome.bind_eq_ok.mp hsettled
  obtain ⟨rfl, rfl⟩ := Prod.mk.inj (Outcome.pure_eq_ok.mp hlast)
  dsimp only at hassembled
  split at hassembled
  · cases hassembled
  · obtain ⟨outputs, houtputs, hp⟩ := Outcome.bind_eq_ok.mp hassembled
    obtain rfl := Outcome.pure_eq_ok.mp hp
    exact ⟨rfl, r, settled, infinite, Outcome.mapError_eq_ok.mp hr, hsettle, hs, rfl, houtputs⟩

/-- Settings that pass are passed on as they are. -/
theorem Settings.eq_of_validate {settings settings' : Settings}
    (h : settings.validate = .ok settings') : settings' = settings := by
  unfold validate at h
  split at h
  · cases h
  split at h
  · cases h
  split at h
  · cases h
  split at h
  · cases h
  · exact (Except.ok.inj h).symm

/-- What a caller is told when an input cannot be read. -/
def Run.inputFailure (input : String) : Failure → Failure
  | .file fault => .reported (inputFault input fault)
  | failure => failure

/-- The units that are read from source files at an input. -/
def FileTree.units (t : FileTree) (input : String) (settings : Settings) :
    Except Failure (List SourceUnit) :=
  Except.mapError (Run.inputFailure input) do
    let files ← (t.sources (Path.ofString input) settings.suffix).mapError Failure.file
    files.mapM (t.readUnit settings.reservedPrefixes)

/-- What a run makes of files. -/
def Product.ofFiles (accepts : String → Bool) (t : FileTree) (q : Request) :
    Except Failure Product := do
  let _ ← q.settings.validate.mapError .reported
  let units ← t.units q.input q.settings
  ofUnits accepts units q

theorem Product.ofFiles_eq_ok {accepts : String → Bool} {t : FileTree} {q : Request} {p : Product}
    (h : ofFiles accepts t q = .ok p) : q.settings.validate = .ok q.settings ∧
      t.units q.input q.settings = .ok p.units ∧ ofUnits accepts p.units q = .ok p := by
  obtain ⟨settings, hvalid, h⟩ := Outcome.bind_eq_ok.mp h
  replace hvalid := Outcome.mapError_eq_ok.mp hvalid
  obtain rfl := Settings.eq_of_validate hvalid
  obtain ⟨units, hunits, hp⟩ := Outcome.bind_eq_ok.mp h
  obtain ⟨rfl, -⟩ := ofUnits_eq_ok hp
  exact ⟨hvalid, hunits, hp⟩

namespace Run

variable {α β : Type} {s : RunState} {q : Request} {accepts : String → Bool}

/-! ## Events -/

/-- A step that tells events and returns a known result. -/
def Tells (m : Run α) (result : Except Failure α) : Prop :=
  ∀ s, ∃ s', m s = (result, s') ∧ s'.files = s.files

namespace Tells

theorem tell (logger : String) (level : Level) (message : String) (extra : DataMap) :
    Tells (Run.tell logger level message extra) (.ok ()) := fun _ => ⟨_, rfl, rfl⟩

theorem ofResult (result : Except Failure α) : Tells (Run.ofResult result) result :=
  fun s => ⟨s, rfl, rfl⟩

theorem ofReport (result : Except Diagnostic α) :
    Tells (Run.ofReport result) (result.mapError .reported) := ofResult _

theorem pure (a : α) : Tells (Pure.pure a) (.ok a) := fun s => ⟨s, rfl, rfl⟩

theorem bind {m : Run α} {result : Except Failure α} {f : α → Run β} {g : α → Except Failure β}
    (hm : Tells m result) (hf : ∀ a, Tells (f a) (g a)) : Tells (m >>= f) (result >>= g) := by
  intro s
  obtain ⟨t, ht, hfiles⟩ := hm s
  rw [Stateful.run_bind, ht]
  cases result with
  | error failure => exact ⟨t, rfl, hfiles⟩
  | ok a =>
    obtain ⟨u, hu, hfiles'⟩ := hf a t
    exact ⟨u, hu, hfiles'.trans hfiles⟩

/-- A step behind one that only tells events. -/
theorem andThen {m : Run Unit} {f : Run β} {result : Except Failure β} (hm : Tells m (.ok ()))
    (hf : Tells f result) : Tells (m >>= fun _ => f) result := hm.bind fun _ => hf

theorem forM {f : α → Run Unit} {l : List α} (h : ∀ a, Tells (f a) (.ok ())) :
    Tells (l.forM f) (.ok ()) := by
  induction l with
  | nil => exact pure ()
  | cons a l ih => exact (h a).andThen ih

theorem within {m : Run α} {result : Except Failure α} (fields : DataMap) (h : Tells m result) :
    Tells (Run.within fields m) result := by
  intro s
  obtain ⟨t, ht, hfiles⟩ := h { s with context := s.context.bind fields }
  refine ⟨{ t with context := s.context }, ?_, hfiles⟩
  unfold Run.within
  rw [ht]

end Tells

theorem tells_attempt (failFast : Bool) (r : Resolution) (a : Attempt) :
    Tells (tellAttempt failFast r a) (.ok ()) := by
  refine .within _ ?_
  cases a.result with
  | ok id =>
    dsimp only
    split
    · exact .tell _ _ _ _
    · exact .pure ()
  | error failure =>
    cases failure with
    | reported d =>
      dsimp only
      split
      · exact .tell _ _ _ _
      · exact .pure ()
    | _ => exact .pure ()

theorem tells_resolve (targets : List String) (failFast : Bool) (r : Resolution) :
    Tells (resolve targets failFast r) (r.settled targets failFast) := by
  refine Tells.andThen (.forM fun a => tells_attempt failFast r a) ?_
  exact (Tells.ofResult _).bind fun _ => .pure _

theorem tells_classify (failFast : Bool) (r : Resolution) :
    Tells (classify failFast r) (r.schema none (!failFast)) := by
  rw [← bind_pure (r.schema none (!failFast))]
  refine (Tells.ofResult _).bind fun found => ?_
  refine Tells.andThen (.forM fun d => .tell _ _ _ _) ?_
  exact Tells.andThen (.tell _ _ _ _) (.pure _)

theorem ofReport_of_ok {result : Except Diagnostic α} {a : α} (h : result = .ok a) (s : RunState) :
    ofReport result s = (.ok a, s) := by
  rw [h]
  rfl

/-- A run that has read its units makes what they come to, or fails as they do. -/
theorem buildWith_eq {units : List SourceUnit} {s' : RunState}
    (hvalid : q.settings.validate = .ok q.settings)
    (hload : load q.input q.settings s = (.ok units, s')) :
    ∃ s'', perform s (buildWith accepts q) = (Product.ofUnits accepts units q, s'') ∧
      s''.files = s'.files := by
  unfold perform buildWith
  rw [Stateful.run_bind, ofReport_of_ok hvalid]
  dsimp only
  rw [Stateful.run_bind, hload]
  dsimp only
  refine (?_ : Tells _ _) s'
  refine Tells.andThen (.tell _ _ _ _) ((Tells.ofReport _).bind fun r => ?_)
  refine (tells_resolve _ _ r).bind fun settled => (tells_classify _ _).bind fun found => ?_
  dsimp only
  split
  · exact fun s => ⟨s, rfl, rfl⟩
  · exact (Tells.ofResult _).bind fun outputs => Tells.andThen (.tell _ _ _ _) (.pure _)

/-! ## Units of a run -/

/-- The files that are read are those of one directory, or one file. -/
theorem siblings_of_sources {t : FileTree} {input : Path} {suffix : String} {files : List Path}
    (h : t.sources input suffix = .ok files) : ∃ parent, ∀ file ∈ files, file.parent = parent := by
  unfold FileTree.sources at h
  split at h
  · cases h
  · split at h
    · cases h
    · obtain rfl := Except.ok.inj h
      exact ⟨input.parent, fun file hfile => by rw [List.mem_singleton.mp hfile]⟩
    · obtain rfl := Except.ok.inj h
      refine ⟨input, fun file hfile => ?_⟩
      obtain ⟨name, -, rfl⟩ := List.mem_map.mp hfile
      simp [Path.parent, Path.child]

/-- A unit has the path of its file. -/
theorem path_of_readUnit {t : FileTree} {reserved : List String} {file : Path} {u : SourceUnit}
    (h : t.readUnit reserved file = .ok u) : u.path = file := by
  obtain ⟨text, -, h⟩ := Outcome.bind_eq_ok.mp h
  split at h
  · case h_1 u' hread =>
    obtain rfl := Except.ok.inj h
    obtain ⟨statements, -, hunit⟩ := Option.bind_eq_some_iff.mp hread
    rw [← Option.some.inj hunit]
  · cases h

/-- Units are read from the source files of their tree, in order. -/
theorem sources_of_units {t : FileTree} {input : String} {settings : Settings}
    {units : List SourceUnit} (h : t.units input settings = .ok units) :
    t.sources (Path.ofString input) settings.suffix = .ok (units.map (·.path)) := by
  obtain ⟨files, hfiles, hread⟩ := Outcome.bind_eq_ok.mp (Outcome.mapError_eq_ok.mp h)
  have hpaths : files.map id = units.map (·.path) :=
    map_eq_map_of_forall₂ ((Outcome.mapM_eq_ok_iff.mp hread).imp fun file u hu =>
      (path_of_readUnit hu).symm)
  rw [← hpaths, List.map_id]
  exact Outcome.mapError_eq_ok.mp hfiles

theorem readUnits_eq (reserved : List String) (files : List Path) (s : RunState) :
    ∃ s', readUnits reserved files s = (files.mapM (s.files.readUnit reserved), s') ∧
      s'.files = s.files := by
  induction files generalizing s with
  | nil => exact ⟨s, rfl, rfl⟩
  | cons file files ih =>
    unfold readUnits
    rw [Stateful.run_get_bind, Stateful.run_bind, List.mapM_cons]
    unfold ofResult
    cases s.files.readUnit reserved file with
    | error failure => exact ⟨s, rfl, rfl⟩
    | ok u =>
      dsimp only
      obtain ⟨t, htell, ht⟩ := Tells.tell "sszgen.scanner" Level.debug "scanned unit"
        [("unit", .text file.toString), ("records", .list (u.names.map .text))] s
      obtain ⟨t', hrest, ht'⟩ := ih t
      rw [Stateful.run_bind, htell]
      dsimp only
      rw [Stateful.run_bind, hrest, ht]
      refine ⟨t', ?_, ht'.trans ht⟩
      cases files.mapM (s.files.readUnit reserved) <;> rfl

/-- A run reads the units of its files, and leaves the files. -/
theorem load_eq (input : String) (settings : Settings) (s : RunState) :
    ∃ s', load input settings s = (s.files.units input settings, s') ∧ s'.files = s.files := by
  unfold load FileTree.units scan
  rw [Stateful.run_tryCatch, Stateful.run_get_bind, Stateful.run_bind]
  unfold ofResult
  cases s.files.sources (Path.ofString input) settings.suffix with
  | error fault => exact ⟨s, rfl, rfl⟩
  | ok files =>
    obtain ⟨t, hread, ht⟩ := readUnits_eq settings.reservedPrefixes files s
    have hfiles : (Except.ok files).mapError Failure.file = .ok files := rfl
    rw [hfiles, Outcome.bind_of_ok rfl]
    dsimp only
    rw [hread]
    refine ⟨t, ?_, ht⟩
    cases files.mapM (s.files.readUnit settings.reservedPrefixes) with
    | ok units => rfl
    | error failure => cases failure <;> rfl

/-- The units of a run lie beside each other. -/
theorem load_siblings {input : String} {settings : Settings} {units : List SourceUnit}
    {s' : RunState} (h : load input settings s = (.ok units, s')) :
    ∃ parent, ∀ u ∈ units, u.path.parent = parent := by
  obtain ⟨t, hload, -⟩ := load_eq input settings s
  obtain ⟨hunits, -⟩ := Prod.mk.inj (hload.symm.trans h)
  obtain ⟨parent, hparent⟩ := siblings_of_sources (sources_of_units hunits)
  exact ⟨parent, fun u hu => hparent _ (List.mem_map_of_mem hu)⟩

/-- A run depends on nothing but its files, and leaves them. -/
theorem buildWith_eq_ofFiles (accepts : String → Bool) (q : Request) (s : RunState) :
    ∃ s', perform s (buildWith accepts q) = (Product.ofFiles accepts s.files q, s') ∧
      s'.files = s.files := by
  unfold Product.ofFiles
  cases hvalid : q.settings.validate with
  | error d =>
    refine ⟨s, ?_, rfl⟩
    unfold perform buildWith ofReport ofResult
    rw [Stateful.run_bind, hvalid]
    rfl
  | ok settings =>
    obtain rfl := Settings.eq_of_validate hvalid
    obtain ⟨t, hload, ht⟩ := load_eq q.input q.settings s
    cases hunits : s.files.units q.input q.settings with
    | error failure =>
      refine ⟨t, ?_, ht⟩
      unfold perform buildWith
      rw [Stateful.run_bind, ofReport_of_ok hvalid]
      dsimp only
      rw [Stateful.run_bind, hload, hunits]
      rfl
    | ok units =>
      obtain ⟨s', hmade, hs'⟩ := @buildWith_eq s q accepts _ _ hvalid (hunits ▸ hload)
      exact ⟨s', hmade, hs'.trans ht⟩

/-- A run that makes something has read units that come to it. -/
theorem buildWith_eq_ok {p : Product} {s' : RunState}
    (h : perform s (buildWith accepts q) = (.ok p, s')) :
    ∃ t, q.settings.validate = .ok q.settings ∧ load q.input q.settings s = (.ok p.units, t) ∧
      Product.ofUnits accepts p.units q = .ok p := by
  obtain ⟨t, hmade, -⟩ := buildWith_eq_ofFiles accepts q s
  obtain ⟨hvalid, hunits, hp⟩ := Product.ofFiles_eq_ok (Prod.mk.inj (hmade.symm.trans h)).1
  obtain ⟨t', hload, -⟩ := load_eq q.input q.settings s
  exact ⟨t', hvalid, hload.trans (by rw [hunits]), hp⟩

end Run

end SszSchema
