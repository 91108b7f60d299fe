import SszSchema.Proofs.Directories
import SszSchema.Proofs.Placement

/-!
# Generating again

A run over a directory that puts each module beside its unit. The scanner leaves out names that end
in the suffix, and the modules have just such names. So a run does not write to the units that it
reads (`FileTree.KeepsSources`), and if it succeeds, a second run reads the same units, makes the
same modules of them and finds them written already (`Run.generateWith_again`). The suffix must not
be an ending of the package mark: otherwise a module could make the directory a package, and the
second run would import differently.
-/

namespace SszSchema

namespace FileTree

variable {t t' : FileTree} {home : Path} {d : Place} {name suffix : String}
  {files : List (Path × String)} {result : Except FileFault Unit}

/-! ## Names of sources -/

theorem isSourceName_temporaryName (n : Nat) :
    isSourceName suffix (temporaryName name n) = false := by
  have hends : Text.endsWith (temporaryName name n) moduleEnding = false := by
    rw [Bool.eq_false_iff]
    intro hends
    obtain ⟨cs, hcs⟩ := List.isSuffixOf_iff_suffix.mp hends
    have hlast := congrArg (fun cs => cs.reverse.head?) hcs
    simp [temporaryName, moduleEnding] at hlast
  rw [isSourceName, hends, Bool.false_and]

theorem ne_up_of_isSourceName (h : isSourceName suffix name = true) : name ≠ ".." := by
  rintro rfl
  have hends : Text.endsWith ".." moduleEnding = false := by decide
  rw [isSourceName, hends, Bool.false_and] at h
  cases h

theorem isSourceName_packageMark (h : Text.endsWith packageMark suffix = false) :
    isSourceName suffix packageMark = true := by
  have hends : Text.endsWith packageMark moduleEnding = true := by decide
  rw [isSourceName, hends, h]
  rfl

/-! ## Sources in a directory -/

/-- The sources in a directory are the same, and what they hold. -/
structure KeepsSources (suffix : String) (d : Place) (t t' : FileTree) : Prop where
  names : (t'.namesAt d).filter (isSourceName suffix) = (t.namesAt d).filter (isSourceName suffix)
  contents : ∀ name, isSourceName suffix name = true → t'.at? (d ++ [name]) = t.at? (d ++ [name])

theorem KeepsSources.refl (suffix : String) (d : Place) (t : FileTree) : KeepsSources suffix d t t :=
  ⟨rfl, fun _ _ => rfl⟩

theorem sources_of_directoryAt (h : t.DirectoryAt home d) :
    t.sources home suffix =
      .ok ((((t.namesAt d).filter (isSourceName suffix)).mergeSort fun a b => a ≤ b).map
        home.child) := by
  rw [sources, h.found]
  dsimp only
  rw [h.directory]

theorem exists_name_of_sources (h : t.DirectoryAt home d) {sources : List Path}
    (hsources : t.sources home suffix = .ok sources) {file : Path} (hfile : file ∈ sources) :
    ∃ name, isSourceName suffix name = true ∧ file = home.child name := by
  rw [sources_of_directoryAt h] at hsources
  obtain rfl := Except.ok.inj hsources
  obtain ⟨name, hname, rfl⟩ := List.mem_map.mp hfile
  exact ⟨name, (List.mem_filter.mp (List.mem_mergeSort.mp hname)).2, rfl⟩

namespace KeepsSources

theorem get?_child (h : KeepsSources suffix d t t') (hhome : t.DirectoryAt home d)
    (hhome' : t'.DirectoryAt home d) (hname : isSourceName suffix name = true) :
    t'.get? (home.child name) = t.get? (home.child name) := by
  have hup := ne_up_of_isSourceName hname
  rw [get?, get?, hhome.find?_child hup, hhome'.find?_child hup, Option.bind_some,
    Option.bind_some, h.contents name hname]

/-- The same units are read of the same sources. -/
theorem units {input : String} {settings : Settings}
    (h : KeepsSources settings.suffix d t t') (hhome : t.DirectoryAt (Path.ofString input) d)
    (hhome' : t'.DirectoryAt (Path.ofString input) d)
    (hmark : Text.endsWith packageMark settings.suffix = false) :
    t'.units input settings = t.units input settings := by
  have hsources : t'.sources (Path.ofString input) settings.suffix =
      t.sources (Path.ofString input) settings.suffix := by
    rw [sources_of_directoryAt hhome, sources_of_directoryAt hhome', h.names]
  unfold FileTree.units
  rw [hsources]
  cases hfiles : t.sources (Path.ofString input) settings.suffix with
  | error fault => rfl
  | ok files =>
    refine congrArg (Except.mapError (Run.inputFailure input)) (Outcome.mapM_congr ?_)
    intro file hfile
    obtain ⟨name, hname, rfl⟩ := exists_name_of_sources hhome hfiles hfile
    have hparent : ((Path.ofString input).child name).parent = Path.ofString input := by
      simp [Path.parent, Path.child]
    have hpackage := h.get?_child hhome hhome' (isSourceName_packageMark hmark)
    rw [readUnit, readUnit, read, read, readRaw, readRaw, contains, contains, hparent, hpackage,
      h.get?_child hhome hhome' hname]

end KeepsSources

/-- Files that are no sources are written without touching the sources. -/
theorem writeAll_keepsSources (hhome : t.DirectoryAt home d)
    (hfiles : ∀ f ∈ files, home.Inside f.1)
    (hothers : ∀ f ∈ files, isSourceName suffix f.1.name = false)
    (hwrite : t.writeAll files = (result, t')) : KeepsSources suffix d t t' := by
  obtain ⟨-, hkeeps, -⟩ := writeAll_inside hhome hfiles hwrite
  obtain ⟨moved, rest, hmoved, hwritten, -⟩ := writeAll_spec hwrite
  refine ⟨hkeeps _ (fun _ => isSourceName_temporaryName) hothers d, fun name hname => ?_⟩
  rw [hwritten.at?_eq hhome hfiles, after]
  cases htext : textAt? moved (d ++ [name]) with
  | none => rfl
  | some text =>
    obtain ⟨f, hf, hleads, -⟩ := textAt?_eq_some htext
    have hf : f ∈ files := hmoved ▸ List.mem_append_left rest hf
    have hplace := hhome.leadsTo_inside (hfiles f hf)
    obtain ⟨-, hsame⟩ := List.append_inj' (hleads.unique hplace) rfl
    obtain rfl := List.singleton_inj.mp hsame
    rw [hothers f hf] at hname
    cases hname

end FileTree

namespace Product

variable {accepts : String → Bool} {t t' : FileTree} {q : Request} {p : Product} {d : Place}

/-! ## Modules beside sources -/

/-- A module goes beside one of the units. -/
theorem exists_unit_of_output (hbeside : q.output = none) (h : ofFiles accepts t q = .ok p)
    {o : Output} (ho : o ∈ p.outputs) :
    ∃ u ∈ p.units, outputPath? u.path q.settings.suffix = some o.file := by
  obtain ⟨-, -, hp⟩ := ofFiles_eq_ok h
  obtain ⟨-, -, -, -, -, -, -, -, hassemble⟩ := ofUnits_eq_ok hp
  obtain ⟨plan, modules, hplan, -, hmodules, houts⟩ := Assembly.assemble_steps hassemble
  obtain ⟨part, hpart, hfile, -⟩ :=
    exists_of_forall₂ (Assembly.outputs_of_parts hmodules houts).flip ho
  rw [hbeside] at hplan
  obtain ⟨parts, hparts, rfl⟩ := Outcome.map_eq_ok.mp hplan
  obtain ⟨-, u, hu, hplace⟩ := Plan.draws_besideUnits hparts hpart
  exact ⟨u, List.mem_mergeSort.mp hu, hfile ▸ hplace⟩

/-- Units are sources in the directory. -/
theorem exists_name_of_unit (hhome : t.DirectoryAt (Path.ofString q.input) d)
    (h : ofFiles accepts t q = .ok p) {u : SourceUnit} (hu : u ∈ p.units) :
    ∃ name, FileTree.isSourceName q.settings.suffix name = true ∧
      u.path = (Path.ofString q.input).child name := by
  obtain ⟨-, hunits, -⟩ := ofFiles_eq_ok h
  exact FileTree.exists_name_of_sources hhome (Run.sources_of_units hunits)
    (List.mem_map_of_mem hu)

/-- Modules go into the directory, under names that no source has. -/
theorem output_inside (hbeside : q.output = none)
    (hhome : t.DirectoryAt (Path.ofString q.input) d) (h : ofFiles accepts t q = .ok p)
    {o : Output} (ho : o ∈ p.outputs) :
    (Path.ofString q.input).Inside o.file ∧
      FileTree.isSourceName q.settings.suffix o.file.name = false := by
  obtain ⟨hvalid, -, -⟩ := ofFiles_eq_ok h
  obtain ⟨cs, hcs, -⟩ := Settings.suffix_of_validate hvalid
  obtain ⟨u, hu, hfile⟩ := exists_unit_of_output hbeside h ho
  obtain ⟨name, -, hpath⟩ := exists_name_of_unit hhome h hu
  have hplace := outputPath?_eq_some hfile
  have hname : o.file.name = u.path.stem ++ q.settings.suffix := by
    simp [hplace, Path.child, Path.name]
  have hlast : o.file.name.toList.getLast? = some 'y' := by
    simp [hname, hcs, moduleEnding]
  have hends : Text.endsWith o.file.name q.settings.suffix = true := by
    rw [hname]
    exact List.isSuffixOf_iff_suffix.mpr ⟨u.path.stem.toList, by simp⟩
  refine ⟨⟨by simp [hplace, hpath, Path.child, Path.parent], ?_, ?_⟩, ?_⟩
  · intro hempty
    simp [hempty] at hlast
  · intro hup
    simp [hup] at hlast
  · rw [FileTree.isSourceName, hends, Bool.not_true, Bool.and_false]

/-- The files that are written for modules. -/
def files (p : Product) : List (Path × String) := p.outputs.map fun o => (o.file, o.text)

theorem files_inside (hbeside : q.output = none)
    (hhome : t.DirectoryAt (Path.ofString q.input) d) (h : ofFiles accepts t q = .ok p) :
    (∀ f ∈ p.files, (Path.ofString q.input).Inside f.1) ∧
      ∀ f ∈ p.files, FileTree.isSourceName q.settings.suffix f.1.name = false := by
  have hinside (o : Output) (ho : o ∈ p.outputs) := output_inside hbeside hhome h ho
  exact ⟨List.forall_mem_map.mpr fun o ho => (hinside o ho).1,
    List.forall_mem_map.mpr fun o ho => (hinside o ho).2⟩

/-- No module goes to the place of a unit. -/
theorem location_ne (hbeside : q.output = none)
    (hhome : t.DirectoryAt (Path.ofString q.input) d) (h : ofFiles accepts t q = .ok p)
    {o : Output} (ho : o ∈ p.outputs) {u : SourceUnit} (hu : u ∈ p.units) :
    o.file.location ≠ u.path.location := by
  obtain ⟨hinside, hother⟩ := output_inside hbeside hhome h ho
  obtain ⟨name, hname, hpath⟩ := exists_name_of_unit hhome h hu
  have hunit := hhome.leadsTo_child (FileTree.ne_up_of_isSourceName hname)
  intro heq
  rw [hpath] at heq
  have hleads : o.file.LeadsTo (d ++ [name]) := heq.trans hunit
  obtain ⟨-, hsame⟩ := List.append_inj' (hleads.unique (hhome.leadsTo_inside hinside)) rfl
  rw [List.singleton_inj.mp hsame, hother] at hname
  cases hname

/-! ## Runs as functions of files -/

/-- What a run makes, and the files that it leaves. -/
def generated (accepts : String → Bool) (rehearsal : Bool) (q : Request) (t : FileTree) :
    Except Failure Product × FileTree :=
  match ofFiles accepts t q with
  | .error failure => (.error failure, t)
  | .ok p =>
      if rehearsal then (.ok { p with written := [] }, t)
      else
        match t.writeAll p.files with
        | (.error fault, t') => (.error (.reported (Run.writeFault fault)), t')
        | (.ok _, t') => (.ok { p with written := p.files.map (·.1) }, t')

variable {rehearsal : Bool} {result : Except Failure Product}

/-- A run into a directory leaves the sources there. -/
theorem generated_keepsSources (hbeside : q.output = none)
    (hhome : t.DirectoryAt (Path.ofString q.input) d)
    (h : generated accepts rehearsal q t = (result, t')) :
    t'.DirectoryAt (Path.ofString q.input) d ∧
      FileTree.KeepsSources q.settings.suffix d t t' := by
  have hsame : t.DirectoryAt (Path.ofString q.input) d ∧
      FileTree.KeepsSources q.settings.suffix d t t := ⟨hhome, .refl _ _ _⟩
  unfold generated at h
  split at h
  · exact (Prod.mk.inj h).2 ▸ hsame
  · case h_2 p hp =>
    split at h
    · exact (Prod.mk.inj h).2 ▸ hsame
    · obtain ⟨hfiles, hothers⟩ := files_inside hbeside hhome hp
      have hwritten {written : Except FileFault Unit} {t₁ : FileTree}
          (hwrite : t.writeAll p.files = (written, t₁)) :
          t₁.DirectoryAt (Path.ofString q.input) d ∧
            FileTree.KeepsSources q.settings.suffix d t t₁ :=
        ⟨(FileTree.writeAll_inside hhome hfiles hwrite).1,
          FileTree.writeAll_keepsSources hhome hfiles hothers hwrite⟩
      split at h
      · case h_1 hwrite => exact (Prod.mk.inj h).2 ▸ hwritten hwrite
      · case h_2 hwrite => exact (Prod.mk.inj h).2 ▸ hwritten hwrite

/-- Files that a run has left come to the same once more, and stay. -/
theorem generated_again (hbeside : q.output = none)
    (hhome : t.DirectoryAt (Path.ofString q.input) d)
    (hmark : Text.endsWith packageMark q.settings.suffix = false)
    (h : generated accepts rehearsal q t = (.ok p, t')) :
    ∃ t'', generated accepts rehearsal q t' = (.ok p, t'') ∧
      ∀ place, t''.at? place = t'.at? place := by
  obtain ⟨hhome', hkeeps⟩ := generated_keepsSources hbeside hhome h
  have hmade : ofFiles accepts t' q = ofFiles accepts t q := by
    unfold ofFiles
    rw [hkeeps.units hhome hhome' hmark]
  unfold generated at h ⊢
  rw [hmade]
  split at h
  · cases h
  · case h_2 p' hp =>
    split at h
    · case isTrue hrehearsal =>
      rw [if_pos hrehearsal]
      exact ⟨t', by rw [(Prod.mk.inj h).1], fun _ => rfl⟩
    · case isFalse hrehearsal =>
      rw [if_neg hrehearsal]
      split at h
      · cases h
      · case h_2 t₁ hwrite =>
        obtain ⟨hproduct, rfl⟩ := Prod.mk.inj h
        obtain ⟨hfiles, -⟩ := files_inside hbeside hhome hp
        obtain ⟨t'', hagain, hsame⟩ := FileTree.writeAll_again hhome hfiles hwrite
        rw [hagain]
        exact ⟨t'', Prod.ext hproduct rfl, hsame⟩

end Product

namespace Run

variable {accepts : String → Bool} {id : String} {rehearsal : Bool} {q : Request} {s s' : RunState}
  {d : Place}

/-- A run depends on nothing but its files. -/
theorem generateWith_eq (accepts : String → Bool) (id : String) (rehearsal : Bool) (q : Request)
    (s : RunState) : ∃ s', perform s (generateWith accepts id rehearsal q) =
      ((Product.generated accepts rehearsal q s.files).1, s') ∧
        s'.files = (Product.generated accepts rehearsal q s.files).2 := by
  obtain ⟨t, hmade, ht⟩ := buildWith_eq_ofFiles accepts q
    { s with context := s.context.bind [("run_id", .text id)] }
  unfold perform at hmade ⊢
  unfold generateWith named within Product.generated
  rw [Stateful.run_bind, hmade]
  cases Product.ofFiles accepts s.files q with
  | error failure => exact ⟨_, rfl, ht⟩
  | ok p =>
    cases rehearsal with
    | true => exact ⟨_, rfl, ht⟩
    | false =>
      dsimp only
      rw [if_neg Bool.false_ne_true, if_neg Bool.false_ne_true, Stateful.run_bind, Product.files]
      rcases hwrite : s.files.writeAll (p.outputs.map fun o => (o.file, o.text)) with ⟨_ | _, t'⟩
      · rw [write_of_error (ht ▸ hwrite), hwrite]
        exact ⟨_, rfl, rfl⟩
      · obtain ⟨t₁, hrun, rfl⟩ := write_of_ok (s := t) (ht ▸ hwrite)
        rw [hrun, hwrite]
        exact ⟨_, rfl, rfl⟩

/-- **Regeneration.** A run over a directory, with modules beside their units, leaves each source
there as it is and puts no module where a unit is. If it succeeds, another run of the same request
on the files that it leaves succeeds too: it reads the same units, makes the same modules of them,
and leaves every place as it is. -/
theorem generateWith_again (hbeside : q.output = none)
    (hhome : s.files.DirectoryAt (Path.ofString q.input) d)
    (hmark : Text.endsWith packageMark q.settings.suffix = false) {result : Except Failure Product}
    (h : perform s (generateWith accepts id rehearsal q) = (result, s')) :
    (∀ sources, s.files.sources (Path.ofString q.input) q.settings.suffix = .ok sources →
      ∀ file ∈ sources, s'.files.get? file = s.files.get? file) ∧
    (∀ p t, perform s (buildWith accepts q) = (.ok p, t) →
      ∀ o ∈ p.outputs, ∀ u ∈ p.units, o.file.location ≠ u.path.location) ∧
    ∀ p, result = .ok p → ∀ id' r, r.files = s'.files →
      ∃ r', perform r (generateWith accepts id' rehearsal q) = (.ok p, r') ∧
        ∀ place, r'.files.at? place = s'.files.at? place := by
  obtain ⟨t, hrun, ht⟩ := generateWith_eq accepts id rehearsal q s
  obtain ⟨rfl, rfl⟩ := Prod.mk.inj (hrun.symm.trans h)
  have hleft : Product.generated accepts rehearsal q s.files =
      ((Product.generated accepts rehearsal q s.files).1, t.files) := Prod.ext rfl ht.symm
  obtain ⟨hhome', hkeeps⟩ := Product.generated_keepsSources hbeside hhome hleft
  refine ⟨fun sources hsources file hfile => ?_, fun p t' hbuilt o ho u hu => ?_,
    fun p hp id' r hr => ?_⟩
  · obtain ⟨name, hname, rfl⟩ := FileTree.exists_name_of_sources hhome hsources hfile
    exact hkeeps.get?_child hhome hhome' hname
  · obtain ⟨t'', hmade, -⟩ := buildWith_eq_ofFiles accepts q s
    obtain ⟨hofFiles, -⟩ := Prod.mk.inj (hmade.symm.trans hbuilt)
    exact Product.location_ne hbeside hhome hofFiles ho hu
  · rw [hp] at hleft
    obtain ⟨t'', hagain, hsame⟩ := Product.generated_again hbeside hhome hmark hleft
    obtain ⟨r', hrun', hr'⟩ := generateWith_eq accepts id' rehearsal q r
    rw [hr, hagain] at hrun' hr'
    exact ⟨r', hrun', fun place => by rw [hr', hsame]⟩

/-- A directory with a source, and with what earlier runs have left. -/
def leftoverState : RunState where
  files := { entries := [(["types"], .directory),
    (["types", "a.py"], .file (.text "@dataclass\nclass A:\n    n: uint64\n")),
    (["types", "a_encoding.py"], .file (.text "stale\n")),
    (["types", "b_encoding.py"], .file (.text "@dataclass\nclass B:\n    n: uint64\n"))] }

/-- A request for all records in the directory. -/
def leftoverRequest : Request := { input := "types" }

/-- The earlier module of the source is replaced, and the other one is not read. Then all stays. -/
theorem generateWith_again_leftover : ∃ p s',
    perform leftoverState (generateWith (fun _ => true) "1" false leftoverRequest) = (.ok p, s') ∧
      p.units.map (·.path.toString) = ["types/a.py"] ∧
      p.written.map (·.toString) = ["types/a_encoding.py"] ∧
      ∃ r', perform s' (generateWith (fun _ => true) "2" false leftoverRequest) = (.ok p, r') ∧
        ∀ place, r'.files.at? place = s'.files.at? place := by
  have hcomputed : (perform leftoverState
      (generateWith (fun _ => true) "1" false leftoverRequest)).1.map (fun p =>
        (p.units.map (·.path.toString), p.written.map (·.toString))) =
      .ok (["types/a.py"], ["types/a_encoding.py"]) := by decide +kernel
  rcases hrun : perform leftoverState
    (generateWith (fun _ => true) "1" false leftoverRequest) with ⟨result, s'⟩
  rw [hrun] at hcomputed
  obtain ⟨p, rfl, hp⟩ := Outcome.map_eq_ok.mp hcomputed
  obtain ⟨hunits, hwritten⟩ := Prod.mk.inj hp
  obtain ⟨-, -, hagain⟩ := generateWith_again (d := ["types"]) rfl ⟨by decide, by decide⟩
    (by decide) hrun
  exact ⟨p, s', rfl, hunits, hwritten, hagain p rfl "2" s' rfl⟩

end Run

end SszSchema
