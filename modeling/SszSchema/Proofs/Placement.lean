import SszSchema.Proofs.Building
import SszSchema.Proofs.Closure
import SszSchema.Proofs.DeclaredCode
import SszSchema.Proofs.Hygiene

/-!
# Placement of records

Which records a run generates, and in which modules. A fail-fast run that makes something generates
the records that its targets lead to (`Selects`). Each goes into one module: the one beside its
unit, or the one that all records go to (`Places`). The first module defines the error classes, and
the routines of a record call the records that its declaration mentions, here or in the module that
holds them (`Links`).

The resolver closes the targets, the schema keeps what the resolver registered, the plan divides the
schema, and assembly looks for what the code calls. `Product.ofUnits_settles` is the first of these
steps, `Plan.records_ofUnits` and `Plan.besideUnits_eq_ok` are the third, `Assembly.links` is the
last. `Run.buildWith_places` puts them together.
-/

namespace SszSchema

open Relation

/-! ## Records that are kept -/

namespace Resolution

/-- No name is declared twice. -/
theorem nodup_of_duplicate? {seen decls : List RecordDecl} (h : duplicate? seen decls = none)
    (hseen : (seen.map (·.name)).Nodup) : ((seen ++ decls).map (·.name)).Nodup := by
  induction decls generalizing seen with
  | nil => simpa using hseen
  | cons d decls ih =>
    unfold duplicate? at h
    split at h
    · cases h
    · case h_2 hfind =>
      have hnew : d.name ∉ seen.map (·.name) := by
        intro hmem
        obtain ⟨e, he, hname⟩ := List.mem_map.mp hmem
        exact List.find?_eq_none.mp hfind e he (beq_iff_eq.mpr hname)
      have hnext := ih h (by
        rw [List.map_append, List.map_singleton, ← List.concat_eq_append]
        exact hseen.concat hnew)
      rwa [List.append_assoc] at hnext

theorem nodup_names {units : List SourceUnit} {r : Resolution}
    (h : Resolution.ofUnits units = .ok r) :
    r = { units } ∧ (units.flatMap (·.names)).Nodup := by
  unfold Resolution.ofUnits at h
  split at h
  · cases h
  · case h_2 hnone =>
    have hnodup := nodup_of_duplicate? hnone List.nodup_nil
    rw [List.nil_append, SszSchema.declarations, List.map_flatMap] at hnodup
    exact ⟨(Except.ok.inj h).symm, hnodup⟩

/-- The schema of a resolution holds all its records if it tells of none. -/
theorem schema_keeps {r : Resolution} {collect : Bool} {s : Schema} {ds : List Diagnostic}
    (h : r.schema none collect = .ok (s, ds)) :
    (∀ d ∈ ds, d.kind = .infiniteSize) ∧ (ds = [] → s.order = r.registry.order) ∧
      (collect = false → ds = []) := by
  obtain ⟨⟨c, kept, ds'⟩, hkept, heq⟩ := Outcome.map_eq_ok.mp h
  obtain ⟨hs, rfl⟩ := Prod.mk.inj heq
  obtain ⟨hkind, hall, hnone⟩ := classifyRecords_keeps hkept
  refine ⟨hkind, fun hds => ?_, hnone⟩
  rw [← hs, hall hds, Schema.order, List.filter_eq_self.mpr, Registry.order]
  exact fun e he => List.contains_iff_mem.mpr (List.mem_map_of_mem he)

end Resolution

/-- A target leads to the record. -/
def LedTo (units : List SourceUnit) (targets : List String) (name : String) : Prop :=
  ∃ t ∈ Resolution.wanted { units } targets, ReflTransGen (Mentions units) t name

/-- A target that is sound leads to the record. -/
def SafelyLedTo (units : List SourceUnit) (targets : List String) (name : String) : Prop :=
  ∃ t ∈ Resolution.wanted { units } targets, ¬Doomed units t ∧ ReflTransGen (Mentions units) t name

namespace Product

variable {accepts : String → Bool} {units : List SourceUnit} {q : Request} {p : Product}

/-- The records that a product is made for were registered for the sound ones among the targets, and
its parts were assembled from their schema. -/
theorem ofUnits_settles (h : ofUnits accepts units q = .ok p) :
    (units.flatMap (·.names)).Nodup ∧ ∃ (r : Resolution) (ds : List Diagnostic), r.Sound ∧
      r.units = units ∧ (∀ x, x ∈ r.registry.order ↔ SafelyLedTo units q.targets x) ∧
      (q.settings.failFast = true →
        ∀ t ∈ Resolution.wanted { units } q.targets, ¬Doomed units t) ∧
      r.schema none (!q.settings.failFast) = .ok (p.schema, ds) ∧ ds ⊆ p.errors ∧
      assemble accepts p.schema units (some p.schema.order) q.output q.settings =
        .ok p.outputs := by
  obtain ⟨-, r, settled, infinite, hr, hsettle, hs, herrors, houtputs⟩ := ofUnits_eq_ok h
  obtain ⟨rfl, hnodup⟩ := Resolution.nodup_names hr
  obtain ⟨hcontinues, hclosure, hfast⟩ :=
    (Resolution.Sound.ofUnits hr).attempts_settle rfl hsettle
  refine ⟨hnodup, _, infinite, hcontinues.sound, hcontinues.units, fun x => ?_, hfast, hs, ?_,
    houtputs⟩
  · rw [hclosure]
    exact or_iff_right List.not_mem_nil
  · rw [herrors]
    exact List.subset_append_right _ _

/-- The records that are kept are declared. -/
theorem declared_of_mem_order (h : ofUnits accepts units q = .ok p) {name : String}
    (hname : name ∈ p.schema.order) : (declared? units name).isSome := by
  obtain ⟨-, r, ds, hr, rfl, -, -, hs, -⟩ := ofUnits_settles h
  obtain ⟨k, hmarks⟩ := hr.marks hr.bears_declared hs
  obtain ⟨e, he, rfl⟩ := List.mem_map.mp hname
  obtain ⟨⟨d, hd, -⟩, -⟩ := hr.acceptable (List.mem_map_of_mem (hmarks.records he))
  exact Option.isSome_iff_exists.mpr ⟨d, hd⟩

/-- A run that drops no record for its size keeps those that sound targets lead to. -/
theorem mem_order_iff (h : ofUnits accepts units q = .ok p)
    (hsized : q.settings.failFast = true ∨ ∀ d ∈ p.errors, d.kind ≠ .infiniteSize) {name : String} :
    name ∈ p.schema.order ↔ SafelyLedTo units q.targets name := by
  obtain ⟨-, r, ds, -, -, hclosure, -, hs, hsub, -⟩ := ofUnits_settles h
  obtain ⟨hkind, hall, hnone⟩ := Resolution.schema_keeps hs
  have hds : ds = [] := by
    rcases hsized with hfast | herrors
    · exact hnone (by rw [hfast]; rfl)
    · exact List.eq_nil_iff_forall_not_mem.mpr fun d hd => herrors d (hsub hd) (hkind d hd)
  rw [hall hds, hclosure]

/-- All targets of a fail-fast run are sound. -/
theorem safelyLedTo_iff (h : ofUnits accepts units q = .ok p) (hfast : q.settings.failFast = true)
    {name : String} : SafelyLedTo units q.targets name ↔ LedTo units q.targets name := by
  obtain ⟨-, -, -, -, -, -, hsafe, -⟩ := ofUnits_settles h
  exact exists_congr fun t => and_congr_right fun ht => and_iff_right (hsafe hfast t ht)

end Product

theorem mem_names_of_declared? {units : List SourceUnit} {name : String}
    (h : (declared? units name).isSome) : name ∈ units.flatMap (·.names) := by
  obtain ⟨d, hd⟩ := Option.isSome_iff_exists.mp h
  obtain ⟨rfl, hmem⟩ := declared?_eq_some hd
  obtain ⟨u, hu, hd⟩ := List.mem_flatMap.mp hmem
  exact List.mem_flatMap.mpr ⟨u, hu, List.mem_map_of_mem hd⟩

/-! ## Division into modules -/

/-- No two units have their modules in one file. -/
def OutputsApart (suffix : String) (units : List SourceUnit) : Prop :=
  units.Pairwise fun u v => ∀ file ∈ outputPath? u.path suffix, file ∉ outputPath? v.path suffix

namespace Plan

variable {s : Schema} {units : List SourceUnit} {selected : List String} {output : Option Path}
  {suffix : String} {p : Plan} {modules : List ModulePlan}

theorem perm_sortUnits (units : List SourceUnit) : (sortUnits units).Perm units :=
  List.mergeSort_perm _ _

/-- Units stand in the order of their paths. -/
theorem pairwise_sortUnits (units : List SourceUnit) :
    (sortUnits units).Pairwise fun u v => u.path.toString ≤ v.path.toString := by
  refine (List.pairwise_mergeSort (fun _ _ _ h h' => ?_) (fun u v => ?_) units).imp
    of_decide_eq_true
  · exact decide_eq_true (String.le_trans (of_decide_eq_true h) (of_decide_eq_true h'))
  · simpa using String.le_total u.path.toString v.path.toString

/-- One module stands beside each unit with chosen records, and holds these. -/
theorem besideUnits_eq_ok (h : besideUnits s selected suffix units = .ok modules) :
    List.Forall₂ (fun u part => outputPath? u.path suffix = some part.file ∧
      part.records = chosen s selected u)
      (units.filter fun u => !(chosen s selected u).isEmpty) modules := by
  induction units generalizing modules with
  | nil =>
    obtain rfl := Except.ok.inj h
    exact .nil
  | cons u units ih =>
    unfold besideUnits at h
    dsimp only at h
    split at h
    · case isTrue hempty =>
      rw [List.filter_cons_of_neg (by simpa using hempty)]
      exact ih h
    · case isFalse hempty =>
      rw [List.filter_cons_of_pos (by simpa using hempty)]
      split at h
      · cases h
      · case h_2 file hfile =>
        obtain ⟨rest, hrest, rfl⟩ := Outcome.map_eq_ok.mp h
        exact .cons ⟨hfile, rfl⟩ (ih hrest)

/-- The records chosen from units are chosen among all of their records. -/
theorem flatMap_chosen (units : List SourceUnit) : units.flatMap (chosen s selected) =
    (units.flatMap (·.names)).filter fun name => selected.contains name && s.contains name :=
  List.filter_flatMap.symm

/-- The records chosen from units are different, and all declared ones of the schema if none is left
out. -/
theorem chosen_order (hnodup : (units.flatMap (·.names)).Nodup) :
    ((sortUnits units).flatMap (chosen s s.order)).Nodup ∧
      ∀ name, name ∈ (sortUnits units).flatMap (chosen s s.order) ↔
        name ∈ s.order ∧ name ∈ units.flatMap (·.names) := by
  have hperm := (perm_sortUnits units).flatMap_right (·.names)
  rw [flatMap_chosen]
  refine ⟨(hperm.nodup_iff.mpr hnodup).filter _, fun name => ?_⟩
  rw [List.mem_filter, hperm.mem_iff, Schema.contains, Bool.and_self, List.contains_iff_mem,
    and_comm]

theorem flatMap_filter_chosen (units : List SourceUnit) :
    (units.filter fun u => !(chosen s selected u).isEmpty).flatMap (chosen s selected) =
      units.flatMap (chosen s selected) := by
  induction units with
  | nil => rfl
  | cons u units ih =>
    rw [List.filter_cons, List.flatMap_cons, ← ih]
    split
    · rfl
    · case isFalse hempty =>
      have hnil : chosen s selected u = [] := by simpa using hempty
      rw [hnil, List.nil_append]

theorem units_ofUnits (h : ofUnits s units selected output suffix = .ok p) :
    p.units = sortUnits units := by
  unfold ofUnits at h
  cases output with
  | some file => rw [← Except.ok.inj h]
  | none =>
    obtain ⟨modules, -, rfl⟩ := Outcome.map_eq_ok.mp h
    rfl

/-- The modules of a plan divide the chosen records. -/
theorem records_ofUnits (h : ofUnits s units selected output suffix = .ok p) :
    p.modules.flatMap (·.records) = (sortUnits units).flatMap (chosen s selected) := by
  unfold ofUnits at h
  cases output with
  | some file =>
    rw [← Except.ok.inj h]
    dsimp only [merged]
    split
    · case isTrue hempty => rw [List.isEmpty_iff.mp hempty, List.flatMap_nil]
    · exact List.flatMap_singleton _ _
  | none =>
    obtain ⟨modules, hmodules, rfl⟩ := Outcome.map_eq_ok.mp h
    have hrecords : modules.map (·.records) =
        ((sortUnits units).filter fun u => !(chosen s selected u).isEmpty).map
          (chosen s selected) :=
      map_eq_map_of_forall₂ ((besideUnits_eq_ok hmodules).flip.imp fun _ _ h => h.2)
    rw [List.flatMap_def, hrecords, ← List.flatMap_def, flatMap_filter_chosen]

/-- No module of a plan is without records. -/
theorem records_ne_nil (h : ofUnits s units selected output suffix = .ok p) {part : ModulePlan}
    (hpart : part ∈ p.modules) : part.records ≠ [] := by
  unfold ofUnits at h
  cases output with
  | some file =>
    obtain rfl := Except.ok.inj h
    dsimp only [merged] at hpart
    split at hpart
    · cases hpart
    · case isFalse hempty =>
      obtain rfl := List.mem_singleton.mp hpart
      exact fun hnil => hempty (List.isEmpty_iff.mpr hnil)
  | none =>
    obtain ⟨modules, hmodules, rfl⟩ := Outcome.map_eq_ok.mp h
    obtain ⟨u, hu, -, hrecords⟩ := exists_of_forall₂ (besideUnits_eq_ok hmodules).flip hpart
    rw [hrecords]
    simpa using (List.mem_filter.mp hu).2

/-- Modules go to different files if those of the units do. -/
theorem nodup_files (h : ofUnits s units selected output suffix = .ok p)
    (hapart : output = none → OutputsApart suffix units) :
    (p.modules.map (·.file)).Nodup := by
  unfold ofUnits at h
  cases output with
  | some file =>
    obtain rfl := Except.ok.inj h
    dsimp only [merged]
    split
    · exact List.nodup_nil
    · exact List.nodup_singleton _
  | none =>
    obtain ⟨modules, hmodules, rfl⟩ := Outcome.map_eq_ok.mp h
    have hsorted : OutputsApart suffix (sortUnits units) :=
      ((perm_sortUnits units).pairwise_iff fun h file hfile hfile' => h file hfile' hfile).mpr
        (hapart rfl)
    have hdrawn := List.Pairwise.sublist (List.filter_sublist (p := fun u =>
      !(chosen s selected u).isEmpty)) hsorted
    refine List.pairwise_map.mpr (pairwise_of_forall₂ (besideUnits_eq_ok hmodules) ?_ hdrawn)
    rintro u v part other ⟨hfile, -⟩ ⟨hfile', -⟩ happart heq
    exact happart _ hfile (heq ▸ hfile')

end Plan

/-! ## Names of modules -/

/-- Names that end like modules are those of their modules with the ending. -/
theorem name_eq_of_moduleName {file file' : Path}
    (h : Text.endsWith file.name moduleEnding = true)
    (h' : Text.endsWith file'.name moduleEnding = true) (heq : moduleName file = moduleName file') :
    file.name = file'.name := by
  have hname {file : Path} (h : Text.endsWith file.name moduleEnding = true) :
      file.name = moduleName file ++ moduleEnding := by
    obtain ⟨cs, hcs⟩ := List.isSuffixOf_iff_suffix.mp h
    apply String.toList_injective
    rw [moduleName, if_pos h, ← hcs]
    simp [moduleEnding]
  rw [hname h, hname h', heq]

/-- The parts of a file beside a source. -/
theorem outputPath?_eq_some {source file : Path} {suffix : String}
    (h : outputPath? source suffix = some file) :
    file = source.parent.child (source.stem ++ suffix) := by
  unfold outputPath? Path.withName? at h
  split at h
  · exact (Option.some.inj h).symm
  · cases h

/-- Modules beside sources of one directory are told apart by their names. -/
theorem outputPath?_injOn {settings : Settings} (hsettings : settings.validate = .ok settings)
    {source source' file file' : Path} (h : outputPath? source settings.suffix = some file)
    (h' : outputPath? source' settings.suffix = some file') (hparent : source.parent = source'.parent)
    (heq : moduleName file = moduleName file') : file = file' := by
  obtain ⟨cs, hcs, -⟩ := Settings.suffix_of_validate hsettings
  have hends (source : Path) : Text.endsWith
      (source.parent.child (source.stem ++ settings.suffix)).name moduleEnding = true := by
    refine List.isSuffixOf_iff_suffix.mpr ⟨source.stem.toList ++ cs, ?_⟩
    simp [Path.child, Path.name, String.toList_append, hcs]
  obtain rfl := outputPath?_eq_some h
  obtain rfl := outputPath?_eq_some h'
  have hname := name_eq_of_moduleName (hends source) (hends source') heq
  simp only [Path.child, Path.name, List.getLastD_concat] at hname
  rw [hparent, hname]

namespace Assembly

variable {s : Schema} {p : Plan} {m : Module} {first part : ModulePlan} {rest : List ModulePlan}
  {units : List SourceUnit} {selected : List String} {output : Option Path} {suffix : String}

theorem outputOf_eq {accepts : String → Bool} {out : Output} (h : outputOf accepts m = .ok out) :
    out.file = m.file ∧ out.records = m.records ∧ out.definesErrors = m.definesErrors ∧
      Layout.format accepts m.text = some out.text := by
  unfold outputOf at h
  split at h
  · split at h
    · case h_1 text htext =>
      obtain rfl := Except.ok.inj h
      exact ⟨rfl, rfl, rfl, htext⟩
    · cases h
  · cases h

/-- The first module of a plan takes the error classes from nowhere. -/
theorem errorImport_first (hp : p.modules = first :: rest) : errorImport p first.file = none := by
  simp [errorImport, hp]

/-- Other modules take the error classes from the first one. -/
theorem errorImport_other (hplan : Plan.ofUnits s units selected output suffix = .ok p)
    (hp : p.modules = first :: rest) {file : Path} (hne : file ≠ first.file) :
    ∃ u ∈ units, errorImport p file =
      some (takeFrom file u (moduleName first.file) ErrorClass.familyNames) := by
  have hfirst : first ∈ p.modules := hp ▸ List.mem_cons_self
  obtain ⟨name, names, hnames⟩ := List.exists_cons_of_ne_nil (Plan.records_ne_nil hplan hfirst)
  obtain ⟨u, hu, hname⟩ : ∃ u ∈ units, name ∈ u.names := by
    obtain ⟨hdrawn, hrecords⟩ := Plan.draws_ofUnits hplan hfirst
    have hmem : name ∈ first.records := hnames ▸ List.mem_cons_self
    rw [hrecords] at hmem
    obtain ⟨u, hu, hname⟩ := List.mem_flatMap.mp hmem
    exact ⟨u, hdrawn hu, List.mem_of_mem_filter hname⟩
  have hfound : (p.unitOf? name).isSome := by
    rw [Plan.unitOf?, List.find?_isSome, Plan.units_ofUnits hplan]
    refine ⟨u, ?_, List.contains_iff_mem.mpr hname⟩
    exact List.mem_reverse.mpr (List.mem_mergeSort.mpr hu)
  obtain ⟨v, hv⟩ := Option.isSome_iff_exists.mp hfound
  refine ⟨v, ?_, ?_⟩
  · have hmem := List.mem_of_find?_eq_some hv
    rw [List.mem_reverse, Plan.units_ofUnits hplan] at hmem
    exact List.mem_mergeSort.mp hmem
  · simp [errorImport, hp, hne, hnames, hv]

/-- A record that is held has no other home. -/
theorem home?_of_mem {header : String} (h : moduleOf s p header part = .ok m) {name : String}
    (hname : name ∈ part.records) : m.home? name = none := by
  rw [← Option.not_isSome_iff_eq_none, Option.isSome_iff_exists]
  rintro ⟨home, hhome⟩
  obtain ⟨-, -, ⟨called, -, hforeign⟩, -⟩ := moduleOf_eq h
  exact (mem_foreign hforeign (mem_foreign_of_home? hhome)).1 hname

end Assembly

/-! ## Placement -/

/-- The records of a unit that outputs hold, in the order of their declarations. -/
def generatedOf (outs : List Output) (u : SourceUnit) : List String :=
  u.names.filter (outs.flatMap (·.records)).contains

/-- Outputs hold the records that targets lead to, each once. -/
structure Selects (units : List SourceUnit) (targets : List String) (outs : List Output) : Prop where
  declared : ∀ name ∈ outs.flatMap (·.records), (declared? units name).isSome
  reached : ∀ name, name ∈ outs.flatMap (·.records) ↔ LedTo units targets name
  once : (outs.flatMap (·.records)).Nodup

/-- Outputs stand in the order of units, and hold records in the order of their declarations. -/
structure Places (units : List SourceUnit) (output : Option Path) (suffix : String)
    (outs : List Output) : Prop where
  perm : (Plan.sortUnits units).Perm units
  ordered : (Plan.sortUnits units).Pairwise fun u v => u.path.toString ≤ v.path.toString
  /-- The one file holds the records of all units. -/
  merged : ∀ file, output = some file → ∃ out, outs = [out] ∧ out.file = file ∧
    out.records = (Plan.sortUnits units).flatMap (generatedOf outs)
  /-- There is a file beside each unit with records, and it holds these. -/
  beside : output = none → List.Forall₂ (fun u out => outputPath? u.path suffix = some out.file ∧
    out.records = generatedOf outs u)
    ((Plan.sortUnits units).filter fun u => !(generatedOf outs u).isEmpty) outs
  errors : ∃ first rest, outs = first :: rest ∧ first.definesErrors = true ∧
    ∀ out ∈ rest, out.definesErrors = false

/-- The record whose routine a fragment names. -/
def Fragment.owner? : Fragment → Option String
  | .entity (.routine _ owner) => some owner
  | .member _ _ owner => some owner
  | _ => none

/-- Modules take the error classes from the first one, and find the routines that they call. -/
structure Links (units : List SourceUnit) (modules : List Module) : Prop where
  errors : ∃ first rest, modules = first :: rest ∧ first.errors = none ∧
    ∀ m ∈ rest, ∃ i, m.errors = some i ∧ i.source = moduleName first.file ∧
      i.names = ErrorClass.familyNames
  /-- A routine calls one of its own record or of a record that the declaration mentions. -/
  named : ∀ m ∈ modules, ∀ c ∈ m.codes, ∀ f ∈ c.functions m.call, ∀ x ∈ f.flatten, ∀ y,
    x.owner? = some y → y = c.name ∨ Mentions units c.name y ∧ ∃ r, x ∈ m.call r y
  here : ∀ m ∈ modules, ∀ c ∈ m.codes, ∀ y, Mentions units c.name y → y ∈ m.records →
    ∀ r, m.call r y = [.entity (.routine r y)]
  /-- Routines held elsewhere are called in the one module of that name, which holds them. -/
  elsewhere : ∀ m ∈ modules, ∀ c ∈ m.codes, ∀ y, Mentions units c.name y → y ∉ m.records →
    ∃ home ∈ modules, y ∈ home.records ∧ (∀ r, .routine r y ∈ home.bindings) ∧
      (∀ r, m.call r y = [.member (moduleName home.file) r y]) ∧
      moduleName home.file ∈ m.others ∧
      ∀ other ∈ modules, moduleName other.file = moduleName home.file → other = home

namespace Assembly

variable {s : Schema} {p : Plan} {m : Module} {units : List SourceUnit} {selected : List String}
  {output : Option Path} {settings : Settings} {modules : List Module}

/-- What a routine calls is what its code says. -/
theorem mem_call_of_owner? {c : RecordCode} {f : List CodeLine} (hf : f ∈ c.functions m.call)
    {x : Fragment} (hx : x ∈ f.flatten) {y : String} (hy : x.owner? = some y) :
    y = c.name ∨ y ∈ c.callees ∧ ∃ r, x ∈ m.call r y := by
  obtain ⟨r, hr⟩ := Printer.makesLines_function hf
  obtain ⟨line, hline, hx⟩ := List.mem_flatten.mp hx
  cases hr line hline x hx with
  | @call name _ hname hcall =>
    have howner : x.owner? = some name := by
      unfold Module.call at hcall
      split at hcall <;>
      · obtain rfl := List.mem_singleton.mp hcall
        rfl
    obtain rfl := Option.some.inj (howner.symm.trans hy)
    exact .inr ⟨hname, r, hcall⟩
  | marshalTo => exact .inl (Option.some.inj hy).symm
  | _ => cases hy

/-- The code of a record in a module calls the records that the declaration mentions. -/
theorem mem_callees_iff {a : Arena} {entries : List (String × NodeId)} {k : Classifier}
    (hmarks : s.Marks a entries (declaredCatalog units) k) {header : String} {part : ModulePlan}
    (h : moduleOf s p header part = .ok m) {c : RecordCode} (hc : c ∈ m.codes) {y : String} :
    y ∈ c.callees ↔ Mentions units c.name y := by
  obtain ⟨-, -, -, hcodes, -⟩ := moduleOf_eq h
  obtain ⟨record, -, hcode, rfl⟩ :=
    exists_of_forall₂ (RecordCode.ofRecords_eq_ok hcodes).flip hc
  obtain ⟨fields, hfields, hright⟩ := hmarks.right hcode
  rw [hright.mem_callees_iff, mentions_iff hfields]

/-- Modules of one plan that are not alone lie beside each other, so their names tell them apart. -/
theorem file_eq_of_moduleName (hsettings : settings.validate = .ok settings)
    (hplan : Plan.ofUnits s units selected output settings.suffix = .ok p)
    (hsiblings : ∀ u ∈ units, ∀ v ∈ units, u.path.parent = v.path.parent) {part other : ModulePlan}
    (hpart : part ∈ p.modules) (hother : other ∈ p.modules)
    (heq : moduleName part.file = moduleName other.file) : part.file = other.file := by
  by_cases hne : part = other
  · rw [hne]
  · obtain ⟨u, hu, hfile⟩ := Plan.named_ofUnits hplan hother hpart (Ne.symm hne)
    obtain ⟨v, hv, hfile'⟩ := Plan.named_ofUnits hplan hpart hother hne
    exact outputPath?_injOn hsettings hfile hfile' (hsiblings u hu v hv) heq

/-- The first module defines the error classes, and all others take them from it. -/
theorem errors_of_modules
    (hplan : Plan.ofUnits s units selected output settings.suffix = .ok p)
    (hmodules : List.Forall₂ (fun part m => moduleOf s p settings.header part = .ok m) p.modules
      modules)
    (hne : p.modules ≠ []) (hfiles : (p.modules.map (·.file)).Nodup) :
    ∃ first rest, modules = first :: rest ∧ first.errors = none ∧
      ∀ m ∈ rest, ∃ i, m.errors = some i ∧ i.source = moduleName first.file ∧
        i.names = ErrorClass.familyNames := by
  obtain ⟨first, rest, hfirst⟩ := List.exists_cons_of_ne_nil hne
  rw [hfirst, List.map_cons, List.nodup_cons] at hfiles
  rw [hfirst] at hmodules
  obtain _ | ⟨hmodule, hrest⟩ := hmodules
  obtain ⟨-, -, -, -, hfile, -, herrors, -⟩ := moduleOf_eq hmodule
  refine ⟨_, _, rfl, herrors.trans (errorImport_first hfirst), fun m hm => ?_⟩
  obtain ⟨part, hpart, hmodule'⟩ := exists_of_forall₂ hrest.flip hm
  obtain ⟨-, -, -, -, -, -, herrors', -⟩ := moduleOf_eq hmodule'
  have hother : part.file ≠ first.file := fun heq => hfiles.1 (heq ▸ List.mem_map_of_mem hpart)
  obtain ⟨u, -, himport⟩ := errorImport_other hplan hfirst hother
  exact ⟨_, herrors'.trans himport, by rw [hfile]; rfl, rfl⟩

/-- A record that is called but not held is held by the only module of the name that is called. -/
theorem home_of_callee (hsettings : settings.validate = .ok settings)
    (hplan : Plan.ofUnits s units selected output settings.suffix = .ok p)
    (hmodules : List.Forall₂ (fun part m => moduleOf s p settings.header part = .ok m) p.modules
      modules)
    (hfiles : (p.modules.map (·.file)).Nodup)
    (hsiblings : ∀ u ∈ units, ∀ v ∈ units, u.path.parent = v.path.parent) (hm : m ∈ modules)
    {c : RecordCode} (hc : c ∈ m.codes) {y : String} (hy : y ∈ c.callees) (hheld : y ∉ m.records) :
    ∃ home ∈ modules, y ∈ home.records ∧ m.home? y = some (moduleName home.file) ∧
      moduleName home.file ∈ m.others ∧
      ∀ other ∈ modules, moduleName other.file = moduleName home.file → other = home := by
  obtain ⟨part, hpart, hmodule, -⟩ := exists_part hmodules hm
  rw [records_moduleOf hmodule] at hheld
  obtain ⟨name, hname⟩ := Option.isSome_iff_exists.mp
    (isSome_home? hsettings hplan hpart hmodule hc hy hheld)
  obtain ⟨other, hother, rfl, hrecord⟩ := exists_home hmodule hname
  obtain ⟨home, hhome, hmodule', hfile⟩ := exists_module hmodules hother
  refine ⟨home, hhome, records_moduleOf hmodule' ▸ hrecord, hfile ▸ hname,
    hfile ▸ mem_others hmodule hname, fun m' hm' heq => ?_⟩
  obtain ⟨part', hpart', hmade, hfile'⟩ := exists_part hmodules hm'
  rw [hfile', hfile] at heq
  have hsame := file_eq_of_moduleName hsettings hplan hsiblings hpart' hother heq
  obtain rfl := List.inj_on_of_nodup_map hfiles hpart' hother hsame
  exact Except.ok.inj (hmade.symm.trans hmodule')

/-- Modules that are assembled find the routines that they call. -/
theorem links {a : Arena} {entries : List (String × NodeId)} {k : Classifier}
    (hmarks : s.Marks a entries (declaredCatalog units) k)
    (hsettings : settings.validate = .ok settings)
    (hplan : Plan.ofUnits s units selected output settings.suffix = .ok p)
    (hmodules : List.Forall₂ (fun part m => moduleOf s p settings.header part = .ok m) p.modules
      modules)
    (hne : p.modules ≠ []) (hfiles : (p.modules.map (·.file)).Nodup)
    (hsiblings : ∀ u ∈ units, ∀ v ∈ units, u.path.parent = v.path.parent) : Links units modules := by
  have hcallees {m : Module} (hm : m ∈ modules) {c : RecordCode} (hc : c ∈ m.codes) {y : String} :
      y ∈ c.callees ↔ Mentions units c.name y := by
    obtain ⟨part, -, hmodule, -⟩ := exists_part hmodules hm
    exact mem_callees_iff hmarks hmodule hc
  constructor
  case errors => exact errors_of_modules hplan hmodules hne hfiles
  case named =>
    intro m hm c hc f hf x hx y hy
    rw [← hcallees hm hc]
    exact mem_call_of_owner? hf hx hy
  case here =>
    intro m hm c _ y _ hheld r
    obtain ⟨part, -, hmodule, -⟩ := exists_part hmodules hm
    rw [Module.call, home?_of_mem hmodule (records_moduleOf hmodule ▸ hheld)]
  case elsewhere =>
    intro m hm c hc y hy hheld
    obtain ⟨home, hhome, hrecord, hname, hother, honly⟩ := home_of_callee hsettings hplan hmodules
      hfiles hsiblings hm hc ((hcallees hm hc).mpr hy) hheld
    exact ⟨home, hhome, hrecord, fun _ => Module.Assembled.routine_mem_bindings hrecord _,
      fun r => by rw [Module.call, hname], hother, honly⟩

/-! ### Outputs -/

variable {accepts : String → Bool} {outs : List Output}

/-- The steps of an assembly that returns. -/
theorem assemble_steps {selected : Option (List String)}
    (h : assemble accepts s units selected output settings = .ok outs) :
    ∃ p modules, Plan.ofUnits s units (selected.getD s.order) output settings.suffix = .ok p ∧
      p.modules ≠ [] ∧
      List.Forall₂ (fun part m => moduleOf s p settings.header part = .ok m) p.modules modules ∧
      List.Forall₂ (fun m out => outputOf accepts m = .ok out) modules outs := by
  obtain ⟨p, hplan, h⟩ := Outcome.bind_eq_ok.mp h
  split at h
  · cases h
  case isFalse hsome =>
  obtain ⟨modules, hmodules, houts⟩ := forall₂_comp_iff.mp
    ((Outcome.mapM_eq_ok_iff.mp h).imp fun part out hpart => Outcome.bind_eq_ok.mp hpart)
  exact ⟨p, modules, hplan, fun hnil => hsome (List.isEmpty_iff.mpr hnil), hmodules, houts⟩

/-- Outputs are those of the parts of the plan. -/
theorem outputs_of_parts
    (hmodules : List.Forall₂ (fun part m => moduleOf s p settings.header part = .ok m) p.modules
      modules)
    (houts : List.Forall₂ (fun m out => outputOf accepts m = .ok out) modules outs) :
    List.Forall₂ (fun part out => out.file = part.file ∧ out.records = part.records)
      p.modules outs := by
  refine (forall₂_comp_iff.mpr ⟨modules, hmodules, houts⟩).imp fun part out ⟨m, hm, hout⟩ => ?_
  obtain ⟨-, -, -, -, hfile, -⟩ := moduleOf_eq hm
  obtain ⟨hfile', hrecords, -⟩ := outputOf_eq hout
  exact ⟨hfile'.trans hfile, hrecords.trans (records_moduleOf hm)⟩

/-- Outputs hold what is chosen from the units. -/
theorem records_of_outputs
    (hplan : Plan.ofUnits s units selected output settings.suffix = .ok p)
    (hparts : List.Forall₂ (fun part out => out.file = part.file ∧ out.records = part.records)
      p.modules outs) :
    outs.flatMap (·.records) = (Plan.sortUnits units).flatMap (Plan.chosen s selected) := by
  have hsame : outs.map (·.records) = p.modules.map (·.records) :=
    map_eq_map_of_forall₂ (hparts.flip.imp fun _ _ h => h.2)
  rw [List.flatMap_def, hsame, ← List.flatMap_def, Plan.records_ofUnits hplan]

/-- What is chosen from a unit is what the outputs hold of it. -/
theorem chosen_eq_generatedOf
    (hrecords : outs.flatMap (·.records) =
      (Plan.sortUnits units).flatMap (Plan.chosen s s.order))
    {u : SourceUnit} (hu : u ∈ Plan.sortUnits units) :
    Plan.chosen s s.order u = generatedOf outs u := by
  refine List.filter_congr fun name hname => ?_
  rw [Schema.contains, Bool.and_self, Bool.eq_iff_iff, List.contains_iff_mem, List.contains_iff_mem,
    hrecords, List.mem_flatMap]
  constructor
  · intro horder
    refine ⟨u, hu, List.mem_filter.mpr ⟨hname, ?_⟩⟩
    simpa [Schema.contains] using horder
  · rintro ⟨v, -, hchosen⟩
    simpa [Schema.contains] using (List.mem_filter.mp hchosen).2

/-- Where a plan puts records. -/
theorem places (hplan : Plan.ofUnits s units s.order output settings.suffix = .ok p)
    (hmodules : List.Forall₂ (fun part m => moduleOf s p settings.header part = .ok m) p.modules
      modules)
    (houts : List.Forall₂ (fun m out => outputOf accepts m = .ok out) modules outs)
    (hlinks : Links units modules) : Places units output settings.suffix outs := by
  have hparts := outputs_of_parts hmodules houts
  have hchosen {u : SourceUnit} (hu : u ∈ Plan.sortUnits units) :
      Plan.chosen s s.order u = generatedOf outs u :=
    chosen_eq_generatedOf (records_of_outputs hplan hparts) hu
  refine ⟨Plan.perm_sortUnits units, Plan.pairwise_sortUnits units, ?_, ?_, ?_⟩
  · rintro file rfl
    obtain ⟨first, rest, rfl, -⟩ := hlinks.errors
    obtain rfl := Except.ok.inj hplan
    dsimp only [Plan.merged] at hparts hmodules
    split at hmodules
    · cases hmodules
    · case isFalse hempty =>
      rw [if_neg hempty] at hparts
      obtain ⟨out, none', ⟨hfile, hheld⟩, hnone, rfl⟩ := List.forall₂_cons_left_iff.mp hparts
      obtain rfl := List.forall₂_nil_left_iff.mp hnone
      refine ⟨out, rfl, hfile, hheld.trans ?_⟩
      exact List.flatMap_congr fun u hu => hchosen hu
  · rintro rfl
    obtain ⟨parts, hparts', rfl⟩ := Outcome.map_eq_ok.mp hplan
    have hbeside := forall₂_comp_iff.mpr ⟨parts, Plan.besideUnits_eq_ok hparts', hparts⟩
    have hdrawn : ((Plan.sortUnits units).filter fun u => !(Plan.chosen s s.order u).isEmpty) =
        (Plan.sortUnits units).filter fun u => !(generatedOf outs u).isEmpty :=
      List.filter_congr fun u hu => by rw [hchosen hu]
    rw [hdrawn] at hbeside
    refine forall₂_imp_of_mem hbeside ?_
    rintro u hu out ⟨part, ⟨hfile, hheld⟩, hfile', hheld'⟩
    rw [hfile', hheld', hheld, hchosen (List.mem_of_mem_filter hu)]
    exact ⟨hfile, rfl⟩
  · obtain ⟨first, rest, rfl, hnone, herrors⟩ := hlinks.errors
    obtain _ | ⟨hfirst, hrest⟩ := houts
    refine ⟨_, _, rfl, ?_, fun out hout => ?_⟩
    · rw [(outputOf_eq hfirst).2.2.1, Module.definesErrors, hnone]
      rfl
    · obtain ⟨m, hm, hmade⟩ := exists_of_forall₂ hrest.flip hout
      obtain ⟨i, hi, -⟩ := herrors m hm
      rw [(outputOf_eq hmade).2.2.1, Module.definesErrors, hi]
      rfl

end Assembly

/-- A product holds the records of its schema, each once. -/
theorem Product.records_of_ofUnits {accepts : String → Bool} {units : List SourceUnit} {q : Request}
    {p : Product} (h : ofUnits accepts units q = .ok p) :
    (∀ name, name ∈ p.records ↔ name ∈ p.schema.order) ∧ p.records.Nodup := by
  obtain ⟨hnodup, r, ds, -, -, -, -, -, -, hassemble⟩ := ofUnits_settles h
  obtain ⟨plan, modules, hplan, -, hmodules, houts⟩ := Assembly.assemble_steps hassemble
  rw [Option.getD_some] at hplan
  obtain ⟨honce, hchosen⟩ := Plan.chosen_order (s := p.schema) hnodup
  rw [Product.records,
    Assembly.records_of_outputs hplan (Assembly.outputs_of_parts hmodules houts)]
  refine ⟨fun name => ?_, honce⟩
  rw [hchosen]
  exact and_iff_left_of_imp fun hname => mem_names_of_declared? (declared_of_mem_order h hname)

/-- **Selection and placement.** A fail-fast run that makes something, over units whose modules do
not go to one file, holds just the declared records that its targets lead to. Each is in one module,
which is the one beside its unit, or the one for all records. Modules stand in the order of units
and records in that of declarations, the first module alone defines the error classes, and each
routine of another record is called where it is held. -/
theorem Run.buildWith_places {accepts : String → Bool} {q : Request} {s s' : RunState} {p : Product}
    (hfast : q.settings.failFast = true)
    (hapart : q.output = none → OutputsApart q.settings.suffix p.units)
    (h : perform s (buildWith accepts q) = (.ok p, s')) :
    ∃ modules, Assembly.modulesOf p.schema p.units (some p.schema.order) q.output q.settings =
        .ok modules ∧
      modules.mapM (Assembly.outputOf accepts) = .ok p.outputs ∧
      Selects p.units q.targets p.outputs ∧
      Places p.units q.output q.settings.suffix p.outputs ∧
      Links p.units modules := by
  obtain ⟨t, hsettings, hload, hp⟩ := buildWith_eq_ok h
  obtain ⟨parent, hparent⟩ := load_siblings hload
  obtain ⟨-, r, ds, hr, hunits, -, -, hs, -, hassemble⟩ := Product.ofUnits_settles hp
  obtain ⟨k, hmarks⟩ := hr.marks hr.bears_declared hs
  rw [hunits] at hmarks
  obtain ⟨plan, modules, hplan, hne, hmodules, houts⟩ := Assembly.assemble_steps hassemble
  have hlinks : Links p.units modules := Assembly.links hmarks hsettings hplan hmodules hne
    (Plan.nodup_files hplan hapart) fun u hu v hv => (hparent u hu).trans (hparent v hv).symm
  obtain ⟨hrecords, honce⟩ := Product.records_of_ofUnits hp
  refine ⟨modules, ?_, Outcome.mapM_eq_ok_iff.mpr houts, ?_,
    Assembly.places hplan hmodules houts hlinks, hlinks⟩
  · exact Outcome.bind_eq_ok.mpr ⟨plan, hplan, Outcome.mapM_eq_ok_iff.mpr hmodules⟩
  · refine ⟨fun name hname => ?_, fun name => ?_, honce⟩
    · exact Product.declared_of_mem_order hp ((hrecords name).mp hname)
    · rw [← Product.safelyLedTo_iff hp hfast, ← Product.mem_order_iff hp (.inl hfast)]
      exact hrecords name

/-- A file with a record, one that lists it, and one that neither leads to. -/
def listedState : RunState where
  files := { entries := [(["types.py"], .file (.text ("@dataclass\nclass A:\n    n: uint64\n" ++
    "@dataclass\nclass B:\n    l: Annotated[List[A], 'ssz-max:\"4\"']\n" ++
    "@dataclass\nclass C:\n    n: uint64\n")))] }

/-- A request for the record that lists the other one. -/
def listedRequest : Request := { input := "types.py", targets := ["B"] }

/-- The record that is listed is generated too. -/
theorem places_listed : ∃ p s' modules,
    Run.perform listedState (Run.buildWith (fun _ => true) listedRequest) = (.ok p, s') ∧
      p.records = ["A", "B"] ∧ Selects p.units ["B"] p.outputs ∧
      Places p.units none "_encoding.py" p.outputs ∧ Links p.units modules := by
  have hcomputed : (Run.perform listedState (Run.buildWith (fun _ => true) listedRequest)).1.map
      (fun p => (p.units.length, p.records)) = .ok (1, ["A", "B"]) := by decide +kernel
  rcases hrun : Run.perform listedState (Run.buildWith (fun _ => true) listedRequest) with ⟨m, s'⟩
  rw [hrun] at hcomputed
  obtain ⟨p, rfl, hp⟩ := Outcome.map_eq_ok.mp hcomputed
  obtain ⟨hunits, hrecords⟩ := Prod.mk.inj hp
  have hapart : OutputsApart listedRequest.settings.suffix p.units := by
    obtain ⟨u, hu⟩ := List.length_eq_one_iff.mp hunits
    rw [hu]
    exact List.pairwise_singleton _ _
  obtain ⟨modules, -, -, hselects, hplaces, hlinks⟩ :=
    Run.buildWith_places rfl (fun _ => hapart) hrun
  exact ⟨p, s', modules, rfl, hrecords, hselects, hplaces, hlinks⟩

end SszSchema
