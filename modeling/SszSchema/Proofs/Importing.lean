import SszSchema.Proofs.Placement

/-!
# Importing generated modules

What happens when generated modules are imported. Modules that call each other's routines import
each other, so an import may meet a module that has been begun but not finished. `Module.steps` is
what a module does when it is imported, in the order of its text, and `Library.load` follows these
steps. As in the language, a module counts as loaded once it is begun: making it known asks for
nothing more, but a name can be taken from it only if it has bound the name already.

The order of the steps is what makes circular imports work. The first module of a run binds the error
classes before it makes any other module known, and record classes come from modules that import none
of these. So whenever the steps of another module are followed, the first module has bound the error
classes or has not been begun (`Library.Ready`). `Library.Arranged.loads` shows by induction on the
modules left that imports complete under this invariant, and `assemble_imports` says it of a run.

A module that makes another one known binds its name. If that is the name of an error class, then it
no longer has the class (`not_shares_clash`).
-/

namespace SszSchema

/-! ## Steps of an import -/

/-- A module as an import names it: beside the importing one in its package, or by its name
alone. -/
structure ModuleRef where
  sibling : Bool
  name : String
  deriving DecidableEq, Repr

/-- The module that names are taken from. -/
def NamesImport.ref (i : NamesImport) : ModuleRef := ⟨i.sibling, i.source⟩

/-- A step of a module that is imported. -/
inductive ImportStep where
  /-- Takes names from another module. -/
  | take (i : NamesImport)
  /-- Makes another module known. -/
  | know (other : ModuleRef)
  /-- Defines classes, functions or a list. -/
  | define (names : List String)

/-- The names that a step binds. -/
def ImportStep.names : ImportStep → List String
  | .take i => i.names
  | .know other => [other.name]
  | .define names => names

namespace Module

/-- The step that gives a module the error classes. -/
def errorStep (m : Module) : ImportStep :=
  match m.errors with
  | none => .define ErrorClass.familyNames
  | some i => .take i

/-- The names that a module defines after its imports: helpers, routines and the list of exports. -/
def ownNames (m : Module) : List String :=
  (Helper.kept m.helpers).map Helper.name ++ m.records.flatMap publicNames ++ [Entity.exports.name]

/-- What a module does when it is imported, in the order of its sections. -/
def steps (m : Module) : List ImportStep :=
  m.classes.map .take ++ [m.errorStep] ++ m.others.map (.know ⟨m.sibling, ·⟩) ++
    [.define m.ownNames]

/-- The steps of an assembled module bind what it is said to bind. -/
theorem Assembled.names_steps {m : Module} (h : m.Assembled) :
    m.steps.flatMap ImportStep.names = m.bindings.map Entity.name := by
  have herrors : m.errorStep.names = ErrorClass.familyNames := by
    unfold errorStep
    cases hi : m.errors with
    | none => rfl
    | some i => exact h.errors i hi
  have hclasses : (m.classes.map ImportStep.take).flatMap ImportStep.names = m.records := by
    rw [List.flatMap_map]
    exact h.classes
  have hothers : (m.others.map fun other => ImportStep.know ⟨m.sibling, other⟩).flatMap
      ImportStep.names = m.others := by
    rw [List.flatMap_map]
    exact List.flatMap_singleton' _
  have hown : (ImportStep.define m.ownNames).names = m.ownNames := rfl
  simp only [steps, List.flatMap_append, List.flatMap_singleton, hclasses, herrors, hothers, hown,
    h.map_name_bindings]
  simp [ownNames]

/-- What a module defines after its imports is not named like an error class. -/
theorem not_mem_familyNames_of_own {m : Module} {name : String} (h : name ∈ m.ownNames) :
    name ∉ ErrorClass.familyNames := by
  intro hfamily
  have hexported := ErrorClass.isExported_of_mem hfamily
  rcases List.mem_append.mp h with h | h
  · rcases List.mem_append.mp h with h | h
    · obtain ⟨k, -, rfl⟩ := List.mem_map.mp h
      exact ne_of_isExported hexported k.isExported_name rfl
    · obtain ⟨record, -, hmem⟩ := List.mem_flatMap.mp h
      obtain ⟨r, rfl⟩ := Routine.mem_publicNames.mp hmem
      exact r.name_ne (ErrorClass.take_of_mem hfamily) record rfl
  · rw [List.mem_singleton.mp h] at hexported
    cases hexported

end Module

/-! ## The interpreter -/

/-- What a name of a module stands for. -/
inductive Imported where
  /-- What a module has defined under a name. -/
  | defined (home : ModuleRef) (name : String)
  | module (other : ModuleRef)
  deriving DecidableEq, Repr

/-- The modules that have been begun, and what their names stand for. -/
structure Interpreter where
  loaded : List ModuleRef := []
  bound : ModuleRef → String → Option Imported := fun _ _ => none

/-- Why an import stops. -/
inductive ImportFault where
  /-- There is no such module. -/
  | missing (r : ModuleRef)
  /-- A name is taken from a module that has not bound it. -/
  | unbound (r : ModuleRef) (name : String)
  /-- Imports in each other are more than allowed for. -/
  | endless
  deriving DecidableEq, Repr

namespace Interpreter

variable {s : Interpreter} {r r' : ModuleRef} {names : List String} {name : String}
  {value : String → Option Imported}

/-- Begins a module. -/
def enter (s : Interpreter) (r : ModuleRef) : Interpreter := { s with loaded := r :: s.loaded }

/-- Binds names in a module. -/
def assign (s : Interpreter) (r : ModuleRef) (names : List String)
    (value : String → Option Imported) : Interpreter :=
  { s with bound := fun r' name => if r' = r ∧ name ∈ names then value name else s.bound r' name }

/-- Binds names to what a module defines. -/
def define (s : Interpreter) (r : ModuleRef) (names : List String) : Interpreter :=
  s.assign r names fun name => some (.defined r name)

@[simp] theorem loaded_enter : (s.enter r).loaded = r :: s.loaded := rfl

@[simp] theorem bound_enter : (s.enter r).bound = s.bound := rfl

@[simp] theorem loaded_assign : (s.assign r names value).loaded = s.loaded := rfl

@[simp] theorem loaded_define : (s.define r names).loaded = s.loaded := rfl

theorem bound_assign_of_ne (h : r' ≠ r) : (s.assign r names value).bound r' = s.bound r' := by
  funext name
  exact if_neg fun hboth => h hboth.1

theorem bound_assign_of_mem (h : name ∈ names) :
    (s.assign r names value).bound r name = value name := if_pos ⟨rfl, h⟩

theorem bound_assign_of_not_mem (h : name ∉ names) :
    (s.assign r names value).bound r name = s.bound r name := if_neg fun hboth => h hboth.2

end Interpreter

/-- The modules that can be imported: those that a run has generated, and others, which offer names
and import none of these. -/
structure Library where
  /-- Whether the generated modules belong to a package. -/
  inPackage : Bool
  modules : List Module
  offered : ModuleRef → Option (List String)

namespace Library

/-- How a generated module is named by imports. -/
def ref (l : Library) (m : Module) : ModuleRef := ⟨l.inPackage, moduleName m.file⟩

/-- The generated module that an import names. -/
def generated? (l : Library) (r : ModuleRef) : Option Module :=
  l.modules.find? fun m => l.ref m = r

/-- Follows a step of a module. -/
def follow (load : ModuleRef → Interpreter → Except ImportFault Interpreter) (self : ModuleRef)
    (s : Interpreter) : ImportStep → Except ImportFault Interpreter
  | .take i => do
      let s ← load i.ref s
      match i.names.find? fun name => (s.bound i.ref name).isNone with
      | some name => .error (.unbound i.ref name)
      | none => return s.assign self i.names (s.bound i.ref)
  | .know other => return (← load other s).assign self [other.name] fun _ => some (.module other)
  | .define names => return s.define self names

/-- Meets a module, which is followed only if it is a generated one and has not been begun. -/
def meet (l : Library) (begin : Module → Except ImportFault Interpreter) (r : ModuleRef)
    (s : Interpreter) : Except ImportFault Interpreter :=
  if r ∈ s.loaded then .ok s
  else
    match l.generated? r, l.offered r with
    | some m, _ => begin m
    | none, some names => .ok ((s.enter r).define r names)
    | none, none => .error (.missing r)

/-- Imports a module; the fuel bounds imports in each other. -/
def load (l : Library) : Nat → ModuleRef → Interpreter → Except ImportFault Interpreter
  | 0, r, s => l.meet (fun _ => .error .endless) r s
  | fuel + 1, r, s => l.meet (fun m => m.steps.foldlM (follow (l.load fuel) r) (s.enter r)) r s

/-- Imports generated modules one after the other. -/
def importAll (l : Library) (names : List String) : Except ImportFault Interpreter :=
  names.foldlM (fun s name => l.load l.modules.length ⟨l.inPackage, name⟩ s) {}

end Library

namespace Library

variable {l : Library} {first m : Module} {self : Option ModuleRef} {x r : ModuleRef}
  {s t u : Interpreter} {names : List String} {fuel : Nat}

/-! ## What imports leave behind -/

/-- No generated module that has been begun makes a module known that is named like an error
class. -/
def Clear (l : Library) (s : Interpreter) : Prop :=
  ∀ m ∈ l.modules, l.ref m ∈ s.loaded → ∀ other ∈ m.others, other ∉ ErrorClass.familyNames

/-- A module has bound the error classes, to those of the first module unless some name hides
them. -/
def HasErrors (l : Library) (first : Module) (s : Interpreter) (r : ModuleRef) : Prop :=
  ∀ name ∈ ErrorClass.familyNames, (s.bound r name).isSome ∧
    (l.Clear s → s.bound r name = some (.defined (l.ref first) name))

/-- What holds of a module that has been imported. -/
structure Whole (l : Library) (first : Module) (s : Interpreter) (r : ModuleRef) : Prop where
  offers : l.generated? r = none → ∀ names, l.offered r = some names →
    ∀ name ∈ names, (s.bound r name).isSome
  binds : ∀ m, l.generated? r = some m →
    ∀ name ∈ m.steps.flatMap ImportStep.names, (s.bound r name).isSome
  errors : ∀ m, l.generated? r = some m → l.HasErrors first s r
  knows : ∀ m, l.generated? r = some m → ∀ other ∈ m.others, other ∈ ErrorClass.familyNames →
    ∃ known, s.bound r other = some (.module known)

/-- What imports do, while one module is busy with its own steps: they begin modules and finish
these, and leave alone what had been begun before. Names stay bound. -/
structure Further (l : Library) (first : Module) (busy : Option ModuleRef) (s t : Interpreter) :
    Prop where
  loaded : s.loaded ⊆ t.loaded
  frame : ∀ r ∈ s.loaded, some r ≠ busy → t.bound r = s.bound r
  keeps : ∀ r ∈ s.loaded, ∀ name, (s.bound r name).isSome → (t.bound r name).isSome
  whole : ∀ r ∈ t.loaded, r ∉ s.loaded → some r ≠ busy → l.Whole first t r

theorem Clear.of_subset (h : l.Clear t) (hsub : s.loaded ⊆ t.loaded) : l.Clear s :=
  fun m hm hbegun => h m hm (hsub hbegun)

theorem HasErrors.of_eq (h : l.HasErrors first s r) (hbound : t.bound r = s.bound r)
    (hsub : s.loaded ⊆ t.loaded) : l.HasErrors first t r := by
  intro name hname
  rw [hbound]
  exact ⟨(h name hname).1, fun hclear => (h name hname).2 (hclear.of_subset hsub)⟩

theorem Whole.of_eq (h : l.Whole first s r) (hbound : t.bound r = s.bound r)
    (hsub : s.loaded ⊆ t.loaded) : l.Whole first t r := by
  refine ⟨?_, ?_, fun m hm => (h.errors m hm).of_eq hbound hsub, ?_⟩ <;> rw [hbound]
  · exact h.offers
  · exact h.binds
  · exact h.knows

namespace Further

theorem refl (s : Interpreter) : l.Further first self s s :=
  ⟨List.Subset.refl _, fun _ _ _ => rfl, fun _ _ _ => id, fun _ hr hnot => absurd hr hnot⟩

theorem trans (h : l.Further first self s t) (h' : l.Further first self t u) :
    l.Further first self s u := by
  refine ⟨List.Subset.trans h.loaded h'.loaded, fun r hr hne => ?_, fun r hr name hname => ?_,
    fun r hr hnot hne => ?_⟩
  · rw [h'.frame r (h.loaded hr) hne, h.frame r hr hne]
  · exact h'.keeps r (h.loaded hr) name (h.keeps r hr name hname)
  · by_cases hmid : r ∈ t.loaded
    · exact (h.whole r hmid hnot hne).of_eq (h'.frame r hmid hne) h'.loaded
    · exact h'.whole r hr hmid hne

/-- What is done while no module is busy may be done while one is. -/
theorem weaken (h : l.Further first none s t) : l.Further first self s t :=
  ⟨h.loaded, fun r hr _ => h.frame r hr nofun, h.keeps, fun r hr hnot _ => h.whole r hr hnot nofun⟩

/-- A busy module binds names. -/
theorem assign {value : String → Option Imported} (hvalue : ∀ name ∈ names, (value name).isSome) :
    l.Further first (some x) s (s.assign x names value) := by
  refine ⟨List.Subset.refl _, fun r _ hne => ?_, fun r _ name hname => ?_,
    fun r hr hnot => absurd hr hnot⟩
  · exact Interpreter.bound_assign_of_ne fun heq => hne (congrArg some heq)
  · unfold Interpreter.assign
    dsimp only
    split
    · case isTrue hboth => exact hvalue name hboth.2
    · exact hname

end Further

/-! ## Modules that work together -/

/-- What assembly makes sure of. -/
structure Arranged (l : Library) (first : Module) : Prop where
  first_mem : first ∈ l.modules
  distinct : (l.modules.map l.ref).Nodup
  apart : ∀ m ∈ l.modules, l.offered (l.ref m) = none
  classes : ∀ m ∈ l.modules, ∀ i ∈ m.classes,
    ∃ names, l.offered i.ref = some names ∧ i.names ⊆ names
  defines : first.errors = none
  takes : ∀ m ∈ l.modules, m ≠ first →
    ∃ i, m.errors = some i ∧ i.ref = l.ref first ∧ i.names = ErrorClass.familyNames
  others : ∀ m ∈ l.modules, ∀ other ∈ m.others, ∃ m' ∈ l.modules, l.ref m' = ⟨m.sibling, other⟩

/-- The modules that are not generated offer their names once they are loaded. -/
def Offers (l : Library) (s : Interpreter) : Prop :=
  ∀ r ∈ s.loaded, l.generated? r = none → ∀ names, l.offered r = some names →
    ∀ name ∈ names, (s.bound r name).isSome

/-- The first module, if it has been begun, has the error classes for others to take. -/
def Ready (l : Library) (first : Module) (s : Interpreter) : Prop :=
  l.ref first ∈ s.loaded → l.HasErrors first s (l.ref first)

/-- The number of generated modules that have not been begun. -/
def unloaded (l : Library) (s : Interpreter) : Nat :=
  (l.modules.filter fun m => l.ref m ∉ s.loaded).length

theorem mem_of_generated? (h : l.generated? r = some m) : m ∈ l.modules ∧ l.ref m = r :=
  ⟨List.mem_of_find?_eq_some h, by simpa using List.find?_some h⟩

theorem Arranged.generated? (h : l.Arranged first) (hm : m ∈ l.modules) :
    l.generated? (l.ref m) = some m := by
  have hsome : (l.generated? (l.ref m)).isSome := by
    rw [Library.generated?, List.find?_isSome]
    exact ⟨m, hm, decide_eq_true rfl⟩
  obtain ⟨m', hm'⟩ := Option.isSome_iff_exists.mp hsome
  obtain ⟨hmem, heq⟩ := mem_of_generated? hm'
  rw [hm', List.inj_on_of_nodup_map h.distinct hmem hm heq]

theorem Arranged.generated?_eq_none (h : l.Arranged first) (hr : l.offered r = some names) :
    l.generated? r = none := by
  rw [Option.eq_none_iff_forall_ne_some]
  intro m hm
  obtain ⟨hmem, rfl⟩ := mem_of_generated? hm
  rw [h.apart m hmem] at hr
  cases hr

theorem Arranged.ref_ne (h : l.Arranged first) (hm : m ∈ l.modules) (hne : m ≠ first) :
    some (l.ref first) ≠ some (l.ref m) := fun heq =>
  hne (List.inj_on_of_nodup_map h.distinct hm h.first_mem (Option.some.inj heq).symm)

theorem Arranged.busy (h : l.Arranged first) (hm : m ∈ l.modules) (x : ModuleRef)
    (hx : some (l.ref m) = some x) : l.generated? x ≠ none := by
  rw [← Option.some.inj hx, h.generated? hm]
  nofun

theorem Offers.further (h : l.Offers s) (hst : l.Further first self s t)
    (hself : ∀ x, self = some x → l.generated? x ≠ none) : l.Offers t := by
  intro r hr hgenerated names hnames name hname
  by_cases hbegun : r ∈ s.loaded
  · exact hst.keeps r hbegun name (h r hbegun hgenerated names hnames name hname)
  · have hne : some r ≠ self := fun heq => hself r heq.symm hgenerated
    exact (hst.whole r hr hbegun hne).offers hgenerated names hnames name hname

theorem Ready.further (harranged : l.Arranged first) (h : l.Ready first s)
    (hst : l.Further first self s t) (hself : some (l.ref first) ≠ self) : l.Ready first t := by
  intro hbegun
  by_cases hbefore : l.ref first ∈ s.loaded
  · exact (h hbefore).of_eq (hst.frame _ hbefore hself) hst.loaded
  · exact (hst.whole _ hbegun hbefore hself).errors first
      (harranged.generated? harranged.first_mem)

theorem unloaded_le (h : s.loaded ⊆ t.loaded) : l.unloaded t ≤ l.unloaded s := by
  refine List.Sublist.length_le (List.monotone_filter_right _ fun m hm => ?_)
  simp only [decide_eq_true_eq] at hm ⊢
  exact fun hbegun => hm (h hbegun)

theorem unloaded_enter (hm : m ∈ l.modules) (hnot : l.ref m ∉ s.loaded) :
    l.unloaded (s.enter (l.ref m)) < l.unloaded s := by
  have hfilter : (l.modules.filter fun m' => l.ref m' ∉ (s.enter (l.ref m)).loaded) =
      (l.modules.filter fun m' => l.ref m' ∉ s.loaded).filter fun m' => l.ref m' ≠ l.ref m := by
    rw [List.filter_filter]
    refine List.filter_congr fun m' _ => ?_
    simp
  rw [unloaded, hfilter]
  refine List.length_filter_lt_length_iff_exists.mpr ⟨m, ?_, ?_⟩
  · exact List.mem_filter.mpr ⟨hm, decide_eq_true hnot⟩
  · simp

/-! ## Steps -/

theorem load_of_mem (h : r ∈ s.loaded) : l.load fuel r s = .ok s := by
  cases fuel <;> simp [load, meet, h]

/-- A module that has not been begun is followed. -/
theorem load_of_generated (hr : l.generated? r = some m) (h : r ∉ s.loaded) :
    l.load (fuel + 1) r s = m.steps.foldlM (follow (l.load fuel) r) (s.enter r) := by
  simp [load, meet, h, hr]

/-- A module that is not generated offers its names. -/
theorem load_of_offered (hgenerated : l.generated? r = none) (hr : l.offered r = some names) :
    ∃ t, l.load fuel r s = .ok t ∧ l.Further first none s t ∧ r ∈ t.loaded := by
  by_cases h : r ∈ s.loaded
  · exact ⟨s, load_of_mem h, .refl s, h⟩
  · have hload : l.load fuel r s = .ok ((s.enter r).define r names) := by
      cases fuel <;> simp [load, meet, h, hgenerated, hr]
    have hframe {r' : ModuleRef} (hr' : r' ∈ s.loaded) :
        ((s.enter r).define r names).bound r' = s.bound r' :=
      Interpreter.bound_assign_of_ne fun heq => h (heq ▸ hr')
    refine ⟨_, hload, ⟨List.subset_cons_self _ _, fun r' hr' _ => hframe hr',
      fun r' hr' name hname => ?_, fun r' hr' hnot _ => ?_⟩, List.mem_cons_self⟩
    · rwa [hframe hr']
    · obtain rfl : r' = r := (List.mem_cons.mp hr').resolve_right hnot
      refine ⟨fun _ names' hnames' name hname => ?_, ?_, ?_, ?_⟩
      · obtain rfl := Option.some.inj (hr.symm.trans hnames')
        rw [Interpreter.define, Interpreter.bound_assign_of_mem hname]
        rfl
      all_goals
        intro m hm
        rw [hgenerated] at hm
        cases hm

variable {load : ModuleRef → Interpreter → Except ImportFault Interpreter}

/-- Names are taken from a module that has bound them. -/
theorem follow_take {i : NamesImport} (hload : load i.ref s = .ok t)
    (hbound : ∀ name ∈ i.names, (t.bound i.ref name).isSome) :
    follow load x s (.take i) = .ok (t.assign x i.names (t.bound i.ref)) := by
  have hnone : (i.names.find? fun name => (t.bound i.ref name).isNone) = none := by
    rw [List.find?_eq_none]
    intro name hname
    simpa [Option.isSome_iff_ne_none] using hbound name hname
  refine Outcome.bind_eq_ok.mpr ⟨t, hload, ?_⟩
  rw [hnone]
  rfl

theorem follow_know {other : ModuleRef} (hload : load other s = .ok t) :
    follow load x s (.know other) =
      .ok (t.assign x [other.name] fun _ => some (.module other)) :=
  Outcome.bind_eq_ok.mpr ⟨t, hload, rfl⟩

/-- A busy module has bound the names of a step. -/
def Bound (x : ModuleRef) (step : ImportStep) (s : Interpreter) : Prop :=
  x ∈ s.loaded ∧ ∀ name ∈ step.names, (s.bound x name).isSome

theorem Bound.further {step : ImportStep} (h : Bound x step s) (hst : l.Further first self s t) :
    Bound x step t :=
  ⟨hst.loaded h.1, fun name hname => hst.keeps x h.1 name (h.2 name hname)⟩

/-- Record classes are taken from modules that offer them. -/
theorem Arranged.follow_classes (h : l.Arranged first) (fuel : Nat) (hm : m ∈ l.modules)
    (hs : l.Offers s) (hx : l.ref m ∈ s.loaded) :
    ∃ t, (m.classes.map .take).foldlM (follow (l.load fuel) (l.ref m)) s = .ok t ∧
      l.Further first (some (l.ref m)) s t ∧ (l.Offers t ∧ l.ref m ∈ t.loaded) ∧
      ∀ step ∈ m.classes.map .take, Bound (l.ref m) step t := by
  refine Outcome.exists_foldlM_further (R := l.Further first (some (l.ref m)))
    (I := fun s => l.Offers s ∧ l.ref m ∈ s.loaded) (P := Bound (l.ref m)) .refl .trans
    Bound.further (fun step hstep s hs => ?_) ⟨hs, hx⟩
  obtain ⟨hs, hx⟩ := hs
  obtain ⟨i, hi, rfl⟩ := List.mem_map.mp hstep
  obtain ⟨names, hnames, hsub⟩ := h.classes m hm i hi
  have hgenerated := h.generated?_eq_none hnames
  obtain ⟨t, hload, hst, hbegun⟩ := load_of_offered hgenerated hnames
  have ht : l.Offers t := hs.further hst nofun
  have hbound (name : String) (hname : name ∈ i.names) : (t.bound i.ref name).isSome :=
    ht i.ref hbegun hgenerated names hnames name (hsub hname)
  have hassign : l.Further first (some (l.ref m)) t (t.assign (l.ref m) i.names (t.bound i.ref)) :=
    .assign hbound
  refine ⟨_, follow_take hload hbound, hst.weaken.trans hassign, ⟨ht.further hassign (h.busy hm),
    hst.loaded hx⟩, hst.loaded hx, fun name (hname : name ∈ i.names) => ?_⟩
  rw [Interpreter.bound_assign_of_mem hname]
  exact hbound name hname

/-- What imports with some fuel achieve. -/
def Loads (l : Library) (first : Module) (fuel : Nat) : Prop :=
  ∀ {m : Module} {s : Interpreter}, m ∈ l.modules → l.Offers s → l.Ready first s →
    l.unloaded s ≤ fuel →
    ∃ t, l.load fuel (l.ref m) s = .ok t ∧ l.Further first none s t ∧ l.ref m ∈ t.loaded

/-- The first module defines the error classes, and others find them there. -/
theorem Arranged.follow_errors (h : l.Arranged first) (hload : l.Loads first fuel)
    (hm : m ∈ l.modules) (hs : l.Offers s) (hready : m ≠ first → l.Ready first s)
    (hfuel : l.unloaded s ≤ fuel) (hx : l.ref m ∈ s.loaded) :
    ∃ t, follow (l.load fuel) (l.ref m) s m.errorStep = .ok t ∧
      l.Further first (some (l.ref m)) s t ∧ l.Offers t ∧ l.Ready first t ∧
      l.HasErrors first t (l.ref m) ∧ Bound (l.ref m) m.errorStep t := by
  by_cases hne : m = first
  · subst hne
    have hstep : m.errorStep = .define ErrorClass.familyNames := by
      rw [Module.errorStep, h.defines]
    have hdefine : l.Further m (some (l.ref m)) s (s.define (l.ref m) ErrorClass.familyNames) :=
      .assign fun _ _ => rfl
    have herrors : l.HasErrors m (s.define (l.ref m) ErrorClass.familyNames) (l.ref m) := by
      intro name hname
      rw [Interpreter.define, Interpreter.bound_assign_of_mem hname]
      exact ⟨rfl, fun _ => rfl⟩
    rw [hstep]
    exact ⟨_, rfl, hdefine, hs.further hdefine (h.busy hm), fun _ => herrors, herrors, hx,
      fun name hname => (herrors name hname).1⟩
  · obtain ⟨i, hi, href, hnames⟩ := h.takes m hm hne
    have hstep : m.errorStep = .take i := by rw [Module.errorStep, hi]
    obtain ⟨t, hfirst, hst, hbegun⟩ := hload h.first_mem hs (hready hne) hfuel
    have hself : some (l.ref first) ≠ none := nofun
    have herrors := (hready hne).further h hst hself hbegun
    rw [← href] at hfirst
    have hbound (name : String) (hname : name ∈ i.names) : (t.bound i.ref name).isSome := by
      rw [href]
      exact (herrors name (hnames ▸ hname)).1
    have hassign : l.Further first (some (l.ref m)) t
        (t.assign (l.ref m) i.names (t.bound i.ref)) := .assign hbound
    have htaken : l.HasErrors first (t.assign (l.ref m) i.names (t.bound i.ref)) (l.ref m) := by
      intro name hname
      rw [Interpreter.bound_assign_of_mem (hnames ▸ hname), href]
      exact herrors name hname
    rw [hstep]
    refine ⟨_, follow_take hfirst hbound, hst.weaken.trans hassign,
      (hs.further hst nofun).further hassign (h.busy hm),
      ((hready hne).further h hst hself).further h hassign (h.ref_ne hm hne), htaken,
      hst.loaded hx, fun name hname => (htaken name (hnames ▸ hname)).1⟩

/-- A module that has the error classes and goes on to make other modules known. -/
structure Working (l : Library) (first : Module) (fuel : Nat) (m : Module) (s : Interpreter) :
    Prop where
  offers : l.Offers s
  ready : l.Ready first s
  unloaded : l.unloaded s ≤ fuel
  errors : l.HasErrors first s (l.ref m)
  begun : l.ref m ∈ s.loaded

/-- A name stands for a module. -/
def Known (s : Interpreter) (r : ModuleRef) (name : String) : Prop :=
  ∃ known, s.bound r name = some (.module known)

/-- Another module is made known. -/
theorem Arranged.follow_other (h : l.Arranged first) (hload : l.Loads first fuel)
    (hm : m ∈ l.modules) (hs : l.Working first fuel m s) {other : String}
    (hother : other ∈ m.others) :
    ∃ t, follow (l.load fuel) (l.ref m) s (.know ⟨m.sibling, other⟩) = .ok t ∧
      l.Further first (some (l.ref m)) s t ∧ l.Working first fuel m t ∧ Known t (l.ref m) other ∧
      ∀ name, Known s (l.ref m) name → Known t (l.ref m) name := by
  obtain ⟨m', hm', href⟩ := h.others m hm other hother
  obtain ⟨t, hrun, hst, -⟩ := hload hm' hs.offers hs.ready hs.unloaded
  rw [href] at hrun
  have hsame : t.bound (l.ref m) = s.bound (l.ref m) := hst.frame _ hs.begun nofun
  let u := t.assign (l.ref m) [other] fun _ => some (.module ⟨m.sibling, other⟩)
  have hassign : l.Further first (some (l.ref m)) t u := .assign fun _ _ => rfl
  have hat : u.bound (l.ref m) other = some (.module ⟨m.sibling, other⟩) :=
    Interpreter.bound_assign_of_mem List.mem_cons_self
  have helse {name : String} (hne : name ≠ other) :
      u.bound (l.ref m) name = s.bound (l.ref m) name :=
    (Interpreter.bound_assign_of_not_mem (by simpa using hne)).trans (by rw [hsame])
  have herrors : l.HasErrors first u (l.ref m) := by
    intro name hname
    by_cases heq : name = other
    · subst heq
      rw [hat]
      exact ⟨rfl, fun hclear => absurd hname (hclear m hm (hst.loaded hs.begun) name hother)⟩
    · rw [helse heq]
      have hbefore := hs.errors name hname
      exact ⟨hbefore.1, fun hclear => hbefore.2 (hclear.of_subset hst.loaded)⟩
  have hready : l.Ready first u := by
    by_cases hne : m = first
    · subst hne
      exact fun _ => herrors
    · exact (hs.ready.further h hst nofun).further h hassign (h.ref_ne hm hne)
  refine ⟨u, follow_know hrun, hst.weaken.trans hassign, ⟨?_, hready, ?_, herrors, ?_⟩, ⟨_, hat⟩,
    fun name hname => ?_⟩
  · exact (hs.offers.further hst nofun).further hassign (h.busy hm)
  · exact (unloaded_le hst.loaded).trans hs.unloaded
  · exact hst.loaded hs.begun
  · by_cases heq : name = other
    · exact heq ▸ ⟨_, hat⟩
    · rw [Known, helse heq]
      exact hname

/-- All other modules are made known, under names that then stand for modules. -/
theorem Arranged.follow_others (h : l.Arranged first) (hload : l.Loads first fuel)
    (hm : m ∈ l.modules) (hs : l.Working first fuel m s) :
    ∃ t, (m.others.map (.know ⟨m.sibling, ·⟩)).foldlM (follow (l.load fuel) (l.ref m)) s = .ok t ∧
      l.Further first (some (l.ref m)) s t ∧ l.Working first fuel m t ∧
      ∀ other ∈ m.others, Known t (l.ref m) other := by
  rw [List.foldlM_map]
  obtain ⟨t, ht, ⟨hst, -⟩, hworking, hknown⟩ := Outcome.exists_foldlM_further
    (R := fun s t => l.Further first (some (l.ref m)) s t ∧
      ∀ name, Known s (l.ref m) name → Known t (l.ref m) name)
    (P := fun other s => Known s (l.ref m) other)
    (fun s => ⟨.refl s, fun _ => id⟩)
    (fun hbc hcd => ⟨hbc.1.trans hcd.1, fun name hname => hcd.2 name (hbc.2 name hname)⟩)
    (fun hP hR => hR.2 _ hP)
    (fun other hother s hs => by
      obtain ⟨t, hrun, hst, hworking, hknown, hkeep⟩ := h.follow_other hload hm hs hother
      exact ⟨t, hrun, ⟨hst, hkeep⟩, hworking, hknown⟩) hs
  exact ⟨t, ht, hst, hworking, hknown⟩

/-- A module that has been begun and finished is an import like any other. -/
theorem Further.finish (h : l.Further first (some r) (s.enter r) t) (hr : r ∉ s.loaded)
    (hwhole : l.Whole first t r) : l.Further first none s t := by
  have hsub : s.loaded ⊆ (s.enter r).loaded := List.subset_cons_self _ _
  refine ⟨List.Subset.trans hsub h.loaded, fun r' hr' _ => ?_, fun r' hr' => h.keeps r' (hsub hr'),
    fun r' hr' hnot _ => ?_⟩
  · exact h.frame r' (hsub hr') fun heq => hr (Option.some.inj heq ▸ hr')
  · by_cases heq : r' = r
    · exact heq ▸ hwhole
    · exact h.whole r' hr' (fun hmem => hnot ((List.mem_cons.mp hmem).resolve_left heq))
        fun hsome => heq (Option.some.inj hsome)

/-- A module that has taken all its steps has all that it binds. -/
theorem Arranged.whole (h : l.Arranged first) (hm : m ∈ l.modules)
    (hs : l.Working first fuel m s)
    (hbound : ∀ step ∈ m.classes.map .take ++ [m.errorStep], Bound (l.ref m) step s)
    (hknown : ∀ other ∈ m.others, Known s (l.ref m) other) :
    l.Whole first (s.define (l.ref m) m.ownNames) (l.ref m) := by
  have hgenerated := h.generated? hm
  have hown : l.Further first (some (l.ref m)) s (s.define (l.ref m) m.ownNames) :=
    .assign fun _ _ => rfl
  have hfamily {name : String} (hname : name ∈ ErrorClass.familyNames) :
      (s.define (l.ref m) m.ownNames).bound (l.ref m) name = s.bound (l.ref m) name :=
    Interpreter.bound_assign_of_not_mem fun hmem =>
      Module.not_mem_familyNames_of_own hmem hname
  refine ⟨fun hnone => ?_, fun m' hm' name hname => ?_, fun m' hm' name hname => ?_,
    fun m' hm' other hother hname => ?_⟩
  · rw [hgenerated] at hnone
    cases hnone
  · obtain rfl := Option.some.inj (hgenerated.symm.trans hm')
    obtain ⟨step, hstep, hname⟩ := List.mem_flatMap.mp hname
    rcases List.mem_append.mp hstep with hstep | hstep
    · rcases List.mem_append.mp hstep with hstep | hstep
      · exact ((hbound step hstep).further hown).2 name hname
      · obtain ⟨other, hother, rfl⟩ := List.mem_map.mp hstep
        obtain rfl : name = other := by simpa [ImportStep.names] using hname
        obtain ⟨known, hat⟩ := hknown name hother
        exact hown.keeps _ hs.begun name (by rw [hat]; rfl)
    · obtain rfl := List.mem_singleton.mp hstep
      replace hname : name ∈ m.ownNames := hname
      rw [Interpreter.define, Interpreter.bound_assign_of_mem hname]
      rfl
  · rw [hfamily hname]
    exact hs.errors name hname
  · obtain rfl := Option.some.inj (hgenerated.symm.trans hm')
    rw [hfamily hname]
    exact hknown other hother

/-- A module that is begun is finished. -/
theorem Arranged.follow_steps (h : l.Arranged first) (hload : l.Loads first fuel)
    (hm : m ∈ l.modules) (hs : l.Offers s) (hready : l.Ready first s)
    (hfuel : l.unloaded s ≤ fuel + 1) (hx : l.ref m ∉ s.loaded) :
    ∃ t, m.steps.foldlM (follow (l.load fuel) (l.ref m)) (s.enter (l.ref m)) = .ok t ∧
      l.Further first none s t ∧ l.ref m ∈ t.loaded := by
  have hbegun : l.ref m ∈ (s.enter (l.ref m)).loaded := List.mem_cons_self
  have hless : l.unloaded (s.enter (l.ref m)) ≤ fuel :=
    Nat.le_of_lt_succ ((unloaded_enter hm hx).trans_le hfuel)
  have hs₀ : l.Offers (s.enter (l.ref m)) := by
    intro r hr hnone
    refine hs r ((List.mem_cons.mp hr).resolve_left ?_) hnone
    rintro rfl
    exact h.busy hm _ rfl hnone
  have hready₀ (hne : m ≠ first) : l.Ready first (s.enter (l.ref m)) := by
    intro hmem
    have hbefore := (List.mem_cons.mp hmem).resolve_left fun heq =>
      h.ref_ne hm hne (congrArg some heq)
    exact (hready hbefore).of_eq rfl (List.subset_cons_self _ _)
  obtain ⟨t₁, hrun₁, hst₁, ⟨hs₁, hx₁⟩, hclasses⟩ := h.follow_classes fuel hm hs₀ hbegun
  have hless₁ := (unloaded_le hst₁.loaded).trans hless
  obtain ⟨t₂, hrun₂, hst₂, hs₂, hready₂, herrors, hbound⟩ := h.follow_errors hload hm hs₁
    (fun hne => (hready₀ hne).further h hst₁ (h.ref_ne hm hne)) hless₁ hx₁
  have hworking : l.Working first fuel m t₂ :=
    ⟨hs₂, hready₂, (unloaded_le hst₂.loaded).trans hless₁, herrors, hst₂.loaded hx₁⟩
  obtain ⟨t₃, hrun₃, hst₃, hworking₃, hknown⟩ := h.follow_others hload hm hworking
  have hown : l.Further first (some (l.ref m)) t₃ (t₃.define (l.ref m) m.ownNames) :=
    .assign fun _ _ => rfl
  have hall := ((hst₁.trans hst₂).trans hst₃).trans hown
  have hwhole := h.whole hm hworking₃ (fun step hstep => ?_) hknown
  · refine ⟨_, ?_, hall.finish hx hwhole, hworking₃.begun⟩
    rw [Module.steps, List.foldlM_append, List.foldlM_append, List.foldlM_append, hrun₁]
    refine Outcome.bind_eq_ok.mpr ⟨t₃, Outcome.bind_eq_ok.mpr ⟨t₂, ?_, hrun₃⟩, rfl⟩
    exact Outcome.bind_eq_ok.mpr ⟨t₁, rfl, Outcome.bind_eq_ok.mpr ⟨t₂, hrun₂, rfl⟩⟩
  · rcases List.mem_append.mp hstep with hstep | hstep
    · exact (hclasses step hstep).further (hst₂.trans hst₃)
    · obtain rfl := List.mem_singleton.mp hstep
      exact hbound.further hst₃

/-- Imports of generated modules complete, however they lead to each other. -/
theorem Arranged.loads (h : l.Arranged first) (fuel : Nat) : l.Loads first fuel := by
  induction fuel with
  | zero =>
    intro m s hm hs hready hfuel
    have hbegun : l.ref m ∈ s.loaded := by
      by_contra hnot
      exact Nat.not_lt_zero _ ((unloaded_enter hm hnot).trans_le hfuel)
    exact ⟨s, load_of_mem hbegun, .refl s, hbegun⟩
  | succ fuel ih =>
    intro m s hm hs hready hfuel
    by_cases hbegun : l.ref m ∈ s.loaded
    · exact ⟨s, load_of_mem hbegun, .refl s, hbegun⟩
    · rw [load_of_generated (h.generated? hm) hbegun]
      exact h.follow_steps ih hm hs hready hfuel hbegun

/-- Generated modules can be imported in any order, and are whole then. -/
theorem Arranged.importAll (h : l.Arranged first) {names : List String}
    (hnames : ∀ name ∈ names, ∃ m ∈ l.modules, moduleName m.file = name) :
    ∃ t, l.importAll names = .ok t ∧ (∀ name ∈ names, ⟨l.inPackage, name⟩ ∈ t.loaded) ∧
      ∀ r ∈ t.loaded, l.Whole first t r := by
  have hstep (name : String) (hname : name ∈ names) (s : Interpreter)
      (hs : l.Offers s ∧ l.Ready first s ∧ l.unloaded s ≤ l.modules.length) :
      ∃ t, l.load l.modules.length ⟨l.inPackage, name⟩ s = .ok t ∧ l.Further first none s t ∧
        (l.Offers t ∧ l.Ready first t ∧ l.unloaded t ≤ l.modules.length) ∧
        ⟨l.inPackage, name⟩ ∈ t.loaded := by
    obtain ⟨hs, hready, hfuel⟩ := hs
    obtain ⟨m, hm, rfl⟩ := hnames name hname
    obtain ⟨t, ht, hst, hbegun⟩ := h.loads _ hm hs hready hfuel
    exact ⟨t, ht, hst, ⟨hs.further hst nofun, hready.further h hst nofun,
      (unloaded_le hst.loaded).trans hfuel⟩, hbegun⟩
  have hstart : l.Offers {} ∧ l.Ready first {} ∧ l.unloaded {} ≤ l.modules.length :=
    ⟨fun r hr => absurd hr List.not_mem_nil, fun hbegun => absurd hbegun List.not_mem_nil,
      List.length_filter_le _ _⟩
  obtain ⟨t, ht, hst, -, hloaded⟩ := Outcome.exists_foldlM_further
    (R := l.Further first none)
    (P := fun name s => ⟨l.inPackage, name⟩ ∈ s.loaded) .refl .trans
    (fun hP hst => hst.loaded hP) hstep hstart
  exact ⟨t, ht, hloaded, fun r hr => hst.whole r hr List.not_mem_nil nofun⟩

/-- All generated modules that have been imported have the error classes of one module. -/
def SharesErrors (l : Library) (s : Interpreter) : Prop :=
  ∃ home, ∀ m ∈ l.modules, l.ref m ∈ s.loaded → ∀ name ∈ ErrorClass.familyNames,
    s.bound (l.ref m) name = some (.defined home name)

/-- Imported modules share the error classes unless one of them makes a module known that is named
like an error class. -/
theorem Arranged.sharesErrors_iff (h : l.Arranged first)
    (hwhole : ∀ r ∈ s.loaded, l.Whole first s r) : l.SharesErrors s ↔ l.Clear s := by
  constructor
  · rintro ⟨home, hshares⟩ m hm hbegun other hother hfamily
    obtain ⟨known, hknown⟩ := (hwhole _ hbegun).knows m (h.generated? hm) other hother hfamily
    rw [hshares m hm hbegun other hfamily] at hknown
    cases hknown
  · intro hclear
    refine ⟨l.ref first, fun m hm hbegun name hname => ?_⟩
    exact ((hwhole _ hbegun).errors m (h.generated? hm) name hname).2 hclear

end Library

/-! ## Modules of a run -/

namespace Assembly

variable {s : Schema} {units : List SourceUnit} {selected : List String} {settings : Settings}
  {p : Plan} {modules : List Module} {inPackage : Bool}
  {offered : ModuleRef → Option (List String)}

theorem sibling_moduleOf {header : String} {part : ModulePlan} {m : Module}
    (h : moduleOf s p header part = .ok m) : m.sibling = part.units.head?.any (·.inPackage) := by
  obtain ⟨⟨⟩, -, h⟩ := Outcome.bind_eq_ok.mp h
  obtain ⟨⟨⟩, -, h⟩ := Outcome.bind_eq_ok.mp h
  obtain ⟨called, -, h⟩ := Outcome.bind_eq_ok.mp h
  obtain ⟨found, -, h⟩ := Outcome.bind_eq_ok.mp h
  obtain ⟨codes, -, h⟩ := Outcome.bind_eq_ok.mp h
  obtain rfl := Outcome.pure_eq_ok.mp h
  rfl

/-- Each module of a plan without an output stands beside a unit. -/
theorem parent_of_plan {suffix : String} {part : ModulePlan}
    (hplan : Plan.ofUnits s units selected none suffix = .ok p) (hpart : part ∈ p.modules) :
    ∃ u ∈ units, part.file.parent = u.path.parent := by
  obtain ⟨parts, hparts, rfl⟩ := Outcome.map_eq_ok.mp hplan
  obtain ⟨-, u, hu, hfile⟩ := Plan.draws_besideUnits hparts hpart
  refine ⟨u, List.mem_mergeSort.mp hu, ?_⟩
  rw [outputPath?_eq_some hfile]
  simp [Path.child, Path.parent]

/-- Names are taken from modules beside the importing one. -/
theorem ref_takeFrom {file : Path} {u : SourceUnit} (hu : u.inPackage = inPackage)
    (hplace : file.parent.location = u.path.parent.location) (source : String)
    (names : List String) : (takeFrom file u source names).ref = ⟨inPackage, source⟩ := by
  simp [takeFrom, NamesImport.ref, hu, hplace]

/-- The parts of a plan without an output lie in the one directory of the units. -/
theorem location_of_plan {suffix : String}
    (hplace : ∀ u ∈ units, ∀ v ∈ units, u.path.parent.location = v.path.parent.location)
    (hplan : Plan.ofUnits s units selected none suffix = .ok p) {part : ModulePlan}
    (hpart : part ∈ p.modules) {u : SourceUnit} (hu : u ∈ units) :
    part.file.parent.location = u.path.parent.location := by
  obtain ⟨v, hv, hparent⟩ := parent_of_plan hplan hpart
  rw [hparent, hplace v hv u hu]

/-- A module is in the package that all units are in. -/
theorem sibling_eq (hpackage : ∀ u ∈ units, u.inPackage = inPackage) {output : Option Path}
    {suffix header : String} (hplan : Plan.ofUnits s units selected output suffix = .ok p)
    {part : ModulePlan} (hpart : part ∈ p.modules) {m : Module}
    (h : moduleOf s p header part = .ok m) : m.sibling = inPackage := by
  obtain ⟨hsub, hrecords⟩ := Plan.draws_ofUnits hplan hpart
  rw [sibling_moduleOf h]
  cases hunits : part.units with
  | nil =>
    rw [hunits] at hrecords
    exact absurd hrecords (Plan.records_ne_nil hplan hpart)
  | cons u us => exact hpackage u (hsub (hunits ▸ List.mem_cons_self))

/-- What a module makes known are modules of the same run. -/
theorem exists_of_mem_others {header : String}
    (hmodules : List.Forall₂ (fun part m => moduleOf s p header part = .ok m) p.modules modules)
    {part : ModulePlan} {m : Module} (h : moduleOf s p header part = .ok m) {other : String}
    (hother : other ∈ m.others) : ∃ m' ∈ modules, moduleName m'.file = other := by
  obtain ⟨-, -, ⟨called, -, hforeign⟩, -, -, -, -, hothers⟩ := moduleOf_eq h
  rw [hothers, List.mem_mergeSort, List.mem_eraseDups] at hother
  obtain ⟨e, he, rfl⟩ := List.mem_map.mp hother
  obtain ⟨-, home, hhome, -, hname⟩ := mem_foreign hforeign he
  obtain ⟨m', hm', -, hfile⟩ := exists_module hmodules hhome
  exact ⟨m', hm', by rw [hfile, hname]⟩

/-- The modules of a run over one directory work together. -/
theorem arranged (hpackage : ∀ u ∈ units, u.inPackage = inPackage)
    (hplace : ∀ u ∈ units, ∀ v ∈ units, u.path.parent.location = v.path.parent.location)
    (hoffered : ∀ u ∈ units, ∃ names, offered ⟨inPackage, u.moduleName⟩ = some names ∧
      u.names ⊆ names)
    (hplan : Plan.ofUnits s units selected none settings.suffix = .ok p) (hne : p.modules ≠ [])
    (hmodules : List.Forall₂ (fun part m => moduleOf s p settings.header part = .ok m) p.modules
      modules)
    (hnames : (modules.map fun m => moduleName m.file).Nodup)
    (hapart : ∀ m ∈ modules, offered ⟨inPackage, moduleName m.file⟩ = none) :
    ∃ first, modules.head? = some first ∧
      ({ inPackage, modules, offered } : Library).Arranged first := by
  obtain ⟨head, rest, hp⟩ := List.exists_cons_of_ne_nil hne
  obtain ⟨first, rest', hfirst, hrest, rfl⟩ := List.forall₂_cons_left_iff.mp (hp ▸ hmodules)
  obtain ⟨-, -, -, -, hfile, -, herrors, -⟩ := moduleOf_eq hfirst
  refine ⟨first, rfl, ?_⟩
  constructor
  case first_mem => exact List.mem_cons_self
  case distinct =>
    have hinjective : Function.Injective (ModuleRef.mk inPackage) := fun _ _ heq =>
      (ModuleRef.mk.injEq .. ▸ heq).2
    have hrefs := hnames.map hinjective
    rw [List.map_map] at hrefs
    exact hrefs
  case apart => exact hapart
  case defines => exact herrors.trans (errorImport_first hp)
  case classes =>
    intro m hm i hi
    obtain ⟨part, hpart, hmodule, -⟩ := exists_part hmodules hm
    obtain ⟨-, -, -, -, -, hclasses, -⟩ := moduleOf_eq hmodule
    rw [hclasses] at hi
    obtain ⟨u, hu, rfl⟩ := List.mem_map.mp (List.mem_of_mem_filter hi)
    have hu := (Plan.draws_ofUnits hplan hpart).1 hu
    obtain ⟨names, hnames, hsub⟩ := hoffered u hu
    refine ⟨names, ?_, fun name hname => hsub (List.mem_of_mem_filter hname)⟩
    rw [ref_takeFrom (hpackage u hu) (location_of_plan hplace hplan hpart hu)]
    exact hnames
  case takes =>
    intro m hm hother
    obtain ⟨part, hpart, hmodule, hpfile⟩ := exists_part hmodules hm
    obtain ⟨-, -, -, -, -, -, herrors', -⟩ := moduleOf_eq hmodule
    have hne : part.file ≠ head.file := fun heq =>
      hother (List.inj_on_of_nodup_map hnames hm List.mem_cons_self
        (congrArg moduleName (hpfile.trans (heq.trans hfile.symm))))
    obtain ⟨u, hu, himport⟩ := errorImport_other hplan hp hne
    refine ⟨_, herrors'.trans himport, ?_, rfl⟩
    rw [ref_takeFrom (hpackage u hu) (location_of_plan hplace hplan hpart hu), Library.ref, hfile]
  case others =>
    intro m hm other hother
    obtain ⟨part, hpart, hmodule, -⟩ := exists_part hmodules hm
    obtain ⟨m', hm', hname⟩ := exists_of_mem_others hmodules hmodule hother
    exact ⟨m', hm', by rw [Library.ref, hname, sibling_eq hpackage hplan hpart hmodule]⟩

end Assembly

/-- **Importing generated modules.** Whenever a run over units of one directory, all in a package or
none, assembles modules under names that no other module has, these can be imported one after the
other in any order: each import completes, whatever has been imported by then has bound all its
names, and the imported modules share the error classes just if none of them makes a module known
that is named like an error class. -/
theorem assemble_imports {accepts : String → Bool} {s : Schema} {units : List SourceUnit}
    {selected : Option (List String)} {settings : Settings} {outs : List Output} {inPackage : Bool}
    {offered : ModuleRef → Option (List String)}
    (hpackage : ∀ u ∈ units, u.inPackage = inPackage)
    (hplace : ∀ u ∈ units, ∀ v ∈ units, u.path.parent.location = v.path.parent.location)
    (hoffered : ∀ u ∈ units, ∃ names, offered ⟨inPackage, u.moduleName⟩ = some names ∧
      u.names ⊆ names)
    (h : assemble accepts s units selected none settings = .ok outs) :
    ∃ modules, Assembly.modulesOf s units selected none settings = .ok modules ∧
      modules.mapM (Assembly.outputOf accepts) = .ok outs ∧
      ((modules.map fun m => moduleName m.file).Nodup →
        (∀ m ∈ modules, offered ⟨inPackage, moduleName m.file⟩ = none) →
        ∀ names ⊆ modules.map fun m => moduleName m.file,
          ∃ t, ({ inPackage, modules, offered } : Library).importAll names = .ok t ∧
            (∀ name ∈ names, ⟨inPackage, name⟩ ∈ t.loaded) ∧
            (∀ m ∈ modules, ⟨inPackage, moduleName m.file⟩ ∈ t.loaded →
              ∀ name ∈ m.steps.flatMap ImportStep.names,
                (t.bound ⟨inPackage, moduleName m.file⟩ name).isSome) ∧
            (({ inPackage, modules, offered } : Library).SharesErrors t ↔
              ({ inPackage, modules, offered } : Library).Clear t)) := by
  obtain ⟨p, modules, hplan, hne, hmodules, houts⟩ := Assembly.assemble_steps h
  refine ⟨modules, Outcome.bind_eq_ok.mpr ⟨p, hplan, Outcome.mapM_eq_ok_iff.mpr hmodules⟩,
    Outcome.mapM_eq_ok_iff.mpr houts, fun hnames hapart names hsub => ?_⟩
  obtain ⟨first, -, harranged⟩ :=
    Assembly.arranged hpackage hplace hoffered hplan hne hmodules hnames hapart
  obtain ⟨t, ht, hloaded, hwhole⟩ :=
    harranged.importAll fun name hname => List.mem_map.mp (hsub hname)
  refine ⟨t, ht, hloaded, fun m hm hbegun => ?_, harranged.sharesErrors_iff hwhole⟩
  exact (hwhole _ hbegun).binds m (harranged.generated? hm)

/-! ### Two modules that import each other -/

/-- Modules of units, which offer the classes of their records. -/
def offeredBy (units : List SourceUnit) (r : ModuleRef) : Option (List String) :=
  (units.find? fun u => u.moduleName = r.name && u.inPackage = r.sibling).map (·.names)

/-- Two units whose records list each other. -/
def ringUnits (inPackage : Bool) (left right : String) : List SourceUnit :=
  [{ path := ⟨"", [left ++ ".py"]⟩, moduleName := left, inPackage,
     records := [⟨"A", [⟨"l", .apply "List" (.name "B"), "List[B]", "ssz-max:\"4\"", 3⟩],
       left ++ ".py", 2⟩] },
   { path := ⟨"", [right ++ ".py"]⟩, moduleName := right, inPackage,
     records := [⟨"B", [⟨"l", .apply "List" (.name "A"), "List[A]", "ssz-max:\"4\"", 3⟩],
       right ++ ".py", 2⟩] }]

/-- The units stand in order already. -/
theorem sortUnits_ringUnits :
    Plan.sortUnits (ringUnits true "left" "right") = ringUnits true "left" "right" ∧
      Plan.sortUnits (ringUnits false "Base" "Size") = ringUnits false "Base" "Size" :=
  ⟨List.mergeSort_of_pairwise (by decide +kernel), List.mergeSort_of_pairwise (by decide +kernel)⟩

theorem offeredBy_ringUnits {inPackage : Bool} {left right : String} (hne : left ≠ right) :
    ∀ u ∈ ringUnits inPackage left right,
      ∃ names, offeredBy (ringUnits inPackage left right) ⟨inPackage, u.moduleName⟩ = some names ∧
        u.names ⊆ names := by
  refine List.forall_mem_cons.mpr ⟨⟨_, ?_, List.Subset.refl _⟩,
    List.forall_mem_singleton.mpr ⟨_, ?_, List.Subset.refl _⟩⟩ <;>
  simp [offeredBy, ringUnits, hne]

/-- The second module is imported first, which imports the first one, which makes it known. -/
theorem imports_ring : ∃ sd outs modules t, schemaOf (ringUnits true "left" "right") = .ok sd ∧
    assemble (fun _ => true) sd.1 (ringUnits true "left" "right") none none {} = .ok outs ∧
    Assembly.modulesOf sd.1 (ringUnits true "left" "right") none none {} = .ok modules ∧
    modules.map (·.others) = [["right_encoding"], ["left_encoding"]] ∧
    (⟨true, modules, offeredBy (ringUnits true "left" "right")⟩ : Library).importAll
      ["right_encoding"] = .ok t ∧
    (⟨true, modules, offeredBy (ringUnits true "left" "right")⟩ : Library).SharesErrors t := by
  have hrun : ∃ sd, schemaOf (ringUnits true "left" "right") = .ok sd ∧
      (assemble (fun _ => true) sd.1 (ringUnits true "left" "right") none none {}).isOk = true ∧
      ∃ modules, Assembly.modulesOf sd.1 (ringUnits true "left" "right") none none {} =
          .ok modules ∧
        modules.map (·.others) = [["right_encoding"], ["left_encoding"]] ∧
        (modules.map fun m => moduleName m.file) = ["left_encoding", "right_encoding"] ∧
        (∀ m ∈ modules,
          offeredBy (ringUnits true "left" "right") ⟨true, moduleName m.file⟩ = none) ∧
        ∀ m ∈ modules, ∀ other ∈ m.others, other ∉ ErrorClass.familyNames := by
    simp only [assemble, Assembly.modulesOf, Plan.ofUnits, sortUnits_ringUnits]
    decide +kernel
  obtain ⟨sd, hsd, hok, modules, hmodules, hothers, hnames, hapart, hclear⟩ := hrun
  obtain ⟨outs, houts⟩ := Outcome.exists_eq_ok hok
  obtain ⟨modules', hmodules', -, himports⟩ := assemble_imports (by decide) (by decide)
    (offeredBy_ringUnits (by decide)) houts
  obtain rfl := Except.ok.inj (hmodules.symm.trans hmodules')
  obtain ⟨t, ht, -, -, hshares⟩ := himports (by rw [hnames]; decide) hapart ["right_encoding"]
    (by rw [hnames]; decide)
  exact ⟨sd, outs, modules, t, hsd, houts, hmodules, hothers, ht,
    hshares.mpr fun m hm _ => hclear m hm⟩

/-- A module that makes another one known that is named like an error class does not have that class
afterwards, although both are imported. -/
theorem not_shares_clash : ∃ sd outs modules t,
    ({ suffix := "Error.py" } : Settings).validate = .ok { suffix := "Error.py" } ∧
    schemaOf (ringUnits false "Base" "Size") = .ok sd ∧
    assemble (fun _ => true) sd.1 (ringUnits false "Base" "Size") none none
      { suffix := "Error.py" } = .ok outs ∧
    Assembly.modulesOf sd.1 (ringUnits false "Base" "Size") none none { suffix := "Error.py" } =
      .ok modules ∧
    (modules.map fun m => moduleName m.file) = ["BaseError", "SizeError"] ∧
    (⟨false, modules, offeredBy (ringUnits false "Base" "Size")⟩ : Library).importAll
      ["BaseError", "SizeError"] = .ok t ∧
    t.bound ⟨false, "BaseError"⟩ "SizeError" = some (.module ⟨false, "SizeError"⟩) ∧
    t.bound ⟨false, "SizeError"⟩ "SizeError" =
      some (.defined ⟨false, "BaseError"⟩ "SizeError") := by
  have hrun : ({ suffix := "Error.py" } : Settings).validate = .ok { suffix := "Error.py" } ∧
      ∃ sd, schemaOf (ringUnits false "Base" "Size") = .ok sd ∧
      (assemble (fun _ => true) sd.1 (ringUnits false "Base" "Size") none none
        { suffix := "Error.py" }).isOk = true ∧
      ∃ modules, Assembly.modulesOf sd.1 (ringUnits false "Base" "Size") none none
          { suffix := "Error.py" } = .ok modules ∧
        (modules.map fun m => moduleName m.file) = ["BaseError", "SizeError"] ∧
        ∃ t, (⟨false, modules, offeredBy (ringUnits false "Base" "Size")⟩ : Library).importAll
            ["BaseError", "SizeError"] = .ok t ∧
          t.bound ⟨false, "BaseError"⟩ "SizeError" = some (.module ⟨false, "SizeError"⟩) ∧
          t.bound ⟨false, "SizeError"⟩ "SizeError" =
            some (.defined ⟨false, "BaseError"⟩ "SizeError") := by
    simp only [assemble, Assembly.modulesOf, Plan.ofUnits, sortUnits_ringUnits]
    decide +kernel
  obtain ⟨hsettings, sd, hsd, hok, modules, hmodules, hnames, t, hrest⟩ := hrun
  obtain ⟨outs, houts⟩ := Outcome.exists_eq_ok hok
  exact ⟨sd, outs, modules, t, hsettings, hsd, houts, hmodules, hnames, hrest⟩

end SszSchema
