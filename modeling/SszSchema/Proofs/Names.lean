import SszSchema.Proofs.Fragments

/-!
# Names of generated modules

A generated module binds names of five sources: classes of records, error classes, other modules,
helpers and routines; and one more to the list of its exports. Its functions have variables besides,
and use what the language provides.

`Module.Hygienic` says that none of these names hides another where it matters, and
`Module.Apart` says the same of the only names that can clash: those that the input chooses, which
are names of records and of modules. The names that the generator chooses are told apart by their
first letters: routines begin with `marsh`, `unmar` or `size_`, helpers, the exports and all
variables but four with a low line, and error classes with a capital.
-/

namespace SszSchema

/-! ## Names that the generator chooses -/

/-- A name that begins with a letter is none that begins with a low line. -/
theorem ne_of_isExported {name name' : String} (h : isExported name = true)
    (h' : isExported name' = false) : name ≠ name' := by
  rintro rfl
  rw [h] at h'
  cases h'

/-- How names of routines begin. -/
def Routine.beginnings : List (List Char) := ["marsh".toList, "unmar".toList, "size_".toList]

theorem Routine.take_name (r : Routine) (owner : String) :
    (r.name owner).toList.take 5 ∈ beginnings := by
  cases r <;> simp [Routine.name, RoutineName.marshal, RoutineName.marshalTo, RoutineName.unmarshal,
    RoutineName.size, beginnings, String.toList_append]

theorem Routine.name_ne {s : String} (hs : s.toList.take 5 ∉ beginnings) (r : Routine)
    (owner : String) : r.name owner ≠ s := by
  rintro rfl
  exact hs (r.take_name owner)

theorem Routine.isExported_name (r : Routine) (owner : String) :
    isExported (r.name owner) = true := by
  cases r <;> simp [Routine.name, RoutineName.marshal, RoutineName.marshalTo, RoutineName.unmarshal,
    RoutineName.size, isExported, String.toList_append]

theorem Routine.mem_publicNames {record name : String} :
    name ∈ publicNames record ↔ ∃ r : Routine, r.name record = name := by
  constructor
  · intro h
    simp only [publicNames, List.mem_cons, List.not_mem_nil, or_false] at h
    rcases h with rfl | rfl | rfl | rfl
    · exact ⟨.marshal, rfl⟩
    · exact ⟨.marshalTo, rfl⟩
    · exact ⟨.unmarshal, rfl⟩
    · exact ⟨.size, rfl⟩
  · rintro ⟨r, rfl⟩
    cases r <;> simp [publicNames, Routine.name]

theorem Helper.isExported_name (h : Helper) : isExported h.name = false := by
  cases h <;> decide

theorem Helper.take_name (h : Helper) : h.name.toList.take 5 ∉ Routine.beginnings := by
  cases h <;> decide

theorem Helper.name_injective : Function.Injective Helper.name := by
  intro h k
  cases h <;> cases k <;> decide

theorem Helper.nodup_kept (wanted : List Helper) : ((kept wanted).map name).Nodup := by
  have hall : all.Nodup := by decide
  exact (hall.filter _).map name_injective

theorem Builtin.isExported_name (b : Builtin) : isExported b.name = true := by
  cases b <;> decide

theorem Builtin.take_name (b : Builtin) : b.name.toList.take 5 ∉ Routine.beginnings := by
  cases b <;> decide

theorem ErrorClass.isExported_of_mem {name : String} (h : name ∈ familyNames) :
    isExported name = true := by
  revert name
  decide

theorem ErrorClass.take_of_mem {name : String} (h : name ∈ familyNames) :
    name.toList.take 5 ∉ Routine.beginnings := by
  revert name
  decide

theorem ErrorClass.nodup_familyNames : familyNames.Nodup := by decide

theorem ErrorClass.name_mem_familyNames (e : ErrorClass) : e.name ∈ familyNames := by
  cases e <;> decide

theorem Builtin.not_mem_familyNames (b : Builtin) : b.name ∉ ErrorClass.familyNames := by
  cases b <;> decide

/-! ## Names of variables -/

/-- The variables of routines whose names begin with a letter. -/
def Variable.lettered : List Variable := [.obj, .buf, .start, .size]

theorem Helper.take_two_name (h : Helper) :
    h.name.toList.take 2 ≠ ['_', 't'] ∧ h.name.toList.take 2 ≠ ['_', 'v'] := by
  cases h <;> decide

theorem Helper.drop_two_name (h : Helper) : (h.name.toList.drop 2).all Char.isDigit = false := by
  cases h <;> decide

theorem Variable.drop_two_offset (index : Nat) :
    ((Variable.offset index).name.toList.drop 2).all Char.isDigit = true := by
  have hdigits : ∀ d ∈ Nat.toDigits 10 index, d.isDigit = true := fun d hd =>
    Nat.isDigit_of_mem_toDigits (by decide) (by decide) hd
  simpa [Variable.name, String.toList_append, Nat.toList_repr] using hdigits

/-- A variable of a routine begins with a letter, or with a low line and then not like a helper. -/
theorem Variable.name_cases {r : Routine} {v : Variable} (h : r.owns v = true) :
    v ∈ lettered ∨ isExported v.name = false ∧ ∀ k : Helper, v.name ≠ k.name := by
  cases v with
  | obj | buf | start | size => exact .inl (by decide)
  | inner name => cases h
  | temporary n =>
    refine .inr ⟨by simp [Variable.name, isExported, String.toList_append], fun k hk => ?_⟩
    refine k.take_two_name.1 ?_
    rw [← hk]
    simp [Variable.name, String.toList_append]
  | decoded field =>
    refine .inr ⟨by simp [Variable.name, RoutineName.fieldLocal, isExported, String.toList_append],
      fun k hk => ?_⟩
    refine k.take_two_name.2 ?_
    rw [← hk]
    simp [Variable.name, RoutineName.fieldLocal, String.toList_append]
  | offset index =>
    -- Only the digits of its number tell an offset from the helper that divides a sequence.
    refine .inr ⟨by simp [Variable.name, isExported, String.toList_append], fun k hk => ?_⟩
    have hdigits := drop_two_offset index
    rw [hk, k.drop_two_name] at hdigits
    cases hdigits

theorem Helper.name_ne_lettered (h : Helper) : ∀ v ∈ Variable.lettered, v.name ≠ h.name := by
  cases h <;> decide

theorem Builtin.name_ne_lettered (b : Builtin) : ∀ v ∈ Variable.lettered, v.name ≠ b.name := by
  cases b <;> decide

theorem ErrorClass.name_ne_lettered (e : ErrorClass) :
    ∀ v ∈ Variable.lettered, v.name ≠ e.name := by
  cases e <;> decide

theorem Routine.name_ne_lettered (r : Routine) (owner : String) :
    ∀ v ∈ Variable.lettered, v.name ≠ r.name owner := by
  have hlettered : ∀ v ∈ Variable.lettered, v.name.toList.take 5 ∉ beginnings := by decide
  exact fun v hv => (r.name_ne (hlettered v hv) owner).symm

/-! ## Hygiene -/

/-- The variable that a fragment names. -/
def Fragment.variable? : Fragment → Option Variable
  | .var v => some v
  | _ => none

/-- What a fragment names outside of the function. -/
def Fragment.entity? : Fragment → Option Entity
  | .entity e => some e
  | .member sibling _ _ => some (.sibling sibling)
  | _ => none

namespace CodeLine

/-- The variables of a function. -/
def variablesOf (f : List CodeLine) : List Variable := f.flatten.filterMap Fragment.variable?

/-- What a function names outside of itself. -/
def entitiesOf (f : List CodeLine) : List Entity := f.flatten.filterMap Fragment.entity?

end CodeLine

open CodeLine

/-- The error classes, the root first. -/
def ErrorClass.family : List Entity := .errorRoot :: all.map .error

theorem ErrorClass.name_family {name : String} (h : name ∈ familyNames) :
    ∃ e ∈ family, e.name = name ∧ ∀ other, e ≠ .sibling other := by
  rcases List.mem_cons.mp h with rfl | h
  · exact ⟨.errorRoot, List.mem_cons_self, rfl, nofun⟩
  · obtain ⟨e, he, rfl⟩ := List.mem_map.mp h
    exact ⟨.error e, List.mem_cons_of_mem _ (List.mem_map_of_mem he), rfl, nofun⟩

/-- The routines in the order in which they are defined. -/
def Routine.all : List Routine := [.marshal, .marshalTo, .unmarshal, .size]

/-- What the language provides for generated code. -/
def Builtin.all : List Builtin :=
  [.int, .len, .bytes, .bytearray, .memoryview, .range, .enumerate, .sum, .divmod, .bool, .super,
    .valueError]

/-- A function that names error classes and what the language provides, and no variable like one of
them. -/
def SelfContained (f : List CodeLine) : Prop :=
  (∀ v ∈ variablesOf f, ∀ e ∈ entitiesOf f, v.name ≠ e.name) ∧
    ∀ e ∈ entitiesOf f, e ∈ ErrorClass.family ∨ e ∈ Builtin.all.map .builtin

instance : DecidablePred SelfContained :=
  fun f => inferInstanceAs (Decidable ((∀ v ∈ variablesOf f, ∀ e ∈ entitiesOf f, v.name ≠ e.name) ∧
    ∀ e ∈ entitiesOf f, e ∈ ErrorClass.family ∨ e ∈ Builtin.all.map .builtin))

theorem ErrorClass.selfContained : ∀ f ∈ groups, SelfContained f := by decide +kernel

theorem Helper.selfContained (h : Helper) : SelfContained h.lines := by
  cases h <;> decide +kernel

namespace Module

/-- The functions and classes that a module defines. -/
def functions (m : Module) : List (List CodeLine) :=
  (if m.definesErrors then ErrorClass.groups else []) ++
    (Helper.kept m.helpers).map Helper.lines ++ m.codes.flatMap (RecordCode.functions m.call)

/-- The error classes that a module defines or takes. -/
def errorEntities (m : Module) : List Entity :=
  match m.errors with
  | none => ErrorClass.family
  | some i => ErrorClass.family.filter fun e => i.names.contains e.name

/-- What a module binds names to outside of functions, in order. -/
def bindings (m : Module) : List Entity :=
  (m.classes.flatMap (·.names)).map .record ++ m.errorEntities ++ m.others.map .sibling ++
    (Helper.kept m.helpers).map .helper ++
    (m.codes.flatMap fun c => Routine.all.map (.routine · c.name)) ++ [.exports]

/-- The names of what a module uses of the language. -/
def builtinNames (m : Module) : List String :=
  (Builtin.all.filter fun b => m.functions.any fun f => (entitiesOf f).contains (.builtin b)).map
    Builtin.name

/-- No name that a module binds, or that one of its functions does, hides another one. -/
structure Hygienic (m : Module) : Prop where
  distinct : (m.bindings.map Entity.name).Nodup
  builtins : ∀ e ∈ m.bindings, e.name ∉ m.builtinNames
  scopes : ∀ f ∈ m.functions, ∀ v ∈ variablesOf f, ∀ e ∈ entitiesOf f, v.name ≠ e.name

/-- The names of records and of other modules stay clear of the others. -/
structure Apart (m : Module) : Prop where
  routine : ∀ record ∈ m.records, record ∉ m.records.flatMap publicNames
  builtin : ∀ record ∈ m.records, record ∉ m.builtinNames
  /-- The variables of the decoder that makes the record. -/
  decoder : ∀ record ∈ m.records, record ≠ Variable.buf.name ∧ record ≠ Variable.size.name
  sibling : ∀ other ∈ m.others, ∀ e ∈ m.bindings, e.name = other → e = .sibling other
  siblingBuiltin : ∀ other ∈ m.others, other ∉ m.builtinNames
  siblingVariable : ∀ other ∈ m.others, ∀ f ∈ m.functions, .sibling other ∈ entitiesOf f →
    ∀ v ∈ variablesOf f, v.name ≠ other

instance : DecidablePred Apart := fun m =>
  decidable_of_iff ((∀ record ∈ m.records, record ∉ m.records.flatMap publicNames) ∧
    (∀ record ∈ m.records, record ∉ m.builtinNames) ∧
    (∀ record ∈ m.records, record ≠ Variable.buf.name ∧ record ≠ Variable.size.name) ∧
    (∀ other ∈ m.others, ∀ e ∈ m.bindings, e.name = other → e = .sibling other) ∧
    (∀ other ∈ m.others, other ∉ m.builtinNames) ∧
    ∀ other ∈ m.others, ∀ f ∈ m.functions, .sibling other ∈ entitiesOf f →
      ∀ v ∈ variablesOf f, v.name ≠ other)
    ⟨fun ⟨h₁, h₂, h₃, h₄, h₅, h₆⟩ => ⟨h₁, h₂, h₃, h₄, h₅, h₆⟩,
      fun ⟨h₁, h₂, h₃, h₄, h₅, h₆⟩ => ⟨h₁, h₂, h₃, h₄, h₅, h₆⟩⟩

/-- What a name stands for where no variable has it: what the module binds it to last, or else what
the language provides. -/
def lookup (m : Module) (name : String) : Option Entity :=
  (m.bindings.reverse.find? (·.name == name)).or
    ((Builtin.all.find? (·.name == name)).map .builtin)

/-- What a name stands for inside a function, if it is no variable. -/
def reads (m : Module) (f : List CodeLine) (name : String) : Option Entity :=
  if (variablesOf f).any (·.name == name) then none else m.lookup name

/-- Each name that a function uses stands for what it is meant to. A routine of a record held
elsewhere is found under its name in a module of the name in front of it. -/
structure Reaches (m : Module) (modules : List Module) : Prop where
  entity : ∀ f ∈ m.functions, ∀ e ∈ entitiesOf f, m.reads f e.name = some e
  member : ∀ f ∈ m.functions, ∀ line ∈ f, ∀ sibling r owner, .member sibling r owner ∈ line →
    ∃ home ∈ modules, moduleName home.file = sibling ∧
      home.lookup (r.name owner) = some (.routine r owner)

/-- What assembly makes sure of. -/
structure Assembled (m : Module) : Prop where
  exported : ∀ record ∈ m.records, isExported record = true
  classes : m.classes.flatMap (·.names) = m.records
  errorNames : ∀ record ∈ m.records, record ∉ ErrorClass.familyNames
  routines : (m.records.flatMap publicNames).Nodup
  errors : ∀ i, m.errors = some i → i.names = ErrorClass.familyNames
  others : m.others.Nodup
  home : ∀ {record home}, m.home? record = some home → home ∈ m.others
  callees : ∀ c ∈ m.codes, ∀ name ∈ c.callees, name ∈ m.records ∨ (m.home? name).isSome

/-- Nothing but a module that is made known has the name of one. -/
theorem Apart.name_ne {m : Module} (hapart : m.Apart) {e : Entity} (he : e ∈ m.bindings)
    (hne : ∀ other, e ≠ .sibling other) {other : String} (hother : other ∈ m.others) :
    e.name ≠ other :=
  fun hname => hne other (hapart.sibling other hother e he hname)

namespace Assembled

variable {m : Module}

theorem errorEntities_eq (h : m.Assembled) : m.errorEntities = ErrorClass.family := by
  unfold errorEntities
  cases hi : m.errors with
  | none => rfl
  | some i =>
    rw [List.filter_eq_self, h.errors i hi]
    decide

theorem map_name_bindings (h : m.Assembled) : m.bindings.map Entity.name =
    m.records ++ ErrorClass.familyNames ++ m.others ++ (Helper.kept m.helpers).map Helper.name ++
      m.records.flatMap publicNames ++ [Entity.exports.name] := by
  have hrecords : (m.classes.flatMap (·.names)).map (Entity.name ∘ .record) = m.records := by
    rw [h.classes]
    exact List.map_id _
  have hfamily : ErrorClass.family.map Entity.name = ErrorClass.familyNames := by decide
  have hroutines : (m.codes.flatMap fun c => Routine.all.map (.routine · c.name)).map Entity.name =
      m.records.flatMap publicNames := by
    rw [List.map_flatMap, records, List.flatMap_map]
    rfl
  have hothers : m.others.map (Entity.name ∘ .sibling) = m.others := List.map_id _
  simp only [bindings, List.map_append, List.map_map, hrecords, h.errorEntities_eq, hfamily,
    hothers, hroutines]
  rfl

theorem nodup_records (h : m.Assembled) : m.records.Nodup := by
  refine (List.nodup_flatMap.mp h.routines).2.imp ?_
  rintro record _ hdisjoint rfl
  exact hdisjoint List.mem_cons_self List.mem_cons_self

theorem mem_records {c : RecordCode} (hc : c ∈ m.codes) : c.name ∈ m.records :=
  List.mem_map_of_mem hc

theorem record_mem_bindings (h : m.Assembled) {record : String} (hrecord : record ∈ m.records) :
    .record record ∈ m.bindings := by
  simp only [bindings, h.classes, List.mem_append, List.mem_map]
  exact .inl (.inl (.inl (.inl (.inl ⟨record, hrecord, rfl⟩))))

theorem family_mem_bindings (h : m.Assembled) {e : Entity} (he : e ∈ ErrorClass.family) :
    e ∈ m.bindings := by
  simp only [bindings, h.errorEntities_eq, List.mem_append]
  exact .inl (.inl (.inl (.inl (.inr he))))

theorem sibling_mem_bindings {other : String} (hother : other ∈ m.others) :
    .sibling other ∈ m.bindings := by
  simp only [bindings, List.mem_append, List.mem_map]
  exact .inl (.inl (.inl (.inr ⟨other, hother, rfl⟩)))

theorem helper_mem_bindings {k : Helper} (hk : k ∈ m.helpers) : .helper k ∈ m.bindings := by
  have hall : k ∈ Helper.all := by cases k <;> decide
  have hkept : k ∈ Helper.kept m.helpers := List.mem_filter.mpr ⟨hall, by simpa using hk⟩
  simp only [bindings, List.mem_append, List.mem_map]
  exact .inl (.inl (.inr ⟨k, hkept, rfl⟩))

theorem mem_helpers_of_mem_kept {wanted : List Helper} {k : Helper}
    (hk : k ∈ Helper.kept wanted) : k ∈ wanted := by
  simpa using (List.mem_filter.mp hk).2

theorem routine_mem_bindings {record : String} (hrecord : record ∈ m.records) (r : Routine) :
    .routine r record ∈ m.bindings := by
  obtain ⟨c, hc, rfl⟩ := List.mem_map.mp hrecord
  have hall : r ∈ Routine.all := by cases r <;> decide
  simp only [bindings, List.mem_append, List.mem_flatMap, List.mem_map]
  exact .inl (.inr ⟨c, hc, r, hall, rfl⟩)

theorem exports_mem_bindings : .exports ∈ m.bindings :=
  List.mem_append_right _ List.mem_cons_self

/-- Only records and modules of the input are bound, and nothing that the language provides. -/
theorem of_mem_bindings (h : m.Assembled) {e : Entity} (he : e ∈ m.bindings) : match e with
    | .record record => record ∈ m.records
    | .sibling other => other ∈ m.others
    | .builtin _ => False
    | _ => True := by
  simp only [bindings, h.classes, h.errorEntities_eq, List.mem_append, List.mem_map,
    List.mem_flatMap] at he
  rcases he with ((((⟨record, hrecord, rfl⟩ | he) | ⟨other, hother, rfl⟩) | ⟨k, -, rfl⟩) |
    ⟨c, -, r, -, rfl⟩) | he
  · exact hrecord
  · rcases List.mem_cons.mp he with rfl | he
    · trivial
    · obtain ⟨e, -, rfl⟩ := List.mem_map.mp he
      trivial
  · exact hother
  · trivial
  · trivial
  · obtain rfl := List.mem_singleton.mp he
    trivial

/-- Names of classes begin with a letter. -/
theorem isExported_of_mem (h : m.Assembled) {name : String}
    (hname : name ∈ m.records ++ ErrorClass.familyNames) : isExported name = true := by
  rcases List.mem_append.mp hname with hrecord | herror
  · exact h.exported name hrecord
  · exact ErrorClass.isExported_of_mem herror

/-! The names that a module binds are those of classes, of modules, of helpers, of routines and of
the list of exports. They are added in this order, each kind apart from those before it. -/

theorem nodup_classes (h : m.Assembled) : (m.records ++ ErrorClass.familyNames).Nodup := by
  refine List.nodup_append.mpr ⟨h.nodup_records, ErrorClass.nodup_familyNames, ?_⟩
  rintro record hrecord _ herror rfl
  exact h.errorNames record hrecord herror

theorem nodup_classes_others (h : m.Assembled) (hapart : m.Apart) :
    (m.records ++ ErrorClass.familyNames ++ m.others).Nodup := by
  refine List.nodup_append.mpr ⟨h.nodup_classes, h.others, ?_⟩
  intro name hname other hother
  rcases List.mem_append.mp hname with hrecord | herror
  · exact hapart.name_ne (h.record_mem_bindings hrecord) nofun hother
  · obtain ⟨e, he, rfl, hne⟩ := ErrorClass.name_family herror
    exact hapart.name_ne (h.family_mem_bindings he) hne hother

theorem nodup_before_routines (h : m.Assembled) (hapart : m.Apart) :
    (m.records ++ ErrorClass.familyNames ++ m.others ++
      (Helper.kept m.helpers).map Helper.name).Nodup := by
  refine List.nodup_append.mpr ⟨h.nodup_classes_others hapart, Helper.nodup_kept m.helpers, ?_⟩
  intro name hname _ hhelper
  obtain ⟨k, hk, rfl⟩ := List.mem_map.mp hhelper
  rcases List.mem_append.mp hname with hclass | hother
  · exact ne_of_isExported (h.isExported_of_mem hclass) k.isExported_name
  · have hbound := helper_mem_bindings (mem_helpers_of_mem_kept hk)
    exact (hapart.name_ne hbound nofun hother).symm

theorem nodup_before_exports (h : m.Assembled) (hapart : m.Apart) :
    (m.records ++ ErrorClass.familyNames ++ m.others ++ (Helper.kept m.helpers).map Helper.name ++
      m.records.flatMap publicNames).Nodup := by
  refine List.nodup_append.mpr ⟨h.nodup_before_routines hapart, h.routines, ?_⟩
  intro name hname _ hroutine
  obtain ⟨record, hrecord, hmem⟩ := List.mem_flatMap.mp hroutine
  obtain ⟨r, rfl⟩ := Routine.mem_publicNames.mp hmem
  rcases List.mem_append.mp hname with hname | hhelper
  · rcases List.mem_append.mp hname with hclass | hother
    · rcases List.mem_append.mp hclass with hname | herror
      · rintro rfl
        exact hapart.routine _ hname hroutine
      · exact (r.name_ne (ErrorClass.take_of_mem herror) record).symm
    · exact (hapart.name_ne (routine_mem_bindings hrecord r) nofun hother).symm
  · obtain ⟨k, -, rfl⟩ := List.mem_map.mp hhelper
    exact (r.name_ne k.take_name record).symm

/-- Names of records and modules that are apart leave no name to two things. -/
theorem distinct_of_apart (h : m.Assembled) (hapart : m.Apart) :
    (m.bindings.map Entity.name).Nodup := by
  rw [h.map_name_bindings]
  refine List.nodup_append.mpr ⟨h.nodup_before_exports hapart, List.nodup_singleton _, ?_⟩
  intro name hname _ hexports
  obtain rfl := List.mem_singleton.mp hexports
  have hexports : isExported Entity.exports.name = false := rfl
  rcases List.mem_append.mp hname with hname | hroutine
  · rcases List.mem_append.mp hname with hname | hhelper
    · rcases List.mem_append.mp hname with hclass | hother
      · exact ne_of_isExported (h.isExported_of_mem hclass) hexports
      · exact (hapart.name_ne exports_mem_bindings nofun hother).symm
    · obtain ⟨k, -, rfl⟩ := List.mem_map.mp hhelper
      cases k <;> decide
  · obtain ⟨record, -, hmem⟩ := List.mem_flatMap.mp hroutine
    obtain ⟨r, rfl⟩ := Routine.mem_publicNames.mp hmem
    exact ne_of_isExported (r.isExported_name record) hexports

/-! ### What functions name -/

theorem mem_functions {f : List CodeLine} (hf : f ∈ m.functions) :
    f ∈ ErrorClass.groups ∨ (∃ k ∈ m.helpers, f = k.lines) ∨
      ∃ c ∈ m.codes, f ∈ c.functions m.call := by
  rcases List.mem_append.mp hf with hf | hf
  · rcases List.mem_append.mp hf with hf | hf
    · left
      split at hf
      · exact hf
      · cases hf
    · obtain ⟨k, hk, rfl⟩ := List.mem_map.mp hf
      exact .inr (.inl ⟨k, mem_helpers_of_mem_kept hk, rfl⟩)
  · exact .inr (.inr (List.mem_flatMap.mp hf))

/-- What a routine of a record can name outside of itself. -/
inductive Names (m : Module) (c : RecordCode) (r : Routine) : Entity → Prop
  | error (e : ErrorClass) : Names m c r (.error e)
  | builtin (b : Builtin) : Names m c r (.builtin b)
  | helper {k : Helper} (hk : k ∈ c.helpers) : Names m c r (.helper k)
  | routine {name : String} (hname : name ∈ c.callees) (hhome : m.home? name = none) :
      Names m c r (.routine r name)
  | sibling {name home : String} (hhome : m.home? name = some home) : Names m c r (.sibling home)
  | record (h : r = .unmarshal) : Names m c r (.record c.name)
  | marshalTo : Names m c r (.routine .marshalTo c.name)

variable {c : RecordCode} {r : Routine} {x : Fragment}

theorem names_of_makes (h : Makes m.call c r x) {e : Entity} (he : x.entity? = some e) :
    Names m c r e := by
  cases h with
  | plain | var => cases he
  | error e =>
    obtain rfl := Option.some.inj he
    exact .error e
  | builtin b =>
    obtain rfl := Option.some.inj he
    exact .builtin b
  | helper hk =>
    obtain rfl := Option.some.inj he
    exact .helper hk
  | call hname hx =>
    unfold Module.call at hx
    split at hx
    · case h_1 home hhome =>
      obtain rfl := List.mem_singleton.mp hx
      obtain rfl := Option.some.inj he
      exact .sibling hhome
    · case h_2 hhome =>
      obtain rfl := List.mem_singleton.mp hx
      obtain rfl := Option.some.inj he
      exact .routine hname hhome
  | record hr =>
    obtain rfl := Option.some.inj he
    exact .record hr
  | marshalTo =>
    obtain rfl := Option.some.inj he
    exact .marshalTo

theorem owns_of_makes (h : Makes m.call c r x) {v : Variable} (hv : x.variable? = some v) :
    r.owns v = true := by
  cases h with
  | var h =>
    obtain rfl := Option.some.inj hv
    exact h
  | call hname hx =>
    unfold Module.call at hx
    split at hx <;>
    · obtain rfl := List.mem_singleton.mp hx
      cases hv
  | _ => cases hv

/-- The variables and the names of a routine of a record. -/
theorem names_of_mem_functions {f : List CodeLine} (hf : f ∈ c.functions m.call) :
    ∃ r : Routine, (∀ v ∈ variablesOf f, r.owns v = true) ∧ ∀ e ∈ entitiesOf f, Names m c r e := by
  obtain ⟨r, hr⟩ := Printer.makesLines_function hf
  have hmakes {x : Fragment} (hx : x ∈ f.flatten) : Makes m.call c r x := by
    obtain ⟨line, hline, hx⟩ := List.mem_flatten.mp hx
    exact hr line hline x hx
  refine ⟨r, fun v hv => ?_, fun e he => ?_⟩
  · obtain ⟨x, hx, hv⟩ := List.mem_filterMap.mp hv
    exact owns_of_makes (hmakes hx) hv
  · obtain ⟨x, hx, he⟩ := List.mem_filterMap.mp he
    exact names_of_makes (hmakes hx) he

/-- A routine names what its module binds and what the language provides. -/
theorem Names.bound (h : m.Assembled) (hc : c ∈ m.codes) {e : Entity} (he : Names m c r e) :
    e ∈ m.bindings ∨ ∃ b, e = .builtin b := by
  cases he with
  | error e =>
    have hall : e ∈ ErrorClass.all := by cases e <;> decide
    exact .inl (h.family_mem_bindings (List.mem_cons_of_mem _ (List.mem_map_of_mem hall)))
  | builtin b => exact .inr ⟨b, rfl⟩
  | helper hk => exact .inl (helper_mem_bindings (List.mem_flatMap.mpr ⟨c, hc, hk⟩))
  | routine hname hhome =>
    rcases h.callees c hc _ hname with hrecord | hforeign
    · exact .inl (routine_mem_bindings hrecord r)
    · rw [hhome] at hforeign
      cases hforeign
  | sibling hhome => exact .inl (sibling_mem_bindings (h.home hhome))
  | record => exact .inl (h.record_mem_bindings (mem_records hc))
  | marshalTo => exact .inl (routine_mem_bindings (mem_records hc) .marshalTo)

theorem bound (h : m.Assembled) {f : List CodeLine} (hf : f ∈ m.functions) {e : Entity}
    (he : e ∈ entitiesOf f) : e ∈ m.bindings ∨ ∃ b, e = .builtin b := by
  have hclosed (hf : SelfContained f) : e ∈ m.bindings ∨ ∃ b, e = .builtin b := by
    rcases hf.2 e he with he | he
    · exact .inl (h.family_mem_bindings he)
    · obtain ⟨b, -, rfl⟩ := List.mem_map.mp he
      exact .inr ⟨b, rfl⟩
  rcases mem_functions hf with hf | ⟨k, -, rfl⟩ | ⟨c, hc, hf⟩
  · exact hclosed (ErrorClass.selfContained f hf)
  · exact hclosed k.selfContained
  · obtain ⟨r, -, hnames⟩ := names_of_mem_functions hf
    exact (hnames e he).bound h hc

/-- In a routine, only names of records and of other modules can be those of variables. -/
theorem Names.name_ne (h : m.Assembled) (hapart : m.Apart) (hc : c ∈ m.codes) {e : Entity}
    (he : Names m c r e) (hsibling : ∀ other, e ≠ .sibling other) {v : Variable}
    (hv : r.owns v = true) : v.name ≠ e.name := by
  have hne (hexported : isExported e.name = true)
      (hlettered : ∀ v ∈ Variable.lettered, v.name ≠ e.name) : v.name ≠ e.name := by
    rcases Variable.name_cases hv with hv | ⟨hprivate, -⟩
    · exact hlettered v hv
    · exact (ne_of_isExported hexported hprivate).symm
  cases he with
  | error e =>
    exact hne (ErrorClass.isExported_of_mem e.name_mem_familyNames) e.name_ne_lettered
  | builtin b => exact hne b.isExported_name b.name_ne_lettered
  | routine => exact hne (r.isExported_name _) (r.name_ne_lettered _)
  | marshalTo =>
    exact hne (Routine.marshalTo.isExported_name _) (Routine.marshalTo.name_ne_lettered _)
  | sibling => exact absurd rfl (hsibling _)
  | @helper k hk =>
    rcases Variable.name_cases hv with hv | ⟨-, hhelper⟩
    · exact k.name_ne_lettered v hv
    · exact hhelper k
  | record hr =>
    subst hr
    obtain ⟨hbuf, hsize⟩ := hapart.decoder c.name (mem_records hc)
    rintro (hname : v.name = c.name)
    rcases Variable.name_cases hv with hlettered | ⟨hprivate, -⟩
    · simp only [Variable.lettered, List.mem_cons, List.not_mem_nil, or_false] at hlettered
      rcases hlettered with rfl | rfl | rfl | rfl
      · cases hv
      · exact hbuf hname.symm
      · cases hv
      · exact hsize hname.symm
    · exact ne_of_isExported (h.exported c.name (mem_records hc)) hprivate hname.symm

theorem scopes_of_apart (h : m.Assembled) (hapart : m.Apart) {f : List CodeLine}
    (hf : f ∈ m.functions) {v : Variable} (hv : v ∈ variablesOf f) {e : Entity}
    (he : e ∈ entitiesOf f) : v.name ≠ e.name := by
  rcases mem_functions hf with hgroup | ⟨k, -, rfl⟩ | ⟨c, hc, hroutine⟩
  · exact (ErrorClass.selfContained f hgroup).1 v hv e he
  · exact k.selfContained.1 v hv e he
  · obtain ⟨r, howns, hnames⟩ := names_of_mem_functions hroutine
    by_cases hsibling : ∃ other, e = .sibling other
    · obtain ⟨other, rfl⟩ := hsibling
      rcases h.bound hf he with hbound | ⟨b, hb⟩
      · exact hapart.siblingVariable other (h.of_mem_bindings hbound) f hf he v hv
      · cases hb
    · exact (hnames e he).name_ne h hapart hc (fun other hother => hsibling ⟨other, hother⟩)
        (howns v hv)

theorem builtins_of_apart (h : m.Assembled) (hapart : m.Apart) {e : Entity}
    (he : e ∈ m.bindings) : e.name ∉ m.builtinNames := by
  intro hname
  have hbound := h.of_mem_bindings he
  obtain ⟨b, -, hb⟩ := List.mem_map.mp hname
  cases e with
  | record record => exact hapart.builtin record hbound hname
  | sibling other => exact hapart.siblingBuiltin other hbound hname
  | builtin => exact hbound
  | errorRoot => exact b.not_mem_familyNames (hb ▸ List.mem_cons_self)
  | error e =>
    refine b.not_mem_familyNames ?_
    rw [hb]
    exact e.name_mem_familyNames
  | helper k => exact ne_of_isExported b.isExported_name k.isExported_name hb
  | routine r record => exact r.name_ne b.take_name record hb.symm
  | exports =>
    revert hb
    cases b <;> decide

/-- The names of a module are clear of each other just if those of records and of other modules
are. -/
theorem hygienic_iff_apart (h : m.Assembled) : m.Hygienic ↔ m.Apart := by
  constructor
  · intro hm
    have hname {e e' : Entity} (he : e ∈ m.bindings) (he' : e' ∈ m.bindings)
        (heq : e.name = e'.name) : e = e' := List.inj_on_of_nodup_map hm.distinct he he' heq
    constructor
    · intro record hrecord hroutine
      obtain ⟨owner, howner, hmem⟩ := List.mem_flatMap.mp hroutine
      obtain ⟨r, hr⟩ := Routine.mem_publicNames.mp hmem
      cases hname (h.record_mem_bindings hrecord) (routine_mem_bindings howner r) hr.symm
    · exact fun record hrecord => hm.builtins _ (h.record_mem_bindings hrecord)
    · intro record hrecord
      obtain ⟨c, hc, rfl⟩ := List.mem_map.mp hrecord
      obtain ⟨hbuf, hsize, hmake⟩ := @Printer.mem_unmarshal m.call c
      have hf : Printer.unmarshal m.call c ∈ m.functions := by
        refine List.mem_append_right _ (List.mem_flatMap.mpr ⟨c, hc, ?_⟩)
        simp [RecordCode.functions]
      have hscope {v : Variable} (hv : .var v ∈ (Printer.unmarshal m.call c).flatten) :
          c.name ≠ v.name :=
        (hm.scopes _ hf v (List.mem_filterMap.mpr ⟨_, hv, rfl⟩) _
          (List.mem_filterMap.mpr ⟨_, hmake, rfl⟩)).symm
      exact ⟨hscope hbuf, hscope hsize⟩
    · exact fun other hother e he heq => hname he (sibling_mem_bindings hother) heq
    · exact fun other hother => hm.builtins _ (sibling_mem_bindings hother)
    · exact fun other _ f hf he v hv => hm.scopes f hf v hv _ he
  · exact fun hapart => ⟨h.distinct_of_apart hapart, fun e he => h.builtins_of_apart hapart he,
      fun f hf v hv e he => h.scopes_of_apart hapart hf hv he⟩

/-! ### What names stand for -/

theorem lookup_binding (hm : m.Hygienic) {e : Entity} (he : e ∈ m.bindings) :
    m.lookup e.name = some e := by
  have hfind : m.bindings.reverse.find? (·.name == e.name) = some e := by
    cases hfound : m.bindings.reverse.find? (·.name == e.name) with
    | none =>
      have hnone := List.find?_eq_none.mp hfound e (List.mem_reverse.mpr he)
      simp at hnone
    | some e' =>
      have hmem := List.mem_reverse.mp (List.mem_of_find?_eq_some hfound)
      have hname : e'.name = e.name := by simpa using List.find?_some hfound
      rw [List.inj_on_of_nodup_map hm.distinct hmem he hname]
  rw [lookup, hfind]
  rfl

theorem mem_builtinNames {f : List CodeLine} (hf : f ∈ m.functions) {b : Builtin}
    (hb : .builtin b ∈ entitiesOf f) : b.name ∈ m.builtinNames := by
  have hall : b ∈ Builtin.all := by cases b <;> decide
  refine List.mem_map_of_mem (List.mem_filter.mpr ⟨hall, List.any_eq_true.mpr ⟨f, hf, ?_⟩⟩)
  exact List.contains_iff_mem.mpr hb

theorem lookup_builtin (hm : m.Hygienic) {b : Builtin} (hb : b.name ∈ m.builtinNames) :
    m.lookup b.name = some (.builtin b) := by
  have hfind : m.bindings.reverse.find? (·.name == b.name) = none := by
    refine List.find?_eq_none.mpr fun e he hname => ?_
    have hname : e.name = b.name := by simpa using hname
    exact hm.builtins e (List.mem_reverse.mp he) (hname ▸ hb)
  have hall : Builtin.all.find? (·.name == b.name) = some b := by cases b <;> decide
  rw [lookup, hfind, hall]
  rfl

theorem reads_entity (h : m.Assembled) (hm : m.Hygienic) {f : List CodeLine} (hf : f ∈ m.functions)
    {e : Entity} (he : e ∈ entitiesOf f) : m.reads f e.name = some e := by
  have hscope : ¬(variablesOf f).any (·.name == e.name) = true := by
    intro hany
    obtain ⟨v, hv, hname⟩ := List.any_eq_true.mp hany
    exact hm.scopes f hf v hv e he (by simpa using hname)
  rw [reads, if_neg hscope]
  rcases h.bound hf he with hbound | ⟨b, rfl⟩
  · exact lookup_binding hm hbound
  · exact lookup_builtin hm (mem_builtinNames hf he)

theorem home_of_member {f line : _} (hf : f ∈ m.functions) (hline : line ∈ f) {sibling : String}
    {r : Routine} {owner : String} (hx : .member sibling r owner ∈ line) :
    m.home? owner = some sibling := by
  have hclosed (hf : SelfContained f) : m.home? owner = some sibling := by
    have he : .sibling sibling ∈ entitiesOf f :=
      List.mem_filterMap.mpr ⟨_, List.mem_flatten.mpr ⟨line, hline, hx⟩, rfl⟩
    rcases hf.2 _ he with he | he
    · rcases List.mem_cons.mp he with he | he
      · cases he
      · obtain ⟨e, -, he⟩ := List.mem_map.mp he
        cases he
    · obtain ⟨b, -, he⟩ := List.mem_map.mp he
      cases he
  rcases mem_functions hf with hf | ⟨k, -, rfl⟩ | ⟨c, hc, hf⟩
  · exact hclosed (ErrorClass.selfContained f hf)
  · exact hclosed k.selfContained
  · obtain ⟨r', hr⟩ := Printer.makesLines_function hf
    cases hr line hline _ hx with
    | call hname hx =>
      unfold Module.call at hx
      split at hx
      · case h_1 home hhome =>
        cases List.mem_singleton.mp hx
        exact hhome
      · cases List.mem_singleton.mp hx

/-- In clean modules whose calls go to each other, each name stands for what it is meant to. -/
theorem reaches (h : m.Assembled) (hm : m.Hygienic) {modules : List Module}
    (hhome : ∀ owner sibling, m.home? owner = some sibling → ∃ home ∈ modules,
      moduleName home.file = sibling ∧ owner ∈ home.records ∧ home.Hygienic) :
    m.Reaches modules := by
  constructor
  · exact fun f hf e he => h.reads_entity hm hf he
  · intro f hf line hline sibling r owner hx
    obtain ⟨home, hmem, hname, howner, hclean⟩ := hhome owner sibling (home_of_member hf hline hx)
    exact ⟨home, hmem, hname, lookup_binding hclean (routine_mem_bindings howner r)⟩

end Assembled

end Module

end SszSchema
