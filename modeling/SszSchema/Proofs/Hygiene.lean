import SszSchema.Proofs.Names

/-!
# Hygiene of assembled modules

That a module is clean just if the names of its records and of other modules stay apart
(`Module.Assembled.hygienic_iff_apart`) rests on what assembly makes sure of (`Module.Assembled`).
Here it is shown of all modules of a run.

* `RecordCode.ends_of_mem_callees`: the records that a routine calls are those that its fields end
  in, and `Schema.mem_of_referenced` finds all of these, so each call has a record here or a module
  to go to.
* `not_mem_familyNames`, `nodup_routines`: the two checks that refuse a schema for its names.
* `Plan.draws_ofUnits`: a part of the plan holds what is chosen from its units, in their order, so
  the imported classes are the records.
* `moduleName_ne_empty`: a module beside a source has a name, by which calls find it.
* `Assembly.assembled` puts these together, and `assemble_hygiene` says it of a run.

Assembly refuses records that are named like an error class or that share a routine. Records named
like a routine, and the others that `Module.Apart` rules out, pass (`not_hygienic_clash`).
-/

namespace SszSchema

open Generation CodeLine

/-! ## Records that code calls are referenced -/

/-- A chain of elements ends in a node of a record. -/
def Schema.Ends (s : Schema) (fuel : Nat) (n : Node) (name : String) : Prop :=
  ∃ m, s.innermost fuel n = .ok m ∧ m.kind = .container ∧ m.record = some name

theorem of_mem_zip_zip {α β γ : Type} {R : α → β → Prop} {S : α → γ → Prop} {l : List α}
    {u : List β} {w : List γ} (hr : List.Forall₂ R l u) (hs : List.Forall₂ S l w) {a : α} {b : β}
    {c : γ} (h : (a, b, c) ∈ l.zip (u.zip w)) : a ∈ l ∧ R a b ∧ S a c := by
  induction hr generalizing w with
  | nil => cases h
  | cons hab _ ih =>
    cases hs with
    | cons hac hs =>
      rcases List.mem_cons.mp h with heq | h
      · obtain ⟨rfl, rfl, rfl⟩ := by simpa using heq
        exact ⟨List.mem_cons_self, hab, hac⟩
      · obtain ⟨hmem, hrs⟩ := ih hs h
        exact ⟨List.mem_cons_of_mem _ hmem, hrs⟩

theorem need_eq_ok {α : Type} {o : Option α} {a : α} (h : need o = .ok a) : o = some a := by
  cases o with
  | none => cases h
  | some b => rw [Except.ok.inj h]

section

variable {s : Schema} {fuel : Nat} {n m : Node} {name : String}

namespace Schema.Ends

theorem container (hk : n.kind = .container) (hr : need n.record = .ok name) :
    s.Ends (fuel + 1) n name := by
  refine ⟨n, ?_, hk, need_eq_ok hr⟩
  unfold Schema.innermost
  simp [hk]

theorem element (hk : n.kind = .vector ∨ n.kind = .list) (hm : s.element n = .ok m)
    (h : s.Ends fuel m name) : s.Ends (fuel + 1) n name := by
  obtain ⟨e, he, hkind, hr⟩ := h
  refine ⟨e, ?_, hkind, hr⟩
  unfold Schema.innermost
  have hsequence : (decide (n.kind = .vector) || decide (n.kind = .list)) = true := by
    simpa using hk
  rw [if_pos hsequence, hm]
  exact he

end Schema.Ends

theorem Encoder.ends_of_ofNode {e : Encoder} (h : Encoder.ofNode s fuel n = .ok e)
    (hname : e.callee = some name) : s.Ends fuel n name := by
  induction fuel generalizing n e with
  | zero => cases h
  | succ fuel ih =>
    unfold Encoder.ofNode at h
    cases hk : n.kind with
    | container =>
      rw [hk] at h
      obtain ⟨record, hr, h⟩ := Outcome.bind_eq_ok.mp h
      obtain rfl := Outcome.pure_eq_ok.mp h
      obtain rfl := Option.some.inj hname
      exact .container hk hr
    | vector | list =>
      rw [hk] at h
      obtain ⟨m, hm, h⟩ := Outcome.bind_eq_ok.mp h
      obtain ⟨isFixed, -, h⟩ := Outcome.bind_eq_ok.mp h
      obtain ⟨item, hitem, h⟩ := Outcome.bind_eq_ok.mp h
      obtain rfl := Outcome.pure_eq_ok.mp h
      exact .element (by simp [hk]) hm (ih hitem hname)
    | uint =>
      rw [hk] at h
      obtain ⟨width, -, h⟩ := Outcome.bind_eq_ok.mp h
      obtain ⟨_, -, h⟩ := Outcome.bind_eq_ok.mp h
      obtain rfl := Outcome.pure_eq_ok.mp h
      cases hname
    | bytes | bitList =>
      rw [hk] at h
      dsimp only at h
      split at h <;>
      · obtain rfl := Outcome.pure_eq_ok.mp h
        cases hname
    | bool | bitVector =>
      rw [hk] at h
      obtain rfl := Outcome.pure_eq_ok.mp h
      cases hname

theorem Decoder.ends_of_ofNode {d : Decoder} (h : Decoder.ofNode s fuel n = .ok d)
    (hname : d.callee = some name) : s.Ends fuel n name := by
  induction fuel generalizing n d with
  | zero => cases h
  | succ fuel ih =>
    unfold Decoder.ofNode at h
    cases hk : n.kind with
    | container =>
      rw [hk] at h
      obtain ⟨record, hr, h⟩ := Outcome.bind_eq_ok.mp h
      obtain rfl := Outcome.pure_eq_ok.mp h
      obtain rfl := Option.some.inj hname
      exact .container hk hr
    | vector | list =>
      rw [hk] at h
      obtain ⟨m, hm, h⟩ := Outcome.bind_eq_ok.mp h
      obtain ⟨isFixed, -, h⟩ := Outcome.bind_eq_ok.mp h
      have hitem : ∃ step item, Decoder.ofNode s fuel m = .ok item ∧
          d = .sequence n.extent step item := by
        split at h
        · split at h
          · obtain ⟨_, -, h⟩ := Outcome.bind_eq_ok.mp h
            obtain ⟨item, hitem, h⟩ := Outcome.bind_eq_ok.mp h
            exact ⟨_, item, hitem, (Outcome.pure_eq_ok.mp h).symm⟩
          · cases h
        · obtain ⟨item, hitem, h⟩ := Outcome.bind_eq_ok.mp h
          exact ⟨_, item, hitem, (Outcome.pure_eq_ok.mp h).symm⟩
      obtain ⟨step, item, hitem, rfl⟩ := hitem
      exact .element (by simp [hk]) hm (ih hitem hname)
    | bytes | bitList =>
      rw [hk] at h
      obtain rfl := Outcome.pure_eq_ok.mp h
      split at hname <;> cases hname
    | uint | bool | bitVector =>
      rw [hk] at h
      obtain rfl := Outcome.pure_eq_ok.mp h
      cases hname

theorem Measure.ends_of_ofNode {e : Measure} (h : Measure.ofNode s fuel n = .ok e)
    (hname : e.callee = some name) : s.Ends fuel n name := by
  induction fuel generalizing n e with
  | zero => cases h
  | succ fuel ih =>
    unfold Measure.ofNode at h
    cases hk : n.kind with
    | container =>
      rw [hk] at h
      obtain ⟨record, hr, h⟩ := Outcome.bind_eq_ok.mp h
      obtain rfl := Outcome.pure_eq_ok.mp h
      obtain rfl := Option.some.inj hname
      exact .container hk hr
    | vector | list =>
      rw [hk] at h
      obtain ⟨m, hm, h⟩ := Outcome.bind_eq_ok.mp h
      obtain ⟨isFixed, -, h⟩ := Outcome.bind_eq_ok.mp h
      split at h
      · obtain rfl := Outcome.pure_eq_ok.mp h
        cases hname
      · obtain ⟨item, hitem, h⟩ := Outcome.bind_eq_ok.mp h
        obtain rfl := Outcome.pure_eq_ok.mp h
        exact .element (by simp [hk]) hm (ih hitem hname)
    | bitList =>
      rw [hk] at h
      obtain rfl := Outcome.pure_eq_ok.mp h
      split at hname <;> cases hname
    | bytes =>
      rw [hk] at h
      obtain rfl := Outcome.pure_eq_ok.mp h
      cases hname
    | uint | bool | bitVector =>
      rw [hk] at h
      cases h

namespace Schema

/-- The record that a node's routines call is found. -/
theorem mem_of_addReferenced {found found' : List String} {n : Node}
    (h : s.addReferenced found n = .ok found') :
    found ⊆ found' ∧ ∀ name, s.Ends (RecordCode.depth s) n name → name ∈ found' := by
  obtain ⟨m, hm, h⟩ := Outcome.bind_eq_ok.mp h
  have hends {name : String} (hname : s.Ends (RecordCode.depth s) n name) :
      m.kind = .container ∧ m.record = some name := by
    obtain ⟨m', hm', hkind, hr⟩ := hname
    obtain rfl := Except.ok.inj (hm.symm.trans hm')
    exact ⟨hkind, hr⟩
  split at h
  · obtain ⟨record, hr, h⟩ := Outcome.bind_eq_ok.mp h
    obtain rfl := Outcome.pure_eq_ok.mp h
    have hrecord {name : String} (hname : s.Ends (RecordCode.depth s) n name) : record = name :=
      Option.some.inj ((need_eq_ok hr).symm.trans (hends hname).2)
    split
    · case isTrue hmem =>
      refine ⟨List.Subset.refl _, fun name hname => ?_⟩
      rw [← hrecord hname]
      exact List.contains_iff_mem.mp hmem
    · refine ⟨List.subset_append_left _ _, fun name hname => ?_⟩
      rw [← hrecord hname]
      exact List.mem_append_right _ List.mem_cons_self
  · case isFalse hkind =>
    obtain rfl := Outcome.pure_eq_ok.mp h
    exact ⟨List.Subset.refl _, fun name hname => absurd (hends hname).1 hkind⟩

/-- All records that fields of some records end in are found. -/
theorem mem_of_referenced {records called : List String} (h : s.referenced records = .ok called)
    {record : String} (hrecord : record ∈ records) {pairs : List (FieldRef × Node)}
    (hpairs : s.fieldNodes record = .ok pairs) {p : FieldRef × Node} (hp : p ∈ pairs)
    (hname : s.Ends (RecordCode.depth s) p.2 name) : name ∈ called := by
  have hcollects := Outcome.foldlM_collects
    (P := fun record found => ∀ pairs, s.fieldNodes record = .ok pairs → ∀ p ∈ pairs, ∀ name,
      s.Ends (RecordCode.depth s) p.2 name → name ∈ found)
    (fun _ _ _ hsub hP pairs hpairs p hp name hname => hsub (hP pairs hpairs p hp name hname))
    (fun found record found' hstep => ?_) h
  · exact hcollects.2 record hrecord pairs hpairs p hp name hname
  · obtain ⟨pairs, hpairs, hstep⟩ := Outcome.bind_eq_ok.mp hstep
    have hpairs := Outcome.mapError_eq_ok.mp hpairs
    obtain ⟨hsub, hfound⟩ := Outcome.foldlM_collects
      (P := fun (p : FieldRef × Node) found => ∀ name, s.Ends (RecordCode.depth s) p.2 name →
        name ∈ found)
      (fun _ _ _ hsub hP name hname => hsub (hP name hname))
      (fun _ _ _ hadd => mem_of_addReferenced hadd) hstep
    refine ⟨hsub, fun pairs' hpairs' p hp => ?_⟩
    obtain rfl := Except.ok.inj (hpairs.symm.trans hpairs')
    exact hfound p hp

end Schema

namespace RecordCode

/-- The measures of a record are read off its fields. -/
theorem measures_eq_ok {code : RecordCode} (h : ofSchema s name = .ok code)
    {pairs : List (FieldRef × Node)} (hpairs : s.fieldNodes name = .ok pairs)
    {e : String × Measure} (he : e ∈ code.measures) :
    ∃ p ∈ pairs, Measure.ofNode s (depth s) p.2 = .ok e.2 := by
  obtain ⟨m, -, h⟩ := Outcome.bind_eq_ok.mp h
  obtain ⟨pairs', hpairs', h⟩ := Outcome.bind_eq_ok.mp h
  obtain rfl := Except.ok.inj (hpairs.symm.trans (Outcome.mapError_eq_ok.mp hpairs'))
  obtain ⟨es, -, h⟩ := Outcome.bind_eq_ok.mp h
  obtain ⟨isFixed, -, h⟩ := Outcome.bind_eq_ok.mp h
  obtain ⟨_, -, h⟩ := Outcome.bind_eq_ok.mp h
  obtain ⟨ds, -, h⟩ := Outcome.bind_eq_ok.mp h
  cases isFixed with
  | true =>
    obtain rfl := Outcome.pure_eq_ok.mp h
    cases he
  | false =>
    obtain ⟨measures, hmeasures, h⟩ := Outcome.bind_eq_ok.mp h
    obtain rfl := Outcome.pure_eq_ok.mp h
    obtain ⟨⟨f, n⟩, hp, hcode⟩ := exists_of_forall₂ (Outcome.mapM_eq_ok_iff.mp hmeasures).flip he
    obtain ⟨measure, hmeasure, heq⟩ := Outcome.bind_eq_ok.mp hcode
    obtain rfl := Outcome.pure_eq_ok.mp heq
    exact ⟨(f, n), List.mem_of_mem_filter hp, hmeasure⟩

/-- The records that the code of a record calls are those that its fields end in. -/
theorem ends_of_mem_callees {record : String} {code : RecordCode}
    (h : ofSchema s record = .ok code) (hname : name ∈ code.callees) :
    ∃ pairs, s.fieldNodes record = .ok pairs ∧ ∃ p ∈ pairs, s.Ends (depth s) p.2 name := by
  obtain ⟨m, pairs, es, isFixed, ds, -, hpairs, hes, -, hds, -, -, -, hfields⟩ := ofSchema_eq_ok h
  refine ⟨pairs, hpairs, ?_⟩
  rcases List.mem_append.mp hname with hname | hname
  · obtain ⟨f, hf, hname⟩ := List.mem_flatMap.mp hname
    rw [hfields] at hf
    obtain ⟨⟨p, e, d⟩, hzip, rfl⟩ := List.mem_map.mp hf
    obtain ⟨hp, ⟨-, he⟩, b, -, hd, -⟩ :=
      of_mem_zip_zip (encoders_eq_ok hes) (decoders_eq_ok hds) hzip
    refine ⟨p, hp, ?_⟩
    rcases List.mem_append.mp hname with hname | hname
    · exact Encoder.ends_of_ofNode he (Option.mem_toList.mp hname)
    · exact Decoder.ends_of_ofNode hd (Option.mem_toList.mp hname)
  · obtain ⟨e, he, hname⟩ := List.mem_flatMap.mp hname
    obtain ⟨p, hp, hcode⟩ := measures_eq_ok h hpairs he
    exact ⟨p, hp, Measure.ends_of_ofNode hcode (Option.mem_toList.mp hname)⟩

end RecordCode

end

/-! ## What assembly checks -/

namespace Assembly

variable {records : List String}

theorem not_mem_familyNames (h : checkErrorNames records = .ok ()) {record : String}
    (hrecord : record ∈ records) : record ∉ ErrorClass.familyNames := by
  intro herror
  have hmem : record ∈ (records.filter ErrorClass.familyNames.contains).mergeSort
      fun a b => a ≤ b :=
    List.mem_mergeSort.mpr (List.mem_filter.mpr ⟨hrecord, List.contains_iff_mem.mpr herror⟩)
  unfold checkErrorNames at h
  split at h
  · cases h
  · case h_2 heq =>
    rw [heq] at hmem
    cases hmem

theorem nodup_publicNames (record : String) : (publicNames record).Nodup := by
  have hlist : ((publicNames record).map String.toList).Nodup := by
    simp [publicNames, RoutineName.marshal, RoutineName.marshalTo, RoutineName.unmarshal,
      RoutineName.size, String.toList_append]
  exact hlist.of_map

/-- No two records of a module share a routine. -/
theorem nodup_routines {taken : List (String × String)} (h : checkRoutines taken records = .ok ())
    (htaken : (taken.map (·.1)).Nodup) :
    (taken.map (·.1) ++ records.flatMap publicNames).Nodup := by
  induction records generalizing taken with
  | nil => simpa using htaken
  | cons record records ih =>
    unfold checkRoutines at h
    split at h
    · cases h
    · case h_2 hclash =>
      have hdisjoint : ∀ routine ∈ publicNames record, routine ∉ taken.map (·.1) := by
        intro routine hroutine hmem
        have hnone := List.findSome?_eq_none_iff.mp hclash routine hroutine
        obtain ⟨e, he, rfl⟩ := List.mem_map.mp hmem
        rw [Option.map_eq_none_iff, List.find?_eq_none] at hnone
        exact hnone e he (beq_self_eq_true _)
      have hnext := ih h ?_
      · simpa [List.map_map, Function.comp_def] using hnext
      · rw [List.map_append, List.map_map]
        refine List.nodup_append.mpr ⟨htaken, ?_, ?_⟩
        · simpa [Function.comp_def] using nodup_publicNames record
        · rintro routine hroutine _ hmem rfl
          exact hdisjoint routine (by simpa [Function.comp_def] using hmem) hroutine

theorem nodup_eraseDups (l : List String) : l.eraseDups.Nodup := by
  induction hn : l.length using Nat.strong_induction_on generalizing l with
  | _ n ih =>
    cases l with
    | nil => simp
    | cons a l =>
      rw [List.eraseDups_cons, List.nodup_cons, List.mem_eraseDups]
      refine ⟨by simp, ih _ ?_ _ rfl⟩
      rw [← hn, List.length_cons]
      exact Nat.lt_succ_of_le (List.length_filter_le _ _)

variable {s : Schema} {p : Plan} {part : ModulePlan} {m : Module} {found : List (String × String)}
  {held called : List String}

/-- The records that are called but not held, with the names of the modules that hold them. -/
theorem mem_foreign (h : foreign p held called = .ok found) {e : String × String} (he : e ∈ found) :
    e.1 ∉ held ∧ ∃ part ∈ p.modules, e.1 ∈ part.records ∧ e.2 = moduleName part.file := by
  obtain ⟨name, hname, heq⟩ := exists_of_forall₂ (Outcome.mapM_eq_ok_iff.mp h).flip he
  have hheld : name ∉ held := by simpa using (List.mem_filter.mp hname).2
  split at heq
  · case h_1 file howner =>
    obtain rfl := Outcome.pure_eq_ok.mp heq
    obtain ⟨part, hfind, rfl⟩ := Option.map_eq_some_iff.mp howner
    exact ⟨hheld, part, List.mem_reverse.mp (List.mem_of_find?_eq_some hfind),
      by simpa using List.find?_some hfind, rfl⟩
  · cases heq

theorem exists_foreign (h : foreign p held called = .ok found) {name : String}
    (hname : name ∈ called) (hheld : name ∉ held) : ∃ e ∈ found, e.1 = name := by
  have hmem : name ∈ called.filter fun name => !held.contains name := by
    simpa using ⟨hname, hheld⟩
  obtain ⟨e, he, heq⟩ := exists_of_forall₂ (Outcome.mapM_eq_ok_iff.mp h) hmem
  split at heq
  · obtain rfl := Outcome.pure_eq_ok.mp heq
    exact ⟨_, he, rfl⟩
  · cases heq

/-- What a module is made of. -/
theorem moduleOf_eq {header : String} (h : moduleOf s p header part = .ok m) :
    checkErrorNames part.records = .ok () ∧ checkRoutines [] part.records = .ok () ∧
      (∃ called, s.referenced part.records = .ok called ∧
        foreign p part.records called = .ok m.foreign) ∧
      RecordCode.ofRecords s part.records = .ok m.codes ∧ m.file = part.file ∧
      m.classes = classImports part.file part.records part.units ∧
      m.errors = errorImport p part.file ∧
      m.others = (m.foreign.map (·.2)).eraseDups.mergeSort fun a b => a ≤ b := by
  obtain ⟨⟨⟩, herrors, h⟩ := Outcome.bind_eq_ok.mp h
  obtain ⟨⟨⟩, hroutines, h⟩ := Outcome.bind_eq_ok.mp h
  obtain ⟨called, hcalled, h⟩ := Outcome.bind_eq_ok.mp h
  obtain ⟨found, hfound, h⟩ := Outcome.bind_eq_ok.mp h
  obtain ⟨codes, hcodes, h⟩ := Outcome.bind_eq_ok.mp h
  obtain rfl := Outcome.pure_eq_ok.mp h
  exact ⟨herrors, hroutines, ⟨called, hcalled, hfound⟩, hcodes, rfl, rfl, rfl, rfl⟩

/-- Each module of a run is made from a part of the plan. -/
theorem exists_part {header : String} {modules : List Module}
    (h : List.Forall₂ (fun part m => moduleOf s p header part = .ok m) p.modules modules)
    (hm : m ∈ modules) :
    ∃ part ∈ p.modules, moduleOf s p header part = .ok m ∧ m.file = part.file := by
  obtain ⟨part, hpart, hmodule⟩ := exists_of_forall₂ h.flip hm
  obtain ⟨-, -, -, -, hfile, -⟩ := moduleOf_eq hmodule
  exact ⟨part, hpart, hmodule, hfile⟩

/-- Each part of the plan is made into a module of the run. -/
theorem exists_module {header : String} {modules : List Module}
    (h : List.Forall₂ (fun part m => moduleOf s p header part = .ok m) p.modules modules)
    (hpart : part ∈ p.modules) :
    ∃ m ∈ modules, moduleOf s p header part = .ok m ∧ m.file = part.file := by
  obtain ⟨m, hm, hmodule⟩ := exists_of_forall₂ h hpart
  obtain ⟨-, -, -, -, hfile, -⟩ := moduleOf_eq hmodule
  exact ⟨m, hm, hmodule, hfile⟩

theorem errorImport_names {file : Path} {i : NamesImport} (h : errorImport p file = some i) :
    i.names = ErrorClass.familyNames := by
  obtain ⟨first, -, h⟩ := Option.bind_eq_some_iff.mp h
  split at h
  · cases h
  · obtain ⟨u, -, h⟩ := Option.bind_eq_some_iff.mp h
    rw [← Option.some.inj h]
    rfl

/-- The names that are taken from units are those of the units that are held. -/
theorem names_classImports (file : Path) (records : List String) (units : List SourceUnit) :
    (classImports file records units).flatMap (·.names) =
      units.flatMap fun u => u.names.filter records.contains := by
  induction units with
  | nil => rfl
  | cons u units ih =>
    rw [List.flatMap_cons, ← ih]
    unfold classImports
    rw [List.map_cons, List.filter_cons]
    split
    · rw [List.flatMap_cons]
      rfl
    · case isFalse hempty =>
      have hnil : u.names.filter records.contains = [] := by simpa [takeFrom] using hempty
      rw [hnil, List.nil_append]

end Assembly

namespace Plan

variable {s : Schema} {units : List SourceUnit} {selected : List String} {output : Option Path}
  {suffix : String} {p : Plan} {part : ModulePlan} {modules : List ModulePlan}

/-- A part of a plan draws on some of the units and holds what is chosen from them. -/
def Draws (s : Schema) (selected : List String) (units : List SourceUnit) (part : ModulePlan) :
    Prop :=
  part.units ⊆ units ∧ part.records = part.units.flatMap (chosen s selected)

theorem Draws.mono {units' : List SourceUnit} (h : Draws s selected units part)
    (hsub : units ⊆ units') : Draws s selected units' part :=
  ⟨List.Subset.trans h.1 hsub, h.2⟩

theorem draws_merged {file : Path} (hpart : part ∈ merged s selected file units) :
    Draws s selected units part := by
  unfold merged at hpart
  dsimp only at hpart
  split at hpart
  · cases hpart
  · obtain rfl := List.mem_singleton.mp hpart
    exact ⟨List.Subset.refl _, rfl⟩

/-- A part beside a unit holds what is chosen from the unit, in a file named after it. -/
theorem draws_besideUnits (h : besideUnits s selected suffix units = .ok modules)
    (hpart : part ∈ modules) :
    Draws s selected units part ∧ ∃ u ∈ units, outputPath? u.path suffix = some part.file := by
  induction units generalizing modules with
  | nil =>
    obtain rfl := Except.ok.inj h
    cases hpart
  | cons u units ih =>
    have hmono {part : ModulePlan} (h : Draws s selected units part ∧
        ∃ u ∈ units, outputPath? u.path suffix = some part.file) :
        Draws s selected (u :: units) part ∧
          ∃ u' ∈ u :: units, outputPath? u'.path suffix = some part.file := by
      obtain ⟨hdraws, u', hu', hfile⟩ := h
      exact ⟨hdraws.mono (List.subset_cons_self u units), u', List.mem_cons_of_mem _ hu', hfile⟩
    unfold besideUnits at h
    dsimp only at h
    split at h
    · exact hmono (ih h hpart)
    · split at h
      · cases h
      · case h_2 file hfile =>
        obtain ⟨rest, hrest, rfl⟩ := Outcome.map_eq_ok.mp h
        rcases List.mem_cons.mp hpart with rfl | hpart
        · exact ⟨⟨by simp, by simp⟩, u, List.mem_cons_self, hfile⟩
        · exact hmono (ih hrest hpart)

theorem draws_ofUnits (h : ofUnits s units selected output suffix = .ok p)
    (hpart : part ∈ p.modules) : Draws s selected units part := by
  have hsorted : sortUnits units ⊆ units := fun u hu => List.mem_mergeSort.mp hu
  unfold ofUnits at h
  cases output with
  | some file =>
    obtain rfl := Except.ok.inj h
    exact (draws_merged hpart).mono hsorted
  | none =>
    obtain ⟨modules, hmodules, rfl⟩ := Outcome.map_eq_ok.mp h
    exact (draws_besideUnits hmodules hpart).1.mono hsorted

/-- A module that is not alone is named after a unit. -/
theorem named_ofUnits (h : ofUnits s units selected output suffix = .ok p) {other : ModulePlan}
    (hpart : part ∈ p.modules) (hother : other ∈ p.modules) (hne : part ≠ other) :
    ∃ u ∈ units, outputPath? u.path suffix = some other.file := by
  unfold ofUnits at h
  cases output with
  | some file =>
    obtain rfl := Except.ok.inj h
    unfold merged at hpart hother
    dsimp only at hpart hother
    split at hpart
    · cases hpart
    · case isFalse hempty =>
      rw [if_neg hempty] at hother
      exact absurd ((List.mem_singleton.mp hpart).trans (List.mem_singleton.mp hother).symm) hne
  | none =>
    obtain ⟨modules, hmodules, rfl⟩ := Outcome.map_eq_ok.mp h
    obtain ⟨-, u, hu, hfile⟩ := draws_besideUnits hmodules hother
    exact ⟨u, List.mem_mergeSort.mp hu, hfile⟩

end Plan

/-- A suffix that is accepted ends like a module and says something before that. -/
theorem Settings.suffix_of_validate {settings : Settings}
    (h : settings.validate = .ok settings) :
    ∃ cs, settings.suffix.toList = cs ++ moduleEnding.toList ∧ cs ≠ [] := by
  unfold validate at h
  split at h
  · cases h
  · case isFalse hsuffix =>
    rw [Bool.or_eq_true, not_or, Bool.not_eq_true', Bool.not_eq_false,
      decide_eq_true_iff] at hsuffix
    obtain ⟨hends, hne⟩ := hsuffix
    obtain ⟨cs, hcs⟩ := List.isSuffixOf_iff_suffix.mp hends
    refine ⟨cs, hcs.symm, ?_⟩
    rintro rfl
    exact hne (String.toList_injective hcs.symm)

/-- The name of a module beside a source is not empty. -/
theorem moduleName_ne_empty {settings : Settings} (hsettings : settings.validate = .ok settings)
    {source file : Path} (h : outputPath? source settings.suffix = some file) :
    moduleName file ≠ "" := by
  obtain ⟨cs, hcs, hne⟩ := Settings.suffix_of_validate hsettings
  have hname : file.name.toList = (source.stem.toList ++ cs) ++ ['.', 'p', 'y'] := by
    unfold outputPath? Path.withName? at h
    split at h
    · rw [← Option.some.inj h]
      simp [Path.name, String.toList_append, hcs, moduleEnding]
    · cases h
  have hends : Text.endsWith file.name moduleEnding = true :=
    List.isSuffixOf_iff_suffix.mpr ⟨_, hname.symm⟩
  rw [moduleName, if_pos hends, hname]
  intro hempty
  have hnil := congrArg String.toList hempty
  simp [hne] at hnil

namespace Assembly

variable {s : Schema} {p : Plan} {part : ModulePlan} {m : Module} {header : String}
  {units : List SourceUnit} {selected : List String} {output : Option Path} {settings : Settings}

/-- Among the names of a unit, the records of a part are those that are chosen. -/
theorem filter_records (h : Plan.Draws s selected units part) {u : SourceUnit}
    (hu : u ∈ part.units) :
    u.names.filter part.records.contains = Plan.chosen s selected u := by
  refine List.filter_congr fun name hname => ?_
  rw [Bool.eq_iff_iff, List.contains_iff_mem, h.2, List.mem_flatMap]
  constructor
  · rintro ⟨u', -, hchosen⟩
    exact (List.mem_filter.mp hchosen).2
  · exact fun hchosen => ⟨u, hu, List.mem_filter.mpr ⟨hname, hchosen⟩⟩

theorem records_moduleOf (h : moduleOf s p header part = .ok m) : m.records = part.records := by
  obtain ⟨-, -, -, hcodes, -⟩ := moduleOf_eq h
  exact RecordCode.map_name_ofRecords hcodes

theorem mem_foreign_of_home? {record home : String} (h : m.home? record = some home) :
    (record, home) ∈ m.foreign := by
  obtain ⟨hfound, -⟩ := Option.filter_eq_some_iff.mp h
  obtain ⟨e, he, rfl⟩ := Option.map_eq_some_iff.mp hfound
  have hname : e.1 = record := by simpa using List.find?_some he
  rw [← hname]
  exact List.mem_of_find?_eq_some he

/-- A module makes the modules known that it calls. -/
theorem mem_others (h : moduleOf s p header part = .ok m) {record home : String}
    (hhome : m.home? record = some home) : home ∈ m.others := by
  obtain ⟨-, -, -, -, -, -, -, hothers⟩ := moduleOf_eq h
  rw [hothers, List.mem_mergeSort, List.mem_eraseDups]
  exact List.mem_map.mpr ⟨_, mem_foreign_of_home? hhome, rfl⟩

/-- Where a record that is called but not held is held. -/
theorem exists_home (h : moduleOf s p header part = .ok m) {record home : String}
    (hhome : m.home? record = some home) :
    ∃ other ∈ p.modules, moduleName other.file = home ∧ record ∈ other.records := by
  obtain ⟨-, -, ⟨called, -, hforeign⟩, -⟩ := moduleOf_eq h
  obtain ⟨-, other, hother, hrecord, hname⟩ := mem_foreign hforeign (mem_foreign_of_home? hhome)
  exact ⟨other, hother, hname.symm, hrecord⟩

theorem foreign_ne_empty (hsettings : settings.validate = .ok settings)
    (hplan : Plan.ofUnits s units selected output settings.suffix = .ok p)
    (hpart : part ∈ p.modules) (h : moduleOf s p header part = .ok m) {e : String × String}
    (he : e ∈ m.foreign) : e.2 ≠ "" := by
  obtain ⟨-, -, ⟨called, -, hforeign⟩, -⟩ := moduleOf_eq h
  obtain ⟨hheld, other, hother, hrecord, hname⟩ := mem_foreign hforeign he
  have hne : part ≠ other := by
    rintro rfl
    exact hheld hrecord
  obtain ⟨u, -, hu⟩ := Plan.named_ofUnits hplan hpart hother hne
  rw [hname]
  exact moduleName_ne_empty hsettings hu

/-- A record that is called but not held has a module to go to. -/
theorem isSome_home? (hsettings : settings.validate = .ok settings)
    (hplan : Plan.ofUnits s units selected output settings.suffix = .ok p)
    (hpart : part ∈ p.modules) (h : moduleOf s p header part = .ok m) {c : RecordCode}
    (hc : c ∈ m.codes) {name : String} (hname : name ∈ c.callees) (hheld : name ∉ part.records) :
    (m.home? name).isSome := by
  obtain ⟨-, -, ⟨called, hcalled, hforeign⟩, hcodes, -⟩ := moduleOf_eq h
  obtain ⟨record, hrecord, hcode, -⟩ :=
    exists_of_forall₂ (RecordCode.ofRecords_eq_ok hcodes).flip hc
  obtain ⟨pairs, hpairs, q, hq, hends⟩ := RecordCode.ends_of_mem_callees hcode hname
  have hmem := Schema.mem_of_referenced hcalled hrecord hpairs hq hends
  obtain ⟨e, he, rfl⟩ := exists_foreign hforeign hmem hheld
  have hfind : (m.foreign.find? (·.1 == e.1)).isSome = true :=
    List.find?_isSome.mpr ⟨e, he, beq_self_eq_true _⟩
  obtain ⟨e', he'⟩ := Option.isSome_iff_exists.mp hfind
  have hne := foreign_ne_empty hsettings hplan hpart h (List.mem_of_find?_eq_some he')
  simp [Module.home?, he', Option.filter, hne]

/-- What assembly makes sure of. -/
theorem assembled (hexported : ∀ u ∈ units, ∀ name ∈ u.names, isExported name = true)
    (hsettings : settings.validate = .ok settings)
    (hplan : Plan.ofUnits s units selected output settings.suffix = .ok p)
    (hpart : part ∈ p.modules) (h : moduleOf s p header part = .ok m) : m.Assembled := by
  have hrecords := records_moduleOf h
  have hdraws := Plan.draws_ofUnits hplan hpart
  obtain ⟨herrors, hroutines, -, -, -, hclasses, himport, hothers⟩ := moduleOf_eq h
  constructor
  case exported =>
    intro record hrecord
    rw [hrecords, hdraws.2] at hrecord
    obtain ⟨u, hu, hchosen⟩ := List.mem_flatMap.mp hrecord
    exact hexported u (hdraws.1 hu) record (List.mem_of_mem_filter hchosen)
  case classes =>
    rw [hclasses, names_classImports, hrecords]
    refine Eq.trans ?_ hdraws.2.symm
    exact List.flatMap_congr fun u hu => filter_records hdraws hu
  case errorNames =>
    rw [hrecords]
    exact fun record hrecord => not_mem_familyNames herrors hrecord
  case routines =>
    rw [hrecords]
    exact nodup_routines hroutines List.nodup_nil
  case errors => exact fun i hi => errorImport_names (himport.symm.trans hi)
  case others =>
    rw [hothers, List.nodup_mergeSort]
    exact nodup_eraseDups _
  case home => exact mem_others h
  case callees =>
    intro c hc name hname
    by_cases hheld : name ∈ part.records
    · exact .inl (hrecords ▸ hheld)
    · exact .inr (isSome_home? hsettings hplan hpart h hc hname hheld)

end Assembly

/-- The modules that a run assembles, before they are written out. -/
def Assembly.modulesOf (s : Schema) (units : List SourceUnit) (selected : Option (List String))
    (output : Option Path) (settings : Settings) : Generation (List Module) := do
  let p ← Plan.ofUnits s units (selected.getD s.order) output settings.suffix
  p.modules.mapM (moduleOf s p settings.header)

/-- **Hygiene of generated modules.** Whenever a run assembles modules, the names of each are clear
of each other just if those of its records and of the modules it calls are; and if so in all of
them, each name that a function uses stands for what it is meant to, across modules too. -/
theorem assemble_hygiene {accepts : String → Bool} {s : Schema} {units : List SourceUnit}
    {selected : Option (List String)} {output : Option Path} {settings : Settings}
    {outs : List Output} (hsettings : settings.validate = .ok settings)
    (hexported : ∀ u ∈ units, ∀ name ∈ u.names, isExported name = true)
    (h : assemble accepts s units selected output settings = .ok outs) :
    ∃ modules, Assembly.modulesOf s units selected output settings = .ok modules ∧
      modules.mapM (Assembly.outputOf accepts) = .ok outs ∧
      (∀ m ∈ modules, m.Hygienic ↔ m.Apart) ∧
      ((∀ m ∈ modules, m.Apart) → ∀ m ∈ modules, m.Hygienic ∧ m.Reaches modules) := by
  obtain ⟨p, hplan, h⟩ := Outcome.bind_eq_ok.mp h
  split at h
  · cases h
  obtain ⟨modules, hmodules, houts⟩ := forall₂_comp_iff.mp
    ((Outcome.mapM_eq_ok_iff.mp h).imp fun part out hpart => Outcome.bind_eq_ok.mp hpart)
  have hassembled : ∀ m ∈ modules, ∃ part ∈ p.modules,
      Assembly.moduleOf s p settings.header part = .ok m ∧ m.Assembled := by
    intro m hm
    obtain ⟨part, hpart, hmodule⟩ := exists_of_forall₂ hmodules.flip hm
    exact ⟨part, hpart, hmodule, Assembly.assembled hexported hsettings hplan hpart hmodule⟩
  refine ⟨modules, Outcome.bind_eq_ok.mpr ⟨p, hplan, Outcome.mapM_eq_ok_iff.mpr hmodules⟩,
    Outcome.mapM_eq_ok_iff.mpr houts, fun m hm => ?_, fun hapart m hm => ?_⟩
  · obtain ⟨part, hpart, hmodule, hm⟩ := hassembled m hm
    exact hm.hygienic_iff_apart
  · have hclean {m : Module} (hm : m ∈ modules) : m.Hygienic := by
      obtain ⟨part, hpart, hmodule, hmade⟩ := hassembled m hm
      exact hmade.hygienic_iff_apart.mpr (hapart m hm)
    obtain ⟨part, hpart, hmodule, hmade⟩ := hassembled m hm
    refine ⟨hclean hm, hmade.reaches (hclean hm) fun owner sibling hhome => ?_⟩
    obtain ⟨other, hother, hname, howner⟩ := Assembly.exists_home hmodule hhome
    obtain ⟨home, hmem, hmodule'⟩ := exists_of_forall₂ hmodules hother
    obtain ⟨-, -, -, -, hfile, -⟩ := Assembly.moduleOf_eq hmodule'
    exact ⟨home, hmem, hfile ▸ hname, Assembly.records_moduleOf hmodule' ▸ howner, hclean hmem⟩

/-! ### Runs -/

/-- The schema of all records of units. -/
def schemaOf (units : List SourceUnit) : Generation (Schema × List Diagnostic) :=
  (({ units } : Resolution).run (Resolution.resolveAll none)).2.schema none true

/-- A field of eight bytes. -/
def numberField : FieldDecl := ⟨"n", .name "uint64", "uint64", "", 3⟩

/-- A unit with lists of a record, and one with the record. -/
def crossUnits : List SourceUnit :=
  [{ path := ⟨"", ["calling.py"]⟩, moduleName := "calling", inPackage := true,
     records := [⟨"B", [⟨"l", .apply "List" (.name "A"), "List[A]", "ssz-max:\"4\"", 3⟩],
       "calling.py", 2⟩] },
   { path := ⟨"", ["held.py"]⟩, moduleName := "held", inPackage := true,
     records := [⟨"A", [numberField], "held.py", 2⟩] }]

/-- The units stand in order already. -/
theorem sortUnits_crossUnits : Plan.sortUnits crossUnits = crossUnits :=
  List.mergeSort_of_pairwise (by decide +kernel)

/-- Two modules that call each other, all of whose names stand for what they are meant to. -/
theorem hygiene_cross : ∃ sd outs modules, schemaOf crossUnits = .ok sd ∧
    assemble (fun _ => true) sd.1 crossUnits none none {} = .ok outs ∧
    Assembly.modulesOf sd.1 crossUnits none none {} = .ok modules ∧
    (∃ m ∈ modules, m.others = ["held_encoding"]) ∧
    ∀ m ∈ modules, m.Hygienic ∧ m.Reaches modules := by
  have hrun : ∃ sd, schemaOf crossUnits = .ok sd ∧
      (assemble (fun _ => true) sd.1 crossUnits none none {}).isOk = true ∧
      ∃ modules, Assembly.modulesOf sd.1 crossUnits none none {} = .ok modules ∧
        (∃ m ∈ modules, m.others = ["held_encoding"]) ∧ ∀ m ∈ modules, m.Apart := by
    simp only [assemble, Assembly.modulesOf, Plan.ofUnits, sortUnits_crossUnits]
    decide +kernel
  obtain ⟨sd, hsd, hok, modules, hmodules, hothers, hapart⟩ := hrun
  obtain ⟨outs, houts⟩ := Outcome.exists_eq_ok hok
  obtain ⟨modules', hmodules', -, -, hreaches⟩ :=
    assemble_hygiene (by decide +kernel) (by decide +kernel) houts
  obtain rfl := Except.ok.inj (hmodules.symm.trans hmodules')
  exact ⟨sd, outs, modules, hsd, houts, hmodules, hothers, hreaches hapart⟩

/-- A unit whose records are named like a routine, like what the language provides and like a
variable. -/
def clashUnit : SourceUnit where
  path := ⟨"", ["types.py"]⟩
  moduleName := "types"
  inPackage := false
  records := [⟨"A", [numberField], "types.py", 2⟩, ⟨"marshal_a", [numberField], "types.py", 4⟩,
    ⟨"len", [numberField], "types.py", 6⟩, ⟨"size", [numberField], "types.py", 8⟩]

set_option synthInstance.maxSize 1000 in
/-- Records that are named like something else of their module are assembled all the same. -/
theorem not_hygienic_clash : ({} : Settings).validate = .ok {} ∧
    (∀ name ∈ clashUnit.names, isExported name = true) ∧
    ∃ sd, schemaOf [clashUnit] = .ok sd ∧
      (assemble (fun _ => true) sd.1 [clashUnit] none none {}).isOk = true ∧
      ∃ modules, Assembly.modulesOf sd.1 [clashUnit] none none {} = .ok modules ∧
        ∃ m ∈ modules, ¬(m.bindings.map Entity.name).Nodup ∧
          ¬(∀ e ∈ m.bindings, e.name ∉ m.builtinNames) ∧
          ¬(∀ f ∈ m.functions, ∀ v ∈ variablesOf f, ∀ e ∈ entitiesOf f, v.name ≠ e.name) ∧
          -- A call that is to make a record encodes one instead.
          ∃ f ∈ m.functions, .record "marshal_a" ∈ entitiesOf f ∧
            m.reads f "marshal_a" = some (.routine .marshal "A") := by
  decide +kernel

end SszSchema
