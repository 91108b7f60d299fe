import SszSchema.Proofs.Placement

/-!
# Runs in another order

What a run makes depends on the records that it keeps, and on nothing else that the order of its
units and targets decides: neither on the numbers of nodes nor on the order in which records were
registered or classified (`Product.outputs_of_perm`). Units are sorted before they are divided
(`Plan.sortUnits_of_perm`), a plan and the records that its modules call are told by the records kept
(`Plan.ofUnits_congr`, `Schema.Marks.referenced_eq`), and so is their code, since that of a type is
unique (`RecordCode.Right.unique`).

Which records are kept is told by the targets as long as none is dropped for its size. Targets that
cannot be resolved lead to nothing, so lists of targets that lead to the same records do not have to
keep the same ones if some are left out (`not_outputs_of_perm`).
-/

namespace SszSchema

open Relation

variable {units units' : List SourceUnit}

/-! ## Declarations -/

theorem find?_eq_some_iff_mem {α : Type} {key : α → String} {l : List α}
    (hnodup : (l.map key).Nodup) {name : String} {a : α} :
    l.find? (key · == name) = some a ↔ a ∈ l ∧ key a = name := by
  refine ⟨fun h => ⟨List.mem_of_find?_eq_some h, by simpa using List.find?_some h⟩, ?_⟩
  rintro ⟨ha, rfl⟩
  obtain ⟨b, hb⟩ : ∃ b, l.find? (key · == key a) = some b := by
    rw [← Option.isSome_iff_exists, List.find?_isSome]
    exact ⟨a, ha, beq_self_eq_true _⟩
  have hkey : key b = key a := by simpa using List.find?_some hb
  rwa [List.inj_on_of_nodup_map hnodup (List.mem_of_find?_eq_some hb) ha hkey] at hb

/-- Which record a name stands for does not depend on the order of the units. -/
theorem declared?_of_perm (hperm : units.Perm units') (hnodup : (units.flatMap (·.names)).Nodup) :
    declared? units = declared? units' := by
  have hdecls : (SszSchema.declarations units).Perm (SszSchema.declarations units') :=
    hperm.flatMap_right _
  have hnames : ((SszSchema.declarations units).map (·.name)).Nodup := by
    rwa [SszSchema.declarations, List.map_flatMap]
  funext name
  refine Option.ext fun d => ?_
  rw [declared?, declared?, find?_eq_some_iff_mem hnames,
    find?_eq_some_iff_mem ((hdecls.map _).nodup_iff.mp hnames), hdecls.mem_iff]

theorem mentions_of_declared? (h : declared? units = declared? units') :
    Mentions units = Mentions units' := by
  unfold Mentions
  rw [h]

theorem doomed_of_declared? (h : declared? units = declared? units') :
    Doomed units = Doomed units' := by
  unfold Doomed Acceptable
  rw [mentions_of_declared? h, h]

theorem declaredCatalog_of_declared? (h : declared? units = declared? units') :
    declaredCatalog units = declaredCatalog units' := by
  unfold declaredCatalog
  rw [h]

/-- Lists of the same targets lead to the same records. -/
theorem mem_wanted_of_perm (hperm : units.Perm units') {targets targets' : List String}
    (h : ∀ t, t ∈ targets ↔ t ∈ targets') (name : String) :
    name ∈ Resolution.wanted { units } targets ↔
      name ∈ Resolution.wanted { units := units' } targets' := by
  have hdeclared : (Resolution.declared { units }).Perm (Resolution.declared { units := units' }) :=
    (hperm.flatMap_right _).map _
  have hempty : targets.isEmpty = targets'.isEmpty := by
    rw [Bool.eq_iff_iff, List.isEmpty_iff, List.isEmpty_iff, List.eq_nil_iff_forall_not_mem,
      List.eq_nil_iff_forall_not_mem]
    exact forall_congr' fun t => not_congr (h t)
  unfold Resolution.wanted
  rw [hempty]
  split
  · exact hdeclared.mem_iff
  · exact h name

theorem ledTo_of_perm (hperm : units.Perm units') (hnodup : (units.flatMap (·.names)).Nodup)
    {targets targets' : List String} (h : ∀ t, t ∈ targets ↔ t ∈ targets') (x : String) :
    (SafelyLedTo units targets x ↔ SafelyLedTo units' targets' x) ∧
      (LedTo units targets x ↔ LedTo units' targets' x) := by
  have hdeclared := declared?_of_perm hperm hnodup
  have hwanted := mem_wanted_of_perm hperm h
  unfold SafelyLedTo LedTo
  rw [mentions_of_declared? hdeclared, doomed_of_declared? hdeclared]
  exact ⟨exists_congr fun t => and_congr_left' (hwanted t),
    exists_congr fun t => and_congr_left' (hwanted t)⟩

/-- Targets that others lead to can be added to them. -/
theorem ledTo_of_subset {targets targets' : List String} (hne : targets ≠ [])
    (hsub : targets ⊆ targets') (hled : ∀ t ∈ targets', LedTo units targets t) (x : String) :
    LedTo units targets x ↔ LedTo units targets' x := by
  have hwanted {targets : List String} (hne : targets ≠ []) :
      Resolution.wanted { units } targets = targets :=
    if_neg (by simpa using hne)
  have hne' : targets' ≠ [] := fun hnil => hne (List.eq_nil_of_subset_nil (hnil ▸ hsub))
  constructor
  · rintro ⟨t, ht, hx⟩
    rw [hwanted hne] at ht
    exact ⟨t, (hwanted hne').symm ▸ hsub ht, hx⟩
  · rintro ⟨t, ht, hx⟩
    rw [hwanted hne'] at ht
    obtain ⟨u, hu, ht⟩ := hled t ht
    exact ⟨u, hu, ht.trans hx⟩

/-! ## Plans -/

namespace Plan

/-- The order of units with different paths does not matter. -/
theorem sortUnits_of_perm (hperm : units.Perm units')
    (hpaths : (units.map (·.path.toString)).Nodup) : sortUnits units = sortUnits units' := by
  refine List.Perm.eq_of_pairwise ?_ (pairwise_sortUnits units) (pairwise_sortUnits units')
    ((perm_sortUnits units).trans (hperm.trans (perm_sortUnits units').symm))
  intro u v hu hv huv hvu
  refine List.inj_on_of_nodup_map hpaths (List.mem_mergeSort.mp hu) ?_ (String.le_antisymm huv hvu)
  exact hperm.mem_iff.mpr (List.mem_mergeSort.mp hv)

/-- Plans depend on the records of a schema only. -/
theorem ofUnits_congr {s s' : Schema} {output : Option Path} {suffix : String}
    (hsorted : sortUnits units = sortUnits units') (horder : ∀ name, name ∈ s.order ↔ name ∈ s'.order) :
    ofUnits s units s.order output suffix = ofUnits s' units' s'.order output suffix := by
  have hchosen : chosen s s.order = chosen s' s'.order := by
    funext u
    refine List.filter_congr fun name _ => ?_
    rw [Schema.contains, Schema.contains, Bool.and_self, Bool.and_self, Bool.eq_iff_iff,
      List.contains_iff_mem, List.contains_iff_mem, horder]
  have hbeside (us : List SourceUnit) :
      besideUnits s s.order suffix us = besideUnits s' s'.order suffix us := by
    induction us with
    | nil => rfl
    | cons u us ih => rw [besideUnits, besideUnits, hchosen, ih]
  unfold ofUnits
  rw [hsorted]
  cases output with
  | some file => simp only [merged, hchosen]
  | none => simp only [hbeside]

end Plan

/-! ## Modules -/

/-- The record that a type ends in, after those found before. -/
def SszType.addInnermost (found : List String) (t : SszType) : List String :=
  match t.innermost with
  | some name => if found.contains name then found else found ++ [name]
  | none => found

/-- The records that the fields of some records end in, each once. -/
def Catalog.called (env : Catalog) (records : List String) : List String :=
  records.foldl (fun found name =>
    ((env name).getD []).foldl (fun found f => f.2.addInnermost found) found) []

namespace Schema.Marks

variable {s : Schema} {a : Arena} {entries : List (String × NodeId)} {env : Catalog}
  {c : Classifier}

theorem addReferenced_eq (h : s.Marks a entries env c) {found found' : List String}
    {p : FieldRef × Node} {g : String × SszType} (hp : FieldNode a entries c p g)
    (hadd : s.addReferenced found p.2 = .ok found') : found' = g.2.addInnermost found := by
  obtain ⟨-, n, hn, hnode, ht⟩ := hp
  obtain ⟨m, hm, hadd⟩ := Outcome.bind_eq_ok.mp hadd
  rw [hnode] at hm
  rw [SszType.addInnermost, h.innermost_eq_ok hn ht hm]
  split at hadd
  · case isTrue hk =>
    obtain ⟨name, hname, hadd⟩ := Outcome.bind_eq_ok.mp hadd
    rw [if_pos hk, need_eq_ok hname]
    exact (Outcome.pure_eq_ok.mp hadd).symm
  · case isFalse hk =>
    rw [if_neg hk]
    exact (Outcome.pure_eq_ok.mp hadd).symm

/-- The records that are called are told by the types of the fields. -/
theorem referenced_eq (h : s.Marks a entries env c) {records called : List String}
    (hcalled : s.referenced records = .ok called) : called = env.called records := by
  have hfields {pairs : List (FieldRef × Node)} {fields : Fields}
      (hpf : List.Forall₂ (FieldNode a entries c) pairs fields) {found found' : List String}
      (hfold : pairs.foldlM (fun found f => s.addReferenced found f.2) found = .ok found') :
      found' = fields.foldl (fun found f => f.2.addInnermost found) found := by
    induction hpf generalizing found with
    | nil => exact (Outcome.pure_eq_ok.mp hfold).symm
    | cons hp _ ih =>
      rw [List.foldlM_cons] at hfold
      obtain ⟨next, hnext, hfold⟩ := Outcome.bind_eq_ok.mp hfold
      rw [ih hfold, h.addReferenced_eq hp hnext, List.foldl_cons]
  unfold Catalog.called
  unfold Schema.referenced at hcalled
  generalize [] = found at hcalled
  induction records generalizing found with
  | nil => exact (Outcome.pure_eq_ok.mp hcalled).symm
  | cons name records ih =>
    rw [List.foldlM_cons] at hcalled
    obtain ⟨next, hnext, hcalled⟩ := Outcome.bind_eq_ok.mp hcalled
    obtain ⟨pairs, hpairs, hnext⟩ := Outcome.bind_eq_ok.mp hnext
    obtain ⟨fields, henv, hpf⟩ := h.fieldNodes_eq_ok (Outcome.mapError_eq_ok.mp hpairs)
    rw [ih next hcalled, hfields hpf hnext, List.foldl_cons, henv, Option.getD_some]

/-- The code of records is told by the types of their fields. -/
theorem ofRecords_unique {s' : Schema} {a' : Arena} {entries' : List (String × NodeId)}
    {c' : Classifier} (h : s.Marks a entries env c) (h' : s'.Marks a' entries' env c')
    {names : List String} {codes codes' : List RecordCode}
    (hcodes : RecordCode.ofRecords s names = .ok codes)
    (hcodes' : RecordCode.ofRecords s' names = .ok codes') : codes = codes' := by
  refine eq_of_forall₂ (RecordCode.ofRecords_eq_ok hcodes) (RecordCode.ofRecords_eq_ok hcodes') ?_
  rintro name code code' ⟨hcode, hname⟩ ⟨hcode', hname'⟩
  obtain ⟨fields, hfields, hright⟩ := h.right hcode
  obtain ⟨fields', hfields', hright'⟩ := h'.right hcode'
  obtain rfl := Option.some.inj (hfields.symm.trans hfields')
  exact hright.unique hright' (hname.trans hname'.symm)

/-- Modules are told by the types of their records. -/
theorem moduleOf_unique {s' : Schema} {a' : Arena} {entries' : List (String × NodeId)}
    {c' : Classifier} (h : s.Marks a entries env c) (h' : s'.Marks a' entries' env c') {p : Plan}
    {header : String} {part : ModulePlan} {m m' : Module}
    (hm : Assembly.moduleOf s p header part = .ok m)
    (hm' : Assembly.moduleOf s' p header part = .ok m') : m = m' := by
  obtain ⟨-, -, hm⟩ := Outcome.bind_eq_ok.mp hm
  obtain ⟨-, -, hm⟩ := Outcome.bind_eq_ok.mp hm
  obtain ⟨called, hcalled, hm⟩ := Outcome.bind_eq_ok.mp hm
  obtain ⟨found, hfound, hm⟩ := Outcome.bind_eq_ok.mp hm
  obtain ⟨codes, hcodes, hm⟩ := Outcome.bind_eq_ok.mp hm
  obtain ⟨-, -, hm'⟩ := Outcome.bind_eq_ok.mp hm'
  obtain ⟨-, -, hm'⟩ := Outcome.bind_eq_ok.mp hm'
  obtain ⟨called', hcalled', hm'⟩ := Outcome.bind_eq_ok.mp hm'
  obtain ⟨found', hfound', hm'⟩ := Outcome.bind_eq_ok.mp hm'
  obtain ⟨codes', hcodes', hm'⟩ := Outcome.bind_eq_ok.mp hm'
  obtain rfl := (h.referenced_eq hcalled).trans (h'.referenced_eq hcalled').symm
  obtain rfl := Except.ok.inj (hfound.symm.trans hfound')
  obtain rfl := h.ofRecords_unique h' hcodes hcodes'
  exact (Outcome.pure_eq_ok.mp hm).symm.trans (Outcome.pure_eq_ok.mp hm')

/-- Outputs are told by the records that are kept and by their types. -/
theorem assemble_unique {s' : Schema} {a' : Arena} {entries' : List (String × NodeId)}
    {c' : Classifier} (h : s.Marks a entries env c) (h' : s'.Marks a' entries' env c')
    (hsorted : Plan.sortUnits units = Plan.sortUnits units')
    (horder : ∀ name, name ∈ s.order ↔ name ∈ s'.order) {accepts : String → Bool}
    {output : Option Path} {settings : Settings} {outs outs' : List Output}
    (houts : assemble accepts s units (some s.order) output settings = .ok outs)
    (houts' : assemble accepts s' units' (some s'.order) output settings = .ok outs') :
    outs = outs' := by
  obtain ⟨p, modules, hplan, -, hmodules, houts⟩ := Assembly.assemble_steps houts
  obtain ⟨p', modules', hplan', -, hmodules', houts'⟩ := Assembly.assemble_steps houts'
  rw [Option.getD_some, Plan.ofUnits_congr hsorted horder] at hplan
  obtain rfl := Except.ok.inj (hplan.symm.trans hplan')
  obtain rfl := eq_of_forall₂ hmodules hmodules' fun _ _ _ => h.moduleOf_unique h'
  exact eq_of_forall₂ houts houts' fun _ _ _ ho ho' => Except.ok.inj (ho.symm.trans ho')

end Schema.Marks

/-! ## Runs -/

namespace Product

variable {accepts : String → Bool} {q : Request} {targets targets' : List String} {p p' : Product}

/-- The schema of a product bears right verdicts for the declared types. -/
theorem marks_of_ofUnits (h : ofUnits accepts units q = .ok p) :
    ∃ a entries c, p.schema.Marks a entries (declaredCatalog units) c := by
  obtain ⟨-, r, ds, hr, rfl, -, -, hs, -⟩ := ofUnits_settles h
  obtain ⟨c, hmarks⟩ := hr.marks hr.bears_declared hs
  exact ⟨_, _, c, hmarks⟩

/-- Two runs that keep the same records make the same outputs. -/
theorem outputs_eq_iff (hperm : units.Perm units') (hpaths : (units.map (·.path.toString)).Nodup)
    (h : ofUnits accepts units { q with targets } = .ok p)
    (h' : ofUnits accepts units' { q with targets := targets' } = .ok p') :
    p.outputs = p'.outputs ↔ ∀ name, name ∈ p.records ↔ name ∈ p'.records := by
  constructor
  · intro heq name
    rw [records, records, heq]
  · intro hsame
    obtain ⟨hnodup, -, -, -, -, -, -, -, -, houts⟩ := ofUnits_settles h
    obtain ⟨-, -, -, -, -, -, -, -, -, houts'⟩ := ofUnits_settles h'
    obtain ⟨a, entries, c, hmarks⟩ := marks_of_ofUnits h
    obtain ⟨a', entries', c', hmarks'⟩ := marks_of_ofUnits h'
    rw [← declaredCatalog_of_declared? (declared?_of_perm hperm hnodup)] at hmarks'
    refine hmarks.assemble_unique hmarks' (Plan.sortUnits_of_perm hperm hpaths) (fun name => ?_)
      houts houts'
    rw [← (records_of_ofUnits h).1, hsame, (records_of_ofUnits h').1]

/-- **Runs in another order.** Two runs over the same units, given in any order, with the same
settings, make the same outputs just if they keep the same records. They do so if none is dropped for
its size and the targets that can be resolved lead to the same records, so in particular if both stop
at the first failure and their targets lead to the same records. Lists of the same targets do. -/
theorem outputs_of_perm (hperm : units.Perm units') (hpaths : (units.map (·.path.toString)).Nodup)
    (h : ofUnits accepts units { q with targets } = .ok p)
    (h' : ofUnits accepts units' { q with targets := targets' } = .ok p') :
    (p.outputs = p'.outputs ↔ ∀ name, name ∈ p.records ↔ name ∈ p'.records) ∧
      ((∀ d ∈ p.errors ++ p'.errors, d.kind ≠ .infiniteSize) →
        (∀ x, SafelyLedTo units targets x ↔ SafelyLedTo units' targets' x) →
        p.outputs = p'.outputs) ∧
      (q.settings.failFast = true → (∀ x, LedTo units targets x ↔ LedTo units' targets' x) →
        p.outputs = p'.outputs) ∧
      ((∀ t, t ∈ targets ↔ t ∈ targets') → ∀ x,
        (SafelyLedTo units targets x ↔ SafelyLedTo units' targets' x) ∧
        (LedTo units targets x ↔ LedTo units' targets' x)) := by
  have hiff := outputs_eq_iff hperm hpaths h h'
  have hkept (hsized : q.settings.failFast = true ∨ ∀ d ∈ p.errors ++ p'.errors,
      d.kind ≠ .infiniteSize)
      (hled : ∀ x, SafelyLedTo units targets x ↔ SafelyLedTo units' targets' x) :
      p.outputs = p'.outputs := by
    refine hiff.mpr fun name => ?_
    have hfirst := hsized.imp_right fun hnone d hd => hnone d (List.mem_append_left _ hd)
    have hsecond := hsized.imp_right fun hnone d hd => hnone d (List.mem_append_right _ hd)
    rw [(records_of_ofUnits h).1, (records_of_ofUnits h').1, mem_order_iff h hfirst,
      mem_order_iff h' hsecond]
    exact hled name
  refine ⟨hiff, fun hnone => hkept (.inr hnone), fun hfast hled => hkept (.inl hfast) fun x => ?_,
    fun htargets x => ?_⟩
  · exact (safelyLedTo_iff h hfast).trans ((hled x).trans (safelyLedTo_iff h' hfast).symm)
  · exact ledTo_of_perm hperm (ofUnits_settles h).1 htargets x

theorem sortUnits_reverse_crossUnits : Plan.sortUnits crossUnits.reverse = crossUnits := by
  rw [← Plan.sortUnits_of_perm crossUnits.reverse_perm.symm (by decide +kernel),
    sortUnits_crossUnits]

/-- Two runs, one over the units in reverse and for more targets, make the same two modules. -/
theorem outputs_cross : ∃ p p',
    ofUnits (fun _ => true) crossUnits { input := "", targets := ["B"] } = .ok p ∧
      ofUnits (fun _ => true) crossUnits.reverse { input := "", targets := ["A", "B", "A"] } =
        .ok p' ∧
      p.records = ["B", "A"] ∧ p.outputs = p'.outputs := by
  have hrun : ∃ p, ofUnits (fun _ => true) crossUnits { input := "", targets := ["B"] } = .ok p ∧
      p.records = ["B", "A"] := by
    simp only [ofUnits, assemble, Plan.ofUnits, sortUnits_crossUnits]
    decide +kernel
  have hrun' : (ofUnits (fun _ => true) crossUnits.reverse
      { input := "", targets := ["A", "B", "A"] }).isOk = true := by
    simp only [ofUnits, assemble, Plan.ofUnits, sortUnits_reverse_crossUnits]
    decide +kernel
  obtain ⟨p, hp, hrecords⟩ := hrun
  obtain ⟨p', hp'⟩ := Outcome.exists_eq_ok hrun'
  have hperm := crossUnits.reverse_perm.symm
  obtain ⟨-, -, hfast, -⟩ := @outputs_of_perm _ _ _ { input := "" } ["B"] ["A", "B", "A"] _ _
    hperm (by decide +kernel) hp hp'
  have hB : LedTo crossUnits ["B"] "B" := ⟨"B", List.mem_cons_self, .refl⟩
  have hA : LedTo crossUnits ["B"] "A" :=
    ⟨"B", List.mem_cons_self, .single ⟨_, rfl, _, List.mem_cons_self, rfl⟩⟩
  refine ⟨p, p', hp, hp', hrecords, hfast rfl fun x => ?_⟩
  have hmore := @ledTo_of_subset crossUnits ["B"] ["A", "B", "A"] (by simp) (by simp)
    (by simp [hA, hB]) x
  exact hmore.trans (ledTo_of_perm hperm (by decide +kernel) (fun _ => Iff.rfl) x).2

end Product

/-- A unit with a record that cannot be resolved, one that it mentions, and another one. -/
def spoiltUnit : SourceUnit where
  path := ⟨"", ["types.py"]⟩
  moduleName := "types"
  inPackage := false
  records := [⟨"A", [⟨"b", .name "B", "B", "", 3⟩, ⟨"x", .name "float", "float", "", 4⟩],
    "types.py", 2⟩, ⟨"B", [numberField], "types.py", 5⟩, ⟨"C", [numberField], "types.py", 7⟩]

/-- A run that leaves records out for what cannot be resolved. -/
def lenientRequest : Request := { input := "", settings := { failFast := false } }

/-- Two runs for targets that lead to the same records make different outputs if one of the targets
cannot be resolved. -/
theorem not_outputs_of_perm : ∃ p p',
    ([spoiltUnit].map (·.path.toString)).Nodup ∧
      Product.ofUnits (fun _ => true) [spoiltUnit] { lenientRequest with targets := ["A", "C"] } =
        .ok p ∧
      Product.ofUnits (fun _ => true) [spoiltUnit]
        { lenientRequest with targets := ["A", "B", "C"] } = .ok p' ∧
      (∀ x, LedTo [spoiltUnit] ["A", "C"] x ↔ LedTo [spoiltUnit] ["A", "B", "C"] x) ∧
      p.records = ["C"] ∧ p'.records = ["B", "C"] ∧ p.outputs ≠ p'.outputs := by
  have hrun : ∃ p, Product.ofUnits (fun _ => true) [spoiltUnit]
      { lenientRequest with targets := ["A", "C"] } = .ok p ∧ p.records = ["C"] := by
    decide +kernel
  have hrun' : ∃ p, Product.ofUnits (fun _ => true) [spoiltUnit]
      { lenientRequest with targets := ["A", "B", "C"] } = .ok p ∧ p.records = ["B", "C"] := by
    decide +kernel
  obtain ⟨p, hp, hrecords⟩ := hrun
  obtain ⟨p', hp', hrecords'⟩ := hrun'
  have hA : LedTo [spoiltUnit] ["A", "C"] "A" := ⟨"A", List.mem_cons_self, .refl⟩
  have hB : LedTo [spoiltUnit] ["A", "C"] "B" :=
    ⟨"A", List.mem_cons_self, .single ⟨_, rfl, _, List.mem_cons_self, rfl⟩⟩
  have hC : LedTo [spoiltUnit] ["A", "C"] "C" :=
    ⟨"C", List.mem_cons_of_mem _ List.mem_cons_self, .refl⟩
  refine ⟨p, p', by decide +kernel, hp, hp', ledTo_of_subset nofun (by simp) (by simp [hA, hB, hC]),
    hrecords, hrecords', fun heq => ?_⟩
  rw [Product.records, heq, ← Product.records, hrecords'] at hrecords
  exact absurd hrecords (by decide)

end SszSchema
