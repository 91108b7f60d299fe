import SszSchema.Proofs.Maintaining

/-!
# Places of faults

Resolving a declared record reports a fault with the place of a field: its path, record, name, line
and shape. They all belong to one field of a record that the resolved one leads to, and that field
is at fault by itself: its annotation cannot be read or is rejected for the shape, or the shape is
not supported, or it mentions a record that is not declared (`Diagnostic.PointsAt`).

A diagnostic passes through all records that led to the fault, and each adds its own place. But the
field at fault comes first and tells its whole place, and what is told stays
(`Diagnostic.get?_withContext`). So it does if the diagnostic is kept and told again when another
record is resolved (`Resolution.Reached.resolve_pointsAt`).
-/

namespace SszSchema

open Relation

/-! ## Context -/

theorem DataMap.get?_append (data more : DataMap) (key : String) :
    DataMap.get? (data ++ more) key = (data.get? key).or (more.get? key) := by
  rw [DataMap.get?, List.find?_append, Option.map_or]
  rfl

theorem DataMap.get?_attach (data : DataMap) (e : String × Datum) (key : String) :
    (data.attach e.1 e.2).get? key = (data.get? key).or (DataMap.get? [e] key) := by
  unfold DataMap.attach
  split
  · case isTrue htaken =>
    cases hkey : e.1 == key with
    | true =>
      rw [← eq_of_beq hkey, Option.or_of_isSome htaken]
    | false => simp [DataMap.get?, hkey]
  · exact DataMap.get?_append data [e] key

theorem DataMap.get?_foldl_attach (data context : DataMap) (key : String) :
    DataMap.get? (context.foldl (fun data e => data.attach e.1 e.2) data) key =
      (data.get? key).or (DataMap.get? context key) := by
  induction context generalizing data with
  | nil => exact (Option.or_none ..).symm
  | cons e context ih =>
    have hcons := DataMap.get?_append [e] context key
    rw [List.foldl_cons, ih, DataMap.get?_attach, Option.or_assoc, ← hcons]
    rfl

namespace Diagnostic

/-- What a diagnostic tells already is not told again. -/
theorem get?_withContext (d : Diagnostic) (context : DataMap) (key : String) :
    (d.withContext context).data.get? key = (d.data.get? key).or (context.given.get? key) :=
  DataMap.get?_foldl_attach d.data context.given key

/-- A diagnostic that tells the place of a field. -/
def Located (d : Diagnostic) (record : RecordDecl) (f : FieldDecl) : Prop :=
  ∀ e ∈ Resolution.place record f, d.data.get? e.1 = some e.2

variable {d : Diagnostic} {record : RecordDecl} {f : FieldDecl}

/-- The first place that is told is told as a whole. -/
theorem Bare.located (h : d.Bare) (record : RecordDecl) (f : FieldDecl) :
    (d.withContext (Resolution.place record f)).Located record f := by
  intro e he
  have hkey : e.1 ∈ placeKeys := by
    have hkeys : (Resolution.place record f).map (·.1) = placeKeys := rfl
    rw [← hkeys]
    exact List.mem_map_of_mem he
  have hgiven : (Resolution.place record f).given = Resolution.place record f := rfl
  rw [get?_withContext, h e.1 hkey, Option.none_or, hgiven]
  simp only [Resolution.place, List.mem_cons, List.not_mem_nil, or_false] at he
  rcases he with rfl | rfl | rfl | rfl | rfl <;> rfl

/-- It stays. -/
theorem Located.withContext (h : d.Located record f) (context : DataMap) :
    (d.withContext context).Located record f := by
  intro e he
  rw [get?_withContext, h e he, Option.some_or]

theorem bare_unknownRecord (name : String) : (unknownRecord name).Bare := by
  unfold Bare placeKeys
  simp [unknownRecord, make, DataMap.given, DataMap.get?, Datum.isNull]

end Diagnostic

/-! ## Fields at fault -/

/-- How a field is at fault by itself, and the kind of the diagnostic that tells so. -/
inductive FieldDecl.AtFault (units : List SourceUnit) (f : FieldDecl) : DiagnosticKind → Prop
  /-- The annotation cannot be read. -/
  | unparsed {fault : TagList.Fault} (h : TagList.parse f.tagText = .error fault) :
      AtFault units f .annotationMalformed
  /-- Other annotations give the shape a type, but this one does not. -/
  | rejected {a : TagList} {kind : DiagnosticKind} (h : TagList.parse f.tagText = .ok a)
      (hs : f.shape.isSupported = true) (ht : f.shape.type? a = none)
      (hkind : kind = .annotationMissing ∨ kind = .annotationMalformed) : AtFault units f kind
  /-- No annotation gives the shape a type. -/
  | unsupported {a : TagList} (h : TagList.parse f.tagText = .ok a)
      (hs : f.shape.isSupported = false) : AtFault units f .unsupportedShape
  /-- The shape mentions a record that is not declared. -/
  | undeclared {y : String} (hy : f.shape.record? = some y) (hd : declared? units y = none) :
      AtFault units f .unknownRecord

/-- A diagnostic that tells the place of a field at fault, of a record that another one leads to. -/
structure Diagnostic.PointsAt (units : List SourceUnit) (name : String) (d : Diagnostic)
    (record : RecordDecl) (f : FieldDecl) : Prop where
  reaches : ReflTransGen (Mentions units) name record.name
  declared : declared? units record.name = some record
  mem : f ∈ record.fields
  atFault : f.AtFault units d.kind
  located : d.Located record f

theorem Diagnostic.PointsAt.withContext {units : List SourceUnit} {name : String} {d : Diagnostic}
    {record : RecordDecl} {f : FieldDecl} (h : d.PointsAt units name record f)
    (context : DataMap) : (d.withContext context).PointsAt units name record f :=
  { h with located := h.located.withContext context }

namespace Resolution

variable {units : List SourceUnit} {r : Resolution} {name : String} {opened : List String}
  {failure : Failure}

/-- What the failure of a record points at: a field at fault that the record leads to, or nothing,
if it is not declared itself. -/
def Blames (units : List SourceUnit) (name : String) : Failure → Prop
  | .reported d => (declared? units name = none ∧ d = .unknownRecord name) ∨
      ∃ record f, d.PointsAt units name record f
  | _ => True

/-- The failure of a declared record is passed on. -/
theorem Blames.withContext (hd : (declared? units name).isSome) (h : Blames units name failure)
    (context : DataMap) : Blames units name (failure.withContext context) := by
  cases failure with
  | reported d =>
    rcases h with ⟨hnone, -⟩ | ⟨record, f, h⟩
    · rw [hnone] at hd
      cases hd
    · exact .inr ⟨record, f, h.withContext context⟩
  | _ => trivial

section

variable {d : RecordDecl} {f : FieldDecl} (hd : declared? units d.name = some d)
  (hf : f ∈ d.fields)
include hd hf

theorem blames_of_bare {e : Diagnostic} (hfault : f.AtFault units e.kind) (he : e.Bare) :
    Blames units d.name (.reported (e.withContext (place d f))) :=
  .inr ⟨d, f, .refl, hd, hf, hfault, he.located d f⟩

/-- The place of a field is added to what is wrong with the field itself. -/
theorem blames_of_faults (h : f.Faults failure) :
    Blames units d.name (failure.withContext (place d f)) := by
  cases h with
  | unparsed hparse hkind he => exact blames_of_bare hd hf (hkind ▸ .unparsed hparse) he
  | shape hparse h =>
    cases h with
    | rejected hs h =>
      cases h with
      | refused ht hkind he => exact blames_of_bare hd hf (.rejected hparse hs ht hkind) he
      | number => trivial
    | unsupported hs hkind he => exact blames_of_bare hd hf (hkind ▸ .unsupported hparse hs) he

/-- A field points at itself if the record that it mentions is not declared, and otherwise at what
that record points at. -/
theorem blames_of_mentions {y : String} (hy : f.shape.record? = some y)
    (h : Blames units y failure) : Blames units d.name (failure.withContext (place d f)) := by
  cases failure with
  | reported e =>
    rcases h with ⟨hnone, rfl⟩ | ⟨record, g, h⟩
    · exact blames_of_bare hd hf (.undeclared hy hnone) (Diagnostic.bare_unknownRecord y)
    · have hreaches : ReflTransGen (Mentions units) d.name record.name :=
        .head ⟨d, hd, f, hf, hy⟩ h.reaches
      exact .inr ⟨record, g, { h.withContext _ with reaches := hreaches }⟩
  | _ => trivial

end

/-! ## Resolving -/

/-- While some records are open, all diagnostics that are kept point at fields at fault. -/
structure Opening (units : List SourceUnit) (opened : List String) (r : Resolution) : Prop where
  same : r.units = units
  failed : ∀ e ∈ r.failed, Blames units e.1 (.reported e.2)
  opened : opened ⊆ r.pending.map (·.1)

theorem Opening.reserved (h : Opening units opened r) (name : String) :
    Opening units (name :: opened) (r.reserved name) := by
  refine ⟨h.same, h.failed, ?_⟩
  have hpending : (r.reserved name).pending.map (·.1) = r.pending.map (·.1) ++ [name] := by
    simp [Resolution.reserved]
  rw [hpending]
  exact List.cons_subset.mpr ⟨by simp, List.subset_append_of_subset_left _ h.opened⟩

theorem Opening.mono {more : List String} (h : Opening units more r) (hsub : opened ⊆ more) :
    Opening units opened r :=
  { h with opened := List.Subset.trans hsub h.opened }

/-- If no record is open, there is none to be kept open. -/
theorem Opening.eq_nil (h : Opening units opened r) (hclosed : r.pending = []) : opened = [] := by
  have hsub := h.opened
  rw [hclosed] at hsub
  exact List.subset_nil.mp hsub

/-- A record that is open has a node. -/
theorem lookUp_opening {E : Failure → Prop} (hname : name ∈ opened)
    (fresh : RecordDecl → Step NodeId) : Maintains (Opening units opened) E (lookUp name fresh) := by
  refine ⟨fun r hr => ?_⟩
  unfold lookUp
  rw [Stateful.run_get_bind]
  cases r.registry.get? name with
  | some id => exact hr
  | none =>
  cases hfind : r.pending.find? (·.1 == name) with
  | some e => exact hr
  | none =>
    obtain ⟨e, he, heq⟩ := List.mem_map.mp (hr.opened hname)
    exact absurd (by simpa using heq) (List.find?_eq_none.mp hfind e he)

theorem abandon_opening {E : Failure → Prop} {e : Diagnostic}
    (he : Blames units name (.reported e)) :
    Maintains (Opening units []) E (abandon name e) := by
  refine ⟨Triple.update fun r hr => ⟨hr.same, fun e' he' => ?_, List.nil_subset _⟩⟩
  rcases List.mem_append.mp he' with he' | he'
  · exact hr.failed e' he'
  · obtain rfl := List.mem_singleton.mp he'
    exact he

theorem commit_opening : Maintains (Opening units []) (Blames units name) commit :=
  commit_maintains (fun _ _ hr _ => ⟨hr.same, hr.failed, List.nil_subset _⟩) fun _ => trivial

/-- A record that is neither open nor known to fail is resolved afresh. -/
theorem lookUp_blames {fresh : RecordDecl → Step NodeId}
    (h : name ∉ opened → ∀ d, declared? units name = some d →
      Maintains (Opening units opened) (Blames units name) (fresh d)) :
    Maintains (Opening units opened) (Blames units name) (lookUp name fresh) := by
  by_cases hname : name ∈ opened
  · exact lookUp_opening hname fresh
  · exact lookUp_maintains (fun _ hr => hr.same) (fun _ hr e he heq => heq ▸ hr.failed e he)
      (fun hnone => .inl ⟨hnone, rfl⟩) (h hname)

/-- One more record is open, and all are declared. -/
theorem nodup_cons_of_declared {d : RecordDecl} (hdistinct : opened.Nodup)
    (hdeclared : opened ⊆ (SszSchema.declarations units).map (·.name)) (hname : d.name ∉ opened)
    (hd : declared? units d.name = some d) :
    (d.name :: opened).Nodup ∧ d.name :: opened ⊆ (SszSchema.declarations units).map (·.name) :=
  ⟨List.nodup_cons.mpr ⟨hname, hdistinct⟩,
    List.cons_subset.mpr ⟨List.mem_map_of_mem (declared?_eq_some hd).2, hdeclared⟩⟩

/-- The fuel is enough: each call inside keeps one more record open, and no more are open than
declared. -/
theorem resolveWith_blames (fuel : Nat) (name : String) (hdistinct : opened.Nodup)
    (hdeclared : opened ⊆ (SszSchema.declarations units).map (·.name))
    (hfuel : (SszSchema.declarations units).length ≤ opened.length + fuel) :
    Maintains (Opening units opened) (Blames units name) (resolveWith fuel name) := by
  induction fuel generalizing name opened with
  | zero =>
    refine lookUp_blames fun hname d hd => ?_
    obtain rfl := (declared?_eq_some hd).1
    obtain ⟨hdistinct, hdeclared⟩ := nodup_cons_of_declared hdistinct hdeclared hname hd
    have hlength := (List.subperm_of_subset hdistinct hdeclared).length_le
    rw [List.length_cons, List.length_map] at hlength
    omega
  | succ fuel ih =>
    refine lookUp_blames fun hname d hd => ?_
    obtain rfl := (declared?_eq_some hd).1
    obtain ⟨hdistinct, hdeclared⟩ := nodup_cons_of_declared hdistinct hdeclared hname hd
    have hinner (y : String) := ih y hdistinct hdeclared (by rw [List.length_cons]; omega)
    have hfields (f : FieldDecl) (hf : f ∈ d.fields) :
        Maintains (Opening units (d.name :: opened)) (Blames units d.name)
          (field (resolveWith fuel) d f) :=
      field_maintains
        (E := fun failure => f.Faults failure ∨ ∃ y ∈ f.shape.record?, Blames units y failure)
        (fun _ _ hr => ⟨hr.same, hr.failed, hr.opened⟩) (fun _ => .inl)
        (fun _ h => h.elim (blames_of_faults hd hf) fun ⟨_, hy, h⟩ => blames_of_mentions hd hf hy h)
        fun y hy => (hinner y).imp fun _ h => .inr ⟨y, hy, h⟩
    -- The outermost call gives up what is open, or registers it. It keeps no record open.
    refine expand_maintains_while (fun r hr => hr.reserved d.name)
      (fun r hr => hr.mono (List.subset_cons_self _ _)) hfields
      (fun _ context h => h.withContext (by rw [hd]; rfl) context)
      (fill_maintains (fun _ _ hr => ⟨hr.same, hr.failed, hr.opened⟩) (fun _ => trivial) _)
      (fun r hr hclosed e he => ?_) fun r hr hclosed => ?_
    · obtain rfl := hr.eq_nil hclosed
      exact (abandon_opening he).run.conseq (fun _ hr => hr.mono (List.nil_subset _))
        (fun _ _ => id) fun _ _ => id
    · obtain rfl := hr.eq_nil hclosed
      exact commit_opening.run.conseq (fun _ hr => hr.mono (List.nil_subset _)) (fun _ _ => id)
        fun _ _ => id

theorem resolve_blames (name : String) :
    Maintains (Opening units []) (Blames units name) (resolve name) := by
  refine ⟨fun r hr => ?_⟩
  have h := @resolveWith_blames units [] ((SszSchema.declarations r.units).length + 1) name
    List.nodup_nil (List.nil_subset _) (by rw [hr.same, List.length_nil]; omega)
  have hrun := run_resolve r name
  rw [run] at hrun
  rw [hrun]
  exact h.run r hr

theorem Reached.opening (h : r.Reached units) : Opening units [] r := by
  induction h with
  | start h =>
    obtain rfl := eq_of_ofUnits h
    exact ⟨rfl, nofun, List.nil_subset _⟩
  | step _ name ih => exact (resolve_blames name).keeps ih

/-- However records have been resolved before, a declared record that fails reports the place of a
field at fault, of a record that it leads to. -/
theorem Reached.resolve_pointsAt (h : r.Reached units) {record : RecordDecl}
    (hrecord : declared? units name = some record) {d : Diagnostic}
    (hfails : (r.run (resolve name)).1 = .error (.reported d)) :
    ∃ record f, d.PointsAt units name record f := by
  have hblames := (resolve_blames name).fails h.opening _ hfails
  refine hblames.resolve_left fun hunknown => ?_
  rw [hrecord] at hunknown
  cases hunknown.1

/-- A field that cannot be encoded. -/
def floatField : FieldDecl := ⟨"x", .name "float", "float", "", 7⟩

/-- The record of that field. -/
def innerDecl : RecordDecl := ⟨"B", [floatField], "types.py", 6⟩

/-- That record, and another one with a field of it. -/
def faultUnit : SourceUnit where
  path := ⟨"", ["types.py"]⟩
  moduleName := "types"
  inPackage := false
  records := [⟨"A", [⟨"b", .name "B", "B", "", 3⟩], "types.py", 2⟩, innerDecl]

/-- What is wrong with the field. -/
def floatDiagnostic : Diagnostic :=
  Diagnostic.withContext (.make .unsupportedShape (Text.quoted "float" ++
    " has no SSZ encoding; use uint8/16/32/64, bool or bytes")) (place innerDecl floatField)

/-- The inner record fails, and then the outer one, which tells the place in the inner one again. -/
theorem resolve_pointsAt_inner :
    Reached [faultUnit] (Resolution.run { units := [faultUnit] } (resolve "B")).2 ∧
      (declared? [faultUnit] "A").isSome = true ∧
      ((Resolution.run { units := [faultUnit] } (resolve "B")).2.run (resolve "A")).1 =
        .error (.reported floatDiagnostic) ∧
      ∃ record f, floatDiagnostic.PointsAt [faultUnit] "A" record f ∧ record.name = "B" ∧
        f.name = "x" := by
  have hreached : Reached [faultUnit] (Resolution.run { units := [faultUnit] } (resolve "B")).2 :=
    .step (.start (ofUnits_eq_ok rfl)) "B"
  have hfails : ((Resolution.run { units := [faultUnit] } (resolve "B")).2.run (resolve "A")).1 =
      .error (.reported floatDiagnostic) := rfl
  obtain ⟨record, f, hpoints⟩ := hreached.resolve_pointsAt rfl hfails
  refine ⟨hreached, rfl, hfails, record, f, hpoints, ?_, ?_⟩
  · have hrecord := hpoints.located ("record", .text record.name) (by simp [place])
    exact (Datum.text.inj (Option.some.inj hrecord)).symm
  · have hfield := hpoints.located ("field", .text f.name) (by simp [place])
    exact (Datum.text.inj (Option.some.inj hfield)).symm

end Resolution

end SszSchema
