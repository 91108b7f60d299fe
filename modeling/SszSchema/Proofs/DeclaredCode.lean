import SszSchema.Proofs.Fragments
import SszSchema.Proofs.Measures

/-!
# Code of declarations

The types of declared records are those of their declarations (`declaredCatalog`), and the nodes of
every resolution bear them. So a schema says nothing about the code of a record that the
declarations do not say: code that is right for a type is unique (`RecordCode.Right.unique`), and
whatever graph it is read off, it is right for the declared types (`Schema.Marks.right`). In
particular the records that it calls are those that the declaration mentions
(`RecordCode.Right.mem_callees_iff`).
-/

namespace SszSchema

open Catalog

/-! ## Declared fields -/

/-- The fields of declared records with their types. -/
def declaredCatalog (units : List SourceUnit) : Catalog := fun name =>
  (declared? units name).bind fun d => d.fields.mapM fun f => f.type?.map (f.name, ·)

variable {units : List SourceUnit} {name : String} {fields : Fields}

theorem declaredCatalog_eq_some_iff : declaredCatalog units name = some fields ↔
    ∃ d, declared? units name = some d ∧
      List.Forall₂ (fun f g => g.1 = f.name ∧ f.type? = some g.2) d.fields fields := by
  rw [declaredCatalog, Option.bind_eq_some_iff]
  refine exists_congr fun d => and_congr_right fun _ => ?_
  rw [Outcome.mapM_eq_some_iff]
  have hiff (f : FieldDecl) (g : String × SszType) :
      f.type?.map (f.name, ·) = some g ↔ g.1 = f.name ∧ f.type? = some g.2 := by
    obtain ⟨x, t⟩ := g
    cases f.type? <;> simp [and_comm, eq_comm]
  simp only [hiff]

/-- A record mentions the innermost records of its fields. -/
theorem mentions_iff (h : declaredCatalog units name = some fields) {y : String} :
    Mentions units name y ↔ ∃ f ∈ fields, f.2.innermost = some y := by
  obtain ⟨d, hd, hfields⟩ := declaredCatalog_eq_some_iff.mp h
  constructor
  · rintro ⟨d', hd', f, hf, hy⟩
    obtain rfl := Option.some.inj (hd.symm.trans hd')
    obtain ⟨g, hg, -, ht⟩ := exists_of_forall₂ hfields hf
    exact ⟨g, hg, (FieldDecl.innermost_type? ht).trans hy⟩
  · rintro ⟨g, hg, hy⟩
    obtain ⟨f, hf, -, ht⟩ := exists_of_forall₂ hfields.flip hg
    exact ⟨d, hd, f, hf, (FieldDecl.innermost_type? ht).symm.trans hy⟩

/-- The registered records of a resolution have the declared types. -/
theorem Resolution.Sound.bears_declared {r : Resolution} (h : r.Sound) :
    r.arena.Bears r.registry.entries (declaredCatalog r.units) := by
  intro e he
  obtain ⟨d, n, hd, hn, hk, hr, hfields⟩ := h.complete e he
  obtain ⟨fields, hdeclared, htypes⟩ := forall₂_comp_iff.mp <|
    hfields.imp (S := fun f g => ∃ p : String × SszType,
      (p.1 = f.name ∧ f.type? = some p.2) ∧ g.name = p.1 ∧
        TypeOf r.arena r.registry.entries g.node p.2) <| by
      rintro f g ⟨hname, -, t, ht, htype⟩
      exact ⟨(f.name, t), ⟨rfl, ht⟩, hname, htype⟩
  exact ⟨n, fields, hn, hk, hr, declaredCatalog_eq_some_iff.mpr ⟨d, hd, hdeclared⟩, htypes.flip⟩

/-! ## Code of a type -/

variable {env : Catalog} {t : SszType}

theorem Catalog.Placed.unique {p p' : Option Nat} (h : env.Placed t p) (h' : env.Placed t p') :
    p = p' := by
  cases p with
  | none => exact (h'.isDynamic_iff.mp (h.isDynamic_iff.mpr rfl)).symm
  | some n =>
    cases p' with
    | none => exact absurd (h'.isDynamic_iff.mpr rfl) (HasSize.not_isDynamic h)
    | some n' => exact congrArg some (HasSize.unique h h')

theorem EncodedBy.unique {e e' : Encoder} (h : EncodedBy env t e) (h' : EncodedBy env t e') :
    e = e' := by
  induction h generalizing e' with
  | vector hd _ ih =>
    cases h' with
    | vector hd' hitem => rw [ih hitem, Bool.eq_iff_iff.mpr (hd.trans hd'.symm)]
  | list hd _ ih =>
    cases h' with
    | list hd' hitem => rw [ih hitem, Bool.eq_iff_iff.mpr (hd.trans hd'.symm)]
  | _ => cases h'; rfl

theorem DecodedBy.unique {d d' : Decoder} (h : DecodedBy env t d) (h' : DecodedBy env t d') :
    d = d' := by
  induction h generalizing d' with
  | vector _ hs _ _ ih =>
    cases h' with
    | vector _ hs' _ hitem => rw [ih hitem, hs.unique hs']
  | list hs _ _ ih =>
    cases h' with
    | list hs' _ hitem => rw [ih hitem, hs.unique hs']
  | _ => cases h'; rfl

theorem MeasuredBy.unique {m m' : Measure} (h : MeasuredBy env t m) (h' : MeasuredBy env t m') :
    m = m' := by
  induction h generalizing m' with
  | vector _ _ ih =>
    cases h' with
    | vector _ hitem => rw [ih hitem]
  | fixedList hs =>
    cases h' with
    | fixedList hs' => rw [HasSize.unique hs hs']
    | list hd => exact absurd hd hs.not_isDynamic
  | list hd _ ih =>
    cases h' with
    | fixedList hs => exact absurd hd hs.not_isDynamic
    | list _ hitem => rw [ih hitem]
  | _ => cases h'; rfl

theorem MeasuredFields.unique {ms ms' : List (String × Measure)} (h : MeasuredFields env fields ms)
    (h' : MeasuredFields env fields ms') : ms = ms' := by
  induction h generalizing ms' with
  | nil => cases h'; rfl
  | inline hd _ ih =>
    cases h' with
    | inline _ h' => exact ih h'
    | dynamic hd' => exact absurd hd' hd
  | dynamic hd hm _ ih =>
    cases h' with
    | inline hd' => exact absurd hd hd'
    | dynamic _ hm' h' => rw [hm.unique hm', ih h']

theorem FieldCode.Realizes.unique {f : String × SszType} {c c' : FieldCode}
    (h : c.Realizes env f) (h' : c'.Realizes env f) : c = c' := by
  obtain ⟨hname, hencoder, hdecoder, hsize⟩ := h
  obtain ⟨hname', hencoder', hdecoder', hsize'⟩ := h'
  cases c
  cases c'
  simp only [FieldCode.mk.injEq]
  exact ⟨hname.trans hname'.symm, hencoder.unique hencoder', hdecoder.unique hdecoder',
    hsize.unique hsize'⟩

/-! ## Code of a record -/

/-- The code of a record is that of its fields, and so are its measures. -/
structure RecordCode.Right (env : Catalog) (declared : Fields) (c : RecordCode) : Prop
    extends c.Follows env declared where
  measured : c.isDynamic = true → MeasuredFields env declared c.measures
  unmeasured : c.isDynamic = false → c.measures = []

namespace RecordCode.Right

variable {c c' : RecordCode}

/-- Code that is right for a record is unique. -/
theorem unique (h : c.Right env fields) (h' : c'.Right env fields) (hname : c.name = c'.name) :
    c = c' := by
  have hfields : c.fields = c'.fields :=
    eq_of_forall₂ h.fields h'.fields fun _ _ _ hf hf' => hf.unique hf'
  have hsizes : c.sizes = c'.sizes := by rw [sizes, hfields, sizes]
  have hdynamic : c.isDynamic = c'.isDynamic := by
    rw [Bool.eq_iff_iff, h.isDynamic, h'.isDynamic, hsizes]
  have hmeasures : c.measures = c'.measures := by
    cases hd : c.isDynamic with
    | true => exact (h.measured hd).unique (h'.measured (hdynamic ▸ hd))
    | false => rw [h.unmeasured hd, h'.unmeasured (hdynamic ▸ hd)]
  cases c
  cases c'
  simp only [RecordCode.mk.injEq]
  exact ⟨hname, hdynamic, h.fixedSize.trans (hsizes ▸ h'.fixedSize.symm), hfields, hmeasures⟩

end RecordCode.Right

theorem EncodedBy.callee {e : Encoder} (h : EncodedBy env t e) : e.callee = t.innermost := by
  induction h with
  | vector _ _ ih | list _ _ ih => exact ih
  | _ => rfl

theorem DecodedBy.callee {d : Decoder} (h : DecodedBy env t d) : d.callee = t.innermost := by
  induction h with
  | vector _ _ _ _ ih | list _ _ _ ih => exact ih
  | _ => rfl

theorem MeasuredBy.callee {m : Measure} (h : MeasuredBy env t m) {y : String}
    (hy : m.callee = some y) : t.innermost = some y := by
  induction h with
  | record => exact hy
  | vector _ _ ih | list _ _ ih => exact ih hy
  | _ => cases hy

theorem MeasuredFields.exists_field {ms : List (String × Measure)}
    (h : MeasuredFields env fields ms) {e : String × Measure} (he : e ∈ ms) :
    ∃ f ∈ fields, MeasuredBy env f.2 e.2 := by
  induction h with
  | nil => cases he
  | inline _ _ ih =>
    obtain ⟨f, hf, hm⟩ := ih he
    exact ⟨f, List.mem_cons_of_mem _ hf, hm⟩
  | dynamic _ hm _ ih =>
    rcases List.mem_cons.mp he with rfl | he
    · exact ⟨_, List.mem_cons_self, hm⟩
    · obtain ⟨f, hf, hm⟩ := ih he
      exact ⟨f, List.mem_cons_of_mem _ hf, hm⟩

/-- The code of a record calls the innermost records of its fields, however deep they lie. -/
theorem RecordCode.Right.mem_callees_iff {c : RecordCode} (h : c.Right env fields) {y : String} :
    y ∈ c.callees ↔ ∃ f ∈ fields, f.2.innermost = some y := by
  constructor
  · intro hy
    rcases List.mem_append.mp hy with hy | hy
    · obtain ⟨code, hcode, hy⟩ := List.mem_flatMap.mp hy
      obtain ⟨f, hf, hrealizes⟩ := exists_of_forall₂ h.fields.flip hcode
      refine ⟨f, hf, ?_⟩
      rw [hrealizes.encoder.callee, hrealizes.decoder.callee] at hy
      simpa using hy
    · obtain ⟨e, he, hy⟩ := List.mem_flatMap.mp hy
      have hdynamic : c.isDynamic = true := by
        rw [← Bool.not_eq_false]
        intro hd
        rw [h.unmeasured hd] at he
        cases he
      obtain ⟨f, hf, hm⟩ := (h.measured hdynamic).exists_field he
      exact ⟨f, hf, hm.callee (Option.mem_toList.mp hy)⟩
  · rintro ⟨f, hf, hy⟩
    obtain ⟨code, hcode, hrealizes⟩ := exists_of_forall₂ h.fields hf
    exact encoder_callee_mem hcode (hrealizes.encoder.callee.trans hy)

/-- A schema gives a record the code of its fields. -/
theorem Schema.Marks.right {s : Schema} {a : Arena} {entries : List (String × NodeId)}
    {c : Classifier} (h : s.Marks a entries env c) {code : RecordCode}
    (hcode : RecordCode.ofSchema s name = .ok code) :
    ∃ fields, env name = some fields ∧ code.Right env fields := by
  obtain ⟨fields, hfields, hfollows⟩ := h.follows hcode
  refine ⟨fields, hfields, hfollows, h.measures hcode hfields, fun hd => ?_⟩
  exact RecordCode.measures_eq_nil hcode hd

end SszSchema
