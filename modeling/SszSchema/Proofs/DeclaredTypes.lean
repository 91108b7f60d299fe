import Mathlib.Logic.Relation
import SszSchema.Proofs.SszType
import SszSchema.Resolution

/-!
# Declared types

What declarations say before anything is resolved. `TypeExpr.type?` is the table of shapes: the type
that a shape has under an annotation, in which records stay names. A record is acceptable if it is
declared, all of its fields have types and all records that they mention are declared
(`Acceptable`); it is doomed if it leads to one that is not (`Doomed`). None of this looks at a
graph, so it does not depend on what has been resolved before.

`Convertible` leaves out annotations with numbers that are too long to be read.
-/

namespace SszSchema

open Relation Resolution

namespace TagList

/-! ## Types of annotations -/

/-- The type of a byte string. -/
def bytesType? (a : TagList) : Option SszType :=
  if a.isBitList then a.max?.toOption.map .packedBits
  else
    match a.size? with
    | .ok (some (n + 1)) => some (.fixedBytes (n + 1))
    | .ok none =>
        match a.max? with
        | .ok (some n) => some (.boundedBytes n)
        | _ => none
    | _ => none

/-- The type of a bit list. -/
def bitListType? (a : TagList) : Option SszType := a.max?.toOption.map .bitList

/-- The type of a bit vector. -/
def bitVectorType? (a : TagList) : Option SszType :=
  match a.size? with
  | .ok (some (n + 1)) => some (.bitVector (n + 1))
  | _ => none

/-- The type of a sequence of byte strings of one size. -/
def byteVectorsType? (a : TagList) : Option SszType :=
  match a.sizePair? with
  | .ok (some ⟨some n, inner + 1⟩) => some (.vector n (.fixedBytes (inner + 1)))
  | .ok (some ⟨none, inner + 1⟩) =>
      match a.max? with
      | .ok (some n) => some (.list n (.fixedBytes (inner + 1)))
      | _ => none
  | _ => none

/-- The type of a sequence of elements of some type. -/
def sequenceType? (a : TagList) (element : SszType) : Option SszType :=
  match a.size? with
  | .ok (some (n + 1)) => some (.vector (n + 1) element)
  | .ok none =>
      match a.max? with
      | .ok (some n) => some (.list n element)
      | _ => none
  | _ => none

/-- The type that a name stands for, unless it stands for a record. -/
def basicType? (a : TagList) : Meaning → Option SszType
  | .bytes => a.bytesType?
  | .uint width => some (.uint width)
  | .bool => some .bool
  | .bitList => a.bitListType?
  | .bitVector => a.bitVectorType?
  | .other => none

/-- No number of an annotation is too long to be read. -/
def Convertible (a : TagList) : Prop :=
  a.size? ≠ .error .digitLimit ∧ a.max? ≠ .error .digitLimit ∧ a.sizePair? ≠ .error .digitLimit

instance (a : TagList) : Decidable a.Convertible := inferInstanceAs (Decidable (_ ∧ _ ∧ _))

end TagList

/-! ## Types of shapes -/

namespace TypeExpr

/-- Whether a name stands for a record. -/
def isRecordName (id : String) : Bool := meaning id = .other && !widthlessNames.contains id

/-- The record that a shape mentions. -/
def record? : TypeExpr → Option String
  | .name id => if isRecordName id then some id else none
  | .apply _ e => e.record?
  | .quoted e => e.record?
  | _ => none

/-- The type that a shape has under an annotation. -/
def type? (a : TagList) : TypeExpr → Option SszType
  | .name id =>
      if isRecordName id then some (.record id) else a.basicType? (meaning id)
  | .member id _ => a.basicType? (meaning id)
  | .apply head e =>
      if sequenceNames.contains head then
        if e.head?.any byteNames.contains then a.byteVectorsType?
        else if e.head? = some boolName && a.isBitList then a.bitListType?
        else (e.type? a).bind a.sequenceType?
      else none
  | .quoted e => e.type? a
  | _ => none

end TypeExpr

/-- The type that a field is declared with. -/
def FieldDecl.type? (f : FieldDecl) : Option SszType :=
  (TagList.parse f.tagText).toOption.bind fun a => f.shape.type? a

/-! ## Records of a type -/

section

variable {a : TagList} {t element : SszType}

theorem innermost_bytesType? (h : a.bytesType? = some t) : t.innermost = none := by
  unfold TagList.bytesType? at h
  split at h
  · obtain ⟨limit, -, rfl⟩ := Option.map_eq_some_iff.mp h
    rfl
  · split at h
    · cases h; rfl
    · split at h
      · cases h; rfl
      · cases h
    · cases h

theorem innermost_bitListType? (h : a.bitListType? = some t) : t.innermost = none := by
  obtain ⟨limit, -, rfl⟩ := Option.map_eq_some_iff.mp h
  rfl

theorem innermost_byteVectorsType? (h : a.byteVectorsType? = some t) : t.innermost = none := by
  unfold TagList.byteVectorsType? at h
  split at h
  · cases h; rfl
  · split at h
    · cases h; rfl
    · cases h
  · cases h

theorem innermost_sequenceType? (h : a.sequenceType? element = some t) :
    t.innermost = element.innermost := by
  unfold TagList.sequenceType? at h
  split at h
  · cases h; rfl
  · split at h
    · cases h; rfl
    · cases h
  · cases h

theorem innermost_basicType? {m : Meaning} (h : a.basicType? m = some t) : t.innermost = none := by
  cases m with
  | bytes => exact innermost_bytesType? h
  | uint => cases h; rfl
  | bool => cases h; rfl
  | bitList => exact innermost_bitListType? h
  | bitVector =>
    simp only [TagList.basicType?, TagList.bitVectorType?] at h
    split at h
    · cases h; rfl
    · cases h
  | other => cases h

/-- The names of byte strings and of truth values mention no record. -/
theorem TypeExpr.record?_of_head? {e : TypeExpr} {id : String} (h : e.head? = some id)
    (hid : meaning id ≠ .other) : e.record? = none := by
  cases e with
  | name =>
    cases h
    simp [record?, isRecordName, hid]
  | member => rfl
  | _ => cases h

theorem meaning_of_mem_byteNames {id : String} (h : byteNames.contains id = true) :
    meaning id = .bytes := by
  rw [meaning, if_pos h]

/-- The type of a shape has the record that the shape mentions. -/
theorem TypeExpr.innermost_type? {e : TypeExpr} (h : e.type? a = some t) :
    t.innermost = e.record? := by
  induction e generalizing t with
  | name id =>
    unfold type? at h
    unfold record?
    split at h
    · case isTrue hname =>
      cases h
      rw [if_pos hname]
      rfl
    · case isFalse hname =>
      rw [if_neg hname]
      exact innermost_basicType? h
  | member id text => exact innermost_basicType? h
  | apply head e ih =>
    unfold type? at h
    unfold record?
    split at h
    · split at h
      · case isTrue hbytes =>
        cases hid : e.head? with
        | none => simp [hid] at hbytes
        | some id =>
          have hmem : byteNames.contains id = true := by simpa [hid] using hbytes
          have hmeaning : meaning id ≠ .other := by simp [meaning_of_mem_byteNames hmem]
          rw [innermost_byteVectorsType? h, record?_of_head? hid hmeaning]
      · split at h
        · case isTrue hbool =>
          rw [Bool.and_eq_true, decide_eq_true_eq] at hbool
          rw [innermost_bitListType? h, record?_of_head? hbool.1 (by decide)]
        · obtain ⟨element, he, ht⟩ := Option.bind_eq_some_iff.mp h
          rw [innermost_sequenceType? ht, ih he]
    · cases h
  | quoted e ih => exact ih h
  | applyMany => cases h
  | other => cases h

theorem FieldDecl.innermost_type? {f : FieldDecl} (h : f.type? = some t) :
    t.innermost = f.shape.record? := by
  obtain ⟨a, -, hshape⟩ := Option.bind_eq_some_iff.mp h
  exact TypeExpr.innermost_type? hshape

end

/-! ## Records -/

/-- The declaration of a record. -/
def declared? (units : List SourceUnit) (name : String) : Option RecordDecl :=
  (SszSchema.declarations units).find? (·.name == name)

/-- A field of one record mentions another record. -/
def Mentions (units : List SourceUnit) (x y : String) : Prop :=
  ∃ d, declared? units x = some d ∧ ∃ f ∈ d.fields, f.shape.record? = some y

/-- The record is declared, and its fields have types whose records are declared. -/
def Acceptable (units : List SourceUnit) (name : String) : Prop :=
  ∃ d, declared? units name = some d ∧ ∀ f ∈ d.fields,
    f.type?.isSome ∧ ∀ y ∈ f.shape.record?, (declared? units y).isSome

/-- The record leads to one that is not acceptable. -/
def Doomed (units : List SourceUnit) (name : String) : Prop :=
  ∃ x, ReflTransGen (Mentions units) name x ∧ ¬Acceptable units x

/-- No number in the annotation of a field is too long to be read. -/
def Convertible (units : List SourceUnit) : Prop :=
  ∀ d ∈ SszSchema.declarations units, ∀ f ∈ d.fields, ∀ a,
    TagList.parse f.tagText = .ok a → a.Convertible

instance decidableConvertible (units : List SourceUnit) : Decidable (Convertible units) :=
  decidable_of_iff (∀ d ∈ SszSchema.declarations units, ∀ f ∈ d.fields,
      (TagList.parse f.tagText).toOption.all fun a => decide a.Convertible) <| by
    refine forall₂_congr fun d _ => forall₂_congr fun f _ => ?_
    cases TagList.parse f.tagText <;> simp [Except.toOption]

variable {units : List SourceUnit} {name y : String} {d : RecordDecl} {f : FieldDecl}

theorem not_doomed_iff :
    ¬Doomed units name ↔ ∀ x, ReflTransGen (Mentions units) name x → Acceptable units x := by
  simp [Doomed]

theorem declared?_eq_some (h : declared? units name = some d) :
    d.name = name ∧ d ∈ SszSchema.declarations units :=
  ⟨by simpa using List.find?_some h, List.mem_of_find?_eq_some h⟩

/-- A record is doomed if a field has no type. -/
theorem Doomed.of_field (hd : declared? units name = some d) (hf : f ∈ d.fields)
    (ht : f.type? = none) : Doomed units name := by
  refine ⟨name, .refl, fun ⟨d', hd', hfields⟩ => ?_⟩
  obtain rfl := Option.some.inj (hd.symm.trans hd')
  simpa [ht] using (hfields f hf).1

/-- A record is doomed with the records that it mentions. -/
theorem Doomed.of_mentions (hd : declared? units name = some d) (hf : f ∈ d.fields)
    (hy : f.shape.record? = some y) (h : Doomed units y) : Doomed units name := by
  obtain ⟨x, hreach, hx⟩ := h
  exact ⟨x, .head ⟨d, hd, f, hf, hy⟩ hreach, hx⟩

theorem Doomed.of_undeclared (h : declared? units name = none) : Doomed units name := by
  refine ⟨name, .refl, fun ⟨d, hd, _⟩ => ?_⟩
  rw [h] at hd
  cases hd

end SszSchema
