import SszSchema.Proofs.Resolving

/-!
# Invariants of resolving

What a resolution keeps at all times, and how it can fail. `Resolution.Maintains` says of a step
that it keeps an invariant of the state, also if it fails, and that its failures are of some kind.
The walk over shapes, fields and records is the same for all invariants that new nodes keep, so it
is gone through once. What depends on the invariant is how records are reserved, registered and
given up.

A field fails by itself if its annotation is no list of pairs, or is rejected for the shape, or if
the shape is none that any annotation gives a type (`FieldDecl.Faults`). All other failures come
from the record that the field mentions.
-/

namespace SszSchema

open Resolution

/-- A failure with context. Only diagnostics have any. -/
def Failure.withContext (context : DataMap) : Failure → Failure
  | .reported d => .reported (d.withContext context)
  | failure => failure

/-! ## Faults of fields -/

/-- The names that tell the place of a field. -/
def placeKeys : List String := ["path", "record", "field", "line", "shape"]

/-- A diagnostic that tells no place yet. -/
def Diagnostic.Bare (d : Diagnostic) : Prop := ∀ key ∈ placeKeys, d.data.get? key = none

theorem TagList.Fault.bare (raw : String) (fault : TagList.Fault) :
    (Diagnostic.make .annotationMalformed fault.message (fault.data raw)).Bare := by
  unfold Diagnostic.Bare placeKeys
  cases fault <;> simp [Diagnostic.make, TagList.Fault.data, DataMap.given, DataMap.get?,
    Datum.isNull]

/-- How an annotation is rejected that is to give a type: with a diagnostic about annotations, or
with a number that is too long to be read. -/
inductive TagList.Rejects (a : TagList) (t? : Option SszType) : Failure → Prop
  | refused {d : Diagnostic} (ht : t? = none)
      (hkind : d.kind = .annotationMissing ∨ d.kind = .annotationMalformed) (hd : d.Bare) :
      Rejects a t? (.reported d)
  | number (h : ¬a.Convertible) : Rejects a t? .digitLimit

theorem TagList.Rejects.mono {a : TagList} {t? u? : Option SszType} {failure : Failure}
    (h : a.Rejects t? failure) (himp : t? = none → u? = none) : a.Rejects u? failure := by
  cases h with
  | refused ht hkind hd => exact .refused (himp ht) hkind hd
  | number h => exact .number h

namespace TypeExpr

/-- Whether a shape has a type under some annotations, if records do. -/
def isSupported : TypeExpr → Bool
  | .name id => meaning id ≠ .other || isRecordName id
  | .member id _ => meaning id ≠ .other
  | .apply head e => sequenceNames.contains head && e.isSupported
  | .quoted e => e.isSupported
  | _ => false

/-- The names of basic types are supported. -/
theorem isSupported_of_head? {e : TypeExpr} {id : String} (h : e.head? = some id)
    (hid : meaning id ≠ .other) : e.isSupported = true := by
  cases e with
  | name | member =>
    cases h
    simp [isSupported, hid]
  | _ => cases h

/-- How a shape fails by itself under an annotation. -/
inductive Faults (a : TagList) (e : TypeExpr) : Failure → Prop
  | rejected {failure : Failure} (hs : e.isSupported = true)
      (h : a.Rejects (e.type? a) failure) : Faults a e failure
  | unsupported {d : Diagnostic} (hs : e.isSupported = false) (hkind : d.kind = .unsupportedShape)
      (hd : d.Bare) : Faults a e (.reported d)

end TypeExpr

/-- How a field fails by itself. -/
inductive FieldDecl.Faults (f : FieldDecl) : Failure → Prop
  | unparsed {fault : TagList.Fault} {d : Diagnostic}
      (h : TagList.parse f.tagText = .error fault) (hkind : d.kind = .annotationMalformed)
      (hd : d.Bare) : Faults f (.reported d)
  | shape {a : TagList} {failure : Failure} (h : TagList.parse f.tagText = .ok a)
      (hf : f.shape.Faults a failure) : Faults f failure

/-- How fields fail by themselves, as far as callers are concerned: with a diagnostic that they can
mend, or with a number of the annotation that is too long to be read. -/
def FieldDecl.Refuses (f : FieldDecl) : Failure → Prop
  | .reported d => d.isConfig = true
  | .digitLimit => ∃ a, TagList.parse f.tagText = .ok a ∧ ¬a.Convertible
  | _ => False

theorem FieldDecl.Faults.refuses {f : FieldDecl} {failure : Failure} (h : f.Faults failure) :
    f.Refuses failure := by
  have hconfig {d : Diagnostic} {kind : DiagnosticKind} (hkind : d.kind = kind)
      (h : kind.isConfig = true) : d.isConfig = true := by rw [Diagnostic.isConfig, hkind, h]
  cases h with
  | unparsed _ hkind => exact hconfig hkind rfl
  | shape hparse hf =>
    cases hf with
    | rejected _ h =>
      cases h with
      | refused _ hkind => exact hkind.elim (hconfig · rfl) (hconfig · rfl)
      | number h => exact ⟨_, hparse, h⟩
    | unsupported _ hkind => exact hconfig hkind rfl

namespace Resolution

variable {α β : Type} {units : List SourceUnit} {I : Resolution → Prop} {E E' : Failure → Prop}

/-- A step keeps an invariant, also if it fails, and fails in some way only. -/
structure Maintains (I : Resolution → Prop) (E : Failure → Prop) (m : Step α) : Prop where
  run : Triple I m (fun _ => I) fun failure r => E failure ∧ I r

namespace Maintains

theorem pure (a : α) : Maintains I E (Pure.pure a) := ⟨Triple.pure fun _ hr => hr⟩

theorem throw {failure : Failure} (h : E failure) :
    Maintains I E (MonadExcept.throw failure : Step α) :=
  ⟨.throw fun _ hr => ⟨h, hr⟩⟩

theorem bind {m : Step α} {f : α → Step β} (hm : Maintains I E m)
    (hf : ∀ a, Maintains I E (f a)) : Maintains I E (m >>= f) :=
  ⟨hm.run.bind fun a => (hf a).run⟩

theorem get_bind {f : Resolution → Step β} (hf : ∀ r, Maintains I E (f r)) :
    Maintains I E (get >>= f) :=
  ⟨fun r => (hf r).run r⟩

theorem imp {m : Step α} (hm : Maintains I E m) (h : ∀ failure, E failure → E' failure) :
    Maintains I E' m :=
  ⟨hm.run.conseq (fun _ => id) (fun _ _ => id) fun failure _ => .imp_left (h failure)⟩

theorem keeps {m : Step α} (hm : Maintains I E m) {r : Resolution} (hr : I r) : I (r.run m).2 := by
  have h := hm.run r hr
  rw [Resolution.run]
  rcases hrun : m r with ⟨failure | a, r'⟩ <;> rw [hrun] at h
  · exact h.2
  · exact h

theorem fails {m : Step α} (hm : Maintains I E m) {r : Resolution} (hr : I r) :
    Fails E (r.run m).1 := by
  have h := hm.run r hr
  rw [Resolution.run]
  rcases hrun : m r with ⟨failure | a, r'⟩ <;> rw [hrun] at h
  · exact .error h.1
  · exact .ok a

theorem mapM {f : α → Step β} {l : List α} (hf : ∀ a ∈ l, Maintains I E (f a)) :
    Maintains I E (l.mapM f) := by
  induction l with
  | nil => exact pure []
  | cons a l ih =>
    obtain ⟨ha, hl⟩ := List.forall_mem_cons.mp hf
    rw [List.mapM_cons]
    exact ha.bind fun b => (ih hl).bind fun bs => pure (b :: bs)

theorem tryCatch {m : Step α} {handle : Failure → Step α} (hm : Maintains I E m)
    (hhandle : ∀ failure, E failure → Maintains I E' (handle failure)) :
    Maintains I E' (MonadExcept.tryCatch m handle) :=
  ⟨hm.run.tryCatch fun failure r h => (hhandle failure h.1).run r h.2⟩

/-- A failure is passed on with context. -/
theorem within {context : DataMap} {m : Step α} (hm : Maintains I E m)
    (h : ∀ failure, E failure → E' (failure.withContext context)) :
    Maintains I E' (Resolution.within context m) := by
  refine hm.tryCatch fun failure hfailure => ?_
  cases failure <;> exact throw (h _ hfailure)

/-- What an annotation says is known afterwards. -/
theorem ofTags_bind {raw : String} {result : Except TagList.Fault α} {f : α → Step β}
    (hlong : result = .error .digitLimit → E .digitLimit)
    (hreport : ∀ fault d, result = .error fault → d.kind = .annotationMalformed → d.Bare →
      E (.reported d))
    (hf : ∀ a, result = .ok a → Maintains I E (f a)) :
    Maintains I E (Resolution.ofTags raw result >>= f) := by
  rcases result with fault | a
  · cases fault with
    | digitLimit => exact ⟨fun r hr => ⟨hlong rfl, hr⟩⟩
    | _ => exact ⟨fun r hr => ⟨hreport _ _ rfl rfl (TagList.Fault.bare raw _), hr⟩⟩
  · exact ⟨fun r => (hf a rfl).run r⟩

end Maintains

/-! ## Shapes and fields -/

section

variable {a : TagList} {t? : Option SszType}

theorem report_rejects {kind : DiagnosticKind} {message : String} (ht : t? = none)
    (hkind : kind = .annotationMissing ∨ kind = .annotationMalformed) :
    Maintains I (a.Rejects t?) (report kind message : Step α) :=
  .throw (.refused ht hkind fun _ _ => rfl)

/-- An annotation with a value that cannot be read gives no type. -/
theorem ofTags_rejects {raw : String} {result : Except TagList.Fault α} {f : α → Step β}
    (hlong : a.Convertible → result ≠ .error .digitLimit)
    (ht : ∀ fault, result = .error fault → t? = none)
    (hf : ∀ b, result = .ok b → Maintains I (a.Rejects t?) (f b)) :
    Maintains I (a.Rejects t?) (Resolution.ofTags raw result >>= f) :=
  .ofTags_bind (fun h => .number fun hconv => hlong hconv h)
    (fun _ _ h hkind hd => .refused (ht _ h) (.inr hkind) hd) hf

variable (hadd : ∀ (r : Resolution) (n : Node), I r → I { r with arena := (r.arena.add n).1 })
include hadd

theorem add_maintains (n : Node) : Maintains I E (add n) := ⟨fun r hr => hadd r n hr⟩

theorem bitListNode_rejects : Maintains I (a.Rejects a.bitListType?)
    (do add { kind := .bitList, limit := ← maxOf a }) :=
  ofTags_rejects (·.2.1) (fun _ h => by simp [TagList.bitListType?, h, Except.toOption])
    fun _ _ => add_maintains hadd _

theorem bytesNode_rejects : Maintains I (a.Rejects a.bytesType?) (bytesNode a) := by
  unfold bytesNode
  split
  · case isTrue hbits =>
    exact ofTags_rejects (·.2.1) (fun _ h => by simp [TagList.bytesType?, hbits, h, Except.toOption])
      fun _ _ => add_maintains hadd _
  · case isFalse hbits =>
    refine ofTags_rejects (·.1) (fun _ h => by simp [TagList.bytesType?, hbits, h]) fun size hsize => ?_
    rcases size with _ | _ | n
    · refine ofTags_rejects (·.2.1) (fun _ h => by simp [TagList.bytesType?, hbits, hsize, h])
        fun limit hlimit => ?_
      cases limit with
      | none => exact report_rejects (by simp [TagList.bytesType?, hbits, hsize, hlimit]) (.inl rfl)
      | some n => exact add_maintains hadd _
    · exact report_rejects (by simp [TagList.bytesType?, hbits, hsize]) (.inr rfl)
    · exact add_maintains hadd _

theorem bitVectorNode_rejects : Maintains I (a.Rejects a.bitVectorType?) (bitVectorNode a) := by
  refine ofTags_rejects (·.1) (fun _ h => by simp [TagList.bitVectorType?, h]) fun size hsize => ?_
  rcases size with _ | _ | n
  · exact report_rejects (by simp [TagList.bitVectorType?, hsize]) (.inl rfl)
  · exact report_rejects (by simp [TagList.bitVectorType?, hsize]) (.inr rfl)
  · exact add_maintains hadd _

theorem byteVectorsNode_rejects :
    Maintains I (a.Rejects a.byteVectorsType?) (byteVectorsNode a) := by
  refine ofTags_rejects (·.2.2) (fun _ h => by simp [TagList.byteVectorsType?, h])
    fun pair hpair => ?_
  rcases pair with _ | ⟨outer, _ | inner⟩
  · exact report_rejects (by simp [TagList.byteVectorsType?, hpair]) (.inl rfl)
  · exact report_rejects (by simp [TagList.byteVectorsType?, hpair]) (.inr rfl)
  · refine (add_maintains hadd _).bind fun element => ?_
    cases outer with
    | some n => exact add_maintains hadd _
    | none =>
      refine ofTags_rejects (·.2.1) (fun _ h => by simp [TagList.byteVectorsType?, hpair, h])
        fun limit hlimit => ?_
      cases limit with
      | none =>
        exact report_rejects (by simp [TagList.byteVectorsType?, hpair, hlimit]) (.inl rfl)
      | some n => exact add_maintains hadd _

theorem sequenceNode_rejects (element : NodeId) (t : SszType) :
    Maintains I (a.Rejects (a.sequenceType? t)) (sequenceNode a element) := by
  refine ofTags_rejects (·.1) (fun _ h => by simp [TagList.sequenceType?, h]) fun size hsize => ?_
  rcases size with _ | _ | n
  · refine ofTags_rejects (·.2.1) (fun _ h => by simp [TagList.sequenceType?, hsize, h])
      fun limit hlimit => ?_
    cases limit with
    | none => exact report_rejects (by simp [TagList.sequenceType?, hsize, hlimit]) (.inl rfl)
    | some n => exact add_maintains hadd _
  · exact report_rejects (by simp [TagList.sequenceType?, hsize]) (.inr rfl)
  · exact add_maintains hadd _

theorem basicNode_maintains {name : String} {other : Step NodeId}
    (hown : meaning name ≠ .other → ∀ failure, a.Rejects (a.basicType? (meaning name)) failure →
      E failure)
    (h : meaning name = .other → Maintains I E other) : Maintains I E (basicNode a name other) := by
  unfold basicNode
  cases hm : meaning name <;> rw [hm] at hown
  case bytes => exact (bytesNode_rejects hadd).imp (hown nofun)
  case uint => exact add_maintains hadd _
  case bool => exact add_maintains hadd _
  case bitList => exact (bitListNode_rejects hadd).imp (hown nofun)
  case bitVector => exact (bitVectorNode_rejects hadd).imp (hown nofun)
  case other => exact h hm

/-- A shape that is supported fails if its annotation is rejected, or as the record that it
mentions. -/
theorem shape_rejects {record : String → Step NodeId} {e : TypeExpr} (hs : e.isSupported = true)
    (hown : ∀ failure, a.Rejects (e.type? a) failure → E failure)
    (h : ∀ y ∈ e.record?, Maintains I E (record y)) : Maintains I E (shape record a e) := by
  induction e with
  | name id =>
    refine basicNode_maintains hadd (fun hm failure hf => hown failure ?_) fun hm => ?_
    · simpa [TypeExpr.type?, TypeExpr.isRecordName, hm] using hf
    · have hname : TypeExpr.isRecordName id = true := by simpa [TypeExpr.isSupported, hm] using hs
      have hw : ¬widthlessNames.contains id = true := by
        simpa [TypeExpr.isRecordName, hm] using hname
      rw [if_neg hw]
      exact h id (by simp [TypeExpr.record?, hname])
  | member id text =>
    refine basicNode_maintains hadd (fun _ => hown) fun hm => ?_
    simp [TypeExpr.isSupported, hm] at hs
  | apply head e ih =>
    obtain ⟨hhead, he⟩ := Bool.and_eq_true_iff.mp hs
    unfold shape
    rw [if_pos hhead]
    unfold TypeExpr.type? at hown
    rw [if_pos hhead] at hown
    split
    · case isTrue hbytes => exact (byteVectorsNode_rejects hadd).imp (by rwa [if_pos hbytes] at hown)
    · case isFalse hbytes =>
      rw [if_neg hbytes] at hown
      split
      · case isTrue hbool => exact (bitListNode_rejects hadd).imp (by rwa [if_pos hbool] at hown)
      · case isFalse hbool =>
        rw [if_neg hbool] at hown
        refine (ih he (fun failure hf => hown failure (hf.mono fun ht => ?_)) h).bind fun element => ?_
        · rw [ht, Option.bind_none]
        · -- Any type would do if the element had none.
          refine (sequenceNode_rejects hadd element ((e.type? a).getD .bool)).imp fun failure hf =>
            hown failure (hf.mono fun ht => ?_)
          cases htype : e.type? a with
          | none => rfl
          | some t => rwa [htype] at ht
  | quoted e ih => exact ih hs hown h
  | applyMany => cases hs
  | other => cases hs

end

/-- A shape that is not supported is reported at once. -/
theorem shape_of_not_supported {record : String → Step NodeId} {a : TagList} {e : TypeExpr}
    (hs : e.isSupported = false) : ∃ message, shape record a e = unsupported message := by
  induction e with
  | name id =>
    obtain ⟨hm, hname⟩ : meaning id = .other ∧ TypeExpr.isRecordName id = false := by
      simpa [TypeExpr.isSupported] using hs
    have hw : widthlessNames.contains id = true := by simpa [TypeExpr.isRecordName, hm] using hname
    unfold shape basicNode
    rw [hm, if_pos hw]
    exact ⟨_, rfl⟩
  | member id text =>
    have hm : meaning id = .other := by simpa [TypeExpr.isSupported] using hs
    unfold shape basicNode
    rw [hm]
    exact ⟨_, rfl⟩
  | apply head e ih =>
    unfold shape
    split
    · case isTrue hhead =>
      have he : e.isSupported = false := by
        unfold TypeExpr.isSupported at hs
        rwa [hhead, Bool.true_and] at hs
      have hother (id : String) (hid : e.head? = some id) : meaning id = .other := by
        by_contra hm
        rw [TypeExpr.isSupported_of_head? hid hm] at he
        cases he
      have hbytes : ¬e.head?.any byteNames.contains = true := fun h => by
        cases hid : e.head? with
        | none => simp [hid] at h
        | some id =>
          have hmem : byteNames.contains id = true := by simpa [hid] using h
          have hm := meaning_of_mem_byteNames hmem
          rw [hother id hid] at hm
          cases hm
      have hbool : ¬(e.head? = some boolName && a.isBitList) = true := fun h => by
        rw [Bool.and_eq_true, decide_eq_true_eq] at h
        exact absurd (hother _ h.1) (by decide)
      obtain ⟨message, heq⟩ := ih he
      rw [if_neg hbytes, if_neg hbool, heq]
      exact ⟨message, rfl⟩
    · exact ⟨_, rfl⟩
  | applyMany head =>
    unfold shape
    split <;> exact ⟨_, rfl⟩
  | quoted e ih => exact ih hs
  | other text => exact ⟨_, rfl⟩

/-- A shape fails by itself, or as the record that it mentions. -/
theorem shape_maintains
    (hadd : ∀ (r : Resolution) (n : Node), I r → I { r with arena := (r.arena.add n).1 })
    {a : TagList} {record : String → Step NodeId} {e : TypeExpr}
    (hown : ∀ failure, e.Faults a failure → E failure)
    (h : ∀ y ∈ e.record?, Maintains I E (record y)) : Maintains I E (shape record a e) := by
  cases hs : e.isSupported with
  | false =>
    obtain ⟨message, heq⟩ := @shape_of_not_supported record a e hs
    rw [heq]
    exact .throw (hown _ (.unsupported hs rfl fun _ _ => rfl))
  | true => exact shape_rejects hadd hs (fun failure hf => hown failure (.rejected hs hf)) h

/-- A field fails by itself, or as the record that it mentions. Its place is added. -/
theorem field_maintains
    (hadd : ∀ (r : Resolution) (n : Node), I r → I { r with arena := (r.arena.add n).1 })
    {record : String → Step NodeId} {d : RecordDecl} {f : FieldDecl}
    (hown : ∀ failure, f.Faults failure → E failure)
    (hcontext : ∀ failure, E failure → E' (failure.withContext (place d f)))
    (h : ∀ y ∈ f.shape.record?, Maintains I E (record y)) : Maintains I E' (field record d f) := by
  refine .within (.ofTags_bind (fun h => (parse_ne_digitLimit _ h).elim)
    (fun _ _ hparse hkind hd => hown _ (.unparsed hparse hkind hd)) fun a hparse => ?_) hcontext
  exact (shape_maintains hadd (fun failure hf => hown failure (.shape hparse hf)) h).bind
    fun id => .pure _

/-! ## Records -/

section

variable {name : String} {record : String → Step NodeId} {d : RecordDecl}

theorem fill_maintains (h : ∀ (r : Resolution) (arena : Arena), I r → I { r with arena })
    (hgraph : ∀ fault, E (.graph fault)) (name : String) (id : NodeId) (fields : List FieldRef) :
    Maintains I E (fill name id fields) := by
  refine ⟨fun r hr => ?_⟩
  unfold fill
  rw [Stateful.run_get_bind]
  cases r.arena.fill id { kind := .container, record := some name, fields } with
  | error fault => exact ⟨hgraph fault, hr⟩
  | ok arena => exact h r arena hr

theorem commit_maintains
    (h : ∀ (r : Resolution) (registry : Registry), I r →
      r.pending.foldlM (fun registry (name, id) => registry.put name id) r.registry = .ok registry →
        I { r with registry, pending := [] })
    (hgraph : ∀ fault, E (.graph fault)) : Maintains I E commit := by
  refine ⟨fun r hr => ?_⟩
  unfold commit
  rw [Stateful.run_get_bind]
  cases hput : r.pending.foldlM (fun registry (name, id) => registry.put name id) r.registry with
  | error fault => exact ⟨hgraph fault, hr⟩
  | ok registry => exact h r registry hr hput

/-- A declared record keeps an invariant if its fields keep what holds while it is open. -/
theorem expand_maintains_while {J : Resolution → Prop} (hreserve : ∀ r, I r → J (r.reserved d.name))
    (hclose : ∀ r, J r → I r) (hfields : ∀ f ∈ d.fields, Maintains J E (field record d f))
    (hcontext : ∀ failure context, E failure → E (failure.withContext context))
    (hfill : ∀ id fields, Maintains J E (fill d.name id fields))
    (habandon : ∀ r, I r → r.pending = [] → ∀ e, E (.reported e) →
      Triple J (abandon d.name e) (fun _ => I) fun failure r => E failure ∧ I r)
    (hcommit : ∀ r, I r → r.pending = [] →
      Triple J commit (fun _ => I) fun failure r => E failure ∧ I r) :
    Maintains I E (expand record d) := by
  have hkept {α : Type} {m : Step α} (hm : Maintains J E m) :
      Triple J m (fun _ => J) fun failure r => E failure ∧ I r :=
    hm.run.conseq (fun _ => id) (fun _ _ => id) fun _ _ => .imp_right (hclose _)
  refine ⟨fun r hr => ?_⟩
  have hopened : Triple (· = r) (reserve d.name) (fun _ => J) fun failure r => E failure ∧ I r := by
    rintro _ rfl
    rw [reserve_eq]
    exact hreserve _ hr
  unfold expand
  rw [Stateful.run_get_bind]
  refine hopened.bind (fun id => ?_) r rfl
  refine (((Maintains.mapM hfields).run.tryCatch fun failure => ?_).bind fun fields => ?_)
  · cases failure with
    | reported e =>
      have hplaced (h : E (.reported e)) :=
        hcontext _ [("record", .text d.name), ("path", .text d.path)] h
      dsimp only
      split
      · case isTrue houtermost =>
        intro r' ⟨he, hr'⟩
        have hend := habandon r hr (by simpa using houtermost) _ (hplaced he)
        have hthrow {e : Diagnostic} (he : E (.reported e)) :
            Triple I (throw (.reported e) : Step (List FieldRef)) (fun _ => J)
              fun failure r => E failure ∧ I r := .throw fun _ hr => ⟨he, hr⟩
        exact hend.bind (fun _ => hthrow (hplaced he)) r' hr'
      · exact fun r' h => ⟨hplaced h.1, hclose r' h.2⟩
    | _ => exact fun r' hfailed => hfailed.imp_right (hclose r')
  · refine (hkept (hfill id fields)).bind fun _ => ?_
    dsimp only
    split
    · case isTrue houtermost =>
      exact (hcommit r hr (by simpa using houtermost)).bind fun _ => .pure fun _ h => h
    · exact .pure hclose

/-- A declared record keeps what its fields keep, and fails as they do. -/
theorem expand_maintains (hreserve : Maintains I E (reserve d.name))
    (hfields : ∀ f ∈ d.fields, Maintains I E (field record d f))
    (hcontext : ∀ failure context, E failure → E (failure.withContext context))
    (habandon : ∀ e, E (.reported e) → Maintains I E (abandon d.name e))
    (hfill : ∀ id fields, Maintains I E (fill d.name id fields)) (hcommit : Maintains I E commit) :
    Maintains I E (expand record d) := by
  refine expand_maintains_while (fun r hr => ?_) (fun _ => id) hfields hcontext hfill
    (fun _ _ _ e he => (habandon e he).run) fun _ _ _ => hcommit.run
  have h := hreserve.keeps hr
  rwa [run, reserve_eq] at h

/-- A record that has no node yet fails as before, or is not declared, or is resolved afresh. -/
theorem lookUp_maintains (hunits : ∀ r, I r → r.units = units)
    (hfailed : ∀ r, I r → ∀ e ∈ r.failed, e.1 = name → E (.reported e.2))
    (hunknown : declared? units name = none → E (.reported (.unknownRecord name)))
    {fresh : RecordDecl → Step NodeId}
    (h : ∀ d, declared? units name = some d → Maintains I E (fresh d)) :
    Maintains I E (lookUp name fresh) := by
  refine ⟨fun r hr => ?_⟩
  unfold lookUp
  rw [Stateful.run_get_bind]
  cases r.registry.get? name with
  | some id => exact hr
  | none =>
  cases r.pending.find? (·.1 == name) with
  | some e => exact hr
  | none =>
  cases hfind : r.failed.find? (·.1 == name) with
  | some e =>
    have hname : e.1 = name := by simpa using List.find?_some hfind
    exact ⟨hfailed r hr e (List.mem_of_find?_eq_some hfind) hname, hr⟩
  | none =>
  have hdeclared : r.declaration? name = declared? units name := hunits r hr ▸ rfl
  dsimp only
  rw [declaration, hdeclared]
  cases hd : declared? units name with
  | none => exact ⟨hunknown hd, hr⟩
  | some d => exact (h d hd).run r hr

end

end Resolution

end SszSchema
