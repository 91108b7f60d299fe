import SszSchema.Proofs.Closure
import SszSchema.Proofs.History

/-!
# Failing resolutions

A resolution that fails is to leave things as they were, so that callers can go on: it ends in a
diagnostic that they can mend, the registry is as before, no record is open, and sound records
still resolve in later calls, with all that they lead to (`Resolution.Recovers`). That is so for all
calls but those that run into a number with more digits than are read
(`Resolution.recovers_iff_of_called`). Such a number stops the call before anything is given up. The
records that it has opened stay open, and as no later call is an outermost one then, none of
them registers anything (`Resolution.not_recovers_overlong`).
-/

namespace SszSchema

open Relation

namespace Resolution

variable {units : List SourceUnit} {r r' r₀ : Resolution} {name : String}

/-! ## What failures say -/

/-- No number in the annotations of a record is too long to be read. -/
def Legible (units : List SourceUnit) (name : String) : Prop :=
  ∀ d, declared? units name = some d → ∀ f ∈ d.fields, ∀ a,
    TagList.parse f.tagText = .ok a → a.Convertible

/-- How the resolution of a record fails: with a diagnostic that the caller can mend, or with a
number of a record that it leads to. -/
def Explains (units : List SourceUnit) (name : String) : Failure → Prop
  | .reported d => d.isConfig = true
  | .digitLimit => ∃ x, ReflTransGen (Mentions units) name x ∧ ¬Legible units x
  | _ => True

/-- All diagnostics that are kept are ones that the caller can mend. -/
def Mendable (units : List SourceUnit) (r : Resolution) : Prop :=
  r.units = units ∧ ∀ e ∈ r.failed, e.2.isConfig = true

theorem Explains.of_field {d : RecordDecl} {f : FieldDecl} (hd : declared? units d.name = some d)
    (hf : f ∈ d.fields) {failure : Failure} (h : f.Refuses failure) :
    Explains units d.name failure := by
  cases failure with
  | reported => exact h
  | digitLimit =>
    obtain ⟨a, hparse, ha⟩ := h
    exact ⟨d.name, .refl, fun hlegible => ha (hlegible d hd f hf a hparse)⟩
  | _ => trivial

/-- A record fails as the records that it mentions. -/
theorem Explains.of_mentions {x y : String} (hxy : Mentions units x y) {failure : Failure}
    (h : Explains units y failure) : Explains units x failure := by
  cases failure with
  | digitLimit =>
    obtain ⟨z, hz, hlong⟩ := h
    exact ⟨z, .head hxy hz, hlong⟩
  | _ => exact h

theorem Explains.withContext (context : DataMap) {failure : Failure}
    (h : Explains units name failure) : Explains units name (failure.withContext context) := by
  cases failure <;> exact h

theorem abandon_mendable {E : Failure → Prop} (name : String) {d : Diagnostic}
    (h : d.isConfig = true) : Maintains (Mendable units) E (abandon name d) := by
  refine ⟨Triple.update fun r hr => ⟨hr.1, fun e he => ?_⟩⟩
  rcases List.mem_append.mp he with he | he
  · exact hr.2 e he
  · obtain rfl := List.mem_singleton.mp he
    exact h

theorem resolveWith_explains (fuel : Nat) (name : String) :
    Maintains (Mendable units) (Explains units name) (resolveWith fuel name) := by
  have hlookUp {name : String} {fresh : RecordDecl → Step NodeId}
      (h : ∀ d, declared? units name = some d →
        Maintains (Mendable units) (Explains units name) (fresh d)) :
      Maintains (Mendable units) (Explains units name) (lookUp name fresh) :=
    lookUp_maintains (I := Mendable units) (E := Explains units name) (fun _ hr => hr.1)
      (fun _ hr e he _ => hr.2 e he) (fun _ => rfl) h
  induction fuel generalizing name with
  | zero => exact hlookUp fun _ _ => .throw rfl
  | succ fuel ih =>
    refine hlookUp fun d hd => ?_
    obtain rfl := (declared?_eq_some hd).1
    have hfields (f : FieldDecl) (hf : f ∈ d.fields) :
        Maintains (Mendable units) (Explains units d.name) (field (resolveWith fuel) d f) :=
      field_maintains (fun _ _ hr => hr) (fun _ h => .of_field hd hf h.refuses)
        (fun _ => .withContext _) fun y hy => (ih y).imp fun _ => .of_mentions ⟨d, hd, f, hf, hy⟩
    exact expand_maintains ⟨fun _ hr => hr⟩ hfields (fun _ context => .withContext context)
      (fun _ he => abandon_mendable _ he) (fill_maintains (fun _ _ hr => hr) (fun _ => trivial) _)
      (commit_maintains (fun _ _ hr _ => hr) fun _ => trivial)

theorem resolve_explains (name : String) :
    Maintains (Mendable units) (Explains units name) (resolve name) :=
  .get_bind fun r => resolveWith_explains (r.declarations.length + 1) name

theorem mendable_of_called (h : Called r r') (hr : r.Mendable units) : r'.Mendable units := by
  have hresolve (name : String) : Maintains (Mendable units) (fun _ => True) (resolve name) :=
    (resolve_explains name).imp fun _ _ => trivial
  cases h with
  | resolve name => exact (hresolve name).keeps hr
  | resolveAll names =>
    have hall : Maintains (Mendable units) (fun _ => True) (resolveAll names) :=
      .get_bind fun r => .mapM fun name _ => hresolve name
    exact hall.keeps hr

theorem mendable_of_calls (h : ReflTransGen Called r r') (hr : r.Mendable units) :
    r'.Mendable units := by
  induction h with
  | refl => exact hr
  | tail _ hcall ih => exact mendable_of_called hcall ih

/-! ## What a call leaves behind -/

/-- A record stands for a node if it is registered with it, and all records that it leads to are
registered with nodes that have the declared fields. -/
def Stands (units : List SourceUnit) (r : Resolution) (name : String) (id : NodeId) : Prop :=
  r.registry.get? name = some id ∧ ∀ x, ReflTransGen (Mentions units) name x →
    ∃ y, r.registry.get? x = some y ∧ r.arena.Matches units r.registry.entries (x, y)

/-- What resolving a record is to come to, and all calls after it. -/
structure Recovers (units : List SourceUnit) (r : Resolution) (name : String) : Prop where
  /-- It returns a node, or ends in a diagnostic that the caller can mend. -/
  answers : Fails (fun failure => ∃ d, failure = .reported d ∧ d.isConfig = true)
    (r.run (resolve name)).1
  /-- If it fails, the registry is as before, and no record is open. -/
  intact : Fails (fun _ => (r.run (resolve name)).2.registry = r.registry ∧
    (r.run (resolve name)).2.pending = []) (r.run (resolve name)).1
  /-- In later calls all sound records resolve. Nodes that are returned are those that the records
  are registered with, along with all that they lead to. -/
  later : ∀ r', ReflTransGen Called (r.run (resolve name)).2 r' → ∀ x,
    (¬Doomed units x → (r'.run (resolve x)).1.isOk = true) ∧
      ∀ id, (r'.run (resolve x)).1 = .ok id → (r'.run (resolve x)).2.Stands units x id

theorem Concludes.of_error {result : Except Failure NodeId × Resolution}
    (h : r.Concludes name result) (failure : Failure) (hfailure : result.1 = .error failure) :
    result.2.registry = r.registry ∧ Justified r.units (Doomed r.units name) failure ∧
      (result.2.pending = [] ↔ ∃ d, failure = .reported d) := by
  obtain ⟨_, r'⟩ := result
  obtain rfl := hfailure
  obtain ⟨-, hregistry, -, hcause, hclosed⟩ := h
  exact ⟨hregistry, hcause, hclosed⟩

/-- A registered record stands for its node. -/
theorem Sound.stands (hr : r.Sound) {id : NodeId} (h : (name, id) ∈ r.registry.entries) :
    r.Stands r.units name id := by
  refine ⟨hr.get?_eq_some_iff.mpr h, fun x hreach => ?_⟩
  have hx := hr.mem_of_reaches (List.mem_map.mpr ⟨_, h, rfl⟩) hreach
  obtain ⟨⟨_, y⟩, hy, rfl⟩ := List.mem_map.mp hx
  exact ⟨y, hr.get?_eq_some_iff.mpr hy, hr.complete _ hy⟩

/-- If no record is open, a sound record resolves, and one that resolves stands for its node. -/
theorem Sound.resolve_stands (hr : r.Sound) (hclosed : r.pending = []) (x : String) :
    (¬Doomed r.units x → (r.run (resolve x)).1.isOk = true) ∧
      ∀ id, (r.run (resolve x)).1 = .ok id → (r.run (resolve x)).2.Stands r.units x id := by
  obtain ⟨hsound, hends⟩ := resolve_concludes hr x
  have hends := hends hclosed
  rcases hrun : r.run (resolve x) with ⟨failure | id, r'⟩ <;> rw [hrun] at hends hsound
  · refine ⟨fun hsafe => ?_, nofun⟩
    obtain ⟨-, -, -, hcause, -⟩ := hends
    cases failure with
    | reported d => exact absurd hcause hsafe
    | digitLimit => exact absurd hcause.2 hsafe
    | _ => exact hcause.elim
  · obtain ⟨-, -, -, -, hunits, hid⟩ := hends
    refine ⟨fun _ => rfl, fun id' hid' => ?_⟩
    obtain rfl := Except.ok.inj hid'
    rw [← hunits]
    exact hsound.stands hid

/-- Between calls, resolving a record comes to what it is to come to unless a number is too long. -/
theorem Continues.recovers (hr : Continues { units } r) (hmendable : r.Mendable units)
    (hshort : (r.run (resolve name)).1 ≠ .error .digitLimit) : Recovers units r name := by
  have hunits : r.units = units := hr.units
  have hexplains := (resolve_explains name).fails hmendable
  have hends := ((resolve_concludes hr.sound name).2 hr.closed).of_error
  have hanswers : Fails (fun failure => ∃ d, failure = .reported d ∧ d.isConfig = true)
      (r.run (resolve name)).1 := by
    intro failure hfailure
    obtain ⟨-, hcause, -⟩ := hends failure hfailure
    cases failure with
    | reported d => exact ⟨d, rfl, hexplains _ hfailure⟩
    | digitLimit => exact absurd hfailure hshort
    | _ => exact hcause.elim
  have hreported : Fails Failure.IsReported (r.run (resolve name)).1 := by
    refine hanswers.imp ?_
    rintro _ ⟨d, rfl, -⟩
    trivial
  have hcontinues := resolve_continues hr.sound hr.closed hreported
  refine ⟨hanswers, fun failure hfailure => ?_, fun r' hcalls x => ?_⟩
  · exact ⟨(hends failure hfailure).1, hcontinues.closed⟩
  · have hlater := continues_of_calls hcalls hcontinues.sound hcontinues.closed
    have hsame : r'.units = units := (hlater.units.trans hcontinues.units).trans hunits
    rw [← hsame]
    exact hlater.sound.resolve_stands hlater.closed x

/-- If all numbers can be read, calls return or end in diagnostics. -/
theorem Reached.called (hconv : Convertible units) (h : r.Reached units) :
    Resolution.ofUnits units = .ok { units } ∧ ReflTransGen Called { units } r := by
  induction h with
  | start h =>
    obtain rfl := eq_of_ofUnits h
    exact ⟨h, .refl⟩
  | @step r h name ih =>
    refine ⟨ih.1, ih.2.tail (.resolve name ?_)⟩
    obtain ⟨-, id, hid, -⟩ | ⟨-, d, hd⟩ := h.resolve_cases hconv name
    · rw [hid]
      exact .ok id
    · rw [hd]
      exact .error trivial

/-- If all numbers can be read, resolving comes to what it is to come to in all states. -/
theorem Reached.recovers (hconv : Convertible units) (h : r.Reached units) (name : String) :
    Recovers units r name := by
  obtain ⟨h₀, hcalled⟩ := h.called hconv
  refine (continues_of_ofUnits h₀ hcalled).recovers (mendable_of_calls hcalled ⟨rfl, nofun⟩) ?_
  obtain ⟨-, id, hid, -⟩ | ⟨-, d, hd⟩ := h.resolve_cases hconv name
  · rw [hid]
    exact nofun
  · rw [hd]
    exact nofun

/-! ## Numbers that are too long -/

/-- While a record is open, no call registers anything, and none closes it. -/
theorem Sound.resolve_stuck (hr : r.Sound) (hopen : r.pending ≠ []) (x : String) :
    (r.run (resolve x)).2.Sound ∧ (r.run (resolve x)).2.registry = r.registry ∧
      (r.run (resolve x)).2.pending ≠ [] := by
  -- The call is no outermost one, so it neither registers nor gives up what is open.
  have hresolve := @resolveWith_advances r.units 0
    ((SszSchema.declarations r.units).length + 1) (Nat.le_succ _) x
  have h := hresolve.run r hr rfl (List.length_pos_of_ne_nil hopen) trivial
  rw [run_resolve]
  rcases hrun : resolveWith ((SszSchema.declarations r.units).length + 1) x r with
    ⟨failure | id, r'⟩ <;> rw [hrun] at h
  · exact ⟨h.1, h.2.1.registry, h.2.1.pending.ne_nil hopen⟩
  · exact ⟨h.1, h.2.1.registry, h.2.1.pending.ne_nil hopen⟩

/-- The resolution after some records have been resolved one after the other, failing or not. -/
def after (r : Resolution) (names : List String) : Resolution :=
  names.foldl (fun r x => (r.run (resolve x)).2) r

theorem Sound.after_stuck (hr : r.Sound) (hopen : r.pending ≠ []) (names : List String) :
    (r.after names).registry = r.registry ∧ (r.after names).pending ≠ [] := by
  induction names generalizing r with
  | nil => exact ⟨rfl, hopen⟩
  | cons x names ih =>
    obtain ⟨hsound, hregistry, hstuck⟩ := hr.resolve_stuck hopen x
    rw [← hregistry]
    exact ih hsound hstuck

/-- As long as calls return or end in diagnostics, resolving a record comes to what it is to come
to, unless it runs into a number that is too long. Then the record is doomed, the number stands in
the annotations of a record that it leads to, and whatever is resolved from then on, some record
stays open and the registry as it was. -/
theorem recovers_iff_of_called (h₀ : Resolution.ofUnits units = .ok r₀)
    (h : ReflTransGen Called r₀ r) (name : String) :
    (Recovers units r name ↔ (r.run (resolve name)).1 ≠ .error .digitLimit) ∧
      ((r.run (resolve name)).1 = .error .digitLimit →
        Doomed units name ∧ (∃ x, ReflTransGen (Mentions units) name x ∧ ¬Legible units x) ∧
          ∀ names, ((r.run (resolve name)).2.after names).registry = r.registry ∧
            ((r.run (resolve name)).2.after names).pending ≠ []) := by
  have hr := continues_of_ofUnits h₀ h
  have hunits : r.units = units := hr.units
  have hmendable : r.Mendable units := by
    obtain rfl := eq_of_ofUnits h₀
    exact mendable_of_calls h ⟨rfl, nofun⟩
  refine ⟨⟨fun hrecovers hlimit => ?_, hr.recovers hmendable⟩, fun hlimit => ?_⟩
  · obtain ⟨d, hd, -⟩ := hrecovers.answers _ hlimit
    cases hd
  · have hexplains := (resolve_explains name).fails hmendable
    obtain ⟨hsound, hconcludes⟩ := resolve_concludes hr.sound name
    -- Only diagnostics make the outermost call give up what it has opened.
    obtain ⟨hregistry, ⟨-, hdoomed⟩, hclosed⟩ := (hconcludes hr.closed).of_error _ hlimit
    have hopen : (r.run (resolve name)).2.pending ≠ [] := fun hpending => by
      obtain ⟨d, hd⟩ := hclosed.mp hpending
      cases hd
    rw [← hregistry]
    exact ⟨hunits ▸ hdoomed, hexplains _ hlimit, hsound.after_stuck hopen⟩

/-- A record that has failed fails again, and what it mentions still resolves. -/
theorem recovers_torn : (tornResolution.run (resolve "C")).1.isOk = false ∧
    Recovers [tornUnit] tornResolution "C" := by
  have hreported : Fails Failure.IsReported (tornResolution.run (resolve "C")).1 := by
    decide +kernel
  obtain ⟨hiff, -⟩ := recovers_iff_of_called (ofUnits_eq_ok rfl) called_tornResolution "C"
  exact ⟨by decide +kernel, hiff.mpr fun hlong => hreported _ hlong⟩

end Resolution

/-! ### A bound that is too long -/

namespace TagList

/-- A bound of so many ones. -/
def onesText (n : Nat) : List Char :=
  maxKey.toList ++ ':' :: '"' :: (List.replicate n '1' ++ ['"'])

theorem readValue_ones (n : Nat) (rest : List Char) :
    readValue (List.replicate n '1' ++ '"' :: rest) = some (List.replicate n '1', rest) := by
  induction n with
  | zero => rfl
  | succ n ih =>
    rw [List.replicate_succ, List.cons_append, readValue, ih]
    · rfl
    · decide
    · simp
    · simp

theorem stripWhile_onesText {p : Char → Bool} (hs : p 's' = false) (hq : p '"' = false) (n : Nat) :
    Text.stripWhile p (onesText n) = onesText n := by
  simp [Text.stripWhile, Text.dropEndWhile, onesText, maxKey, hs, hq]

theorem parse_onesText (n : Nat) :
    parse (String.ofList (onesText n)) =
      .ok ⟨String.ofList (onesText n), [(maxKey, String.ofList (List.replicate n '1'))]⟩ := by
  have hcore : core (onesText n) = onesText n := by
    rw [core, stripWhile_onesText (by decide) (by decide),
      stripWhile_onesText (by decide) (by decide)]
  have hpair : readPair (onesText n) = some ((maxKey.toList, List.replicate n '1'), []) := by
    have hkey : (onesText n).takeWhile isKeyChar = maxKey.toList := rfl
    have hrest : (onesText n).dropWhile isKeyChar =
        ':' :: '"' :: (List.replicate n '1' ++ ['"']) := rfl
    rw [readPair, hkey, hrest]
    simp [readValue_ones n [], maxKey]
  have hpairs : readPairs (onesText n).length ((onesText n).length + 1) (onesText n) =
      .ok [(maxKey.toList, List.replicate n '1')] := by
    have hstart : (onesText n).dropWhile Text.isBlank = onesText n := rfl
    have hcons : onesText n =
        's' :: ("sz-max:\"".toList ++ (List.replicate n '1' ++ ['"'])) := rfl
    have hend (length fuel : Nat) : readPairs length fuel [] = .ok [] := by cases fuel <;> rfl
    rw [readPairs, hstart]
    split
    · case h_1 hnil => cases hcons.symm.trans hnil
    · rw [hpair]
      dsimp only
      rw [hend]
      rfl
  rw [parse, String.toList_ofList, hcore, hpairs]
  simp [firstOfEach, Except.map]

theorem max?_ones {raw : String} {n : Nat} (hlong : Text.maxDigits < n) :
    max? ⟨raw, [(maxKey, String.ofList (List.replicate n '1'))]⟩ = .error .digitLimit := by
  have hstrip : Text.stripWhile Text.isBlank (List.replicate n '1') = List.replicate n '1' := by
    have hblank : Text.isBlank '1' = false := by decide
    simp [Text.stripWhile, Text.dropEndWhile, hblank]
  have hpos : n ≠ 0 := Nat.ne_of_gt (Nat.zero_lt_of_lt hlong)
  have hread : readNumber maxKey (List.replicate n '1') = .error .digitLimit := by
    simp [readNumber, hstrip, hlong, hpos]
  simp [max?, get?, hread, Except.map]

end TagList

namespace Resolution

/-- A record with a bounded field, and another one. -/
def boundedUnit (tag : String) : SourceUnit where
  path := ⟨"", ["types.py"]⟩
  moduleName := "types"
  inPackage := false
  records := [⟨"A", [⟨"x", .name "Bitlist", "Bitlist", tag, 3⟩], "types.py", 2⟩,
    ⟨"B", [⟨"n", .name "uint64", "uint64", "", 6⟩], "types.py", 5⟩]

/-- A bound that has more digits than are read. -/
def overlongTag : String := String.ofList (TagList.onesText (Text.maxDigits + 1))

/-- The resolution of its records while the first one is open. -/
def halfway (tag : String) : Resolution where
  units := [boundedUnit tag]
  arena := ⟨[{ kind := .container, record := some "A" }]⟩
  pending := [("A", 0)]

theorem field_overlong (record : String → Step NodeId) (d : RecordDecl) (r : Resolution) :
    field record d ⟨"x", .name "Bitlist", "Bitlist", overlongTag, 3⟩ r =
      (.error .digitLimit, r) := by
  have hread (raw : String) (a : TagList) : ofTags raw (.ok a) = (Pure.pure a : Step TagList) := rfl
  have hshape (a : TagList) : shape record a (.name "Bitlist") =
      (do add { kind := .bitList, limit := ← maxOf a }) := rfl
  have hmax (raw : String) : maxOf ⟨raw, [(TagList.maxKey,
      String.ofList (List.replicate (Text.maxDigits + 1) '1'))]⟩ = throw .digitLimit := by
    rw [maxOf, TagList.max?_ones (Nat.lt_succ_self _)]
    rfl
  rw [field, overlongTag, TagList.parse_onesText, hread, pure_bind, hshape, hmax]
  rfl

section

variable (tag : String) (fresh : RecordDecl → Step NodeId)

theorem lookUp_first : lookUp "A" fresh { units := [boundedUnit tag] } =
    fresh ⟨"A", [⟨"x", .name "Bitlist", "Bitlist", tag, 3⟩], "types.py", 2⟩
      { units := [boundedUnit tag] } := by
  unfold lookUp
  rw [Stateful.run_get_bind]
  simp [Registry.get?, declaration, declaration?, declarations, SszSchema.declarations, boundedUnit]

theorem lookUp_second : lookUp "B" fresh (halfway tag) =
    fresh ⟨"B", [⟨"n", .name "uint64", "uint64", "", 6⟩], "types.py", 5⟩ (halfway tag) := by
  unfold lookUp
  rw [Stateful.run_get_bind]
  simp [Registry.get?, declaration, declaration?, declarations, SszSchema.declarations, halfway,
    boundedUnit]

end

theorem resolve_first {tag : String}
    (h : ∀ record d r, field record d ⟨"x", .name "Bitlist", "Bitlist", tag, 3⟩ r =
      (.error .digitLimit, r)) :
    Resolution.run { units := [boundedUnit tag] } (resolve "A") =
      (.error .digitLimit, halfway tag) := by
  rw [run_resolve, resolveWith, lookUp_first, expand, Stateful.run_get_bind, Stateful.run_bind,
    reserve_eq]
  dsimp only
  rw [Stateful.run_bind, Stateful.run_tryCatch, List.mapM_cons, Stateful.run_bind, h]
  rfl

theorem resolve_second (tag : String) : ((halfway tag).run (resolve "B")).1 = .ok 1 := by
  have hfield (record : String → Step NodeId) (d : RecordDecl) (r : Resolution) :
      field record d ⟨"n", .name "uint64", "uint64", "", 6⟩ r = (.ok ⟨"n", r.arena.size, 6⟩,
        { r with arena := (r.arena.add { kind := .uint, width := some 8 }).1 }) := rfl
  rw [run_resolve, resolveWith, lookUp_second, expand, Stateful.run_get_bind, Stateful.run_bind,
    reserve_eq]
  dsimp only
  rw [Stateful.run_bind, Stateful.run_tryCatch, List.mapM_cons, Stateful.run_bind, hfield]
  rfl

/-- The other record is sound. -/
theorem not_doomed_second (tag : String) : ¬Doomed [boundedUnit tag] "B" := by
  have hd : declared? [boundedUnit tag] "B" =
      some ⟨"B", [⟨"n", .name "uint64", "uint64", "", 6⟩], "types.py", 5⟩ := by
    simp [declared?, SszSchema.declarations, boundedUnit]
  have hplain : (TypeExpr.name "uint64").record? = none := by decide
  have hmentions (y : String) : ¬Mentions [boundedUnit tag] "B" y := by
    rintro ⟨d, hd', f, hf, hy⟩
    obtain rfl := Option.some.inj (hd.symm.trans hd')
    obtain rfl := List.mem_singleton.mp hf
    cases hplain.symm.trans hy
  refine not_doomed_iff.mpr fun x hreach => ?_
  obtain rfl | ⟨y, hy, -⟩ := hreach.cases_head
  · refine ⟨_, hd, fun f hf => ?_⟩
    obtain rfl := List.mem_singleton.mp hf
    refine ⟨by decide +kernel, fun y hy => ?_⟩
    cases hplain.symm.trans hy
  · exact absurd hy (hmentions y)

/-- A number that is too long leaves its record open. From then on the node that was reserved for
the record is returned without its field, and the other record, which is sound, gets a node but is
not registered. -/
theorem not_recovers_overlong :
    Resolution.ofUnits [boundedUnit overlongTag] = .ok { units := [boundedUnit overlongTag] } ∧
      ¬Recovers [boundedUnit overlongTag] { units := [boundedUnit overlongTag] } "A" ∧
      ¬Doomed [boundedUnit overlongTag] "B" ∧
      Resolution.run { units := [boundedUnit overlongTag] } (resolve "A") =
        (.error .digitLimit, halfway overlongTag) ∧
      ((halfway overlongTag).run (resolve "A")).1 = .ok 0 ∧
      ((halfway overlongTag).run (resolve "B")).1 = .ok 1 ∧
      ((halfway overlongTag).run (resolve "B")).2.registry.get? "B" = none := by
  have hstart (tag : String) :
      Resolution.ofUnits [boundedUnit tag] = .ok { units := [boundedUnit tag] } :=
    ofUnits_eq_ok (by simp [SszSchema.declarations, boundedUnit, duplicate?])
  have hfirst := resolve_first field_overlong
  have hagain (tag : String) : ((halfway tag).run (resolve "A")).1 = .ok 0 := by
    rw [run_resolve, resolveWith, lookUp, Stateful.run_get_bind]
    rfl
  have hsound : (halfway overlongTag).Sound := by
    have h := (resolve_concludes (.ofUnits (hstart overlongTag)) "A").1
    rwa [hfirst] at h
  obtain ⟨-, hregistry, -⟩ := hsound.resolve_stuck (List.cons_ne_nil _ _) "B"
  refine ⟨hstart _, fun hrecovers => ?_, not_doomed_second _, hfirst, hagain _,
    resolve_second _, ?_⟩
  · obtain ⟨d, hd, -⟩ := hrecovers.answers .digitLimit (by rw [hfirst])
    cases hd
  · rw [hregistry]
    rfl

end Resolution

end SszSchema
