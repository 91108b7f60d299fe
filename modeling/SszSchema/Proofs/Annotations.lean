import Mathlib.Data.List.Basic
import Mathlib.Data.List.TakeWhile
import Mathlib.Tactic.Common
import SszSchema.TagList

/-!
# The grammar of annotations

How annotations are written (`TagList.Spells`): pairs of a key and a quoted value, each with any
white space before it, and white space behind the last one. Pairs need nothing between them, since
each ends with its own closing quote, so a text can be written in one way only, and the pairs at its
beginning are known without what follows (`TagList.prefix_of_append_eq`).

Main statement: an annotation is read just if it is written so, and what is read are the first pairs
of the keys; if it is not, the fault is placed behind the longest beginning that is
(`TagList.parse_spelled`).
-/

namespace SszSchema.TagList

/-! ## Keys and values -/

/-- A key: no white space, no colon and no quotation mark. -/
def IsKey (key : List Char) : Prop :=
  key ≠ [] ∧ ∀ c ∈ key, Text.isBlank c = false ∧ c ≠ ':' ∧ c ≠ '"'

/-- A value: a quotation mark or a backslash stands behind a backslash only, and a line feed does
not. -/
inductive IsValue : List Char → Prop
  | nil : IsValue []
  | plain {c : Char} {cs : List Char} (hquote : c ≠ '"') (hslash : c ≠ '\\') (h : IsValue cs) :
      IsValue (c :: cs)
  | escaped {c : Char} {cs : List Char} (hc : c ≠ '\n') (h : IsValue cs) :
      IsValue ('\\' :: c :: cs)

variable {cs rest key value : List Char}

theorem isKey_iff : IsKey key ↔ key ≠ [] ∧ key.all isKeyChar = true := by
  simp [IsKey, isKeyChar, and_assoc]

theorem readValue_append (h : IsValue value) (rest : List Char) :
    readValue (value ++ '"' :: rest) = some (value, rest) := by
  induction h with
  | nil => rfl
  | plain hquote hslash _ ih =>
    rw [List.cons_append, readValue, ih]
    · rfl
    · exact hquote
    · exact fun h => absurd h hslash
    · exact fun _ _ h => absurd h hslash
  | escaped hc _ ih =>
    rw [List.cons_append, List.cons_append, readValue, if_neg hc, ih]
    rfl

/-- A value is read up to the first quotation mark that no backslash takes with it. -/
theorem readValue_eq_some_iff :
    readValue cs = some (value, rest) ↔ IsValue value ∧ cs = value ++ '"' :: rest := by
  constructor
  · intro h
    fun_induction readValue cs generalizing value with
    | case1 => cases h
    | case2 rest' =>
      cases h
      exact ⟨.nil, rfl⟩
    | case3 => cases h
    | case4 => cases h
    | case5 c cs hc ih =>
      obtain ⟨⟨value', rest'⟩, hread, heq⟩ := Option.map_eq_some_iff.mp h
      obtain ⟨rfl, rfl⟩ := Prod.mk.inj heq
      obtain ⟨hvalue, rfl⟩ := ih hread
      exact ⟨.escaped hc hvalue, rfl⟩
    | case6 c cs hquote hslash hslash' ih =>
      obtain ⟨⟨value', rest'⟩, hread, heq⟩ := Option.map_eq_some_iff.mp h
      obtain ⟨rfl, rfl⟩ := Prod.mk.inj heq
      obtain ⟨hvalue, rfl⟩ := ih hread
      have hplain : c ≠ '\\' := by
        rintro rfl
        cases value' with
        | nil => exact hslash' _ _ rfl rfl
        | cons _ _ => exact hslash' _ _ rfl rfl
      exact ⟨.plain hquote hplain hvalue, rfl⟩
  · rintro ⟨h, rfl⟩
    exact readValue_append h rest

/-- A pair is read if a key, a colon and a quoted value stand at the beginning. -/
theorem readPair_eq_some_iff : readPair cs = some ((key, value), rest) ↔
    IsKey key ∧ IsValue value ∧ cs = key ++ ':' :: '"' :: (value ++ '"' :: rest) := by
  constructor
  · intro h
    unfold readPair at h
    split at h
    · cases h
    · case h_2 hdrop hne =>
      obtain ⟨⟨value', rest'⟩, hread, heq⟩ := Option.map_eq_some_iff.mp h
      obtain ⟨hpair, rfl⟩ := Prod.mk.inj heq
      obtain ⟨rfl, rfl⟩ := Prod.mk.inj hpair
      obtain ⟨hvalue, rfl⟩ := readValue_eq_some_iff.mp hread
      refine ⟨isKey_iff.mpr ⟨hne, List.all_eq_true.mpr fun c hc => ?_⟩, hvalue, ?_⟩
      · exact List.mem_takeWhile_imp hc
      · rw [← hdrop, List.takeWhile_append_dropWhile]
    · cases h
  · rintro ⟨hkey, hvalue, rfl⟩
    obtain ⟨hne, hall⟩ := isKey_iff.mp hkey
    rw [List.all_eq_true] at hall
    have hcolon : isKeyChar ':' = false := by decide
    have htake : (key ++ ':' :: '"' :: (value ++ '"' :: rest)).takeWhile isKeyChar = key := by
      rw [List.takeWhile_append_of_pos hall, List.takeWhile_cons_of_neg (by simp [hcolon]),
        List.append_nil]
    have hdrop : (key ++ ':' :: '"' :: (value ++ '"' :: rest)).dropWhile isKeyChar =
        ':' :: '"' :: (value ++ '"' :: rest) := by
      rw [List.dropWhile_append_of_pos hall, List.dropWhile_cons_of_neg (by simp [hcolon])]
    rw [readPair, htake, hdrop]
    simp [readValue_append hvalue]

/-! ## Written pairs -/

/-- A pair as it is written, with the white space before it. -/
structure WrittenPair where
  blank : List Char
  key : List Char
  value : List Char

namespace WrittenPair

/-- The key and the value. -/
def entry (p : WrittenPair) : List Char × List Char := (p.key, p.value)

/-- The text of a pair. -/
def text (p : WrittenPair) : List Char := p.blank ++ (p.key ++ ':' :: '"' :: (p.value ++ ['"']))

/-- White space, a key and a value. -/
structure Valid (p : WrittenPair) : Prop where
  blank : ∀ c ∈ p.blank, Text.isBlank c = true
  key : IsKey p.key
  value : IsValue p.value

end WrittenPair

/-- The text of pairs one after the other. -/
def pairsText : List WrittenPair → List Char
  | [] => []
  | p :: ps => p.text ++ pairsText ps

theorem pairsText_append (ps qs : List WrittenPair) :
    pairsText (ps ++ qs) = pairsText ps ++ pairsText qs := by
  induction ps with
  | nil => rfl
  | cons p ps ih => rw [List.cons_append, pairsText, pairsText, ih, List.append_assoc]

/-- A text is written as pairs and white space behind them. -/
structure Spells (text : List Char) (ps : List WrittenPair) (blank : List Char) : Prop where
  eq : text = pairsText ps ++ blank
  valid : ∀ p ∈ ps, p.Valid
  blank : ∀ c ∈ blank, Text.isBlank c = true

variable {p q : WrittenPair} {ps qs : List WrittenPair} {text blank : List Char}

theorem dropWhile_blank (h : ∀ c ∈ blank, Text.isBlank c = true) (cs : List Char) :
    (blank ++ cs).dropWhile Text.isBlank = cs.dropWhile Text.isBlank :=
  List.dropWhile_append_of_pos h

/-- A key begins with no white space. -/
theorem IsKey.dropWhile_blank (h : IsKey key) (cs : List Char) :
    (key ++ cs).takeWhile Text.isBlank = [] ∧ (key ++ cs).dropWhile Text.isBlank = key ++ cs := by
  obtain ⟨hne, hkey⟩ := h
  obtain ⟨c, key, rfl⟩ := List.exists_cons_of_ne_nil hne
  have hc := (hkey c List.mem_cons_self).1
  simp [hc]

theorem WrittenPair.Valid.text_append (h : p.Valid) (cs : List Char) :
    (p.text ++ cs).takeWhile Text.isBlank = p.blank ∧
      (p.text ++ cs).dropWhile Text.isBlank =
        p.key ++ ':' :: '"' :: (p.value ++ '"' :: cs) := by
  have htext : p.text ++ cs = p.blank ++ (p.key ++ ':' :: '"' :: (p.value ++ '"' :: cs)) := by
    simp [text]
  obtain ⟨htake, hdrop⟩ := h.key.dropWhile_blank (':' :: '"' :: (p.value ++ '"' :: cs))
  rw [htext, List.takeWhile_append_of_pos h.blank, htake, List.append_nil,
    TagList.dropWhile_blank h.blank, hdrop]
  exact ⟨rfl, rfl⟩

/-- A written pair is read behind its white space, whatever follows it. -/
theorem WrittenPair.Valid.readPair_text (h : p.Valid) (cs : List Char) :
    readPair ((p.text ++ cs).dropWhile Text.isBlank) = some (p.entry, cs) :=
  readPair_eq_some_iff.mpr ⟨h.key, h.value, (h.text_append cs).2⟩

/-- The first pair of a text is known, and so is what follows it. -/
theorem WrittenPair.Valid.of_append_eq (hp : p.Valid) (hq : q.Valid) {cs cs' : List Char}
    (h : p.text ++ cs = q.text ++ cs') : p = q ∧ cs = cs' := by
  have hblank : p.blank = q.blank := by
    rw [← (hp.text_append cs).1, h, (hq.text_append cs').1]
  have hread := hp.readPair_text cs
  rw [h, hq.readPair_text cs'] at hread
  obtain ⟨hentry, hrest⟩ := Prod.mk.inj (Option.some.inj hread)
  obtain ⟨hkey, hvalue⟩ := Prod.mk.inj hentry
  obtain ⟨blank, key, value⟩ := p
  obtain ⟨blank', key', value'⟩ := q
  cases hblank
  cases hkey
  cases hvalue
  exact ⟨rfl, hrest.symm⟩

/-- Of the pairs at the beginning of a text, more and fewer agree. -/
theorem prefix_of_append_eq (hps : ∀ p ∈ ps, p.Valid) (hqs : ∀ q ∈ qs, q.Valid)
    {cs cs' : List Char} (h : pairsText ps ++ cs = pairsText qs ++ cs') :
    (∃ more, qs = ps ++ more ∧ cs = pairsText more ++ cs') ∨
      ∃ more, ps = qs ++ more ∧ cs' = pairsText more ++ cs := by
  induction ps generalizing qs with
  | nil => exact .inl ⟨qs, rfl, h⟩
  | cons p ps ih =>
    cases qs with
    | nil => exact .inr ⟨p :: ps, rfl, h.symm⟩
    | cons q qs =>
      obtain ⟨hp, hps'⟩ := List.forall_mem_cons.mp hps
      obtain ⟨hq, hqs'⟩ := List.forall_mem_cons.mp hqs
      simp only [pairsText, List.append_assoc] at h
      obtain ⟨rfl, hrest⟩ := hp.of_append_eq hq h
      rcases ih hps' hqs' hrest with ⟨more, rfl, hmore⟩ | ⟨more, rfl, hmore⟩
      · exact .inl ⟨more, rfl, hmore⟩
      · exact .inr ⟨more, rfl, hmore⟩

/-- A pair is not white space. -/
theorem WrittenPair.Valid.dropWhile_ne_nil (h : p.Valid) (cs : List Char) :
    (p.text ++ cs).dropWhile Text.isBlank ≠ [] := by
  rw [(h.text_append cs).2]
  exact List.append_ne_nil_of_left_ne_nil h.key.1 _

theorem dropWhile_blank_eq_nil (h : ∀ c ∈ blank, Text.isBlank c = true) :
    blank.dropWhile Text.isBlank = [] :=
  List.dropWhile_eq_nil_iff.mpr h

/-- A text is written in one way. -/
theorem Spells.unique {blank' : List Char} (h : Spells text ps blank) (h' : Spells text qs blank') :
    ps = qs ∧ blank = blank' := by
  have hnone {more : List WrittenPair} {blank blank' : List Char} (hmore : ∀ p ∈ more, p.Valid)
      (hblank : ∀ c ∈ blank, Text.isBlank c = true) (h : blank = pairsText more ++ blank') :
      more = [] := by
    cases more with
    | nil => rfl
    | cons p more =>
      have hp := (List.forall_mem_cons.mp hmore).1
      have hnil := dropWhile_blank_eq_nil hblank
      rw [h, pairsText, List.append_assoc] at hnil
      exact absurd hnil (hp.dropWhile_ne_nil _)
  rcases prefix_of_append_eq h.valid h'.valid (h.eq.symm.trans h'.eq) with
    ⟨more, rfl, hmore⟩ | ⟨more, rfl, hmore⟩
  · obtain rfl := hnone (fun p hp => h'.valid p (List.mem_append_right _ hp)) h.blank hmore
    exact ⟨(List.append_nil ps).symm, hmore⟩
  · obtain rfl := hnone (fun p hp => h.valid p (List.mem_append_right _ hp)) h'.blank hmore
    exact ⟨List.append_nil qs, hmore.symm⟩

/-! ## Reading pairs -/

/-- What is left of a text when no more pairs can be read from it: something that is not white
space, and no pair. -/
def Stuck (rest : List Char) : Prop :=
  rest.dropWhile Text.isBlank ≠ [] ∧ readPair (rest.dropWhile Text.isBlank) = none

/-- Pairs are read as long as there are any. Then nothing but white space is left, or the fault is
placed where no pair begins. -/
theorem readPairs_cases (length : Nat) {fuel : Nat} (hfuel : cs.length < fuel) :
    ∃ ps rest, cs = pairsText ps ++ rest ∧ (∀ p ∈ ps, p.Valid) ∧
      ((∀ c ∈ rest, Text.isBlank c = true) ∧
          readPairs length fuel cs = .ok (ps.map (·.entry)) ∨
        Stuck rest ∧ readPairs length fuel cs =
          .error (.notPairs (length - (rest.dropWhile Text.isBlank).length))) := by
  induction fuel generalizing cs with
  | zero => omega
  | succ fuel ih =>
    unfold readPairs
    split
    · case h_1 hnil => exact ⟨[], cs, rfl, nofun, .inl ⟨List.dropWhile_eq_nil_iff.mp hnil, rfl⟩⟩
    · case h_2 rest hne =>
      cases hread : readPair (cs.dropWhile Text.isBlank) with
      | none => exact ⟨[], cs, rfl, nofun, .inr ⟨⟨hne, hread⟩, rfl⟩⟩
      | some found =>
        obtain ⟨⟨key, value⟩, rest⟩ := found
        obtain ⟨hkey, hvalue, hdrop⟩ := readPair_eq_some_iff.mp hread
        have hcs : cs = (WrittenPair.mk (cs.takeWhile Text.isBlank) key value).text ++ rest := by
          conv_lhs => rw [← List.takeWhile_append_dropWhile (p := Text.isBlank) (l := cs), hdrop]
          simp [WrittenPair.text]
        have hshort : rest.length < fuel := by
          have hlength := congrArg List.length hdrop
          have hle := (List.dropWhile_suffix Text.isBlank (l := cs)).length_le
          simp only [List.length_append, List.length_cons] at hlength
          omega
        obtain ⟨ps, rest', hrest, hps, h⟩ := ih hshort
        refine ⟨⟨cs.takeWhile Text.isBlank, key, value⟩ :: ps, rest', ?_, ?_, ?_⟩
        · rw [pairsText, List.append_assoc, ← hrest]
          exact hcs
        · exact List.forall_mem_cons.mpr ⟨⟨fun c hc => List.mem_takeWhile_imp hc, hkey, hvalue⟩, hps⟩
        · refine h.imp (.imp_right fun h => ?_) (.imp_right fun h => ?_) <;>
            dsimp only <;> rw [h] <;> rfl

/-! ## First pairs -/

/-- The pairs before which their keys do not stand, in order. -/
def firstPairs : List (List Char × List Char) → List (List Char × List Char)
  | [] => []
  | p :: ps => p :: (firstPairs ps).filter (·.1 != p.1)

theorem firstOfEach_eq (ps : List (List Char × List Char)) : firstOfEach ps = firstPairs ps := by
  have hfold (kept : List (List Char × List Char)) :
      (ps.foldl (fun kept p => if kept.any (·.1 == p.1) then kept else p :: kept) kept).reverse =
        kept.reverse ++ (firstPairs ps).filter fun p => !kept.any (·.1 == p.1) := by
    induction ps generalizing kept with
    | nil => simp [firstPairs]
    | cons p ps ih =>
      rw [List.foldl_cons, ih, firstPairs, List.filter_cons, List.filter_filter]
      by_cases hkept : kept.any (·.1 == p.1) = true
      · simp only [hkept, if_true, Bool.not_true, Bool.false_eq_true, if_false]
        refine congrArg (kept.reverse ++ ·) (List.filter_congr fun q _ => ?_)
        by_cases hq : q.1 = p.1
        · simp [hq, hkept]
        · simp [hq]
      · rw [Bool.not_eq_true] at hkept
        simp only [hkept, Bool.false_eq_true, if_false, Bool.not_false, if_true,
          List.reverse_cons, List.append_assoc, List.singleton_append]
        refine congrArg (kept.reverse ++ p :: ·) (List.filter_congr fun q _ => ?_)
        simp [Bool.and_comm, bne, BEq.comm]
  simpa [firstOfEach] using hfold []

/-- The first pair with a key is kept. -/
theorem find?_firstPairs (ps : List (List Char × List Char)) (key : List Char) :
    (firstPairs ps).find? (·.1 == key) = ps.find? (·.1 == key) := by
  induction ps with
  | nil => rfl
  | cons p ps ih =>
    rw [firstPairs, List.find?_cons, List.find?_cons, List.find?_filter]
    cases hp : p.1 == key with
    | true => rfl
    | false =>
      rw [← ih]
      refine congrArg (List.find? · _) (funext fun q => ?_)
      by_cases hq : q.1 = p.1
      · simp [hq, hp]
      · simp [hq, beq_eq_decide]

/-- Keys and values as strings. -/
def stringsOf (ps : List (List Char × List Char)) : List (String × String) :=
  ps.map fun p => (String.ofList p.1, String.ofList p.2)

theorem find?_stringsOf (ps : List (List Char × List Char)) (key : String) :
    (stringsOf ps).find? (·.1 == key) =
      (ps.find? (·.1 == key.toList)).map fun p => (String.ofList p.1, String.ofList p.2) := by
  have hkey (p : List Char × List Char) :
      (String.ofList p.1 == key) = (p.1 == key.toList) := by
    rw [beq_eq_decide, beq_eq_decide, decide_eq_decide]
    exact ⟨fun h => by rw [← h, String.toList_ofList], fun h => by rw [h, String.ofList_toList]⟩
  rw [stringsOf, List.find?_map]
  exact congrArg (fun q => Option.map _ (ps.find? q)) (funext hkey)

/-! ## Annotations -/

/-- What the annotation is whose text has some pairs. -/
def ofPairs (raw : String) (ps : List WrittenPair) : TagList :=
  ⟨raw, stringsOf (firstPairs (ps.map (·.entry)))⟩

/-- An annotation has the value of the first pair with a key. -/
theorem get?_ofPairs (raw : String) (ps : List WrittenPair) (key : String) :
    (ofPairs raw ps).get? key =
      (ps.find? (·.key == key.toList)).map fun p => String.ofList p.value := by
  rw [get?, ofPairs, find?_stringsOf, find?_firstPairs, List.find?_map]
  cases h : ps.find? ((·.1 == key.toList) ∘ WrittenPair.entry) <;>
    rw [show ps.find? (·.key == key.toList) = _ from h] <;> rfl

/-- Either the text is written as pairs, which are read, or it is not, and reading stops behind its
first pairs. -/
theorem parse_cases (raw : String) :
    (∃ ps blank, Spells (core raw.toList) ps blank ∧ parse raw = .ok (ofPairs raw ps)) ∨
    ∃ ps rest, core raw.toList = pairsText ps ++ rest ∧ (∀ p ∈ ps, p.Valid) ∧ Stuck rest ∧
      parse raw =
        .error (.notPairs ((pairsText ps).length + (rest.takeWhile Text.isBlank).length)) := by
  obtain ⟨ps, rest, htext, hps, ⟨hblank, hread⟩ | ⟨hstuck, hread⟩⟩ :=
    readPairs_cases (core raw.toList).length (Nat.lt_succ_self (core raw.toList).length)
  · refine .inl ⟨ps, rest, ⟨htext, hps, hblank⟩, ?_⟩
    rw [parse, hread, ofPairs, ← firstOfEach_eq]
    rfl
  · refine .inr ⟨ps, rest, htext, hps, hstuck, ?_⟩
    have hoffset : (core raw.toList).length - (rest.dropWhile Text.isBlank).length =
        (pairsText ps).length + (rest.takeWhile Text.isBlank).length := by
      have hrest := congrArg List.length
        (List.takeWhile_append_dropWhile (p := Text.isBlank) (l := rest))
      rw [List.length_append] at hrest
      rw [htext, List.length_append]
      omega
    rw [parse, hread, hoffset]
    rfl

/-- Behind what no pair begins, there are no more pairs. -/
theorem Stuck.prefix_of_append_eq (hstuck : Stuck rest) (hps : ∀ p ∈ ps, p.Valid)
    (hqs : ∀ q ∈ qs, q.Valid) {rest' : List Char}
    (h : pairsText ps ++ rest = pairsText qs ++ rest') :
    ∃ more, ps = qs ++ more ∧ rest' = pairsText more ++ rest := by
  rcases TagList.prefix_of_append_eq hps hqs h with ⟨more, rfl, hmore⟩ | hfewer
  · cases more with
    | nil => exact ⟨[], by simp, hmore.symm⟩
    | cons p more =>
      have hp := hqs p (List.mem_append_right _ List.mem_cons_self)
      have hread := hp.readPair_text (pairsText more ++ rest')
      rw [pairsText, List.append_assoc] at hmore
      rw [← hmore, hstuck.2] at hread
      cases hread
  · exact hfewer

/-- A text with something behind its first pairs that begins no other is not written as pairs. -/
theorem Stuck.not_spells (hstuck : Stuck rest) (hps : ∀ p ∈ ps, p.Valid)
    (h : Spells (pairsText ps ++ rest) qs blank) : False := by
  obtain ⟨more, rfl, hblank⟩ := hstuck.prefix_of_append_eq hps h.valid h.eq
  have hrest : ∀ c ∈ rest, Text.isBlank c = true := fun c hc =>
    h.blank c (hblank ▸ List.mem_append_right _ hc)
  exact hstuck.1 (dropWhile_blank_eq_nil hrest)

/-- What is written as pairs is read. -/
theorem Spells.parse_eq {raw : String} (h : Spells (TagList.core raw.toList) ps blank) :
    parse raw = .ok (ofPairs raw ps) := by
  obtain ⟨qs, blank', hqs, hparse⟩ | ⟨qs, rest, htext, hqs, hstuck, -⟩ := parse_cases raw
  · obtain ⟨rfl, -⟩ := h.unique hqs
    exact hparse
  · rw [htext] at h
    exact (hstuck.not_spells hqs h).elim

/-- Pairs end with a quotation mark. -/
theorem exists_pairsText_eq (hne : ps ≠ []) : ∃ cs, pairsText ps = cs ++ ['"'] := by
  induction ps with
  | nil => exact absurd rfl hne
  | cons p ps ih =>
    cases ps with
    | nil => exact ⟨p.blank ++ (p.key ++ ':' :: '"' :: p.value), by simp [pairsText, WrittenPair.text]⟩
    | cons q qs =>
      obtain ⟨cs, hcs⟩ := ih (List.cons_ne_nil q qs)
      exact ⟨p.text ++ cs, by rw [pairsText, hcs, List.append_assoc]⟩

theorem dropEndWhile_append {f : Char → Bool} {c : Char} (hc : f c = false)
    (hblank : ∀ c ∈ blank, f c = true) (cs : List Char) :
    Text.dropEndWhile f (cs ++ [c] ++ blank) = cs ++ [c] := by
  have hall : ∀ c ∈ blank.reverse, f c = true := fun c h => hblank c (List.mem_reverse.mp h)
  rw [Text.dropEndWhile, List.reverse_append, List.dropWhile_append_of_pos hall]
  simp [hc]

/-- A written text without white space at its ends, if it does not begin with a back quote. -/
theorem Spells.core (h : Spells text ps blank)
    (hquote : ∀ p ∈ ps.head?, p.key.head? ≠ some '`') :
    ∃ qs, Spells (core text) qs [] ∧ qs.map (·.entry) = ps.map (·.entry) := by
  obtain ⟨rfl, hps, hblank⟩ := h
  cases ps with
  | nil =>
    refine ⟨[], ⟨?_, nofun, nofun⟩, rfl⟩
    rw [pairsText, List.nil_append, TagList.core, Text.stripWhile, Text.stripWhile,
      dropWhile_blank_eq_nil hblank]
    rfl
  | cons p ps =>
    obtain ⟨hp, hps'⟩ := List.forall_mem_cons.mp hps
    let first : WrittenPair := { p with blank := [] }
    have hvalid : ∀ q ∈ first :: ps, q.Valid :=
      List.forall_mem_cons.mpr ⟨⟨nofun, hp.key, hp.value⟩, hps'⟩
    have hcore : TagList.core (pairsText (p :: ps) ++ blank) = pairsText (first :: ps) := by
      obtain ⟨cs, hcs⟩ := exists_pairsText_eq (List.cons_ne_nil first ps)
      have hfirst : pairsText (p :: ps) = p.blank ++ (cs ++ ['"']) := by
        rw [← hcs]
        simp [pairsText, WrittenPair.text, first]
      -- The text begins with the first character of the first key.
      obtain ⟨c, key, hkey⟩ := List.exists_cons_of_ne_nil hp.key.1
      obtain ⟨more, hmore⟩ : ∃ more, cs ++ ['"'] = c :: more := by
        rw [← hcs]
        simp [pairsText, WrittenPair.text, first, hkey]
      have hc : Text.isBlank c = false := (hp.key.2 c (by simp [hkey])).1
      have hc' : c ≠ '`' := by simpa [hkey] using hquote
      rw [hfirst, TagList.core, Text.stripWhile, Text.stripWhile, List.append_assoc,
        dropWhile_blank hp.blank, hmore, List.cons_append, List.dropWhile_cons_of_neg (by simp [hc]),
        ← List.cons_append, ← hmore, dropEndWhile_append (by decide) hblank, hmore,
        List.dropWhile_cons_of_neg (by simp [hc']), ← hmore, hcs]
      have hend : Text.dropEndWhile (· = '`') (cs ++ ['"'] ++ []) = cs ++ ['"'] :=
        dropEndWhile_append (by decide) (List.forall_mem_nil _) cs
      rwa [List.append_nil] at hend
    refine ⟨first :: ps, ⟨?_, hvalid, nofun⟩, rfl⟩
    rw [hcore, List.append_nil]

/-- What reading an annotation comes to. -/
structure ReadsAsWritten (raw : String) : Prop where
  /-- The annotation is read just if its text is written as pairs. -/
  accepts : (parse raw).isOk = true ↔ ∃ ps blank, Spells (core raw.toList) ps blank
  /-- There is only one way to write a text as pairs. -/
  unique : ∀ ps blank qs blank', Spells (core raw.toList) ps blank →
    Spells (core raw.toList) qs blank' → ps = qs ∧ blank = blank'
  /-- The first pairs of the keys are read, in order, and a key has the value of its first pair. -/
  pairs : ∀ ps blank, Spells (core raw.toList) ps blank → ∃ a, parse raw = .ok a ∧
    a.raw = raw ∧ a.pairs = stringsOf (firstPairs (ps.map (·.entry))) ∧
    ∀ key, a.get? key = (ps.find? (·.key == key.toList)).map fun p => String.ofList p.value
  /-- So it is with a written text that is given as it is, if no back quote begins it. -/
  rendered : ∀ ps blank, Spells raw.toList ps blank →
    (∀ p ∈ ps.head?, p.key.head? ≠ some '`') →
    ∃ a, parse raw = .ok a ∧ a.pairs = stringsOf (firstPairs (ps.map (·.entry)))
  /-- A fault is placed at the first character that is not blank behind the longest beginning that
  is made of pairs. -/
  fault : ∀ f, parse raw = .error f → ∃ ps rest offset, core raw.toList = pairsText ps ++ rest ∧
    (∀ p ∈ ps, p.Valid) ∧
    (∀ qs rest', core raw.toList = pairsText qs ++ rest' → (∀ q ∈ qs, q.Valid) →
      (pairsText qs).length ≤ (pairsText ps).length) ∧
    offset = (pairsText ps).length + (rest.takeWhile Text.isBlank).length ∧
    (∃ c, (core raw.toList)[offset]? = some c ∧ Text.isBlank c = false) ∧
    f = .notPairs offset ∧ DataMap.get? (f.data raw) "at" = some (.int offset)

/-- Annotations are read just as they are written. -/
theorem parse_spelled (raw : String) : ReadsAsWritten raw where
  accepts := by
    obtain ⟨ps, blank, hps, hparse⟩ | ⟨ps, rest, htext, hps, hstuck, hparse⟩ := parse_cases raw
    · rw [hparse]
      exact iff_of_true rfl ⟨ps, blank, hps⟩
    · rw [hparse, htext]
      exact iff_of_false nofun fun ⟨_, _, h⟩ => hstuck.not_spells hps h
  unique _ _ _ _ h h' := h.unique h'
  pairs ps blank h := ⟨_, h.parse_eq, rfl, rfl, get?_ofPairs raw ps⟩
  rendered ps blank h hquote := by
    obtain ⟨qs, hqs, hentries⟩ := h.core hquote
    exact ⟨_, hqs.parse_eq, by rw [ofPairs, hentries]⟩
  fault f hf := by
    obtain ⟨ps, blank, -, hparse⟩ | ⟨ps, rest, htext, hps, hstuck, hparse⟩ := parse_cases raw
    · rw [hparse] at hf
      cases hf
    · rw [hparse] at hf
      cases hf
      refine ⟨ps, rest, _, htext, hps, fun qs rest' hqs hvalid => ?_, rfl, ?_, rfl, rfl⟩
      · obtain ⟨more, rfl, -⟩ := hstuck.prefix_of_append_eq hps hvalid (htext.symm.trans hqs)
        rw [pairsText_append, List.length_append]
        exact Nat.le_add_right _ _
      · obtain ⟨c, rest', hc⟩ := List.exists_cons_of_ne_nil hstuck.1
        refine ⟨c, ?_, ?_⟩
        · have hrest : (rest.takeWhile Text.isBlank ++ c :: rest')[
              (rest.takeWhile Text.isBlank).length]? = some c := by simp
          rw [← hc, List.takeWhile_append_dropWhile] at hrest
          rw [htext, List.getElem?_append_right (Nat.le_add_right _ _), Nat.add_sub_cancel_left,
            hrest]
        · simpa [hc] using List.head_dropWhile_not Text.isBlank hstuck.1

/-- Pairs that follow each other without white space, a quotation mark in a value, and a key that
stands twice. If the quotation mark loses its backslash, the fault is placed behind the pair that
it ends. -/
theorem reads_quoted :
    Spells (core "`ssz-max:\"4\"k:\"\\\"\" ssz-max:\"5\"` ".toList)
      [⟨[], "ssz-max".toList, ['4']⟩, ⟨[], ['k'], ['\\', '"']⟩,
        ⟨[' '], "ssz-max".toList, ['5']⟩] [] ∧
    (∃ a, parse "`ssz-max:\"4\"k:\"\\\"\" ssz-max:\"5\"` " = .ok a ∧
      a.pairs = [("ssz-max", "4"), ("k", "\\\"")] ∧ a.get? "ssz-max" = some "4") ∧
    parse "ssz-max:\"4\"k:\"\"\" ssz-max:\"5\"" = .error (.notPairs 15) := by
  have hspells : Spells (core "`ssz-max:\"4\"k:\"\\\"\" ssz-max:\"5\"` ".toList)
      [⟨[], "ssz-max".toList, ['4']⟩, ⟨[], ['k'], ['\\', '"']⟩,
        ⟨[' '], "ssz-max".toList, ['5']⟩] [] := by
    have hmax : IsKey "ssz-max".toList := isKey_iff.mpr (by decide +kernel)
    have hk : IsKey ['k'] := isKey_iff.mpr (by decide +kernel)
    have hfour : IsValue ['4'] := .plain (by decide) (by decide) .nil
    have hfive : IsValue ['5'] := .plain (by decide) (by decide) .nil
    have hquote : IsValue ['\\', '"'] := .escaped (by decide) .nil
    refine ⟨by decide +kernel, ?_, nofun⟩
    simp only [List.forall_mem_cons, List.not_mem_nil, false_imp_iff, implies_true, and_true]
    exact ⟨⟨nofun, hmax, hfour⟩, ⟨nofun, hk, hquote⟩, ⟨List.forall_mem_singleton.mpr rfl, hmax, hfive⟩⟩
  obtain ⟨a, hparse, -, hpairs, hget⟩ := (parse_spelled _).pairs _ _ hspells
  refine ⟨hspells, ⟨a, hparse, ?_, ?_⟩, by decide +kernel⟩
  · rw [hpairs]
    decide +kernel
  · rw [hget]
    decide +kernel

end SszSchema.TagList
