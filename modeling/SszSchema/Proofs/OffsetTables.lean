import Mathlib.Data.List.Chain
import SszSchema.Proofs.Decoding

/-!
# Offset tables

The elements of a sequence lie between the offsets of its table. `spans_eq_ok_iff_inOrder` says
which tables are accepted (`InOrder`), and `Tiles` what the spans between their offsets are: they
follow each other from the end of the table up to the end of the bytes. A count that is read from
the bytes fits the first offset (`dynamicCount_eq_ok`).
-/

namespace SszSchema.Offsets

open Outcome

/-- The offsets of a table. -/
def entries (span : List UInt8) (count : Nat) : List Nat := (List.range count).map (entry span)

/-- The table is whole, its first offset points behind it, no offset lies behind a later one, and
the last one lies within the bytes. -/
structure InOrder (span : List UInt8) (count : Nat) : Prop where
  whole : offsetBytes * count ≤ span.length
  first : ∀ n ∈ (entries span count).head?, n = offsetBytes * count
  ascending : (entries span count).Pairwise (· ≤ ·)
  last : ∀ n ∈ (entries span count).getLast?, n ≤ span.length

/-- Spans follow each other from a position up to the end of the bytes. -/
structure Tiles (span : List UInt8) (start : Nat) (ss : List (Nat × Nat)) : Prop where
  within : ∀ s ∈ ss, s.1 ≤ s.2 ∧ s.2 ≤ span.length
  adjacent : ss.IsChain fun s t => s.2 = t.1
  first : ∀ s ∈ ss.head?, s.1 = start
  last : ∀ s ∈ ss.getLast?, s.2 = span.length
  flatten : (ss.map fun s => Bytes.slice span s.1 s.2).flatten = span.drop start

/-! ## Accepted tables -/

theorem ascending_iff {ns : List Nat} {stop : Nat} :
    Part.Ascending stop ns ↔ ns.Pairwise (· ≤ ·) ∧ ∀ n ∈ ns.getLast?, n ≤ stop := by
  rw [← List.isChain_iff_pairwise]
  induction ns with
  | nil => simp [Part.Ascending]
  | cons n rest ih =>
    rw [Part.Ascending, ih]
    cases rest with
    | nil => simp
    | cons m rest => simp [List.isChain_cons_cons, and_assoc]

theorem spans_eq_ok_iff_ascending {span : List UInt8} {count : Nat} {ss : List (Nat × Nat)} :
    spans span count = .ok ss ↔ offsetBytes * count ≤ span.length ∧
      (count ≠ 0 → entry span 0 = offsetBytes * count) ∧
      Part.Ascending span.length (entries span count) ∧
      bodySpans span.length (entries span count) = ss := by
  rw [← between_eq_ok_iff, spans]
  by_cases hwhole : span.length < offsetBytes * count
  · rw [if_pos hwhole]
    exact iff_of_false (by simp) fun h => Nat.not_le_of_gt hwhole h.1
  rw [if_neg hwhole]
  by_cases hfirst : count ≠ 0 → entry span 0 = offsetBytes * count
  · have hcond : (count ≠ 0 && entry span 0 ≠ offsetBytes * count) = false := by
      simpa [or_iff_not_imp_left] using hfirst
    rw [hcond, if_neg Bool.false_ne_true]
    exact ⟨fun h => ⟨Nat.le_of_not_gt hwhole, hfirst, h⟩, fun h => h.2.2⟩
  · have hcond : (count ≠ 0 && entry span 0 ≠ offsetBytes * count) = true := by simpa using hfirst
    rw [hcond, if_pos rfl]
    exact iff_of_false (by simp) fun h => hfirst h.2.1

theorem head?_entries {span : List UInt8} {count : Nat} (h : count ≠ 0) :
    (entries span count).head? = some (entry span 0) := by
  cases count with
  | zero => exact absurd rfl h
  | succ count => simp [entries, List.range_succ_eq_map]

theorem spans_eq_ok_iff_inOrder {span : List UInt8} {count : Nat} {ss : List (Nat × Nat)} :
    spans span count = .ok ss ↔
      InOrder span count ∧ bodySpans span.length (entries span count) = ss := by
  have hfirst : (count ≠ 0 → entry span 0 = offsetBytes * count) ↔
      ∀ n ∈ (entries span count).head?, n = offsetBytes * count := by
    by_cases hcount : count = 0
    · simp [hcount, entries]
    · simp [head?_entries hcount, hcount]
  rw [spans_eq_ok_iff_ascending, ascending_iff, hfirst]
  constructor
  · rintro ⟨hwhole, hfirst, ⟨hascending, hlast⟩, rfl⟩
    exact ⟨⟨hwhole, hfirst, hascending, hlast⟩, rfl⟩
  · rintro ⟨⟨hwhole, hfirst, hascending, hlast⟩, rfl⟩
    exact ⟨hwhole, hfirst, ⟨hascending, hlast⟩, rfl⟩

/-! ## Spans between offsets -/

theorem length_bodySpans (stop : Nat) (ns : List Nat) : (bodySpans stop ns).length = ns.length := by
  induction ns with
  | nil => rfl
  | cons n rest ih => simp [bodySpans, ih]

theorem tiles_bodySpans {span : List UInt8} {ns : List Nat}
    (h : Part.Ascending span.length ns) :
    Tiles span (ns.headD span.length) (bodySpans span.length ns) := by
  induction ns with
  | nil => exact ⟨nofun, .nil, nofun, nofun, by simp [bodySpans]⟩
  | cons n rest ih =>
    obtain ⟨hle, hrest⟩ := h
    have htiles := ih hrest
    refine ⟨?_, ?_, ?_, ?_, ?_⟩
    · exact List.forall_mem_cons.mpr ⟨⟨hle, hrest.headD_le⟩, htiles.within⟩
    · exact htiles.adjacent.cons fun s hs => (htiles.first s hs).symm
    · rintro s ⟨⟩
      rfl
    · cases rest with
      | nil => simp [bodySpans]
      | cons m rest => simpa [bodySpans] using htiles.last
    · rw [bodySpans, List.map_cons, List.flatten_cons, htiles.flatten, List.headD_cons,
        ← Bytes.slice_length, ← Bytes.slice_length,
        Bytes.slice_append_slice _ hle hrest.headD_le]

/-! ## Counts -/

/-- A count that is read is within the limit, and it is what the first offset tells. -/
theorem dynamicCount_eq_ok {span : List UInt8} {limit count : Nat}
    (h : dynamicCount span limit = .ok count) :
    count ≤ limit ∧ (count = 0 ↔ span = []) ∧
      (count ≠ 0 → entry span 0 = offsetBytes * count) := by
  obtain ⟨hlimit, hempty⟩ := dynamicCount_of_eq_ok h
  refine ⟨hlimit, ⟨fun hzero => hempty.resolve_left (not_not_intro hzero), ?_⟩, fun hne => ?_⟩
  · rintro rfl
    exact (Except.ok.inj h).symm
  · have hspan : span.isEmpty = false := by
      cases span with
      | nil => exact absurd (Except.ok.inj h).symm hne
      | cons b rest => rfl
    rw [dynamicCount, hspan, if_neg Bool.false_ne_true] at h
    split at h
    · cases h
    dsimp only at h
    split at h
    · cases h
    case isFalse hfirst =>
      split at h
      · cases h
      have hmod : Bytes.toNat (Bytes.slice span 0 offsetBytes) % offsetBytes = 0 := by
        simpa using (Bool.or_eq_false_iff.mp (Bool.eq_false_iff.mpr hfirst)).2
      rw [← Except.ok.inj h, Nat.mul_div_cancel' (Nat.dvd_of_mod_eq_zero hmod)]
      rfl

/-- The error of a first offset that does not point behind the table. -/
def wrongFirst (found expected : String) : Fault :=
  .raised .offset ("first offset " ++ found ++ " != " ++ expected)

/-- The other errors of a table begin with another letter. -/
theorem wrongFirst_ne {detail : String} (h : detail.toList.head? = some 'o')
    (found expected : String) : Fault.raised .offset detail ≠ wrongFirst found expected := by
  rintro hdetail
  obtain ⟨-, rfl⟩ := Fault.raised.inj hdetail
  simp at h

theorem between_eq_error {ns : List Nat} {e : Fault} (h : between ns = .error e) :
    ∃ n : Nat, e = .raised .offset ("offset " ++ toString n ++ " out of order") := by
  fun_induction between ns with
  | case1 start stop rest => exact ⟨start, (Except.error.inj h).symm⟩
  | case2 start stop rest _ ih =>
    cases hrest : between (stop :: rest) with
    | error e' =>
      rw [hrest] at h ih
      exact ih h
    | ok ss =>
      rw [hrest] at h
      cases h
  | case3 => cases h

/-- A table whose first offset points behind it is not refused for that offset. -/
theorem spans_ne_wrongFirst {span : List UInt8} {count : Nat}
    (h : count ≠ 0 → entry span 0 = offsetBytes * count) (found expected : String) :
    spans span count ≠ .error (wrongFirst found expected) := by
  have hcond : (count ≠ 0 && entry span 0 ≠ offsetBytes * count) = false := by
    simpa [or_iff_not_imp_left] using h
  rw [spans, hcond, if_neg Bool.false_ne_true]
  split
  · exact fun herror => wrongFirst_ne (by simp) _ _ (Except.error.inj herror)
  · intro hbetween
    obtain ⟨n, hn⟩ := between_eq_error hbetween
    exact wrongFirst_ne (by simp) _ _ hn.symm

/-- **Offset tables.** A table is accepted just if it is in order, and then the spans between its
offsets tile the bytes behind it. The count that a list's first offset tells is within the limit, is
zero just for no bytes, and fits the table that it stands in. -/
theorem spans_tile (span : List UInt8) (count limit : Nat) :
    ((spans span count).isOk = true ↔ InOrder span count) ∧
    (∀ ss, spans span count = .ok ss → count ≠ 0 →
      ss.length = count ∧ Tiles span (offsetBytes * count) ss) ∧
    (∀ n, dynamicCount span limit = .ok n → n ≤ limit ∧ (n = 0 ↔ span = []) ∧
      (n ≠ 0 → entry span 0 = offsetBytes * n) ∧
      ∀ found expected, spans span n ≠ .error (wrongFirst found expected)) := by
  refine ⟨⟨fun h => ?_, fun h => ?_⟩, fun ss h hne => ?_, fun n h => ?_⟩
  · obtain ⟨ss, hss⟩ := exists_eq_ok h
    exact (spans_eq_ok_iff_inOrder.mp hss).1
  · rw [spans_eq_ok_iff_inOrder.mpr ⟨h, rfl⟩]
    rfl
  · obtain ⟨-, hfirst, hascending, rfl⟩ := spans_eq_ok_iff_ascending.mp h
    refine ⟨by rw [length_bodySpans, entries, List.length_map, List.length_range], ?_⟩
    have htiles := tiles_bodySpans hascending
    rwa [List.headD_eq_head?_getD, head?_entries hne, Option.getD_some, hfirst hne] at htiles
  · obtain ⟨hlimit, hzero, hfirst⟩ := dynamicCount_eq_ok h
    exact ⟨hlimit, hzero, hfirst, spans_ne_wrongFirst hfirst⟩

/-- Two elements, the first of which has no bytes. -/
theorem spans_tile_pair :
    dynamicCount [8, 0, 0, 0, 8, 0, 0, 0, 7] 2 = .ok 2 ∧
    InOrder [8, 0, 0, 0, 8, 0, 0, 0, 7] 2 ∧
    spans [8, 0, 0, 0, 8, 0, 0, 0, 7] 2 = .ok [(8, 8), (8, 9)] ∧
    Tiles [8, 0, 0, 0, 8, 0, 0, 0, 7] 8 [(8, 8), (8, 9)] := by
  obtain ⟨horder, htiles, -⟩ := spans_tile [8, 0, 0, 0, 8, 0, 0, 0, 7] 2 2
  have hspans : spans [8, 0, 0, 0, 8, 0, 0, 0, 7] 2 = .ok [(8, 8), (8, 9)] := by decide +kernel
  refine ⟨by decide +kernel, horder.mp ?_, hspans, (htiles _ hspans (by decide)).2⟩
  rw [hspans]
  rfl

end SszSchema.Offsets
