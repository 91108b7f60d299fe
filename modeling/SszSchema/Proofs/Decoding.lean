import Mathlib.Data.Finset.Card
import Mathlib.Data.Finset.Dedup
import SszSchema.Codec.Decoding
import SszSchema.Proofs.Compliance
import SszSchema.Proofs.Steps

/-!
# Decoders read serializations

A decoder accepts a span just if it is the serialization of a value, and returns that value
(`Decodes`). Spans of types of one size are cut to that size before they are decoded, so this is
said of such spans only (`Sized`).

The checks of a record and of a table of offsets come to the same, `Part.Laid`: bytes that pass are
the layout of the parts that are decoded.
-/

namespace SszSchema

open Outcome

variable {env : Catalog} {codes : List RecordCode}

/-- A reader accepts the span just if it serializes a value, which it returns. -/
def Decodes (env : Catalog) (t : SszType) (read : List UInt8 → Reading Value) (span : List UInt8) :
    Prop :=
  ∀ w, read span = .ok w ↔ Serialized env t w span ∧ Exact env t w

/-! ## Types without members -/

theorem decodes_uint (width : Nat) (call : String → List UInt8 → Reading Value) {span : List UInt8}
    (hs : Sized env (.uint width) span) :
    Decodes env (.uint width) (Decoder.uint.run call) span := by
  intro w
  have hl : span.length = width := hs _ .uint
  rw [Decoder.run, Except.ok.injEq]
  constructor
  · rintro rfl
    refine ⟨?_, .leaf rfl⟩
    have h := @Serialized.uint env width _ (hl ▸ Bytes.toNat_lt span)
    rwa [Bytes.littleEndian_of_toNat hl rfl] at h
  · rintro ⟨h, -⟩
    cases h with
    | uint h => rw [Bytes.toNat_littleEndian h]

theorem decodes_bool (call : String → List UInt8 → Reading Value) {span : List UInt8}
    (hs : Sized env .bool span) : Decodes env .bool (Decoder.bool.run call) span := by
  intro w
  have hl : span.length = 1 := hs _ .bool
  rw [Decoder.run, map_eq_ok]
  constructor
  · rintro ⟨b, hb, rfl⟩
    obtain rfl := (Bits.decodeBool_eq_ok_iff hl).mp hb
    exact ⟨.bool, .leaf rfl⟩
  · rintro ⟨h, -⟩
    cases h with
    | bool => exact ⟨_, (Bits.decodeBool_eq_ok_iff hl).mpr rfl, rfl⟩

theorem decodes_fixedBytes (length : Nat) (call : String → List UInt8 → Reading Value)
    {span : List UInt8} (hs : Sized env (.fixedBytes length) span) :
    Decodes env (.fixedBytes length) (Decoder.fixedBytes.run call) span := by
  intro w
  rw [Decoder.run, Except.ok.injEq]
  constructor
  · rintro rfl
    exact ⟨.fixedBytes (hs _ .fixedBytes), .leaf rfl⟩
  · rintro ⟨h, -⟩
    cases h
    rfl

theorem decodes_boundedBytes (limit : Nat) (call : String → List UInt8 → Reading Value)
    (span : List UInt8) :
    Decodes env (.boundedBytes limit) ((Decoder.boundedBytes (some limit)).run call) span := by
  intro w
  rw [Decoder.run, Reading.need, bind_eq_ok]
  by_cases hl : span.length > limit
  · constructor
    · rintro ⟨_, h, hrun⟩
      obtain rfl := Except.ok.inj h
      rw [if_pos hl] at hrun
      exact absurd hrun nofun
    · rintro ⟨h, -⟩
      cases h with
      | boundedBytes h => omega
  · constructor
    · rintro ⟨_, h, hrun⟩
      obtain rfl := Except.ok.inj h
      rw [if_neg hl, pure_eq_ok] at hrun
      subst hrun
      exact ⟨.boundedBytes (Nat.le_of_not_lt hl), .leaf rfl⟩
    · rintro ⟨h, -⟩
      cases h with
      | boundedBytes h => exact ⟨limit, rfl, by rw [if_neg hl, pure_eq_ok]⟩

theorem decodes_bitVector (length : Nat) (call : String → List UInt8 → Reading Value)
    {span : List UInt8} (hs : Sized env (.bitVector length) span) :
    Decodes env (.bitVector length) ((Decoder.bitVector (some length)).run call) span := by
  intro w
  have hl : span.length = (length + 7) / 8 := hs _ .bitVector
  simp only [Decoder.run, Reading.need, bind_eq_ok, pure_eq_ok, serialized_bitVector_iff]
  constructor
  · rintro ⟨_, h, bits, hbits, rfl⟩
    obtain rfl := Except.ok.inj h
    exact ⟨⟨bits, rfl, (Bits.unpackVector_eq_ok_iff hl).mp hbits⟩, .leaf rfl⟩
  · rintro ⟨⟨bits, rfl, h⟩, -⟩
    exact ⟨length, rfl, bits, (Bits.unpackVector_eq_ok_iff hl).mpr h, rfl⟩

theorem decodes_packedBits (limit : Option Nat) (call : String → List UInt8 → Reading Value)
    (span : List UInt8) :
    Decodes env (.packedBits limit) ((Decoder.packedBits limit).run call) span := by
  intro w
  simp only [Decoder.run, map_eq_ok, Bits.checkPacked_eq_ok_iff, serialized_packedBits_iff]
  constructor
  · rintro ⟨bs, ⟨rfl, h⟩, rfl⟩
    exact ⟨⟨rfl, h⟩, .leaf rfl⟩
  · rintro ⟨⟨rfl, h⟩, -⟩
    exact ⟨span, ⟨rfl, h⟩, rfl⟩

theorem decodes_bitList (limit : Option Nat) (call : String → List UInt8 → Reading Value)
    (span : List UInt8) :
    Decodes env (.bitList limit) ((Decoder.bitList limit).run call) span := by
  intro w
  simp only [Decoder.run, map_eq_ok, Bits.unpackList_eq_ok_iff, serialized_bitList_iff]
  constructor
  · rintro ⟨bits, h, rfl⟩
    exact ⟨⟨bits, rfl, h⟩, .leaf rfl⟩
  · rintro ⟨⟨bits, rfl, h⟩, -⟩
    exact ⟨bits, h, rfl⟩

/-! ## Spans of elements -/

/-- Positions with the next one each, or with the end. -/
def bodySpans (stop : Nat) : List Nat → List (Nat × Nat)
  | [] => []
  | n :: rest => (n, rest.headD stop) :: bodySpans stop rest

theorem between_cons (n stop : Nat) (rest : List Nat) :
    Offsets.between (n :: (rest ++ [stop])) =
      if n > rest.headD stop then
        .error (.raised .offset ("offset " ++ toString n ++ " out of order"))
      else (Offsets.between (rest ++ [stop])).map ((n, rest.headD stop) :: ·) := by
  cases rest <;> rfl

theorem between_eq_ok_iff {ns : List Nat} {stop : Nat} {spans : List (Nat × Nat)} :
    Offsets.between (ns ++ [stop]) = .ok spans ↔
      Part.Ascending stop ns ∧ bodySpans stop ns = spans := by
  induction ns generalizing spans with
  | nil => simp [Offsets.between, Part.Ascending, bodySpans]
  | cons n rest ih =>
    rw [List.cons_append, between_cons, Part.Ascending, bodySpans]
    by_cases hn : n > rest.headD stop
    · rw [if_pos hn]
      exact ⟨nofun, fun h => absurd h.1.1 (Nat.not_le_of_gt hn)⟩
    · rw [if_neg hn, map_eq_ok]
      constructor
      · rintro ⟨spans, h, rfl⟩
        obtain ⟨hasc, rfl⟩ := ih.mp h
        exact ⟨⟨Nat.le_of_not_gt hn, hasc⟩, rfl⟩
      · rintro ⟨⟨-, hasc⟩, rfl⟩
        exact ⟨_, ih.mpr ⟨hasc, rfl⟩, rfl⟩

theorem offsets_replicate (data : List UInt8) (i count : Nat) :
    Part.offsets data (offsetBytes * i) (List.replicate count none) =
      (List.range' i count).map (Offsets.entry data) := by
  induction count generalizing i with
  | zero => rfl
  | succ count ih =>
    rw [List.replicate_succ, Part.offsets, List.range'_succ, List.map_cons, ← Nat.mul_succ, ih]
    rfl

/-- The elements behind a table of offsets. -/
theorem bytes_split_none (data : List UInt8) (pos count : Nat) :
    (Part.split data pos (List.replicate count none)).map Part.bytes =
      (bodySpans data.length (Part.offsets data pos (List.replicate count none))).map
        fun s => Bytes.slice data s.1 s.2 := by
  induction count generalizing pos with
  | zero => rfl
  | succ count ih =>
    rw [List.replicate_succ, Part.split, Part.offsets, bodySpans, List.map_cons, List.map_cons, ih]
    rfl

/-- Elements of one size. -/
theorem bytes_split_some (data : List UInt8) (step i count : Nat) :
    (Part.split data (i * step) (List.replicate count (some step))).map Part.bytes =
      (List.range' i count).map fun j => Bytes.slice data (j * step) ((j + 1) * step) := by
  induction count generalizing i with
  | zero => rfl
  | succ count ih =>
    rw [List.replicate_succ, Part.split, List.range'_succ, List.map_cons, List.map_cons,
      ← Nat.succ_mul, ih]
    rfl

theorem regionOf_replicate (count : Nat) (step : Option Nat) :
    Part.regionOf (List.replicate count step) = count * step.getD offsetBytes := by
  induction count with
  | zero => simp [Part.regionOf]
  | succ count ih => rw [List.replicate_succ, Part.regionOf_cons, ih, Nat.succ_mul, Nat.add_comm]

/-- A table of offsets is accepted just if the elements are laid out behind it. -/
theorem spans_eq_ok_iff {data : List UInt8} {count : Nat} (h : count ≠ 0 ∨ data = [])
    {spans : List (Nat × Nat)} :
    Offsets.spans data count = .ok spans ↔ Part.Laid data (List.replicate count none) ∧
      bodySpans data.length (Part.offsets data 0 (List.replicate count none)) = spans := by
  have hoffsets : Part.offsets data 0 (List.replicate count none) =
      (List.range count).map (Offsets.entry data) := by
    simpa [List.range_eq_range'] using offsets_replicate data 0 count
  have hregion : Part.regionOf (List.replicate count none) = offsetBytes * count := by
    rw [regionOf_replicate, Option.getD_none, Nat.mul_comm]
  have hfirst : Part.nextBody data 0 (List.replicate count none) = offsetBytes * count ↔
      count = 0 ∨ Offsets.entry data 0 = offsetBytes * count := by
    cases count with
    | zero =>
      obtain rfl : data = [] := h.resolve_left (by simp)
      simp [Part.nextBody, Part.offsets]
    | succ count =>
      rw [List.replicate_succ, Part.nextBody_offset]
      exact (or_iff_right (Nat.succ_ne_zero count)).symm
  rw [Part.Laid, hregion, hfirst, and_assoc, hoffsets, ← between_eq_ok_iff, Offsets.spans]
  by_cases hlength : data.length < offsetBytes * count
  · rw [if_pos hlength]
    refine ⟨by simp, ?_⟩
    rintro ⟨hentry, hbetween⟩
    -- The first offset would lie behind the end.
    have hlaid : Part.Laid data (List.replicate count none) :=
      ⟨hregion ▸ hfirst.mpr hentry, hoffsets ▸ (between_eq_ok_iff.mp hbetween).1⟩
    have := hlaid.regionOf_le
    omega
  · rw [if_neg hlength]
    by_cases hentry : count = 0 ∨ Offsets.entry data 0 = offsetBytes * count
    · have hcond : (count ≠ 0 && Offsets.entry data 0 ≠ offsetBytes * count) = false := by
        simpa [or_iff_not_imp_left] using hentry
      rw [hcond, if_neg Bool.false_ne_true]
      exact (and_iff_right hentry).symm
    · have hcond : (count ≠ 0 && Offsets.entry data 0 ≠ offsetBytes * count) = true := by
        simpa using hentry
      rw [hcond, if_pos rfl]
      exact ⟨by simp, fun h => absurd h.1 hentry⟩

/-- The number of elements is one that a sequence may have. -/
def Extent.Allows : Extent → Nat → Prop
  | .exactly length, count => length = some count
  | .atMost limit, count => ∃ l, limit = some l ∧ count ≤ l

/-- Nothing is laid out in other than empty bytes. -/
theorem laid_replicate_none {data : List UInt8} {count : Nat}
    (h : Part.Laid data (List.replicate count none)) : count ≠ 0 ∨ data = [] := by
  rcases count with _ | count
  · right
    simpa [Part.Laid, Part.nextBody, Part.offsets, Part.regionOf] using h.1
  · exact .inl (Nat.succ_ne_zero count)

theorem dynamicCount_of_eq_ok {data : List UInt8} {limit count : Nat}
    (h : Offsets.dynamicCount data limit = .ok count) :
    count ≤ limit ∧ (count ≠ 0 ∨ data = []) := by
  rw [Offsets.dynamicCount] at h
  split at h
  case isTrue hempty =>
    obtain rfl := Except.ok.inj h
    exact ⟨Nat.zero_le limit, .inr (List.isEmpty_iff.mp hempty)⟩
  case isFalse =>
    split at h
    · cases h
    · dsimp only at h
      generalize Bytes.toNat (Bytes.slice data 0 offsetBytes) = first at h
      split at h
      · cases h
      case isFalse hfirst =>
        split at h
        · cases h
        case isFalse hlimit =>
          obtain rfl := Except.ok.inj h
          obtain ⟨hpos, hmod⟩ : first ≠ 0 ∧ first % offsetBytes = 0 := by simpa using hfirst
          refine ⟨Nat.le_of_not_gt hlimit, .inl fun hzero => hpos ?_⟩
          rw [← Nat.div_add_mod first offsetBytes, hzero, hmod]
          rfl

/-- The first offset tells the number of elements that are laid out. -/
theorem dynamicCount_of_laid {data : List UInt8} {limit count : Nat}
    (h : Part.Laid data (List.replicate count none)) (hlimit : count ≤ limit) :
    Offsets.dynamicCount data limit = .ok count := by
  have hregion := h.regionOf_le
  have hfirst := h.1
  rw [regionOf_replicate, Option.getD_none] at hregion hfirst
  cases count with
  | zero =>
    obtain rfl : data = [] := (laid_replicate_none h).resolve_left (by simp)
    rfl
  | succ count =>
    rw [List.replicate_succ, Part.nextBody_offset, Part.offsetAt, Nat.zero_add] at hfirst
    have hne : data.isEmpty = false := by
      cases data with
      | nil => simp [offsetBytes] at hregion
      | cons b data => rfl
    have hlength : ¬data.length < offsetBytes := by
      rw [Nat.succ_mul] at hregion
      omega
    have hcond : ((count + 1) * offsetBytes = 0 || (count + 1) * offsetBytes % offsetBytes ≠ 0) =
        false := by simp [offsetBytes]
    have hdiv : (count + 1) * offsetBytes / offsetBytes = count + 1 := by simp [offsetBytes]
    rw [Offsets.dynamicCount, hne, hfirst]
    dsimp only
    rw [hdiv, hcond, if_neg Bool.false_ne_true, if_neg hlength, if_neg Bool.false_ne_true,
      if_neg (Nat.not_lt.mpr hlimit)]

theorem fixedCount_eq_ok_iff {size step limit count : Nat} (hstep : 0 < step) :
    Offsets.fixedCount size step limit = .ok count ↔ size = count * step ∧ count ≤ limit := by
  have hdiv := Nat.div_add_mod size step
  unfold Offsets.fixedCount
  by_cases hmod : size % step = 0
  · have hsize : size = size / step * step := by rw [Nat.mul_comm]; omega
    by_cases hlimit : size / step > limit
    · rw [if_neg (by simpa using hmod), if_pos hlimit]
      refine ⟨nofun, ?_⟩
      rintro ⟨rfl, h⟩
      rw [Nat.mul_div_cancel _ hstep] at hlimit
      omega
    · rw [if_neg (by simpa using hmod), if_neg hlimit, Except.ok.injEq]
      constructor
      · rintro rfl
        exact ⟨hsize, Nat.le_of_not_gt hlimit⟩
      · rintro ⟨rfl, -⟩
        exact Nat.mul_div_cancel _ hstep
  · rw [if_pos (by simpa using hmod)]
    refine ⟨nofun, ?_⟩
    rintro ⟨rfl, -⟩
    simp at hmod

theorem laid_replicate_some_iff {data : List UInt8} {count step : Nat} :
    Part.Laid data (List.replicate count (some step)) ↔ data.length = count * step := by
  have hoffsets (pos : Nat) : Part.offsets data pos (List.replicate count (some step)) = [] := by
    induction count generalizing pos with
    | zero => rfl
    | succ count ih => rw [List.replicate_succ, Part.offsets, ih]
  rw [Part.Laid, Part.nextBody, hoffsets, regionOf_replicate]
  simp [Part.Ascending]

/-- Elements of one size: their number is what the extent allows for the size of the buffer. -/
theorem fixedSpans_eq_ok_iff {data : List UInt8} {extent : Extent} {k : Nat} (hk : 0 < k)
    (hexact : ∀ n, extent = .exactly (some n) → data.length = n * k) {ss : List (List UInt8)} :
    Decoder.spans data extent (some k) = .ok ss ↔ ∃ count, extent.Allows count ∧
      Part.Laid data (List.replicate count (some k)) ∧
        (Part.split data 0 (List.replicate count (some k))).map Part.bytes = ss := by
  have hslices (count : Nat) := bytes_split_some data k 0 count
  simp only [Nat.zero_mul, ← List.range_eq_range'] at hslices
  simp only [laid_replicate_some_iff, hslices]
  rcases extent with (_ | n) | (_ | limit) <;>
    simp only [Decoder.spans, Reading.need, bind_eq_ok, pure_eq_ok, Extent.Allows]
  case exactly.none => constructor <;> rintro ⟨_, ⟨⟩, _⟩
  case exactly.some =>
    constructor
    · rintro ⟨_, h, rfl⟩
      exact ⟨n, rfl, hexact n rfl, by rw [Except.ok.inj h]⟩
    · rintro ⟨count, h, -, rfl⟩
      exact ⟨n, rfl, by rw [Option.some.inj h]⟩
  case atMost.none =>
    constructor
    · rintro ⟨_, ⟨⟩, _⟩
    · rintro ⟨_, ⟨_, ⟨⟩, _⟩, _⟩
  case atMost.some =>
    constructor
    · rintro ⟨_, hl, count, h, rfl⟩
      obtain rfl := Except.ok.inj hl
      obtain ⟨hlength, hlimit⟩ := (fixedCount_eq_ok_iff hk).mp h
      exact ⟨count, ⟨limit, rfl, hlimit⟩, hlength, rfl⟩
    · rintro ⟨count, ⟨_, hl, hlimit⟩, hlength, rfl⟩
      obtain rfl := Option.some.inj hl
      exact ⟨limit, rfl, count, (fixedCount_eq_ok_iff hk).mpr ⟨hlength, hlimit⟩, rfl⟩

/-- Elements of different sizes: their number is told by the first offset. -/
theorem offsetSpans_eq_ok_iff {data : List UInt8} {extent : Extent}
    (hexact : ∀ n, extent = .exactly (some n) → 0 < n) {ss : List (List UInt8)} :
    Decoder.spans data extent none = .ok ss ↔ ∃ count, extent.Allows count ∧
      Part.Laid data (List.replicate count none) ∧
        (Part.split data 0 (List.replicate count none)).map Part.bytes = ss := by
  simp only [bytes_split_none]
  rcases extent with (_ | n) | (_ | limit) <;>
    simp only [Decoder.spans, Reading.need, bind_eq_ok, pure_eq_ok, Extent.Allows]
  case exactly.none => constructor <;> rintro ⟨_, ⟨⟩, _⟩
  case exactly.some =>
    have hn : n ≠ 0 ∨ data = [] := .inl (Nat.ne_of_gt (hexact n rfl))
    constructor
    · rintro ⟨_, h, spans, hspans, rfl⟩
      obtain rfl := Except.ok.inj h
      obtain ⟨hlaid, rfl⟩ := (spans_eq_ok_iff hn).mp hspans
      exact ⟨n, rfl, hlaid, rfl⟩
    · rintro ⟨count, h, hlaid, rfl⟩
      obtain rfl := Option.some.inj h
      exact ⟨n, rfl, _, (spans_eq_ok_iff hn).mpr ⟨hlaid, rfl⟩, rfl⟩
  case atMost.none =>
    constructor
    · rintro ⟨_, ⟨⟩, _⟩
    · rintro ⟨_, ⟨_, ⟨⟩, _⟩, _⟩
  case atMost.some =>
    constructor
    · rintro ⟨_, hl, count, h, spans, hspans, rfl⟩
      obtain rfl := Except.ok.inj hl
      obtain ⟨hlimit, hcount⟩ := dynamicCount_of_eq_ok h
      obtain ⟨hlaid, rfl⟩ := (spans_eq_ok_iff hcount).mp hspans
      exact ⟨count, ⟨limit, rfl, hlimit⟩, hlaid, rfl⟩
    · rintro ⟨count, ⟨_, hl, hlimit⟩, hlaid, rfl⟩
      obtain rfl := Option.some.inj hl
      exact ⟨limit, rfl, count, dynamicCount_of_laid hlaid hlimit, _,
        (spans_eq_ok_iff (laid_replicate_none hlaid)).mpr ⟨hlaid, rfl⟩, rfl⟩

/-- The spans of a sequence's elements are the parts that are laid out in it. -/
theorem decoder_spans_eq_ok_iff {data : List UInt8} {extent : Extent} {step : Option Nat}
    (hstep : step ≠ some 0)
    (hexact : ∀ n, extent = .exactly (some n) → 0 < n ∧ ∀ k, step = some k → data.length = n * k)
    {ss : List (List UInt8)} :
    Decoder.spans data extent step = .ok ss ↔ ∃ count, extent.Allows count ∧
      Part.Laid data (List.replicate count step) ∧
        (Part.split data 0 (List.replicate count step)).map Part.bytes = ss := by
  cases step with
  | some k =>
    have hk : 0 < k := Nat.pos_of_ne_zero fun h => hstep (congrArg some h)
    exact fixedSpans_eq_ok_iff hk fun n hn => (hexact n hn).2 k rfl
  | none => exact offsetSpans_eq_ok_iff fun n hn => (hexact n hn).1

/-! ## Sequences -/

/-- Where the elements are laid out, they are decoded just if they are serialized. -/
theorem forall₂_run_iff {element : SszType} {step : Option Nat} (hplaced : env.Placed element step)
    {read : List UInt8 → Reading Value} {ps : List Part} {vs : List Value}
    (hfills : ∀ p ∈ ps, Part.Fills step p)
    (hread : ∀ p ∈ ps, Decodes env element read p.bytes) :
    List.Forall₂ (fun p v => read p.bytes = .ok v) ps vs ↔
      List.Forall₂ (SerializedPart env element) vs ps ∧ ∀ v ∈ vs, Exact env element v := by
  have hpart (p : Part) (hp : p ∈ ps) (v : Value) :
      read p.bytes = .ok v ↔ Exact env element v ∧ SerializedPart env element v p := by
    rw [hread p hp v, hplaced.serializedPart_iff (hfills p hp), and_comm]
  rw [and_comm, ← List.forall₂_and_left]
  constructor
  · intro h
    exact (forall₂_imp_of_mem h fun p hp v => (hpart p hp v).mp).flip
  · intro h
    exact forall₂_imp_of_mem h.flip fun p hp v => (hpart p hp v).mpr

theorem fills_replicate {element : SszType} {step : Option Nat} (hplaced : env.Placed element step)
    {items : List Value} {ps : List Part} (h : List.Forall₂ (SerializedPart env element) items ps) :
    List.Forall₂ Part.Fills (List.replicate items.length step) ps := by
  induction h with
  | nil => exact .nil
  | cons h _ ih => exact .cons (hplaced.fills h) ih

theorem run_sequence_eq_ok_iff {element : SszType} {extent : Extent} {step : Option Nat}
    {item : Decoder} {call : String → List UInt8 → Reading Value} {span : List UInt8}
    (hplaced : env.Placed element step) (hstep : step ≠ some 0)
    (hextent : ∀ n, extent = .exactly (some n) → 0 < n ∧ ∀ k, step = some k → span.length = n * k)
    (hitem : ∀ s, s.length ≤ span.length → Sized env element s →
      Decodes env element (item.run call) s) {w : Value} :
    (Decoder.sequence extent step item).run call span = .ok w ↔
      ∃ items, w = .list items ∧ extent.Allows items.length ∧
        SerializedSequence env element items span ∧ ∀ v ∈ items, Exact env element v := by
  -- An element is no longer than the span, and of the size that its place has.
  have hparts {count : Nat} (hlaid : Part.Laid span (List.replicate count step)) (vs : List Value) :
      List.Forall₂ (fun p v => item.run call p.bytes = .ok v)
        (Part.split span 0 (List.replicate count step)) vs ↔
          List.Forall₂ (SerializedPart env element) vs
            (Part.split span 0 (List.replicate count step)) ∧ ∀ v ∈ vs, Exact env element v := by
    refine forall₂_run_iff hplaced (fun p => Part.fills_of_mem hlaid.fills) fun p hp => ?_
    have hlength := Part.length_bytes_le hp
    rw [hlaid.layout_split] at hlength
    exact hitem _ hlength (hplaced.sized (Part.fills_of_mem hlaid.fills hp))
  simp only [Decoder.run, bind_eq_ok, pure_eq_ok, mapM_eq_ok_iff,
    decoder_spans_eq_ok_iff hstep hextent]
  constructor
  · rintro ⟨_, ⟨count, hcount, hlaid, rfl⟩, items, hitems, rfl⟩
    rw [List.forall₂_map_left_iff, hparts hlaid] at hitems
    obtain ⟨hitems, hexact⟩ := hitems
    have hlength : items.length = count := by
      rw [hitems.length_eq, ← hlaid.fills.length_eq, List.length_replicate]
    exact ⟨items, rfl, hlength ▸ hcount, ⟨_, hitems, hlaid.fit, hlaid.layout_split⟩, hexact⟩
  · rintro ⟨items, rfl, hcount, ⟨ps, hitems, hfit, rfl⟩, hexact⟩
    obtain ⟨hlaid, hsplit⟩ := Part.split_layout (fills_replicate hplaced hitems) hfit
    refine ⟨_, ⟨items.length, hcount, hlaid, rfl⟩, items, ?_, rfl⟩
    rw [List.forall₂_map_left_iff, hparts hlaid, hsplit]
    exact ⟨hitems, hexact⟩

/-- A decoder accepts serializations, if the routines that it calls do. Those get spans that are no
longer than its own. -/
theorem DecodedBy.decodes {t : SszType} {d : Decoder} (h : DecodedBy env t d)
    {call : String → List UInt8 → Reading Value} {span : List UInt8}
    (hcall : ∀ name, t.innermost = some name → ∀ s, s.length ≤ span.length →
      Sized env (.record name) s → Decodes env (.record name) (call name) s)
    (hs : Sized env t span) : Decodes env t (d.run call) span := by
  induction h generalizing span with
  | uint => exact decodes_uint _ call hs
  | bool => exact decodes_bool call hs
  | fixedBytes => exact decodes_fixedBytes _ call hs
  | boundedBytes => exact decodes_boundedBytes _ call span
  | bitVector => exact decodes_bitVector _ call hs
  | packedBits => exact decodes_packedBits _ call span
  | bitList => exact decodes_bitList _ call span
  | record => exact hcall _ rfl span (Nat.le_refl _) hs
  | @vector length element step item hl hplaced hstep _ ih =>
    have hextent : ∀ n, Extent.exactly (some length) = .exactly (some n) →
        0 < n ∧ ∀ k, step = some k → span.length = n * k := by
      rintro _ ⟨⟩
      refine ⟨hl, ?_⟩
      rintro k rfl
      exact hs _ (.vector hplaced)
    have hitem : ∀ s, s.length ≤ span.length → Sized env element s →
        Decodes env element (item.run call) s := fun s hlength hsized =>
      ih (fun name hname s' hs' => hcall name hname s' (Nat.le_trans hs' hlength)) hsized
    intro w
    rw [run_sequence_eq_ok_iff hplaced hstep hextent hitem, serialized_vector_iff]
    constructor
    · rintro ⟨items, rfl, hcount, h, hexact⟩
      exact ⟨⟨items, rfl, (Option.some.inj hcount).symm, h⟩, .vector hexact⟩
    · rintro ⟨⟨items, rfl, rfl, h⟩, hexact⟩
      cases hexact with
      | vector hexact => exact ⟨items, rfl, rfl, h, hexact⟩
      | leaf ht => cases ht
  | @list limit element step item hplaced hstep _ ih =>
    have hextent : ∀ n, Extent.atMost (some limit) = .exactly (some n) →
        0 < n ∧ ∀ k, step = some k → span.length = n * k := nofun
    have hitem : ∀ s, s.length ≤ span.length → Sized env element s →
        Decodes env element (item.run call) s := fun s hlength hsized =>
      ih (fun name hname s' hs' => hcall name hname s' (Nat.le_trans hs' hlength)) hsized
    intro w
    rw [run_sequence_eq_ok_iff hplaced hstep hextent hitem, serialized_list_iff]
    constructor
    · rintro ⟨items, rfl, ⟨l, hlimit, hcount⟩, h, hexact⟩
      obtain rfl := Option.some.inj hlimit
      exact ⟨⟨items, rfl, hcount, h⟩, .list hexact⟩
    · rintro ⟨⟨items, rfl, hcount, h⟩, hexact⟩
      cases hexact with
      | list hexact => exact ⟨items, rfl, ⟨limit, rfl, hcount⟩, h, hexact⟩
      | leaf ht => cases ht

/-! ## Records -/

open RecordCode

/-- What the fixed region of a record tells from a position on. -/
inductive HeadsAt (call : String → List UInt8 → Reading Value) (buf : List UInt8) :
    Nat → List FieldCode → List (FieldCode × Head) → Prop
  | nil {pos : Nat} : HeadsAt call buf pos [] []
  | value {pos size : Nat} {f : FieldCode} {fcs : List FieldCode} {hs : List (FieldCode × Head)}
      {v : Value} (hf : f.size = some size)
      (hv : f.decoder.run call (Bytes.slice buf pos (pos + size)) = .ok v)
      (h : HeadsAt call buf (pos + size) fcs hs) :
      HeadsAt call buf pos (f :: fcs) ((f, .value v) :: hs)
  | offset {pos : Nat} {f : FieldCode} {fcs : List FieldCode} {hs : List (FieldCode × Head)}
      (hf : f.size = none) (h : HeadsAt call buf (pos + offsetBytes) fcs hs) :
      HeadsAt call buf pos (f :: fcs) ((f, .offset (Part.offsetAt buf pos)) :: hs)

/-- The offsets pass the checks that follow `previous`. -/
def Checked (region size : Nat) : Option Nat → List Nat → Prop
  | _, [] => True
  | none, n :: rest => n = region ∧ Checked region size (some n) rest
  | some previous, n :: rest => previous ≤ n ∧ n ≤ size ∧ Checked region size (some n) rest

theorem checkOffset_eq_ok_iff {c : RecordCode} {region : Nat} (hc : c.fixedSize = some region)
    {f : FieldCode} {size n : Nat} {rest : List Nat} {previous : Option Nat} :
    c.checkOffset f size n previous = .ok () ∧ Checked region size (some n) rest ↔
      Checked region size previous (n :: rest) := by
  cases previous with
  | none =>
    rw [checkOffset, hc]
    by_cases hn : n = region
    · subst hn
      simp [Reading.need, Checked, bind, Except.bind, pure, Except.pure]
    · simp [Reading.need, Checked, bind, Except.bind, hn]
  | some previous =>
    rw [checkOffset, Checked, ← and_assoc]
    refine and_congr_left fun _ => ?_
    by_cases hn : n < previous ∨ n > size
    · simp [hn]
      omega
    · simp [hn]
      omega

theorem readHeads_eq_ok_iff {c : RecordCode} {region : Nat} (hc : c.fixedSize = some region)
    {call : String → List UInt8 → Reading Value} {buf : List UInt8} {pos : Nat}
    {previous : Option Nat} {fcs : List FieldCode} {hs : List (FieldCode × Head)} :
    c.readHeads call buf pos previous fcs = .ok hs ↔ HeadsAt call buf pos fcs hs ∧
      Checked region buf.length previous (Part.offsets buf pos (fcs.map (·.size))) := by
  induction fcs generalizing pos previous hs with
  | nil =>
    rw [readHeads, Except.ok.injEq, List.map_nil, Part.offsets]
    constructor
    · rintro rfl
      exact ⟨.nil, by cases previous <;> trivial⟩
    · rintro ⟨⟨⟩, -⟩
      rfl
  | cons f fcs ih =>
    rw [readHeads, List.map_cons]
    cases hf : f.size with
    | some size =>
      simp only [bind_eq_ok, pure_eq_ok, Part.offsets, ih]
      constructor
      · rintro ⟨v, hv, rest, ⟨hrest, hchecked⟩, rfl⟩
        exact ⟨.value hf hv hrest, hchecked⟩
      · rintro ⟨h, hchecked⟩
        cases h with
        | value hf' hv hrest =>
          obtain rfl := Option.some.inj (hf.symm.trans hf')
          exact ⟨_, hv, _, ⟨hrest, hchecked⟩, rfl⟩
        | offset hf' => simp [hf] at hf'
    | none =>
      simp only [bind_eq_ok, pure_eq_ok, Part.offsets, ih]
      constructor
      · rintro ⟨⟨⟩, hcheck, rest, ⟨hrest, hchecked⟩, rfl⟩
        exact ⟨.offset hf hrest, (checkOffset_eq_ok_iff hc).mp ⟨hcheck, hchecked⟩⟩
      · rintro ⟨h, hchecked⟩
        cases h with
        | value hf' => simp [hf] at hf'
        | offset _ hrest =>
          obtain ⟨hcheck, hchecked⟩ := (checkOffset_eq_ok_iff (f := f) hc).mpr hchecked
          exact ⟨(), hcheck, _, ⟨hrest, hchecked⟩, rfl⟩

theorem HeadsAt.stopOf_eq {call : String → List UInt8 → Reading Value} {buf : List UInt8}
    {pos : Nat} {fcs : List FieldCode} {hs : List (FieldCode × Head)}
    (h : HeadsAt call buf pos fcs hs) :
    stopOf buf.length hs = Part.nextBody buf pos (fcs.map (·.size)) := by
  induction h with
  | nil => rfl
  | value hf _ _ ih => rw [stopOf, ih, List.map_cons, hf, Part.nextBody_inline]
  | offset hf _ _ => rw [stopOf, List.map_cons, hf, Part.nextBody_offset]

/-- After an offset that is within the buffer, the checks say that the others do not decrease. -/
theorem checked_some_iff {region size n : Nat} {ns : List Nat} :
    n ≤ size ∧ Checked region size (some n) ns ↔ Part.Ascending size (n :: ns) := by
  induction ns generalizing n with
  | nil => simp [Checked, Part.Ascending]
  | cons m ns ih =>
    rw [Checked, Part.Ascending, ← ih, List.headD_cons]
    constructor
    · rintro ⟨-, hnm, hm, hrest⟩
      exact ⟨hnm, hm, hrest⟩
    · rintro ⟨hnm, hm, hrest⟩
      exact ⟨Nat.le_trans hnm hm, hnm, hm, hrest⟩

theorem offsets_eq_nil {buf : List UInt8} {pos : Nat} {sizes : List (Option Nat)}
    (h : none ∉ sizes) : Part.offsets buf pos sizes = [] := by
  induction sizes generalizing pos with
  | nil => rfl
  | cons s sizes ih =>
    obtain ⟨hs, hrest⟩ := not_or.mp (mt List.mem_cons.mpr h)
    cases s with
    | none => exact absurd rfl hs
    | some n => exact ih hrest

theorem offsets_ne_nil {buf : List UInt8} {pos : Nat} {sizes : List (Option Nat)}
    (h : none ∈ sizes) : Part.offsets buf pos sizes ≠ [] := by
  induction sizes generalizing pos with
  | nil => simp at h
  | cons s sizes ih =>
    cases s with
    | none => exact List.cons_ne_nil _ _
    | some n => exact ih (by simpa using h)

theorem checkSize_eq_ok_iff {c : RecordCode} {region size : Nat} (hc : c.fixedSize = some region) :
    c.checkSize size = .ok () ↔ if c.isDynamic then region ≤ size else size = region := by
  rw [checkSize, hc]
  cases c.isDynamic with
  | true =>
    by_cases hsize : size < region
    · simp [Reading.need, bind, Except.bind, hsize]
    · simp [Reading.need, bind, Except.bind, hsize, pure, Except.pure, Nat.le_of_not_lt hsize]
  | false =>
    by_cases hsize : size = region
    · simp [Reading.need, bind, Except.bind, hsize, pure, Except.pure]
    · simp [Reading.need, bind, Except.bind, hsize]

/-- The checks of a record accept just the buffers in which its parts are laid out. -/
theorem checks_iff_laid {c : RecordCode} (hc : c.fixedSize = some (Part.regionOf c.sizes))
    (hd : c.isDynamic = true ↔ none ∈ c.sizes) (buf : List UInt8) :
    c.checkSize buf.length = .ok () ∧
      Checked (Part.regionOf c.sizes) buf.length none (Part.offsets buf 0 c.sizes) ↔
        Part.Laid buf c.sizes := by
  rw [checkSize_eq_ok_iff hc, Part.Laid, Part.nextBody]
  by_cases hnone : none ∈ c.sizes
  · have hne : Part.offsets buf 0 c.sizes ≠ [] := offsets_ne_nil hnone
    obtain ⟨n, ns, hns⟩ := List.exists_cons_of_ne_nil hne
    rw [hns, if_pos (hd.mpr hnone), List.headD_cons]
    constructor
    · rintro ⟨hsize, rfl, hrest⟩
      exact ⟨rfl, checked_some_iff.mp ⟨hsize, hrest⟩⟩
    · rintro ⟨rfl, hasc⟩
      obtain ⟨hsize, hrest⟩ := checked_some_iff.mpr hasc
      exact ⟨hsize, rfl, hrest⟩
  · rw [offsets_eq_nil hnone, if_neg (mt hd.mp hnone), List.headD_nil]
    exact ⟨fun h => ⟨h.1, trivial⟩, fun h => ⟨h.1, trivial⟩⟩

/-- Heads are found from a position on, and behind them the entries of their fields. -/
def ReadsFrom (call : String → List UInt8 → Reading Value) (buf : List UInt8) (pos : Nat)
    (fcs : List FieldCode) (es : List (String × Value)) : Prop :=
  ∃ hs, HeadsAt call buf pos fcs hs ∧ readBodies call buf hs = .ok es

theorem readsFrom_nil_iff {call : String → List UInt8 → Reading Value} {buf : List UInt8}
    {pos : Nat} {es : List (String × Value)} : ReadsFrom call buf pos [] es ↔ es = [] := by
  constructor
  · rintro ⟨_, ⟨⟩, h⟩
    exact (Except.ok.inj h).symm
  · rintro rfl
    exact ⟨[], .nil, rfl⟩

/-- A field of one size is read where its head stands. -/
theorem readsFrom_value_iff {call : String → List UInt8 → Reading Value} {buf : List UInt8}
    {pos size : Nat} {code : FieldCode} {fcs : List FieldCode} {es : List (String × Value)}
    (hsize : code.size = some size) :
    ReadsFrom call buf pos (code :: fcs) es ↔ ∃ u rest,
      code.decoder.run call (Bytes.slice buf pos (pos + size)) = .ok u ∧
        ReadsFrom call buf (pos + size) fcs rest ∧ (code.name, u) :: rest = es := by
  constructor
  · rintro ⟨_, hheads, hrun⟩
    cases hheads with
    | value hf hu hrest =>
      obtain rfl := Option.some.inj (hsize.symm.trans hf)
      obtain ⟨rest, hrun, hes⟩ := bind_eq_ok.mp hrun
      exact ⟨_, rest, hu, ⟨_, hrest, hrun⟩, pure_eq_ok.mp hes⟩
    | offset hf => simp [hsize] at hf
  · rintro ⟨u, rest, hu, ⟨_, hheads, hrun⟩, rfl⟩
    exact ⟨_, .value hsize hu hheads, bind_eq_ok.mpr ⟨_, hrun, rfl⟩⟩

/-- A field of different sizes is read between its offset and the next one. -/
theorem readsFrom_offset_iff {call : String → List UInt8 → Reading Value} {buf : List UInt8}
    {pos : Nat} {code : FieldCode} {fcs : List FieldCode} {es : List (String × Value)}
    (hsize : code.size = none) :
    ReadsFrom call buf pos (code :: fcs) es ↔ ∃ u rest,
      code.decoder.run call (Bytes.slice buf (Part.offsetAt buf pos)
        (Part.nextBody buf (pos + offsetBytes) (fcs.map (·.size)))) = .ok u ∧
        ReadsFrom call buf (pos + offsetBytes) fcs rest ∧ (code.name, u) :: rest = es := by
  constructor
  · rintro ⟨_, hheads, hrun⟩
    cases hheads with
    | value hf => simp [hsize] at hf
    | offset _ hrest =>
      obtain ⟨u, hu, hrun⟩ := bind_eq_ok.mp hrun
      obtain ⟨rest, hrun, hes⟩ := bind_eq_ok.mp hrun
      rw [hrest.stopOf_eq] at hu
      exact ⟨u, rest, hu, ⟨_, hrest, hrun⟩, pure_eq_ok.mp hes⟩
  · rintro ⟨u, rest, hu, ⟨_, hheads, hrun⟩, rfl⟩
    rw [← hheads.stopOf_eq] at hu
    exact ⟨_, .offset hsize hheads, bind_eq_ok.mpr ⟨u, hu, bind_eq_ok.mpr ⟨rest, hrun, rfl⟩⟩⟩

/-- The decoder of a field accepts its serialization, wherever it stands in a buffer of a size
behind a region of heads. -/
def ReadsField (env : Catalog) (call : String → List UInt8 → Reading Value) (region size : Nat)
    (f : String × SszType) (code : FieldCode) : Prop :=
  code.name = f.1 ∧ env.Placed f.2 code.size ∧
    ∀ p, Part.Fills code.size p → region + p.body.length ≤ size →
      Decodes env f.2 (code.decoder.run call) p.bytes

/-- What is read from the part of a field, and from those of the others, serializes them. -/
theorem ReadsField.readFields_iff {call : String → List UInt8 → Reading Value} {region size : Nat}
    {f : String × SszType} {code : FieldCode} (h : ReadsField env call region size f code)
    {p : Part} (hp : Part.Fills code.size p) (hlength : region + p.body.length ≤ size)
    {fields : Fields} {ps : List Part} {es : List (String × Value)} :
    (∃ u rest, code.decoder.run call p.bytes = .ok u ∧ ReadFields env fields rest ps ∧
      (code.name, u) :: rest = es) ↔ ReadFields env (f :: fields) es (p :: ps) := by
  obtain ⟨name, t⟩ := f
  obtain ⟨rfl, hplaced, hdecodes⟩ := h
  constructor
  · rintro ⟨u, rest, hu, hrest, rfl⟩
    obtain ⟨hser, hexact⟩ := (hdecodes p hp hlength u).mp hu
    exact .cons hexact ((hplaced.serializedPart_iff hp).mpr hser) hrest
  · rintro (_ | ⟨hexact, hser, hrest⟩)
    exact ⟨_, _, (hdecodes p hp hlength _).mpr ⟨hser.serialized, hexact⟩, hrest, rfl⟩

/-- Heads and bodies are read just if they serialize the fields. -/
theorem readsFrom_iff {call : String → List UInt8 → Reading Value} {buf : List UInt8}
    {region : Nat} {fields : Fields} {fcs : List FieldCode}
    (h : List.Forall₂ (ReadsField env call region buf.length) fields fcs) {pos : Nat}
    {es : List (String × Value)}
    (hfills : List.Forall₂ Part.Fills (fcs.map (·.size)) (Part.split buf pos (fcs.map (·.size))))
    (hbound : ∀ p ∈ Part.split buf pos (fcs.map (·.size)),
      region + p.body.length ≤ buf.length) :
    ReadsFrom call buf pos fcs es ↔
      ReadFields env fields es (Part.split buf pos (fcs.map (·.size))) := by
  induction h generalizing pos es with
  | nil =>
    rw [readsFrom_nil_iff]
    constructor
    · rintro rfl
      exact .nil
    · rintro ⟨⟩
      rfl
  | @cons f code fields fcs hf _ ih =>
    rw [List.map_cons] at hfills hbound ⊢
    cases hsize : code.size with
    | some size =>
      rw [hsize, Part.split] at hfills hbound
      obtain ⟨hp, hfills⟩ := List.forall₂_cons.mp hfills
      obtain ⟨hlength, hbound⟩ := List.forall_mem_cons.mp hbound
      rw [Part.split, ← hf.readFields_iff (hsize ▸ hp) hlength, readsFrom_value_iff hsize]
      simp only [ih hfills hbound, Part.bytes]
    | none =>
      rw [hsize, Part.split] at hfills hbound
      obtain ⟨hp, hfills⟩ := List.forall₂_cons.mp hfills
      obtain ⟨hlength, hbound⟩ := List.forall_mem_cons.mp hbound
      rw [Part.split, ← hf.readFields_iff (hsize ▸ hp) hlength, readsFrom_offset_iff hsize]
      simp only [ih hfills hbound, Part.bytes]

theorem ReadFields.fills {call : String → List UInt8 → Reading Value} {region size : Nat}
    {fields : Fields} {fcs : List FieldCode}
    (h : List.Forall₂ (ReadsField env call region size) fields fcs) {es : List (String × Value)}
    {ps : List Part} (hread : ReadFields env fields es ps) :
    List.Forall₂ Part.Fills (fcs.map (·.size)) ps := by
  induction hread generalizing fcs with
  | nil =>
    cases h
    exact .nil
  | cons _ hser _ ih =>
    cases h with
    | cons hf hfs => exact .cons (hf.2.1.fills hser) (ih hfs)

/-- The routine of a record accepts its serialization. -/
theorem decodes_read {c : RecordCode} {call : String → List UInt8 → Reading Value}
    {name : String} {fields : Fields} (hr : env name = some fields) (hc : c.Realizes env fields)
    {buf : List UInt8} (h : List.Forall₂
      (ReadsField env call (Part.regionOf c.sizes) buf.length) fields c.fields) :
    Decodes env (.record name) (c.read call) buf := by
  intro w
  rw [serialized_exact_record_iff hr hc.distinct]
  have hlaid := checks_iff_laid hc.fixedSize hc.isDynamic buf
  -- All bodies together are what stands behind the region.
  have hbodies (hl : Part.Laid buf c.sizes) : ∀ p ∈ Part.split buf 0 c.sizes,
      Part.regionOf c.sizes + p.body.length ≤ buf.length := by
    intro p hp
    have hlength := Part.length_layout (Part.split buf 0 c.sizes)
    rw [hl.layout_split, Part.region_of_fills hl.fills] at hlength
    have := Part.length_body_le hp
    omega
  simp only [RecordCode.read, bind_eq_ok, pure_eq_ok, readHeads_eq_ok_iff hc.fixedSize]
  constructor
  · rintro ⟨⟨⟩, hsize, hs, ⟨hheads, hchecked⟩, es, hes, rfl⟩
    have hl := hlaid.mp ⟨hsize, hchecked⟩
    exact ⟨es, _, rfl, (readsFrom_iff h hl.fills (hbodies hl)).mp ⟨hs, hheads, hes⟩, hl.fit,
      hl.layout_split⟩
  · rintro ⟨es, ps, rfl, hread, hfit, rfl⟩
    obtain ⟨hl, hsplit⟩ := Part.split_layout (hread.fills h) hfit
    obtain ⟨hsize, hchecked⟩ := hlaid.mpr hl
    obtain ⟨hs, hheads, hes⟩ := (readsFrom_iff h hl.fills (hbodies hl)).mpr (hsplit ▸ hread)
    exact ⟨(), hsize, hs, ⟨hheads, hchecked⟩, es, hes, rfl⟩

/-! ## Nesting -/

/-- A record stands in a field of one size of another record, perhaps as an element. -/
def Catalog.StandsIn (env : Catalog) (inner outer : String) : Prop :=
  ∃ fields f n, env outer = some fields ∧ f ∈ fields ∧ f.2.innermost = some inner ∧
    env.HasSize f.2 n

theorem Catalog.HasSize.innermost {t : SszType} {n : Nat} (h : env.HasSize t n) {name : String}
    (ht : t.innermost = some name) : ∃ m, env.HasSize (.record name) m := by
  induction h with
  | vector _ ih => exact ih ht
  | record size hr h =>
    obtain rfl := Option.some.inj ht
    exact ⟨_, .record size hr h⟩
  | _ => simp [SszType.innermost] at ht

/-- Records of one size do not stand in each other without end. -/
theorem Catalog.HasSize.acc {t : SszType} {n : Nat} (h : env.HasSize t n) {name : String}
    (ht : t.innermost = some name) : Acc env.StandsIn name := by
  induction h generalizing name with
  | vector _ ih => exact ih ht
  | record size hr _ ih =>
    obtain rfl := Option.some.inj ht
    refine ⟨_, ?_⟩
    rintro inner ⟨fields, f, -, hr', hf, hinner, -⟩
    obtain rfl := Option.some.inj (hr.symm.trans hr')
    exact ih f hf hinner
  | _ => simp [SszType.innermost] at ht

theorem not_transGen_self {α : Type} {r : α → α → Prop} {a : α} (h : Acc r a) :
    ¬Relation.TransGen r a a := by
  have hacc := h.transGen
  clear h
  induction hacc with
  | intro a _ ih => exact fun ha => ih a ha ha

open Classical in
/-- The number of records that stand in a record, at any depth. -/
noncomputable def rank (env : Catalog) (codes : List RecordCode) (name : String) : Nat :=
  ((codes.map (·.name)).toFinset.filter fun inner =>
    Relation.TransGen env.StandsIn inner name).card

theorem rank_le (env : Catalog) (codes : List RecordCode) (name : String) :
    rank env codes name ≤ codes.length := by
  classical
  refine Nat.le_trans (Finset.card_filter_le _ _) ?_
  simpa using List.toFinset_card_le (codes.map (·.name))

theorem rank_lt {inner outer : String} (h : env.StandsIn inner outer) (hinner : Coded codes inner) :
    rank env codes inner < rank env codes outer := by
  classical
  have hacc : Acc env.StandsIn inner := by
    obtain ⟨_, _, _, -, -, ht, hsize⟩ := h
    exact hsize.acc ht
  obtain ⟨c, hc⟩ := Option.isSome_iff_exists.mp hinner
  have hmem : inner ∈ (codes.map (·.name)).toFinset := by
    have hname : c.name = inner := by simpa using List.find?_some hc
    exact List.mem_toFinset.mpr (List.mem_map.mpr ⟨c, List.mem_of_find?_eq_some hc, hname⟩)
  refine Finset.card_lt_card (Finset.ssubset_iff_of_subset ?_ |>.mpr ⟨inner, ?_, ?_⟩)
  · intro n hn
    obtain ⟨hn, hbelow⟩ := Finset.mem_filter.mp hn
    exact Finset.mem_filter.mpr ⟨hn, hbelow.tail h⟩
  · exact Finset.mem_filter.mpr ⟨hmem, .single h⟩
  · intro hn
    exact not_transGen_self hacc (Finset.mem_filter.mp hn).2

/-- The fuel suffices for a record in a span of a length. Records in a dynamic record get shorter
spans, and records in one of a size have lower ranks. Some fuel is left for a call of a record
without code. -/
def Enough (env : Catalog) (codes : List RecordCode) (fuel : Nat) (name : String) (length : Nat) :
    Prop :=
  rank env codes name + 1 < fuel ∧
    (env.IsDynamic (.record name) → codes.length + 1 + length < fuel)

theorem Enough.pos {fuel length : Nat} {name : String}
    (h : Enough env codes (fuel + 1) name length) : 0 < fuel := by
  have := h.1
  omega

/-- The fuel that decoding starts with. -/
theorem Enough.start (env : Catalog) (codes : List RecordCode) (name : String) (length : Nat) :
    Enough env codes (length + codes.length + 2) name length := by
  have hrank := rank_le env codes name
  exact ⟨by omega, fun _ => by omega⟩

theorem Enough.of_size {fuel length n : Nat} {inner outer : String} {fields : Fields}
    {f : String × SszType} (h : Enough env codes (fuel + 1) outer length)
    (hr : env outer = some fields) (hf : f ∈ fields) (hinner : f.2.innermost = some inner)
    (hsize : env.HasSize f.2 n) (hcoded : Coded codes inner) (rest : Nat) :
    Enough env codes fuel inner rest := by
  have hrank := rank_lt ⟨fields, f, n, hr, hf, hinner, hsize⟩ hcoded
  obtain ⟨m, hm⟩ := hsize.innermost hinner
  have hfuel := h.1
  exact ⟨by omega, fun hd => absurd hd hm.not_isDynamic⟩

theorem Enough.of_isDynamic {fuel length rest : Nat} {outer : String}
    (h : Enough env codes (fuel + 1) outer length) (hd : env.IsDynamic (.record outer))
    (hrest : offsetBytes + rest ≤ length) (inner : String) : Enough env codes fuel inner rest := by
  have hfuel := h.2 hd
  have hrank := rank_le env codes inner
  rw [offsetBytes] at hrest
  exact ⟨by omega, fun _ => by omega⟩

theorem offsetBytes_le_regionOf {sizes : List (Option Nat)} (h : none ∈ sizes) :
    offsetBytes ≤ Part.regionOf sizes := by
  induction sizes with
  | nil => simp at h
  | cons s sizes ih =>
    rw [Part.regionOf_cons]
    rcases List.mem_cons.mp h with rfl | h
    · exact Nat.le_add_right _ _
    · exact Nat.le_trans (ih h) (Nat.le_add_left _ _)

/-- Routines accept serializations, if their fuel suffices. -/
theorem Implements.decodes_unmarshalWith (h : Implements env codes) {fuel : Nat} {name : String}
    (hname : Coded codes name) {buf : List UInt8}
    (hfuel : Enough env codes fuel name buf.length) :
    Decodes env (.record name) (Codec.unmarshalWith codes fuel name) buf := by
  induction fuel generalizing name buf with
  | zero => exact absurd hfuel.1 (Nat.not_lt_zero _)
  | succ fuel ih =>
    obtain ⟨c, hc⟩ := Option.isSome_iff_exists.mp hname
    obtain ⟨fields, hr, hcode⟩ := h.realizes hc
    have hfields : List.Forall₂ (ReadsField env (Codec.unmarshalWith codes fuel)
        (Part.regionOf c.sizes) buf.length) fields c.fields := by
      refine forall₂_imp_of_mem hcode.fields fun f hf code hfc => ⟨hfc.name, hfc.size, ?_⟩
      intro p hfills hlength
      refine hfc.decoder.decodes (fun inner hinner s hs _ => ?_) (hfc.size.sized hfills)
      have hcoded := h.closed hc hr f hf inner hinner
      refine ih hcoded ?_
      cases hsize : code.size with
      | some n =>
        have hplaced := hfc.size
        rw [hsize] at hplaced
        exact hfuel.of_size hr hf hinner hplaced hcoded _
      | none =>
        have hplaced := hfc.size
        rw [hsize] at hplaced hfills
        have hregion := offsetBytes_le_regionOf (hcode.none_mem hf hplaced)
        cases p with
        | inline bs => exact absurd hfills id
        | offset bs =>
          rw [Part.body] at hlength
          rw [Part.bytes] at hs
          exact hfuel.of_isDynamic (.record hr hf hplaced) (by omega) inner
    intro w
    rw [Codec.unmarshalWith, hc]
    exact decodes_read hr hcode hfields w

/-- A routine accepts bytes just if they are the serialization of the record that it returns. -/
theorem Implements.unmarshal_eq_ok_iff (h : Implements env codes) {name : String}
    (hname : Coded codes name) {buf : List UInt8} {w : Value} :
    Codec.unmarshal codes name buf = .ok w ↔
      Serialized env (.record name) w buf ∧ Exact env (.record name) w :=
  h.decodes_unmarshalWith hname (Enough.start env codes name buf.length) w

end SszSchema
