import Mathlib.Algebra.Ring.Nat
import SszSchema.Codec.Bits
import SszSchema.Proofs.Steps

/-!
# Packed bits

`Packed bits bs` says without reference to any algorithm what bytes hold bits: there are just enough
bytes, the bits stand at their positions, and all positions behind them are zero. A bit list is
packed with its delimiter as one more bit.

`packed_toBytes` and `packed_packList` say that packing makes such bytes, and `Packed.unique` that
there are no others. `unpackVector_eq_ok_iff` and `unpackList_eq_ok_iff` say that reading accepts
exactly such bytes. So packing and reading undo each other (`pack_unpack`), whatever the number of
bits.
-/

namespace SszSchema.Bits

/-- The bit at a position; there are zeros behind the last byte. -/
def bitAt (bs : List UInt8) (i : Nat) : Bool :=
  match bs[i / 8]? with
  | some b => b.toNat.testBit (i % 8)
  | none => false

/-- The bytes hold the bits and are padded with zeros. -/
def Packed (bits : List Bool) (bs : List UInt8) : Prop :=
  bs.length = (bits.length + 7) / 8 ∧ ∀ i, bitAt bs i = bits.getD i false

/-! ## Bits of a byte -/

theorem getD_eq_false {bits : List Bool} {i : Nat} (h : bits.length ≤ i) :
    bits.getD i false = false := by
  rw [List.getD_eq_getElem?_getD, List.getElem?_eq_none h, Option.getD_none]

theorem testBit_foldr (bits : List Bool) (i : Nat) :
    (bits.foldr (fun (b : Bool) n => 2 * n + b.toNat) 0).testBit i = bits.getD i false := by
  induction bits generalizing i with
  | nil => simp
  | cons b rest ih =>
    cases i with
    | zero => cases b <;> simp
    | succ i =>
      have hb : b.toNat ≤ 1 := Bool.toNat_le b
      have hhalf (n : Nat) : (2 * n + b.toNat) / 2 = n := by omega
      rw [List.foldr_cons, Nat.testBit_add_one, hhalf, ih, List.getD_cons_succ]

theorem foldr_lt (bits : List Bool) :
    bits.foldr (fun (b : Bool) n => 2 * n + b.toNat) 0 < 2 ^ bits.length := by
  induction bits with
  | nil => simp
  | cons b rest ih =>
    have hb : b.toNat ≤ 1 := Bool.toNat_le b
    rw [List.foldr_cons, List.length_cons, Nat.pow_succ]
    omega

theorem testBit_toByte {bits : List Bool} (h : bits.length ≤ 8) (i : Nat) :
    (toByte bits).toNat.testBit i = bits.getD i false := by
  have hlt : bits.foldr (fun (b : Bool) n => 2 * n + b.toNat) 0 < 256 :=
    Nat.lt_of_lt_of_le (foldr_lt bits) (Nat.pow_le_pow_right (by decide) h)
  rw [toByte, UInt8.toNat_ofNat_of_lt' hlt, testBit_foldr]

/-- No bit of a byte stands behind the eighth. -/
theorem testBit_byte (b : UInt8) {i : Nat} (h : 8 ≤ i) : b.toNat.testBit i = false :=
  Nat.testBit_lt_two_pow (Nat.lt_of_lt_of_le b.toNat_lt (Nat.pow_le_pow_right (by decide) h))

theorem byte_ext {b c : UInt8} (h : ∀ i < 8, b.toNat.testBit i = c.toNat.testBit i) : b = c := by
  apply UInt8.toNat_inj.mp
  apply Nat.eq_of_testBit_eq
  intro i
  rcases Nat.lt_or_ge i 8 with hi | hi
  · exact h i hi
  · rw [testBit_byte b hi, testBit_byte c hi]

/-! ## Bits of bytes -/

theorem bitAt_eq_false {bs : List UInt8} {i : Nat} (h : 8 * bs.length ≤ i) :
    bitAt bs i = false := by
  have hnone : bs[i / 8]? = none := List.getElem?_eq_none (by omega)
  simp [bitAt, hnone]

theorem bitAt_cons_of_lt {b : UInt8} {bs : List UInt8} {i : Nat} (h : i < 8) :
    bitAt (b :: bs) i = b.toNat.testBit i := by
  have hdiv : i / 8 = 0 := by omega
  have hmod : i % 8 = i := by omega
  simp [bitAt, hdiv, hmod]

theorem bitAt_cons_add (b : UInt8) (bs : List UInt8) (i : Nat) :
    bitAt (b :: bs) (i + 8) = bitAt bs i := by
  have hdiv : (i + 8) / 8 = i / 8 + 1 := by omega
  have hmod : (i + 8) % 8 = i % 8 := by omega
  simp [bitAt, hdiv, hmod]

/-- Bytes with the same bits are the same, if they are as many. -/
theorem ext_bitAt {bs cs : List UInt8} (hl : bs.length = cs.length)
    (h : ∀ i, bitAt bs i = bitAt cs i) : bs = cs := by
  induction bs generalizing cs with
  | nil => exact (List.length_eq_zero_iff.mp hl.symm).symm
  | cons b bs ih =>
    cases cs with
    | nil => simp at hl
    | cons c cs =>
      have hb : b = c := byte_ext fun i hi => by
        simpa [bitAt_cons_of_lt hi] using h i
      have hbs : bs = cs := ih (by simpa using hl) fun i => by
        simpa [bitAt_cons_add] using h (i + 8)
      rw [hb, hbs]

/-- Bits are packed in one way only. -/
theorem Packed.unique {bits : List Bool} {bs cs : List UInt8} (hb : Packed bits bs)
    (hc : Packed bits cs) : bs = cs :=
  ext_bitAt (hb.1.trans hc.1.symm) fun i => (hb.2 i).trans (hc.2 i).symm

/-! ## Packing -/

@[simp] theorem length_toBytes (count : Nat) (bits : List Bool) :
    (toBytes count bits).length = count := by
  induction count generalizing bits with
  | zero => rfl
  | succ count ih => simp [toBytes, ih]

theorem bitAt_toBytes {count : Nat} {bits : List Bool} (h : bits.length ≤ 8 * count) (i : Nat) :
    bitAt (toBytes count bits) i = bits.getD i false := by
  induction count generalizing bits i with
  | zero =>
    obtain rfl : bits = [] := List.length_eq_zero_iff.mp (by omega)
    simp [toBytes, bitAt]
  | succ count ih =>
    rw [toBytes]
    rcases Nat.lt_or_ge i 8 with hi | hi
    · have htake : (bits.take 8).length ≤ 8 := List.length_take_le 8 bits
      rw [bitAt_cons_of_lt hi, testBit_toByte htake]
      simp [List.getD_eq_getElem?_getD, hi]
    · obtain ⟨j, rfl⟩ : ∃ j, i = j + 8 := ⟨i - 8, by omega⟩
      rw [bitAt_cons_add, ih (by rw [List.length_drop]; omega)]
      simp [List.getD_eq_getElem?_getD, List.getElem?_drop, Nat.add_comm]

/-- Packing makes bytes that hold the bits. -/
theorem packed_toBytes {bits : List Bool} {count : Nat} (h : count = (bits.length + 7) / 8) :
    Packed bits (toBytes count bits) :=
  ⟨by simp [h], bitAt_toBytes (by omega)⟩

theorem pack_eq_ok {bits : List Bool} {count : Nat} (h : bits.length ≤ 8 * count) :
    pack bits count = .ok (toBytes count bits) := by
  have hdrop : bits.drop (8 * count) = [] := List.drop_eq_nil_of_le h
  simp [pack, hdrop]

/-- A packed bit list holds its bits and the delimiter. -/
theorem packed_packList (bits : List Bool) : Packed (bits ++ [true]) (packList bits) :=
  packed_toBytes (by simp; omega)

/-! ## Reading -/

open Outcome

theorem get_eq_ok {bs : List UInt8} {i : Nat} (h : i < 8 * bs.length) :
    get bs i = .ok (bitAt bs i) := by
  have hsome : bs[i / 8]? = some bs[i / 8] := List.getElem?_eq_getElem (by omega)
  simp [get, bitAt, hsome]

theorem take_eq_ok {bs : List UInt8} {count : Nat} (h : count ≤ 8 * bs.length) :
    take bs count = .ok ((List.range count).map (bitAt bs)) := by
  rw [take, mapM_eq_ok_iff, List.forall₂_map_right_iff, List.forall₂_same]
  intro i hi
  exact get_eq_ok (by have := List.mem_range.mp hi; omega)

/-- Bits read off the bytes that hold them, and perhaps more. -/
theorem map_bitAt {bs : List UInt8} {bits : List Bool} (more : List Bool)
    (h : ∀ i, bitAt bs i = (bits ++ more).getD i false) :
    (List.range bits.length).map (bitAt bs) = bits := by
  apply List.ext_getElem (by simp)
  intro i hi hi'
  simp [h, List.getD_eq_getElem?_getD, List.getElem?_append_left hi', hi']

/-- The bits of a number from a position on are zero if the number is below that power. -/
theorem div_two_pow_eq_zero_iff (n k : Nat) : n / 2 ^ k = 0 ↔ ∀ i, k ≤ i → n.testBit i = false := by
  rw [Nat.div_eq_zero_iff_lt (Nat.two_pow_pos k)]
  constructor
  · intro h i hi
    exact Nat.testBit_lt_two_pow (Nat.lt_of_lt_of_le h (Nat.pow_le_pow_right (by decide) hi))
  · exact Nat.lt_pow_two_of_testBit n

/-- The bits of the last byte. -/
theorem bitAt_last {bs : List UInt8} {last : UInt8} (h : bs.getLast? = some last) (i : Nat) :
    bitAt bs (8 * (bs.length - 1) + i) = (i < 8 && last.toNat.testBit i) := by
  have hne : bs ≠ [] := by rintro rfl; simp at h
  have hpos : 0 < bs.length := List.length_pos_iff.mpr hne
  rcases Nat.lt_or_ge i 8 with hi | hi
  · have hdiv : (8 * (bs.length - 1) + i) / 8 = bs.length - 1 := by omega
    have hmod : (8 * (bs.length - 1) + i) % 8 = i := by omega
    rw [List.getLast?_eq_getElem?] at h
    simp [bitAt, hdiv, hmod, h, hi]
  · rw [bitAt_eq_false (by omega)]
    simp [Nat.not_lt.mpr hi]

/-- The padding of a bit vector is zero. -/
theorem padding_eq_zero_iff {bs : List UInt8} {last : UInt8} {count : Nat}
    (hl : bs.length = (count + 7) / 8) (hcount : count % 8 ≠ 0) (h : bs.getLast? = some last) :
    last.toNat >>> (count % 8) = 0 ↔ ∀ i, count ≤ i → bitAt bs i = false := by
  have hbase : count = 8 * (bs.length - 1) + count % 8 := by omega
  rw [Nat.shiftRight_eq_div_pow, div_two_pow_eq_zero_iff]
  constructor
  · intro hz i hi
    obtain ⟨j, rfl⟩ : ∃ j, i = 8 * (bs.length - 1) + j := ⟨i - 8 * (bs.length - 1), by omega⟩
    rw [bitAt_last h, hz j (by omega), Bool.and_false]
  · intro hz i hi
    rcases Nat.lt_or_ge i 8 with hi8 | hi8
    · have := hz (8 * (bs.length - 1) + i) (by omega)
      rw [bitAt_last h] at this
      simpa [hi8] using this
    · exact testBit_byte last hi8

/-- Reading a bit vector accepts exactly the bytes that hold its bits. -/
theorem unpackVector_eq_ok_iff {bs : List UInt8} {bits : List Bool} {count : Nat}
    (hl : bs.length = (count + 7) / 8) :
    unpackVector bs count = .ok bits ↔ bits.length = count ∧ Packed bits bs := by
  have htake : take bs count = .ok ((List.range count).map (bitAt bs)) := take_eq_ok (by omega)
  have hpacked : (bits.length = count ∧ Packed bits bs) ↔
      (List.range count).map (bitAt bs) = bits ∧ ∀ i, count ≤ i → bitAt bs i = false := by
    constructor
    · rintro ⟨rfl, h⟩
      refine ⟨map_bitAt [] (by simpa using h.2), fun i hi => ?_⟩
      rw [h.2, getD_eq_false hi]
    · rintro ⟨rfl, hz⟩
      refine ⟨by simp, by simpa using hl, fun i => ?_⟩
      rcases Nat.lt_or_ge i count with hi | hi
      · simp [List.getD_eq_getElem?_getD, hi]
      · rw [hz i hi, getD_eq_false (by simpa using hi)]
  rw [hpacked, unpackVector, htake]
  by_cases hcount : count % 8 = 0
  · have hz : ∀ i, count ≤ i → bitAt bs i = false := fun i hi => bitAt_eq_false (by omega)
    rw [if_pos hcount, Except.ok.injEq]
    exact ⟨fun h => ⟨h, hz⟩, And.left⟩
  · have hne : bs ≠ [] := by
      rintro rfl
      simp only [List.length_nil] at hl
      omega
    have hlast := List.getLast?_eq_some_getLast hne
    rw [if_neg hcount, hlast, ← padding_eq_zero_iff hl hcount hlast]
    by_cases hpad : (bs.getLast hne).toNat >>> (count % 8) = 0
    · simp only [hpad, ne_eq, not_true_eq_false, if_false, and_true, Except.ok.injEq]
    · simp only [hpad, ne_eq, not_false_eq_true, if_true, and_false, reduceCtorEq]

/-! ## Delimiters -/

/-- The highest set bit of a number. -/
theorem log2_eq_iff_testBit {m k : Nat} :
    m ≠ 0 ∧ Nat.log2 m = k ↔ m.testBit k = true ∧ ∀ i, k < i → m.testBit i = false := by
  constructor
  · rintro ⟨hm, hk⟩
    have hbounds := (Nat.log2_eq_iff hm).mp hk
    have hzero : ∀ i, k < i → m.testBit i = false := fun i hi =>
      Nat.testBit_lt_two_pow (Nat.lt_of_lt_of_le hbounds.2 (Nat.pow_le_pow_right (by decide) hi))
    refine ⟨?_, hzero⟩
    by_contra hbit
    have hlt : m < 2 ^ k := Nat.lt_pow_two_of_testBit m fun i hi => by
      rcases Nat.eq_or_lt_of_le hi with rfl | hi
      · simpa using hbit
      · exact hzero i hi
    omega
  · rintro ⟨hbit, hzero⟩
    have hle : 2 ^ k ≤ m := Nat.ge_two_pow_of_testBit hbit
    have hm : m ≠ 0 := by have := Nat.two_pow_pos k; omega
    exact ⟨hm, (Nat.log2_eq_iff hm).mpr ⟨hle, Nat.lt_pow_two_of_testBit m hzero⟩⟩

theorem width_eq {m : Nat} (h : m ≠ 0) : width m = Nat.log2 m + 1 := by
  cases m with
  | zero => exact absurd rfl h
  | succ m => rfl

/-- The delimiter is the last set bit of all. -/
theorem listLength_eq_ok_iff_bitAt {bs : List UInt8} {n : Nat} :
    listLength bs = .ok n ↔
      bs.length = n / 8 + 1 ∧ bitAt bs n = true ∧ ∀ i, n < i → bitAt bs i = false := by
  rcases List.eq_nil_or_concat bs with rfl | ⟨front, last, rfl⟩
  · simp [listLength]
  · rw [List.concat_eq_append]
    have hlast : (front ++ [last]).getLast? = some last := by simp
    have hbit (j : Nat) : bitAt (front ++ [last]) (8 * front.length + j) =
        (j < 8 && last.toNat.testBit j) := by simpa using bitAt_last hlast j
    have hlength : listLength (front ++ [last]) = .ok n ↔
        last.toNat ≠ 0 ∧ 8 * front.length + Nat.log2 last.toNat = n := by
      rw [listLength, hlast]
      by_cases hzero : last = 0
      · simp [hzero]
      · have hne : last.toNat ≠ 0 := fun h => hzero (UInt8.toNat_inj.mp h)
        simp only [hzero, if_false, width_eq hne, Except.ok.injEq, List.length_append,
          List.length_singleton]
        omega
    rw [hlength]
    constructor
    · rintro ⟨hne, rfl⟩
      have hlog : Nat.log2 last.toNat < 8 := (Nat.log2_lt hne).mpr last.toNat_lt
      obtain ⟨htop, hzero⟩ := log2_eq_iff_testBit.mp ⟨hne, rfl⟩
      refine ⟨by simp; omega, by rw [hbit]; simp [hlog, htop], fun i hi => ?_⟩
      obtain ⟨j, rfl⟩ : ∃ j, i = 8 * front.length + j := ⟨i - 8 * front.length, by omega⟩
      rw [hbit, hzero j (by omega), Bool.and_false]
    · rintro ⟨hl, htop, hzero⟩
      obtain ⟨j, rfl⟩ : ∃ j, n = 8 * front.length + j :=
        ⟨n - 8 * front.length, by simp at hl; omega⟩
      rw [hbit] at htop
      have hj := Bool.and_eq_true_iff.mp htop
      have hhigh : ∀ i, j < i → last.toNat.testBit i = false := fun i hi => by
        rcases Nat.lt_or_ge i 8 with hi8 | hi8
        · have := hzero (8 * front.length + i) (by omega)
          rw [hbit] at this
          simpa [hi8] using this
        · exact testBit_byte last hi8
      obtain ⟨hne, hlog⟩ := log2_eq_iff_testBit.mpr ⟨hj.2, hhigh⟩
      exact ⟨hne, by rw [hlog]⟩

theorem packed_concat_iff {bits : List Bool} {bs : List UInt8} :
    Packed (bits ++ [true]) bs ↔
      bs.length = bits.length / 8 + 1 ∧ (List.range bits.length).map (bitAt bs) = bits ∧
        bitAt bs bits.length = true ∧ ∀ i, bits.length < i → bitAt bs i = false := by
  have hcount : ((bits ++ [true]).length + 7) / 8 = bits.length / 8 + 1 := by simp; omega
  rw [Packed, hcount]
  refine and_congr_right fun _ => ⟨fun h => ⟨map_bitAt [true] h, ?_, fun i hi => ?_⟩, ?_⟩
  · simp [h, List.getD_eq_getElem?_getD]
  · rw [h, getD_eq_false (by simpa using Nat.succ_le_of_lt hi)]
  · rintro ⟨hbits, htop, hzero⟩ i
    rcases Nat.lt_trichotomy i bits.length with hi | rfl | hi
    · have hmap : ((List.range bits.length).map (bitAt bs))[i]? = some (bitAt bs i) := by simp [hi]
      rw [hbits] at hmap
      rw [List.getD_eq_getElem?_getD, List.getElem?_append_left hi, hmap, Option.getD_some]
    · simp [htop, List.getD_eq_getElem?_getD]
    · rw [hzero i hi, getD_eq_false (by simpa using Nat.succ_le_of_lt hi)]

/-- A length is found in exactly the bytes that hold as many bits and the delimiter. -/
theorem listLength_eq_ok_iff {bs : List UInt8} {n : Nat} :
    listLength bs = .ok n ↔ ∃ bits : List Bool, bits.length = n ∧ Packed (bits ++ [true]) bs := by
  rw [listLength_eq_ok_iff_bitAt]
  constructor
  · rintro ⟨hl, htop, hzero⟩
    exact ⟨(List.range n).map (bitAt bs), by simp,
      packed_concat_iff.mpr ⟨by simpa using hl, by simp, by simpa using htop, by simpa using hzero⟩⟩
  · rintro ⟨bits, rfl, h⟩
    obtain ⟨hl, -, htop, hzero⟩ := packed_concat_iff.mp h
    exact ⟨hl, htop, hzero⟩

theorem boundedLength_eq_ok_iff {bs : List UInt8} {limit : Option Nat} {n : Nat} :
    boundedLength bs limit = .ok n ↔ listLength bs = .ok n ∧ ∀ l ∈ limit, n ≤ l := by
  rw [boundedLength, bind_eq_ok]
  cases limit with
  | none => simp
  | some limit =>
    constructor
    · rintro ⟨m, hm, h⟩
      by_cases hlimit : m > limit
      · simp [hlimit] at h
      · simp only [hlimit, if_false, pure_eq_ok] at h
        subst h
        exact ⟨hm, by simpa using hlimit⟩
    · rintro ⟨hn, hlimit⟩
      have hle : ¬n > limit := by simpa using hlimit
      exact ⟨n, hn, by simp [hle]⟩

/-- Reading a bit list accepts exactly the bytes that hold its bits and the delimiter. -/
theorem unpackList_eq_ok_iff {bs : List UInt8} {limit : Option Nat} {bits : List Bool} :
    unpackList bs limit = .ok bits ↔
      Packed (bits ++ [true]) bs ∧ ∀ l ∈ limit, bits.length ≤ l := by
  rw [unpackList, bind_eq_ok]
  constructor
  · rintro ⟨n, hn, htake⟩
    obtain ⟨hlength, hlimit⟩ := boundedLength_eq_ok_iff.mp hn
    obtain ⟨bits', rfl, h⟩ := listLength_eq_ok_iff.mp hlength
    obtain ⟨hl, hbits, -⟩ := packed_concat_iff.mp h
    rw [take_eq_ok (by omega), hbits] at htake
    obtain rfl := Except.ok.inj htake
    exact ⟨h, hlimit⟩
  · rintro ⟨h, hlimit⟩
    obtain ⟨hl, hbits, -⟩ := packed_concat_iff.mp h
    refine ⟨bits.length, boundedLength_eq_ok_iff.mpr
      ⟨listLength_eq_ok_iff.mpr ⟨bits, rfl, h⟩, hlimit⟩, ?_⟩
    rw [take_eq_ok (by omega), hbits]

theorem checkPacked_eq_ok_iff {bs cs : List UInt8} {limit : Option Nat} :
    checkPacked bs limit = .ok cs ↔
      cs = bs ∧ ∃ bits, Packed (bits ++ [true]) bs ∧ ∀ l ∈ limit, bits.length ≤ l := by
  rw [checkPacked, bind_eq_ok]
  constructor
  · rintro ⟨n, hn, h⟩
    obtain rfl := pure_eq_ok.mp h
    obtain ⟨hlength, hlimit⟩ := boundedLength_eq_ok_iff.mp hn
    obtain ⟨bits, rfl, h⟩ := listLength_eq_ok_iff.mp hlength
    exact ⟨rfl, bits, h, hlimit⟩
  · rintro ⟨rfl, bits, h, hlimit⟩
    exact ⟨bits.length, boundedLength_eq_ok_iff.mpr
      ⟨listLength_eq_ok_iff.mpr ⟨bits, rfl, h⟩, hlimit⟩, rfl⟩

/-! ## Inverse laws -/

/-- A bit list that is longer than its limit is refused for that. -/
theorem unpackList_of_lt {bits : List Bool} {bs : List UInt8} {l : Nat}
    (h : Packed (bits ++ [true]) bs) (hl : l < bits.length) :
    unpackList bs (some l) =
      .error (.raised .listTooBig (toString bits.length ++ " bits > " ++ toString l)) := by
  have hlength : listLength bs = .ok bits.length := listLength_eq_ok_iff.mpr ⟨bits, rfl, h⟩
  have hbounded : boundedLength bs (some l) =
      .error (.raised .listTooBig (toString bits.length ++ " bits > " ++ toString l)) := by
    rw [boundedLength, bind_of_ok hlength]
    exact if_pos hl
  rw [unpackList, hbounded]
  rfl

/-- Packing and reading undo each other. -/
structure Inverse (bits : List Bool) (bs : List UInt8) (limit : Option Nat) : Prop where
  length_packList : (packList bits).length = bits.length / 8 + 1
  listLength_packList : listLength (packList bits) = .ok bits.length
  unpackList_packList : (∀ l ∈ limit, bits.length ≤ l) →
    unpackList (packList bits) limit = .ok bits
  tooLong : ∀ l ∈ limit, l < bits.length → unpackList (packList bits) limit =
    .error (.raised .listTooBig (toString bits.length ++ " bits > " ++ toString l))
  /-- What reads bytes as a bit list, counts its bits and leaves it packed comes to the same. -/
  packList_unpackList : ∀ out, unpackList bs limit = .ok out →
    packList out = bs ∧ checkPacked bs limit = .ok bs ∧ listLength bs = .ok out.length
  unpackVector_pack : ∃ packed, pack bits ((bits.length + 7) / 8) = .ok packed ∧
    unpackVector packed bits.length = .ok bits
  pack_unpackVector : ∀ count out, bs.length = (count + 7) / 8 → unpackVector bs count = .ok out →
    out.length = count ∧ pack out ((count + 7) / 8) = .ok bs

theorem pack_unpack (bits : List Bool) (bs : List UInt8) (limit : Option Nat) :
    Inverse bits bs limit where
  length_packList := by rw [packList, length_toBytes]
  listLength_packList := listLength_eq_ok_iff.mpr ⟨bits, rfl, packed_packList bits⟩
  unpackList_packList h := unpackList_eq_ok_iff.mpr ⟨packed_packList bits, h⟩
  tooLong := by
    rintro l rfl hl
    exact unpackList_of_lt (packed_packList bits) hl
  packList_unpackList out h := by
    obtain ⟨hpacked, hlimit⟩ := unpackList_eq_ok_iff.mp h
    exact ⟨(packed_packList out).unique hpacked,
      checkPacked_eq_ok_iff.mpr ⟨rfl, out, hpacked, hlimit⟩,
      listLength_eq_ok_iff.mpr ⟨out, rfl, hpacked⟩⟩
  unpackVector_pack := by
    refine ⟨_, pack_eq_ok (by omega), ?_⟩
    exact (unpackVector_eq_ok_iff (length_toBytes _ _)).mpr ⟨rfl, packed_toBytes rfl⟩
  pack_unpackVector count out hl h := by
    obtain ⟨rfl, hpacked⟩ := (unpackVector_eq_ok_iff hl).mp h
    refine ⟨rfl, ?_⟩
    rw [pack_eq_ok (by omega), (packed_toBytes rfl).unique hpacked]

/-- Eight bits fill a byte, so their delimiter opens another one. -/
theorem pack_unpack_byte :
    packList [true, false, true, true, false, false, false, true] = [0x8D, 0x01] ∧
    unpackList [0x8D, 0x01] (some 8) =
      .ok [true, false, true, true, false, false, false, true] ∧
    unpackList [0x8D, 0x01] (some 7) = .error (.raised .listTooBig "8 bits > 7") ∧
    pack [true, false, true, true, false, false, false, true] 1 = .ok [0x8D] := by
  have hread := pack_unpack [true, false, true, true, false, false, false, true] [0x8D, 0x01]
    (some 8)
  have hlong := pack_unpack [true, false, true, true, false, false, false, true] [0x8D] (some 7)
  have hpacked : packList [true, false, true, true, false, false, false, true] = [0x8D, 0x01] := by
    decide
  refine ⟨hpacked, ?_, ?_, ?_⟩
  · exact hpacked ▸ hread.unpackList_packList (by decide)
  · exact hpacked ▸ hlong.tooLong 7 rfl (by decide)
  · exact (hlong.pack_unpackVector 8 _ rfl (by decide)).2

/-! ## Truth values -/

/-- A byte is read as a truth value if it is zero or one. -/
theorem decodeBool_eq_ok_iff {bs : List UInt8} (hl : bs.length = 1) {b : Bool} :
    decodeBool bs = .ok b ↔ bs = [if b then 1 else 0] := by
  obtain ⟨byte, rfl⟩ := List.length_eq_one_iff.mp hl
  simp only [decodeBool, List.head?_cons, List.cons.injEq, and_true]
  by_cases hbyte : byte > 1
  · rw [if_pos hbyte]
    refine ⟨nofun, ?_⟩
    rintro rfl
    cases b <;> exact absurd hbyte (by decide)
  · have hcases : byte = 0 ∨ byte = 1 := by
      have hle : byte.toNat ≤ 1 := Nat.le_of_not_lt hbyte
      rcases Nat.le_one_iff_eq_zero_or_eq_one.mp hle with h | h
      · exact .inl (UInt8.toNat_inj.mp h)
      · exact .inr (UInt8.toNat_inj.mp h)
    rcases hcases with rfl | rfl <;> cases b <;> decide

end SszSchema.Bits
