import Mathlib.Algebra.Ring.Nat
import SszSchema.Codec.Bytes

/-!
# Byte strings

Numbers and byte strings of their width are in one-to-one correspondence (`toNat_littleEndian`,
`littleEndian_toNat`). Slices of a byte string at adjacent positions join (`slice_append_slice`),
and bytes put in the place of as many others change nothing around them (`patch_append`).
-/

namespace SszSchema.Bytes

/-! ## Numbers -/

@[simp] theorem length_littleEndian (width n : Nat) : (littleEndian width n).length = width := by
  induction width generalizing n with
  | zero => rfl
  | succ width ih => simp [littleEndian, ih]

theorem toNat_lt (bs : List UInt8) : toNat bs < 2 ^ (8 * bs.length) := by
  induction bs with
  | nil => simp [toNat]
  | cons b rest ih =>
    have hb := b.toNat_lt
    have hpow : 2 ^ (8 * (rest.length + 1)) = 2 ^ (8 * rest.length) * 256 := by
      rw [Nat.mul_succ, Nat.pow_add]
    simp only [toNat, List.length_cons]
    omega

/-- A number that fits its width is the number that its bytes stand for. -/
theorem toNat_littleEndian {width n : Nat} (h : n < 2 ^ (8 * width)) :
    toNat (littleEndian width n) = n := by
  induction width generalizing n with
  | zero =>
    simp only [Nat.mul_zero, Nat.pow_zero] at h
    simp only [littleEndian, toNat]
    omega
  | succ width ih =>
    have hpow : 2 ^ (8 * (width + 1)) = 2 ^ (8 * width) * 256 := by
      rw [Nat.mul_succ, Nat.pow_add]
    have hrest : n / 256 < 2 ^ (8 * width) := by omega
    have hlow : (UInt8.ofNat (n % 256)).toNat = n % 256 := by simp
    simp only [littleEndian, toNat, ih hrest, hlow]
    omega

/-- Bytes are those of the number that they stand for. -/
theorem littleEndian_toNat (bs : List UInt8) : littleEndian bs.length (toNat bs) = bs := by
  induction bs with
  | nil => rfl
  | cons b rest ih =>
    have hb := b.toNat_lt
    have hlow : (b.toNat + 256 * toNat rest) % 256 = b.toNat := by omega
    have hhigh : (b.toNat + 256 * toNat rest) / 256 = toNat rest := by omega
    simp only [toNat, List.length_cons, littleEndian, hlow, hhigh, ih, UInt8.ofNat_toNat]

theorem littleEndian_of_toNat {bs : List UInt8} {width n : Nat} (hl : bs.length = width)
    (hn : toNat bs = n) : littleEndian width n = bs := by
  rw [← hl, ← hn, littleEndian_toNat]

/-! ## Slices -/

theorem length_slice {bs : List UInt8} {start stop : Nat} (h : stop ≤ bs.length) :
    (slice bs start stop).length = stop - start := by
  simp [slice, Nat.min_eq_left h]

theorem slice_append (a b c : List UInt8) :
    slice (a ++ b ++ c) a.length (a.length + b.length) = b := by
  simp [slice, List.take_append]

/-- Adjacent slices join. -/
theorem slice_append_slice (bs : List UInt8) {start middle stop : Nat} (h₁ : start ≤ middle)
    (h₂ : middle ≤ stop) : slice bs start middle ++ slice bs middle stop = slice bs start stop := by
  have hmiddle : bs.take middle = (bs.take stop).take middle := by
    rw [List.take_take, Nat.min_eq_left h₂]
  unfold slice
  rw [hmiddle]
  generalize bs.take stop = l
  rw [List.drop_take]
  have hdrop : l.drop middle = (l.drop start).drop (middle - start) := by
    rw [List.drop_drop]
    congr 1
    omega
  rw [hdrop, List.take_append_drop]

theorem slice_length (bs : List UInt8) (start : Nat) :
    slice bs start bs.length = bs.drop start := by
  simp [slice]

@[simp] theorem slice_self (bs : List UInt8) (i : Nat) : slice bs i i = [] := by simp [slice]

/-! ## Patches -/

/-- Bytes put in the place of as many others. -/
theorem patch_append (a b c new : List UInt8) (h : new.length = b.length) :
    patch (a ++ b ++ c) a.length new = a ++ new ++ c := by
  have hdrop : (a ++ b ++ c).drop (a.length + new.length) = c := by
    rw [h, ← List.length_append, List.drop_left]
  rw [patch, hdrop, List.append_assoc a b c, List.take_left]

end SszSchema.Bytes
