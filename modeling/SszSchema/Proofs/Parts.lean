import Mathlib.Algebra.Order.BigOperators.Group.List
import Mathlib.Algebra.Order.Group.Nat
import Mathlib.Algebra.Ring.Nat
import Mathlib.Data.List.Forall2
import SszSchema.Graph
import SszSchema.Proofs.ByteStrings

/-!
# Parts of an encoding

A container or sequence is laid out in two stretches. First comes the region of heads: each part
stands there itself, or else an offset to where it begins. Behind it come the bodies, the parts that
offsets lead to. Offsets are counted from the start of the region.

`layout` builds such bytes from the parts. `split` goes the other way: it takes bytes apart given
only which parts stand in the region and how long those are. `Laid` is what a reader can check
about bytes before taking them apart. Bytes that pass are the layout of their parts
(`Laid.layout_split`), and the layout of parts passes and is taken apart into them
(`split_layout`).
-/

namespace SszSchema

/-- A part of an encoding: it stands in the region of heads, or behind it at an offset. -/
inductive Part where
  | inline (bytes : List UInt8)
  | offset (bytes : List UInt8)
  deriving DecidableEq, Repr

namespace Part

/-- The bytes of a part. -/
def bytes : Part → List UInt8
  | .inline bs => bs
  | .offset bs => bs

/-- The bytes that a part takes in the region of heads. -/
def width : Part → Nat
  | .inline bs => bs.length
  | .offset _ => offsetBytes

/-- What stands behind the region of heads. -/
def body : Part → List UInt8
  | .inline _ => []
  | .offset bs => bs

/-- The size of the region of heads. -/
def region (ps : List Part) : Nat := (ps.map width).sum

/-- The bodies one after the other. -/
def bodies (ps : List Part) : List UInt8 := ps.flatMap body

/-- The region of heads, where `next` is the position of the first body. -/
def heads : Nat → List Part → List UInt8
  | _, [] => []
  | next, .inline bs :: ps => bs ++ heads next ps
  | next, .offset bs :: ps =>
      Bytes.littleEndian offsetBytes next ++ heads (next + bs.length) ps

/-- All offsets fit their bytes. -/
def Fit : Nat → List Part → Prop
  | _, [] => True
  | next, .inline _ :: ps => Fit next ps
  | next, .offset bs :: ps => next < 2 ^ (8 * offsetBytes) ∧ Fit (next + bs.length) ps

/-- Parts one after the other, with offsets in the places of those that stand behind. -/
def layout (ps : List Part) : List UInt8 := heads (region ps) ps ++ bodies ps

@[simp] theorem region_nil : region [] = 0 := rfl

@[simp] theorem region_cons (p : Part) (ps : List Part) :
    region (p :: ps) = p.width + region ps := by
  simp [region]

@[simp] theorem bodies_nil : bodies [] = [] := rfl

@[simp] theorem bodies_cons (p : Part) (ps : List Part) :
    bodies (p :: ps) = p.body ++ bodies ps := by
  simp [bodies]

@[simp] theorem length_heads (next : Nat) (ps : List Part) :
    (heads next ps).length = region ps := by
  induction ps generalizing next with
  | nil => rfl
  | cons p ps ih => cases p <;> simp [heads, width, ih]

theorem length_layout (ps : List Part) : (layout ps).length = region ps + (bodies ps).length := by
  simp [layout]

theorem width_le_region {p : Part} {ps : List Part} (h : p ∈ ps) : p.width ≤ region ps :=
  List.le_sum_of_mem (List.mem_map_of_mem h)

theorem length_body_le {p : Part} {ps : List Part} (h : p ∈ ps) :
    p.body.length ≤ (bodies ps).length := by
  rw [bodies, List.length_flatMap]
  exact List.le_sum_of_mem (List.mem_map_of_mem h)

theorem length_bytes_le {p : Part} {ps : List Part} (h : p ∈ ps) :
    p.bytes.length ≤ (layout ps).length := by
  have hwidth := width_le_region h
  have hbody := length_body_le h
  rw [length_layout]
  cases p <;> simp only [bytes, width, body] at hwidth hbody ⊢ <;> omega

/-! ## Parts that all stand in the region -/

theorem heads_inline (next : Nat) (bss : List (List UInt8)) :
    heads next (bss.map inline) = bss.flatten := by
  induction bss with
  | nil => rfl
  | cons bs bss ih => simp [heads, ih]

theorem bodies_inline (bss : List (List UInt8)) : bodies (bss.map inline) = [] := by
  induction bss with
  | nil => rfl
  | cons bs bss ih => simp [body, ih]

theorem layout_inline (bss : List (List UInt8)) : layout (bss.map inline) = bss.flatten := by
  rw [layout, heads_inline, bodies_inline, List.append_nil]

theorem fit_inline (next : Nat) (bss : List (List UInt8)) : Fit next (bss.map inline) := by
  induction bss with
  | nil => trivial
  | cons bs bss ih => exact ih

/-! ## Taking bytes apart -/

/-- Whether a part is where its size says: of that size in the region, or else behind it. -/
def Fills : Option Nat → Part → Prop
  | some n, .inline bs => bs.length = n
  | none, .offset _ => True
  | _, _ => False

/-- The size of the region of heads, by the sizes of parts in it. -/
def regionOf (sizes : List (Option Nat)) : Nat := (sizes.map fun s => s.getD offsetBytes).sum

@[simp] theorem regionOf_cons (s : Option Nat) (sizes : List (Option Nat)) :
    regionOf (s :: sizes) = s.getD offsetBytes + regionOf sizes := by
  simp [regionOf]

theorem region_of_fills {sizes : List (Option Nat)} {ps : List Part}
    (h : List.Forall₂ Fills sizes ps) : region ps = regionOf sizes := by
  induction h with
  | nil => rfl
  | @cons s p sizes ps hp _ ih =>
    rw [region_cons, regionOf_cons, ih]
    rcases s with _ | n <;> rcases p with bs | bs <;> simp [Fills] at hp <;> simp [width, hp]

theorem fills_of_mem {s : Option Nat} {count : Nat} {p : Part} {ps : List Part}
    (h : List.Forall₂ Fills (List.replicate count s) ps) (hp : p ∈ ps) : Fills s p := by
  induction count generalizing ps with
  | zero =>
    cases h
    simp at hp
  | succ count ih =>
    rw [List.replicate_succ] at h
    cases h with
    | cons h hs =>
      rcases List.mem_cons.mp hp with rfl | hp
      · exact h
      · exact ih hs hp

/-- The offset at a position. -/
def offsetAt (buf : List UInt8) (pos : Nat) : Nat :=
  Bytes.toNat (Bytes.slice buf pos (pos + offsetBytes))

/-- The offsets in a region of heads from a position on. -/
def offsets (buf : List UInt8) : Nat → List (Option Nat) → List Nat
  | _, [] => []
  | pos, some n :: sizes => offsets buf (pos + n) sizes
  | pos, none :: sizes => offsetAt buf pos :: offsets buf (pos + offsetBytes) sizes

/-- Where the next body begins, or else the end. -/
def nextBody (buf : List UInt8) (pos : Nat) (sizes : List (Option Nat)) : Nat :=
  (offsets buf pos sizes).headD buf.length

/-- The parts whose heads stand from a position on. -/
def split (buf : List UInt8) : Nat → List (Option Nat) → List Part
  | _, [] => []
  | pos, some n :: sizes => .inline (Bytes.slice buf pos (pos + n)) :: split buf (pos + n) sizes
  | pos, none :: sizes =>
      .offset (Bytes.slice buf (offsetAt buf pos) (nextBody buf (pos + offsetBytes) sizes)) ::
        split buf (pos + offsetBytes) sizes

/-- Positions none of which lies behind the next one or the end. -/
def Ascending (stop : Nat) : List Nat → Prop
  | [] => True
  | n :: rest => n ≤ rest.headD stop ∧ Ascending stop rest

/-- The first body, or else the end, is right behind the heads, and the bodies follow each other. -/
def Laid (buf : List UInt8) (sizes : List (Option Nat)) : Prop :=
  nextBody buf 0 sizes = regionOf sizes ∧ Ascending buf.length (offsets buf 0 sizes)

theorem Ascending.headD_le {stop : Nat} {ns : List Nat} (h : Ascending stop ns) :
    ns.headD stop ≤ stop := by
  induction ns with
  | nil => exact Nat.le_refl stop
  | cons n rest ih => exact Nat.le_trans h.1 (ih h.2)

@[simp] theorem nextBody_inline (buf : List UInt8) (pos n : Nat) (sizes : List (Option Nat)) :
    nextBody buf pos (some n :: sizes) = nextBody buf (pos + n) sizes := rfl

@[simp] theorem nextBody_offset (buf : List UInt8) (pos : Nat) (sizes : List (Option Nat)) :
    nextBody buf pos (none :: sizes) = offsetAt buf pos := rfl

theorem nextBody_le {buf : List UInt8} {pos : Nat} {sizes : List (Option Nat)}
    (h : Ascending buf.length (offsets buf pos sizes)) : nextBody buf pos sizes ≤ buf.length :=
  h.headD_le

theorem ascending_offset {buf : List UInt8} {pos : Nat} {sizes : List (Option Nat)} :
    Ascending buf.length (offsets buf pos (none :: sizes)) ↔
      offsetAt buf pos ≤ nextBody buf (pos + offsetBytes) sizes ∧
        Ascending buf.length (offsets buf (pos + offsetBytes) sizes) := Iff.rfl

theorem offsetAt_lt (buf : List UInt8) (pos : Nat) : offsetAt buf pos < 2 ^ (8 * offsetBytes) := by
  have hle : (Bytes.slice buf pos (pos + offsetBytes)).length ≤ offsetBytes := by
    simp [Bytes.slice]; omega
  exact Nat.lt_of_lt_of_le (Bytes.toNat_lt _) (Nat.pow_le_pow_right (by decide) (by omega))

theorem fills_split {buf : List UInt8} {pos : Nat} {sizes : List (Option Nat)}
    (h : pos + regionOf sizes ≤ buf.length) : List.Forall₂ Fills sizes (split buf pos sizes) := by
  induction sizes generalizing pos with
  | nil => exact .nil
  | cons s sizes ih =>
    rw [regionOf_cons] at h
    cases s with
    | none => exact .cons trivial (ih (by simp at h; omega))
    | some n =>
      simp only [Option.getD_some] at h
      refine .cons ?_ (ih (by omega))
      rw [Fills, Bytes.length_slice (by omega)]
      omega

/-- What stands behind the heads are the bodies. -/
theorem bodies_split {buf : List UInt8} {pos : Nat} {sizes : List (Option Nat)}
    (h : Ascending buf.length (offsets buf pos sizes)) :
    bodies (split buf pos sizes) = buf.drop (nextBody buf pos sizes) := by
  induction sizes generalizing pos with
  | nil => simp [split, nextBody, offsets]
  | cons s sizes ih =>
    cases s with
    | some n => simpa [split, body] using ih h
    | none =>
      obtain ⟨hle, hrest⟩ := ascending_offset.mp h
      rw [split, bodies_cons, body, ih hrest, ← Bytes.slice_length, ← Bytes.slice_length,
        Bytes.slice_append_slice _ hle (nextBody_le hrest), nextBody_offset]

/-- The heads tell where the bodies are. -/
theorem heads_split {buf : List UInt8} {pos : Nat} {sizes : List (Option Nat)}
    (h : Ascending buf.length (offsets buf pos sizes)) (hl : pos + regionOf sizes ≤ buf.length) :
    heads (nextBody buf pos sizes) (split buf pos sizes) =
      Bytes.slice buf pos (pos + regionOf sizes) := by
  induction sizes generalizing pos with
  | nil => simp [split, heads, regionOf]
  | cons s sizes ih =>
    rw [regionOf_cons, ← Nat.add_assoc] at hl ⊢
    cases s with
    | some n =>
      rw [Option.getD_some] at hl ⊢
      rw [split, heads, nextBody_inline, ih h hl,
        Bytes.slice_append_slice _ (Nat.le_add_right pos n) (Nat.le_add_right _ _)]
    | none =>
      obtain ⟨hle, hrest⟩ := ascending_offset.mp h
      rw [Option.getD_none] at hl ⊢
      have hwidth : (Bytes.slice buf pos (pos + offsetBytes)).length = offsetBytes := by
        rw [Bytes.length_slice (by omega)]
        omega
      have hnext : offsetAt buf pos + (Bytes.slice buf (offsetAt buf pos)
          (nextBody buf (pos + offsetBytes) sizes)).length =
            nextBody buf (pos + offsetBytes) sizes := by
        rw [Bytes.length_slice (nextBody_le hrest)]
        exact Nat.add_sub_cancel' hle
      have hoffset : Bytes.littleEndian offsetBytes (offsetAt buf pos) =
          Bytes.slice buf pos (pos + offsetBytes) := Bytes.littleEndian_of_toNat hwidth rfl
      rw [split, heads, nextBody_offset, hnext, ih hrest hl, hoffset,
        Bytes.slice_append_slice _ (Nat.le_add_right pos _) (Nat.le_add_right _ _)]

theorem fit_split {buf : List UInt8} {pos : Nat} {sizes : List (Option Nat)}
    (h : Ascending buf.length (offsets buf pos sizes)) :
    Fit (nextBody buf pos sizes) (split buf pos sizes) := by
  induction sizes generalizing pos with
  | nil => trivial
  | cons s sizes ih =>
    cases s with
    | some n => exact ih h
    | none =>
      obtain ⟨hle, hrest⟩ := ascending_offset.mp h
      refine ⟨offsetAt_lt buf pos, ?_⟩
      rw [nextBody_offset, Bytes.length_slice (nextBody_le hrest), Nat.add_sub_cancel' hle]
      exact ih hrest

theorem Laid.regionOf_le {buf : List UInt8} {sizes : List (Option Nat)} (h : Laid buf sizes) :
    regionOf sizes ≤ buf.length := h.1 ▸ h.2.headD_le

theorem Laid.fills {buf : List UInt8} {sizes : List (Option Nat)} (h : Laid buf sizes) :
    List.Forall₂ Fills sizes (split buf 0 sizes) :=
  fills_split (by simpa using h.regionOf_le)

theorem Laid.fit {buf : List UInt8} {sizes : List (Option Nat)} (h : Laid buf sizes) :
    Fit (region (split buf 0 sizes)) (split buf 0 sizes) := by
  rw [region_of_fills h.fills, ← h.1]
  exact fit_split h.2

/-- Bytes that a reader finds in order are the layout of their parts. -/
theorem Laid.layout_split {buf : List UInt8} {sizes : List (Option Nat)} (h : Laid buf sizes) :
    layout (split buf 0 sizes) = buf := by
  have hheads := heads_split h.2 (by simpa using h.regionOf_le)
  rw [layout, region_of_fills h.fills, ← h.1, hheads, bodies_split h.2, h.1, Nat.zero_add,
    Bytes.slice, List.drop_zero, List.take_append_drop]

/-- What taking apart finds in bytes that hold heads from a position on and bodies at the end. -/
theorem split_of_append {ps : List Part} {sizes : List (Option Nat)}
    (h : List.Forall₂ Fills sizes ps) {next : Nat} (hfit : Fit next ps) {buf : List UInt8}
    (front middle : List UInt8)
    (hbuf : buf = front ++ heads next ps ++ middle ++ bodies ps)
    (hnext : next = (front ++ heads next ps ++ middle).length) :
    nextBody buf front.length sizes = next ∧ Ascending buf.length (offsets buf front.length sizes) ∧
      split buf front.length sizes = ps := by
  induction h generalizing next front middle with
  | nil =>
    refine ⟨?_, trivial, rfl⟩
    simp only [nextBody, offsets, List.headD_nil, hbuf, bodies_nil, List.append_nil]
    exact hnext.symm
  | @cons s p sizes ps hp _ ih =>
    rcases s with _ | n <;> rcases p with bs | bs <;> simp [Fills] at hp
    case none.offset =>
      obtain ⟨hlt, hfit⟩ := hfit
      have hlength : (front ++ Bytes.littleEndian offsetBytes next).length =
          front.length + offsetBytes := by simp
      -- The body of this part joins the bytes between the other heads and the other bodies.
      obtain ⟨hrest, hasc, hsplit⟩ := ih hfit (front ++ Bytes.littleEndian offsetBytes next)
        (middle ++ bs) (by simp [hbuf, heads, body]) (by simp [heads] at hnext ⊢; omega)
      rw [hlength] at hrest hasc hsplit
      have hat : offsetAt buf front.length = next := by
        rw [offsetAt, hbuf]
        have := Bytes.slice_append front (Bytes.littleEndian offsetBytes next)
          (heads (next + bs.length) ps ++ middle ++ (bs ++ bodies ps))
        simp only [heads, bodies_cons, body, List.append_assoc] at this ⊢
        rw [Bytes.length_littleEndian] at this
        rw [this, Bytes.toNat_littleEndian hlt]
      have hbody : Bytes.slice buf next (next + bs.length) = bs := by
        have := Bytes.slice_append (front ++ heads next (.offset bs :: ps) ++ middle) bs (bodies ps)
        rw [← hnext] at this
        rwa [hbuf, bodies_cons, body, ← List.append_assoc]
      refine ⟨hat, ascending_offset.mpr ⟨?_, hasc⟩, ?_⟩
      · rw [hat, hrest]
        exact Nat.le_add_right _ _
      · rw [split, hsplit, hat, hrest, hbody]
    case some.inline =>
      subst hp
      obtain ⟨hrest, hasc, hsplit⟩ := ih hfit (front ++ bs) middle
        (by simp [hbuf, heads, body]) (by simp [heads] at hnext ⊢; omega)
      rw [List.length_append] at hrest hasc hsplit
      have hhead : Bytes.slice buf front.length (front.length + bs.length) = bs := by
        rw [hbuf]
        have := Bytes.slice_append front bs (heads next ps ++ middle ++ bodies ps)
        simpa only [heads, bodies_cons, body, List.append_assoc, List.nil_append] using this
      exact ⟨hrest, hasc, by rw [split, hsplit, hhead]⟩

/-- The layout of parts is in order and is taken apart into them. -/
theorem split_layout {ps : List Part} {sizes : List (Option Nat)} (h : List.Forall₂ Fills sizes ps)
    (hfit : Fit (region ps) ps) : Laid (layout ps) sizes ∧ split (layout ps) 0 sizes = ps := by
  have hbuf : layout ps = [] ++ heads (region ps) ps ++ [] ++ bodies ps := by simp [layout]
  obtain ⟨hnext, hasc, hsplit⟩ := split_of_append h hfit [] [] hbuf (by simp)
  exact ⟨⟨by rw [← region_of_fills h]; exact hnext, hasc⟩, hsplit⟩

/-- What is found in order is just the layouts of parts of the given sizes. -/
theorem laid_iff {buf : List UInt8} {sizes : List (Option Nat)} :
    Laid buf sizes ↔
      ∃ ps, List.Forall₂ Fills sizes ps ∧ Fit (region ps) ps ∧ layout ps = buf := by
  constructor
  · intro h
    exact ⟨_, h.fills, h.fit, h.layout_split⟩
  · rintro ⟨ps, hfills, hfit, rfl⟩
    exact (split_layout hfills hfit).1

end Part

end SszSchema
