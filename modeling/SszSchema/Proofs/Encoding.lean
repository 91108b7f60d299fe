import SszSchema.Codec.Encoding
import SszSchema.Proofs.Compliance
import SszSchema.Proofs.Steps

/-!
# Encoders write serializations

Routines that encode write into one growing buffer. `Outputs` describes such a step by what it can
append: it returns just if there are bytes to append, and then leaves what was in the buffer before.

A container or sequence is written in two passes. The first leaves `Piece`s, among them holes for
offsets, and the second fills the holes while it appends the bodies. `patchAll_eq_ok_iff` says that
every offset lands in its hole and counts from the right start, whatever stands around the holes.
`marshal_eq_ok_iff` is what follows for whole records: a routine returns bytes just if they are the
serialization of the value.
-/

namespace SszSchema

open Stateful

variable {env : Catalog} {codes : List RecordCode}

/-- A step appends bytes that satisfy a condition, or else does not return. -/
def Outputs (w : Writing Unit) (S : List UInt8 → Prop) : Prop :=
  ∀ buf after, w buf = (.ok (), after) ↔ ∃ bs, S bs ∧ buf ++ bs = after

/-! ## Simple steps -/

theorem outputs_append (bs : List UInt8) : Outputs (Writing.append bs) (· = bs) := by
  intro buf after
  simp [Writing.append]

/-- Room for an offset is four zeros. -/
theorem reserve_eq (buf : List UInt8) :
    Writing.reserve buf = (.ok buf.length, buf ++ List.replicate offsetBytes 0) := rfl

/-- A step that never returns where no bytes satisfy the condition. -/
theorem outputs_throw {S : List UInt8 → Prop} (fault : Fault) (h : ∀ bs, ¬S bs) :
    Outputs (throw fault) S := by
  intro buf after
  simp [h]

theorem Outputs.congr {w : Writing Unit} {S T : List UInt8 → Prop} (h : Outputs w S)
    (hst : ∀ bs, S bs ↔ T bs) : Outputs w T := by
  intro buf after
  simp only [h buf after, hst]

theorem outputs_ensure {w : Writing Unit} {S : List UInt8 → Prop} {condition : Bool}
    {sort : ErrorClass} {detail : String} (h : condition = true → Outputs w S) :
    Outputs (do Writing.ensure condition sort detail; w) fun bs => condition = true ∧ S bs := by
  intro buf after
  cases condition with
  | true => simpa [Writing.ensure] using h rfl buf after
  | false => simp [Writing.ensure]

/-- A step on bits that gets a result goes on with it. -/
theorem outputs_ofBits {α : Type} {result : Except Fault α} {f : α → Writing Unit}
    {S : α → List UInt8 → Prop} (h : ∀ a, result = .ok a → Outputs (f a) (S a)) :
    Outputs (do f (← Encoder.ofBits result)) fun bs => ∃ a, result = .ok a ∧ S a bs := by
  intro buf after
  cases result with
  | ok a => simpa [Encoder.ofBits] using h a rfl buf after
  | error fault => simp [Encoder.ofBits]

theorem outputs_each {S : Value → List UInt8 → Prop} {write : Value → Writing Unit}
    {items : List Value} (h : ∀ v ∈ items, Outputs (write v) (S v)) :
    Outputs (Writing.each write items) fun bs =>
      ∃ bss, List.Forall₂ S items bss ∧ bss.flatten = bs := by
  induction items with
  | nil =>
    intro buf after
    simp [Writing.each]
  | cons v items ih =>
    obtain ⟨hv, hitems⟩ := List.forall_mem_cons.mp h
    intro buf after
    rw [Writing.each, bind_eq_ok]
    constructor
    · rintro ⟨_, middle, hfirst, hrest⟩
      obtain ⟨bs, hbs, rfl⟩ := (hv buf middle).mp hfirst
      obtain ⟨_, ⟨bss, hbss, rfl⟩, rfl⟩ := (ih hitems _ after).mp hrest
      exact ⟨_, ⟨bs :: bss, .cons hbs hbss, rfl⟩, by simp⟩
    · rintro ⟨-, ⟨bss, hall, rfl⟩, rfl⟩
      cases hall with
      | cons hbs hbss =>
        exact ⟨(), _, (hv buf _).mpr ⟨_, hbs, rfl⟩,
          (ih hitems _ _).mpr ⟨_, ⟨_, hbss, rfl⟩, by simp⟩⟩

/-! ## Holes and patches -/

/-- What the first pass leaves of a part: the part itself, or a hole for the offset to one that is
yet to be written. -/
inductive Piece where
  | inline (bytes : List UInt8)
  | hole (body : List UInt8 → Prop)

namespace Piece

/-- The part that a piece becomes in the end. -/
def Becomes : Piece → Part → Prop
  | .inline bs, .inline bs' => bs = bs'
  | .hole S, .offset bs => S bs
  | _, _ => False

/-- A part in place becomes itself. -/
theorem forall₂_becomes_inline_iff {bs : List UInt8} {pieces : List Piece} {parts : List Part} :
    List.Forall₂ Becomes (.inline bs :: pieces) parts ↔
      ∃ ps, List.Forall₂ Becomes pieces ps ∧ parts = .inline bs :: ps := by
  constructor
  · rintro (_ | @⟨_, p, _, ps, hp, hps⟩)
    cases p with
    | inline bs' =>
      obtain rfl : bs = bs' := hp
      exact ⟨ps, hps, rfl⟩
    | offset bs' => exact hp.elim
  · rintro ⟨ps, hps, rfl⟩
    exact .cons rfl hps

/-- A hole becomes the offset to a body that it is for. -/
theorem forall₂_becomes_hole_iff {S : List UInt8 → Prop} {pieces : List Piece}
    {parts : List Part} : List.Forall₂ Becomes (.hole S :: pieces) parts ↔
      ∃ bs ps, S bs ∧ List.Forall₂ Becomes pieces ps ∧ parts = .offset bs :: ps := by
  constructor
  · rintro (_ | @⟨_, p, _, ps, hp, hps⟩)
    cases p with
    | inline bs => exact hp.elim
    | offset bs => exact ⟨bs, ps, hp, hps, rfl⟩
  · rintro ⟨bs, ps, hbs, hps, rfl⟩
    exact .cons hbs hps

/-- The region of heads after the first pass. -/
def blanks : List Piece → List UInt8
  | [] => []
  | .inline bs :: pieces => bs ++ blanks pieces
  | .hole _ :: pieces => List.replicate offsetBytes 0 ++ blanks pieces

/-- The steps that fill the holes of pieces that stand at a position. -/
inductive Fillers : Nat → List Piece → List (Nat × Writing Unit) → Prop
  | nil {pos : Nat} : Fillers pos [] []
  | inline {pos : Nat} {bs : List UInt8} {pieces : List Piece} {ws : List (Nat × Writing Unit)}
      (h : Fillers (pos + bs.length) pieces ws) : Fillers pos (.inline bs :: pieces) ws
  | hole {pos : Nat} {S : List UInt8 → Prop} {w : Writing Unit} {pieces : List Piece}
      {ws : List (Nat × Writing Unit)} (hw : Outputs w S)
      (h : Fillers (pos + offsetBytes) pieces ws) :
      Fillers pos (.hole S :: pieces) ((pos, w) :: ws)

theorem length_blanks {pieces : List Piece} {ps : List Part}
    (h : List.Forall₂ Becomes pieces ps) : (blanks pieces).length = Part.region ps := by
  induction h with
  | nil => rfl
  | @cons piece p pieces ps hp _ ih =>
    cases piece <;> cases p <;> simp [Becomes] at hp <;> simp [blanks, Part.width, ih, hp]

theorem blanks_holes (S : Value → List UInt8 → Prop) (items : List Value) :
    blanks (items.map fun v => .hole (S v)) = List.replicate (offsetBytes * items.length) 0 := by
  induction items with
  | nil => rfl
  | cons v items ih => simp [blanks, ih, Nat.mul_succ, Nat.add_comm]

end Piece

open Piece

/-- Writes bodies, and puts the offset of each into its hole. -/
def patchAll (start : Nat) : List (Nat × Writing Unit) → Writing Unit
  | [] => return ()
  | (slot, w) :: ws => do
      Writing.putOffset slot start
      w
      patchAll start ws

theorem putOffset_eq_ok_iff {slot start : Nat} {buf after : List UInt8} {u : Unit} :
    Writing.putOffset slot start buf = (.ok u, after) ↔
      buf.length - start < 2 ^ (8 * offsetBytes) ∧
        Bytes.patch buf slot (Bytes.littleEndian offsetBytes (buf.length - start)) = after := by
  rw [Writing.putOffset, bind_eq_ok, Nat.one_shiftLeft]
  by_cases h : 2 ^ (8 * offsetBytes) ≤ buf.length - start
  · simp [h, Nat.not_lt.mpr h]
  · simp [h, Nat.lt_of_not_le h]

/-- The second pass fills each hole with the offset of its body and leaves all else in place. -/
theorem patchAll_eq_ok_iff {start pos : Nat} {pieces : List Piece} {ws : List (Nat × Writing Unit)}
    (h : Fillers pos pieces ws) (front back : List UInt8) {after : List UInt8}
    (hpos : front.length = pos) (hstart : start ≤ pos) :
    patchAll start ws (front ++ blanks pieces ++ back) = (.ok (), after) ↔
      ∃ ps, List.Forall₂ Becomes pieces ps ∧
        Part.Fit ((front ++ blanks pieces ++ back).length - start) ps ∧
          front ++ Part.heads ((front ++ blanks pieces ++ back).length - start) ps ++ back ++
            Part.bodies ps = after := by
  induction h generalizing front back with
  | nil => simp [patchAll, blanks, Part.Fit, Part.heads]
  | @inline pos bs pieces ws _ ih =>
    have hrest := ih (front ++ bs) back (by simp [hpos]) (by omega)
    have hbuf : front ++ blanks (.inline bs :: pieces) ++ back =
        front ++ bs ++ blanks pieces ++ back := by simp [blanks]
    rw [hbuf, hrest]
    constructor
    · rintro ⟨ps, hps, hfit, rfl⟩
      exact ⟨.inline bs :: ps, .cons rfl hps, hfit, by simp [Part.heads, Part.body]⟩
    · rintro ⟨parts, hall, hfit, rfl⟩
      obtain ⟨ps, hps, rfl⟩ := forall₂_becomes_inline_iff.mp hall
      exact ⟨ps, hps, hfit, by simp [Part.heads, Part.body]⟩
  | @hole pos S w pieces ws hw _ ih =>
    have hbuf : front ++ blanks (.hole S :: pieces) ++ back =
        front ++ List.replicate offsetBytes 0 ++ (blanks pieces ++ back) := by simp [blanks]
    generalize hnext : (front ++ blanks (.hole S :: pieces) ++ back).length - start = next
    have hpatch : Bytes.patch (front ++ blanks (.hole S :: pieces) ++ back) pos
        (Bytes.littleEndian offsetBytes next) =
          front ++ Bytes.littleEndian offsetBytes next ++ blanks pieces ++ back := by
      rw [hbuf, ← hpos, Bytes.patch_append _ _ _ _ (by simp)]
      simp
    -- The body `bs` extends `back`, so the next body begins that much later.
    have hrest (bs : List UInt8) := ih (front ++ Bytes.littleEndian offsetBytes next) (back ++ bs)
      (by simp [hpos]) (by omega)
    have hlength (bs : List UInt8) : (front ++ Bytes.littleEndian offsetBytes next ++
        blanks pieces ++ (back ++ bs)).length - start = next + bs.length := by
      rw [← hnext]
      simp [blanks]
      omega
    simp only [hlength] at hrest
    simp only [patchAll, bind_eq_ok, putOffset_eq_ok_iff, hnext, hpatch]
    constructor
    · rintro ⟨_, _, ⟨hlt, rfl⟩, _, middle, hbody, htail⟩
      obtain ⟨bs, hbs, rfl⟩ := (hw _ _).mp hbody
      rw [List.append_assoc, hrest bs] at htail
      obtain ⟨ps, hps, hfit, rfl⟩ := htail
      exact ⟨.offset bs :: ps, .cons hbs hps, ⟨hlt, hfit⟩, by simp [Part.heads, Part.body]⟩
    · rintro ⟨parts, hall, hfit, rfl⟩
      obtain ⟨bs, ps, hbs, hps, rfl⟩ := forall₂_becomes_hole_iff.mp hall
      obtain ⟨hlt, hfit⟩ := hfit
      refine ⟨(), _, ⟨hlt, rfl⟩, (), _, (hw _ _).mpr ⟨bs, hbs, rfl⟩, ?_⟩
      rw [List.append_assoc, hrest bs]
      exact ⟨ps, hps, hfit, by simp [Part.heads, Part.body]⟩

/-- Filling all holes of a region of heads at the end of a buffer lays out the parts. -/
theorem patchAll_region_iff {front after : List UInt8} {pieces : List Piece}
    {ws : List (Nat × Writing Unit)} (h : Fillers front.length pieces ws) :
    patchAll front.length ws (front ++ blanks pieces) = (.ok (), after) ↔
      ∃ ps, List.Forall₂ Becomes pieces ps ∧ Part.Fit (Part.region ps) ps ∧
        front ++ Part.layout ps = after := by
  have hpatch := @patchAll_eq_ok_iff _ _ _ _ h front [] after rfl (Nat.le_refl _)
  have hlength : (front ++ blanks pieces).length - front.length = (blanks pieces).length := by simp
  simp only [List.append_nil, hlength] at hpatch
  rw [hpatch]
  constructor
  · rintro ⟨ps, hps, hfit, rfl⟩
    rw [length_blanks hps] at hfit ⊢
    exact ⟨ps, hps, hfit, by simp [Part.layout]⟩
  · rintro ⟨ps, hps, hfit, rfl⟩
    rw [length_blanks hps]
    exact ⟨ps, hps, hfit, by simp [Part.layout]⟩

/-! ## Sequences -/

/-- The elements of a sequence and the places of their offsets, from an element on. -/
def table (write : Value → Writing Unit) (start : Nat) :
    Nat → List Value → List (Nat × Writing Unit)
  | _, [] => []
  | i, v :: rest => (start + offsetBytes * i, write v) :: table write start (i + 1) rest

theorem eachAt_eq_patchAll (write : Value → Writing Unit) (start i : Nat) (items : List Value) :
    Writing.eachAt write start i items = patchAll start (table write start i items) := by
  induction items generalizing i with
  | nil => rfl
  | cons v items ih => rw [Writing.eachAt, table, patchAll, ih]

theorem fillers_table {S : Value → List UInt8 → Prop} {write : Value → Writing Unit}
    {items : List Value} (h : ∀ v ∈ items, Outputs (write v) (S v)) (start i : Nat) :
    Fillers (start + offsetBytes * i) (items.map fun v => .hole (S v))
      (table write start i items) := by
  induction items generalizing i with
  | nil => exact .nil
  | cons v items ih =>
    obtain ⟨hv, hitems⟩ := List.forall_mem_cons.mp h
    exact .hole hv (by simpa [Nat.mul_succ, Nat.add_assoc] using ih hitems (i + 1))

/-- What becomes of the elements of a sequence that all have offsets. -/
theorem becomes_holes_iff {t : SszType} (hd : env.IsDynamic t) {items : List Value}
    {ps : List Part} :
    List.Forall₂ Becomes (items.map fun v => .hole (Serialized env t v)) ps ↔
      List.Forall₂ (SerializedPart env t) items ps := by
  rw [List.forall₂_map_left_iff]
  have hpart (v : Value) (p : Part) :
      Becomes (.hole (Serialized env t v)) p ↔ SerializedPart env t v p := by
    cases p with
    | inline bs => exact ⟨nofun, fun h => by cases h with | inline hn _ => exact hn hd⟩
    | offset bs => exact ⟨.offset hd, fun h => by cases h with | offset _ h => exact h⟩
  exact ⟨fun h => h.imp fun v p => (hpart v p).mp, fun h => h.imp fun v p => (hpart v p).mpr⟩

/-- Elements of one size are laid out one after the other. -/
theorem serializedParts_inline_iff {t : SszType} (hd : ¬env.IsDynamic t) {items : List Value}
    {ps : List Part} :
    List.Forall₂ (SerializedPart env t) items ps ↔
      ∃ bss, List.Forall₂ (Serialized env t) items bss ∧ bss.map .inline = ps := by
  constructor
  · intro h
    induction h with
    | nil => exact ⟨[], .nil, rfl⟩
    | cons hp _ ih =>
      obtain ⟨bss, hbss, rfl⟩ := ih
      cases hp with
      | inline _ h => exact ⟨_ :: bss, .cons h hbss, rfl⟩
      | offset hp _ => exact absurd hp hd
  · rintro ⟨bss, h, rfl⟩
    induction h with
    | nil => exact .nil
    | cons h _ ih => exact .cons (.inline hd h) ih

theorem outputs_each_inline {t : SszType} (hd : ¬env.IsDynamic t) {write : Value → Writing Unit}
    {items : List Value} (h : ∀ v ∈ items, Outputs (write v) (Serialized env t v)) :
    Outputs (Writing.each write items) (SerializedSequence env t items) := by
  refine (outputs_each h).congr fun bs => ?_
  constructor
  · rintro ⟨bss, hbss, rfl⟩
    exact ⟨bss.map .inline, (serializedParts_inline_iff hd).mpr ⟨bss, hbss, rfl⟩,
      Part.fit_inline _ _, Part.layout_inline bss⟩
  · rintro ⟨ps, hps, -, rfl⟩
    obtain ⟨bss, hbss, rfl⟩ := (serializedParts_inline_iff hd).mp hps
    exact ⟨bss, hbss, (Part.layout_inline bss).symm⟩

theorem outputs_eachAt {t : SszType} (hd : env.IsDynamic t) {write : Value → Writing Unit}
    {items : List Value} (h : ∀ v ∈ items, Outputs (write v) (Serialized env t v)) :
    Outputs (do
      let start ← Writing.position
      Writing.append (List.replicate (offsetBytes * items.length) 0)
      Writing.eachAt write start 0 items) (SerializedSequence env t items) := by
  intro buf after
  have hfill : Fillers buf.length (items.map fun v => .hole (Serialized env t v))
      (table write buf.length 0 items) := fillers_table h buf.length 0
  have hpatch := @patchAll_region_iff _ after _ _ hfill
  simp only [becomes_holes_iff hd, blanks_holes] at hpatch
  simp only [Writing.position, Writing.append, bind_eq_ok, get_eq_ok, pure_eq_ok, modify_eq_ok,
    eachAt_eq_patchAll]
  constructor
  · rintro ⟨_, _, ⟨_, _, ⟨rfl, rfl⟩, rfl, rfl⟩, _, _, rfl, hrun⟩
    obtain ⟨ps, hps, hfit, rfl⟩ := hpatch.mp hrun
    exact ⟨_, ⟨ps, hps, hfit, rfl⟩, rfl⟩
  · rintro ⟨_, ⟨ps, hps, hfit, rfl⟩, rfl⟩
    exact ⟨_, _, ⟨_, _, ⟨rfl, rfl⟩, rfl, rfl⟩, (), _, rfl, hpatch.mpr ⟨ps, hps, hfit, rfl⟩⟩

/-! ## Encoders -/

theorem outputs_checkBits {w : Writing Unit} {S : List UInt8 → Prop} {place : String}
    {count : Nat} {limit : Option Nat} (h : Outputs w S) :
    Outputs (do Encoder.checkBits place count limit; w)
      fun bs => (∀ l ∈ limit, count ≤ l) ∧ S bs := by
  cases limit with
  | none => simpa [Encoder.checkBits] using h
  | some limit =>
    refine (outputs_ensure fun _ => h).congr fun bs => ?_
    simp

theorem outputs_uint (width : Nat) (call : String → Value → Writing Unit) (place : String)
    (v : Value) :
    Outputs ((Encoder.uint width).run call place v) (Serialized env (.uint width) v) := by
  cases v with
  | uint n =>
    refine (outputs_ensure fun _ => outputs_append _).congr fun bs => ?_
    have hfits (m : Nat) : (0 ≤ (m : Int) && (m : Int) < (1 <<< (8 * width) : Nat)) = true ↔
        m < 2 ^ (8 * width) := by
      rw [Bool.and_eq_true, decide_eq_true_iff, decide_eq_true_iff, Int.ofNat_lt,
        Nat.one_shiftLeft]
      exact and_iff_right (Int.natCast_nonneg m)
    constructor
    · rintro ⟨hn, rfl⟩
      have hpos : 0 ≤ n := by simp at hn; exact hn.1
      obtain ⟨m, rfl⟩ := Int.eq_ofNat_of_zero_le hpos
      exact .uint ((hfits m).mp hn)
    · intro h
      cases h with
      | uint h => exact ⟨(hfits _).mpr h, rfl⟩
  | _ => exact outputs_throw _ nofun

theorem outputs_bool (call : String → Value → Writing Unit) (place : String) (v : Value) :
    Outputs (Encoder.bool.run call place v) (Serialized env .bool v) := by
  cases v with
  | bool b =>
    refine (outputs_append _).congr fun bs => ⟨?_, fun h => by cases h; rfl⟩
    rintro rfl
    exact .bool
  | _ => exact outputs_throw _ nofun

theorem outputs_fixedBytes (length : Nat) (call : String → Value → Writing Unit) (place : String)
    (v : Value) :
    Outputs ((Encoder.fixedBytes length).run call place v)
      (Serialized env (.fixedBytes length) v) := by
  cases v with
  | bytes bs =>
    refine (outputs_ensure fun _ => outputs_append _).congr fun bs' => ?_
    constructor
    · rintro ⟨hl, rfl⟩
      exact .fixedBytes (by simpa using hl)
    · intro h
      cases h with
      | fixedBytes h => exact ⟨by simpa using h, rfl⟩
  | _ => exact outputs_throw _ nofun

theorem outputs_boundedBytes (limit : Nat) (call : String → Value → Writing Unit) (place : String)
    (v : Value) :
    Outputs ((Encoder.boundedBytes (some limit)).run call place v)
      (Serialized env (.boundedBytes limit) v) := by
  cases v with
  | bytes bs =>
    refine (outputs_ensure fun _ => outputs_append _).congr fun bs' => ?_
    constructor
    · rintro ⟨hl, rfl⟩
      exact .boundedBytes (by simpa using hl)
    · intro h
      cases h with
      | boundedBytes h => exact ⟨by simpa using h, rfl⟩
  | _ => exact outputs_throw _ nofun

/-- A step that needs bits goes on with the bits that a value is. -/
theorem outputs_bits {v : Value} {f : List Bool → Writing Unit} {S : List Bool → List UInt8 → Prop}
    (h : ∀ bits, Outputs (f bits) (S bits)) :
    Outputs (do f (← Writing.need v.bits?)) fun bs => ∃ bits, v = .ofBits bits ∧ S bits bs := by
  intro buf after
  simp only [← Value.bits?_eq_some_iff]
  cases v.bits? with
  | some bits => simpa [Writing.need] using h bits buf after
  | none => simp [Writing.need]

theorem outputs_bitVector (length : Nat) (call : String → Value → Writing Unit) (place : String)
    (v : Value) :
    Outputs ((Encoder.bitVector (some length) (some ((length + 7) / 8))).run call place v)
      (Serialized env (.bitVector length) v) := by
  refine (outputs_bits fun bits => outputs_ensure fun _ => outputs_ofBits fun bs _ =>
    outputs_append bs).congr fun bs => ?_
  rw [serialized_bitVector_iff]
  refine exists_congr fun bits => and_congr_right fun _ => ?_
  rw [beq_iff_eq]
  refine and_congr_right fun hl => ?_
  rw [Bits.pack_eq_ok (by omega)]
  have hpacked : Bits.Packed bits (Bits.toBytes ((length + 7) / 8) bits) :=
    Bits.packed_toBytes (by rw [hl])
  constructor
  · rintro ⟨bs', h, rfl⟩
    obtain rfl := Except.ok.inj h
    exact hpacked
  · intro h
    exact ⟨bs, congrArg _ (hpacked.unique h), rfl⟩

theorem outputs_packedBits (limit : Option Nat) (call : String → Value → Writing Unit)
    (place : String) (v : Value) :
    Outputs ((Encoder.packedBits limit).run call place v)
      (Serialized env (.packedBits limit) v) := by
  cases v with
  | bytes bs =>
    refine (outputs_ofBits fun n _ => outputs_checkBits (outputs_append bs)).congr fun bs' => ?_
    rw [serialized_packedBits_iff]
    constructor
    · rintro ⟨n, hn, hl, rfl⟩
      obtain ⟨bits, rfl, h⟩ := Bits.listLength_eq_ok_iff.mp hn
      exact ⟨rfl, bits, h, hl⟩
    · rintro ⟨hbs, bits, h, hl⟩
      obtain rfl := Value.bytes.inj hbs
      exact ⟨_, Bits.listLength_eq_ok_iff.mpr ⟨bits, rfl, h⟩, hl, rfl⟩
  | _ => exact outputs_throw _ nofun

theorem outputs_bitList (limit : Option Nat) (call : String → Value → Writing Unit)
    (place : String) (v : Value) :
    Outputs ((Encoder.bitList limit).run call place v) (Serialized env (.bitList limit) v) := by
  refine (outputs_bits fun bits => outputs_checkBits (outputs_append _)).congr fun bs => ?_
  rw [serialized_bitList_iff]
  refine exists_congr fun bits => and_congr_right fun _ => ?_
  constructor
  · rintro ⟨hl, rfl⟩
    exact ⟨Bits.packed_packList bits, hl⟩
  · rintro ⟨h, hl⟩
    exact ⟨hl, h.unique (Bits.packed_packList bits)⟩

theorem outputs_sequence {element : SszType} {isDynamic : Bool}
    (hd : isDynamic = true ↔ env.IsDynamic element) {write : Value → Writing Unit}
    {items : List Value} (h : ∀ v ∈ items, Outputs (write v) (Serialized env element v)) :
    Outputs (if isDynamic then do
        let start ← Writing.position
        Writing.append (List.replicate (offsetBytes * items.length) 0)
        Writing.eachAt write start 0 items
      else Writing.each write items) (SerializedSequence env element items) := by
  cases isDynamic with
  | true => exact outputs_eachAt (hd.mp rfl) h
  | false => exact outputs_each_inline (by simpa using hd) h

/-- An encoder appends the serialization of a value, if the routines that it calls do. -/
theorem EncodedBy.outputs {t : SszType} {e : Encoder} (h : EncodedBy env t e)
    {call : String → Value → Writing Unit} {bound : Nat}
    (hcall : ∀ name, t.innermost = some name → ∀ w, w.depth ≤ bound →
      Outputs (call name w) (Serialized env (.record name) w))
    (place : String) (v : Value) (hv : v.depth ≤ bound) :
    Outputs (e.run call place v) (Serialized env t v) := by
  induction h generalizing place v with
  | uint => exact outputs_uint _ call place v
  | bool => exact outputs_bool call place v
  | fixedBytes => exact outputs_fixedBytes _ call place v
  | boundedBytes => exact outputs_boundedBytes _ call place v
  | bitVector => exact outputs_bitVector _ call place v
  | packedBits => exact outputs_packedBits _ call place v
  | bitList => exact outputs_bitList _ call place v
  | record => exact hcall _ rfl v hv
  | vector hd _ ih =>
    cases v with
    | list items =>
      have hitems : ∀ u ∈ items, Outputs _ (Serialized env _ u) := fun u hu =>
        ih hcall (place ++ "[]") u (Nat.le_trans (Nat.le_of_lt (Value.depth_lt_of_mem hu)) hv)
      refine (outputs_ensure fun _ => outputs_sequence hd hitems).congr fun bs => ?_
      rw [serialized_vector_iff, beq_iff_eq]
      constructor
      · rintro ⟨hl, h⟩
        exact ⟨items, rfl, hl, h⟩
      · rintro ⟨_, hv, hl, h⟩
        obtain rfl := Value.list.inj hv
        exact ⟨hl, h⟩
    | _ => exact outputs_throw _ nofun
  | list hd _ ih =>
    cases v with
    | list items =>
      have hitems : ∀ u ∈ items, Outputs _ (Serialized env _ u) := fun u hu =>
        ih hcall (place ++ "[]") u (Nat.le_trans (Nat.le_of_lt (Value.depth_lt_of_mem hu)) hv)
      refine (outputs_ensure fun _ => outputs_sequence hd hitems).congr fun bs => ?_
      rw [serialized_list_iff, decide_eq_true_iff]
      constructor
      · rintro ⟨hl, h⟩
        exact ⟨items, rfl, hl, h⟩
      · rintro ⟨_, hv, hl, h⟩
        obtain rfl := Value.list.inj hv
        exact ⟨hl, h⟩
    | _ => exact outputs_throw _ nofun

/-! ## Records -/

/-- The encoding of a field, wherever it stands. -/
def FieldBytes (env : Catalog) (v : Value) (f : String × SszType) (bs : List UInt8) : Prop :=
  ∃ u, v.field? f.1 = some u ∧ Serialized env f.2 u bs

/-- What the first pass leaves of a field. -/
inductive PieceOf (env : Catalog) (v : Value) (f : String × SszType) : Piece → Prop
  | inline {bs : List UInt8} (hd : ¬env.IsDynamic f.2) (h : FieldBytes env v f bs) :
      PieceOf env v f (.inline bs)
  | hole (hd : env.IsDynamic f.2) : PieceOf env v f (.hole (FieldBytes env v f))

theorem serializedField_iff {v : Value} {f : String × SszType} {p : Part} :
    SerializedField env v f p ↔ ∃ piece, PieceOf env v f piece ∧ piece.Becomes p := by
  constructor
  · rintro ⟨u, hu, ⟨hd, h⟩ | ⟨hd, h⟩⟩
    · exact ⟨.inline _, .inline hd ⟨u, hu, h⟩, rfl⟩
    · exact ⟨.hole _, .hole hd, u, hu, h⟩
  · rintro ⟨piece, ⟨hd, u, hu, h⟩ | hd, hp⟩ <;> cases p <;> simp only [Becomes] at hp
    · subst hp
      exact ⟨u, hu, .inline hd h⟩
    · obtain ⟨u, hu, h⟩ := hp
      exact ⟨u, hu, .offset hd h⟩

theorem serializedFields_comp_iff {v : Value} {fields : Fields} {ps : List Part} :
    List.Forall₂ (SerializedField env v) fields ps ↔
      ∃ pieces, List.Forall₂ (PieceOf env v) fields pieces ∧ List.Forall₂ Becomes pieces ps := by
  rw [← forall₂_comp_iff]
  exact ⟨fun h => h.imp fun _ _ => serializedField_iff.mp,
    fun h => h.imp fun _ _ => serializedField_iff.mpr⟩

theorem outputs_fieldOf {v : Value} {name : String} {f : Value → Writing Unit}
    {S : Value → List UInt8 → Prop} (h : ∀ u, v.field? name = some u → Outputs (f u) (S u)) :
    Outputs (do f (← Writing.fieldOf v name)) fun bs => ∃ u, v.field? name = some u ∧ S u bs := by
  intro buf after
  unfold Writing.fieldOf
  cases hu : v.field? name with
  | some u => simpa using h u hu buf after
  | none => simp

/-- The routine of a field appends its encoding. -/
def WritesField (env : Catalog) (c : RecordCode) (call : String → Value → Writing Unit) (v : Value)
    (f : String × SszType) (code : FieldCode) : Prop :=
  env.Placed f.2 code.size ∧ Outputs (c.writeField call v code) (FieldBytes env v f)

theorem writeHeads_of_eq_ok {c : RecordCode} {call : String → Value → Writing Unit} {v : Value}
    {fields : Fields} {fcs : List FieldCode}
    (h : List.Forall₂ (WritesField env c call v) fields fcs)
    {buf after : List UInt8} {slots : List (FieldCode × Nat)}
    (hrun : c.writeHeads call v fcs buf = (.ok slots, after)) :
    ∃ pieces, List.Forall₂ (PieceOf env v) fields pieces ∧ buf ++ blanks pieces = after ∧
      Fillers buf.length pieces (slots.map fun s => (s.2, c.writeField call v s.1)) := by
  induction h generalizing buf slots with
  | nil =>
    obtain ⟨rfl, rfl⟩ := pure_eq_ok.mp hrun
    exact ⟨[], .nil, by simp [blanks], .nil⟩
  | @cons f code fields fcs hf _ ih =>
    obtain ⟨hplaced, hwrite⟩ := hf
    rw [RecordCode.writeHeads] at hrun
    cases hsize : code.size with
    | some n =>
      rw [hsize] at hplaced
      simp only [hsize] at hrun
      obtain ⟨_, middle, hfirst, hrest⟩ := bind_eq_ok.mp hrun
      obtain ⟨bs, hbs, rfl⟩ := (hwrite _ _).mp hfirst
      obtain ⟨pieces, hpieces, rfl, hfill⟩ := ih hrest
      refine ⟨.inline bs :: pieces, .cons (.inline hplaced.not_isDynamic hbs) hpieces,
        by simp [blanks], .inline ?_⟩
      simpa using hfill
    | none =>
      rw [hsize] at hplaced
      simp only [hsize] at hrun
      obtain ⟨_, _, hslot, htail⟩ := bind_eq_ok.mp hrun
      rw [reserve_eq] at hslot
      cases hslot
      obtain ⟨_, _, hrest, hslots⟩ := bind_eq_ok.mp htail
      obtain ⟨rfl, rfl⟩ := pure_eq_ok.mp hslots
      obtain ⟨pieces, hpieces, rfl, hfill⟩ := ih hrest
      refine ⟨.hole _ :: pieces, .cons (.hole hplaced) hpieces, by simp [blanks], .hole hwrite ?_⟩
      simpa using hfill

theorem writeHeads_eq_ok {c : RecordCode} {call : String → Value → Writing Unit} {v : Value}
    {fields : Fields} {fcs : List FieldCode}
    (h : List.Forall₂ (WritesField env c call v) fields fcs)
    {pieces : List Piece} (hpieces : List.Forall₂ (PieceOf env v) fields pieces)
    (buf : List UInt8) :
    ∃ slots, c.writeHeads call v fcs buf = (.ok slots, buf ++ blanks pieces) ∧
      Fillers buf.length pieces (slots.map fun s => (s.2, c.writeField call v s.1)) := by
  induction h generalizing buf pieces with
  | nil =>
    cases hpieces
    exact ⟨[], pure_eq_ok.mpr ⟨rfl, by simp [blanks]⟩, .nil⟩
  | @cons f code fields fcs hf _ ih =>
    obtain ⟨hplaced, hwrite⟩ := hf
    cases hpieces with
    | @cons _ piece _ pieces hp hpieces =>
      cases hp with
      | @inline bs hd hbs =>
        obtain ⟨n, hsize⟩ : ∃ n, code.size = some n :=
          Option.ne_none_iff_exists'.mp fun h => hd (hplaced.isDynamic_iff.mpr h)
        obtain ⟨slots, hrest, hfill⟩ := ih hpieces (buf ++ bs)
        refine ⟨slots, ?_, .inline (by simpa using hfill)⟩
        rw [RecordCode.writeHeads]
        simp only [hsize]
        refine bind_eq_ok.mpr ⟨_, _, (hwrite _ _).mpr ⟨bs, hbs, rfl⟩, ?_⟩
        rw [hrest]
        simp [blanks]
      | hole hd =>
        have hsize : code.size = none := hplaced.isDynamic_iff.mp hd
        obtain ⟨slots, hrest, hfill⟩ := ih hpieces (buf ++ List.replicate offsetBytes 0)
        refine ⟨(code, buf.length) :: slots, ?_, .hole hwrite (by simpa using hfill)⟩
        rw [RecordCode.writeHeads]
        simp only [hsize]
        refine bind_eq_ok.mpr ⟨_, _, reserve_eq buf, ?_⟩
        exact bind_eq_ok.mpr ⟨_, _, hrest, pure_eq_ok.mpr ⟨rfl, by simp [blanks]⟩⟩

theorem writeBodies_eq_patchAll (c : RecordCode) (call : String → Value → Writing Unit) (v : Value)
    (start : Nat) (slots : List (FieldCode × Nat)) :
    c.writeBodies call v start slots =
      patchAll start (slots.map fun s => (s.2, c.writeField call v s.1)) := by
  induction slots with
  | nil => rfl
  | cons s slots ih =>
    obtain ⟨f, slot⟩ := s
    rw [RecordCode.writeBodies, List.map_cons, patchAll, ih]

/-- The routine of a record appends its serialization. -/
theorem outputs_write {c : RecordCode} {call : String → Value → Writing Unit} {v : Value}
    {name : String} {fields : Fields} (hr : env name = some fields)
    (h : List.Forall₂ (WritesField env c call v) fields c.fields) :
    Outputs (c.write call v) (Serialized env (.record name) v) := by
  intro buf after
  simp only [serialized_record_iff hr, serializedFields_comp_iff]
  simp only [RecordCode.write, Writing.position, bind_eq_ok, get_eq_ok, pure_eq_ok,
    writeBodies_eq_patchAll]
  constructor
  · rintro ⟨_, _, ⟨_, _, ⟨rfl, rfl⟩, rfl, rfl⟩, slots, _, hheads, hbodies⟩
    obtain ⟨pieces, hpieces, rfl, hfill⟩ := writeHeads_of_eq_ok h hheads
    obtain ⟨ps, hps, hfit, rfl⟩ := (patchAll_region_iff hfill).mp hbodies
    exact ⟨_, ⟨ps, ⟨pieces, hpieces, hps⟩, hfit, rfl⟩, rfl⟩
  · rintro ⟨_, ⟨ps, ⟨pieces, hpieces, hps⟩, hfit, rfl⟩, rfl⟩
    obtain ⟨slots, hheads, hfill⟩ := writeHeads_eq_ok h hpieces buf
    exact ⟨_, _, ⟨_, _, ⟨rfl, rfl⟩, rfl, rfl⟩, slots, _, hheads,
      (patchAll_region_iff hfill).mpr ⟨ps, hps, hfit, rfl⟩⟩

theorem FieldCode.Realizes.writesField {f : String × SszType} {code : FieldCode}
    (h : code.Realizes env f) {c : RecordCode} {call : String → Value → Writing Unit} {v : Value}
    (hcall : ∀ name, f.2.innermost = some name → ∀ w, w.depth < v.depth →
      Outputs (call name w) (Serialized env (.record name) w)) :
    WritesField env c call v f code := by
  refine ⟨h.size, ?_⟩
  rw [RecordCode.writeField, h.name]
  refine outputs_fieldOf fun u hu => ?_
  have hbound : ∀ name, f.2.innermost = some name → ∀ w, w.depth ≤ u.depth →
      Outputs (call name w) (Serialized env (.record name) w) := fun name hname w hw =>
    hcall name hname w (Nat.lt_of_le_of_lt hw (Value.depth_lt_of_field? hu))
  exact h.encoder.outputs hbound _ u (Nat.le_refl _)

/-- Routines append serializations, if their fuel suffices for the depth of the value. -/
theorem Implements.outputs_marshalWith (h : Implements env codes) {fuel : Nat} {name : String}
    (hname : Coded codes name) {v : Value} (hv : v.depth < fuel) :
    Outputs (Codec.marshalWith codes fuel name v) (Serialized env (.record name) v) := by
  induction fuel generalizing name v with
  | zero => omega
  | succ fuel ih =>
    obtain ⟨c, hc⟩ := Option.isSome_iff_exists.mp hname
    obtain ⟨fields, hr, hcode⟩ := h.realizes hc
    have hfields : List.Forall₂ (WritesField env c (Codec.marshalWith codes fuel) v) fields
        c.fields := forall₂_imp_of_mem hcode.fields fun f hf code hfc =>
      hfc.writesField fun inner hinner w hw =>
        ih (h.closed hc hr f hf inner hinner) (by omega)
    rw [Codec.marshalWith, hc]
    exact outputs_write hr hfields

/-- A routine returns bytes just if they are the serialization of the value. -/
theorem Implements.marshal_eq_ok_iff (h : Implements env codes) {name : String}
    (hname : Coded codes name) {v : Value} {bs : List UInt8} :
    Codec.marshal codes name v = .ok bs ↔ Serialized env (.record name) v bs := by
  have hrun := h.outputs_marshalWith hname (Nat.lt_succ_self v.depth) [] bs
  simp only [List.nil_append, exists_eq_right] at hrun
  rw [← hrun]
  unfold Codec.marshal Codec.marshalTo
  rcases Codec.marshalWith codes (v.depth + 1) name v [] with ⟨fault | _, buf⟩
  · exact ⟨nofun, nofun⟩
  · constructor
    · intro h
      cases h
      rfl
    · intro h
      cases h
      rfl

end SszSchema
