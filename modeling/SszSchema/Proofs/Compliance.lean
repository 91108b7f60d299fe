import SszSchema.Proofs.Serialization
import SszSchema.Routine.Code

/-!
# Code of types

When the code of routines is right for a type. `EncodedBy` and `DecodedBy` follow the type down to
its records, which the code calls by name; `RecordCode.Realizes` is about the routines of one
record, and `Implements` about a set of records that call no others. Nothing is said here about what
the code does.
-/

namespace SszSchema

/-- What a type takes in a region of heads: its size, or none for an offset. -/
def Catalog.Placed (env : Catalog) (t : SszType) : Option Nat → Prop
  | some n => env.HasSize t n
  | none => env.IsDynamic t

/-- The encoder of a type. -/
inductive EncodedBy (env : Catalog) : SszType → Encoder → Prop
  | uint {width : Nat} : EncodedBy env (.uint width) (.uint width)
  | bool : EncodedBy env .bool .bool
  | fixedBytes {length : Nat} : EncodedBy env (.fixedBytes length) (.fixedBytes length)
  | boundedBytes {limit : Nat} : EncodedBy env (.boundedBytes limit) (.boundedBytes (some limit))
  | bitVector {length : Nat} :
      EncodedBy env (.bitVector length) (.bitVector (some length) (some ((length + 7) / 8)))
  | packedBits {limit : Option Nat} : EncodedBy env (.packedBits limit) (.packedBits limit)
  | bitList {limit : Option Nat} : EncodedBy env (.bitList limit) (.bitList limit)
  | record {name : String} : EncodedBy env (.record name) (.record name)
  | vector {length : Nat} {element : SszType} {isDynamic : Bool} {item : Encoder}
      (hd : isDynamic = true ↔ env.IsDynamic element) (h : EncodedBy env element item) :
      EncodedBy env (.vector length element) (.sequence (.exactly (some length)) isDynamic item)
  | list {limit : Nat} {element : SszType} {isDynamic : Bool} {item : Encoder}
      (hd : isDynamic = true ↔ env.IsDynamic element) (h : EncodedBy env element item) :
      EncodedBy env (.list limit element) (.sequence (.atMost (some limit)) isDynamic item)

/-- The decoder of a type. Vectors have elements, and elements of one size have bytes. -/
inductive DecodedBy (env : Catalog) : SszType → Decoder → Prop
  | uint {width : Nat} : DecodedBy env (.uint width) .uint
  | bool : DecodedBy env .bool .bool
  | fixedBytes {length : Nat} : DecodedBy env (.fixedBytes length) .fixedBytes
  | boundedBytes {limit : Nat} : DecodedBy env (.boundedBytes limit) (.boundedBytes (some limit))
  | bitVector {length : Nat} : DecodedBy env (.bitVector length) (.bitVector (some length))
  | packedBits {limit : Option Nat} : DecodedBy env (.packedBits limit) (.packedBits limit)
  | bitList {limit : Option Nat} : DecodedBy env (.bitList limit) (.bitList limit)
  | record {name : String} : DecodedBy env (.record name) (.record name)
  | vector {length : Nat} {element : SszType} {step : Option Nat} {item : Decoder}
      (hl : 0 < length) (hs : env.Placed element step) (hstep : step ≠ some 0)
      (h : DecodedBy env element item) :
      DecodedBy env (.vector length element) (.sequence (.exactly (some length)) step item)
  | list {limit : Nat} {element : SszType} {step : Option Nat} {item : Decoder}
      (hs : env.Placed element step) (hstep : step ≠ some 0) (h : DecodedBy env element item) :
      DecodedBy env (.list limit element) (.sequence (.atMost (some limit)) step item)

/-- The code of a field is that of its type. -/
structure FieldCode.Realizes (env : Catalog) (f : String × SszType) (c : FieldCode) : Prop where
  name : c.name = f.1
  encoder : EncodedBy env f.2 c.encoder
  decoder : DecodedBy env f.2 c.decoder
  size : env.Placed f.2 c.size

namespace RecordCode

/-- What the fields take in the region of heads. -/
def sizes (c : RecordCode) : List (Option Nat) := c.fields.map (·.size)

/-- The code of a record is that of its fields. -/
structure Follows (env : Catalog) (declared : Fields) (c : RecordCode) : Prop where
  fields : List.Forall₂ (FieldCode.Realizes env) declared c.fields
  fixedSize : c.fixedSize = some (Part.regionOf c.sizes)
  isDynamic : c.isDynamic = true ↔ none ∈ c.sizes

/-- The code of a record is that of its fields, which have different names. -/
structure Realizes (env : Catalog) (declared : Fields) (c : RecordCode) : Prop
    extends c.Follows env declared where
  distinct : (declared.map (·.1)).Nodup

end RecordCode

/-- The code of records that call no others is that of their fields. -/
structure Implements (env : Catalog) (codes : List RecordCode) : Prop where
  realizes : ∀ {name c}, RecordCode.find? codes name = some c →
    ∃ fields, env name = some fields ∧ c.Realizes env fields
  closed : ∀ {name c fields}, RecordCode.find? codes name = some c → env name = some fields →
    ∀ f ∈ fields, ∀ inner, f.2.innermost = some inner → (RecordCode.find? codes inner).isSome

/-- The records that have code. -/
def Coded (codes : List RecordCode) (name : String) : Prop := (RecordCode.find? codes name).isSome

instance (codes : List RecordCode) (name : String) : Decidable (Coded codes name) :=
  inferInstanceAs (Decidable ((RecordCode.find? codes name).isSome = true))

variable {env : Catalog} {codes : List RecordCode}

theorem Catalog.Placed.isDynamic_iff {t : SszType} {s : Option Nat} (h : env.Placed t s) :
    env.IsDynamic t ↔ s = none := by
  cases s with
  | none => exact ⟨fun _ => rfl, fun _ => h⟩
  | some n => exact ⟨fun hd => absurd hd (HasSize.not_isDynamic h), nofun⟩

theorem Catalog.Placed.hasSlot {t : SszType} {s : Option Nat} (h : env.Placed t s) :
    env.HasSlot t (s.getD offsetBytes) := by
  cases s with
  | none => exact .offset h
  | some n => exact .inline h

/-- The fixed region of a record is that of its fields' places. -/
theorem Catalog.HasRegion.eq_regionOf {fields : Fields} {size : Nat} (h : env.HasRegion fields size)
    {sizes : List (Option Nat)} (hs : List.Forall₂ (fun f s => env.Placed f.2 s) fields sizes) :
    size = Part.regionOf sizes := by
  obtain ⟨slot, hslot, rfl⟩ := h
  induction hs with
  | nil => rfl
  | cons hp _ ih =>
    obtain ⟨hfirst, hrest⟩ := List.forall_mem_cons.mp hslot
    rw [List.map_cons, List.sum_cons, Part.regionOf_cons, hfirst.unique hp.hasSlot, ih hrest]

/-- A record with a dynamic field has an offset. -/
theorem RecordCode.Follows.none_mem {declared : Fields} {c : RecordCode}
    (h : c.Follows env declared) {f : String × SszType} (hf : f ∈ declared)
    (hd : env.IsDynamic f.2) : none ∈ c.sizes := by
  obtain ⟨code, hcode, hfc⟩ := exists_of_forall₂ h.fields hf
  exact List.mem_map.mpr ⟨code, hcode, hfc.size.isDynamic_iff.mp hd⟩

/-- A span of a type of one size has that size. -/
def Sized (env : Catalog) (t : SszType) (span : List UInt8) : Prop :=
  ∀ n, env.HasSize t n → span.length = n

theorem Catalog.Placed.sized {t : SszType} {s : Option Nat} (h : env.Placed t s) {p : Part}
    (hp : Part.Fills s p) : Sized env t p.bytes := by
  intro n hn
  rcases s with _ | m <;> rcases p with bs | bs <;> simp only [Part.Fills] at hp
  · exact absurd h hn.not_isDynamic
  · exact hp.trans (HasSize.unique h hn)

/-- The encoding of a value stands where its type is placed. -/
theorem Catalog.Placed.fills {t : SszType} {s : Option Nat} (h : env.Placed t s) {v : Value}
    {p : Part} (hp : SerializedPart env t v p) : Part.Fills s p := by
  cases hp with
  | inline hd hv =>
    cases s with
    | none => exact absurd h hd
    | some n => exact hv.length_eq h
  | offset hd hv =>
    obtain rfl := h.isDynamic_iff.mp hd
    trivial

/-- Bytes that stand where a type is placed are the encoding of a value just if they are its
encoding in their place. -/
theorem Catalog.Placed.serializedPart_iff {t : SszType} {s : Option Nat} (h : env.Placed t s)
    {v : Value} {p : Part} (hp : Part.Fills s p) :
    SerializedPart env t v p ↔ Serialized env t v p.bytes := by
  refine ⟨SerializedPart.serialized, fun hv => ?_⟩
  rcases s with _ | n <;> rcases p with bs | bs <;> simp only [Part.Fills] at hp
  · exact .offset h hv
  · exact .inline (HasSize.not_isDynamic h) hv

end SszSchema
