import SszSchema.Codec.Encoding
import SszSchema.Proofs.Steps

/-!
# Writing behind other bytes

A routine that encodes shares its buffer with whoever called it: it remembers positions in the
buffer and overwrites bytes there. `Shifts` compares two runs of a step, one of them behind further
bytes: in that run all positions are shifted, and the rest is the same, also where the step stops
half way. `Encoder.floats_run` and `RecordCode.floats_write` say so of the routines, given the same
of those that they call, and `Codec.floats_marshalWith` of a whole run. `Codec.marshalTo_behind` is
what follows for records.
-/

namespace SszSchema

open Stateful

/-- Behind further bytes, a step does what another does without them. It leaves them in place, and
`shift` tells what becomes of the result. -/
def Shifts {α : Type} (front : List UInt8) (shift : α → α) (w behind : Writing α) : Prop :=
  ∀ buf, behind (front ++ buf) = ((w buf).1.map shift, front ++ (w buf).2)

/-- A step that knows no positions does the same behind any bytes. -/
def Floats {α : Type} (w : Writing α) : Prop := ∀ front, Shifts front id w w

variable {α β : Type} {front : List UInt8}

/-! ## Laws of shifts -/

theorem shifts_pure (shift : α → α) (a : α) :
    Shifts front shift (pure a) (pure (shift a)) := fun _ => rfl

theorem floats_pure (a : α) : Floats (pure a : Writing α) := fun _ => shifts_pure id a

theorem floats_throw (fault : Fault) : Floats (throw fault : Writing α) := fun _ _ => rfl

theorem Shifts.bind {shift : α → α} {shift' : β → β} {m m' : Writing α} {f f' : α → Writing β}
    (hm : Shifts front shift m m') (hf : ∀ a, Shifts front shift' (f a) (f' (shift a))) :
    Shifts front shift' (m >>= f) (m' >>= f') := by
  intro buf
  rw [run_bind, run_bind, hm buf]
  rcases m buf with ⟨_ | a, after⟩
  · rfl
  · exact hf a after

theorem Floats.bind {m : Writing α} {f : α → Writing β} (hm : Floats m)
    (hf : ∀ a, Floats (f a)) : Floats (m >>= f) :=
  fun front => (hm front).bind fun a => hf a front

/-! ## Simple steps -/

theorem floats_append (bs : List UInt8) : Floats (Writing.append bs) := by
  intro front buf
  exact congrArg (Prod.mk _) (List.append_assoc front buf bs)

theorem shifts_position :
    Shifts front (front.length + ·) Writing.position Writing.position := by
  intro buf
  exact congrArg (Prod.mk · _) (congrArg Except.ok List.length_append)

theorem shifts_reserve :
    Shifts front (front.length + ·) Writing.reserve Writing.reserve :=
  shifts_position.bind fun _ => (floats_append _ front).bind fun _ => shifts_pure _ _

/-- Bytes behind others are overwritten where they stand. -/
theorem patch_behind (front buf new : List UInt8) (position : Nat) :
    Bytes.patch (front ++ buf) (front.length + position) new =
      front ++ Bytes.patch buf position new := by
  simp only [Bytes.patch, Nat.add_assoc, List.take_length_add_append, List.drop_length_add_append,
    List.append_assoc]

/-- An offset counts from its start, wherever that is. -/
theorem shifts_putOffset (slot start : Nat) :
    Shifts front id (Writing.putOffset slot start)
      (Writing.putOffset (front.length + slot) (front.length + start)) := by
  intro buf
  simp only [Writing.putOffset, run_get_bind, List.length_append, Nat.add_sub_add_left]
  split
  · rfl
  · exact congrArg (Prod.mk _) (patch_behind front buf _ slot)

theorem floats_ensure (condition : Bool) (sort : ErrorClass) (detail : String) :
    Floats (Writing.ensure condition sort detail) := by
  cases condition with
  | true => exact floats_pure ()
  | false => exact floats_throw _

theorem floats_need (a : Option α) : Floats (Writing.need a) := by
  cases a with
  | some a => exact floats_pure a
  | none => exact floats_throw _

theorem floats_fieldOf (v : Value) (name : String) : Floats (Writing.fieldOf v name) := by
  unfold Writing.fieldOf
  cases v.field? name with
  | some field => exact floats_pure field
  | none => exact floats_throw _

theorem floats_ofBits (result : Except Fault α) : Floats (Encoder.ofBits result) := by
  cases result with
  | ok a => exact floats_pure a
  | error fault => exact floats_throw fault

theorem floats_checkBits (place : String) (count : Nat) (limit : Option Nat) :
    Floats (Encoder.checkBits place count limit) := by
  cases limit with
  | some limit => exact floats_ensure _ _ _
  | none => exact floats_pure ()

theorem Extent.floats_check (place : String) (count : Nat) (extent : Extent) :
    Floats (extent.check place count) := by
  cases extent with
  | exactly length => exact (floats_need length).bind fun _ => floats_ensure _ _ _
  | atMost limit => exact (floats_need limit).bind fun _ => floats_ensure _ _ _

/-! ## Routines -/

section

variable {write : Value → Writing Unit}

theorem floats_each (h : ∀ v, Floats (write v)) (items : List Value) :
    Floats (Writing.each write items) := by
  induction items with
  | nil => exact floats_pure ()
  | cons v items ih => exact (h v).bind fun _ => ih

/-- A table of offsets is shifted with its start. -/
theorem shifts_eachAt (h : ∀ v, Floats (write v)) (start i : Nat) (items : List Value) :
    Shifts front id (Writing.eachAt write start i items)
      (Writing.eachAt write (front.length + start) i items) := by
  induction items generalizing i with
  | nil => exact shifts_pure id ()
  | cons v items ih =>
    have hslot := @shifts_putOffset front (start + offsetBytes * i) start
    rw [← Nat.add_assoc] at hslot
    exact hslot.bind fun _ => (h v front).bind fun _ => ih (i + 1)

end

variable {call : String → Value → Writing Unit}

theorem Encoder.floats_run (hcall : ∀ name v, Floats (call name v)) (e : Encoder) (place : String)
    (v : Value) : Floats (e.run call place v) := by
  induction e generalizing place v with
  | uint width =>
    cases v with
    | uint n => exact (floats_ensure _ _ _).bind fun _ => floats_append _
    | _ => exact floats_throw _
  | bool =>
    cases v with
    | bool b => exact floats_append _
    | _ => exact floats_throw _
  | fixedBytes length =>
    cases v with
    | bytes bs => exact (floats_ensure _ _ _).bind fun _ => floats_append bs
    | _ => exact floats_throw _
  | boundedBytes limit =>
    cases v with
    | bytes bs =>
      exact (floats_need limit).bind fun _ => (floats_ensure _ _ _).bind fun _ => floats_append bs
    | _ => exact floats_throw _
  | bitVector length size =>
    refine (floats_need v.bits?).bind fun bits => (floats_need length).bind fun _ => ?_
    refine (floats_ensure _ _ _).bind fun _ => (floats_need size).bind fun size => ?_
    exact (floats_ofBits (Bits.pack bits size)).bind floats_append
  | packedBits limit =>
    cases v with
    | bytes bs =>
      refine (floats_ofBits (Bits.listLength bs)).bind fun count => ?_
      exact (floats_checkBits place count limit).bind fun _ => floats_append bs
    | _ => exact floats_throw _
  | bitList limit =>
    refine (floats_need v.bits?).bind fun bits => ?_
    exact (floats_checkBits place bits.length limit).bind fun _ => floats_append _
  | record name => exact hcall name v
  | sequence extent isDynamic item ih =>
    cases v with
    | list items =>
      refine (extent.floats_check place items.length).bind fun _ => ?_
      cases isDynamic with
      | true =>
        exact fun front => shifts_position.bind fun start => (floats_append _ front).bind fun _ =>
          shifts_eachAt (ih _) start 0 items
      | false => exact floats_each (ih _) items
    | _ => exact floats_throw _

namespace RecordCode

theorem floats_writeField (hcall : ∀ name v, Floats (call name v)) (c : RecordCode) (v : Value)
    (f : FieldCode) : Floats (c.writeField call v f) :=
  (floats_fieldOf v f.name).bind fun field => f.encoder.floats_run hcall _ field

/-- Places of offsets, each shifted by as many bytes. -/
def shiftSlots (n : Nat) (slots : List (FieldCode × Nat)) : List (FieldCode × Nat) :=
  slots.map fun slot => (slot.1, n + slot.2)

theorem shifts_writeHeads (hcall : ∀ name v, Floats (call name v)) (c : RecordCode) (v : Value)
    (fields : List FieldCode) :
    Shifts front (shiftSlots front.length) (c.writeHeads call v fields)
      (c.writeHeads call v fields) := by
  induction fields with
  | nil => exact shifts_pure _ []
  | cons f fields ih =>
    unfold RecordCode.writeHeads
    cases f.size with
    | some size => exact (floats_writeField hcall c v f front).bind fun _ => ih
    | none => exact shifts_reserve.bind fun slot => ih.bind fun slots => shifts_pure _ _

theorem shifts_writeBodies (hcall : ∀ name v, Floats (call name v)) (c : RecordCode) (v : Value)
    (start : Nat) (slots : List (FieldCode × Nat)) :
    Shifts front id (c.writeBodies call v start slots)
      (c.writeBodies call v (front.length + start) (shiftSlots front.length slots)) := by
  induction slots with
  | nil => exact shifts_pure id ()
  | cons slot slots ih =>
    exact (shifts_putOffset slot.2 start).bind fun _ =>
      (floats_writeField hcall c v slot.1 front).bind fun _ => ih

theorem floats_write (hcall : ∀ name v, Floats (call name v)) (c : RecordCode) (v : Value) :
    Floats (c.write call v) :=
  fun _ => shifts_position.bind fun start =>
    (c.shifts_writeHeads hcall v c.fields).bind fun slots =>
      c.shifts_writeBodies hcall v start slots

end RecordCode

/-! ## Records -/

namespace Codec

variable (codes : List RecordCode)

/-- Whatever routines a record calls, and however deep, they all write where the buffer ends. -/
theorem floats_marshalWith (fuel : Nat) (name : String) (v : Value) :
    Floats (marshalWith codes fuel name v) := by
  induction fuel generalizing name v with
  | zero => exact floats_throw _
  | succ fuel ih =>
    unfold marshalWith
    cases RecordCode.find? codes name with
    | none => exact floats_throw _
    | some c => exact c.floats_write ih v

/-- A buffer that already holds bytes keeps them, and what follows them is what the routine would
leave without them. -/
theorem marshalTo_append (name : String) (v : Value) (front buf : List UInt8) :
    marshalTo codes name v (front ++ buf) =
      ((marshalTo codes name v buf).1, front ++ (marshalTo codes name v buf).2) := by
  have h := floats_marshalWith codes (v.depth + 1) name v front buf
  rwa [Except.map_id] at h

/-- A routine that is given a buffer returns just if the one that encodes the record alone does, and
then it has appended that encoding. If it stops, it stops with the same error, and has appended what
it would have left in an empty buffer. -/
theorem marshalTo_behind (name : String) (v : Value) (front : List UInt8) :
    (∀ after, marshalTo codes name v front = (.ok (), after) ↔
      ∃ bs, marshal codes name v = .ok bs ∧ front ++ bs = after) ∧
    ∀ fault after, marshalTo codes name v front = (.error fault, after) ↔
      marshal codes name v = .error fault ∧ front ++ (marshalTo codes name v []).2 = after := by
  have h := marshalTo_append codes name v front []
  rw [List.append_nil] at h
  rw [h]
  unfold marshal
  rcases marshalTo codes name v [] with ⟨_ | _, left⟩ <;> simp [Except.map]

end Codec

end SszSchema
