import SszSchema.Output.Module
import SszSchema.Proofs.Generation

/-!
# What generated code is made of

The fragments that can stand in a routine of a record (`Makes`): the variables of that routine
(`Routine.owns`), error classes, what the language provides, the helpers and the routines of other
records that the record's code calls (`RecordCode.helpers`, `RecordCode.callees`), the class of the
record in its decoder, and the appending routine in its encoder.

Printing numbers temporaries. `Yields` says what a numbered step returns from whatever number it
starts, and composes along the step, so that there is one lemma for each function of the printer;
`makesLines_function` puts them together.
-/

namespace SszSchema

/-! ## Records that code calls -/

/-- The record whose routine encodes the innermost elements. -/
def Encoder.callee : Encoder → Option String
  | .record name => some name
  | .sequence _ _ item => item.callee
  | _ => none

/-- The record whose routine decodes the innermost elements. -/
def Decoder.callee : Decoder → Option String
  | .record name => some name
  | .sequence _ _ item => item.callee
  | _ => none

/-- The record whose routine measures the innermost elements. -/
def Measure.callee : Measure → Option String
  | .record name => some name
  | .dynamicItems item => item.callee
  | _ => none

namespace RecordCode

/-- The records whose routines the routines of a record call. -/
def callees (c : RecordCode) : List String :=
  (c.fields.flatMap fun f => f.encoder.callee.toList ++ f.decoder.callee.toList) ++
    c.measures.flatMap fun m => m.2.callee.toList

variable {c : RecordCode} {f : FieldCode}

theorem encoder_helpers_subset (hf : f ∈ c.fields) : f.encoder.helpers ⊆ c.helpers := by
  intro h hh
  exact List.mem_append_right _ (List.mem_flatMap.mpr ⟨f, hf, List.mem_append_left _ hh⟩)

theorem decoder_helpers_subset (hf : f ∈ c.fields) : f.decoder.helpers ⊆ c.helpers := by
  intro h hh
  exact List.mem_append_right _ (List.mem_flatMap.mpr ⟨f, hf, List.mem_append_right _ hh⟩)

theorem putOffset_mem_helpers (hf : f ∈ c.fields) (hsize : f.size = none) :
    .putOffset ∈ c.helpers := by
  have hoffsets : c.hasOffsets = true := List.any_eq_true.mpr ⟨f, hf, by rw [hsize]; rfl⟩
  unfold helpers
  rw [if_pos hoffsets]
  exact List.mem_append_left _ List.mem_cons_self

theorem encoder_callee_mem (hf : f ∈ c.fields) {name : String}
    (h : f.encoder.callee = some name) : name ∈ c.callees := by
  refine List.mem_append_left _ (List.mem_flatMap.mpr ⟨f, hf, List.mem_append_left _ ?_⟩)
  rw [h]
  exact List.mem_cons_self

theorem decoder_callee_mem (hf : f ∈ c.fields) {name : String}
    (h : f.decoder.callee = some name) : name ∈ c.callees := by
  refine List.mem_append_left _ (List.mem_flatMap.mpr ⟨f, hf, List.mem_append_right _ ?_⟩)
  rw [h]
  exact List.mem_cons_self

theorem measure_callee_mem {m : String × Measure} (hm : m ∈ c.measures) {name : String}
    (h : m.2.callee = some name) : name ∈ c.callees := by
  refine List.mem_append_right _ (List.mem_flatMap.mpr ⟨m, hm, ?_⟩)
  rw [h]
  exact List.mem_cons_self

end RecordCode

/-! ## Fragments of routines -/

/-- Whether a routine has a variable. -/
@[reducible]
def Routine.owns (r : Routine) : Variable → Bool
  | .obj => r != .unmarshal
  | .buf => r == .marshalTo || r == .unmarshal
  | .start => r == .marshalTo
  | .size => r == .unmarshal || r == .size
  | .temporary _ => r != .marshal
  | .offset _ => r == .marshalTo || r == .unmarshal
  | .decoded _ => r == .unmarshal
  | .inner _ => false

/-- A fragment can stand in a routine of a record. -/
inductive Makes (call : Printer.Caller) (c : RecordCode) (r : Routine) : Fragment → Prop
  | plain (text : String) : Makes call c r (.plain text)
  | var {v : Variable} (h : r.owns v = true) : Makes call c r (.var v)
  | error (e : ErrorClass) : Makes call c r (.entity (.error e))
  | builtin (b : Builtin) : Makes call c r (.entity (.builtin b))
  | helper {h : Helper} (hh : h ∈ c.helpers) : Makes call c r (.entity (.helper h))
  | call {name : String} {x : Fragment} (hname : name ∈ c.callees) (hx : x ∈ call r name) :
      Makes call c r x
  /-- The class that a decoder makes a record of. -/
  | record (h : r = .unmarshal) : Makes call c r (.entity (.record c.name))
  /-- The routine that an encoder leaves its work to. -/
  | marshalTo (h : r = .marshal) : Makes call c r (.entity (.routine .marshalTo c.name))

/-- A line can stand in a routine of a record. -/
def MakesLine (call : Printer.Caller) (c : RecordCode) (r : Routine) (line : CodeLine) : Prop :=
  ∀ x ∈ line, Makes call c r x

/-- Lines can stand in a routine of a record. -/
def MakesLines (call : Printer.Caller) (c : RecordCode) (r : Routine) (lines : List CodeLine) :
    Prop :=
  ∀ line ∈ lines, MakesLine call c r line

section

variable {call : Printer.Caller} {c : RecordCode} {r : Routine}

attribute [simp] Makes.plain Makes.var Makes.error Makes.builtin Routine.owns

@[simp]
theorem makesLine_nil : MakesLine call c r [] := List.forall_mem_nil _

@[simp]
theorem makesLine_cons {x : Fragment} {line : CodeLine} :
    MakesLine call c r (x :: line) ↔ Makes call c r x ∧ MakesLine call c r line :=
  List.forall_mem_cons

@[simp]
theorem makesLine_append {line rest : CodeLine} :
    MakesLine call c r (line ++ rest) ↔ MakesLine call c r line ∧ MakesLine call c r rest :=
  List.forall_mem_append

@[simp]
theorem makesLines_nil : MakesLines call c r [] := List.forall_mem_nil _

@[simp]
theorem makesLines_cons {line : CodeLine} {lines : List CodeLine} :
    MakesLines call c r (line :: lines) ↔ MakesLine call c r line ∧ MakesLines call c r lines :=
  List.forall_mem_cons

@[simp]
theorem makesLines_append {lines rest : List CodeLine} :
    MakesLines call c r (lines ++ rest) ↔ MakesLines call c r lines ∧ MakesLines call c r rest :=
  List.forall_mem_append

@[simp]
theorem makesLine_blank : MakesLine call c r CodeLine.blank := makesLine_nil

@[simp]
theorem makesLines_indent {lines : List CodeLine} :
    MakesLines call c r (CodeLine.indent lines) ↔ MakesLines call c r lines := by
  unfold MakesLines CodeLine.indent
  rw [List.forall_mem_map]
  refine forall₂_congr fun line _ => ?_
  cases line <;> simp

variable {value message : CodeLine}

@[simp]
theorem makesLines_block {header : CodeLine} {body : List CodeLine} :
    MakesLines call c r (CodeLine.block header body) ↔
      MakesLine call c r header ∧ MakesLines call c r body := by
  simp [CodeLine.block]

@[simp]
theorem makesLine_lengthOf :
    MakesLine call c r (CodeLine.lengthOf value) ↔ MakesLine call c r value := by
  simp [CodeLine.lengthOf]

@[simp]
theorem makesLine_inserted :
    MakesLine call c r (CodeLine.inserted value) ↔ MakesLine call c r value := by
  simp [CodeLine.inserted]

@[simp]
theorem makesLine_formatted :
    MakesLine call c r (CodeLine.formatted message) ↔ MakesLine call c r message := by
  simp [CodeLine.formatted]

@[simp]
theorem makesLine_docstring (text : String) : MakesLine call c r (CodeLine.docstring text) := by
  simp [CodeLine.docstring]

@[simp]
theorem makesLine_assign {target : CodeLine} :
    MakesLine call c r (CodeLine.assign target value) ↔
      MakesLine call c r target ∧ MakesLine call c r value := by
  simp [CodeLine.assign]

@[simp]
theorem makesLines_returns :
    MakesLines call c r (CodeLine.returns value) ↔ MakesLine call c r value := by
  simp [CodeLine.returns]

@[simp]
theorem makesLines_raiseIf {condition : CodeLine} {e : ErrorClass} :
    MakesLines call c r (CodeLine.raiseIf condition e message) ↔
      MakesLine call c r condition ∧ MakesLine call c r message := by
  simp [CodeLine.raiseIf]

end

/-! ## Numbered steps -/

namespace Printer

/-- A step returns something with a property, from whatever number it starts. -/
def Yields {α : Type} (m : Numbered α) (Q : α → Prop) : Prop := ∀ n, Q (m.run n).1

namespace Yields

variable {α β : Type} {Q : α → Prop} {R : β → Prop}

theorem pure {a : α} (h : Q a) : Yields (Pure.pure a) Q := fun _ => h

theorem bind {m : Numbered α} {f : α → Numbered β} (hm : Yields m Q)
    (hf : ∀ a, Q a → Yields (f a) R) : Yields (m >>= f) R :=
  fun n => hf _ (hm n) _

end Yields

variable {call : Caller} {c : RecordCode} {r : Routine} {value : CodeLine} {place : String}
  {extent : Extent}

theorem yields_fresh (hr : r ≠ .marshal) : Yields fresh (MakesLine call c r) := by
  intro n
  refine makesLine_cons.mpr ⟨.var ?_, makesLine_nil⟩
  simpa using hr

@[simp]
theorem makesLine_fieldOf (hr : r ≠ .unmarshal) (name : String) :
    MakesLine call c r (fieldOf name) := by
  simp [fieldOf, hr]

@[simp]
theorem makesLine_fieldComment (word : String) (index : Nat) (f : FieldCode) :
    MakesLine call c r (fieldComment word index f) := by
  simp [fieldComment]

/-! ## Encoding -/

@[simp]
theorem makesLine_append_iff :
    MakesLine call c .marshalTo (append value) ↔ MakesLine call c .marshalTo value := by
  simp [append]

@[simp]
theorem makesLines_checkExtent :
    MakesLines call c r (checkExtent value place extent) ↔ MakesLine call c r value := by
  cases extent <;> simp [checkExtent]

@[simp]
theorem makesLines_checkBits {limit : Option Nat} (hvalue : MakesLine call c r value) :
    MakesLines call c r (checkBits value place limit) := by
  cases limit <;> simp [checkBits, hvalue]

theorem makesLine_call {name : String} (hname : name ∈ c.callees) :
    MakesLine call c r (call r name) :=
  fun _ hx => .call hname hx

theorem yields_encode {e : Encoder} (hvalue : MakesLine call c .marshalTo value)
    (hhelpers : e.helpers ⊆ c.helpers) (hcallee : ∀ name, e.callee = some name → name ∈ c.callees) :
    Yields (encode call value place e) (MakesLines call c .marshalTo) := by
  have hhelper : ∀ h ∈ e.helpers, Makes call c .marshalTo (.entity (.helper h)) :=
    fun h hh => .helper (hhelpers hh)
  have hfresh : Yields fresh (MakesLine call c .marshalTo) := yields_fresh (by decide)
  induction e generalizing value place with
  | sequence extent isDynamic item ih =>
    have hitem {x : CodeLine} (hx : MakesLine call c .marshalTo x) :
        Yields (encode call x (place ++ "[]") item) (MakesLines call c .marshalTo) :=
      ih hx (fun h hh => hhelpers (List.mem_append_right _ hh)) hcallee
        (fun h hh => hhelper h (List.mem_append_right _ hh))
    cases isDynamic with
    | false =>
      refine .bind hfresh fun x hx => .bind (hitem hx) fun body hbody => .pure ?_
      simp [hvalue, hx, hbody]
    | true =>
      have hput := hhelper .putOffset List.mem_cons_self
      refine .bind hfresh fun start hstart => .bind hfresh fun i hi => .bind hfresh fun x hx => ?_
      refine .bind (hitem hx) fun body hbody => .pure ?_
      simp [hvalue, hstart, hi, hx, hbody, hput]
  | packedBits limit =>
    have hcount := hhelper .bitListLength List.mem_cons_self
    refine .bind hfresh fun n hn => .pure ?_
    simp [hvalue, hn, hcount]
  | record name =>
    refine .pure ?_
    simp [hvalue, makesLine_call (hcallee name rfl)]
  | bitVector | bitList =>
    have hpack := hhelper _ List.mem_cons_self
    refine .pure ?_
    simp [hvalue, hpack]
  | _ =>
    refine .pure ?_
    simp [hvalue]

variable {fields : List FieldCode}

theorem yields_encode_field {f : FieldCode} (hf : f ∈ c.fields) :
    Yields (encode call (fieldOf f.name) place f.encoder) (MakesLines call c .marshalTo) :=
  yields_encode (makesLine_fieldOf (by decide) f.name) (RecordCode.encoder_helpers_subset hf)
    fun _ hname => RecordCode.encoder_callee_mem hf hname

theorem yields_encodeHead (record : String) (index : Nat) {f : FieldCode} (hf : f ∈ c.fields) :
    Yields (encodeHead call record index f) (MakesLines call c .marshalTo) := by
  unfold encodeHead
  cases f.size with
  | some size =>
    refine .bind (yields_encode_field hf) fun body hbody => .pure ?_
    simp [hbody]
  | none =>
    refine .pure ?_
    simp

theorem yields_encodeHeads (record : String) (index : Nat) (hfields : fields ⊆ c.fields) :
    Yields (encodeHeads call record index fields) (MakesLines call c .marshalTo) := by
  induction fields generalizing index with
  | nil => exact .pure makesLines_nil
  | cons f fields ih =>
    obtain ⟨hf, hrest⟩ := List.cons_subset.mp hfields
    refine .bind (yields_encodeHead record index hf) fun lines hlines => ?_
    refine .bind (ih (index + 1) hrest) fun rest hrest => .pure ?_
    simp [hlines, hrest]

theorem yields_encodeBody (record : String) (index : Nat) {f : FieldCode} (hf : f ∈ c.fields) :
    Yields (encodeBody call record index f) (MakesLines call c .marshalTo) := by
  unfold encodeBody
  cases hsize : f.size with
  | some size => exact .pure makesLines_nil
  | none =>
    have hput : Makes call c .marshalTo (.entity (.helper .putOffset)) :=
      .helper (RecordCode.putOffset_mem_helpers hf hsize)
    refine .bind (yields_encode_field hf) fun body hbody => .pure ?_
    simp [hbody, hput]

theorem yields_encodeBodies (record : String) (index : Nat) (hfields : fields ⊆ c.fields) :
    Yields (encodeBodies call record index fields) (MakesLines call c .marshalTo) := by
  induction fields generalizing index with
  | nil => exact .pure makesLines_nil
  | cons f fields ih =>
    obtain ⟨hf, hrest⟩ := List.cons_subset.mp hfields
    refine .bind (yields_encodeBody record index hf) fun lines hlines => ?_
    refine .bind (ih (index + 1) hrest) fun rest hrest => .pure ?_
    simp [hlines, hrest]

theorem makesLines_numbered {step : Numbered (List CodeLine)}
    (h : Yields step (MakesLines call c r)) : MakesLines call c r (numbered step) := h 0

theorem makesLines_marshal : MakesLines call c .marshal (marshal c) := by
  have hself : Makes call c .marshal (.entity (.routine .marshalTo c.name)) := .marshalTo rfl
  simp [marshal, hself]

theorem makesLines_marshalTo : MakesLines call c .marshalTo (marshalTo call c) := by
  have hheads : Yields (encodeHeads call c.name 0 c.fields) (MakesLines call c .marshalTo) :=
    yields_encodeHeads c.name 0 (List.Subset.refl c.fields)
  have hbodies : Yields (encodeBodies call c.name 0 c.fields) (MakesLines call c .marshalTo) :=
    yields_encodeBodies c.name 0 (List.Subset.refl c.fields)
  have hbody := makesLines_numbered (hheads.bind fun heads hheads =>
    hbodies.bind fun bodies hbodies => .pure (makesLines_append.mpr ⟨hheads, hbodies⟩))
  have hstart : MakesLines call c .marshalTo (if c.isDynamic then
      [CodeLine.assign Variable.start (CodeLine.lengthOf Variable.buf)] else []) := by
    split <;> simp
  simpa [marshalTo, hstart] using hbody

/-! ## Decoding -/

section

variable {data count span dest : CodeLine} {step : Option Nat} {d : Decoder}

@[simp]
theorem makesLine_numberOf :
    MakesLine call c r (numberOf span) ↔ MakesLine call c r span := by
  simp [numberOf]

@[simp]
theorem makesLine_part {start stop : CodeLine} :
    MakesLine call c .unmarshal (part start stop) ↔
      MakesLine call c .unmarshal start ∧ MakesLine call c .unmarshal stop := by
  simp [part]

theorem makesLine_leaf (hspan : MakesLine call c .unmarshal span) (hhelpers : d.helpers ⊆ c.helpers)
    (hcallee : ∀ name, d.callee = some name → name ∈ c.callees) {e : CodeLine}
    (he : leaf call span d = some e) : MakesLine call c .unmarshal e := by
  have hhelper : ∀ h ∈ d.helpers, Makes call c .unmarshal (.entity (.helper h)) :=
    fun h hh => .helper (hhelpers hh)
  cases d with
  | sequence extent step item => cases he
  | record name =>
    obtain rfl := Option.some.inj he
    simp [hspan, makesLine_call (hcallee name rfl)]
  | uint | fixedBytes =>
    obtain rfl := Option.some.inj he
    simp [hspan]
  | _ =>
    have hread := hhelper _ List.mem_cons_self
    obtain rfl := Option.some.inj he
    simp [hspan, hread]

theorem makesLines_bind_leaf (hspan : MakesLine call c .unmarshal span)
    (hdest : MakesLine call c .unmarshal dest) (hhelpers : d.helpers ⊆ c.helpers)
    (hcallee : ∀ name, d.callee = some name → name ∈ c.callees) :
    MakesLines call c .unmarshal ((leaf call span d).map (CodeLine.assign dest)).toList := by
  cases he : leaf call span d with
  | none => exact makesLines_nil
  | some e => simp [hdest, makesLine_leaf hspan hhelpers hcallee he]

theorem yields_counted {item : Decoder} (hdata : MakesLine call c .unmarshal data)
    (hhelpers : (Decoder.sequence extent step item).helpers ⊆ c.helpers) :
    Yields (counted data step extent) fun p =>
      MakesLines call c .unmarshal p.1 ∧ MakesLine call c .unmarshal p.2 := by
  cases extent with
  | exactly length =>
    refine .pure ?_
    simp
  | atMost limit =>
    have hfresh : Yields fresh (MakesLine call c .unmarshal) := yields_fresh (by decide)
    refine .bind hfresh fun count hcount => .pure ?_
    cases step with
    | some step =>
      have hcall : Makes call c .unmarshal (.entity (.helper .fixedCount)) :=
        .helper (hhelpers List.mem_cons_self)
      simp [hdata, hcount, hcall]
    | none =>
      have hcall : Makes call c .unmarshal (.entity (.helper .dynamicCount)) :=
        .helper (hhelpers List.mem_cons_self)
      simp [hdata, hcount, hcall]

theorem yields_loop {item : Decoder} (hdata : MakesLine call c .unmarshal data)
    (hcount : MakesLine call c .unmarshal count)
    (hhelpers : (Decoder.sequence extent step item).helpers ⊆ c.helpers) :
    Yields (loop data count step) fun p =>
      MakesLine call c .unmarshal p.1 ∧ MakesLine call c .unmarshal p.2 := by
  have hfresh : Yields fresh (MakesLine call c .unmarshal) := yields_fresh (by decide)
  cases step with
  | some step =>
    refine .bind hfresh fun i hi => .pure ?_
    simp [hdata, hcount, hi]
  | none =>
    have hspans : .offsetSpans ∈ (Decoder.sequence extent none item).helpers := by
      cases extent <;> simp [Decoder.helpers]
    have hcall : Makes call c .unmarshal (.entity (.helper .offsetSpans)) :=
      .helper (hhelpers hspans)
    refine .bind hfresh fun lo hlo => .bind hfresh fun hi hhi => .pure ?_
    simp [hdata, hcount, hlo, hhi, hcall]

theorem yields_decode (hspan : MakesLine call c .unmarshal span)
    (hdest : MakesLine call c .unmarshal dest) (hhelpers : d.helpers ⊆ c.helpers)
    (hcallee : ∀ name, d.callee = some name → name ∈ c.callees) :
    Yields (decode call span dest d) (MakesLines call c .unmarshal) := by
  have hfresh : Yields fresh (MakesLine call c .unmarshal) := yields_fresh (by decide)
  induction d generalizing span dest with
  | sequence extent step item ih =>
    have hitem : item.helpers ⊆ c.helpers := fun h hh => hhelpers (List.mem_append_right _ hh)
    refine .bind hfresh fun data hdata => ?_
    refine .bind (yields_counted hdata hhelpers) fun ⟨setup, count⟩ ⟨hsetup, hcount⟩ => ?_
    refine .bind (yields_loop hdata hcount hhelpers) fun ⟨header, itemSpan⟩ ⟨hheader, hitemSpan⟩ =>
      ?_
    dsimp only
    cases hleaf : leaf call itemSpan item with
    | some e =>
      have he := makesLine_leaf hitemSpan hitem hcallee hleaf
      refine .pure ?_
      simp [hspan, hdest, hdata, hsetup, hheader, he]
    | none =>
      refine .bind hfresh fun x hx => ?_
      refine .bind (ih hitemSpan hx hitem hcallee) fun body hbody => .pure ?_
      simp [hspan, hdest, hdata, hsetup, hheader, hx, hbody]
  | _ => exact .pure (makesLines_bind_leaf hspan hdest hhelpers hcallee)

end

theorem yields_decode_field {f : FieldCode} {span : CodeLine} (hf : f ∈ c.fields)
    (hspan : MakesLine call c .unmarshal span) :
    Yields (decode call span (Variable.decoded f.name) f.decoder)
      (MakesLines call c .unmarshal) := by
  refine yields_decode hspan ?_ (RecordCode.decoder_helpers_subset hf)
    fun _ hname => RecordCode.decoder_callee_mem hf hname
  simp

theorem makesLines_checkOffset {offset : CodeLine} (hoffset : MakesLine call c .unmarshal offset)
    (previous : Option Nat) :
    MakesLines call c .unmarshal (checkOffset c place offset previous) := by
  cases previous <;> simp [checkOffset, hoffset]

theorem yields_decodeHeads (index pos : Nat) (previous : Option Nat)
    (hfields : fields ⊆ c.fields) :
    Yields (decodeHeads call c index pos previous fields) (MakesLines call c .unmarshal) := by
  induction fields generalizing index pos previous with
  | nil => exact .pure makesLines_nil
  | cons f fields ih =>
    obtain ⟨hf, hrest⟩ := List.cons_subset.mp hfields
    unfold decodeHeads
    cases f.size with
    | some size =>
      refine .bind (yields_decode_field hf (by simp)) fun body hbody => ?_
      refine .bind (ih _ _ _ hrest) fun rest hrest => .pure ?_
      simp [hbody, hrest]
    | none =>
      refine .bind (ih _ _ _ hrest) fun rest hrest => .pure ?_
      simp [hrest, makesLines_checkOffset]

theorem mem_of_mem_dynamicFields {index : Nat} {p : Nat × FieldCode}
    (h : p ∈ dynamicFields index fields) : p.2 ∈ fields := by
  induction fields generalizing index with
  | nil => cases h
  | cons f fields ih =>
    unfold dynamicFields at h
    split at h
    · rcases List.mem_cons.mp h with rfl | h
      · exact List.mem_cons_self
      · exact List.mem_cons_of_mem _ (ih h)
    · exact List.mem_cons_of_mem _ (ih h)

theorem yields_decodeBodies {pairs : List (Nat × FieldCode)} (h : ∀ p ∈ pairs, p.2 ∈ c.fields) :
    Yields (decodeBodies call pairs) (MakesLines call c .unmarshal) := by
  induction pairs with
  | nil => exact .pure makesLines_nil
  | cons p pairs ih =>
    obtain ⟨hf, hrest⟩ := List.forall_mem_cons.mp h
    have hspan : MakesLine call c .unmarshal (part (Variable.offset p.1) (stopOf pairs)) := by
      cases pairs <;> simp [stopOf]
    refine .bind (yields_decode_field hf hspan) fun body hbody => ?_
    refine .bind (ih hrest) fun rest hrest => .pure ?_
    simp [hbody, hrest]

theorem makesLines_checkSize : MakesLines call c .unmarshal (checkSize c) := by
  unfold checkSize
  split <;> simp

theorem makesLine_arguments : MakesLine call c .unmarshal (arguments fields) := by
  induction fields with
  | nil => exact makesLine_nil
  | cons f fields ih => cases fields <;> simp_all [arguments]

theorem makesLines_unmarshal : MakesLines call c .unmarshal (unmarshal call c) := by
  have hheads : Yields (decodeHeads call c 0 0 none c.fields) (MakesLines call c .unmarshal) :=
    yields_decodeHeads 0 0 none (List.Subset.refl c.fields)
  have hbodies : Yields (decodeBodies call (dynamicFields 0 c.fields))
      (MakesLines call c .unmarshal) :=
    yields_decodeBodies fun _ hp => mem_of_mem_dynamicFields hp
  have hbody := makesLines_numbered (hheads.bind fun heads hheads =>
    hbodies.bind fun bodies hbodies => .pure (makesLines_append.mpr ⟨hheads, hbodies⟩))
  have hrecord : Makes call c .unmarshal (.entity (.record c.name)) := .record rfl
  simpa [unmarshal, makesLines_checkSize, makesLine_arguments, hrecord] using hbody

/-! ## Sizes -/

theorem yields_measure {m : Measure} (hvalue : MakesLine call c .size value)
    (hcallee : ∀ name, m.callee = some name → name ∈ c.callees) :
    Yields (measure call value m) (MakesLine call c .size) := by
  induction m generalizing value with
  | dynamicItems item ih =>
    refine .bind (Q := MakesLine call c .size) (yields_fresh (by decide)) fun x hx => ?_
    refine .bind (ih hx hcallee) fun inner hinner => .pure ?_
    simp [hvalue, hx, hinner]
  | record name =>
    refine .pure ?_
    simp [hvalue, makesLine_call (hcallee name rfl)]
  | _ =>
    refine .pure ?_
    simp [hvalue]

theorem yields_addMeasures {measures : List (String × Measure)} (h : measures ⊆ c.measures) :
    Yields (addMeasures call measures) (MakesLines call c .size) := by
  induction measures with
  | nil => exact .pure makesLines_nil
  | cons m measures ih =>
    obtain ⟨hm, hrest⟩ := List.cons_subset.mp h
    refine .bind (yields_measure (makesLine_fieldOf (by decide) m.1)
      fun _ hname => RecordCode.measure_callee_mem hm hname) fun size hsize => ?_
    refine .bind (ih hrest) fun rest hrest => .pure ?_
    simp [hsize, hrest]

theorem makesLines_size : MakesLines call c .size (size call c) := by
  have hbody : MakesLines call c .size (numbered (addMeasures call c.measures)) :=
    makesLines_numbered (yields_addMeasures (List.Subset.refl c.measures))
  unfold size
  split <;> simp [hbody]

theorem mem_flatten_block {header : CodeLine} {body : List CodeLine} {x : Fragment}
    (h : x ∈ body.flatten) : x ∈ (CodeLine.block header body).flatten := by
  obtain ⟨line, hline, hx⟩ := List.mem_flatten.mp h
  refine List.mem_flatten.mpr ⟨.plain "    " :: line, List.mem_cons_of_mem _ ?_,
    List.mem_cons_of_mem _ hx⟩
  refine List.mem_map.mpr ⟨line, hline, if_neg ?_⟩
  simpa using List.ne_nil_of_mem hx

/-- A decoder has a buffer and its size, and makes a record. -/
theorem mem_unmarshal : .var .buf ∈ (unmarshal call c).flatten ∧
    .var .size ∈ (unmarshal call c).flatten ∧
      .entity (.record c.name) ∈ (unmarshal call c).flatten := by
  refine ⟨mem_flatten_block ?_, mem_flatten_block ?_, mem_flatten_block ?_⟩ <;>
    simp [CodeLine.assign, CodeLine.returns]

/-- The routines of a record are made of what the record's code tells. -/
theorem makesLines_function {f : List CodeLine} (h : f ∈ c.functions call) :
    ∃ r, MakesLines call c r f := by
  simp only [RecordCode.functions, List.mem_cons, List.not_mem_nil, or_false] at h
  rcases h with rfl | rfl | rfl | rfl
  · exact ⟨.marshal, makesLines_marshal⟩
  · exact ⟨.marshalTo, makesLines_marshalTo⟩
  · exact ⟨.unmarshal, makesLines_unmarshal⟩
  · exact ⟨.size, makesLines_size⟩

end Printer

end SszSchema
