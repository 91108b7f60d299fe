import Mathlib.Data.List.ProdSigma
import Mathlib.Data.List.Sublists
import Mathlib.Data.Set.Finite.Basic
import SszSchema.Proofs.Decoding
import SszSchema.Proofs.Generation

/-!
# Calls of decoders

A decoder at work on a span (`Call`) cuts parts out of the span and has other decoders read them.
`Enters` lists these parts with their positions as the code computes them, and so spans a tree of
calls for any input. The fields and offsets of hostile input are of no help to an attacker:

* every part lies within its span, and what is read by an offset is at least four bytes shorter than
  the span (`Enters.inside`);
* what is read without an offset is of a type of one size (`Enters.typed`), and such types do not
  contain each other (`Catalog.HasSize.acc_member`).

So the tree of calls is finite (`Covers.callTree`). A run follows it: fuel beyond its depth changes
nothing (`CallTree.run_eq`).
-/

namespace SszSchema

open Outcome

variable {env : Catalog} {codes : List RecordCode}

/-! ## The calls that a call makes -/

/-- A decoder at work on a span. -/
structure Call where
  decoder : Decoder
  span : List UInt8

/-- The number of elements that a sequence reads from its span. -/
def Decoder.count (data : List UInt8) : Extent → Option Nat → Reading Nat
  | .exactly length, _ => Reading.need length
  | .atMost limit, some step => do Offsets.fixedCount data.length step (← Reading.need limit)
  | .atMost limit, none => do Offsets.dynamicCount data (← Reading.need limit)

theorem Decoder.spans_eq (data : List UInt8) (extent : Extent) (step : Option Nat) :
    Decoder.spans data extent step = do
      let count ← Decoder.count data extent step
      match step with
      | some step => return (List.range count).map fun i =>
          Bytes.slice data (i * step) ((i + 1) * step)
      | none => return (← Offsets.spans data count).map fun (start, stop) =>
          Bytes.slice data start stop := by
  rcases extent with length | _ | limit <;> cases step <;> rfl

/-- A decoder that has no other decoder read parts of its span. -/
def Decoder.isLeaf : Decoder → Bool
  | .record _ | .sequence _ _ _ => false
  | _ => true

/-- The call may have a decoder read its span from `start` to `stop`, which are the bounds of its
place in the region of heads or, with `offset`, come from offsets. -/
inductive Enters (codes : List RecordCode) : Call → Bool → Nat → Nat → Decoder → Prop
  | head {name : String} {c : RecordCode} {buf : List UInt8} {pre post : List FieldCode}
      {f : FieldCode} {size : Nat} (hc : RecordCode.find? codes name = some c)
      (hsize : c.checkSize buf.length = .ok ()) (hfields : c.fields = pre ++ f :: post)
      (hf : f.size = some size) :
      Enters codes ⟨.record name, buf⟩ false (Part.regionOf (pre.map (·.size)))
        (Part.regionOf (pre.map (·.size)) + size) f.decoder
  | body {name : String} {c : RecordCode} {buf : List UInt8}
      {call : String → List UInt8 → Reading Value} {pre post : List (FieldCode × RecordCode.Head)}
      {f : FieldCode} {start : Nat} (hc : RecordCode.find? codes name = some c)
      (hsize : c.checkSize buf.length = .ok ())
      (hheads : c.readHeads call buf 0 none c.fields = .ok (pre ++ (f, .offset start) :: post)) :
      Enters codes ⟨.record name, buf⟩ true start (RecordCode.stopOf buf.length post) f.decoder
  | fixedItem {extent : Extent} {step count i : Nat} {item : Decoder} {data : List UInt8}
      (hcount : Decoder.count data extent (some step) = .ok count) (hi : i < count) :
      Enters codes ⟨.sequence extent (some step) item, data⟩ false (i * step) ((i + 1) * step) item
  | item {extent : Extent} {count start stop : Nat} {item : Decoder} {data : List UInt8}
      {spans : List (Nat × Nat)} (hcount : Decoder.count data extent none = .ok count)
      (hspans : Offsets.spans data count = .ok spans) (hs : (start, stop) ∈ spans) :
      Enters codes ⟨.sequence extent none item, data⟩ true start stop item

namespace Call

/-- What a call has a decoder read. -/
def part (call : Call) (start stop : Nat) (d : Decoder) : Call :=
  ⟨d, Bytes.slice call.span start stop⟩

/-- The calls that a call may make. -/
def children (codes : List RecordCode) (call : Call) : Set Call :=
  {child | ∃ offset start stop d, Enters codes call offset start stop d ∧
    child = call.part start stop d}

/-- The decoders that are called. -/
def decoders (codes : List RecordCode) (call : Call) : List Decoder :=
  match call.decoder with
  | .record name => ((RecordCode.find? codes name).elim [] (·.fields)).map (·.decoder)
  | .sequence _ _ item => [item]
  | _ => []

end Call

/-- The heads that are read are those of the fields. -/
theorem RecordCode.map_fst_readHeads {c : RecordCode} {call : String → List UInt8 → Reading Value}
    {buf : List UInt8} {pos : Nat} {previous : Option Nat} {fcs : List FieldCode}
    {hs : List (FieldCode × RecordCode.Head)} (h : c.readHeads call buf pos previous fcs = .ok hs) :
    hs.map (·.1) = fcs := by
  induction fcs generalizing pos previous hs with
  | nil =>
    obtain rfl := Except.ok.inj h
    rfl
  | cons f fcs ih =>
    rw [readHeads] at h
    split at h
    · obtain ⟨v, -, h⟩ := bind_eq_ok.mp h
      obtain ⟨hs, hrest, h⟩ := bind_eq_ok.mp h
      obtain rfl := pure_eq_ok.mp h
      rw [List.map_cons, ih hrest]
    · obtain ⟨-, -, h⟩ := bind_eq_ok.mp h
      obtain ⟨hs, hrest, h⟩ := bind_eq_ok.mp h
      obtain rfl := pure_eq_ok.mp h
      rw [List.map_cons, ih hrest]

theorem Enters.mem_decoders {call : Call} {offset : Bool} {start stop : Nat} {d : Decoder}
    (h : Enters codes call offset start stop d) : d ∈ call.decoders codes := by
  cases h with
  | head hc _ hfields _ => simp [Call.decoders, hc, hfields]
  | body hc _ hheads =>
    have hf := congrArg (List.map (·.decoder)) (RecordCode.map_fst_readHeads hheads)
    simp [Call.decoders, hc, ← hf]
  | fixedItem => simp [Call.decoders]
  | item => simp [Call.decoders]

/-- A call makes finitely many different calls. -/
theorem Call.finite_children (codes : List RecordCode) (call : Call) :
    (call.children codes).Finite := by
  have hfinite := List.finite_toSet ((call.decoders codes).product call.span.sublists)
  refine (hfinite.image fun p => Call.mk p.1 p.2).subset ?_
  rintro _ ⟨offset, start, stop, d, h, rfl⟩
  have hslice : (Bytes.slice call.span start stop).Sublist call.span :=
    (List.drop_sublist _ _).trans (List.take_sublist _ _)
  exact ⟨(d, _), List.pair_mem_product.mpr ⟨h.mem_decoders, List.mem_sublists.mpr hslice⟩, rfl⟩

/-! ## Parts lie within their spans -/

/-- Bodies lie behind the first offset, in order and within the bytes. -/
theorem mem_bodySpans {stop a b : Nat} {ns : List Nat} (h : Part.Ascending stop ns)
    (hmem : (a, b) ∈ bodySpans stop ns) : ns.headD stop ≤ a ∧ a ≤ b ∧ b ≤ stop := by
  induction ns with
  | nil => cases hmem
  | cons n rest ih =>
    obtain ⟨hle, hrest⟩ := h
    rcases List.mem_cons.mp hmem with heq | hmem
    · obtain ⟨rfl, rfl⟩ := Prod.mk.inj heq
      exact ⟨Nat.le_refl _, hle, hrest.headD_le⟩
    · obtain ⟨ha, hab, hb⟩ := ih hrest hmem
      exact ⟨Nat.le_trans hle ha, hab, hb⟩

/-- A body is shorter than what it is laid out in by at least an offset. -/
theorem Part.Laid.body_inside {buf : List UInt8} {sizes : List (Option Nat)}
    (h : Part.Laid buf sizes) {start stop : Nat}
    (hmem : (start, stop) ∈ bodySpans buf.length (Part.offsets buf 0 sizes)) :
    start ≤ stop ∧ stop ≤ buf.length ∧ offsetBytes + (stop - start) ≤ buf.length := by
  obtain ⟨hfirst, hle, hstop⟩ := mem_bodySpans h.2 hmem
  have hnone : none ∈ sizes := by
    by_contra hnone
    rw [offsets_eq_nil hnone] at hmem
    cases hmem
  have hregion := offsetBytes_le_regionOf hnone
  have hnext : Part.regionOf sizes ≤ start := h.1 ▸ hfirst
  exact ⟨hle, hstop, by omega⟩

/-- What is read by an offset is the body that the offset leads to. -/
theorem HeadsAt.mem_bodySpans {call : String → List UInt8 → Reading Value} {buf : List UInt8}
    {pos : Nat} {fcs : List FieldCode} {hs pre post : List (FieldCode × RecordCode.Head)}
    {f : FieldCode} {start : Nat} (h : HeadsAt call buf pos fcs hs)
    (hhs : hs = pre ++ (f, .offset start) :: post) :
    f ∈ fcs ∧ f.size = none ∧ (start, RecordCode.stopOf buf.length post) ∈
      bodySpans buf.length (Part.offsets buf pos (fcs.map (·.size))) := by
  induction h generalizing pre with
  | nil => simp at hhs
  | value hf _ _ ih =>
    cases pre with
    | nil => simp at hhs
    | cons _ pre =>
      obtain ⟨hmem, hsize, hspan⟩ := ih (List.cons.inj hhs).2
      rw [List.map_cons, hf]
      exact ⟨List.mem_cons_of_mem _ hmem, hsize, hspan⟩
  | offset hf h ih =>
    rw [List.map_cons, hf]
    cases pre with
    | nil =>
      obtain ⟨hfirst, rfl⟩ := List.cons.inj hhs
      cases hfirst
      rw [h.stopOf_eq]
      exact ⟨List.mem_cons_self, hf, List.mem_cons_self⟩
    | cons _ pre =>
      obtain ⟨hmem, hsize, hspan⟩ := ih (List.cons.inj hhs).2
      exact ⟨List.mem_cons_of_mem _ hmem, hsize, List.mem_cons_of_mem _ hspan⟩

/-! ## Types of calls -/

/-- A type is the element of a sequence or the type of a field. -/
inductive Catalog.Member (env : Catalog) : SszType → SszType → Prop
  | vector {length : Nat} {element : SszType} : Member env element (.vector length element)
  | list {limit : Nat} {element : SszType} : Member env element (.list limit element)
  | field {name : String} {fields : Fields} {f : String × SszType} (hr : env name = some fields)
      (hf : f ∈ fields) : Member env f.2 (.record name)

/-- Types of one size do not contain each other without end. -/
theorem Catalog.HasSize.acc_member {t : SszType} {n : Nat} (h : env.HasSize t n) :
    Acc env.Member t := by
  induction h with
  | vector _ ih =>
    refine ⟨_, ?_⟩
    rintro _ ⟨⟩
    exact ih
  | record size hr _ ih =>
    refine ⟨_, ?_⟩
    rintro _ ⟨⟩
    case field f hf hr' =>
      obtain rfl := Option.some.inj (hr.symm.trans hr')
      exact ih f hf
  | _ => exact ⟨_, nofun⟩

/-- The code of each record is that of its fields. -/
structure Covers (env : Catalog) (codes : List RecordCode) : Prop where
  follows : ∀ {name c}, RecordCode.find? codes name = some c →
    ∃ fields, env name = some fields ∧ c.Follows env fields

theorem Implements.covers (h : Implements env codes) : Covers env codes where
  follows hc := by
    obtain ⟨fields, hr, hcode⟩ := h.realizes hc
    exact ⟨fields, hr, hcode.toFollows⟩

theorem Emitted.covers {units : List SourceUnit} {r : Resolution} (h : Emitted units r codes) :
    Covers r.catalog codes := by
  obtain ⟨s, c, hmarks, hcode⟩ := h.marks
  exact ⟨fun hc => hmarks.follows (hcode hc)⟩

/-- The decoder is that of a type, and the span of a type of one size has that size. Records check
the size themselves. -/
structure Call.Typed (env : Catalog) (call : Call) (t : SszType) : Prop where
  decoder : DecodedBy env t call.decoder
  sized : (∀ name, t ≠ .record name) → Sized env t call.span

/-- A call of a sequence reads elements of a size, or else behind offsets. -/
theorem Call.Typed.sequence {extent : Extent} {step : Option Nat} {item : Decoder}
    {data : List UInt8} {t : SszType} (h : Call.Typed env ⟨.sequence extent step item, data⟩ t) :
    ∃ u, env.Member u t ∧ env.Placed u step ∧ step ≠ some 0 ∧ DecodedBy env u item ∧
      ∀ n, extent = .exactly (some n) → 0 < n ∧ ∀ k, step = some k → data.length = n * k := by
  obtain ⟨hd, hs⟩ := h
  cases hd with
  | vector hl hplaced hstep hitem =>
    refine ⟨_, .vector, hplaced, hstep, hitem, ?_⟩
    rintro _ ⟨⟩
    refine ⟨hl, ?_⟩
    rintro k rfl
    exact hs nofun _ (.vector hplaced)
  | list hplaced hstep hitem => exact ⟨_, .list, hplaced, hstep, hitem, nofun⟩

theorem regionOf_append (sizes rest : List (Option Nat)) :
    Part.regionOf (sizes ++ rest) = Part.regionOf sizes + Part.regionOf rest := by
  simp [Part.regionOf]

/-- A buffer of an accepted size holds the region of heads. -/
theorem RecordCode.Follows.regionOf_le {fields : Fields} {c : RecordCode}
    (h : c.Follows env fields) {size : Nat} (hsize : c.checkSize size = .ok ()) :
    Part.regionOf c.sizes ≤ size := by
  have := (checkSize_eq_ok_iff h.fixedSize).mp hsize
  split at this <;> omega

/-- As many elements of one size as are counted fill the span. -/
theorem Decoder.length_of_count {data : List UInt8} {extent : Extent} {step count : Nat}
    (hstep : some step ≠ some 0)
    (hextent : ∀ n, extent = .exactly (some n) → 0 < n ∧ ∀ k, some step = some k →
      data.length = n * k)
    (h : Decoder.count data extent (some step) = .ok count) : data.length = count * step := by
  rcases extent with (_ | length) | (_ | limit)
  · cases h
  · obtain rfl := Except.ok.inj h
    exact (hextent _ rfl).2 step rfl
  · cases h
  · have hpos : 0 < step := Nat.pos_of_ne_zero fun hzero => hstep (congrArg some hzero)
    exact ((fixedCount_eq_ok_iff hpos).mp h).1

/-- Elements behind offsets are counted unless there are none in an empty span. -/
theorem Decoder.count_ne_zero {data : List UInt8} {extent : Extent} {count : Nat}
    (hextent : ∀ n, extent = .exactly (some n) → 0 < n)
    (h : Decoder.count data extent none = .ok count) : count ≠ 0 ∨ data = [] := by
  rcases extent with (_ | length) | (_ | limit)
  · cases h
  · obtain rfl := Except.ok.inj h
    exact .inl (Nat.ne_of_gt (hextent _ rfl))
  · cases h
  · exact (dynamicCount_of_eq_ok h).2

/-- A part lies within its span and is of the type of a member. One without an offset has the size
of that type; one with an offset is of a dynamic type, and shorter than the span by the bytes of an
offset. -/
theorem Enters.spec (hcov : Covers env codes) {call : Call} {t : SszType} (ht : call.Typed env t)
    {offset : Bool} {start stop : Nat} {d : Decoder} (h : Enters codes call offset start stop d) :
    start ≤ stop ∧ stop ≤ call.span.length ∧ ∃ u, env.Member u t ∧ DecodedBy env u d ∧
      if offset then env.IsDynamic u ∧ offsetBytes + (stop - start) ≤ call.span.length
      else env.HasSize u (stop - start) := by
  cases h with
  | @head name c buf pre post f size hc hsize hfields hf =>
    obtain ⟨fields, hr, hcode⟩ := hcov.follows hc
    have hmem : f ∈ c.fields := by simp [hfields]
    obtain ⟨g, hg, hfield⟩ := exists_of_forall₂ hcode.fields.flip hmem
    have hplaced := hfield.size
    rw [hf] at hplaced
    have hregion := hcode.regionOf_le hsize
    rw [RecordCode.sizes, hfields, List.map_append, List.map_cons, regionOf_append, hf,
      Part.regionOf_cons, Option.getD_some] at hregion
    cases ht.decoder
    refine ⟨Nat.le_add_right _ _, by simp only; omega, g.2, .field hr hg, hfield.decoder, ?_⟩
    rw [if_neg Bool.false_ne_true, Nat.add_sub_cancel_left]
    exact hplaced
  | @body name c buf run pre post f start hc hsize hheads =>
    obtain ⟨fields, hr, hcode⟩ := hcov.follows hc
    obtain ⟨hheads, hchecked⟩ := (readHeads_eq_ok_iff hcode.fixedSize).mp hheads
    have hlaid := (checks_iff_laid hcode.fixedSize hcode.isDynamic buf).mp ⟨hsize, hchecked⟩
    obtain ⟨hmem, hf, hspan⟩ := hheads.mem_bodySpans rfl
    obtain ⟨g, hg, hfield⟩ := exists_of_forall₂ hcode.fields.flip hmem
    have hplaced := hfield.size
    rw [hf] at hplaced
    obtain ⟨hle, hstop, hshorter⟩ := hlaid.body_inside hspan
    cases ht.decoder
    exact ⟨hle, hstop, g.2, .field hr hg, hfield.decoder, hplaced, hshorter⟩
  | @fixedItem extent step count i item data hcount hi =>
    obtain ⟨u, hmember, hplaced, hstep, hitem, hextent⟩ := ht.sequence
    have hlength := Decoder.length_of_count hstep hextent hcount
    have hle : (i + 1) * step ≤ count * step := Nat.mul_le_mul_right step hi
    have hnext : (i + 1) * step = i * step + step := Nat.succ_mul i step
    refine ⟨by omega, by simp only; omega, u, hmember, hitem, ?_⟩
    rw [if_neg Bool.false_ne_true, hnext, Nat.add_sub_cancel_left]
    exact hplaced
  | @item extent count start stop item data spans hcount hspans hs =>
    obtain ⟨u, hmember, hplaced, -, hitem, hextent⟩ := ht.sequence
    have hnonempty := Decoder.count_ne_zero (fun n hn => (hextent n hn).1) hcount
    obtain ⟨hlaid, rfl⟩ := (spans_eq_ok_iff hnonempty).mp hspans
    obtain ⟨hle, hstop, hshorter⟩ := hlaid.body_inside hs
    exact ⟨hle, hstop, u, hmember, hitem, hplaced, hshorter⟩

/-- The calls that a call of a type makes are of types, on no longer spans. -/
theorem Enters.typed (hcov : Covers env codes) {call : Call} {t : SszType} (ht : call.Typed env t)
    {offset : Bool} {start stop : Nat} {d : Decoder} (h : Enters codes call offset start stop d) :
    ∃ u, env.Member u t ∧ (call.part start stop d).Typed env u ∧
      (call.part start stop d).span.length ≤ call.span.length ∧
        if offset then
          env.IsDynamic u ∧ offsetBytes + (call.part start stop d).span.length ≤ call.span.length
        else env.HasSize u (call.part start stop d).span.length := by
  obtain ⟨-, hstop, u, hmember, hd, hu⟩ := h.spec hcov ht
  have hlength : (call.part start stop d).span.length = stop - start := Bytes.length_slice hstop
  rw [hlength]
  refine ⟨u, hmember, ⟨hd, fun _ n hn => hlength.trans ?_⟩, by omega, hu⟩
  cases offset with
  | true => exact absurd hu.1 hn.not_isDynamic
  | false => exact Catalog.HasSize.unique hu hn

/-! ## The tree of calls -/

/-- The calls below a call are finite in number, and records are nested in them to a depth. -/
inductive CallTree (codes : List RecordCode) : Nat → Call → Prop
  | record {depth : Nat} {name : String} {span : List UInt8}
      (hfinite : (Call.children codes ⟨.record name, span⟩).Finite)
      (h : ∀ child ∈ Call.children codes ⟨.record name, span⟩, CallTree codes depth child) :
      CallTree codes (depth + 1) ⟨.record name, span⟩
  | inner {depth : Nat} {d : Decoder} {span : List UInt8} (hd : ∀ name, d ≠ .record name)
      (hfinite : (Call.children codes ⟨d, span⟩).Finite)
      (h : ∀ child ∈ Call.children codes ⟨d, span⟩, CallTree codes depth child) :
      CallTree codes depth ⟨d, span⟩

/-- A leaf makes no calls. -/
theorem CallTree.leaf {depth : Nat} {d : Decoder} {span : List UInt8} (hd : d.isLeaf = true) :
    CallTree codes depth ⟨d, span⟩ := by
  refine .inner ?_ (Call.finite_children codes _) ?_
  · rintro name rfl
    cases hd
  · rintro _ ⟨offset, start, stop, d, h, -⟩
    cases h <;> cases hd

/-- The tree below a sequence is that of its elements. -/
theorem CallTree.sequence (hcov : Covers env codes) {depth : Nat} {extent : Extent}
    {step : Option Nat} {item : Decoder} {data : List UInt8} {t : SszType}
    (ht : Call.Typed env ⟨.sequence extent step item, data⟩ t)
    (h : ∀ u s, env.Member u t → s.length ≤ data.length → Call.Typed env ⟨item, s⟩ u →
      CallTree codes depth ⟨item, s⟩) :
    CallTree codes depth ⟨.sequence extent step item, data⟩ := by
  refine .inner nofun (Call.finite_children codes _) ?_
  rintro _ ⟨offset, start, stop, d, henters, rfl⟩
  obtain ⟨u, hmember, hu, hlength, -⟩ := henters.typed hcov ht
  have hd : d = item := by cases henters <;> rfl
  subst hd
  exact h u _ hmember hlength hu

/-- The tree below a decoder is that of the records at its end. -/
theorem DecodedBy.callTree (hcov : Covers env codes) {t : SszType} {d : Decoder}
    (h : DecodedBy env t d) {depth : Nat} {span : List UInt8} (ht : Call.Typed env ⟨d, span⟩ t)
    (hcall : ∀ name, t.innermost = some name → ∀ s, s.length ≤ span.length →
      CallTree codes depth ⟨.record name, s⟩) : CallTree codes depth ⟨d, span⟩ := by
  induction h generalizing span with
  | record => exact hcall _ rfl span (Nat.le_refl _)
  | vector _ _ _ _ ih =>
    refine .sequence hcov ht fun u s hmember hs hu => ?_
    cases hmember
    exact ih hu fun name hname s' hs' => hcall name hname s' (Nat.le_trans hs' hs)
  | list _ _ _ ih =>
    refine .sequence hcov ht fun u s hmember hs hu => ?_
    cases hmember
    exact ih hu fun name hname s' hs' => hcall name hname s' (Nat.le_trans hs' hs)
  | _ => exact .leaf rfl

/-- A call of a record, on any bytes. -/
theorem Call.typed_record (env : Catalog) (name : String) (buf : List UInt8) :
    Call.Typed env ⟨.record name, buf⟩ (.record name) :=
  ⟨.record, fun h => absurd rfl (h name)⟩

/-- The tree of calls below a record is as deep as its fuel at most. -/
theorem Covers.callTree (hcov : Covers env codes) {depth : Nat} {name : String} {buf : List UInt8}
    (hpos : 0 < depth) (hdepth : Coded codes name → Enough env codes depth name buf.length) :
    CallTree codes depth ⟨.record name, buf⟩ := by
  induction depth generalizing name buf with
  | zero => exact absurd hpos (Nat.lt_irrefl 0)
  | succ depth ih =>
    refine .record (Call.finite_children codes _) ?_
    rintro _ ⟨offset, start, stop, d, henters, rfl⟩
    have hname : Coded codes name := by cases henters <;> exact Option.isSome_of_eq_some ‹_›
    have henough := hdepth hname
    have ht := Call.typed_record env name buf
    obtain ⟨u, hmember, hu, -, hsmaller⟩ := henters.typed hcov ht
    cases hmember with
    | @field _ fields f hr hf =>
      refine hu.decoder.callTree hcov hu fun inner hinner s hs => ?_
      refine ih henough.pos fun hinner' => ?_
      cases offset with
      | true =>
        have hshorter := Nat.le_trans (Nat.add_le_add_left hs offsetBytes) hsmaller.2
        exact henough.of_isDynamic (.record hr hf hsmaller.1) hshorter inner
      | false => exact henough.of_size hr hf hinner hsmaller hinner' _

/-! ## Runs follow the tree -/

/-- Two ways to run records agree on the calls that a call makes. -/
def Call.Agree (codes : List RecordCode) (run run' : String → List UInt8 → Reading Value)
    (call : Call) : Prop :=
  ∀ child ∈ call.children codes, child.decoder.run run child.span = child.decoder.run run' child.span

section

variable {run run' : String → List UInt8 → Reading Value}

theorem mem_children_of_mem_spans {extent : Extent} {step : Option Nat} {data s : List UInt8}
    {ss : List (List UInt8)} (h : Decoder.spans data extent step = .ok ss) (hs : s ∈ ss)
    (item : Decoder) : ⟨item, s⟩ ∈ Call.children codes ⟨.sequence extent step item, data⟩ := by
  rw [Decoder.spans_eq] at h
  obtain ⟨count, hcount, h⟩ := bind_eq_ok.mp h
  cases step with
  | some step =>
    obtain rfl := pure_eq_ok.mp h
    obtain ⟨i, hi, rfl⟩ := List.mem_map.mp hs
    exact ⟨_, _, _, item, .fixedItem hcount (List.mem_range.mp hi), rfl⟩
  | none =>
    obtain ⟨spans, hspans, h⟩ := bind_eq_ok.mp h
    obtain rfl := pure_eq_ok.mp h
    obtain ⟨⟨start, stop⟩, hmem, rfl⟩ := List.mem_map.mp hs
    exact ⟨_, _, _, item, .item hcount hspans hmem, rfl⟩

/-- What a sequence reads depends on its elements only. -/
theorem Call.Agree.run_sequence {extent : Extent} {step : Option Nat} {item : Decoder}
    {data : List UInt8} (h : Call.Agree codes run run' ⟨.sequence extent step item, data⟩) :
    (Decoder.sequence extent step item).run run data =
      (Decoder.sequence extent step item).run run' data := by
  rw [Decoder.run, Decoder.run]
  cases hss : Decoder.spans data extent step with
  | error fault => rfl
  | ok ss =>
    have hitems : ss.mapM (item.run run) = ss.mapM (item.run run') :=
      mapM_congr fun s hs => h ⟨item, s⟩ (mem_children_of_mem_spans hss hs item)
    simp only [bind, Except.bind, hitems]

variable {name : String} {c : RecordCode} {buf : List UInt8}

/-- What the fixed region of a record tells depends on the fields in it only. -/
theorem Call.Agree.readHeads (h : Call.Agree codes run run' ⟨.record name, buf⟩)
    (hc : RecordCode.find? codes name = some c) (hsize : c.checkSize buf.length = .ok ())
    (pre : List FieldCode) {fcs : List FieldCode} (hfields : c.fields = pre ++ fcs) (previous : Option Nat) :
    c.readHeads run buf (Part.regionOf (pre.map (·.size))) previous fcs =
      c.readHeads run' buf (Part.regionOf (pre.map (·.size))) previous fcs := by
  induction fcs generalizing pre previous with
  | nil => rfl
  | cons f fcs ih =>
    have hrest : c.fields = (pre ++ [f]) ++ fcs := by simpa using hfields
    rw [RecordCode.readHeads, RecordCode.readHeads]
    cases hf : f.size with
    | some size =>
      have hpos : Part.regionOf ((pre ++ [f]).map (·.size)) =
          Part.regionOf (pre.map (·.size)) + size := by
        rw [List.map_append, regionOf_append]
        simp [Part.regionOf, hf]
      have hfield := h _ ⟨_, _, _, _, .head hc hsize hfields hf, rfl⟩
      have hnext := ih (pre ++ [f]) hrest previous
      rw [hpos] at hnext
      simp only [Call.part] at hfield
      simp only [hfield, hnext]
    | none =>
      have hpos : Part.regionOf ((pre ++ [f]).map (·.size)) =
          Part.regionOf (pre.map (·.size)) + offsetBytes := by
        rw [List.map_append, regionOf_append]
        simp [Part.regionOf, hf]
      have hnext := fun previous => ih (pre ++ [f]) hrest previous
      rw [hpos] at hnext
      simp only [hnext]

/-- What is read behind the fixed region depends on the fields there only. -/
theorem Call.Agree.readBodies (h : Call.Agree codes run run' ⟨.record name, buf⟩)
    (hc : RecordCode.find? codes name = some c) (hsize : c.checkSize buf.length = .ok ())
    (pre : List (FieldCode × RecordCode.Head)) {hs : List (FieldCode × RecordCode.Head)}
    (hheads : c.readHeads run buf 0 none c.fields = .ok (pre ++ hs)) :
    RecordCode.readBodies run buf hs = RecordCode.readBodies run' buf hs := by
  induction hs generalizing pre with
  | nil => rfl
  | cons head hs ih =>
    have hrest := ih (pre ++ [head]) (by simpa using hheads)
    obtain ⟨f, v | start⟩ := head
    · rw [RecordCode.readBodies, RecordCode.readBodies, hrest]
    · have hfield := h _ ⟨_, _, _, _, .body hc hsize hheads, rfl⟩
      simp only [Call.part] at hfield
      rw [RecordCode.readBodies, RecordCode.readBodies, hfield, hrest]

/-- What a record reads depends on its fields only. -/
theorem Call.Agree.read (h : Call.Agree codes run run' ⟨.record name, buf⟩)
    (hc : RecordCode.find? codes name = some c) : c.read run buf = c.read run' buf := by
  rw [RecordCode.read, RecordCode.read]
  cases hsize : c.checkSize buf.length with
  | error fault => rfl
  | ok u =>
    have hheads := h.readHeads hc hsize [] rfl none
    simp only [List.map_nil, Part.regionOf, List.sum_nil] at hheads
    simp only [bind, Except.bind, ← hheads]
    cases hhs : c.readHeads run buf 0 none c.fields with
    | error fault => rfl
    | ok hs => simp only [h.readBodies hc hsize [] hhs]

end

/-- Fuel beyond the depth of the tree of calls changes nothing. -/
theorem CallTree.run_eq {depth : Nat} {call : Call} (h : CallTree codes depth call) {fuel : Nat}
    (hfuel : depth ≤ fuel) :
    call.decoder.run (Codec.unmarshalWith codes fuel) call.span =
      call.decoder.run (Codec.unmarshalWith codes depth) call.span := by
  induction h generalizing fuel with
  | @record depth name span _ _ ih =>
    obtain ⟨fuel, rfl⟩ := Nat.exists_eq_add_one_of_ne_zero (Nat.ne_zero_of_lt hfuel)
    have hagree : Call.Agree codes (Codec.unmarshalWith codes fuel)
        (Codec.unmarshalWith codes depth) ⟨.record name, span⟩ := fun child hchild =>
      ih child hchild (Nat.le_of_succ_le_succ hfuel)
    simp only [Decoder.run, Codec.unmarshalWith]
    cases hc : RecordCode.find? codes name with
    | none => rfl
    | some c => exact hagree.read hc
  | @inner depth d span hd _ _ ih =>
    have hagree : Call.Agree codes (Codec.unmarshalWith codes fuel)
        (Codec.unmarshalWith codes depth) ⟨d, span⟩ := fun child hchild => ih child hchild hfuel
    cases d with
    | record name => exact absurd rfl (hd name)
    | sequence extent step item => exact hagree.run_sequence
    | _ => rfl

end SszSchema
