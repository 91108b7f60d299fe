import SszSchema.Proofs.Calls
import SszSchema.Proofs.RoundTrip

/-!
# Decoders on arbitrary bytes

A generated decoder returns a record or raises one of its errors, whatever bytes it gets. It never
asks for a byte behind the end of a span, although its helpers index spans without a check: the
callers have checked before (`CallTree.fails`). All bytes that it cuts out of a span lie in it, in
order, so that no number is read from fewer bytes than it has (`Enters.spec`, `ReadsOffset.inside`).
The tree of calls is finite, so that it always comes to an end.
-/

namespace SszSchema

open Outcome

variable {env : Catalog} {codes : List RecordCode} {P : Fault → Prop}

/-- If a type ends in a record, that record is known. -/
def SszType.EndsIn (known : String → Prop) (t : SszType) : Prop :=
  ∀ name, t.innermost = some name → known name

/-- Members end in known records if all fields of known records do. -/
theorem SszType.EndsIn.member {known : String → Prop}
    (hclosed : ∀ {name}, known name → ∀ u, env.Member u (.record name) → u.EndsIn known)
    {t u : SszType} (ht : t.EndsIn known) (h : env.Member u t) : u.EndsIn known := by
  cases h with
  | vector => exact ht
  | list => exact ht
  | field hr hf => exact hclosed (ht _ rfl) _ (.field hr hf)

section

variable (hraised : ∀ sort detail, P (.raised sort detail))

include hraised

/-! ## Helpers -/

theorem fails_listLength (bs : List UInt8) : Fails P (Bits.listLength bs) := by
  unfold Bits.listLength
  split
  · exact .error (hraised _ _)
  · split
    · exact .error (hraised _ _)
    · exact .ok _

theorem fails_boundedLength (bs : List UInt8) (limit : Option Nat) :
    Fails P (Bits.boundedLength bs limit) := by
  refine (fails_listLength hraised bs).bind fun n _ => ?_
  cases limit with
  | none => exact .ok n
  | some limit =>
    dsimp only
    split
    · exact .error (hraised _ _)
    · exact .ok n

/-- A bit list has a byte for each of its bits. -/
theorem fails_unpackList (bs : List UInt8) (limit : Option Nat) :
    Fails P (Bits.unpackList bs limit) := by
  refine (fails_boundedLength hraised bs limit).bind fun n hn => ?_
  obtain ⟨hlength, -⟩ := Bits.boundedLength_eq_ok_iff.mp hn
  have hbytes := (Bits.listLength_eq_ok_iff_bitAt.mp hlength).1
  rw [Bits.take_eq_ok (by omega)]
  exact .ok _

/-- A bit vector has a last byte if bits in it are left over, and a byte for each of its bits. -/
theorem fails_unpackVector {bs : List UInt8} {count : Nat} (hl : bs.length = (count + 7) / 8) :
    Fails P (Bits.unpackVector bs count) := by
  have htake : Fails P (Bits.take bs count) := by
    rw [Bits.take_eq_ok (by omega)]
    exact .ok _
  unfold Bits.unpackVector
  split
  · exact htake
  · case isFalse hcount =>
    split
    · case h_1 hlast =>
      have hempty : bs.length = 0 := by simp [List.getLast?_eq_none_iff.mp hlast]
      omega
    · split
      · exact .error (hraised _ _)
      · exact htake

theorem fails_decodeBool {bs : List UInt8} (hl : bs.length = 1) : Fails P (Bits.decodeBool bs) := by
  obtain ⟨b, rfl⟩ := List.length_eq_one_iff.mp hl
  unfold Bits.decodeBool
  dsimp only [List.head?_cons]
  split
  · exact .error (hraised _ _)
  · exact .ok _

theorem fails_fixedCount (size step limit : Nat) :
    Fails P (Offsets.fixedCount size step limit) := by
  unfold Offsets.fixedCount
  split
  · exact .error (hraised _ _)
  · split
    · exact .error (hraised _ _)
    · exact .ok _

theorem fails_dynamicCount (span : List UInt8) (limit : Nat) :
    Fails P (Offsets.dynamicCount span limit) := by
  unfold Offsets.dynamicCount
  split
  · exact .ok 0
  · split
    · exact .error (hraised _ _)
    · dsimp only
      split
      · exact .error (hraised _ _)
      · split
        · exact .error (hraised _ _)
        · exact .ok _

theorem fails_between (ns : List Nat) : Fails P (Offsets.between ns) := by
  induction ns with
  | nil => exact .ok []
  | cons n ns ih =>
    cases ns with
    | nil => exact .ok []
    | cons m ns =>
      unfold Offsets.between
      split
      · exact .error (hraised _ _)
      · exact ih.map

theorem fails_offsetSpans (span : List UInt8) (count : Nat) :
    Fails P (Offsets.spans span count) := by
  unfold Offsets.spans
  split
  · exact .error (hraised _ _)
  · split
    · exact .error (hraised _ _)
    · exact fails_between hraised _

/-! ## Sequences -/

/-- The numbers that the code of a sequence shows are there. -/
theorem fails_count {data : List UInt8} {extent : Extent} {step : Option Nat}
    (h : ∃ n, extent = .exactly (some n) ∨ extent = .atMost (some n)) :
    Fails P (Decoder.count data extent step) := by
  obtain ⟨n, rfl | rfl⟩ := h
  · exact .ok n
  · cases step with
    | none => exact fails_dynamicCount hraised data n
    | some step => exact fails_fixedCount hraised data.length step n

theorem fails_spans {data : List UInt8} {extent : Extent} {step : Option Nat}
    (h : ∃ n, extent = .exactly (some n) ∨ extent = .atMost (some n)) :
    Fails P (Decoder.spans data extent step) := by
  rw [Decoder.spans_eq]
  refine (fails_count hraised h).bind fun count _ => ?_
  cases step with
  | some step => exact .ok _
  | none => exact (fails_offsetSpans hraised data count).bind fun spans _ => .ok _

/-- A sequence fails as its elements do. -/
theorem fails_sequence {run : String → List UInt8 → Reading Value} {extent : Extent}
    {step : Option Nat} {item : Decoder} {data : List UInt8}
    (h : ∃ n, extent = .exactly (some n) ∨ extent = .atMost (some n))
    (hitem : ∀ child ∈ Call.children codes ⟨.sequence extent step item, data⟩,
      Fails P (child.decoder.run run child.span)) :
    Fails P ((Decoder.sequence extent step item).run run data) := by
  refine (fails_spans hraised h).bind fun ss hss => Fails.bind ?_ fun vs _ => .ok _
  exact .mapM fun s hs => hitem ⟨item, s⟩ (mem_children_of_mem_spans hss hs item)

/-! ## Records -/

variable {run : String → List UInt8 → Reading Value} {name : String} {c : RecordCode}
  {buf : List UInt8}

theorem fails_checkSize {region : Nat} (hc : c.fixedSize = some region) (size : Nat) :
    Fails P (c.checkSize size) := by
  unfold RecordCode.checkSize
  rw [hc]
  refine Fails.bind (.ok region) fun fixed _ => ?_
  split
  · split
    · exact .error (hraised _ _)
    · exact .ok _
  · split
    · exact .error (hraised _ _)
    · exact .ok _

theorem fails_checkOffset {region : Nat} (hc : c.fixedSize = some region) (f : FieldCode)
    (size offset : Nat) (previous : Option Nat) :
    Fails P (c.checkOffset f size offset previous) := by
  unfold RecordCode.checkOffset
  cases previous with
  | none =>
    rw [hc]
    refine Fails.bind (.ok region) fun fixed _ => ?_
    split
    · exact .error (hraised _ _)
    · exact .ok _
  | some previous =>
    dsimp only
    split
    · exact .error (hraised _ _)
    · exact .ok _

/-- The fixed region fails as the fields in it do. -/
theorem fails_readHeads {region : Nat} (hregion : c.fixedSize = some region)
    (hc : RecordCode.find? codes name = some c) (hsize : c.checkSize buf.length = .ok ())
    (h : ∀ child ∈ Call.children codes ⟨.record name, buf⟩,
      Fails P (child.decoder.run run child.span))
    (pre : List FieldCode) {fcs : List FieldCode} (hfields : c.fields = pre ++ fcs) (previous : Option Nat) :
    Fails P (c.readHeads run buf (Part.regionOf (pre.map (·.size))) previous fcs) := by
  induction fcs generalizing pre previous with
  | nil => exact .ok []
  | cons f fcs ih =>
    have hrest : c.fields = (pre ++ [f]) ++ fcs := by simpa using hfields
    have hnext := fun previous => ih (pre ++ [f]) hrest previous
    rw [List.map_append, regionOf_append] at hnext
    rw [RecordCode.readHeads]
    cases hf : f.size with
    | some size =>
      simp only [List.map_cons, List.map_nil, hf, Part.regionOf_cons, Option.getD_some] at hnext
      have hfield := h _ ⟨_, _, _, _, .head hc hsize hfields hf, rfl⟩
      exact hfield.bind fun v _ => (hnext previous).bind fun hs _ => .ok _
    | none =>
      simp only [List.map_cons, List.map_nil, hf, Part.regionOf_cons, Option.getD_none] at hnext
      exact (fails_checkOffset hraised hregion f _ _ previous).bind fun _ _ =>
        (hnext _).bind fun hs _ => .ok _

omit hraised in
/-- What stands behind the fixed region fails as the fields there do. -/
theorem fails_readBodies (hc : RecordCode.find? codes name = some c)
    (hsize : c.checkSize buf.length = .ok ())
    (h : ∀ child ∈ Call.children codes ⟨.record name, buf⟩,
      Fails P (child.decoder.run run child.span))
    (pre : List (FieldCode × RecordCode.Head)) {hs : List (FieldCode × RecordCode.Head)}
    (hheads : c.readHeads run buf 0 none c.fields = .ok (pre ++ hs)) :
    Fails P (RecordCode.readBodies run buf hs) := by
  induction hs generalizing pre with
  | nil => exact .ok []
  | cons head hs ih =>
    have hrest := ih (pre ++ [head]) (by simpa using hheads)
    obtain ⟨f, v | start⟩ := head
    · exact hrest.bind fun es _ => .ok _
    · have hfield := h _ ⟨_, _, _, _, .body hc hsize hheads, rfl⟩
      exact hfield.bind fun v _ => hrest.bind fun es _ => .ok _

/-- A record fails as its fields do. -/
theorem fails_read {region : Nat} (hregion : c.fixedSize = some region)
    (hc : RecordCode.find? codes name = some c)
    (h : ∀ child ∈ Call.children codes ⟨.record name, buf⟩,
      Fails P (child.decoder.run run child.span)) : Fails P (c.read run buf) := by
  refine (fails_checkSize hraised hregion buf.length).bind fun _ hsize => ?_
  have hheads := fails_readHeads hraised hregion hc hsize h [] rfl none
  exact hheads.bind fun hs hhs =>
    (fails_readBodies hc hsize h [] hhs).bind fun es _ => .ok _

/-! ## Trees of calls -/

/-- A decoder without members fails on no span of its type. -/
theorem fails_leaf {d : Decoder} {span : List UInt8} {t : SszType} (hd : d.isLeaf = true)
    (ht : Call.Typed env ⟨d, span⟩ t) : Fails P (d.run run span) := by
  obtain ⟨hdecoder, hsized⟩ := ht
  cases hdecoder with
  | uint => exact .ok _
  | bool => exact (fails_decodeBool hraised (hsized nofun _ .bool)).map
  | fixedBytes => exact .ok _
  | @boundedBytes limit =>
    refine Fails.bind (.ok limit) fun limit _ => ?_
    split
    · exact .error (hraised _ _)
    · exact .ok _
  | @bitVector length =>
    refine Fails.bind (.ok length) fun n hn => ?_
    obtain rfl := Except.ok.inj hn
    exact (fails_unpackVector hraised (hsized nofun _ .bitVector)).bind fun bits _ => .ok _
  | packedBits => exact ((fails_boundedLength hraised _ _).bind fun _ _ => .ok _).map
  | bitList => exact (fails_unpackList hraised _ _).map
  | _ => cases hd

/-- A run on a finite tree of calls raises errors only, or finds that a record has no code. -/
theorem CallTree.fails (hcov : Covers env codes) (known : String → Prop)
    (hclosed : ∀ {name}, known name → ∀ u, env.Member u (.record name) → u.EndsIn known)
    (hmissing : ∀ {name}, known name → Coded codes name ∨ P (.missingRecord name)) {depth : Nat}
    {call : Call} (h : CallTree codes depth call) {t : SszType} (ht : call.Typed env t)
    (hknown : t.EndsIn known) : Fails P (call.decoder.run (Codec.unmarshalWith codes depth) call.span) := by
  induction h generalizing t with
  | @record depth name span _ _ ih =>
    have hchildren : ∀ child ∈ Call.children codes ⟨.record name, span⟩,
        Fails P (child.decoder.run (Codec.unmarshalWith codes depth) child.span) := by
      rintro _ ⟨offset, start, stop, d, henters, rfl⟩
      obtain ⟨u, hmember, hu, -⟩ := henters.typed hcov ht
      exact ih _ ⟨offset, start, stop, d, henters, rfl⟩ hu (hknown.member hclosed hmember)
    have hname : known name := by
      cases ht.decoder
      exact hknown name rfl
    simp only [Decoder.run, Codec.unmarshalWith]
    cases hc : RecordCode.find? codes name with
    | none =>
      refine .error ((hmissing hname).resolve_left fun hcoded => ?_)
      rw [Coded, hc] at hcoded
      cases hcoded
    | some c =>
      obtain ⟨fields, -, hcode⟩ := hcov.follows hc
      exact fails_read hraised hcode.fixedSize hc hchildren
  | @inner depth d span hd _ _ ih =>
    have hchildren : ∀ child ∈ Call.children codes ⟨d, span⟩,
        Fails P (child.decoder.run (Codec.unmarshalWith codes depth) child.span) := by
      rintro _ ⟨offset, start, stop, d', henters, rfl⟩
      obtain ⟨u, hmember, hu, -⟩ := henters.typed hcov ht
      exact ih _ ⟨offset, start, stop, d', henters, rfl⟩ hu (hknown.member hclosed hmember)
    cases d with
    | record name => exact absurd rfl (hd name)
    | sequence extent step item =>
      refine fails_sequence hraised ?_ hchildren
      cases ht.decoder with
      | vector => exact ⟨_, .inl rfl⟩
      | list => exact ⟨_, .inr rfl⟩
    | _ => exact fails_leaf hraised rfl ht

end

/-! ## Bytes that are read -/

/-- The call may read an offset from the bytes at a position: one of a field, the first of a list,
or one in the table of a sequence. -/
inductive ReadsOffset (codes : List RecordCode) : Call → Nat → Prop
  | field {name : String} {c : RecordCode} {buf : List UInt8} {pre post : List FieldCode}
      {f : FieldCode} (hc : RecordCode.find? codes name = some c)
      (hsize : c.checkSize buf.length = .ok ()) (hfields : c.fields = pre ++ f :: post)
      (hf : f.size = none) :
      ReadsOffset codes ⟨.record name, buf⟩ (Part.regionOf (pre.map (·.size)))
  | first {limit : Option Nat} {item : Decoder} {data : List UInt8}
      (hempty : data.isEmpty = false) (hlength : ¬data.length < offsetBytes) :
      ReadsOffset codes ⟨.sequence (.atMost limit) none item, data⟩ 0
  | entry {extent : Extent} {count i : Nat} {item : Decoder} {data : List UInt8}
      (hcount : Decoder.count data extent none = .ok count)
      (hlength : ¬data.length < offsetBytes * count) (hi : i < count) :
      ReadsOffset codes ⟨.sequence extent none item, data⟩ (offsetBytes * i)

/-- Offsets are read from within the span. -/
theorem ReadsOffset.inside (hcov : Covers env codes) {call : Call} {pos : Nat}
    (h : ReadsOffset codes call pos) : pos + offsetBytes ≤ call.span.length := by
  cases h with
  | field hc hsize hfields hf =>
    obtain ⟨fields, -, hcode⟩ := hcov.follows hc
    have hregion := hcode.regionOf_le hsize
    rw [RecordCode.sizes, hfields, List.map_append, List.map_cons, regionOf_append, hf,
      Part.regionOf_cons, Option.getD_none] at hregion
    simp only
    omega
  | first _ hlength => simpa using hlength
  | @entry extent count i item data _ hlength hi =>
    have hle : offsetBytes * (i + 1) ≤ offsetBytes * count := Nat.mul_le_mul_left offsetBytes hi
    rw [Nat.mul_succ] at hle
    simp only
    omega

/-- A call is made below another one, at any depth. -/
def Call.Reaches (codes : List RecordCode) : Call → Call → Prop :=
  Relation.ReflTransGen fun parent child => child ∈ parent.children codes

theorem Call.Reaches.typed (hcov : Covers env codes) {root call : Call}
    (h : Call.Reaches codes root call) {t : SszType} (ht : root.Typed env t) :
    ∃ u, call.Typed env u := by
  induction h with
  | refl => exact ⟨t, ht⟩
  | tail _ hchild ih =>
    obtain ⟨u, hu⟩ := ih
    obtain ⟨offset, start, stop, d, henters, rfl⟩ := hchild
    obtain ⟨w, -, hw, -⟩ := henters.typed hcov hu
    exact ⟨w, hw⟩

/-! ## Generated decoders -/

variable {units : List SourceUnit} {r : Resolution} {name : String}

/-- The tree of calls below a decoder, with the fuel that it starts with. -/
theorem Covers.callTree_start (hcov : Covers env codes) (name : String) (bs : List UInt8) :
    CallTree codes (bs.length + codes.length + 2) ⟨.record name, bs⟩ :=
  hcov.callTree (by omega) fun _ => Enough.start env codes name bs.length

/-- Decoding any bytes comes to an end. The tree of calls is finite and no deeper than the fuel, so
that more fuel changes nothing. A call that reads a dynamic member of its own type hands on at least
four bytes less than it got. A call that hands on all its bytes reads a member of one size, and the
types that have one size contain no cycle. -/
theorem Emitted.unmarshal_terminates (h : Emitted units r codes) (name : String)
    (bs : List UInt8) :
    CallTree codes (bs.length + codes.length + 2) ⟨.record name, bs⟩ ∧
      (∀ fuel, bs.length + codes.length + 2 ≤ fuel →
        Codec.unmarshalWith codes fuel name bs = Codec.unmarshal codes name bs) ∧
      Codec.unmarshal codes name bs ≠ .error .tooDeep ∧
      ∀ call, Call.Reaches codes ⟨.record name, bs⟩ call → ∀ offset start stop d,
        Enters codes call offset start stop d → ∃ t u, call.Typed r.catalog t ∧
          (call.part start stop d).Typed r.catalog u ∧ r.catalog.Member u t ∧
          (offset = true ↔ r.catalog.IsDynamic u) ∧
          (r.catalog.IsDynamic u →
            offsetBytes + (call.part start stop d).span.length ≤ call.span.length) ∧
          (call.span.length ≤ (call.part start stop d).span.length →
            r.catalog.HasSize u (call.part start stop d).span.length ∧
              ¬Relation.TransGen r.catalog.Member u u) := by
  have hcov := h.covers
  have htree := hcov.callTree_start name bs
  have htyped := Call.typed_record r.catalog name bs
  refine ⟨htree, fun fuel hfuel => htree.run_eq hfuel, fun hdeep => ?_, ?_⟩
  · -- Here nothing is asked of the records that are called.
    exact htree.fails (P := (· ≠ .tooDeep)) nofun hcov (fun _ => True)
      (fun _ _ _ _ _ => trivial) (fun _ => .inr nofun) htyped (fun _ _ => trivial) _ hdeep rfl
  · intro call hreaches offset start stop d henters
    obtain ⟨t, ht⟩ := hreaches.typed hcov htyped
    obtain ⟨u, hmember, hu, -, hsmaller⟩ := henters.typed hcov ht
    refine ⟨t, u, ht, hu, hmember, ?_⟩
    cases offset with
    | true =>
      obtain ⟨hd, hshorter⟩ := hsmaller
      have hpos : 0 < offsetBytes := by decide
      exact ⟨by simp [hd], fun _ => hshorter, fun hle => by omega⟩
    | false =>
      have hsize : r.catalog.HasSize u (call.part start stop d).span.length := hsmaller
      exact ⟨by simpa using hsize.not_isDynamic, fun hd => absurd hd hsize.not_isDynamic,
        fun _ => ⟨hsize, not_transGen_self hsize.acc_member⟩⟩

theorem unmarshal_tree_terminates :
    CallTree treeCodes (smallTreeBytes.length + treeCodes.length + 2)
      ⟨.record "Tree", smallTreeBytes⟩ :=
  (accepted_tree.emitted.unmarshal_terminates "Tree" smallTreeBytes).1

end SszSchema
