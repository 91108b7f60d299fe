import SszSchema.Output.Assembly
import SszSchema.Proofs.Compliance
import SszSchema.Proofs.Verdicts

/-!
# Generated code

The code of a schema's records is that of their types (`Schema.Marks.realizes`). Code exists only
for classified nodes, so each size and each choice between inline and offset comes from a right
verdict. `assemble` refuses records that call others without code and records with two fields of one
name, so what it accepts implements the types of the resolution (`Accepted.implements`).
-/

namespace SszSchema

open Catalog Generation

/-! ## Nodes with verdicts -/

theorem Node.isFixed_eq_ok {n : Node} {b : Bool} : n.isFixed = .ok b ↔ n.isDynamic = some !b := by
  unfold Node.isFixed
  cases n.isDynamic <;> simp [Bool.eq_not_iff, eq_comm]

theorem Node.extent_of_vector {n : Node} (hk : n.kind = .vector) :
    n.extent = .exactly n.length := by
  rw [extent, if_pos hk]

theorem Node.extent_of_list {n : Node} (hk : n.kind = .list) :
    n.extent = .atMost n.limit := by
  simp [extent, hk]

namespace Classifier

variable (c : Classifier) (id : NodeId) (n : Node)

@[simp] theorem mark_kind : (c.mark id n).kind = n.kind := by
  unfold mark; split <;> rfl

@[simp] theorem mark_width : (c.mark id n).width = n.width := by
  unfold mark; split <;> rfl

@[simp] theorem mark_length : (c.mark id n).length = n.length := by
  unfold mark; split <;> rfl

@[simp] theorem mark_limit : (c.mark id n).limit = n.limit := by
  unfold mark; split <;> rfl

@[simp] theorem mark_element : (c.mark id n).element = n.element := by
  unfold mark; split <;> rfl

@[simp] theorem mark_fields : (c.mark id n).fields = n.fields := by
  unfold mark; split <;> rfl

@[simp] theorem mark_record : (c.mark id n).record = n.record := by
  unfold mark; split <;> rfl

@[simp] theorem mark_packed : (c.mark id n).packed = n.packed := by
  unfold mark; split <;> rfl

@[simp] theorem mark_extent : (c.mark id n).extent = n.extent := by
  simp [Node.extent]

/-- A node that bore no verdict is known to be fixed or not only by its verdict. -/
theorem verdict_of_isFixed {c : Classifier} {id : NodeId} {n : Node} {b : Bool}
    (hn : n.isDynamic = none) (h : (c.mark id n).isFixed = .ok b) :
    ∃ v, c.get? id = some v ∧ b = !v.isDynamic ∧ (c.mark id n).fixedSize = v.size := by
  cases hget : c.get? id with
  | none =>
    rw [Node.isFixed, mark, hget] at h
    dsimp only at h
    rw [hn] at h
    cases h
  | some v =>
    rw [Node.isFixed, mark, hget] at h
    refine ⟨v, rfl, (Except.ok.inj h).symm, ?_⟩
    rw [mark, hget]

end Classifier

/-- The nodes of a schema are those of a graph without verdicts, with right verdicts on some. -/
structure Schema.Marks (s : Schema) (a : Arena) (entries : List (String × NodeId)) (env : Catalog)
    (c : Classifier) : Prop where
  arena : s.arena = c.arena a
  good : Classifier.Good a entries env c
  unmarked : ∀ n ∈ a.nodes, n.isDynamic = none
  bears : a.Bears entries env
  records : s.records ⊆ entries

namespace Schema.Marks

variable {s : Schema} {a : Arena} {entries : List (String × NodeId)} {env : Catalog}
  {c : Classifier} {id : NodeId} {t : SszType} {n m : Node}

theorem node_eq_ok (h : s.Marks a entries env c) (hm : s.node id = .ok m) :
    ∃ n, a.get? id = some n ∧ m = c.mark id n := by
  unfold Schema.node Arena.get at hm
  rw [h.arena, Classifier.get?_arena] at hm
  split at hm
  · case h_1 m' hget =>
    obtain rfl := Except.ok.inj hm
    obtain ⟨n, hn, rfl⟩ := Option.map_eq_some_iff.mp hget
    exact ⟨n, hn, rfl⟩
  · cases hm

/-- What a node of a schema tells about its encoding is right for its type. -/
theorem settles (h : s.Marks a entries env c) (hn : a.get? id = some n) (ht : TypeOf a entries id t)
    {b : Bool} (hb : (c.mark id n).isFixed = .ok b) :
    ∃ v : Verdict, v.Settles env t ∧ b = !v.isDynamic ∧ (c.mark id n).fixedSize = v.size := by
  have hnone : n.isDynamic = none := h.unmarked n (List.mem_of_getElem? hn)
  obtain ⟨v, hv, hbv, hsize⟩ := Classifier.verdict_of_isFixed hnone hb
  exact ⟨v, h.good.get? hv ht, hbv, hsize⟩

/-- The element of a sequence is the node of its element. -/
theorem element_eq_ok (h : s.Marks a entries env c) {element : NodeId}
    (he : n.element = some element) (hm : s.element (c.mark id n) = .ok m) :
    ∃ n', a.get? element = some n' ∧ m = c.mark element n' := by
  unfold Schema.element at hm
  obtain ⟨element', he', hm⟩ := Outcome.bind_eq_ok.mp hm
  rw [Classifier.mark_element, he] at he'
  obtain rfl := Except.ok.inj he'
  exact h.node_eq_ok (Outcome.mapError_eq_ok.mp hm)

/-- Whether a node is fixed is told by its type. -/
theorem isDynamic_iff (h : s.Marks a entries env c) (hn : a.get? id = some n)
    (ht : TypeOf a entries id t) {b : Bool} (hb : (c.mark id n).isFixed = .ok b) :
    (!b) = true ↔ env.IsDynamic t := by
  obtain ⟨v, hv, rfl, -⟩ := h.settles hn ht hb
  rw [Bool.not_not]
  exact hv.fits.isDynamic_iff

/-- A fixed node has the size of its type. -/
theorem hasSize (h : s.Marks a entries env c) (hn : a.get? id = some n)
    (ht : TypeOf a entries id t) (hb : (c.mark id n).isFixed = .ok true) :
    ∃ size, (c.mark id n).fixedSize = some size ∧ env.HasSize t size := by
  obtain ⟨v, hv, hbv, hsize⟩ := h.settles hn ht hb
  rw [hsize]
  exact hv.fits.hasSize (by simpa using hbv)

theorem sequence_encoder (h : s.Marks a entries env c) {fuel : Nat} {e : Encoder} {element : NodeId}
    (hel : n.element = some element) (ht : TypeOf a entries element t)
    (ih : ∀ {id t n e}, a.get? id = some n → TypeOf a entries id t → ∀ {b : Bool},
      (c.mark id n).isFixed = .ok b → Encoder.ofNode s fuel (c.mark id n) = .ok e →
      EncodedBy env t e)
    (he : (do
      let element ← s.element (c.mark id n)
      let isFixed ← ofGraph element.isFixed
      return Encoder.sequence (c.mark id n).extent (!isFixed)
        (← Encoder.ofNode s fuel element)) = .ok e) :
    ∃ isDynamic item, e = .sequence (c.mark id n).extent isDynamic item ∧
      (isDynamic = true ↔ env.IsDynamic t) ∧ EncodedBy env t item := by
  obtain ⟨m, hm, he⟩ := Outcome.bind_eq_ok.mp he
  obtain ⟨n', hn', rfl⟩ := h.element_eq_ok hel hm
  obtain ⟨isFixed, hfixed, he⟩ := Outcome.bind_eq_ok.mp he
  have hfixed := Outcome.mapError_eq_ok.mp hfixed
  obtain ⟨item, hitem, he⟩ := Outcome.bind_eq_ok.mp he
  exact ⟨!isFixed, item, (Outcome.pure_eq_ok.mp he).symm, h.isDynamic_iff hn' ht hfixed,
    ih hn' ht hfixed hitem⟩

/-- The code that a node has as encoder is that of its type. -/
theorem encodedBy_ofNode (h : s.Marks a entries env c) {fuel : Nat} {e : Encoder}
    (hn : a.get? id = some n) (ht : TypeOf a entries id t) {b : Bool}
    (hb : (c.mark id n).isFixed = .ok b) (he : Encoder.ofNode s fuel (c.mark id n) = .ok e) :
    EncodedBy env t e := by
  induction fuel generalizing id t n b e with
  | zero => cases he
  | succ fuel ih =>
    obtain ⟨v, hv, -, hsize⟩ := h.settles hn ht hb
    unfold Encoder.ofNode at he
    cases ht with
    | uint hn' hk hw =>
      obtain rfl := Option.some.inj (hn.symm.trans hn')
      simp only [Classifier.mark_kind, Classifier.mark_width, hk, hw] at he
      obtain ⟨_, hneed, he⟩ := Outcome.bind_eq_ok.mp he
      obtain ⟨_, -, he⟩ := Outcome.bind_eq_ok.mp he
      cases hneed
      cases he
      exact .uint
    | bool hn' hk hw =>
      obtain rfl := Option.some.inj (hn.symm.trans hn')
      simp only [Classifier.mark_kind, hk] at he
      cases he
      exact .bool
    | fixedBytes hn' hk hl =>
      obtain rfl := Option.some.inj (hn.symm.trans hn')
      simp only [Classifier.mark_kind, Classifier.mark_length, hk, hl] at he
      cases he
      exact .fixedBytes
    | boundedBytes hn' hk hl hm =>
      obtain rfl := Option.some.inj (hn.symm.trans hn')
      simp only [Classifier.mark_kind, Classifier.mark_length, Classifier.mark_limit, hk, hl,
        hm] at he
      cases he
      exact .boundedBytes
    | bitVector hn' hk hl =>
      obtain rfl := Option.some.inj (hn.symm.trans hn')
      simp only [Classifier.mark_kind, Classifier.mark_length, hsize, hk, hl] at he
      cases he
      have hd : v.isDynamic = false :=
        Bool.eq_false_iff.mpr fun hd => nomatch hv.fits.isDynamic_iff.mp hd
      obtain ⟨size, hvsize, hs⟩ := hv.fits.hasSize hd
      rw [hvsize, hs.unique .bitVector]
      exact .bitVector
    | packedBits hn' hk hel hp =>
      obtain rfl := Option.some.inj (hn.symm.trans hn')
      simp only [Classifier.mark_kind, Classifier.mark_packed, Classifier.mark_limit, hk, hp] at he
      cases he
      exact .packedBits
    | bitList hn' hk hel hp =>
      obtain rfl := Option.some.inj (hn.symm.trans hn')
      simp only [Classifier.mark_kind, Classifier.mark_packed, Classifier.mark_limit, hk, hp] at he
      cases he
      exact .bitList
    | vector hn' hk hl hpos hel hlt ht =>
      obtain rfl := Option.some.inj (hn.symm.trans hn')
      simp only [Classifier.mark_kind, hk] at he
      obtain ⟨isDynamic, item, rfl, hd, hitem⟩ := h.sequence_encoder hel ht ih he
      rw [Classifier.mark_extent, Node.extent_of_vector hk, hl]
      exact .vector hd hitem
    | list hn' hk hm hel hlt ht =>
      obtain rfl := Option.some.inj (hn.symm.trans hn')
      simp only [Classifier.mark_kind, hk] at he
      obtain ⟨isDynamic, item, rfl, hd, hitem⟩ := h.sequence_encoder hel ht ih he
      rw [Classifier.mark_extent, Node.extent_of_list hk, hm]
      exact .list hd hitem
    | record hn' hk hr hmem =>
      obtain rfl := Option.some.inj (hn.symm.trans hn')
      simp only [Classifier.mark_kind, Classifier.mark_record, hk, hr] at he
      cases he
      exact .record

theorem sequence_decoder (h : s.Marks a entries env c) {fuel : Nat} {d : Decoder} {element : NodeId}
    (hel : n.element = some element) (ht : TypeOf a entries element t)
    (ih : ∀ {id t n d}, a.get? id = some n → TypeOf a entries id t → ∀ {b : Bool},
      (c.mark id n).isFixed = .ok b → Decoder.ofNode s fuel (c.mark id n) = .ok d →
      DecodedBy env t d)
    (hd : (do
      let element ← s.element (c.mark id n)
      if ← ofGraph element.isFixed then
        match element.fixedSize with
        | some (step + 1) => do
            printed (step + 1)
            return Decoder.sequence (c.mark id n).extent (some (step + 1))
              (← Decoder.ofNode s fuel element)
        | _ => refuse "sequence of zero-size elements cannot be decoded" element.record
      else
        return Decoder.sequence (c.mark id n).extent none
          (← Decoder.ofNode s fuel element)) = .ok d) :
    ∃ step item, d = .sequence (c.mark id n).extent step item ∧ env.Placed t step ∧
      step ≠ some 0 ∧ DecodedBy env t item := by
  obtain ⟨m, hm, hd⟩ := Outcome.bind_eq_ok.mp hd
  obtain ⟨n', hn', rfl⟩ := h.element_eq_ok hel hm
  obtain ⟨isFixed, hfixed, hd⟩ := Outcome.bind_eq_ok.mp hd
  have hfixed := Outcome.mapError_eq_ok.mp hfixed
  cases isFixed with
  | true =>
    obtain ⟨size, hsize, hs⟩ := h.hasSize hn' ht hfixed
    rw [hsize] at hd
    cases size with
    | zero => cases hd
    | succ step =>
      obtain ⟨_, -, hd⟩ := Outcome.bind_eq_ok.mp hd
      obtain ⟨item, hitem, hd⟩ := Outcome.bind_eq_ok.mp hd
      refine ⟨some (step + 1), item, (Outcome.pure_eq_ok.mp hd).symm, hs, by simp, ?_⟩
      exact ih hn' ht hfixed hitem
  | false =>
    obtain ⟨item, hitem, hd⟩ := Outcome.bind_eq_ok.mp hd
    refine ⟨none, item, (Outcome.pure_eq_ok.mp hd).symm, ?_, nofun, ih hn' ht hfixed hitem⟩
    exact (h.isDynamic_iff hn' ht hfixed).mp rfl

/-- The code that a node has as decoder is that of its type. -/
theorem decodedBy_ofNode (h : s.Marks a entries env c) {fuel : Nat} {d : Decoder}
    (hn : a.get? id = some n) (ht : TypeOf a entries id t) {b : Bool}
    (hb : (c.mark id n).isFixed = .ok b) (hd : Decoder.ofNode s fuel (c.mark id n) = .ok d) :
    DecodedBy env t d := by
  induction fuel generalizing id t n b d with
  | zero => cases hd
  | succ fuel ih =>
    unfold Decoder.ofNode at hd
    cases ht with
    | uint hn' hk hw =>
      obtain rfl := Option.some.inj (hn.symm.trans hn')
      simp only [Classifier.mark_kind, hk] at hd
      cases hd
      exact .uint
    | bool hn' hk hw =>
      obtain rfl := Option.some.inj (hn.symm.trans hn')
      simp only [Classifier.mark_kind, hk] at hd
      cases hd
      exact .bool
    | fixedBytes hn' hk hl =>
      obtain rfl := Option.some.inj (hn.symm.trans hn')
      simp only [Classifier.mark_kind, Classifier.mark_length, hk, hl] at hd
      cases hd
      exact .fixedBytes
    | boundedBytes hn' hk hl hm =>
      obtain rfl := Option.some.inj (hn.symm.trans hn')
      simp only [Classifier.mark_kind, Classifier.mark_length, Classifier.mark_limit, hk, hl,
        hm] at hd
      cases hd
      exact .boundedBytes
    | bitVector hn' hk hl =>
      obtain rfl := Option.some.inj (hn.symm.trans hn')
      simp only [Classifier.mark_kind, Classifier.mark_length, hk, hl] at hd
      cases hd
      exact .bitVector
    | packedBits hn' hk hel hp =>
      obtain rfl := Option.some.inj (hn.symm.trans hn')
      simp only [Classifier.mark_kind, Classifier.mark_packed, Classifier.mark_limit, hk, hp] at hd
      cases hd
      exact .packedBits
    | bitList hn' hk hel hp =>
      obtain rfl := Option.some.inj (hn.symm.trans hn')
      simp only [Classifier.mark_kind, Classifier.mark_packed, Classifier.mark_limit, hk, hp] at hd
      cases hd
      exact .bitList
    | vector hn' hk hl hpos hel hlt ht =>
      obtain rfl := Option.some.inj (hn.symm.trans hn')
      simp only [Classifier.mark_kind, hk] at hd
      obtain ⟨step, item, rfl, hs, hstep, hitem⟩ := h.sequence_decoder hel ht ih hd
      rw [Classifier.mark_extent, Node.extent_of_vector hk, hl]
      exact .vector hpos hs hstep hitem
    | list hn' hk hm hel hlt ht =>
      obtain rfl := Option.some.inj (hn.symm.trans hn')
      simp only [Classifier.mark_kind, hk] at hd
      obtain ⟨step, item, rfl, hs, hstep, hitem⟩ := h.sequence_decoder hel ht ih hd
      rw [Classifier.mark_extent, Node.extent_of_list hk, hm]
      exact .list hs hstep hitem
    | record hn' hk hr hmem =>
      obtain rfl := Option.some.inj (hn.symm.trans hn')
      simp only [Classifier.mark_kind, Classifier.mark_record, hk, hr] at hd
      cases hd
      exact .record

end Schema.Marks

/-! ## Fields and records -/

namespace RecordCode

variable {s : Schema} {fields : List (FieldRef × Node)}

/-- Each field is classified and has the code of its node. -/
theorem encoders_eq_ok {es : List Encoder} (h : encoders s fields = .ok es) :
    List.Forall₂ (fun f e => (∃ b, f.2.isFixed = .ok b) ∧ Encoder.ofNode s (depth s) f.2 = .ok e)
      fields es := by
  obtain ⟨inline, hinline, h⟩ := Outcome.bind_eq_ok.mp h
  refine forall₂_of_zip (Outcome.mapM_eq_ok_iff.mp hinline) (Outcome.mapM_eq_ok_iff.mp h) ?_
  rintro ⟨f, n⟩ i e hi he
  obtain ⟨b, hb, hi⟩ := Outcome.bind_eq_ok.mp hi
  refine ⟨⟨b, Outcome.mapError_eq_ok.mp hb⟩, ?_⟩
  cases b with
  | true =>
    obtain ⟨e', he', hi⟩ := Outcome.bind_eq_ok.mp hi
    obtain rfl := Outcome.pure_eq_ok.mp hi
    obtain rfl := Outcome.pure_eq_ok.mp he
    exact he'
  | false =>
    obtain rfl := Outcome.pure_eq_ok.mp hi
    exact he

/-- Each field is classified and has the code and the size of its node. -/
theorem decoders_eq_ok {ds : List (Decoder × Option Nat)} (h : decoders s fields = .ok ds) :
    List.Forall₂ (fun f d => ∃ b, f.2.isFixed = .ok b ∧ Decoder.ofNode s (depth s) f.2 = .ok d.1 ∧
      d.2 = if b then f.2.fixedSize else none) fields ds := by
  obtain ⟨inline, hinline, h⟩ := Outcome.bind_eq_ok.mp h
  refine forall₂_of_zip (Outcome.mapM_eq_ok_iff.mp hinline) (Outcome.mapM_eq_ok_iff.mp h) ?_
  rintro ⟨f, n⟩ i d hi hd
  obtain ⟨b, hb, hi⟩ := Outcome.bind_eq_ok.mp hi
  refine ⟨b, Outcome.mapError_eq_ok.mp hb, ?_⟩
  cases b with
  | true =>
    obtain ⟨size, hsize, hi⟩ := Outcome.bind_eq_ok.mp hi
    obtain ⟨d', hd', hi⟩ := Outcome.bind_eq_ok.mp hi
    obtain rfl := Outcome.pure_eq_ok.mp hi
    obtain rfl := Outcome.pure_eq_ok.mp hd
    refine ⟨hd', ?_⟩
    dsimp only at hsize ⊢
    cases hn : n.fixedSize with
    | none => rw [hn] at hsize; cases hsize
    | some size' =>
      rw [hn] at hsize
      obtain rfl := Except.ok.inj hsize
      rfl
  | false =>
    obtain rfl := Outcome.pure_eq_ok.mp hi
    obtain ⟨d', hd', hd⟩ := Outcome.bind_eq_ok.mp hd
    obtain rfl := Outcome.pure_eq_ok.mp hd
    exact ⟨hd', rfl⟩

/-- What the code of a record is read from. -/
theorem ofSchema_eq_ok {name : String} {code : RecordCode} (h : ofSchema s name = .ok code) :
    ∃ m pairs es isFixed ds, s.record name = .ok m ∧ s.fieldNodes name = .ok pairs ∧
      encoders s pairs = .ok es ∧ m.isFixed = .ok isFixed ∧ decoders s pairs = .ok ds ∧
      code.name = name ∧ code.isDynamic = !isFixed ∧ code.fixedSize = m.fixedSize ∧
      code.fields = (pairs.zip (es.zip ds)).map fun ((f, _), encoder, decoder, size) =>
        { name := f.name, encoder, decoder, size } := by
  obtain ⟨m, hm, h⟩ := Outcome.bind_eq_ok.mp h
  obtain ⟨pairs, hpairs, h⟩ := Outcome.bind_eq_ok.mp h
  obtain ⟨es, hes, h⟩ := Outcome.bind_eq_ok.mp h
  obtain ⟨isFixed, hfixed, h⟩ := Outcome.bind_eq_ok.mp h
  obtain ⟨_, -, h⟩ := Outcome.bind_eq_ok.mp h
  obtain ⟨ds, hds, h⟩ := Outcome.bind_eq_ok.mp h
  refine ⟨m, pairs, es, isFixed, ds, Outcome.mapError_eq_ok.mp hm, Outcome.mapError_eq_ok.mp hpairs,
    hes, Outcome.mapError_eq_ok.mp hfixed, hds, ?_⟩
  -- Measures are read for dynamic records only.
  cases isFixed with
  | true =>
    obtain rfl := Outcome.pure_eq_ok.mp h
    exact ⟨rfl, rfl, rfl, rfl⟩
  | false =>
    obtain ⟨measures, -, h⟩ := Outcome.bind_eq_ok.mp h
    obtain rfl := Outcome.pure_eq_ok.mp h
    exact ⟨rfl, rfl, rfl, rfl⟩

variable {names : List String} {codes : List RecordCode}

theorem ofRecords_eq_ok (h : ofRecords s names = .ok codes) :
    List.Forall₂ (fun name code => ofSchema s name = .ok code ∧ code.name = name) names codes := by
  refine (Outcome.mapM_eq_ok_iff.mp h).imp fun name code hcode => ⟨hcode, ?_⟩
  obtain ⟨_, _, _, _, _, -, -, -, -, -, hname, -⟩ := ofSchema_eq_ok hcode
  exact hname

theorem map_name_ofRecords (h : ofRecords s names = .ok codes) : codes.map (·.name) = names := by
  rw [← List.forall₂_eq_eq_eq, List.forall₂_map_left_iff]
  exact (ofRecords_eq_ok h).flip.imp fun _ _ hcode => hcode.2

theorem coded_iff (h : ofRecords s names = .ok codes) {name : String} :
    Coded codes name ↔ name ∈ names := by
  rw [← map_name_ofRecords h, Coded, find?, List.find?_isSome]
  simp

theorem find?_ofRecords (h : ofRecords s names = .ok codes) {name : String} {code : RecordCode}
    (hcode : find? codes name = some code) : ofSchema s name = .ok code := by
  obtain ⟨name', -, hschema, rfl⟩ :=
    exists_of_forall₂ (ofRecords_eq_ok h).flip (List.mem_of_find?_eq_some hcode)
  have hname : code.name = name := by simpa using List.find?_some hcode
  rwa [hname] at hschema

end RecordCode

namespace Schema.Marks

variable {s : Schema} {a : Arena} {entries : List (String × NodeId)} {env : Catalog}
  {c : Classifier} {id : NodeId} {t : SszType} {n m : Node}

/-- A field with its node and the field of a catalog that it is. -/
def FieldNode (a : Arena) (entries : List (String × NodeId)) (c : Classifier)
    (p : FieldRef × Node) (g : String × SszType) : Prop :=
  p.1.name = g.1 ∧ ∃ n, a.get? p.1.node = some n ∧ p.2 = c.mark p.1.node n ∧
    TypeOf a entries p.1.node g.2

/-- The code of fields is that of their types. -/
theorem realizes_fields (h : s.Marks a entries env c) {pairs : List (FieldRef × Node)}
    {fields : Fields} (hf : List.Forall₂ (FieldNode a entries c) pairs fields) {es : List Encoder}
    {ds : List (Decoder × Option Nat)} (he : RecordCode.encoders s pairs = .ok es)
    (hd : RecordCode.decoders s pairs = .ok ds) :
    List.Forall₂ (FieldCode.Realizes env) fields
      ((pairs.zip (es.zip ds)).map fun ((f, _), encoder, decoder, size) =>
        { name := f.name, encoder, decoder, size }) := by
  replace he := RecordCode.encoders_eq_ok he
  replace hd := RecordCode.decoders_eq_ok hd
  induction hf generalizing es ds with
  | nil =>
    cases he
    cases hd
    exact .nil
  | @cons p g pairs fields hp _ ih =>
    obtain ⟨f, m⟩ := p
    obtain ⟨hname, n, hn, hm, ht⟩ := hp
    dsimp only at hname hn hm ht
    subst hm
    cases he with
    | cons he hes =>
      cases hd with
      | @cons _ d _ _ hd hds =>
        obtain ⟨⟨b, hb⟩, he⟩ := he
        obtain ⟨b', hb', hd, hsize⟩ := hd
        obtain rfl := Except.ok.inj (hb.symm.trans hb')
        refine .cons ⟨hname, h.encodedBy_ofNode hn ht hb he, h.decodedBy_ofNode hn ht hb hd, ?_⟩
          (ih hes hds)
        dsimp only
        rw [hsize]
        cases b with
        | true =>
          obtain ⟨size, hfixed, hs⟩ := h.hasSize hn ht hb
          rw [if_pos rfl, hfixed]
          exact hs
        | false => exact (h.isDynamic_iff hn ht hb).mp rfl

/-- The node of a record and its fields. -/
theorem record_eq_ok (h : s.Marks a entries env c) {name : String} (hm : s.record name = .ok m) :
    ∃ id n fields, a.get? id = some n ∧ m = c.mark id n ∧ TypeOf a entries id (.record name) ∧
      env name = some fields ∧
      List.Forall₂ (fun (f : FieldRef) g => f.name = g.1 ∧ TypeOf a entries f.node g.2) n.fields
        fields := by
  unfold Schema.record at hm
  split at hm
  · cases hm
  · case h_2 name' id hfind =>
    have hname : name' = name := by simpa using List.find?_some hfind
    subst hname
    have he := h.records (List.mem_of_find?_eq_some hfind)
    obtain ⟨n, fields, hn, hk, hr, hfields, hfs⟩ := h.bears _ he
    obtain ⟨n', hn', rfl⟩ := h.node_eq_ok hm
    obtain rfl := Option.some.inj (hn.symm.trans hn')
    exact ⟨id, n, fields, hn, rfl, .record hn hk hr he, hfields, hfs⟩

/-- The fields of a record with their nodes. -/
theorem fieldNodes_eq_ok (h : s.Marks a entries env c) {name : String}
    {pairs : List (FieldRef × Node)} (hp : s.fieldNodes name = .ok pairs) :
    ∃ fields, env name = some fields ∧ List.Forall₂ (FieldNode a entries c) pairs fields := by
  obtain ⟨m, hm, hp⟩ := Outcome.bind_eq_ok.mp hp
  obtain ⟨id, n, fields, hn, rfl, -, hfields, hfs⟩ := h.record_eq_ok hm
  refine ⟨fields, hfields, ?_⟩
  rw [Classifier.mark_fields] at hp
  have hnodes : List.Forall₂ (fun p f => p.1 = f ∧ s.node f.node = .ok p.2) pairs n.fields := by
    refine (Outcome.mapM_eq_ok_iff.mp hp).flip.imp fun p f hpf => ?_
    obtain ⟨m, hm, hpf⟩ := Outcome.bind_eq_ok.mp hpf
    obtain rfl := Outcome.pure_eq_ok.mp hpf
    exact ⟨rfl, hm⟩
  refine (forall₂_comp_iff.mpr ⟨n.fields, hnodes, hfs⟩).imp ?_
  rintro ⟨f, m⟩ g ⟨f', ⟨rfl, hm⟩, hname, ht⟩
  obtain ⟨n', hn', hmark⟩ := h.node_eq_ok hm
  exact ⟨hname, n', hn', hmark, ht⟩

/-- The code of a record is that of its fields. -/
theorem follows (h : s.Marks a entries env c) {name : String} {code : RecordCode}
    (hc : RecordCode.ofSchema s name = .ok code) :
    ∃ fields, env name = some fields ∧ code.Follows env fields := by
  obtain ⟨m, pairs, es, isFixed, ds, hm, hpairs, hes, hfixed, hds, -, hdynamic, hsize, hcode⟩ :=
    RecordCode.ofSchema_eq_ok hc
  obtain ⟨id, n, fields, hn, rfl, ht, hfields, -⟩ := h.record_eq_ok hm
  obtain ⟨fields', hfields', hpf⟩ := h.fieldNodes_eq_ok hpairs
  obtain rfl := Option.some.inj (hfields.symm.trans hfields')
  obtain ⟨v, hv, rfl, hvsize⟩ := h.settles hn ht hfixed
  have hcodes := h.realizes_fields hpf hes hds
  rw [← hcode] at hcodes
  have hplaced : List.Forall₂ (fun f size => env.Placed f.2 size) fields code.sizes :=
    List.forall₂_map_right_iff.mpr (hcodes.imp fun f code hf => hf.size)
  refine ⟨fields, hfields, hcodes, ?_, ?_⟩
  · obtain ⟨size, hv, hregion⟩ := hv.region name fields rfl hfields
    rw [hsize, hvsize, hv, hregion.eq_regionOf hplaced]
  · rw [hdynamic, Bool.not_not, hv.fits.isDynamic_iff, isDynamic_record_iff hfields]
    constructor
    · rintro ⟨f, hf, hd⟩
      obtain ⟨size, hmem, hp⟩ := exists_of_forall₂ hplaced hf
      rwa [hp.isDynamic_iff.mp hd] at hmem
    · intro hnone
      obtain ⟨f, hf, hp⟩ := exists_of_forall₂ hplaced.flip hnone
      exact ⟨f, hf, hp⟩

/-- Code whose fields have different names is that of a record with such fields. -/
theorem realizes (h : s.Marks a entries env c) {name : String} {code : RecordCode}
    (hc : RecordCode.ofSchema s name = .ok code) (hdistinct : code.hasDistinctFields = true) :
    ∃ fields, env name = some fields ∧ code.Realizes env fields := by
  obtain ⟨fields, hfields, hcode⟩ := h.follows hc
  have hnames : fields.map (·.1) = code.fields.map (·.name) := by
    rw [← List.forall₂_eq_eq_eq, List.forall₂_map_left_iff, List.forall₂_map_right_iff]
    exact hcode.fields.imp fun f code hf => hf.name.symm
  refine ⟨fields, hfields, hcode, ?_⟩
  rw [hnames]
  simpa [RecordCode.hasDistinctFields] using hdistinct

/-! ## Calls -/

/-- At the end of a chain of elements stands the node of the innermost record, if there is one. -/
theorem innermost_eq_ok (h : s.Marks a entries env c) {fuel : Nat} (hn : a.get? id = some n)
    (ht : TypeOf a entries id t) (hm : s.innermost fuel (c.mark id n) = .ok m) :
    t.innermost = if m.kind = .container then m.record else none := by
  induction fuel generalizing id t n with
  | zero => cases hm
  | succ fuel ih =>
    unfold Schema.innermost at hm
    cases ht with
    | vector hn' hk hl hpos hel hlt ht =>
      obtain rfl := Option.some.inj (hn.symm.trans hn')
      simp only [Classifier.mark_kind, hk] at hm
      obtain ⟨m', hm', hm⟩ := Outcome.bind_eq_ok.mp hm
      obtain ⟨n', hn', rfl⟩ := h.element_eq_ok hel hm'
      rw [SszType.innermost]
      exact ih hn' ht hm
    | list hn' hk hlimit hel hlt ht =>
      obtain rfl := Option.some.inj (hn.symm.trans hn')
      simp only [Classifier.mark_kind, hk] at hm
      obtain ⟨m', hm', hm⟩ := Outcome.bind_eq_ok.mp hm
      obtain ⟨n', hn', rfl⟩ := h.element_eq_ok hel hm'
      rw [SszType.innermost]
      exact ih hn' ht hm
    | record hn' hk hr hmem =>
      obtain rfl := Option.some.inj (hn.symm.trans hn')
      simp only [Classifier.mark_kind, hk] at hm
      obtain rfl := Outcome.pure_eq_ok.mp hm
      rw [Classifier.mark_kind, Classifier.mark_record, if_pos hk, hr, SszType.innermost]
    | _ =>
      obtain rfl := Option.some.inj (hn.symm.trans ‹a.get? id = some _›)
      simp only [Classifier.mark_kind, *] at hm
      obtain rfl := Outcome.pure_eq_ok.mp hm
      rw [if_neg (by simp [*])]
      rfl

/-- The innermost record of a field is found. -/
theorem addReferenced_eq_ok (h : s.Marks a entries env c) {found found' : List String}
    {p : FieldRef × Node} (hadd : s.addReferenced found p.2 = .ok found') :
    found ⊆ found' ∧ ∀ g, FieldNode a entries c p g →
      ∀ name, g.2.innermost = some name → name ∈ found' := by
  obtain ⟨m, hm, hadd⟩ := Outcome.bind_eq_ok.mp hadd
  by_cases hk : m.kind = .container
  · rw [if_pos hk] at hadd
    obtain ⟨record, hrecord, hadd⟩ := Outcome.bind_eq_ok.mp hadd
    obtain rfl := Outcome.pure_eq_ok.mp hadd
    have hsub : found ⊆ if found.contains record then found else found ++ [record] := by
      split
      · exact List.Subset.refl _
      · exact List.subset_append_left _ _
    refine ⟨hsub, ?_⟩
    rintro ⟨_, t⟩ ⟨-, n, hn, hp, ht⟩ name hname
    rw [hp] at hm
    have hr := h.innermost_eq_ok hn ht hm
    rw [if_pos hk, hname] at hr
    rw [← hr] at hrecord
    obtain rfl := Except.ok.inj hrecord
    split
    · case isTrue hmem => exact List.contains_iff_mem.mp hmem
    · exact List.mem_append_right _ List.mem_cons_self
  · rw [if_neg hk] at hadd
    obtain rfl := Outcome.pure_eq_ok.mp hadd
    refine ⟨List.Subset.refl _, ?_⟩
    rintro ⟨_, t⟩ ⟨-, n, hn, hp, ht⟩ name hname
    rw [hp] at hm
    have hr := h.innermost_eq_ok hn ht hm
    rw [if_neg hk, hname] at hr
    cases hr

/-- The records that fields of some records end in are found. -/
theorem referenced_eq_ok (h : s.Marks a entries env c) {records called : List String}
    (hcalled : s.referenced records = .ok called) {name : String} (hname : name ∈ records)
    {fields : Fields} (hfields : env name = some fields) {f : String × SszType} (hf : f ∈ fields)
    {inner : String} (hinner : f.2.innermost = some inner) : inner ∈ called := by
  refine (Outcome.foldlM_collects (P := fun name found => ∀ fields, env name = some fields →
    ∀ f ∈ fields, ∀ inner, f.2.innermost = some inner → inner ∈ found) ?_ ?_ hcalled).2 name hname
    fields hfields f hf inner hinner
  · exact fun _ _ _ hsub hP fields hfields f hf inner hinner =>
      hsub (hP fields hfields f hf inner hinner)
  · intro found name found' hstep
    obtain ⟨pairs, hpairs, hstep⟩ := Outcome.bind_eq_ok.mp hstep
    obtain ⟨fields', hfields', hpf⟩ := h.fieldNodes_eq_ok (Outcome.mapError_eq_ok.mp hpairs)
    obtain ⟨hsub, hfound⟩ := Outcome.foldlM_collects
      (P := fun p found => ∀ g, FieldNode a entries c p g →
        ∀ name, g.2.innermost = some name → name ∈ found)
      (fun _ _ _ hsub hP g hg inner hinner => hsub (hP g hg inner hinner))
      (fun _ _ _ hadd => h.addReferenced_eq_ok hadd) hstep
    refine ⟨hsub, fun fields hfields g hg inner hinner => ?_⟩
    obtain rfl := Option.some.inj (hfields.symm.trans hfields')
    obtain ⟨p, hp, hpg⟩ := exists_of_forall₂ hpf.flip hg
    exact hfound p hp g hpg inner hinner

end Schema.Marks

/-! ## Modules -/

namespace Assembly

variable {s : Schema} {p : Plan} {part : ModulePlan} {m : Module}

/-- Each called record is held in the module itself or in another one of the plan. -/
theorem foreign_eq_ok {held called : List String} {found : List (String × String)}
    (h : foreign p held called = .ok found) {name : String} (hname : name ∈ called) :
    name ∈ held ∨ ∃ part ∈ p.modules, name ∈ part.records := by
  by_cases hheld : name ∈ held
  · exact .inl hheld
  · right
    have hmem : name ∈ called.filter fun name => !held.contains name := by
      simpa using ⟨hname, hheld⟩
    obtain ⟨e, -, he⟩ := exists_of_forall₂ (Outcome.mapM_eq_ok_iff.mp h) hmem
    split at he
    · case h_1 file howner =>
      obtain ⟨part, hfind, -⟩ := Option.map_eq_some_iff.mp howner
      exact ⟨part, List.mem_reverse.mp (List.mem_of_find?_eq_some hfind),
        by simpa using List.find?_some hfind⟩
    · cases he

theorem moduleOf_eq_ok {header : String} (h : moduleOf s p header part = .ok m) :
    ∃ called found, s.referenced part.records = .ok called ∧
      foreign p part.records called = .ok found ∧
      RecordCode.ofRecords s part.records = .ok m.codes := by
  obtain ⟨-, -, h⟩ := Outcome.bind_eq_ok.mp h
  obtain ⟨-, -, h⟩ := Outcome.bind_eq_ok.mp h
  obtain ⟨called, hcalled, h⟩ := Outcome.bind_eq_ok.mp h
  obtain ⟨found, hfound, h⟩ := Outcome.bind_eq_ok.mp h
  obtain ⟨codes, hcodes, h⟩ := Outcome.bind_eq_ok.mp h
  obtain rfl := Outcome.pure_eq_ok.mp h
  exact ⟨called, found, hcalled, hfound, hcodes⟩

/-- No record of an accepted module has two fields of one name. -/
theorem outputOf_eq_ok {accepts : String → Bool} {out : Output} (h : outputOf accepts m = .ok out) :
    (∀ c ∈ m.codes, c.hasDistinctFields = true) ∧ out.records = m.records := by
  unfold outputOf at h
  split at h
  · case isTrue hall =>
    split at h
    · obtain rfl := Except.ok.inj h
      exact ⟨List.all_eq_true.mp hall, rfl⟩
    · cases h
  · cases h

/-- An output lists the records of its part, and none of them has two fields of one name. -/
theorem records_of_eq_ok {header : String} {accepts : String → Bool} {out : Output}
    (hm : moduleOf s p header part = .ok m) (hout : outputOf accepts m = .ok out) :
    out.records = part.records ∧ ∀ name ∈ part.records, ∀ code,
      RecordCode.ofSchema s name = .ok code → code.hasDistinctFields = true := by
  obtain ⟨_, _, -, -, hcodes⟩ := moduleOf_eq_ok hm
  obtain ⟨hdistinct, hrecords⟩ := outputOf_eq_ok hout
  refine ⟨hrecords.trans (RecordCode.map_name_ofRecords hcodes), fun name hname code hcode => ?_⟩
  obtain ⟨code', hmem, hcode', -⟩ := exists_of_forall₂ (RecordCode.ofRecords_eq_ok hcodes) hname
  obtain rfl := Except.ok.inj (hcode.symm.trans hcode')
  exact hdistinct code hmem

end Assembly

theorem assemble_eq_ok {accepts : String → Bool} {s : Schema} {units : List SourceUnit}
    {selected : Option (List String)} {output : Option Path} {settings : Settings}
    {outs : List Output} (h : assemble accepts s units selected output settings = .ok outs) :
    ∃ p : Plan, List.Forall₂ (fun part out => ∃ m,
      Assembly.moduleOf s p settings.header part = .ok m ∧
        Assembly.outputOf accepts m = .ok out) p.modules outs := by
  obtain ⟨p, -, h⟩ := Outcome.bind_eq_ok.mp h
  refine ⟨p, ?_⟩
  split at h
  · cases h
  · refine (Outcome.mapM_eq_ok_iff.mp h).imp fun part out hpart => ?_
    exact Outcome.bind_eq_ok.mp hpart

/-- What a resolution is classified to bears right verdicts, whatever tells the types of its
records. -/
theorem Resolution.Sound.marks {r : Resolution} (hr : r.Sound) {env : Catalog}
    (hb : r.arena.Bears r.registry.entries env) {names : Option (List String)} {collect : Bool}
    {s : Schema} {ds : List Diagnostic} (hs : r.schema names collect = .ok (s, ds)) :
    ∃ c, s.Marks r.arena r.registry.entries env c := by
  obtain ⟨c, hgood, harena, hrecords⟩ := hr.schema_eq_ok hb hs
  exact ⟨c, harena, hgood, hr.unmarked, hb, hrecords.subset⟩

theorem Resolution.Reached.marks {units : List SourceUnit} {r : Resolution} (h : r.Reached units)
    {names : Option (List String)} {collect : Bool} {s : Schema} {ds : List Diagnostic}
    (hs : r.schema names collect = .ok (s, ds)) :
    ∃ c, s.Marks r.arena r.registry.entries r.catalog c :=
  h.sound.marks h.sound.bears hs

/-- The code that a schema gives some of its records, after resolving records in some order. -/
structure Emitted (units : List SourceUnit) (r : Resolution) (codes : List RecordCode) : Prop where
  reached : r.Reached units
  emitted : ∃ names collect s ds records, r.schema names collect = .ok (s, ds) ∧
    RecordCode.ofRecords s records = .ok codes

/-- Each code is read off a schema with right verdicts. -/
theorem Emitted.marks {units : List SourceUnit} {r : Resolution} {codes : List RecordCode}
    (h : Emitted units r codes) : ∃ s c, s.Marks r.arena r.registry.entries r.catalog c ∧
      ∀ {name code}, RecordCode.find? codes name = some code →
        RecordCode.ofSchema s name = .ok code := by
  obtain ⟨names, collect, s, ds, records, hs, hcodes⟩ := h.emitted
  obtain ⟨c, hmarks⟩ := h.reached.marks hs
  exact ⟨s, c, hmarks, RecordCode.find?_ofRecords hcodes⟩

/-- The code of all records in the modules that a run writes: records of a resolution are classified
and assembled. -/
def Resolution.generate (r : Resolution) (names : Option (List String)) (collect : Bool)
    (accepts : String → Bool) (units : List SourceUnit) (selected : Option (List String))
    (output : Option Path) (settings : Settings) : Generation (List RecordCode) := do
  let (s, _) ← r.schema names collect
  let outs ← assemble accepts s units selected output settings
  RecordCode.ofRecords s (outs.flatMap (·.records))

/-- The code that a run generates for units after resolving records in some order. -/
structure Accepted (units : List SourceUnit) (r : Resolution) (codes : List RecordCode) : Prop where
  reached : r.Reached units
  generated : ∃ names collect accepts selected output settings,
    r.generate names collect accepts units selected output settings = .ok codes

namespace Accepted

variable {units : List SourceUnit} {r : Resolution} {codes : List RecordCode}

/-- What a run generates is read off one schema. -/
theorem emitted (h : Accepted units r codes) : Emitted units r codes := by
  obtain ⟨names, collect, accepts, selected, output, settings, hcodes⟩ := h.generated
  obtain ⟨⟨s, ds⟩, hs, hcodes⟩ := Outcome.bind_eq_ok.mp hcodes
  obtain ⟨outs, -, hcodes⟩ := Outcome.bind_eq_ok.mp hcodes
  exact ⟨h.reached, names, collect, s, ds, _, hs, hcodes⟩

/-- What a run generates implements the types of its records. -/
theorem implements (h : Accepted units r codes) : Implements r.catalog codes := by
  obtain ⟨names, collect, accepts, selected, output, settings, hcodes⟩ := h.generated
  obtain ⟨⟨s, ds⟩, hs, hcodes⟩ := Outcome.bind_eq_ok.mp hcodes
  obtain ⟨outs, houts, hcodes⟩ := Outcome.bind_eq_ok.mp hcodes
  obtain ⟨c, hmarks⟩ := h.reached.marks hs
  obtain ⟨p, hparts⟩ := assemble_eq_ok houts
  have hcoded {name : String} : Coded codes name ↔ ∃ part ∈ p.modules, name ∈ part.records := by
    rw [RecordCode.coded_iff hcodes, List.mem_flatMap]
    constructor
    · rintro ⟨out, hout, hname⟩
      obtain ⟨part, hpart, m, hm, hmout⟩ := exists_of_forall₂ hparts.flip hout
      rw [(Assembly.records_of_eq_ok hm hmout).1] at hname
      exact ⟨part, hpart, hname⟩
    · rintro ⟨part, hpart, hname⟩
      obtain ⟨out, hout, m, hm, hmout⟩ := exists_of_forall₂ hparts hpart
      rw [← (Assembly.records_of_eq_ok hm hmout).1] at hname
      exact ⟨out, hout, hname⟩
  constructor
  · intro name code hcode
    have hschema := RecordCode.find?_ofRecords hcodes hcode
    obtain ⟨part, hpart, hname⟩ := hcoded.mp (Option.isSome_iff_exists.mpr ⟨code, hcode⟩)
    obtain ⟨out, -, m, hm, hmout⟩ := exists_of_forall₂ hparts hpart
    exact hmarks.realizes hschema ((Assembly.records_of_eq_ok hm hmout).2 name hname code hschema)
  · intro name code fields hcode hfields f hf inner hinner
    obtain ⟨part, hpart, hname⟩ := hcoded.mp (Option.isSome_iff_exists.mpr ⟨code, hcode⟩)
    obtain ⟨out, -, m, hm, -⟩ := exists_of_forall₂ hparts hpart
    obtain ⟨called, found, hcalled, hfound, -⟩ := Assembly.moduleOf_eq_ok hm
    have hinner := hmarks.referenced_eq_ok hcalled hname hfields hf hinner
    refine hcoded.mpr ?_
    rcases Assembly.foreign_eq_ok hfound hinner with hinner | hinner
    · exact ⟨part, hpart, hinner⟩
    · exact hinner

end Accepted

end SszSchema
