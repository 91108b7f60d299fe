import SszSchema.Proofs.Registry
import SszSchema.Proofs.WellFormed

/-!
# Sizes of nodes

What a schema tells of its nodes, in terms of the graph alone. A node is dynamic if a list, a bit
list or a byte string without exact length can be reached from it through fields and elements of
vectors (`Arena.IsDynamic`); otherwise its size follows from its kind and its parts
(`Arena.HasSize`).

Classification meets records again that are still open, and passes those below a list for dynamic.
Such guesses turn out right: what a schema tells of the nodes that some records reach is as in the
graph (`Arena.Describes`), and so it is the same for each order of these records
(`Resolution.Reached.schema_describes`).
-/

namespace SszSchema

open Relation

/-- A node has values of different sizes whatever its parts are. -/
def Node.Varies (n : Node) : Prop :=
  n.kind = .list ∨ n.kind = .bitList ∨ n.kind = .bytes ∧ n.length = none

/-- A node without what is told of it. -/
def Node.bare (n : Node) : Node := { n with isDynamic := none, fixedSize := none }

namespace Arena

/-- A node from which one that varies in size is reached through fields and elements of vectors. -/
def IsDynamic (a : Arena) (x : NodeId) : Prop :=
  ∃ y n, ReflTransGen a.Contains x y ∧ a.get? y = some n ∧ n.Varies

/-- The size that a node has by its kind. -/
inductive HasSize (a : Arena) : NodeId → Nat → Prop
  | uint {x : NodeId} {n : Node} {width : Nat} (hn : a.get? x = some n) (hk : n.kind = .uint)
      (hw : n.width = some width) : HasSize a x width
  | bool {x : NodeId} {n : Node} {width : Nat} (hn : a.get? x = some n) (hk : n.kind = .bool)
      (hw : n.width = some width) : HasSize a x width
  | bitVector {x : NodeId} {n : Node} {length : Nat} (hn : a.get? x = some n)
      (hk : n.kind = .bitVector) (hl : n.length = some length) : HasSize a x ((length + 7) / 8)
  | bytes {x : NodeId} {n : Node} {length : Nat} (hn : a.get? x = some n) (hk : n.kind = .bytes)
      (hl : n.length = some length) : HasSize a x length
  | vector {x y : NodeId} {n : Node} {length size : Nat} (hn : a.get? x = some n)
      (hk : n.kind = .vector) (hl : n.length = some length) (he : n.element = some y)
      (h : HasSize a y size) : HasSize a x (length * size)
  | container {x : NodeId} {n : Node} (size : NodeId → Nat) (hn : a.get? x = some n)
      (hk : n.kind = .container) (h : ∀ f ∈ n.fields, HasSize a f.node (size f.node)) :
      HasSize a x (n.fields.map fun f => size f.node).sum

/-- The bytes that a node takes in the fixed region of a container: its size, or an offset. -/
inductive HasSlot (a : Arena) : NodeId → Nat → Prop
  | inline {x : NodeId} {size : Nat} (h : a.HasSize x size) : HasSlot a x size
  | offset {x : NodeId} (h : a.IsDynamic x) : HasSlot a x offsetBytes

/-- The size of the fixed region of a container with these fields. -/
def HasRegion (a : Arena) (fields : List FieldRef) (size : Nat) : Prop :=
  ∃ slot : NodeId → Nat, (∀ f ∈ fields, a.HasSlot f.node (slot f.node)) ∧
    size = (fields.map fun f => slot f.node).sum

/-- A node tells whether the node of a number is dynamic, and its size: that of all values if it is
fixed, and that of the fixed region if it is a dynamic container. -/
structure Describes (a : Arena) (x : NodeId) (n : Node) : Prop where
  isDynamic : ∃ dynamic, n.isDynamic = some dynamic ∧ (dynamic = true ↔ a.IsDynamic x)
  fixed : ¬a.IsDynamic x → ∃ size, n.fixedSize = some size ∧ a.HasSize x size
  region : a.IsDynamic x → n.kind = .container →
    ∃ size, n.fixedSize = some size ∧ a.HasRegion n.fields size
  unsized : a.IsDynamic x → n.kind ≠ .container → n.fixedSize = none

variable {a : Arena} {x : NodeId} {n : Node}

/-- Graphs with the same nodes. -/
theorem ext_get? {b : Arena} (h : ∀ x, a.get? x = b.get? x) : a = b :=
  congrArg mk (List.ext_getElem? h)

/-! ## Sizes in a graph -/

theorem isDynamic_iff (hn : a.get? x = some n) :
    a.IsDynamic x ↔ n.Varies ∨ ∃ y ∈ n.parts, a.IsDynamic y := by
  constructor
  · rintro ⟨y, m, hreach, hm, hvaries⟩
    rcases hreach.cases_head with rfl | ⟨z, ⟨n', hn', hz⟩, hreach⟩
    · obtain rfl := Option.some.inj (hn.symm.trans hm)
      exact .inl hvaries
    · obtain rfl := Option.some.inj (hn.symm.trans hn')
      exact .inr ⟨z, hz, y, m, hreach, hm, hvaries⟩
  · rintro (hvaries | ⟨y, hy, z, m, hreach, hm, hvaries⟩)
    · exact ⟨x, n, .refl, hn, hvaries⟩
    · exact ⟨z, m, .head ⟨n, hn, hy⟩ hreach, hm, hvaries⟩

/-- A node of one size is not dynamic. -/
theorem HasSize.not_isDynamic {size : Nat} (h : a.HasSize x size) : ¬a.IsDynamic x := by
  induction h with
  | uint hn hk | bool hn hk | bitVector hn hk =>
    rw [isDynamic_iff hn]
    simp [Node.Varies, Node.parts, hk]
  | bytes hn hk hl =>
    rw [isDynamic_iff hn]
    simp [Node.Varies, Node.parts, hk, hl]
  | vector hn hk hl he _ ih =>
    rw [isDynamic_iff hn]
    simpa [Node.Varies, Node.parts, hk, he] using ih
  | container size hn hk _ ih =>
    rw [isDynamic_iff hn]
    simpa [Node.Varies, Node.parts, hk] using ih

theorem kind_unique {n' : Node} {kind kind' : NodeKind} (hn : a.get? x = some n) (hk : n.kind = kind)
    (hn' : a.get? x = some n') (hk' : n'.kind = kind') : kind = kind' := by
  obtain rfl := Option.some.inj (hn.symm.trans hn')
  exact hk.symm.trans hk'

/-- A node has at most one size. -/
theorem HasSize.unique {size size' : Nat} (h : a.HasSize x size) (h' : a.HasSize x size') :
    size = size' := by
  induction h generalizing size' with
  | uint hn hk hw =>
    cases h' with
    | uint hn' _ hw' =>
      obtain rfl := Option.some.inj (hn.symm.trans hn')
      exact Option.some.inj (hw.symm.trans hw')
    | _ => cases kind_unique hn hk ‹a.get? _ = some _› ‹Node.kind _ = _›
  | bool hn hk hw =>
    cases h' with
    | bool hn' _ hw' =>
      obtain rfl := Option.some.inj (hn.symm.trans hn')
      exact Option.some.inj (hw.symm.trans hw')
    | _ => cases kind_unique hn hk ‹a.get? _ = some _› ‹Node.kind _ = _›
  | bitVector hn hk hl =>
    cases h' with
    | bitVector hn' _ hl' =>
      obtain rfl := Option.some.inj (hn.symm.trans hn')
      rw [Option.some.inj (hl.symm.trans hl')]
    | _ => cases kind_unique hn hk ‹a.get? _ = some _› ‹Node.kind _ = _›
  | bytes hn hk hl =>
    cases h' with
    | bytes hn' _ hl' =>
      obtain rfl := Option.some.inj (hn.symm.trans hn')
      exact Option.some.inj (hl.symm.trans hl')
    | _ => cases kind_unique hn hk ‹a.get? _ = some _› ‹Node.kind _ = _›
  | vector hn hk hl he _ ih =>
    cases h' with
    | vector hn' _ hl' he' h' =>
      obtain rfl := Option.some.inj (hn.symm.trans hn')
      obtain rfl := Option.some.inj (he.symm.trans he')
      rw [Option.some.inj (hl.symm.trans hl'), ih h']
    | _ => cases kind_unique hn hk ‹a.get? _ = some _› ‹Node.kind _ = _›
  | container size hn hk _ ih =>
    cases h' with
    | container size' hn' _ h' =>
      obtain rfl := Option.some.inj (hn.symm.trans hn')
      exact congrArg List.sum (List.map_congr_left fun f hf => ih f hf (h' f hf))
    | _ => cases kind_unique hn hk ‹a.get? _ = some _› ‹Node.kind _ = _›

theorem HasSlot.unique {size size' : Nat} (h : a.HasSlot x size) (h' : a.HasSlot x size') :
    size = size' := by
  cases h with
  | inline h =>
    cases h' with
    | inline h' => exact h.unique h'
    | offset hd => exact absurd hd h.not_isDynamic
  | offset hd =>
    cases h' with
    | inline h' => exact absurd hd h'.not_isDynamic
    | offset => rfl

theorem HasRegion.unique {fields : List FieldRef} {size size' : Nat} (h : a.HasRegion fields size)
    (h' : a.HasRegion fields size') : size = size' := by
  obtain ⟨slot, hslot, rfl⟩ := h
  obtain ⟨slot', hslot', rfl⟩ := h'
  exact congrArg List.sum (List.map_congr_left fun f hf => (hslot f hf).unique (hslot' f hf))

/-- What is told of a node of the graph can be told in one way only. -/
theorem Describes.unique {n' : Node} (h : a.Describes x n) (h' : a.Describes x n')
    (hkind : n.kind = n'.kind) (hfields : n.fields = n'.fields) :
    n.isDynamic = n'.isDynamic ∧ n.fixedSize = n'.fixedSize := by
  constructor
  · obtain ⟨dynamic, hn, hd⟩ := h.isDynamic
    obtain ⟨dynamic', hn', hd'⟩ := h'.isDynamic
    rw [hn, hn', Bool.eq_iff_iff.mpr (hd.trans hd'.symm)]
  · by_cases hd : a.IsDynamic x
    · by_cases hk : n.kind = .container
      · obtain ⟨size, hn, hsize⟩ := h.region hd hk
        obtain ⟨size', hn', hsize'⟩ := h'.region hd (hkind ▸ hk)
        rw [hn, hn', hsize.unique (hfields ▸ hsize')]
      · rw [h.unsized hd hk, h'.unsized hd (hkind ▸ hk)]
    · obtain ⟨size, hn, hsize⟩ := h.fixed hd
      obtain ⟨size', hn', hsize'⟩ := h'.fixed hd
      rw [hn, hn', hsize.unique hsize']

/-! ## Sizes of nodes and of their types -/

variable {entries : List (String × NodeId)} {env : Catalog} {t : SszType}

/-- The fields of a container with the type of a record. -/
theorem Bears.fields_of_record (hb : a.Bears entries env) {name : String}
    (ht : TypeOf a entries x (.record name)) : ∃ n fields, a.get? x = some n ∧
      n.kind = .container ∧ env name = some fields ∧ List.Forall₂
        (fun (f : FieldRef) g => f.name = g.1 ∧ TypeOf a entries f.node g.2) n.fields fields := by
  cases ht with
  | record hn hk hr he =>
    obtain ⟨n, fields, hn, hk, -, hfields, hfs⟩ := hb _ he
    exact ⟨n, fields, hn, hk, hfields, hfs⟩

theorem isDynamic_of_type (hb : a.Bears entries env) (ht : TypeOf a entries x t)
    (hd : env.IsDynamic t) : a.IsDynamic x := by
  induction hd generalizing x with
  | boundedBytes =>
    cases ht with
    | boundedBytes hn hk hl => exact (isDynamic_iff hn).mpr (.inl (.inr (.inr ⟨hk, hl⟩)))
  | packedBits =>
    cases ht with
    | packedBits hn hk => exact (isDynamic_iff hn).mpr (.inl (.inr (.inl hk)))
  | bitList =>
    cases ht with
    | bitList hn hk => exact (isDynamic_iff hn).mpr (.inl (.inr (.inl hk)))
  | list =>
    cases ht with
    | list hn hk => exact (isDynamic_iff hn).mpr (.inl (.inl hk))
  | vector _ ih =>
    cases ht with
    | vector hn hk hl hpos he hlt ht =>
      refine (isDynamic_iff hn).mpr (.inr ⟨_, ?_, ih ht⟩)
      rw [(Node.parts_of_vector hk he).1]
      exact List.mem_cons_self
  | record hr hf _ ih =>
    obtain ⟨n, fields, hn, hk, hfields, hfs⟩ := hb.fields_of_record ht
    obtain rfl := Option.some.inj (hr.symm.trans hfields)
    obtain ⟨f, hfn, -, htype⟩ := exists_of_forall₂ hfs.flip hf
    refine (isDynamic_iff hn).mpr (.inr ⟨f.node, ?_, ih htype⟩)
    rw [(Node.parts_of_container hk).1]
    exact List.mem_map_of_mem hfn

/-- Numbers for the types of fields, as numbers for the nodes of these. -/
theorem exists_byNode {P : NodeId → Nat → Prop} {fs : List FieldRef} {fields : Fields}
    (hfs : List.Forall₂ (fun (f : FieldRef) g => f.name = g.1 ∧ TypeOf a entries f.node g.2) fs
      fields) (size : SszType → Nat)
    (h : ∀ g ∈ fields, ∀ y, TypeOf a entries y g.2 → P y (size g.2)) :
    ∃ byNode : NodeId → Nat, (∀ f ∈ fs, P f.node (byNode f.node)) ∧
      (fields.map fun g => size g.2).sum = (fs.map fun f => byNode f.node).sum := by
  let byNode : NodeId → Nat := fun y => ((a.typeOf? y).map size).getD 0
  have heq {y : NodeId} {u : SszType} (hu : TypeOf a entries y u) : byNode y = size u := by
    simp [byNode, hu.typeOf?_eq]
  refine ⟨byNode, fun f hf => ?_, ?_⟩
  · obtain ⟨g, hg, -, ht⟩ := exists_of_forall₂ hfs hf
    rw [heq ht]
    exact h g hg f.node ht
  · have hmap : fs.map (fun f => byNode f.node) = fields.map fun g => size g.2 :=
      map_eq_map_of_forall₂ (hfs.imp fun _ _ h => heq h.2)
    rw [hmap]

theorem hasSize_of_type (hb : a.Bears entries env) (ht : TypeOf a entries x t) {size : Nat}
    (hs : env.HasSize t size) : a.HasSize x size := by
  induction hs generalizing x with
  | uint =>
    cases ht with
    | uint hn hk hw => exact .uint hn hk hw
  | bool =>
    cases ht with
    | bool hn hk hw => exact .bool hn hk hw
  | fixedBytes =>
    cases ht with
    | fixedBytes hn hk hl => exact .bytes hn hk hl
  | bitVector =>
    cases ht with
    | bitVector hn hk hl => exact .bitVector hn hk hl
  | vector _ ih =>
    cases ht with
    | vector hn hk hl hpos he hlt ht => exact .vector hn hk hl he (ih ht)
  | record size hr _ ih =>
    obtain ⟨n, fields, hn, hk, hfields, hfs⟩ := hb.fields_of_record ht
    obtain rfl := Option.some.inj (hr.symm.trans hfields)
    obtain ⟨byNode, hsize, hsum⟩ := exists_byNode hfs size fun g hg y hy => ih g hg hy
    rw [hsum]
    exact .container byNode hn hk hsize

theorem hasSlot_of_type (hb : a.Bears entries env) (ht : TypeOf a entries x t) {size : Nat}
    (hs : env.HasSlot t size) : a.HasSlot x size := by
  cases hs with
  | inline h => exact .inline (hasSize_of_type hb ht h)
  | offset h => exact .offset (isDynamic_of_type hb ht h)

theorem hasRegion_of_type (hb : a.Bears entries env) {fs : List FieldRef} {fields : Fields}
    (hfs : List.Forall₂ (fun (f : FieldRef) g => f.name = g.1 ∧ TypeOf a entries f.node g.2) fs
      fields) {size : Nat} (hs : env.HasRegion fields size) : a.HasRegion fs size := by
  obtain ⟨slot, hslot, rfl⟩ := hs
  obtain ⟨byNode, hsize, hsum⟩ := exists_byNode hfs slot fun g hg y hy =>
    hasSlot_of_type hb hy (hslot g hg)
  exact ⟨byNode, hsize, hsum⟩

end Arena

/-! ## Verdicts -/

namespace Classifier

variable {a : Arena} {entries : List (String × NodeId)} {env : Catalog} {c : Classifier}
  {x : NodeId} {n : Node}

/-- A verdict changes only what a node tells. -/
theorem mark_eq (c : Classifier) (x : NodeId) (n : Node) : c.mark x n =
    { n with isDynamic := (c.mark x n).isDynamic, fixedSize := (c.mark x n).fixedSize } := by
  unfold mark
  split <;> rfl

theorem mark_of_notMem (hx : x ∉ c.nodes) : c.mark x n = n := by
  rw [mark, get?_eq_none_iff.mpr hx]

/-- Without what they tell, the nodes of a classified graph are those of the graph. -/
theorem map_bare_arena (c : Classifier) (a : Arena) :
    (c.arena a).nodes.map Node.bare = a.nodes.map Node.bare := by
  refine List.ext_getElem? fun x => ?_
  have hget := get?_arena c a x
  simp only [Arena.get?] at hget
  rw [List.getElem?_map, List.getElem?_map, hget, Option.map_map]
  refine Option.map_congr fun n _ => ?_
  rw [Function.comp_apply, mark_eq]
  rfl

/-- A right verdict tells what is so in the graph. -/
theorem Good.describes (h : Good a entries env c) (hb : a.Bears entries env) (hx : x ∈ c.nodes)
    (hn : a.get? x = some n) : a.Describes x (c.mark x n) := by
  obtain ⟨e, he, rfl⟩ := List.mem_map.mp hx
  obtain ⟨t, ht, -⟩ := h e he
  obtain ⟨v, hv⟩ : ∃ v, c.get? e.1 = some v :=
    Option.ne_none_iff_exists'.mp fun hnone => get?_eq_none_iff.mp hnone hx
  have hsettles := h.get? hv ht
  have hdynamic : v.isDynamic = true ↔ a.IsDynamic e.1 := by
    refine ⟨fun hd => Arena.isDynamic_of_type hb ht (hsettles.fits.isDynamic_iff.mp hd),
      fun hd => ?_⟩
    by_contra hfixed
    obtain ⟨size, -, hsize⟩ := hsettles.fits.hasSize (Bool.eq_false_iff.mpr hfixed)
    exact (Arena.hasSize_of_type hb ht hsize).not_isDynamic hd
  have hmark : c.mark e.1 n = { n with isDynamic := some v.isDynamic, fixedSize := v.size } := by
    rw [mark, hv]
  rw [hmark]
  refine ⟨⟨v.isDynamic, rfl, hdynamic⟩, fun hd => ?_, fun _ hk => ?_, fun hd hk => ?_⟩
  · obtain ⟨size, hvsize, hsize⟩ :=
      hsettles.fits.hasSize (Bool.eq_false_iff.mpr (mt hdynamic.mp hd))
    exact ⟨size, hvsize, Arena.hasSize_of_type hb ht hsize⟩
  · obtain ⟨name, hr, he⟩ := ht.mem_of_container hn hk
    obtain rfl := ht.unique (.record hn hk hr he)
    obtain ⟨n', fields, hn', -, hfields, hfs⟩ := hb.fields_of_record ht
    obtain rfl := Option.some.inj (hn.symm.trans hn')
    obtain ⟨size, hvsize, hregion⟩ := hsettles.region name fields rfl hfields
    exact ⟨size, hvsize, Arena.hasRegion_of_type hb hfs hregion⟩
  · refine hsettles.unsized (fun name hname => ?_) (hdynamic.mpr hd)
    subst hname
    obtain ⟨n', -, hn', hk', -⟩ := hb.fields_of_record ht
    obtain rfl := Option.some.inj (hn.symm.trans hn')
    exact hk hk'

end Classifier

namespace Resolution

variable {r : Resolution} {units : List SourceUnit} {names names' : Option (List String)}
  {s s' : Schema} {ds ds' : List Diagnostic}

/-- Some of the records lead to a node. -/
def Leads (r : Resolution) (names : List String) (x : NodeId) : Prop :=
  ∃ name ∈ names, ∃ root, r.registry.get? name = some root ∧ ReflTransGen r.arena.Refers root x

/-- A classification that stops at the first fault finishes just what its records lead to. -/
theorem mem_nodes_iff (hr : r.Sound) {names kept : List String} {c : Classifier}
    (h : r.classifyRecords false {} names = .ok (c, kept, ds)) (x : NodeId) :
    x ∈ c.nodes ↔ r.Leads names x := by
  obtain ⟨-, hall, hnone⟩ := classifyRecords_keeps h
  obtain rfl := (hall (hnone rfl)).symm
  obtain ⟨hclosed, -, hkept⟩ :=
    Classifier.classifyRecords_closes h fun _ hx => absurd hx List.not_mem_nil
  constructor
  · intro hx
    have hroots : List.Forall₂ (fun name root => r.registry.get? name = some root) names
        (names.map fun name => (r.registry.get? name).getD 0) := by
      refine List.forall₂_map_right_iff.mpr (List.forall₂_same.mpr fun name hname => ?_)
      obtain ⟨root, hroot, -⟩ := hkept name hname
      rw [hroot]
      rfl
    rcases Classifier.classifyRecords_tracks hr hroots (Classifier.Synced.start r.arena)
      (fun _ he => absurd he List.not_mem_nil) with ⟨c', kept, hrun, hs⟩ | ⟨failure, hrun, -⟩
    · rw [h] at hrun
      obtain ⟨rfl, -⟩ := Prod.mk.inj (Except.ok.inj hrun)
      obtain ⟨root, hroot, hreach⟩ := Arena.reaches_of_mem_walk ((hs.mem_iff x).mpr (.inl hx))
      obtain ⟨name, hname, hget⟩ := exists_of_forall₂ hroots.flip hroot
      exact ⟨name, hname, root, hget, hreach⟩
    · rw [h] at hrun
      cases hrun
  · rintro ⟨name, hname, root, hroot, hreach⟩
    induction hreach with
    | refl =>
      obtain ⟨id, hid, hmem⟩ := hkept name hname
      rwa [Option.some.inj (hid.symm.trans hroot)] at hmem
    | tail _ hyz ih => exact (hclosed _ ih _ hyz).resolve_right List.not_mem_nil

/-- A classification from the start leaves right verdicts. -/
theorem Sound.good (hr : r.Sound) {names kept : List String} {c : Classifier}
    (h : r.classifyRecords false {} names = .ok (c, kept, ds)) :
    Classifier.Good r.arena r.registry.entries r.catalog c :=
  Classifier.good_classifyRecords hr hr.bears (fun _ he => absurd he List.not_mem_nil) h

/-- A schema that leaves nothing out comes from a classification of all the records asked for. -/
theorem exists_classifier (hs : r.schema names false = .ok (s, ds)) :
    ∃ c, r.classifyRecords false {} (names.getD r.registry.order) =
        .ok (c, names.getD r.registry.order, []) ∧ ds = [] ∧
      s = ⟨c.arena r.arena, r.registry.entries.filter fun e =>
        (names.getD r.registry.order).contains e.1⟩ := by
  obtain ⟨⟨c, kept, ds'⟩, hrun, heq⟩ := Outcome.map_eq_ok.mp hs
  obtain ⟨-, hall, hnone⟩ := classifyRecords_keeps hrun
  obtain rfl := hnone rfl
  obtain rfl := (hall rfl).symm
  obtain ⟨rfl, rfl⟩ := Prod.mk.inj heq
  exact ⟨c, hrun, rfl, rfl⟩

/-- What is told of a node depends on the records asked for, not on their order. -/
theorem Sound.mark_congr (hr : r.Sound) {names names' : List String} {c c' : Classifier}
    (h : r.classifyRecords false {} names = .ok (c, names, []))
    (h' : r.classifyRecords false {} names' = .ok (c', names', []))
    (hnames : ∀ name, name ∈ names' ↔ name ∈ names) {x : NodeId} {n : Node}
    (hn : r.arena.get? x = some n) : c'.mark x n = c.mark x n := by
  have hmem : x ∈ c'.nodes ↔ x ∈ c.nodes := by
    rw [mem_nodes_iff hr h, mem_nodes_iff hr h']
    simp only [Leads, hnames]
  by_cases hx : x ∈ c.nodes
  · obtain ⟨hdynamic, hsize⟩ := ((hr.good h').describes hr.bears (hmem.mpr hx) hn).unique
      ((hr.good h).describes hr.bears hx hn) (by simp) (by simp)
    rw [Classifier.mark_eq, Classifier.mark_eq c, hdynamic, hsize]
  · rw [Classifier.mark_of_notMem hx, Classifier.mark_of_notMem (mt hmem.mp hx)]

/-- If a schema is built for some records, all nodes that these lead to are classified: each tells
whether it is dynamic, and its size. All other nodes are those of the resolution, and so are these
but for what they tell. The schema does not depend on the order in which the records are asked for.
-/
theorem Reached.schema_describes (h : r.Reached units)
    (hs : r.schema names false = .ok (s, ds)) :
    (∀ name ∈ names.getD r.registry.order, ∃ root, r.registry.get? name = some root) ∧
    (∀ x, r.Leads (names.getD r.registry.order) x →
      ∃ n, s.arena.get? x = some n ∧ r.arena.Describes x n) ∧
    (∀ x, ¬r.Leads (names.getD r.registry.order) x → s.arena.get? x = r.arena.get? x) ∧
    s.arena.nodes.map Node.bare = r.arena.nodes.map Node.bare ∧
    ∀ names' s' ds', (∀ name, name ∈ names'.getD r.registry.order ↔
      name ∈ names.getD r.registry.order) → r.schema names' false = .ok (s', ds') →
        (s', ds') = (s, ds) := by
  obtain ⟨c, hrun, rfl, rfl⟩ := exists_classifier hs
  have hgood := h.sound.good hrun
  refine ⟨fun name hname => ?_, fun x hx => ?_, fun x hx => ?_, c.map_bare_arena r.arena, ?_⟩
  · obtain ⟨-, -, hkept⟩ :=
      Classifier.classifyRecords_closes hrun fun _ hx => absurd hx List.not_mem_nil
    obtain ⟨root, hroot, -⟩ := hkept name hname
    exact ⟨root, hroot⟩
  · have hmem := (mem_nodes_iff h.sound hrun x).mpr hx
    obtain ⟨e, he, rfl⟩ := List.mem_map.mp hmem
    obtain ⟨t, ht, -⟩ := hgood e he
    obtain ⟨n, hn⟩ := ht.get?
    exact ⟨_, by rw [Classifier.get?_arena, hn]; rfl, hgood.describes h.sound.bears hmem hn⟩
  · have hmem := mt (mem_nodes_iff h.sound hrun x).mp hx
    rw [Classifier.get?_arena]
    cases r.arena.get? x with
    | none => rfl
    | some n => exact congrArg some (Classifier.mark_of_notMem hmem)
  · rintro names' s' ds' hnames hs'
    obtain ⟨c', hrun', rfl, rfl⟩ := exists_classifier hs'
    have harena : c'.arena r.arena = c.arena r.arena := by
      refine Arena.ext_get? fun x => ?_
      rw [Classifier.get?_arena, Classifier.get?_arena]
      exact Option.map_congr fun n hn => h.sound.mark_congr hrun hrun' hnames hn
    have hkept (e : String × NodeId) : (names'.getD r.registry.order).contains e.1 =
        (names.getD r.registry.order).contains e.1 :=
      Bool.eq_iff_iff.mpr (by simpa only [List.contains_iff_mem] using hnames e.1)
    simp only [harena, hkept]

/-- A record with a list of one that contains it, in both orders. -/
theorem schema_describes_pair : ∃ s,
    (pairResolution [pairListField]).schema (some ["A", "B"]) false = .ok (s, []) ∧
    (pairResolution [pairListField]).schema (some ["B", "A"]) false = .ok (s, []) ∧
    ∃ n, s.arena.get? 0 = some n ∧ (pairResolution [pairListField]).arena.Describes 0 n := by
  obtain ⟨⟨s, ds⟩, hs⟩ := Outcome.exists_eq_ok (m := (pairResolution [pairListField]).schema
    (some ["A", "B"]) false) (by decide +kernel)
  obtain ⟨⟨s', ds'⟩, hs'⟩ := Outcome.exists_eq_ok (m := (pairResolution [pairListField]).schema
    (some ["B", "A"]) false) (by decide +kernel)
  obtain ⟨-, hdescribes, -, -, hsame⟩ := Reached.schema_describes reached_pairResolution hs
  obtain ⟨-, -, rfl, -⟩ := exists_classifier hs
  rw [hsame _ _ _ (by simp [or_comm]) hs'] at hs'
  exact ⟨s, hs, hs', hdescribes 0 ⟨"A", by decide, 0, by decide +kernel, .refl⟩⟩

end Resolution

end SszSchema
