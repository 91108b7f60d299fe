import SszSchema.Classification
import SszSchema.Proofs.Resolving
import SszSchema.Proofs.Stretches

/-!
# Verdicts

The verdict on a node is right for its type: what is called dynamic is dynamic, what is called fixed
has the size told, and a record's size is that of its fixed region (`Verdict.Settles`). This holds
although a record that is still open below a list passes for dynamic: it contains that list, and all
that is open between the two does as well (`Grounds`). A visit that fails leaves only right verdicts
behind, so later visits can rely on them.
-/

namespace SszSchema

open Catalog

/-- Each record has a node, whose fields have the types that the catalog tells. -/
def Arena.Bears (a : Arena) (entries : List (String × NodeId)) (env : Catalog) : Prop :=
  ∀ e ∈ entries, ∃ n fields, a.get? e.2 = some n ∧ n.kind = .container ∧ n.record = some e.1 ∧
    env e.1 = some fields ∧
    List.Forall₂ (fun (f : FieldRef) g => f.name = g.1 ∧ TypeOf a entries f.node g.2)
      n.fields fields

/-- Fields that have types. -/
theorem Arena.exists_fieldTypes {a : Arena} {entries : List (String × NodeId)} {fs : List FieldRef}
    (h : ∀ f ∈ fs, ∃ t, TypeOf a entries f.node t) :
    ∃ fields : Fields, List.Forall₂
      (fun (f : FieldRef) g => f.name = g.1 ∧ TypeOf a entries f.node g.2) fs fields := by
  induction fs with
  | nil => exact ⟨[], .nil⟩
  | cons f fs ih =>
    obtain ⟨⟨t, ht⟩, hfs⟩ := List.forall_mem_cons.mp h
    obtain ⟨fields, hfields⟩ := ih hfs
    exact ⟨(f.name, t) :: fields, .cons ⟨rfl, ht⟩ hfields⟩

/-- The registered records of a resolution have the types of its catalog. -/
theorem Resolution.Sound.bears {r : Resolution} (h : r.Sound) :
    r.arena.Bears r.registry.entries r.catalog := by
  rintro ⟨name, id⟩ he
  obtain ⟨n, hn, hk, hr, hf⟩ := h.registered _ he
  obtain ⟨fields, hfields⟩ := Arena.exists_fieldTypes hf
  refine ⟨n, fields, hn, hk, hr, ?_, hfields⟩
  have hget : r.registry.get? name = some id :=
    (Registry.get?_eq_some_iff (Resolution.registered_nodup h)).mpr he
  have htypes : r.arena.fieldTypes? n = some fields :=
    Outcome.mapM_eq_some_iff.mpr (hfields.imp fun f g ⟨hname, ht⟩ => by simp [ht.typeOf?_eq, hname])
  simp only [catalog, hget, Option.bind_eq_bind, Option.bind_some]
  rw [hn]
  exact htypes

namespace Verdict

variable {env : Catalog} {t : SszType} {v : Verdict}

/-- What is known of a type is right. -/
inductive Fits (env : Catalog) (t : SszType) : Verdict → Prop
  | fixed {size : Nat} (h : env.HasSize t size) : Fits env t (.fixed (some size))
  | dynamic {size : Option Nat} (h : env.IsDynamic t) : Fits env t ⟨true, size⟩

/-- What is known of a type is right. The size of a record is that of its fixed region, and no other
dynamic type has a size. -/
structure Settles (env : Catalog) (t : SszType) (v : Verdict) : Prop where
  fits : v.Fits env t
  region : ∀ name fields, t = .record name → env name = some fields →
    ∃ size, v.size = some size ∧ env.HasRegion fields size
  unsized : (∀ name, t ≠ .record name) → v.isDynamic = true → v.size = none

theorem Fits.isDynamic_iff (h : v.Fits env t) : v.isDynamic = true ↔ env.IsDynamic t := by
  cases h with
  | fixed h => exact ⟨nofun, fun hd => absurd hd h.not_isDynamic⟩
  | dynamic h => exact ⟨fun _ => h, fun _ => rfl⟩

theorem Fits.hasSize (h : v.Fits env t) (hd : v.isDynamic = false) :
    ∃ size, v.size = some size ∧ env.HasSize t size := by
  cases h with
  | fixed h => exact ⟨_, rfl, h⟩
  | dynamic => cases hd

theorem Fits.slot (h : v.Fits env t) : ∃ size, v.slot = some size ∧ env.HasSlot t size := by
  cases h with
  | fixed h => exact ⟨_, rfl, .inline h⟩
  | dynamic h => exact ⟨_, rfl, .offset h⟩

/-- A type of one size that is no record. -/
theorem settles_fixed {size : Nat} (h : env.HasSize t size) (ht : ∀ name, t ≠ .record name) :
    Settles env t (.fixed (some size)) :=
  ⟨.fixed h, fun name _ hname => absurd hname (ht name), nofun⟩

/-- A dynamic type that is no record. -/
theorem settles_dynamic (h : env.IsDynamic t) (ht : ∀ name, t ≠ .record name) :
    Settles env t .dynamic :=
  ⟨.dynamic h, fun name _ hname => absurd hname (ht name), fun _ _ => rfl⟩

end Verdict

namespace Classifier

/-- The sum of the fields of a container. -/
theorem foldlM_addSlots {verdicts : List Verdict} {slots : List Nat}
    (h : List.Forall₂ (fun v size => Verdict.slot v = some size) verdicts slots) (dynamic : Bool)
    (total : Nat) :
    (verdicts.foldlM (fun total v => do
      let sum ← total.size
      let slot ← v.slot
      return ⟨total.isDynamic || v.isDynamic, some (sum + slot)⟩) ⟨dynamic, some total⟩ :
        Option Verdict) =
      some ⟨dynamic || verdicts.any (·.isDynamic), some (total + slots.sum)⟩ := by
  induction h generalizing dynamic total with
  | nil => simp
  | @cons v _ _ _ hslot _ ih =>
    rw [List.foldlM_cons, hslot]
    simp only [Option.bind_eq_bind, Option.bind_some, Option.pure_def] at ih ⊢
    rw [ih]
    simp [Bool.or_assoc, Nat.add_assoc]

theorem addSlots_eq {verdicts : List Verdict} {slots : List Nat}
    (h : List.Forall₂ (fun v size => Verdict.slot v = some size) verdicts slots) :
    addSlots verdicts = some ⟨verdicts.any (·.isDynamic), some slots.sum⟩ := by
  have hsum := foldlM_addSlots h false 0
  rw [Bool.false_or, Nat.zero_add] at hsum
  exact hsum

/-! ## Where a visit stands -/

variable {a : Arena} {entries : List (String × NodeId)} {env : Catalog} {stack : Stack}
  {id child : NodeId} {t : SszType} {n : Node}

/-- The type of a node is dynamic. -/
def DynamicNode (a : Arena) (entries : List (String × NodeId)) (env : Catalog) (id : NodeId) :
    Prop :=
  ∃ t, TypeOf a entries id t ∧ env.IsDynamic t

theorem dynamicNode_iff (ht : TypeOf a entries id t) :
    DynamicNode a entries env id ↔ env.IsDynamic t := by
  constructor
  · rintro ⟨t', ht', hd⟩
    rwa [ht.unique ht']
  · exact fun hd => ⟨t, ht, hd⟩

/-- All open nodes outside the innermost list are dynamic, and if the node to visit is dynamic, then
so are all open nodes. -/
structure Grounds (a : Arena) (entries : List (String × NodeId)) (env : Catalog) (stack : Stack)
    (id : NodeId) : Prop where
  outside : ∀ i, some i ∈ stack → some i ∉ segment stack → DynamicNode a entries env i
  inside : DynamicNode a entries env id → ∀ i, some i ∈ stack → DynamicNode a entries env i

theorem Grounds.nil : Grounds a entries env [] id :=
  ⟨fun _ h => absurd h List.not_mem_nil, fun _ _ h => absurd h List.not_mem_nil⟩

/-- A part without a list between makes its node dynamic. -/
theorem Grounds.part (h : Grounds a entries env stack id)
    (hpart : DynamicNode a entries env child → DynamicNode a entries env id) :
    Grounds a entries env (some id :: stack) child where
  outside i hi hout := by
    rw [segment, List.takeWhile_cons_of_pos rfl, List.mem_cons, not_or] at hout
    exact h.outside i ((List.mem_cons.mp hi).resolve_left hout.1) hout.2
  inside hd i hi := by
    rcases List.mem_cons.mp hi with hi | hi
    · rw [Option.some.inj hi]
      exact hpart hd
    · exact h.inside (hpart hd) i hi

/-- A list is dynamic, and so is all that it stands in. -/
theorem Grounds.element (h : Grounds a entries env stack id) (hd : DynamicNode a entries env id) :
    Grounds a entries env (none :: some id :: stack) child := by
  have hall : ∀ i, some i ∈ none :: some id :: stack → DynamicNode a entries env i := by
    intro i hi
    rcases List.mem_cons.mp hi with hi | hi
    · cases hi
    · rcases List.mem_cons.mp hi with hi | hi
      · rw [Option.some.inj hi]
        exact hd
      · exact h.inside hd i hi
  exact ⟨fun i hi _ => hall i hi, fun _ => hall⟩

theorem Grounds.of_mem_parts (hb : a.Bears entries env) (hg : Grounds a entries env stack id)
    (hn : a.get? id = some n) (ht : TypeOf a entries id t) (hchild : child ∈ n.parts) :
    Grounds a entries env (some id :: stack) child := by
  refine hg.part fun hd => (dynamicNode_iff ht).mpr ?_
  rcases ht.of_mem_parts hn hchild with ⟨length, element, rfl, hc⟩ | ⟨name, rfl, he, f, hf, rfl⟩
  · exact .vector ((dynamicNode_iff hc).mp hd)
  · obtain ⟨n', fields, hn', -, -, hfields, hfs⟩ := hb _ he
    obtain rfl := Option.some.inj (hn.symm.trans hn')
    obtain ⟨g, hg, -, hgt⟩ := exists_of_forall₂ hfs hf
    exact .record hfields hg ((dynamicNode_iff hgt).mp hd)

theorem Grounds.of_mem_listed (hg : Grounds a entries env stack id) (hn : a.get? id = some n)
    (ht : TypeOf a entries id t) (hchild : child ∈ n.listed) :
    Grounds a entries env (none :: some id :: stack) child := by
  obtain ⟨limit, element, rfl, -⟩ := ht.of_mem_listed hn hchild
  exact hg.element ((dynamicNode_iff ht).mpr .list)

/-! ## Visits -/

/-- The verdicts on finished nodes are right. -/
def Good (a : Arena) (entries : List (String × NodeId)) (env : Catalog) (c : Classifier) : Prop :=
  ∀ e ∈ c.done, ∃ t, TypeOf a entries e.1 t ∧ e.2.Settles env t

theorem Good.get? {c : Classifier} (h : Good a entries env c) {v : Verdict}
    (hv : c.get? id = some v) (ht : TypeOf a entries id t) : v.Settles env t := by
  obtain ⟨⟨id', v'⟩, hfind, rfl⟩ := Option.map_eq_some_iff.mp hv
  obtain ⟨t', ht', hv'⟩ := h _ (List.mem_of_find?_eq_some hfind)
  have hid : id' = id := by simpa using List.find?_some hfind
  rw [hid] at ht'
  rwa [ht.unique ht']

/-- A step that keeps right verdicts, and returns a right one. -/
abbrev Judges (a : Arena) (entries : List (String × NodeId)) (env : Catalog) (m : Step Verdict)
    (R : Verdict → Prop) : Prop :=
  Triple (Good a entries env) m (fun v c => Good a entries env c ∧ R v)
    fun _ c => Good a entries env c

/-- Visits of nodes keep to the types. -/
def Visits (a : Arena) (entries : List (String × NodeId)) (env : Catalog)
    (visit : Stack → NodeId → Step Verdict) : Prop :=
  ∀ stack id t, TypeOf a entries id t → Grounds a entries env stack id →
    Judges a entries env (visit stack id) (·.Fits env t)

theorem fieldVerdicts_fits {visit : NodeId → Step Verdict} {fs : List FieldRef} {fields : Fields}
    (hfs : List.Forall₂ (fun (f : FieldRef) g => f.name = g.1 ∧ TypeOf a entries f.node g.2) fs
      fields)
    (hvisit : ∀ f ∈ fs, ∀ t, TypeOf a entries f.node t →
      Judges a entries env (visit f.node) (·.Fits env t)) :
    Triple (Good a entries env) (fieldVerdicts visit fs)
      (fun vs c => Good a entries env c ∧ List.Forall₂ (fun v g => v.Fits env g.2) vs fields)
      fun _ c => Good a entries env c := by
  induction hfs with
  | nil => exact .pure fun c hc => ⟨hc, .nil⟩
  | @cons f g fs fields hf _ ih =>
    obtain ⟨hfirst, hrest⟩ := List.forall_mem_cons.mp hvisit
    refine .bind (hfirst _ hf.2) fun v => .assume fun hv => ?_
    obtain ⟨size, hslot, -⟩ := hv.slot
    simp only [hslot, Option.isNone_some, Bool.false_eq_true, if_false]
    exact .bind (ih hrest) fun vs => .assume fun hvs => .pure fun c hc => ⟨hc, .cons hv hvs⟩

/-- The verdict on a record from those on its fields. -/
theorem settles_record {name : String} {fields : Fields} {vs : List Verdict}
    (hr : env name = some fields)
    (hvs : List.Forall₂ (fun v (g : String × SszType) => v.Fits env g.2) vs fields) :
    ∃ v, addSlots vs = some v ∧ v.Settles env (.record name) := by
  obtain ⟨slots, hslots, hfields⟩ := forall₂_comp_iff.mp (hvs.imp fun v g h => h.slot)
  have hregion : env.HasRegion fields slots.sum := hasRegion_iff.mpr ⟨slots, hfields.flip, rfl⟩
  have hdynamic : vs.any (·.isDynamic) = true ↔ env.IsDynamic (.record name) := by
    rw [isDynamic_record_iff hr, List.any_eq_true]
    constructor
    · rintro ⟨v, hv, hd⟩
      obtain ⟨g, hg, hfits⟩ := exists_of_forall₂ hvs hv
      exact ⟨g, hg, hfits.isDynamic_iff.mp hd⟩
    · rintro ⟨g, hg, hd⟩
      obtain ⟨v, hv, hfits⟩ := exists_of_forall₂ hvs.flip hg
      exact ⟨v, hv, hfits.isDynamic_iff.mpr hd⟩
  refine ⟨_, addSlots_eq hslots, ?_, ?_, ?_⟩
  · cases hany : vs.any (·.isDynamic) with
    | true => exact .dynamic (hdynamic.mp hany)
    | false =>
      refine .fixed (hregion.hasSize hr fun f hf hd => ?_)
      rw [hdynamic.mpr ((isDynamic_record_iff hr).mpr ⟨f, hf, hd⟩)] at hany
      cases hany
  · rintro name' fields' hname hr'
    obtain rfl := SszType.record.inj hname
    obtain rfl := Option.some.inj (hr.symm.trans hr')
    exact ⟨_, rfl, hregion⟩
  · exact fun hname => absurd rfl (hname name)

/-- The verdict on a node without parts is known at once. -/
theorem judge_leaf (hn : a.get? id = some n) (ht : TypeOf a entries id t)
    (hleaf : t.isLeaf = true) :
    ∃ v : Verdict, v.Settles env t ∧ ∀ visit stack, judge visit stack n = pure v := by
  unfold judge
  cases ht with
  | uint hn' hk hw =>
    obtain rfl := Option.some.inj (hn.symm.trans hn')
    exact ⟨_, Verdict.settles_fixed .uint nofun, fun _ _ => by rw [hk, hw]⟩
  | bool hn' hk hw =>
    obtain rfl := Option.some.inj (hn.symm.trans hn')
    exact ⟨_, Verdict.settles_fixed .bool nofun, fun _ _ => by rw [hk, hw]⟩
  | fixedBytes hn' hk hl =>
    obtain rfl := Option.some.inj (hn.symm.trans hn')
    exact ⟨_, Verdict.settles_fixed .fixedBytes nofun, fun _ _ => by rw [hk, hl]; rfl⟩
  | boundedBytes hn' hk hl =>
    obtain rfl := Option.some.inj (hn.symm.trans hn')
    exact ⟨.dynamic, Verdict.settles_dynamic .boundedBytes nofun,
      fun _ _ => by rw [hk, hl]; rfl⟩
  | bitVector hn' hk hl =>
    obtain rfl := Option.some.inj (hn.symm.trans hn')
    exact ⟨_, Verdict.settles_fixed .bitVector nofun, fun _ _ => by rw [hk, hl]⟩
  | packedBits hn' hk he =>
    obtain rfl := Option.some.inj (hn.symm.trans hn')
    exact ⟨.dynamic, Verdict.settles_dynamic .packedBits nofun, fun _ _ => by rw [hk, he]⟩
  | bitList hn' hk he =>
    obtain rfl := Option.some.inj (hn.symm.trans hn')
    exact ⟨.dynamic, Verdict.settles_dynamic .bitList nofun, fun _ _ => by rw [hk, he]⟩
  | vector => cases hleaf
  | list => cases hleaf
  | record => cases hleaf

/-- How a node of a type is judged: at once, by its element, or by its fields. What is made of
verdicts that fit is right. -/
inductive Judgement (a : Arena) (entries : List (String × NodeId)) (env : Catalog) (n : Node)
    (t : SszType) : Prop
  | leaf {v : Verdict} (hparts : n.parts = []) (hlisted : n.listed = []) (hv : v.Settles env t)
      (h : ∀ visit stack, judge visit stack n = pure v)
  | vector {child : NodeId} {u : SszType} {k : Verdict → Step Verdict} (hparts : n.parts = [child])
      (hlisted : n.listed = []) (hu : TypeOf a entries child u)
      (hv : ∀ v : Verdict, v.Fits env u → ∃ w : Verdict, k v = pure w ∧ w.Settles env t)
      (h : ∀ visit stack, judge visit stack n = visit stack child >>= k)
  | list {child : NodeId} {u : SszType} {w : Verdict} (hparts : n.parts = [])
      (hlisted : n.listed = [child]) (hu : TypeOf a entries child u) (hw : w.Settles env t)
      (h : ∀ visit stack, judge visit stack n = visit (none :: stack) child >>= fun _ => pure w)
  | record {fields : Fields} {k : List Verdict → Step Verdict} (hkind : n.kind = .container)
      (hfs : List.Forall₂ (fun (f : FieldRef) g => f.name = g.1 ∧ TypeOf a entries f.node g.2)
        n.fields fields)
      (hv : ∀ vs : List Verdict,
        List.Forall₂ (fun v (g : String × SszType) => v.Fits env g.2) vs fields →
          ∃ w : Verdict, k vs = pure w ∧ w.Settles env t)
      (h : ∀ visit stack, judge visit stack n = fieldVerdicts (visit stack) n.fields >>= k)

theorem judgement (hb : a.Bears entries env) (hn : a.get? id = some n)
    (ht : TypeOf a entries id t) : Judgement a entries env n t := by
  cases hleaf : t.isLeaf with
  | true =>
    obtain ⟨hparts, hlisted⟩ := ht.parts_of_isLeaf hn hleaf
    obtain ⟨v, hv, hjudge⟩ := judge_leaf hn ht hleaf
    exact .leaf hparts hlisted hv hjudge
  | false =>
    cases ht with
    | vector hn' hk hl hpos he hlt h =>
      obtain rfl := Option.some.inj (hn.symm.trans hn')
      obtain ⟨hparts, hlisted⟩ := Node.parts_of_vector hk he
      refine .vector hparts hlisted h ?_ fun visit stack => by
        unfold judge
        rw [hk, he, hl]
        rfl
      rintro _ (hsize | hd)
      · exact ⟨_, rfl, Verdict.settles_fixed (.vector hsize) nofun⟩
      · exact ⟨_, rfl, Verdict.settles_dynamic (.vector hd) nofun⟩
    | list hn' hk hm he hlt h =>
      obtain rfl := Option.some.inj (hn.symm.trans hn')
      obtain ⟨hparts, hlisted⟩ := Node.parts_of_list hk he
      exact .list hparts hlisted h (Verdict.settles_dynamic .list nofun) fun visit stack => by
        unfold judge
        rw [hk, he]
    | record hn' hk hr he =>
      obtain rfl := Option.some.inj (hn.symm.trans hn')
      obtain ⟨n', fields, hn', -, -, hfields, hfs⟩ := hb _ he
      obtain rfl := Option.some.inj (hn.symm.trans hn')
      refine .record hk hfs ?_ fun visit stack => by
        unfold judge
        rw [hk]
      intro vs hvs
      obtain ⟨v, hv, hsettles⟩ := settles_record hfields hvs
      exact ⟨v, by rw [hv], hsettles⟩
    | _ => cases hleaf

/-- The verdict on a node is right if those on its parts are. -/
theorem judge_settles (hb : a.Bears entries env) {visit : Stack → NodeId → Step Verdict}
    (hvisit : Visits a entries env visit) (hn : a.get? id = some n) (ht : TypeOf a entries id t)
    (hg : Grounds a entries env stack id) :
    Judges a entries env (judge visit (some id :: stack) n) (·.Settles env t) := by
  have hparts {child : NodeId} (hchild : child ∈ n.parts) := hg.of_mem_parts hb hn ht hchild
  have hlisted {child : NodeId} (hchild : child ∈ n.listed) := hg.of_mem_listed hn ht hchild
  cases judgement hb hn ht with
  | leaf _ _ hv h =>
    rw [h]
    exact .pure fun c hc => ⟨hc, hv⟩
  | vector hpart _ hu hv h =>
    rw [h]
    refine .bind (hvisit _ _ _ hu (hparts (hpart ▸ List.mem_cons_self))) fun v =>
      .assume fun hfits => ?_
    obtain ⟨w, hw, hsettles⟩ := hv v hfits
    rw [hw]
    exact .pure fun c hc => ⟨hc, hsettles⟩
  | list _ helement hu hw h =>
    rw [h]
    refine .bind (hvisit _ _ _ hu (hlisted (helement ▸ List.mem_cons_self))) fun v =>
      .assume fun _ => .pure fun c hc => ⟨hc, hw⟩
  | record hkind hfs hv h =>
    rw [h]
    refine .bind (fieldVerdicts_fits hfs fun f hf t hft => ?_) fun vs => .assume fun hvs => ?_
    · refine hvisit _ _ _ hft (hparts ?_)
      rw [(Node.parts_of_container hkind).1]
      exact List.mem_map_of_mem hf
    · obtain ⟨w, hw, hsettles⟩ := hv vs hvs
      rw [hw]
      exact .pure fun c hc => ⟨hc, hsettles⟩

section

variable {I : Classifier → Prop} {S : NodeId → Classifier → Prop}
  {E : ClassifyFault → Classifier → Prop}

theorem fieldVerdicts_visits {visit : NodeId → Step Verdict} {fs : List FieldRef}
    (hfail : ∀ fault c, I c → E (.graph fault) c)
    (hvisit : ∀ f ∈ fs, ∀ seen : List NodeId, Triple (fun c => I c ∧ ∀ x ∈ seen, S x c)
      (visit f.node) (fun _ c => I c ∧ ∀ x ∈ f.node :: seen, S x c) E) (seen : List NodeId) :
    Triple (fun c => I c ∧ ∀ x ∈ seen, S x c) (fieldVerdicts visit fs)
      (fun _ c => I c ∧ ∀ x, x ∈ fs.map (·.node) ∨ x ∈ seen → S x c) E := by
  induction fs generalizing seen with
  | nil => exact .pure fun c hc => ⟨hc.1, fun x hx => hc.2 x (hx.resolve_left List.not_mem_nil)⟩
  | cons f fs ih =>
    obtain ⟨hf, hfs⟩ := List.forall_mem_cons.mp hvisit
    refine (hf seen).bind fun v => ?_
    split
    · exact .bind (Q := fun _ _ => False) (.throw fun c hc => hfail _ c hc.1) fun _ _ => False.elim
    · refine (ih hfs (f.node :: seen)).bind fun vs => .pure fun c hc => ⟨hc.1, fun x hx => ?_⟩
      exact hc.2 x (by simpa [or_assoc, or_left_comm] using hx)

/-- Judging a node takes visits of its parts, one by one, and of the element of a list inside new
bounds. What the visits keep holds afterwards, and what each reaches for the node that it is of. -/
theorem judge_visits {visit : Stack → NodeId → Step Verdict}
    (hfail : ∀ fault c, I c → E (.graph fault) c)
    (hparts : ∀ y ∈ n.parts, ∀ seen : List NodeId, Triple (fun c => I c ∧ ∀ x ∈ seen, S x c)
      (visit stack y) (fun _ c => I c ∧ ∀ x ∈ y :: seen, S x c) E)
    (hlisted : ∀ y ∈ n.listed, Triple I (visit (none :: stack) y) (fun _ c => I c ∧ S y c) E) :
    Triple I (judge visit stack n) (fun _ c => I c ∧ ∀ y ∈ n.parts ++ n.listed, S y c) E := by
  have hleaf (hrefs : n.parts ++ n.listed = []) (v : Verdict) :
      Triple I (pure v : Step Verdict) (fun _ c => I c ∧ ∀ y ∈ n.parts ++ n.listed, S y c) E := by
    rw [hrefs]
    exact .pure fun c hc => ⟨hc, List.forall_mem_nil _⟩
  have hstop {P : Classifier → Prop} {Q : Verdict → Classifier → Prop} (hP : ∀ c, P c → I c)
      (fault : GraphFault) : Triple P (fail fault : Step Verdict) Q E :=
    .throw fun c hc => hfail fault c (hP c hc)
  unfold judge
  cases hk : n.kind with
  | uint | bool | bytes => exact hleaf (by simp [Node.parts, Node.listed, hk]) _
  | bitVector =>
    dsimp only
    split
    · exact hleaf (by simp [Node.parts, Node.listed, hk]) _
    · exact hstop (fun _ => id) _
  | list | bitList =>
    cases he : n.element with
    | none => exact hleaf (by simp [Node.parts, Node.listed, hk, he]) _
    | some y =>
      have hrefs : n.parts ++ n.listed = [y] := by simp [Node.parts, Node.listed, hk, he]
      rw [hrefs]
      exact (hlisted y (by simp [Node.listed, hk, he])).bind fun _ => .pure fun c hc =>
        ⟨hc.1, List.forall_mem_singleton.mpr hc.2⟩
  | vector =>
    refine .bind (Q := fun _ c => I c ∧ ∀ y ∈ n.parts ++ n.listed, S y c) ?_ fun v => ?_
    · cases he : n.element with
      | some y =>
        have hrefs : n.parts ++ n.listed = [y] := by simp [Node.parts, Node.listed, hk, he]
        rw [hrefs]
        exact (hparts y (by simp [Node.parts, hk, he]) []).conseq
          (fun c hc => ⟨hc, List.forall_mem_nil _⟩) (fun _ _ hc => hc) fun _ _ h => h
      | none =>
        dsimp only [elementVerdict]
        split
        · exact hleaf (by simp [Node.parts, Node.listed, hk, he]) _
        · exact hstop (fun _ => id) _
    -- Whatever the element is, the verdict is made without further visits.
    · split
      · exact .pure fun _ => id
      · split
        · exact .pure fun _ => id
        · exact hstop (fun _ => And.left) _
  | container =>
    obtain ⟨hrefs, hnone⟩ := Node.parts_of_container hk
    rw [hrefs] at hparts
    rw [hrefs, hnone, List.append_nil]
    have hvisited : Triple I (fieldVerdicts (visit stack) n.fields)
        (fun _ c => I c ∧ ∀ y ∈ n.fields.map (·.node), S y c) E :=
      (fieldVerdicts_visits hfail (List.forall_mem_map.mp hparts) []).conseq
        (fun c hc => ⟨hc, List.forall_mem_nil _⟩)
        (fun _ c hc => ⟨hc.1, fun y hy => hc.2 y (.inl hy)⟩) fun _ _ h => h
    refine hvisited.bind fun vs => ?_
    split
    · exact .pure fun _ => id
    · exact hstop (fun _ => And.left) _

end

/-- How a visit finds a node: finished, open inside the innermost list or outside, or new. A finished
node has its verdict. An open one has no finite size if it is inside the list, and passes for dynamic
if it is outside. -/
inductive Encounter (a : Arena) (fuel : Nat) (stack : Stack) (id : NodeId) (c : Classifier) : Prop
  | finished {v : Verdict} (hget : c.get? id = some v)
      (h : visitWith a fuel stack id c = (.ok v, c))
  | inside (hget : c.get? id = none) (hopen : some id ∈ segment stack)
      (h : visitWith a fuel stack id c = (.error (.infinite (cycle a stack id)), c))
  | outside (hget : c.get? id = none) (hopen : some id ∈ stack) (hout : some id ∉ segment stack)
      (h : visitWith a fuel stack id c = (.ok .dynamic, c))
  | fresh (hget : c.get? id = none) (hopen : some id ∉ stack)

theorem encounter (a : Arena) (fuel : Nat) (stack : Stack) (id : NodeId) (c : Classifier) :
    Encounter a fuel stack id c := by
  cases hget : c.get? id with
  | some v =>
    refine .finished hget ?_
    unfold visitWith
    rw [Stateful.run_get_bind, hget]
    rfl
  | none =>
    by_cases hopen : some id ∈ stack
    · by_cases hsegment : some id ∈ segment stack
      · refine .inside hget hsegment ?_
        unfold visitWith
        rw [Stateful.run_get_bind, hget]
        simp only [List.contains_iff_mem.mpr hopen, List.contains_iff_mem.mpr hsegment, if_true]
        rfl
      · refine .outside hget hopen hsegment ?_
        unfold visitWith
        rw [Stateful.run_get_bind, hget]
        simp only [List.contains_iff_mem.mpr hopen, List.contains_iff_mem, hsegment, if_true,
          if_false]
        rfl
    · exact .fresh hget hopen

/-- A node met for the first time is judged by its parts. -/
theorem visitWith_of_fresh {fuel : Nat} {c : Classifier} (h : c.get? id = none)
    (hid : some id ∉ stack) (hn : a.get? id = some n) :
    visitWith a (fuel + 1) stack id c = (do
      let v ← judge (visitWith a fuel) (some id :: stack) n
      modify fun c => ⟨(id, v) :: c.done⟩
      return v : Step Verdict) c := by
  unfold visitWith
  rw [Stateful.run_get_bind, h]
  simp only [List.contains_iff_mem, hid, if_false, nodeOf, Arena.get, hn]
  rfl

theorem visitWith_zero_of_fresh {c : Classifier} (h : c.get? id = none)
    (hid : some id ∉ stack) (hn : a.get? id = some n) :
    visitWith a 0 stack id c = (.error (.graph .endless), c) := by
  unfold visitWith
  rw [Stateful.run_get_bind, h]
  simp only [List.contains_iff_mem, hid, if_false, nodeOf, Arena.get, hn]
  rfl

theorem visitWith_of_missing {fuel : Nat} {c : Classifier} (h : c.get? id = none)
    (hid : some id ∉ stack) (hn : a.get? id = none) :
    visitWith a fuel stack id c = (.error (.graph .outOfRange), c) := by
  unfold visitWith
  rw [Stateful.run_get_bind, h]
  simp only [List.contains_iff_mem, hid, if_false, nodeOf, Arena.get, hn]
  rfl

/-- Visits keep to the types if they do where nodes are met for the first time. -/
theorem visits_of_fresh {fuel : Nat}
    (h : ∀ stack id t n, TypeOf a entries id t → Grounds a entries env stack id →
      some id ∉ stack → a.get? id = some n →
      Triple (fun c => Good a entries env c ∧ c.get? id = none) (visitWith a fuel stack id)
        (fun v c => Good a entries env c ∧ v.Fits env t) fun _ c => Good a entries env c) :
    Visits a entries env (visitWith a fuel) := by
  intro stack id t ht hg c hc
  cases encounter a fuel stack id c with
  | finished hget hvisit =>
    rw [hvisit]
    exact ⟨hc, (hc.get? hget ht).fits⟩
  | inside _ _ hvisit =>
    rw [hvisit]
    exact hc
  | outside _ hopen hout hvisit =>
    rw [hvisit]
    exact ⟨hc, .dynamic ((dynamicNode_iff ht).mp (hg.outside id hopen hout))⟩
  | fresh hget hopen =>
    obtain ⟨n, hn⟩ := ht.get?
    exact h stack id t n ht hg hopen hn c ⟨hc, hget⟩

/-- A visit keeps right verdicts and returns one. -/
theorem visitWith_fits (hb : a.Bears entries env) (fuel : Nat) :
    Visits a entries env (visitWith a fuel) := by
  induction fuel with
  | zero =>
    refine visits_of_fresh fun stack id t n _ _ hopen hn c hc => ?_
    rw [visitWith_zero_of_fresh hc.2 hopen hn]
    exact hc.1
  | succ fuel ih =>
    refine visits_of_fresh fun stack id t n ht hg hopen hn c hc => ?_
    rw [visitWith_of_fresh hc.2 hopen hn]
    have hjudge := judge_settles hb ih hn ht hg
    refine hjudge.bind (fun v => .assume fun hv => ?_) c hc.1
    refine .bind (Q := fun _ c => Good a entries env c) (.update fun c hc => ?_)
      fun _ => .pure fun c hc => ⟨hc, hv.fits⟩
    exact List.forall_mem_cons.mpr ⟨⟨t, ht, hv⟩, hc⟩

/-! ## Schemas -/

theorem get?_markFrom (c : Classifier) (first : NodeId) (nodes : List Node) (i : Nat) :
    (c.markFrom first nodes)[i]? = nodes[i]?.map (c.mark (first + i)) := by
  induction nodes generalizing first i with
  | nil => simp [markFrom]
  | cons n nodes ih =>
    cases i with
    | zero => simp [markFrom]
    | succ i => simp [markFrom, ih, Nat.add_assoc, Nat.add_comm 1 i]

/-- The nodes of a classified graph bear the verdicts. -/
theorem get?_arena (c : Classifier) (a : Arena) (id : NodeId) :
    (c.arena a).get? id = (a.get? id).map (c.mark id) := by
  simpa [arena, Arena.get?] using get?_markFrom c 0 a.nodes id

/-- A classification keeps right verdicts, also those left behind by records that it drops. -/
theorem good_classifyRecords {r : Resolution} (hr : r.Sound)
    (hb : r.arena.Bears r.registry.entries env) {collect : Bool} {c c' : Classifier}
    {names kept : List String} {ds : List Diagnostic} (hc : Good r.arena r.registry.entries env c)
    (h : r.classifyRecords collect c names = .ok (c', kept, ds)) :
    Good r.arena r.registry.entries env c' := by
  induction names generalizing c kept ds with
  | nil =>
    obtain ⟨rfl, -⟩ := Prod.mk.inj (Except.ok.inj h)
    exact hc
  | cons name names ih =>
    unfold Resolution.classifyRecords at h
    split at h
    · cases h
    · case h_2 id hid =>
      have he := (Registry.get?_eq_some_iff (Resolution.registered_nodup hr)).mp hid
      obtain ⟨n, hn, hk, hrecord, -⟩ := hr.registered _ he
      have hvisit := visitWith_fits hb (r.arena.size + 1) [] id _
        (.record hn hk hrecord he) .nil c hc
      rcases hrun : visitWith r.arena (r.arena.size + 1) [] id c with ⟨fault | v, c₁⟩ <;>
        rw [hrun] at hvisit <;> rw [run, visit, hrun] at h
      · cases fault with
        | infinite records =>
          cases collect with
          | true =>
            obtain ⟨⟨c₂, kept₂, ds₂⟩, hrest, heq⟩ := Outcome.map_eq_ok.mp h
            obtain ⟨rfl, -⟩ := Prod.mk.inj heq
            exact ih hvisit hrest
          | false => cases h
        | graph fault => cases h
      · obtain ⟨⟨c₂, kept₂, ds₂⟩, hrest, heq⟩ := Outcome.map_eq_ok.mp h
        obtain ⟨rfl, -⟩ := Prod.mk.inj heq
        exact ih hvisit.1 hrest

end Classifier

/-- A classification that tells nothing keeps all records. It tells only of records of infinite
size, and of none if it stops at the first one. -/
theorem Resolution.classifyRecords_keeps {r : Resolution} {collect : Bool} {c c' : Classifier}
    {names kept : List String} {ds : List Diagnostic}
    (h : r.classifyRecords collect c names = .ok (c', kept, ds)) :
    (∀ d ∈ ds, d.kind = .infiniteSize) ∧ (ds = [] → kept = names) ∧
      (collect = false → ds = []) := by
  induction names generalizing c c' kept ds with
  | nil =>
    obtain ⟨-, rfl, rfl⟩ := by simpa using Except.ok.inj h
    exact ⟨List.forall_mem_nil _, fun _ => rfl, fun _ => rfl⟩
  | cons name names ih =>
    unfold classifyRecords at h
    split at h
    · cases h
    · split at h
      · obtain ⟨⟨_, kept', ds'⟩, hrest, heq⟩ := Outcome.map_eq_ok.mp h
        obtain ⟨-, rfl, rfl⟩ := by simpa using heq
        obtain ⟨hkind, hkept, hnone⟩ := ih hrest
        exact ⟨hkind, fun hds => congrArg (name :: ·) (hkept hds), hnone⟩
      · case h_2 cycle _ _ =>
        cases collect with
        | false => cases h
        | true =>
          obtain ⟨⟨_, kept', ds'⟩, hrest, heq⟩ := Outcome.map_eq_ok.mp h
          obtain ⟨-, rfl, rfl⟩ := by simpa using heq
          exact ⟨List.forall_mem_cons.mpr ⟨rfl, (ih hrest).1⟩, by simp, by simp⟩
      · cases h

/-- A schema is the graph of a resolution with right verdicts, and some of its records. -/
theorem Resolution.Sound.schema_eq_ok {r : Resolution} (hr : r.Sound) {env : Catalog}
    (hb : r.arena.Bears r.registry.entries env) {names : Option (List String)} {collect : Bool}
    {s : Schema} {ds : List Diagnostic} (h : r.schema names collect = .ok (s, ds)) :
    ∃ c : Classifier, Classifier.Good r.arena r.registry.entries env c ∧
      s.arena = c.arena r.arena ∧ s.records.Sublist r.registry.entries := by
  obtain ⟨⟨c, kept, ds⟩, hrun, heq⟩ := Outcome.map_eq_ok.mp h
  obtain ⟨rfl, -⟩ := Prod.mk.inj heq
  have hgood :=
    Classifier.good_classifyRecords hr hb (fun _ he => absurd he List.not_mem_nil) hrun
  exact ⟨c, hgood, rfl, List.filter_sublist⟩

end SszSchema
