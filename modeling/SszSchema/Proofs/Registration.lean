import Mathlib.Data.List.Nodup
import Mathlib.Data.List.Perm.Subperm
import SszSchema.Proofs.DeclaredTypes
import SszSchema.Proofs.Unfolding

/-!
# Registered records

What every resolution keeps to, whether its steps succeed or fail (`Resolution.Sound`): registered
names differ and are declared, and the node of a registered record is a container of that name with
the declared fields, whose types end in registered records (`Arena.Matches`). Records that are being
resolved keep to the same together with the registered ones, once their nodes are filled, which is
why they can be registered all at once. Names whose resolution has failed are doomed.

While a record is open, steps only add nodes and open records (`Resolution.Extends`), so what has
been resolved of its fields stays as it is. Those that return leave no node reserved that was not
reserved before (`Resolution.Completes`).
-/

namespace SszSchema

/-! ## Growing graphs -/

/-- Nodes stay as they are, but for the fields of containers. -/
def Arena.Keeps (a b : Arena) : Prop :=
  ∀ id n, a.get? id = some n → b.get? id = some n ∨
    n.kind = .container ∧ ∃ n', b.get? id = some n' ∧ n'.kind = .container ∧ n'.record = n.record

namespace Arena.Keeps

variable {a b : Arena}

theorem refl (a : Arena) : a.Keeps a := fun _ _ h => .inl h

theorem get?_of_kind (h : a.Keeps b) {id : NodeId} {n : Node} (hn : a.get? id = some n)
    (hk : n.kind ≠ .container) : b.get? id = some n :=
  (h id n hn).resolve_right fun hc => hk hc.1

theorem get?_of_container (h : a.Keeps b) {id : NodeId} {n : Node} (hn : a.get? id = some n)
    (hk : n.kind = .container) :
    ∃ n', b.get? id = some n' ∧ n'.kind = .container ∧ n'.record = n.record := by
  rcases h id n hn with h | ⟨-, h⟩
  · exact ⟨n, h, hk, rfl⟩
  · exact h

end Arena.Keeps

/-- A type stays when the graph grows. -/
theorem TypeOf.mono {a b : Arena} {entries entries' : List (String × NodeId)} (hab : a.Keeps b)
    (hsub : entries ⊆ entries') {id : NodeId} {t : SszType} (h : TypeOf a entries id t) :
    TypeOf b entries' id t := by
  induction h with
  | uint hn hk hw => exact .uint (hab.get?_of_kind hn (by simp [hk])) hk hw
  | bool hn hk hw => exact .bool (hab.get?_of_kind hn (by simp [hk])) hk hw
  | fixedBytes hn hk hl => exact .fixedBytes (hab.get?_of_kind hn (by simp [hk])) hk hl
  | boundedBytes hn hk hl hm => exact .boundedBytes (hab.get?_of_kind hn (by simp [hk])) hk hl hm
  | bitVector hn hk hl => exact .bitVector (hab.get?_of_kind hn (by simp [hk])) hk hl
  | packedBits hn hk he hp => exact .packedBits (hab.get?_of_kind hn (by simp [hk])) hk he hp
  | bitList hn hk he hp => exact .bitList (hab.get?_of_kind hn (by simp [hk])) hk he hp
  | vector hn hk hl hpos he hlt _ ih =>
    exact .vector (hab.get?_of_kind hn (by simp [hk])) hk hl hpos he hlt ih
  | list hn hk hm he hlt _ ih => exact .list (hab.get?_of_kind hn (by simp [hk])) hk hm he hlt ih
  | record hn hk hr he =>
    obtain ⟨n', hn', hk', hr'⟩ := hab.get?_of_container hn hk
    exact .record hn' hk' (hr'.trans hr) (hsub he)

namespace Arena

theorem get?_add_of_some {a : Arena} {id : NodeId} {n m : Node} (h : a.get? id = some n) :
    (a.add m).1.get? id = some n := by
  have hlt : id < a.nodes.length := (List.getElem?_eq_some_iff.mp h).1
  simpa [add, get?, List.getElem?_append_left hlt] using h

theorem get?_add_size (a : Arena) (m : Node) : (a.add m).1.get? a.size = some m := by
  simp [add, get?, size]

theorem keeps_add (a : Arena) (m : Node) : a.Keeps (a.add m).1 :=
  fun _ _ h => .inl (get?_add_of_some h)

theorem lt_size_of_get? {a : Arena} {id : NodeId} {n : Node} (h : a.get? id = some n) :
    id < a.size :=
  (List.getElem?_eq_some_iff.mp h).1

theorem get?_set_self {a : Arena} {id : NodeId} {n m : Node} (h : a.get? id = some n) :
    (a.set id m).get? id = some m := by
  simp [set, get?, List.getElem?_set_self (lt_size_of_get? h)]

theorem get?_set_of_ne {a : Arena} {id id' : NodeId} (m : Node) (h : id ≠ id') :
    (a.set id m).get? id' = a.get? id' := by
  simp [set, get?, List.getElem?_set_ne h]

/-- Filling a container leaves its kind and its record. -/
theorem keeps_set {a : Arena} {id : NodeId} {n m : Node} (hn : a.get? id = some n)
    (hk : n.kind = .container) (hk' : m.kind = .container) (hr : m.record = n.record) :
    a.Keeps (a.set id m) := by
  intro id' n' hn'
  by_cases h : id = id'
  · subst h
    obtain rfl := Option.some.inj (hn.symm.trans hn')
    exact .inr ⟨hk, m, get?_set_self hn, hk', hr⟩
  · exact .inl ((get?_set_of_ne m h).trans hn')

end Arena

/-- The node of a record stays as it is when the graph grows elsewhere. -/
theorem Arena.Holds.mono {a b : Arena} {entries entries' : List (String × NodeId)} (hab : a.Keeps b)
    (hsub : entries ⊆ entries') {e : String × NodeId}
    (hsame : ∀ n, a.get? e.2 = some n → b.get? e.2 = some n) (h : a.Holds entries e) :
    b.Holds entries' e := by
  obtain ⟨n, hn, hk, hr, hf⟩ := h
  refine ⟨n, hsame n hn, hk, hr, fun f hmem => ?_⟩
  obtain ⟨t, ht⟩ := hf f hmem
  exact ⟨t, ht.mono hab hsub⟩

/-- A declared field and the field that stands for it: name and line are the same, and the node has
the declared type. -/
def FieldDecl.Matches (a : Arena) (entries : List (String × NodeId)) (f : FieldDecl)
    (g : FieldRef) : Prop :=
  g.name = f.name ∧ g.line = f.line ∧ ∃ t, f.type? = some t ∧ TypeOf a entries g.node t

/-- The node of a record is a container that bears its name and has the declared fields. -/
def Arena.Matches (a : Arena) (units : List SourceUnit) (entries : List (String × NodeId))
    (e : String × NodeId) : Prop :=
  ∃ d n, declared? units e.1 = some d ∧ a.get? e.2 = some n ∧ n.kind = .container ∧
    n.record = some e.1 ∧ List.Forall₂ (FieldDecl.Matches a entries) d.fields n.fields

namespace Arena

variable {a b : Arena} {units : List SourceUnit} {entries entries' : List (String × NodeId)}
  {e : String × NodeId}

theorem Matches.mono (hab : a.Keeps b) (hsub : entries ⊆ entries')
    (hsame : ∀ n, a.get? e.2 = some n → b.get? e.2 = some n) (h : a.Matches units entries e) :
    b.Matches units entries' e := by
  obtain ⟨d, n, hd, hn, hk, hr, hf⟩ := h
  refine ⟨d, n, hd, hsame n hn, hk, hr, hf.imp ?_⟩
  rintro f g ⟨hname, hline, t, ht, htype⟩
  exact ⟨hname, hline, t, ht, htype.mono hab hsub⟩

theorem Matches.holds (h : a.Matches units entries e) : a.Holds entries e := by
  obtain ⟨d, n, -, hn, hk, hr, hf⟩ := h
  refine ⟨n, hn, hk, hr, fun g hg => ?_⟩
  obtain ⟨f, -, -, -, t, -, ht⟩ := exists_of_forall₂ hf.flip hg
  exact ⟨t, ht⟩

/-- A graph that only grows keeps its nodes. -/
theorem get?_of_nodes (h : a.nodes <+: b.nodes) {id : NodeId} {n : Node} (hn : a.get? id = some n) :
    b.get? id = some n := by
  obtain ⟨more, hmore⟩ := h
  have hlt : id < a.nodes.length := lt_size_of_get? hn
  simpa [get?, ← hmore, List.getElem?_append_left hlt] using hn

theorem keeps_of_nodes (h : a.nodes <+: b.nodes) : a.Keeps b := fun _ _ hn =>
  .inl (get?_of_nodes h hn)

end Arena

/-- A node that has not been classified has what its kind needs and nothing else. -/
inductive Node.Plain : Node → Prop
  | uint (width : Nat) : Plain { kind := .uint, width := some width }
  | bool : Plain { kind := .bool, width := some 1 }
  | fixedBytes (length : Nat) : Plain { kind := .bytes, length := some length }
  | boundedBytes (limit : Nat) : Plain { kind := .bytes, limit := some limit }
  | bitVector (length : Nat) : Plain { kind := .bitVector, length := some length }
  | packedBits (limit : Option Nat) : Plain { kind := .bitList, limit, packed := true }
  | bitList (limit : Option Nat) : Plain { kind := .bitList, limit }
  | vector (length : Nat) (element : NodeId) :
      Plain { kind := .vector, length := some length, element := some element }
  | list (limit : Nat) (element : NodeId) :
      Plain { kind := .list, limit := some limit, element := some element }
  | container (record : String) (fields : List FieldRef) :
      Plain { kind := .container, record := some record, fields }

/-! ## The invariant -/

namespace Resolution

/-- The records that have nodes: the registered ones and those that are being resolved. -/
def known (r : Resolution) : List (String × NodeId) := r.registry.entries ++ r.pending

/-- What holds of every resolution. -/
structure Sound (r : Resolution) : Prop where
  complete : ∀ e ∈ r.registry.entries, r.arena.Matches r.units r.registry.entries e
  opened : ∀ e ∈ r.pending, r.arena.Holds r.known e
  distinct : (r.known.map (·.1)).Nodup
  declared : ∀ e ∈ r.known, e.1 ∈ r.declared
  plain : ∀ n ∈ r.arena.nodes, n.Plain
  doomed : ∀ e ∈ r.failed, Doomed r.units e.1

/-- Nodes are only added, and the open records stay open. -/
structure Extends (r r' : Resolution) : Prop where
  nodes : r.arena.nodes <+: r'.arena.nodes
  pending : r.pending <+: r'.pending
  registry : r'.registry = r.registry
  failed : r'.failed = r.failed
  units : r'.units = r.units

/-- Of the records opened since, all have been resolved. -/
structure Completes (r r' : Resolution) : Prop extends r.Extends r' where
  filled : ∀ e ∈ r'.pending, e ∈ r.pending ∨ r'.arena.Matches r'.units r'.known e

/-- The node has a type whose records all have nodes. -/
def Typed (r : Resolution) (id : NodeId) : Prop := ∃ t, TypeOf r.arena r.known id t

/-- There is a type, and the node has it. -/
def HasType (r : Resolution) (id : NodeId) (t? : Option SszType) : Prop :=
  ∃ t, t? = some t ∧ TypeOf r.arena r.known id t

variable {r r' r'' r₀ : Resolution}

theorem Extends.refl (r : Resolution) : r.Extends r :=
  ⟨List.prefix_refl _, List.prefix_refl _, rfl, rfl, rfl⟩

theorem Extends.trans (h : r.Extends r') (h' : r'.Extends r'') : r.Extends r'' :=
  ⟨h.nodes.trans h'.nodes, h.pending.trans h'.pending, h'.registry.trans h.registry,
    h'.failed.trans h.failed, h'.units.trans h.units⟩

theorem Extends.keeps (h : r.Extends r') : r.arena.Keeps r'.arena := Arena.keeps_of_nodes h.nodes

theorem Extends.known_subset (h : r.Extends r') : r.known ⊆ r'.known := by
  intro e he
  rw [known, h.registry]
  rcases List.mem_append.mp he with he | he
  · exact List.mem_append_left _ he
  · exact List.mem_append_right _ (h.pending.subset he)

/-- What has the declared fields keeps them. -/
theorem Extends.matches (h : r.Extends r') {e : String × NodeId}
    (he : r.arena.Matches r.units r.known e) : r'.arena.Matches r'.units r'.known e := by
  rw [h.units]
  exact he.mono h.keeps h.known_subset fun _ => Arena.get?_of_nodes h.nodes

theorem Completes.refl (r : Resolution) : r.Completes r := ⟨.refl r, fun _ => .inl⟩

theorem Completes.trans (h : r.Completes r') (h' : r'.Completes r'') : r.Completes r'' where
  toExtends := h.toExtends.trans h'.toExtends
  filled e he := (h'.filled e he).elim
    (fun he => (h.filled e he).imp id h'.toExtends.matches) .inr

theorem HasType.mono {id : NodeId} {t? : Option SszType} (h : r.Extends r') (ht : r.HasType id t?) :
    r'.HasType id t? := by
  obtain ⟨t, hsome, ht⟩ := ht
  exact ⟨t, hsome, ht.mono h.keeps h.known_subset⟩

/-- Nothing has been resolved at first. -/
theorem eq_of_ofUnits {units : List SourceUnit} (h : Resolution.ofUnits units = .ok r) :
    r = { units } := by
  unfold Resolution.ofUnits at h
  split at h
  · cases h
  · exact (Except.ok.inj h).symm

theorem Sound.ofUnits {units : List SourceUnit} (h : Resolution.ofUnits units = .ok r) :
    r.Sound := by
  obtain rfl := eq_of_ofUnits h
  exact ⟨nofun, nofun, List.nodup_nil, fun _ he => absurd he List.not_mem_nil,
    fun _ hn => absurd hn List.not_mem_nil, nofun⟩

theorem Sound.registered (h : r.Sound) :
    ∀ e ∈ r.registry.entries, r.arena.Holds r.registry.entries e :=
  fun e he => (h.complete e he).holds

theorem Sound.unmarked (h : r.Sound) : ∀ n ∈ r.arena.nodes, n.isDynamic = none := by
  intro n hn
  cases h.plain n hn <;> rfl

/-- The node of a known record, whose fields all have types. -/
theorem Sound.holds (h : r.Sound) {e : String × NodeId} (he : e ∈ r.known) :
    r.arena.Holds r.known e := by
  rcases List.mem_append.mp he with he' | he'
  · exact (h.registered e he').mono (.refl _) (List.subset_append_left _ _) fun _ hn => hn
  · exact h.opened e he'

/-- Two known records with one node are the same. -/
theorem Sound.eq_of_node_eq (h : r.Sound) {e e' : String × NodeId} (he : e ∈ r.known)
    (he' : e' ∈ r.known) (hid : e.2 = e'.2) : e = e' := by
  obtain ⟨n, hn, -, hr, -⟩ := h.holds he
  obtain ⟨n', hn', -, hr', -⟩ := h.holds he'
  rw [hid, hn'] at hn
  obtain rfl := Option.some.inj hn
  exact Prod.ext (Option.some.inj (hr.symm.trans hr')) hid

/-- A record that has a node has its type. -/
theorem Sound.typeOf_record (h : r.Sound) {name : String} {id : NodeId}
    (hid : (name, id) ∈ r.known) : TypeOf r.arena r.known id (.record name) := by
  obtain ⟨n, hn, hk, hr, -⟩ := h.holds hid
  exact .record hn hk hr hid

theorem registered_nodup (h : r.Sound) : (r.registry.entries.map (·.1)).Nodup := by
  have hdistinct := h.distinct
  rw [known, List.map_append, List.nodup_append] at hdistinct
  exact hdistinct.1

/-- No more records are open than are declared. -/
theorem Sound.length_pending_le (h : r.Sound) :
    r.pending.length ≤ (SszSchema.declarations r.units).length := by
  have hdistinct := h.distinct
  rw [known, List.map_append, List.nodup_append] at hdistinct
  have hsub : r.pending.map (·.1) ⊆ r.declared := by
    intro name hname
    obtain ⟨e, he, rfl⟩ := List.mem_map.mp hname
    exact h.declared e (List.mem_append_right _ he)
  have hlength := (List.subperm_of_subset hdistinct.2.1 hsub).length_le
  simpa [Resolution.declared, declarations] using hlength

/-! ## Primitive steps -/

theorem Sound.add (h : r.Sound) {n : Node} (hn : n.Plain) :
    ({ r with arena := (r.arena.add n).1 } : Resolution).Sound where
  complete e he := (h.complete e he).mono (Arena.keeps_add _ n) (List.Subset.refl _)
    fun _ => Arena.get?_add_of_some
  opened e he := (h.opened e he).mono (Arena.keeps_add _ n) (List.Subset.refl _)
    fun _ => Arena.get?_add_of_some
  distinct := h.distinct
  declared := h.declared
  plain m hm := by
    rcases List.mem_append.mp hm with hm | hm
    · exact h.plain m hm
    · obtain rfl := List.mem_singleton.mp hm
      exact hn
  doomed := h.doomed

theorem completes_add (r : Resolution) (n : Node) :
    r.Completes { r with arena := (r.arena.add n).1 } :=
  ⟨⟨List.prefix_append _ _, List.prefix_refl _, rfl, rfl, rfl⟩, fun _ => .inl⟩

/-- The resolution after reserving a node for a record. -/
def reserved (r : Resolution) (name : String) : Resolution :=
  { r with
    arena := (r.arena.add { kind := .container, record := some name }).1
    pending := r.pending ++ [(name, r.arena.size)] }

theorem reserve_eq (r : Resolution) (name : String) :
    reserve name r = (.ok r.arena.size, r.reserved name) := rfl

theorem extends_reserved (r : Resolution) (name : String) : r.Extends (r.reserved name) :=
  ⟨List.prefix_append _ _, List.prefix_append _ _, rfl, rfl, rfl⟩

theorem mem_pending_reserved (r : Resolution) (name : String) :
    (name, r.arena.size) ∈ (r.reserved name).pending :=
  List.mem_append_right _ List.mem_cons_self

/-- Reserving a node for a new record. -/
theorem Sound.reserved (h : r.Sound) {name : String} (hname : name ∉ r.known.map (·.1))
    (hdeclared : name ∈ r.declared) : (r.reserved name).Sound := by
  have hadd := h.add (.container name [])
  refine ⟨hadd.complete, fun e he => ?_, ?_, fun e he => ?_, hadd.plain, hadd.doomed⟩
  · have hsub : r.known ⊆ (r.reserved name).known := (extends_reserved r name).known_subset
    rcases List.mem_append.mp he with he | he
    · exact (hadd.opened e he).mono (.refl _) hsub fun _ hn => hn
    · obtain rfl := List.mem_singleton.mp he
      exact ⟨_, Arena.get?_add_size _ _, rfl, rfl, nofun⟩
  · rw [known, Resolution.reserved, ← List.append_assoc, List.map_append, List.nodup_append]
    refine ⟨h.distinct, by simp, ?_⟩
    rintro x hx _ hy rfl
    rw [List.map_singleton, List.mem_singleton] at hy
    subst hy
    exact hname hx
  · rw [known, Resolution.reserved, ← List.append_assoc] at he
    rcases List.mem_append.mp he with he | he
    · exact h.declared e he
    · obtain rfl := List.mem_singleton.mp he
      exact hdeclared

/-- The resolution after filling the node of a record. -/
def filled (r : Resolution) (name : String) (id : NodeId) (fields : List FieldRef) : Resolution :=
  { r with arena := r.arena.set id { kind := .container, record := some name, fields } }

theorem fill_eq {name : String} {id : NodeId} {n : Node} (hn : r.arena.get? id = some n)
    (hreserved : Arena.isReserved n = true) (fields : List FieldRef) :
    fill name id fields r = (.ok (), r.filled name id fields) := by
  have hfill : r.arena.fill id { kind := .container, record := some name, fields } =
      .ok (r.arena.set id { kind := .container, record := some name, fields }) := by
    simp [Arena.fill, hn, hreserved]
  unfold fill
  rw [Stateful.run_get_bind, hfill]
  rfl

section

variable {name : String} {id : NodeId} {fields : List FieldRef}

/-- Filling the node of an open record leaves its kind and its record. -/
theorem Sound.keeps_filled (h : r.Sound) (hid : (name, id) ∈ r.pending) :
    r.arena.Keeps (r.filled name id fields).arena := by
  obtain ⟨old, hold, hk, hr, -⟩ := h.opened _ hid
  exact Arena.keeps_set hold hk rfl hr.symm

/-- No other record has the node that is filled. -/
theorem Sound.get?_filled_of_ne (h : r.Sound) (hid : (name, id) ∈ r.pending) {e : String × NodeId}
    (he : e ∈ r.known) (hne : e ≠ (name, id)) {n : Node} (hn : r.arena.get? e.2 = some n) :
    (r.filled name id fields).arena.get? e.2 = some n := by
  have hnode : id ≠ e.2 := fun heq =>
    hne (h.eq_of_node_eq he (List.mem_append_right _ hid) heq.symm)
  rw [filled, Arena.get?_set_of_ne _ hnode]
  exact hn

/-- The filled node has the declared fields if they all have. -/
theorem Sound.matches_filled (h : r.Sound) (hid : (name, id) ∈ r.pending) {d : RecordDecl}
    (hd : declared? r.units name = some d)
    (hfields : List.Forall₂ (FieldDecl.Matches r.arena r.known) d.fields fields) :
    (r.filled name id fields).arena.Matches r.units r.known (name, id) := by
  obtain ⟨old, hold, -⟩ := h.opened _ hid
  refine ⟨d, _, hd, Arena.get?_set_self hold, rfl, rfl, hfields.imp ?_⟩
  rintro f g ⟨hname, hline, t, ht, htype⟩
  exact ⟨hname, hline, t, ht, htype.mono (h.keeps_filled hid) (List.Subset.refl _)⟩

/-- Filling the node of an open record with the declared fields. -/
theorem Sound.filled (h : r.Sound) (hid : (name, id) ∈ r.pending) {d : RecordDecl}
    (hd : declared? r.units name = some d)
    (hfields : List.Forall₂ (FieldDecl.Matches r.arena r.known) d.fields fields) :
    (r.filled name id fields).Sound := by
  have hkeeps : r.arena.Keeps (r.filled name id fields).arena := h.keeps_filled hid
  refine ⟨fun e he => ?_, fun e he => ?_, h.distinct, h.declared, fun n hn => ?_, h.doomed⟩
  · have hne : e ≠ (name, id) := by
      rintro rfl
      have hdistinct := h.distinct
      rw [known, List.map_append, List.nodup_append] at hdistinct
      exact hdistinct.2.2 name (List.mem_map.mpr ⟨_, he, rfl⟩) name
        (List.mem_map.mpr ⟨_, hid, rfl⟩) rfl
    exact (h.complete e he).mono hkeeps (List.Subset.refl _) fun _ =>
      h.get?_filled_of_ne hid (List.mem_append_left _ he) hne
  · by_cases hne : e = (name, id)
    · subst hne
      exact (h.matches_filled hid hd hfields).holds
    · exact (h.opened e he).mono hkeeps (List.Subset.refl _) fun _ =>
        h.get?_filled_of_ne hid (List.mem_append_right _ he) hne
  · rcases List.mem_or_eq_of_mem_set hn with hn | rfl
    · exact h.plain n hn
    · exact .container name fields

end

/-- Registering all open records, once their nodes are filled. -/
theorem Sound.commit (h : r.Sound)
    (hfilled : ∀ e ∈ r.pending, r.arena.Matches r.units r.known e) :
    ({ r with registry := ⟨r.known⟩, pending := [] } : Resolution).Sound where
  complete e he := by
    rcases List.mem_append.mp he with he | he
    · exact (h.complete e he).mono (.refl _) (List.subset_append_left _ _) fun _ hn => hn
    · exact hfilled e he
  opened := nofun
  distinct := by simpa [known] using h.distinct
  declared e he := h.declared e (by simpa [known] using he)
  plain := h.plain
  doomed := h.doomed

/-- Giving up all open records for a doomed one. -/
theorem Sound.abandon (h : r.Sound) {name : String} (hdoomed : Doomed r.units name)
    (d : Diagnostic) :
    ({ r with pending := [], failed := r.failed ++ [(name, d)] } : Resolution).Sound where
  complete := h.complete
  opened := nofun
  distinct := by simpa [known] using registered_nodup h
  declared e he := h.declared e (List.mem_append_left _ (by simpa [known] using he))
  plain := h.plain
  doomed e he := by
    rcases List.mem_append.mp he with he | he
    · exact h.doomed e he
    · obtain rfl := List.mem_singleton.mp he
      exact hdoomed

/-- Open records are registered in order. -/
theorem foldlM_put {registry : Registry} {pending : List (String × NodeId)}
    (h : ((registry.entries ++ pending).map (·.1)).Nodup) :
    pending.foldlM (fun registry (name, id) => registry.put name id) registry =
      .ok ⟨registry.entries ++ pending⟩ := by
  induction pending generalizing registry with
  | nil => simp [pure, Except.pure]
  | cons e pending ih =>
    obtain ⟨name, id⟩ := e
    have hname : name ∉ registry.entries.map (·.1) := by
      rw [List.map_append, List.nodup_append] at h
      exact fun hmem => h.2.2 name hmem name List.mem_cons_self rfl
    have hput : registry.put name id = .ok ⟨registry.entries ++ [(name, id)]⟩ := by
      rw [Registry.put, Registry.contains_eq_false_iff.mpr hname, if_neg Bool.false_ne_true]
    have hrest := @ih ⟨registry.entries ++ [(name, id)]⟩ (by simpa using h)
    rw [List.foldlM_cons]
    change (registry.put name id >>= fun registry => _) = _
    rw [hput]
    simpa [bind, Except.bind] using hrest

theorem commit_eq (h : r.Sound) :
    commit r = (.ok (), { r with registry := ⟨r.known⟩, pending := [] }) := by
  have hfold := foldlM_put h.distinct
  unfold commit
  refine Stateful.bind_eq_ok.mpr ⟨r, r, Stateful.get_eq_ok.mpr ⟨rfl, rfl⟩, ?_⟩
  rw [hfold]
  exact Stateful.set_eq_ok.mpr rfl

end Resolution

end SszSchema
