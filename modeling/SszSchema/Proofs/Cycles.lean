import Mathlib.Data.List.Chain
import SszSchema.Declaration.Reading
import SszSchema.Proofs.BestEffort
import SszSchema.Proofs.FaultPlaces
import SszSchema.Proofs.Owners

/-!
# Reported cycles

A record that cannot be classified is reported with the records that contain each other, the first
at both ends. They are cut out of the stack of open nodes, which also has vectors, lists and the
bounds of lists on it. The cut is right: between the two ends no list is crossed, and of the nodes
between two records, all are vectors (`Classifier.Descent.inner`).

The two ends are a record, and not a vector inside one. A vector belongs to one node only, and that
one stands below it on the stack, so it would be met again before the vector is
(`Classifier.Descent.isContainer`).

Nodes without a name are left out of a cycle. All records that are read have names
(`SourceUnit.name_ne_empty`).

Main statement: the records that are told hold each other as they are declared, and the first one is
led to by the record that is being classified (`Resolution.Reached.schema_cycles`).
-/

namespace SszSchema

open Relation

/-- The record that a type holds outside all lists: itself, or that of the elements of a vector. -/
def SszType.held? : SszType → Option String
  | .vector _ element => element.held?
  | .record name => some name
  | _ => none

/-- A declared record has a field whose type holds another record. -/
def Embeds (units : List SourceUnit) (x y : String) : Prop :=
  ∃ d, declared? units x = some d ∧ ∃ f ∈ d.fields, ∃ t, f.type? = some t ∧ t.held? = some y

/-- The record of a node. -/
def Arena.record? (a : Arena) (id : NodeId) : Option String := (a.get? id).bind (·.record)

/-- Records that are read from a source have names. -/
theorem SourceUnit.name_ne_empty {source : String} {path : Path} {reserved : List String}
    {inPackage : Bool} {u : SourceUnit} (h : ofSource? source path reserved inPackage = some u) :
    ∀ record ∈ u.records, record.name ≠ "" := by
  obtain ⟨statements, -, hu⟩ := Option.bind_eq_some_iff.mp h
  cases hu
  intro record hrecord
  obtain ⟨statement, -, hdecl⟩ := List.mem_filterMap.mp hrecord
  cases statement with
  | record name =>
    dsimp only [RecordDecl.ofStatement?] at hdecl
    split at hdecl
    · case isTrue hexported =>
      split at hdecl
      · cases hdecl
      · cases hdecl
        rintro rfl
        cases hexported
    · cases hdecl
  | _ => cases hdecl

/-! ## The stack of open nodes -/

namespace Classifier

variable {α β : Type} {a : Arena} {root id x y : NodeId} {stack rest : Stack}
  {inside : List NodeId} {n : Node}

/-- A visit of some node has come to another one, with these nodes open. -/
inductive Descent (a : Arena) (root : NodeId) : Stack → NodeId → Prop
  | root : Descent a root [] root
  | part {stack : Stack} {x y : NodeId} (h : Descent a root stack x) (hopen : some x ∉ stack)
      (hxy : a.Contains x y) : Descent a root (some x :: stack) y
  | element {stack : Stack} {x y : NodeId} (h : Descent a root stack x) (hopen : some x ∉ stack)
      (hxy : a.Refers x y) : Descent a root (none :: some x :: stack) y

theorem Descent.reaches (h : Descent a root stack id) : ReflTransGen a.Refers root id := by
  induction h with
  | root => exact .refl
  | part _ _ hxy ih => exact ih.tail hxy.refers
  | element _ _ hxy ih => exact ih.tail hxy

theorem Descent.nodup (h : Descent a root stack id) : (opened stack).Nodup := by
  induction h with
  | root => exact List.nodup_nil
  | part _ hopen _ ih => exact List.nodup_cons.mpr ⟨mt mem_opened_iff.mp hopen, ih⟩
  | element _ hopen _ ih => exact List.nodup_cons.mpr ⟨mt mem_opened_iff.mp hopen, ih⟩

/-- An open node inside the innermost list, with the nodes that were opened after it. -/
theorem exists_of_mem_segment (h : some id ∈ segment stack) :
    ∃ (inside : List NodeId) (rest : Stack),
      stack = inside.map some ++ some id :: rest ∧ id ∉ inside := by
  induction stack with
  | nil => cases h
  | cons i stack ih =>
    cases i with
    | none => cases h
    | some x =>
      by_cases hx : id = x
      · exact ⟨[], stack, by rw [hx]; rfl, List.not_mem_nil⟩
      · rw [segment_some] at h
        have htail := (List.mem_cons.mp h).resolve_left fun heq => hx (Option.some.inj heq)
        obtain ⟨inside, rest, rfl, hid⟩ := ih htail
        exact ⟨x :: inside, rest, rfl, List.not_mem_cons_of_ne_of_not_mem hx hid⟩

/-- The records of a cycle are those of the nodes from one occurrence of a node to the next. -/
theorem cycle_eq (hid : id ∉ inside) : cycle a (inside.map some ++ some id :: rest) id =
    ((id :: (inside.reverse ++ [id])).filterMap a.record?).filter (· ≠ "") := by
  have htake : (inside.map some ++ some id :: rest).takeWhile (· != some id) = inside.map some := by
    rw [List.takeWhile_append_of_pos, List.takeWhile_cons_of_neg, List.append_nil]
    · simp
    · rintro _ hmem
      obtain ⟨x, hx, rfl⟩ := List.mem_map.mp hmem
      simpa using fun heq : x = id => hid (heq ▸ hx)
  have hids : (some id :: inside.map some ++ [some id]).reverse =
      (id :: (inside.reverse ++ [id])).map some := by simp
  unfold cycle
  rw [htake]
  dsimp only
  rw [hids, List.filterMap_map]
  rfl

/-- The nodes that were opened after another one contain each other. -/
theorem Descent.inner (h : Descent a root (inside.map some ++ some id :: rest) y) :
    Descent a root rest id ∧ (id :: (inside.reverse ++ [y])).IsChain a.Contains := by
  induction inside generalizing y with
  | nil =>
    cases h with
    | part h _ hxy => exact ⟨h, .cons_cons hxy (.singleton y)⟩
  | cons x inside ih =>
    cases h with
    | part h _ hxy =>
      obtain ⟨hid, hchain⟩ := ih h
      refine ⟨hid, ?_⟩
      have hsplit : id :: ((x :: inside).reverse ++ [y]) = (id :: (inside.reverse ++ [x])) ++ [y] := by
        simp
      have hlast : (id :: (inside.reverse ++ [x])).getLast? = some x := by
        rw [← List.cons_append, List.getLast?_concat]
      rw [hsplit, List.isChain_append, hlast]
      exact ⟨hchain, .singleton y, by simpa using hxy⟩

/-- A node that is met again inside a list is a container if the visit began with one. -/
theorem Descent.isContainer (ha : a.Owned []) (hroot : a.IsContainer root)
    (h : Descent a root (inside.map some ++ some id :: rest) id) : a.IsContainer id := by
  have hnodup : (inside ++ [id] ++ opened rest).Nodup := by
    have hopened : opened (inside.map some ++ some id :: rest) = inside ++ [id] ++ opened rest := by
      simp [opened]
    exact hopened ▸ h.nodup
  obtain ⟨y, hy, hyid⟩ : ∃ y, y ∈ inside ++ [id] ∧ a.Refers y id := by
    cases inside with
    | nil =>
      cases h with
      | part _ _ hxy => exact ⟨id, List.mem_singleton_self id, hxy.refers⟩
    | cons x inside =>
      cases h with
      | part _ _ hxy => exact ⟨x, List.mem_cons_self, hxy.refers⟩
  -- Below the node stands what refers to it, and at the top of the stack, too.
  have hbelow {x : NodeId} (hx : x ∈ opened rest) (hxid : a.Refers x id) : a.IsContainer id := by
    refine (ha.sole x y id hxid hyid).resolve_right fun heq => ?_
    exact (List.nodup_append.mp hnodup).2.2 y hy x hx heq.symm
  cases h.inner.1 with
  | root => exact hroot
  | part _ _ hxy => exact hbelow List.mem_cons_self hxy.refers
  | element _ _ hxy => exact hbelow List.mem_cons_self hxy

/-! ## Visits -/

/-- Some nodes that contain each other, the first a container at both ends, from which the names of
the cycle are taken. -/
def Turns (a : Arena) (root : NodeId) (fault : ClassifyFault) : Prop :=
  ∀ names, fault = .infinite names → ∃ id between, ReflTransGen a.Refers root id ∧
    a.IsContainer id ∧ (id :: (between ++ [id])).IsChain a.Contains ∧
    names = ((id :: (between ++ [id])).filterMap a.record?).filter (· ≠ "")

theorem turns_graph (fault : GraphFault) : Turns a root (.graph fault) := by
  rintro _ ⟨⟩

/-- A step stops with a cycle, or for other reasons. -/
abbrev Halts (a : Arena) (root : NodeId) (m : Step α) : Prop :=
  Triple (fun _ => True) m (fun _ _ => True) fun fault _ => Turns a root fault

theorem halts_pure (b : α) : Halts a root (Pure.pure b : Step α) := .pure fun _ _ => trivial

/-- A node that is met again is the container at both ends of a cycle. -/
theorem Descent.turns (ha : a.Owned []) (hroot : a.IsContainer root) (h : Descent a root stack id)
    (hid : some id ∈ segment stack) : Turns a root (.infinite (cycle a stack id)) := by
  rintro _ ⟨⟩
  obtain ⟨inside, rest, rfl, hfirst⟩ := exists_of_mem_segment hid
  obtain ⟨-, hchain⟩ := h.inner
  exact ⟨id, inside.reverse, h.reaches, h.isContainer ha hroot, hchain, cycle_eq hfirst⟩

/-- A node is judged by visits of what it refers to, of elements of lists inside new bounds. -/
theorem judge_halts {visit : Stack → NodeId → Step Verdict}
    (hparts : ∀ y ∈ n.parts, Halts a root (visit stack y))
    (hlisted : ∀ y ∈ n.listed, Halts a root (visit (none :: stack) y)) :
    Halts a root (judge visit stack n) := by
  have hjudge := judge_visits (I := fun _ => True) (S := fun _ _ => True)
    (fun fault _ _ => turns_graph fault)
    (fun y hy _ => (hparts y hy).conseq (fun _ _ => trivial) (fun _ _ _ => by simp) fun _ _ h => h)
    fun y hy => (hlisted y hy).conseq (fun _ h => h) (fun _ _ _ => by simp) fun _ _ h => h
  exact hjudge.conseq (fun _ h => h) (fun _ _ _ => trivial) fun _ _ h => h

/-- A visit stops with a cycle if it does where nodes are met for the first time. -/
theorem Descent.halts {fuel : Nat} (ha : a.Owned []) (hroot : a.IsContainer root)
    (h : Descent a root stack id)
    (hfresh : ∀ n, a.get? id = some n → some id ∉ stack →
      Triple (fun c => c.get? id = none) (visitWith a fuel stack id) (fun _ _ => True)
        fun fault _ => Turns a root fault) : Halts a root (visitWith a fuel stack id) := by
  intro c _
  cases encounter a fuel stack id c with
  | finished _ hvisit =>
    rw [hvisit]
    trivial
  | inside _ hopen hvisit =>
    rw [hvisit]
    exact h.turns ha hroot hopen
  | outside _ _ _ hvisit =>
    rw [hvisit]
    trivial
  | fresh hget hopen =>
    cases hn : a.get? id with
    | some n => exact hfresh n hn hopen c hget
    | none =>
      rw [visitWith_of_missing hget hopen hn]
      exact turns_graph _

theorem visitWith_halts (ha : a.Owned []) (hroot : a.IsContainer root) (fuel : Nat)
    (h : Descent a root stack id) : Halts a root (visitWith a fuel stack id) := by
  induction fuel generalizing stack id with
  | zero =>
    refine h.halts ha hroot fun n hn hopen c hc => ?_
    rw [visitWith_zero_of_fresh hc hopen hn]
    exact turns_graph _
  | succ fuel ih =>
    refine h.halts ha hroot fun n hn hopen c hc => ?_
    rw [visitWith_of_fresh hc hopen hn]
    have hjudge : Halts a root (judge (visitWith a fuel) (some id :: stack) n) :=
      judge_halts (fun y hy => ih (.part h hopen ⟨n, hn, hy⟩))
        fun y hy => ih (.element h hopen ⟨n, hn, .inr hy⟩)
    exact (hjudge.bind fun v => Triple.bind (Triple.update fun _ _ => trivial) fun _ => halts_pure v)
      c trivial

end Classifier

/-! ## Records -/

/-- Only containers have records. -/
theorem Node.Plain.record_eq_none {n : Node} (h : n.Plain) (hk : n.kind ≠ .container) :
    n.record = none := by
  cases h with
  | container => exact absurd rfl hk
  | _ => rfl

namespace Resolution

variable {units : List SourceUnit} {r : Resolution} {name x y : String} {root id part : NodeId}
  {t : SszType}

theorem Sound.record?_eq_none (hr : r.Sound) {n : Node} (hn : r.arena.get? id = some n)
    (hk : n.kind ≠ .container) : r.arena.record? id = none := by
  rw [Arena.record?, hn]
  exact (hr.plain n (List.mem_of_getElem? hn)).record_eq_none hk

theorem Sound.record?_eq_some (hr : r.Sound) (he : (name, id) ∈ r.registry.entries) :
    r.arena.record? id = some name ∧ name ∈ r.declared := by
  obtain ⟨n, hn, -, hrecord, -⟩ := hr.registered _ he
  refine ⟨?_, hr.declared _ (List.mem_append_left _ he)⟩
  rw [Arena.record?, hn]
  exact hrecord

/-- The fields of a registered record are declared with the types that their nodes have. -/
theorem Sound.exists_field (hr : r.Sound) (he : (name, id) ∈ r.registry.entries) {n : Node}
    (hn : r.arena.get? id = some n) {g : FieldRef} (hg : g ∈ n.fields) :
    ∃ d, declared? r.units name = some d ∧ ∃ f ∈ d.fields, ∃ t, f.type? = some t ∧
      TypeOf r.arena r.registry.entries g.node t := by
  obtain ⟨d, n', hd, hn', -, -, hfields⟩ := hr.complete _ he
  obtain rfl := Option.some.inj (hn.symm.trans hn')
  obtain ⟨f, hf, -, -, t, ht, htype⟩ := exists_of_forall₂ hfields.flip hg
  exact ⟨d, hd, f, hf, t, ht, htype⟩

/-- What a registered record refers to has a type that ends in a record that it leads to. -/
theorem Sound.leadsTo_of_reaches (hr : r.Sound) (hroot : (name, root) ∈ r.registry.entries)
    (hreach : ReflTransGen r.arena.Refers root id) :
    ∃ t, TypeOf r.arena r.registry.entries id t ∧
      ∀ y, t.innermost = some y → ReflTransGen (Mentions r.units) name y := by
  induction hreach with
  | refl =>
    obtain ⟨n, hn, hk, hrecord, -⟩ := hr.registered _ hroot
    refine ⟨.record name, .record hn hk hrecord hroot, ?_⟩
    rintro _ ⟨⟩
    exact .refl
  | tail _ hstep ih =>
    obtain ⟨t, htype, hleads⟩ := ih
    obtain ⟨n, hn, hpart | hlisted⟩ := hstep
    · obtain ⟨_, u, rfl, hu⟩ | ⟨x, rfl, he, g, hg, rfl⟩ := htype.of_mem_parts hn hpart
      · exact ⟨u, hu, hleads⟩
      · obtain ⟨d, hd, f, hf, u, hfu, hu⟩ := hr.exists_field he hn hg
        refine ⟨u, hu, fun y hy => (hleads x rfl).tail ⟨d, hd, f, hf, ?_⟩⟩
        rw [← FieldDecl.innermost_type? hfu, hy]
    · obtain ⟨_, u, rfl, hu⟩ := htype.of_mem_listed hn hlisted
      exact ⟨u, hu, hleads⟩

/-- The records of nodes that contain each other, up to a container, hold each other as they are
declared. Between them there are vectors only. -/
theorem Sound.embeds_of_isChain (hr : r.Sound) {rest : List NodeId}
    (htype : TypeOf r.arena r.registry.entries id t)
    (hchain : (id :: rest).IsChain r.arena.Contains)
    (hlast : r.arena.IsContainer ((id :: rest).getLast (List.cons_ne_nil id rest))) :
    ∃ x xs, (id :: rest).filterMap r.arena.record? = x :: xs ∧ t.held? = some x ∧
      (x :: xs).IsChain (Embeds r.units) ∧ ∀ name ∈ x :: xs, name ∈ r.declared := by
  induction rest generalizing id t with
  | nil =>
    obtain ⟨n, hn, hk⟩ := hlast
    obtain ⟨x, hrecord, he⟩ := htype.mem_of_container hn hk
    obtain ⟨hx, hdeclared⟩ := hr.record?_eq_some he
    obtain rfl := htype.unique (.record hn hk hrecord he)
    exact ⟨x, [], by simp [hx], rfl, .singleton x, by simpa using hdeclared⟩
  | cons part rest ih =>
    obtain ⟨⟨n, hn, hpart⟩, hrest⟩ := List.isChain_cons_cons.mp hchain
    rw [List.getLast_cons_cons] at hlast
    obtain ⟨length, u, rfl, hu⟩ | ⟨name, rfl, he, g, hg, rfl⟩ := htype.of_mem_parts hn hpart
    · obtain ⟨x, xs, hrecords, hheld, hembeds⟩ := ih hu hrest hlast
      have hnone : r.arena.record? id = none := by
        cases htype with
        | vector hn' hk => exact hr.record?_eq_none hn' (by simp [hk])
      refine ⟨x, xs, ?_, hheld, hembeds⟩
      rw [List.filterMap_cons_none hnone, hrecords]
    · obtain ⟨d, hd, f, hf, u, hfu, hu⟩ := hr.exists_field he hn hg
      obtain ⟨x, xs, hrecords, hheld, hembeds, hdeclared⟩ := ih hu hrest hlast
      obtain ⟨hname, hmem⟩ := hr.record?_eq_some he
      refine ⟨name, x :: xs, ?_, rfl, .cons_cons ⟨d, hd, f, hf, u, hfu, hheld⟩ hembeds,
        List.forall_mem_cons.mpr ⟨hmem, hdeclared⟩⟩
      rw [List.filterMap_cons_some hname, hrecords]

/-! ## Diagnostics -/

/-- A diagnostic tells the records of a cycle, the first at both ends. Each holds the next one as it
is declared, and the first is led to by the record that could not be classified. -/
structure TellsCycle (units : List SourceUnit) (name : String) (d : Diagnostic) (first : String)
    (between : List String) : Prop where
  kind : d.kind = .infiniteSize
  record : d.data.get? "record" = some (.text name)
  cycle : d.data.get? "cycle" = some (.text (Text.join " -> " (first :: (between ++ [first]))))
  embeds : (first :: (between ++ [first])).IsChain (Embeds units)
  reaches : ReflTransGen (Mentions units) name first

/-- A diagnostic tells a cycle that one of some records leads to. -/
def Explained (units : List SourceUnit) (names : List String) (d : Diagnostic) : Prop :=
  ∃ name ∈ names, ∃ first between, TellsCycle units name d first between

/-- The diagnostic of a record tells the cycle with which its visit stopped. -/
theorem Sound.tellsCycle (hr : r.Sound)
    (hnamed : ∀ record ∈ SszSchema.declarations r.units, record.name ≠ "")
    (he : (name, root) ∈ r.registry.entries) {records : List String}
    (hturns : Classifier.Turns r.arena root (.infinite records)) :
    ∃ first between, TellsCycle r.units name (r.infiniteSize name records) first between := by
  obtain ⟨id, nodes, hreach, hcontainer, hchain, rfl⟩ := hturns _ rfl
  have hlast : r.arena.IsContainer ((id :: (nodes ++ [id])).getLast (List.cons_ne_nil _ _)) := by
    simpa using hcontainer
  obtain ⟨t, htype, hleads⟩ := hr.leadsTo_of_reaches he hreach
  obtain ⟨n, hn, hk⟩ := hcontainer
  obtain ⟨first, hrecord, hid⟩ := htype.mem_of_container hn hk
  obtain rfl := htype.unique (.record hn hk hrecord hid)
  obtain ⟨x, xs, hxs, -, hembeds, hdeclared⟩ := hr.embeds_of_isChain htype hchain hlast
  -- The first and the last node are one container, so the records have equal ends.
  have hrecords : (id :: (nodes ++ [id])).filterMap r.arena.record? =
      first :: (nodes.filterMap r.arena.record? ++ [first]) := by
    simp [(hr.record?_eq_some hid).1]
  rw [hrecords] at hxs
  rw [← hxs] at hembeds hdeclared
  have hall : (first :: (nodes.filterMap r.arena.record? ++ [first])).filter (· ≠ "") =
      first :: (nodes.filterMap r.arena.record? ++ [first]) := by
    refine List.filter_eq_self.mpr fun y hy => ?_
    obtain ⟨record, hrecord, rfl⟩ := List.mem_map.mp (hdeclared y hy)
    exact decide_eq_true (hnamed record hrecord)
  obtain ⟨d, -, hd, -⟩ := hr.complete _ he
  have hdeclaration : r.declaration? name = some d := hd
  rw [hrecords, hall, infiniteSize, hdeclaration]
  refine ⟨first, nodes.filterMap r.arena.record?, rfl, ?_, ?_, hembeds, hleads first rfl⟩
  · rw [Diagnostic.get?_withContext]
    rfl
  · rw [Diagnostic.get?_withContext]
    rfl

/-- A diagnostic that stops the classification of records has some property, and so have those that
are collected in it. -/
structure Reports (P : Diagnostic → Prop)
    (m : Except Failure (Classifier × List String × List Diagnostic)) : Prop where
  error : ∀ d, m = .error (.reported d) → P d
  ok : ∀ result, m = .ok result → ∀ d ∈ result.2.2, P d

namespace Reports

variable {P P' : Diagnostic → Prop}

theorem nil (c : Classifier) : Reports P (.ok (c, [], [])) := by
  refine ⟨nofun, ?_⟩
  rintro _ ⟨⟩ d hd
  cases hd

theorem graph (fault : GraphFault) : Reports P (.error (.graph fault)) := ⟨nofun, nofun⟩

theorem reported {d : Diagnostic} (h : P d) : Reports P (.error (.reported d)) := by
  refine ⟨?_, nofun⟩
  rintro _ ⟨⟩
  exact h

theorem map {m : Except Failure (Classifier × List String × List Diagnostic)} (hm : Reports P m)
    (himp : ∀ d, P d → P' d)
    (f : Classifier × List String × List Diagnostic → Classifier × List String × List Diagnostic)
    (hf : ∀ result, ∀ d ∈ (f result).2.2, P' d ∨ d ∈ result.2.2) : Reports P' (m.map f) := by
  cases m with
  | error failure =>
    refine ⟨?_, nofun⟩
    rintro d ⟨⟩
    exact himp d (hm.error d rfl)
  | ok result =>
    refine ⟨nofun, ?_⟩
    rintro _ ⟨⟩ d hd
    exact (hf result d hd).elim id fun hd => himp d (hm.ok result rfl d hd)

end Reports

/-- What stops the classification of records, and what is collected in it, tells cycles. -/
theorem Sound.classifyRecords_reports (hr : r.Sound) (howned : r.arena.Owned [])
    (hnamed : ∀ record ∈ SszSchema.declarations r.units, record.name ≠ "") (collect : Bool)
    (c : Classifier) (names : List String) :
    Reports (Explained r.units names) (r.classifyRecords collect c names) := by
  induction names generalizing c with
  | nil => exact .nil c
  | cons name names ih =>
    have hlater (d : Diagnostic) (h : Explained r.units names d) :
        Explained r.units (name :: names) d :=
      h.imp fun _ h => ⟨List.mem_cons_of_mem _ h.1, h.2⟩
    unfold classifyRecords
    cases hget : r.registry.get? name with
    | none => exact .graph _
    | some root =>
    have he := (Registry.get?_eq_some_iff (registered_nodup hr)).mp hget
    obtain ⟨n, hn, hk, -⟩ := hr.registered _ he
    have hvisit := Classifier.visitWith_halts howned ⟨n, hn, hk⟩ (r.arena.size + 1) .root c trivial
    dsimp only [Classifier.run, Classifier.visit]
    rcases hrun : Classifier.visitWith r.arena (r.arena.size + 1) [] root c with ⟨fault | v, c'⟩ <;>
      rw [hrun] at hvisit
    · cases fault with
      | graph fault => exact .graph fault
      | infinite records =>
      have hfirst : Explained r.units (name :: names) (r.infiniteSize name records) :=
        ⟨name, List.mem_cons_self, hr.tellsCycle hnamed he hvisit⟩
      dsimp only
      split
      · refine (ih c').map hlater _ fun result d hd => ?_
        rcases List.mem_cons.mp hd with rfl | hd
        · exact .inl hfirst
        · exact .inr hd
      · exact .reported hfirst
    · exact (ih c').map hlater _ fun _ _ => .inr

/-- In all states of a resolution, what a schema is refused with, and what is collected while one is
built, tells real cycles. -/
theorem Reached.schema_cycles (h : r.Reached units)
    (hnamed : ∀ record ∈ SszSchema.declarations units, record.name ≠ "")
    (names : Option (List String)) :
    (∀ d, r.schema names false = .error (.reported d) →
      Explained units (names.getD r.registry.order) d) ∧
    ∀ s ds, r.schema names true = .ok (s, ds) →
      ∀ d ∈ ds, Explained units (names.getD r.registry.order) d := by
  obtain rfl := h.opening.same
  have hreports (collect : Bool) := h.sound.classifyRecords_reports h.owned hnamed collect {}
    (names.getD r.registry.order)
  refine ⟨fun d hd => (hreports false).error d ?_, fun s ds hs => ?_⟩
  · rw [schema] at hd
    cases hrun : r.classifyRecords false {} (names.getD r.registry.order) with
    | error failure =>
      rw [hrun] at hd
      cases hd
      rfl
    | ok result =>
      rw [hrun] at hd
      cases hd
  · obtain ⟨result, hok, heq⟩ := Outcome.map_eq_ok.mp hs
    obtain ⟨-, rfl⟩ := Prod.mk.inj heq
    exact (hreports true).ok result hok

/-- A field with a vector of the second record. -/
def pairVectorField : FieldDecl := ⟨"b", .apply "List" (.name "B"), "List[B]", "ssz-size:\"4\"", 3⟩

/-- A vector is no way out: the first record holds the second one, which holds the first. -/
theorem schema_cycles_pair :
    (pairResolution [pairVectorField]).Reached [pairUnit [pairVectorField]] ∧
    (∀ record ∈ SszSchema.declarations [pairUnit [pairVectorField]], record.name ≠ "") ∧
    (pairResolution [pairVectorField]).schema none false = .error (.reported
      ((pairResolution [pairVectorField]).infiniteSize "A" ["A", "B", "A"])) ∧
    Explained [pairUnit [pairVectorField]] ["A", "B"]
      ((pairResolution [pairVectorField]).infiniteSize "A" ["A", "B", "A"]) := by
  have hnamed : ∀ record ∈ SszSchema.declarations [pairUnit [pairVectorField]], record.name ≠ "" := by
    decide
  have horder : (pairResolution [pairVectorField]).registry.order = ["A", "B"] := by decide +kernel
  have hrefused : (pairResolution [pairVectorField]).schema none false = .error (.reported
      ((pairResolution [pairVectorField]).infiniteSize "A" ["A", "B", "A"])) := by
    have hroot : (pairResolution [pairVectorField]).registry.get? "A" = some 0 := by
      decide +kernel
    have hvisit : (Classifier.run {} (Classifier.visit
        (pairResolution [pairVectorField]).arena 0)).1 = .error (.infinite ["A", "B", "A"]) := by
      decide +kernel
    rw [schema, Option.getD_none, horder, classifyRecords, hroot]
    dsimp only
    rcases hrun : Classifier.run {} (Classifier.visit
      (pairResolution [pairVectorField]).arena 0) with ⟨result, c⟩
    rw [hrun] at hvisit
    dsimp only at hvisit
    rw [hvisit]
    rfl
  refine ⟨reached_pairResolution, hnamed, hrefused, ?_⟩
  have hexplained := (reached_pairResolution.schema_cycles hnamed none).1 _ hrefused
  rwa [Option.getD_none, horder] at hexplained

end Resolution

end SszSchema
