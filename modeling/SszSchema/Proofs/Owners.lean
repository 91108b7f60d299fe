import SszSchema.Proofs.Closure

/-!
# Owners of nodes

All fields of a record's type share the node of that record. Any other node belongs to the node that
it was made for: no two nodes of a resolution refer to it (`Resolution.Reached.owned`).

A step returns the number of a node that nothing refers to yet, and a later step spends it: on a
vector or list around it, or on the fields of a container. In between, the number is held. So a step
is described by the numbers that it spends and those that it makes, whatever else is held
(`Resolution.Spends`).
-/

namespace SszSchema

namespace Arena

variable {a b : Arena} {held used : List NodeId} {id p q x : NodeId} {n : Node}

/-- A node is a container. -/
def IsContainer (a : Arena) (id : NodeId) : Prop := ∃ n, a.get? id = some n ∧ n.kind = .container

theorem IsContainer.lt_size (h : a.IsContainer id) : id < a.size := by
  obtain ⟨n, hn, -⟩ := h
  exact lt_size_of_get? hn

/-- Containers stay containers when a graph grows, and when one of its nodes becomes one. -/
theorem isContainer_add (m : Node) (h : a.IsContainer id) : (a.add m).1.IsContainer id :=
  h.imp fun _ hn => ⟨get?_add_of_some hn.1, hn.2⟩

theorem isContainer_set {old m : Node} (hn : a.get? p = some old) (hk : m.kind = .container)
    (h : a.IsContainer id) : (a.set p m).IsContainer id := by
  by_cases hp : p = id
  · subst hp
    exact ⟨m, get?_set_self hn, hk⟩
  · obtain ⟨n, hn, hkn⟩ := h
    exact ⟨n, (get?_set_of_ne m hp).trans hn, hkn⟩

/-- What a node refers to. -/
theorem refers_iff (hn : a.get? p = some n) : a.Refers p x ↔ x ∈ n.parts ++ n.listed := by
  simp [Refers, hn]

/-- But for containers, each node belongs to one node at most, and the nodes that are held belong to
none yet. -/
structure Owned (a : Arena) (held : List NodeId) : Prop where
  /-- No two nodes refer to one node. -/
  sole : ∀ p q x, a.Refers p x → a.Refers q x → a.IsContainer x ∨ p = q
  /-- No node refers to one that is held. -/
  free : ∀ p x, a.Refers p x → x ∈ held → a.IsContainer x
  /-- No node is held twice. -/
  apart : held.Pairwise fun x y => x = y → a.IsContainer x
  /-- There are nodes for all numbers. -/
  held_lt : ∀ x ∈ held, x < a.size
  refers_lt : ∀ p x, a.Refers p x → x < a.size

namespace Owned

theorem perm {held' : List NodeId} (h : a.Owned held) (hperm : held.Perm held') :
    a.Owned held' where
  sole := h.sole
  free p x hpx hx := h.free p x hpx (hperm.mem_iff.mpr hx)
  apart := h.apart.perm hperm fun hxy heq => heq ▸ hxy heq.symm
  held_lt x hx := h.held_lt x (hperm.mem_iff.mpr hx)
  refers_lt := h.refers_lt

theorem sublist {held' : List NodeId} (h : a.Owned held) (hsub : held'.Sublist held) :
    a.Owned held' where
  sole := h.sole
  free p x hpx hx := h.free p x hpx (hsub.subset hx)
  apart := h.apart.sublist hsub
  held_lt x hx := h.held_lt x (hsub.subset hx)
  refers_lt := h.refers_lt

/-- What is spent is not held any more. -/
theorem spent (h : a.Owned (used ++ held)) : a.Owned held :=
  h.sublist (List.sublist_append_right used held)

/-- A container is held as often as it is returned. -/
theorem hold (h : a.Owned held) (hid : a.IsContainer id) : a.Owned (id :: held) where
  sole := h.sole
  free p x hpx hx := by
    rcases List.mem_cons.mp hx with rfl | hx
    · exact hid
    · exact h.free p x hpx hx
  apart := List.pairwise_cons.mpr ⟨fun _ _ _ => hid, h.apart⟩
  held_lt := List.forall_mem_cons.mpr ⟨hid.lt_size, h.held_lt⟩
  refers_lt := h.refers_lt

/-- A node that refers to nothing comes to refer to nodes that were held. -/
theorem adopt (h : a.Owned (used ++ held)) (hempty : ∀ x, ¬a.Refers id x)
    (hrefers : ∀ p x, b.Refers p x → a.Refers p x ∨ p = id ∧ x ∈ used)
    (hkind : ∀ x, a.IsContainer x → b.IsContainer x) (hsize : a.size ≤ b.size) : b.Owned held where
  sole p q x hp hq := by
    rcases hrefers p x hp with hp | ⟨rfl, hx⟩ <;> rcases hrefers q x hq with hq | ⟨rfl, hx'⟩
    · exact (h.sole p q x hp hq).imp_left (hkind x)
    · exact .inl (hkind x (h.free p x hp (List.mem_append_left _ hx')))
    · exact .inl (hkind x (h.free q x hq (List.mem_append_left _ hx)))
    · exact .inr rfl
  free p x hp hx := by
    rcases hrefers p x hp with hp | ⟨-, hused⟩
    · exact hkind x (h.free p x hp (List.mem_append_right _ hx))
    · exact hkind x ((List.pairwise_append.mp h.apart).2.2 x hused x hx rfl)
  apart := (List.pairwise_append.mp h.apart).2.1.imp fun hxy heq => hkind _ (hxy heq)
  held_lt x hx := Nat.lt_of_lt_of_le (h.held_lt x (List.mem_append_right _ hx)) hsize
  refers_lt p x hp := by
    rcases hrefers p x hp with hp | ⟨-, hused⟩
    · exact Nat.lt_of_lt_of_le (h.refers_lt p x hp) hsize
    · exact Nat.lt_of_lt_of_le (h.held_lt x (List.mem_append_left _ hused)) hsize

/-- A new node is held. -/
theorem add (h : a.Owned (n.parts ++ n.listed ++ held)) : (a.add n).1.Owned (a.size :: held) := by
  have hnew : (a.add n).1.get? a.size = some n := get?_add_size a n
  have hsize : (a.add n).1.size = a.size + 1 := by simp [Arena.add, size]
  have hempty (x : NodeId) : ¬a.Refers a.size x := by
    rintro ⟨m, hm, -⟩
    exact absurd (lt_size_of_get? hm) (Nat.lt_irrefl _)
  have hrefers (p x : NodeId) (hp : (a.add n).1.Refers p x) :
      a.Refers p x ∨ p = a.size ∧ x ∈ n.parts ++ n.listed := by
    by_cases hlast : p = a.size
    · subst hlast
      exact .inr ⟨rfl, (refers_iff hnew).mp hp⟩
    · obtain ⟨m, hm, hx⟩ := hp
      have hle : p < a.size + 1 := hsize ▸ lt_size_of_get? hm
      have hlt : p < a.size := Nat.lt_of_le_of_ne (Nat.le_of_lt_succ hle) hlast
      rw [Arena.add, get?, List.getElem?_append_left hlt] at hm
      exact .inl ⟨m, hm, hx⟩
  have hrest : (a.add n).1.Owned held :=
    h.adopt hempty hrefers (fun _ => isContainer_add n) (hsize ▸ Nat.le_succ _)
  exact
    { hrest with
      free := fun p x hp hx => by
        rcases List.mem_cons.mp hx with rfl | hx
        · rcases hrefers p _ hp with hp | ⟨-, hused⟩
          · exact absurd (h.refers_lt p _ hp) (Nat.lt_irrefl _)
          · exact absurd (h.held_lt _ (List.mem_append_left _ hused)) (Nat.lt_irrefl _)
        · exact hrest.free p x hp hx
      apart := List.pairwise_cons.mpr ⟨fun x hx heq =>
        absurd heq (Nat.ne_of_gt (h.held_lt x (List.mem_append_right _ hx))), hrest.apart⟩
      held_lt := List.forall_mem_cons.mpr ⟨hsize ▸ Nat.lt_succ_self _, hrest.held_lt⟩ }

/-- A reserved container comes to refer to its fields. -/
theorem fill {m old : Node} (h : a.Owned (m.fields.map (·.node) ++ held))
    (hn : a.get? id = some old) (hold : isReserved old = true) (hk : m.kind = .container) :
    (a.set id m).Owned held := by
  obtain ⟨hkold, hfields⟩ : old.kind = .container ∧ old.fields = [] := by
    simpa [isReserved] using hold
  have hnew : (a.set id m).get? id = some m := get?_set_self hn
  have hempty (x : NodeId) : ¬a.Refers id x := by
    rw [refers_iff hn, (Node.parts_of_container hkold).1, (Node.parts_of_container hkold).2, hfields]
    exact List.not_mem_nil
  have hrefers (p x : NodeId) (hp : (a.set id m).Refers p x) :
      a.Refers p x ∨ p = id ∧ x ∈ m.fields.map (·.node) := by
    by_cases hid : id = p
    · subst hid
      rw [refers_iff hnew, (Node.parts_of_container hk).1, (Node.parts_of_container hk).2,
        List.append_nil] at hp
      exact .inr ⟨rfl, hp⟩
    · obtain ⟨n, hn, hx⟩ := hp
      rw [get?_set_of_ne m hid] at hn
      exact .inl ⟨n, hn, hx⟩
  exact h.adopt hempty hrefers (fun _ => isContainer_set hn hk) (by simp [set, size])

end Owned

end Arena

namespace Resolution

open Stateful

variable {α β : Type} {used held : List NodeId} {made : α → List NodeId} {units : List SourceUnit}
  {r : Resolution}

/-- Nodes belong to one node at most, and records that have nodes have containers. -/
structure Holding (held : List NodeId) (r : Resolution) : Prop where
  owned : r.arena.Owned held
  known : ∀ e ∈ r.known, r.arena.IsContainer e.2

/-- A step spends some of the nodes that are held, and those that it returns are held after it. -/
structure Spends (used : List NodeId) (m : Step α) (made : α → List NodeId) : Prop where
  run : ∀ held, Triple (Holding (used ++ held)) m (fun a => Holding (made a ++ held))
    fun _ => Holding held

theorem Holding.spent (h : Holding (used ++ held) r) : Holding held r := ⟨h.owned.spent, h.known⟩

namespace Spends

theorem pure {a : α} (h : made a = used) : Spends used (Pure.pure a) made := by
  subst h
  exact ⟨fun _ => .pure fun _ hr => hr⟩

theorem throw {failure : Failure} : Spends used (MonadExcept.throw failure) made :=
  ⟨fun _ => .throw fun _ hr => hr.spent⟩

theorem bind {made' : β → List NodeId} {m : Step α} {f : α → Step β} (hm : Spends used m made)
    (hf : ∀ a, Spends (made a) (f a) made') : Spends used (m >>= f) made' :=
  ⟨fun held => (hm.run held).bind fun a => (hf a).run held⟩

theorem get_bind {f : Resolution → Step α} (hf : ∀ r, Spends used (f r) made) :
    Spends used (get >>= f) made :=
  ⟨fun held r => (hf r).run held r⟩

theorem tryCatch {m : Step α} {handle : Failure → Step α} (hm : Spends used m made)
    (hhandle : ∀ failure, Spends [] (handle failure) made) :
    Spends used (MonadExcept.tryCatch m handle) made :=
  ⟨fun held => (hm.run held).tryCatch fun failure => (hhandle failure).run held⟩

theorem within {context : DataMap} {m : Step α} (hm : Spends used m made) :
    Spends used (Resolution.within context m) made :=
  hm.tryCatch fun failure => by cases failure <;> exact throw

/-- What else is held stays so. -/
theorem frame {m : Step α} (hm : Spends used m made) (kept : List NodeId) :
    Spends (used ++ kept) m fun a => made a ++ kept := by
  refine ⟨fun held => ?_⟩
  simp only [List.append_assoc]
  exact (hm.run (kept ++ held)).conseq (fun _ hr => hr) (fun _ _ hr => hr) fun _ _ hr => hr.spent

/-- The results of steps are held one after the other. -/
theorem mapM {f : β → Step α} {l : List β} (hf : ∀ b ∈ l, Spends [] (f b) made) :
    Spends [] (l.mapM f) fun as => as.flatMap made := by
  induction l with
  | nil => exact pure rfl
  | cons b l ih =>
    obtain ⟨hb, hl⟩ := List.forall_mem_cons.mp hf
    rw [List.mapM_cons]
    refine hb.bind fun a => ((ih hl).frame (made a)).bind fun as => ?_
    refine ⟨fun held => .pure fun r hr => ⟨hr.owned.perm ?_, hr.known⟩⟩
    rw [List.flatMap_cons]
    exact List.perm_append_comm.append_right held

theorem ofTags_bind {raw : String} {result : Except TagList.Fault β} {f : β → Step α}
    (hf : ∀ b, Spends used (f b) made) : Spends used (Resolution.ofTags raw result >>= f) made := by
  rcases result with fault | b
  · cases fault <;> exact throw
  · exact hf b

/-- A new node spends what it refers to. -/
theorem add {n : Node} (hn : n.parts ++ n.listed = used) :
    Spends used (Resolution.add n) fun id => [id] := by
  subst hn
  refine ⟨fun held r hr => ?_⟩
  exact ⟨hr.owned.add, fun e he => Arena.isContainer_add n (hr.known e he)⟩

end Spends

/-! ## Shapes and fields -/

section

variable {a : TagList} {record : String → Step NodeId}

theorem bytesNode_spends : Spends [] (bytesNode a) fun id => [id] := by
  unfold bytesNode
  split
  · exact .ofTags_bind fun _ => .add rfl
  · refine .ofTags_bind fun size => ?_
    rcases size with _ | _ | n
    · refine .ofTags_bind fun limit => ?_
      cases limit with
      | none => exact .throw
      | some n => exact .add rfl
    · exact .throw
    · exact .add rfl

theorem bitVectorNode_spends : Spends [] (bitVectorNode a) fun id => [id] := by
  refine .ofTags_bind fun size => ?_
  rcases size with _ | _ | n
  · exact .throw
  · exact .throw
  · exact .add rfl

theorem byteVectorsNode_spends : Spends [] (byteVectorsNode a) fun id => [id] := by
  refine .ofTags_bind fun pair => ?_
  rcases pair with _ | ⟨outer, _ | inner⟩
  · exact .throw
  · exact .throw
  · refine .bind (.add rfl) fun element => ?_
    cases outer with
    | some n => exact .add rfl
    | none =>
      refine .ofTags_bind fun limit => ?_
      cases limit with
      | none => exact .throw
      | some n => exact .add rfl

/-- A sequence spends its element. -/
theorem sequenceNode_spends (element : NodeId) :
    Spends [element] (sequenceNode a element) fun id => [id] := by
  refine .ofTags_bind fun size => ?_
  rcases size with _ | _ | n
  · refine .ofTags_bind fun limit => ?_
    cases limit with
    | none => exact .throw
    | some n => exact .add rfl
  · exact .throw
  · exact .add rfl

theorem basicNode_spends {name : String} {other : Step NodeId}
    (h : Spends [] other fun id => [id]) : Spends [] (basicNode a name other) fun id => [id] := by
  unfold basicNode
  cases meaning name with
  | bytes => exact bytesNode_spends
  | bitList => exact .ofTags_bind fun _ => .add rfl
  | bitVector => exact bitVectorNode_spends
  | other => exact h
  | _ => exact .add rfl

theorem shape_spends (h : ∀ name, Spends [] (record name) fun id => [id]) (e : TypeExpr) :
    Spends [] (shape record a e) fun id => [id] := by
  induction e with
  | name id =>
    refine basicNode_spends ?_
    split
    · exact .throw
    · exact h id
  | member => exact basicNode_spends .throw
  | apply head e ih =>
    unfold shape
    split
    · split
      · exact byteVectorsNode_spends
      · split
        · exact .ofTags_bind fun _ => .add rfl
        · exact .bind ih sequenceNode_spends
    · exact .throw
  | applyMany =>
    unfold shape
    split <;> exact .throw
  | quoted e ih => exact ih
  | other => exact .throw

theorem field_spends (h : ∀ name, Spends [] (record name) fun id => [id]) (d : RecordDecl)
    (f : FieldDecl) : Spends [] (field record d f) fun g => [g.node] :=
  .within (.ofTags_bind fun _ => .bind (shape_spends h f.shape) fun _ => .pure rfl)

end

/-! ## Records -/

/-- A record that has a node has it held once more. -/
theorem Holding.hold (hr : Holding held r) {e : String × NodeId} (he : e ∈ r.known) :
    Holding (e.2 :: held) r :=
  ⟨hr.owned.hold (hr.known e he), hr.known⟩

theorem reserve_spends (name : String) : Spends [] (reserve name) fun id => [id] := by
  refine ⟨fun held r hr => ?_⟩
  rw [reserve_eq]
  have hadd := (@Spends.add [] { kind := .container, record := some name } rfl).run held r hr
  refine ⟨hadd.owned, fun e he => ?_⟩
  rw [known, reserved, ← List.append_assoc] at he
  rcases List.mem_append.mp he with he | he
  · exact hadd.known e he
  · obtain rfl := List.mem_singleton.mp he
    exact ⟨_, Arena.get?_add_size _ _, rfl⟩

/-- A container spends its fields. -/
theorem fill_spends (name : String) (id : NodeId) (fields : List FieldRef) :
    Spends (fields.map (·.node)) (fill name id fields) fun _ => [] := by
  refine ⟨fun held r hr => ?_⟩
  unfold fill
  rw [run_get_bind]
  cases hfill : r.arena.fill id { kind := .container, record := some name, fields } with
  | error fault => exact hr.spent
  | ok arena =>
    unfold Arena.fill at hfill
    split at hfill
    · cases hfill
    · case h_2 old hn =>
      split at hfill
      · case isTrue hreserved =>
        obtain rfl := Except.ok.inj hfill
        exact ⟨hr.owned.fill hn hreserved rfl, fun e he =>
          Arena.isContainer_set hn rfl (hr.known e he)⟩
      · cases hfill

theorem commit_spends : Spends [] commit fun _ => [] := by
  refine ⟨fun held => ?_⟩
  refine (commit_maintains (fun r registry hr hput => ⟨hr.owned, fun e he => ?_⟩) fun _ =>
    trivial : Maintains (Holding held) (fun _ => True) commit).run.conseq (fun _ hr => hr)
      (fun _ _ hr => hr) fun _ _ hr => hr.2
  refine hr.known e (entries_of_put hput ?_)
  simpa [known] using he

theorem abandon_spends (name : String) (d : Diagnostic) : Spends [] (abandon name d) fun _ => [] := by
  refine ⟨fun held => .update fun r hr => ⟨hr.owned, fun e he => hr.known e ?_⟩⟩
  rw [known, List.append_nil] at he
  exact List.mem_append_left _ he

/-- The number of a record's own node is held while its fields are resolved. -/
theorem expand_spends {record : String → Step NodeId}
    (h : ∀ name, Spends [] (record name) fun id => [id]) (d : RecordDecl) :
    Spends [] (expand record d) fun id => [id] := by
  unfold expand
  refine .get_bind fun r => (reserve_spends d.name).bind fun id => ?_
  have hfields : Spends [] (d.fields.mapM (field record d)) fun fields => fields.map (·.node) := by
    simp only [List.map_eq_flatMap]
    exact .mapM fun f _ => field_spends h d f
  refine ((hfields.frame [id]).tryCatch fun failure => ?_).bind fun fields =>
    ((fill_spends d.name id fields).frame [id]).bind fun _ => ?_
  · cases failure with
    | reported e =>
      dsimp only
      split
      · exact (abandon_spends _ _).bind fun _ => .throw
      · exact .throw
    | _ => exact .throw
  · dsimp only
    split
    · exact (commit_spends.frame [id]).bind fun _ => .pure rfl
    · exact .pure rfl

theorem lookUp_spends {fresh : RecordDecl → Step NodeId}
    (h : ∀ d, Spends [] (fresh d) fun id => [id]) (name : String) :
    Spends [] (lookUp name fresh) fun id => [id] := by
  refine ⟨fun held r hr => ?_⟩
  unfold lookUp
  rw [run_get_bind]
  cases hget : r.registry.get? name with
  | some id =>
    obtain ⟨e, hfind, rfl⟩ := Option.map_eq_some_iff.mp hget
    exact hr.hold (List.mem_append_left _ (List.mem_of_find?_eq_some hfind))
  | none =>
  cases hfind : r.pending.find? (·.1 == name) with
  | some e => exact hr.hold (List.mem_append_right _ (List.mem_of_find?_eq_some hfind))
  | none =>
  cases r.failed.find? (·.1 == name) with
  | some e => exact hr
  | none =>
  dsimp only
  cases r.declaration name with
  | error d => exact hr
  | ok d => exact (h d).run held r hr

theorem resolveWith_spends (fuel : Nat) (name : String) :
    Spends [] (resolveWith fuel name) fun id => [id] := by
  induction fuel generalizing name with
  | zero => exact lookUp_spends (fun _ => .throw) name
  | succ fuel ih => exact lookUp_spends (expand_spends ih) name

theorem resolve_spends (name : String) : Spends [] (resolve name) fun id => [id] := by
  refine ⟨fun held r hr => ?_⟩
  have hrun := run_resolve r name
  rw [run] at hrun
  rw [hrun]
  exact (resolveWith_spends _ name).run held r hr

/-- However records have been resolved, no two nodes refer to one that is no container. -/
theorem Reached.owned (h : r.Reached units) : r.arena.Owned [] := by
  suffices hr : Holding [] r from hr.owned
  induction h with
  | start h =>
    obtain rfl := eq_of_ofUnits h
    have hnone (p x : NodeId) : ¬Arena.empty.Refers p x := fun ⟨_, hn, _⟩ => by cases hn
    exact ⟨⟨fun p _ x hp => absurd hp (hnone p x), fun p x hp => absurd hp (hnone p x), .nil, nofun,
      fun p x hp => absurd hp (hnone p x)⟩, nofun⟩
  | @step r _ name ih =>
    have h := (resolve_spends name).run [] r ih
    rw [run]
    rcases hrun : resolve name r with ⟨failure | id, r'⟩ <;> rw [hrun] at h
    · exact h
    · exact ⟨h.owned.sublist (List.nil_sublist _), h.known⟩

end Resolution

end SszSchema
