import Mathlib.Data.List.Nodup
import Mathlib.Data.List.Perm.Subperm
import SszSchema.Proofs.Steps
import SszSchema.Run.Generate

/-!
# Writing files

What a write leaves behind. Files are staged under fresh names first (`FileTree.Stages`), so a fault
while staging changes nothing but for new directories. Then they are moved one after the other
(`FileTree.Moves`), and a file whose place is a directory stops this after others have been moved.
So a write that fails may have replaced files: exactly those before the one that cannot be moved
(`Run.write_outcome`).

Places are told apart by what `FileTree.at?` gives there; `Path.LeadsTo` is the place that a path
leads to once the directories on the way exist.
-/

namespace SszSchema

/-! ## Trees -/

namespace FileTree

variable {t t' t'' : FileTree} {p q : Place} {e : Entry}

@[simp] theorem at?_nil (t : FileTree) : t.at? [] = some .directory := rfl

theorem at?_of_ne_nil (h : q ≠ []) : t.at? q = (t.entries.find? (·.1 == q)).map (·.2) := by
  rw [at?, if_neg (by simpa using h)]

/-- Replacing what a place holds. -/
theorem find?_replace {l : List (Place × Entry)} (h : (l.find? (·.1 == p)).isSome) :
    (l.map fun old => if old.1 == p then (p, e) else old).find? (·.1 == q) =
      if q = p then some (p, e) else l.find? (·.1 == q) := by
  have hkey (old : Place × Entry) :
      ((if old.1 == p then (p, e) else old).1 == q) = (old.1 == q) := by
    split
    · case isTrue hold => rw [eq_of_beq hold]
    · rfl
  rw [List.find?_map]
  simp only [Function.comp_def, hkey]
  split
  · case isTrue hq =>
    subst hq
    obtain ⟨old, hold⟩ := Option.isSome_iff_exists.mp h
    have hplace : old.1 = q := by simpa using List.find?_some hold
    simp [hold, hplace]
  · case isFalse hq =>
    cases hfind : l.find? (·.1 == q) with
    | none => rfl
    | some old =>
      have hplace : old.1 = q := by simpa using List.find?_some hfind
      simp [hplace, hq]

theorem at?_put (hp : p ≠ []) : (t.put p e).at? q = if q = p then some e else t.at? q := by
  rcases eq_or_ne q [] with rfl | hq
  · rw [if_neg hp.symm]
    rfl
  rw [at?_of_ne_nil hq, at?_of_ne_nil hq, put]
  split
  · case isTrue hsome =>
    rw [at?_of_ne_nil hp, Option.isSome_map] at hsome
    rw [find?_replace hsome]
    split <;> rfl
  · case isFalse hnone =>
    rw [at?_of_ne_nil hp, Option.isSome_map, Option.not_isSome_iff_eq_none] at hnone
    rw [List.find?_append]
    by_cases hqp : q = p
    · subst hqp
      simp [hnone]
    · have hpq : (p == q) = false := by simpa using Ne.symm hqp
      simp [hqp, hpq]

theorem at?_erase (hp : p ≠ []) : (t.erase p).at? q = if q = p then none else t.at? q := by
  rcases eq_or_ne q [] with rfl | hq
  · rw [if_neg hp.symm]
    rfl
  rw [at?_of_ne_nil hq, at?_of_ne_nil hq, erase, List.find?_filter]
  by_cases hqp : q = p
  · subst hqp
    simp
  · rw [if_neg hqp]
    congr 2
    funext old
    by_cases hold : old.1 = q <;> simp [hold, hqp]

/-- Erasing several places. -/
theorem at?_foldl_erase {staged : List Staged} (h : ∀ s ∈ staged, s.temporary ≠ []) :
    (staged.foldl (fun t s => t.erase s.temporary) t).at? q =
      if q ∈ staged.map (·.temporary) then none else t.at? q := by
  induction staged generalizing t with
  | nil => rfl
  | cons s staged ih =>
    obtain ⟨hs, hstaged⟩ := List.forall_mem_cons.mp h
    simp only [List.foldl_cons, ih hstaged, at?_erase hs, List.map_cons, List.mem_cons]
    by_cases hmem : q ∈ staged.map (·.temporary)
    · rw [if_pos hmem, if_pos (.inr hmem)]
    · by_cases hq : q = s.temporary
      · rw [if_neg hmem, if_pos hq, if_pos (.inl hq)]
      · rw [if_neg hmem, if_neg hq, if_neg (not_or.mpr ⟨hq, hmem⟩)]

/-! ## Ways -/

theorem walk_append {names more : List String} :
    t.walk p (names ++ more) = (t.walk p names).bind fun place => t.walk place more := by
  induction names generalizing p with
  | nil => rfl
  | cons name names ih =>
    rw [List.cons_append, walk, walk]
    split
    · rfl
    · split
      · split
        · rfl
        · exact ih
      · exact ih

/-- Directories stay. -/
def KeepsDirectories (t t' : FileTree) : Prop :=
  ∀ q, t.at? q = some .directory → t'.at? q = some .directory

theorem KeepsDirectories.trans (h : t.KeepsDirectories t') (h' : t'.KeepsDirectories t'') :
    t.KeepsDirectories t'' := fun q hq => h' q (h q hq)

theorem keepsDirectories_put {e : Entry} (hp : p ≠ []) (h : t.at? p ≠ some .directory) :
    t.KeepsDirectories (t.put p e) := by
  intro q hq
  rw [at?_put hp, if_neg]
  · exact hq
  · rintro rfl
    exact h hq

/-- A way stays with its directories. -/
theorem KeepsDirectories.walk (h : t.KeepsDirectories t') {names : List String}
    (hwalk : t.walk p names = some q) : t'.walk p names = some q := by
  induction names generalizing p with
  | nil => exact hwalk
  | cons name names ih =>
    unfold FileTree.walk at hwalk ⊢
    split at hwalk
    · cases hwalk
    · case isFalse hp =>
      rw [ne_eq, not_not] at hp
      rw [if_neg (not_not_intro (h p hp))]
      split at hwalk
      · case isTrue hname =>
        rw [if_pos hname]
        split at hwalk
        · cases hwalk
        · case isFalse hempty =>
          rw [if_neg hempty]
          exact ih hwalk
      · case isFalse hname =>
        rw [if_neg hname]
        exact ih hwalk

theorem KeepsDirectories.find? (h : t.KeepsDirectories t') {path : Path}
    (hfind : t.find? path = some q) : t'.find? path = some q := by
  unfold FileTree.find? at hfind ⊢
  split at hfind
  · case isTrue hroot =>
    rw [if_pos hroot]
    exact h.walk hfind
  · cases hfind

end FileTree

/-- The place that a path leads to, if all directories on the way exist. -/
def Path.LeadsTo (p : Path) (q : Place) : Prop := p.location = ⟨false, 0, q⟩

instance Path.decidableLeadsTo (p : Path) (q : Place) : Decidable (p.LeadsTo q) :=
  inferInstanceAs (Decidable (_ = _))

/-- The names of a path fold to a place. -/
def Path.Folds (names : List String) (q : Place) : Prop :=
  names.foldl (Path.foldPart false) (0, []) = (0, q.reverse)

namespace Path

variable {p : Path} {q : Place} {names : List String}

theorem leadsTo_iff : p.LeadsTo q ↔ p.root = "" ∧ Folds p.parts q := by
  by_cases hroot : p.root = ""
  · simp [LeadsTo, location, hroot, Folds, Prod.ext_iff, List.reverse_eq_iff]
  · simp [LeadsTo, location, hroot]

theorem LeadsTo.unique {q' : Place} (h : p.LeadsTo q) (h' : p.LeadsTo q') : q = q' :=
  congrArg Location.parts (h.symm.trans h')

theorem Folds.append_name (h : Folds names q) {part : String} (hpart : part ≠ "..") :
    Folds (names ++ [part]) (q ++ [part]) := by
  unfold Folds at h ⊢
  simp [List.foldl_append, h, foldPart, hpart]

theorem Folds.append_up (h : Folds names q) (hq : q ≠ []) :
    Folds (names ++ [".."]) q.dropLast := by
  obtain rfl | ⟨above, part, rfl⟩ := List.eq_nil_or_concat q
  · exact absurd rfl hq
  · unfold Folds at h ⊢
    simp [List.foldl_append, h, foldPart]

/-- A path with a last name leads into the directory that it leads to without. -/
theorem LeadsTo.child (h : p.parent.LeadsTo q) (hname : p.name ≠ "") (hup : p.name ≠ "..") :
    p.parts = p.parent.parts ++ [p.name] ∧ p.LeadsTo (q ++ [p.name]) := by
  obtain ⟨hroot, hfolds⟩ := leadsTo_iff.mp h
  obtain hparts | ⟨above, part, hparts⟩ := List.eq_nil_or_concat p.parts
  · simp [name, hparts] at hname
  · have heq : p.parts = p.parent.parts ++ [p.name] := by simp [parent, name, hparts]
    refine ⟨heq, leadsTo_iff.mpr ⟨hroot, ?_⟩⟩
    rw [heq]
    exact hfolds.append_name hup

end Path

namespace FileTree

variable {t t' t'' : FileTree} {p q : Place} {names : List String}

/-- A place on the way that names lead, the last name included. -/
def OnWay (names : List String) (q : Place) : Prop := ∃ part, part <+: names ∧ Path.Folds part q

/-- Some more directories, all in certain places. -/
def Grows (ways : Place → Prop) (t t' : FileTree) : Prop :=
  ∀ q, t'.at? q = t.at? q ∨ t.at? q = none ∧ t'.at? q = some .directory ∧ ways q

namespace Grows

variable {ways : Place → Prop}

theorem refl (t : FileTree) : t.Grows ways t := fun _ => .inl rfl

theorem trans (h : Grows ways t t') (h' : Grows ways t' t'') : Grows ways t t'' := by
  intro q
  rcases h' q with heq | ⟨hnone, hdir, hway⟩
  · rw [heq]
    exact h q
  · rcases h q with heq | ⟨-, hdir', -⟩
    · exact .inr ⟨heq ▸ hnone, hdir, hway⟩
    · rw [hdir'] at hnone
      cases hnone

theorem keepsDirectories (h : Grows ways t t') : t.KeepsDirectories t' := by
  intro q hq
  rcases h q with heq | ⟨hnone, -, -⟩
  · exact heq.trans hq
  · rw [hq] at hnone
    cases hnone

end Grows

/-- What making the directories of names comes to, from a place on that the names before have led
to. If it returns a place, all names lead there. -/
structure Makes (before names : List String) (p : Place) (result : Except FileFault Place)
    (t t' : FileTree) : Prop where
  grows : Grows (OnWay (before ++ names)) t t'
  returns : ∀ q, result = .ok q → t'.walk p names = some q ∧ Path.Folds (before ++ names) q ∧
    ∀ q', q' <+: q → t'.at? q' = some .directory

namespace Makes

variable {before : List String} {result : Except FileFault Place}

theorem refused {fault : FileFault} : Makes before names p (.error fault) t t := ⟨.refl _, nofun⟩

/-- One name leads up before the others. -/
theorem up (h : Makes (before ++ [".."]) names p.dropLast result t t') (hp : p ≠ [])
    (hdir : t.at? p = some .directory) : Makes before (".." :: names) p result t t' := by
  obtain ⟨hgrows, hreturns⟩ := h
  rw [← List.append_cons] at hgrows hreturns
  refine ⟨hgrows, fun q hq => ?_⟩
  obtain ⟨hwalk, hrest⟩ := hreturns q hq
  have hempty : ¬p.isEmpty = true := by simpa using hp
  refine ⟨?_, hrest⟩
  rw [walk, if_neg (not_not_intro (hgrows.keepsDirectories p hdir)), if_pos rfl, if_neg hempty]
  exact hwalk

/-- One name leads down before the others, to a directory that is there or has been made. -/
theorem down {t₁ : FileTree} {name : String}
    (h : Makes (before ++ [name]) names (p ++ [name]) result t₁ t') (hname : name ≠ "..")
    (hgrows : Grows (OnWay (before ++ name :: names)) t t₁) (hdir : t.at? p = some .directory) :
    Makes before (name :: names) p result t t' := by
  obtain ⟨hgrows', hreturns⟩ := h
  rw [← List.append_cons] at hgrows' hreturns
  have hall := hgrows.trans hgrows'
  refine ⟨hall, fun q hq => ?_⟩
  obtain ⟨hwalk, hrest⟩ := hreturns q hq
  refine ⟨?_, hrest⟩
  rw [walk, if_neg (not_not_intro (hall.keepsDirectories p hdir)), if_neg hname]
  exact hwalk

end Makes

/-- A directory made on the way that names lead. -/
theorem grows_put {before : List String} {name : String} (hbefore : Path.Folds before p)
    (hname : name ≠ "..") (hnone : t.at? (p ++ [name]) = none) :
    Grows (OnWay (before ++ name :: names)) t (t.put (p ++ [name]) .directory) := by
  intro q
  rw [at?_put (by simp)]
  split
  · case isTrue hq =>
    subst hq
    have hpart : before ++ [name] <+: before ++ name :: names := by simp
    exact .inr ⟨hnone, rfl, _, hpart, hbefore.append_name hname⟩
  · exact .inl rfl

/-- Making directories on the way from a place, behind the names that have led there. -/
theorem makeDirectories_spec {before : List String} {result : Except FileFault Place}
    (hbefore : Path.Folds before p) (hdirs : ∀ q, q <+: p → t.at? q = some .directory)
    (h : t.makeDirectories p names = (result, t')) : Makes before names p result t t' := by
  induction names generalizing t p before with
  | nil =>
    cases h
    refine ⟨.refl _, fun q hq => ?_⟩
    cases hq
    exact ⟨rfl, by simpa using hbefore, hdirs⟩
  | cons name names ih =>
    have hdir := hdirs p (List.prefix_refl p)
    unfold makeDirectories at h
    split at h
    · case isTrue hname =>
      subst hname
      split at h
      · cases h
        exact .refused
      · case isFalse hempty =>
        have hp : p ≠ [] := by simpa using hempty
        have habove : ∀ q, q <+: p.dropLast → t.at? q = some .directory :=
          fun q hq => hdirs q (hq.trans (List.dropLast_prefix p))
        exact (ih (hbefore.append_up hp) habove h).up hp hdir
    · case isFalse hname =>
      have hbelow {t₁ : FileTree} (hkeeps : t.KeepsDirectories t₁)
          (hnext : t₁.at? (p ++ [name]) = some .directory) :
          ∀ q, q <+: p ++ [name] → t₁.at? q = some .directory := by
        intro q hq
        rcases List.prefix_concat_iff.mp hq with rfl | hq
        · exact hnext
        · exact hkeeps q (hdirs q hq)
      dsimp only at h
      split at h
      · case h_1 hnext =>
        have hmakes := ih (hbefore.append_name hname) (hbelow (fun _ => id) hnext) h
        exact hmakes.down hname (.refl t) hdir
      · cases h
        exact .refused
      · case h_3 hnone =>
        have hgrows := @grows_put t p names _ _ hbefore hname hnone
        have hnext : (t.put (p ++ [name]) .directory).at? (p ++ [name]) = some .directory := by
          rw [at?_put (by simp), if_pos rfl]
        have hmakes := ih (hbefore.append_name hname) (hbelow hgrows.keepsDirectories hnext) h
        exact hmakes.down hname hgrows hdir

/-- Making the directory of a path. -/
theorem makeDirectory_spec {path : Path} {result : Except FileFault Place}
    (h : t.makeDirectory path = (result, t')) :
    Grows (OnWay path.parts) t t' ∧ ∀ q, result = .ok q →
      path.LeadsTo q ∧ t'.walk [] path.parts = some q ∧ t'.at? q = some .directory := by
  unfold makeDirectory at h
  split at h
  · case isTrue hroot =>
    have hstart : ∀ q : Place, q <+: [] → t.at? q = some .directory := by
      intro q hq
      rw [List.prefix_nil.mp hq]
      rfl
    have hnil : Path.Folds [] [] := rfl
    have hmakes := makeDirectories_spec hnil hstart h
    refine ⟨hmakes.grows, fun q hq => ?_⟩
    obtain ⟨hwalk, hfolds, hdirs⟩ := hmakes.returns q hq
    exact ⟨Path.leadsTo_iff.mpr ⟨hroot, hfolds⟩, hwalk, hdirs q (List.prefix_refl q)⟩
  · cases h
    exact ⟨.refl _, nofun⟩

/-! ## Fresh names -/

/-- The numbered names that are tried for a temporary file. -/
def temporaryName (name : String) (n : Nat) : String := "." ++ name ++ "." ++ toString n ++ ".tmp"

theorem temporaryName_injective (name : String) : Function.Injective (temporaryName name) := by
  intro i j h
  have hlist := congrArg String.toList h
  simp only [temporaryName, String.toList_append, List.append_assoc] at hlist
  have hrest := List.append_cancel_left (List.append_cancel_left (List.append_cancel_left hlist))
  have hdigits := congrArg (fun cs => Nat.ofDigitChars 10 cs 0) (List.append_cancel_right hrest)
  simpa [Nat.toString_eq_ofList_toDigits] using hdigits

theorem temporaryName_zero {name : String} :
    temporaryName name 0 = "." ++ name ++ ".0.tmp" := by
  rw [temporaryName, String.append_assoc, String.append_assoc]
  rfl

/-- A name that cannot be used in a directory. -/
def Blocked (t : FileTree) (reserved : List String) (directory : Place) (name : String) : Prop :=
  name ∈ reserved ∨ (t.at? (directory ++ [name])).isSome

variable {reserved : List String} {directory : Place} {name : String}

/-- If the name that is found is blocked, all names that were tried are. -/
theorem blocked_of_freshName {n : Nat}
    (h : t.Blocked reserved directory (t.freshName reserved directory name n)) :
    ∀ k ≤ n, t.Blocked reserved directory (temporaryName name k) := by
  induction n with
  | zero =>
    intro k hk
    obtain rfl := Nat.le_zero.mp hk
    rw [temporaryName_zero]
    exact h
  | succ n ih =>
    unfold freshName at h
    dsimp only at h
    split at h
    · case isTrue hblocked =>
      intro k hk
      rcases Nat.lt_or_eq_of_le hk with hlt | rfl
      · exact ih h k (Nat.le_of_lt_succ hlt)
      · simpa [Blocked, temporaryName] using hblocked
    · case isFalse hfree => exact absurd h (by simpa [Blocked, temporaryName] using hfree)

/-- With as many names to try as there are reserved names and entries, a name is found. -/
theorem not_blocked_freshName {n : Nat} (h : t.entries.length + reserved.length ≤ n) :
    ¬t.Blocked reserved directory (t.freshName reserved directory name n) := by
  intro hblocked
  have hall := blocked_of_freshName hblocked
  have hnodup : ((List.range (n + 1)).map (temporaryName name)).Nodup :=
    List.nodup_range.map (temporaryName_injective name)
  have hsub : (List.range (n + 1)).map (temporaryName name) ⊆
      reserved ++ t.entries.map fun e => e.1.getLastD "" := by
    intro candidate hmem
    obtain ⟨k, hk, rfl⟩ := List.mem_map.mp hmem
    rcases hall k (Nat.le_of_lt_succ (List.mem_range.mp hk)) with hreserved | hsome
    · exact List.mem_append_left _ hreserved
    · refine List.mem_append_right _ ?_
      rw [at?_of_ne_nil (by simp), Option.isSome_map] at hsome
      obtain ⟨e, he⟩ := Option.isSome_iff_exists.mp hsome
      have hplace : e.1 = directory ++ [temporaryName name k] := by simpa using List.find?_some he
      exact List.mem_map.mpr ⟨e, List.mem_of_find?_eq_some he, by simp [hplace]⟩
  have hlength := (List.subperm_of_subset hnodup hsub).length_le
  simp at hlength
  omega

/-! ## Staging -/

/-- A file waits under a temporary name for its place: its directory exists, and its text is
there. -/
structure Awaits (t : FileTree) (reserved : List String) (s : Staged) (f : Path × String) :
    Prop where
  path : s.path = f.1
  name : s.name = f.1.name
  leads : f.1.parent.LeadsTo s.directory
  walk : t.walk [] f.1.parent.parts = some s.directory
  inside : t.at? s.directory = some .directory
  temporary : ∃ other, s.temporary = s.directory ++ [other] ∧ other ∉ reserved
  text : t.at? s.temporary = some (.file (.text f.2))

/-- What staging leaves: the first files wait, each under a name of its own that was free, and there
are more directories on the ways to all of them. -/
structure Stages (reserved : List String) (files : List (Path × String)) (staged : List Staged)
    (t t' : FileTree) : Prop where
  awaits : List.Forall₂ (t'.Awaits reserved) staged (files.take staged.length)
  distinct : (staged.map (·.temporary)).Nodup
  free : ∀ s ∈ staged, t.at? s.temporary = none
  grows : ∀ q, q ∉ staged.map (·.temporary) → t'.at? q = t.at? q ∨
    t.at? q = none ∧ t'.at? q = some .directory ∧ ∃ f ∈ files, OnWay f.1.parent.parts q

theorem Awaits.mono {s : Staged} {f : Path × String} (h : t.Awaits reserved s f)
    (hkeeps : t.KeepsDirectories t') (hsame : t'.at? s.temporary = t.at? s.temporary) :
    t'.Awaits reserved s f :=
  ⟨h.path, h.name, h.leads, hkeeps.walk h.walk, hkeeps _ h.inside, h.temporary, hsame.trans h.text⟩

theorem Awaits.temporary_ne_nil {s : Staged} {f : Path × String} (h : t.Awaits reserved s f) :
    s.temporary ≠ [] := by
  obtain ⟨other, hother, -⟩ := h.temporary
  simp [hother]

/-- Waiting files are not in the way of any place whose name is reserved. -/
theorem Awaits.temporary_ne {s : Staged} {f : Path × String} (h : t.Awaits reserved s f)
    (hname : name ∈ reserved) : s.temporary ≠ directory ++ [name] := by
  obtain ⟨other, hother, hfree⟩ := h.temporary
  rw [hother]
  intro heq
  obtain ⟨-, hlast⟩ := List.append_inj' heq rfl
  obtain rfl := List.singleton_inj.mp hlast
  exact hfree hname

theorem Stages.keepsDirectories {files : List (Path × String)} {staged : List Staged}
    (h : Stages reserved files staged t t') : t.KeepsDirectories t' := by
  intro q hq
  have hmem : q ∉ staged.map (·.temporary) := by
    intro hmem
    obtain ⟨s, hs, rfl⟩ := List.mem_map.mp hmem
    rw [h.free s hs] at hq
    cases hq
  rcases h.grows q hmem with heq | ⟨hnone, -, -⟩
  · exact heq.trans hq
  · rw [hq] at hnone
    cases hnone

/-- One more file staged before the others. -/
theorem Stages.cons {t₁ : FileTree} {files : List (Path × String)} {staged : List Staged}
    {s : Staged} {f : Path × String} (hgrows : Grows (OnWay f.1.parent.parts) t t₁)
    (hfree : t₁.at? s.temporary = none)
    (hs : (t₁.put s.temporary (.file (.text f.2))).Awaits reserved s f)
    (h : Stages reserved files staged (t₁.put s.temporary (.file (.text f.2))) t') :
    Stages reserved (f :: files) (s :: staged) t t' := by
  have hput (q : Place) : (t₁.put s.temporary (.file (.text f.2))).at? q =
      if q = s.temporary then some (.file (.text f.2)) else t₁.at? q := at?_put hs.temporary_ne_nil
  have hmem : s.temporary ∉ staged.map (·.temporary) := by
    intro hmem
    obtain ⟨s', hs', heq⟩ := List.mem_map.mp hmem
    have hnone := h.free s' hs'
    rw [heq, hs.text] at hnone
    cases hnone
  have hempty {q : Place} (hq : t₁.at? q = none) : t.at? q = none := by
    rcases hgrows q with heq | ⟨hnone, -, -⟩
    · exact heq.symm.trans hq
    · exact hnone
  have hsame : t'.at? s.temporary =
      (t₁.put s.temporary (.file (.text f.2))).at? s.temporary := by
    rcases h.grows _ hmem with heq | ⟨hnone, -, -⟩
    · exact heq
    · rw [hs.text] at hnone
      cases hnone
  refine ⟨.cons (hs.mono h.keepsDirectories hsame) h.awaits, List.nodup_cons.mpr ⟨hmem, h.distinct⟩,
    List.forall_mem_cons.mpr ⟨hempty hfree, fun s' hs' => ?_⟩, fun q hq => ?_⟩
  · have hfree' := h.free s' hs'
    rw [hput] at hfree'
    split at hfree'
    · cases hfree'
    · exact hempty hfree'
  · rw [List.map_cons, List.mem_cons, not_or] at hq
    have hrest := h.grows q hq.2
    rw [hput, if_neg hq.1] at hrest
    rcases hrest with heq | ⟨hnone, hdir, f', hf', hway⟩
    · rw [heq]
      exact (hgrows q).imp_right fun ⟨hnone, hdir, hway⟩ =>
        ⟨hnone, hdir, f, List.mem_cons_self, hway⟩
    · exact .inr ⟨hempty hnone, hdir, f', List.mem_cons_of_mem f hf', hway⟩

/-- Files are staged one after the other until a directory cannot be made. -/
theorem stage_spec {files : List (Path × String)} {result : Except FileFault Unit}
    {staged : List Staged} (h : t.stage reserved files = (result, staged, t')) :
    Stages reserved files staged t t' ∧ (result = .ok () → staged.length = files.length) ∧
      (∀ fault, result = .error fault → files ≠ []) := by
  induction files generalizing t result staged with
  | nil =>
    cases h
    exact ⟨⟨.nil, .nil, nofun, fun _ _ => .inl rfl⟩, fun _ => rfl, nofun⟩
  | cons f files ih =>
    obtain ⟨path, text⟩ := f
    unfold stage at h
    split at h
    · case h_1 fault t₁ hmake =>
      obtain ⟨hgrows, -⟩ := makeDirectory_spec hmake
      cases h
      refine ⟨⟨.nil, .nil, nofun, fun q _ => (hgrows q).imp_right ?_⟩, nofun, by simp⟩
      rintro ⟨hnone, hdir, hway⟩
      exact ⟨hnone, hdir, _, List.mem_cons_self, hway⟩
    · case h_2 directory t₁ hmake =>
      obtain ⟨hgrows, hok⟩ := makeDirectory_spec hmake
      obtain ⟨hleads, hwalk, hinside⟩ := hok directory rfl
      have hfresh := @not_blocked_freshName t₁ reserved directory path.name _
        (Nat.le_refl (t₁.entries.length + reserved.length))
      obtain ⟨hreserved, hfree⟩ := not_or.mp hfresh
      rw [Option.not_isSome_iff_eq_none] at hfree
      dsimp only at h
      generalize t₁.freshName reserved directory path.name
        (t₁.entries.length + reserved.length) = other at h hreserved hfree
      have hne : directory ++ [other] ≠ [] := by simp
      have hkeeps : t₁.KeepsDirectories (t₁.put (directory ++ [other]) (.file (.text text))) :=
        keepsDirectories_put hne (by rw [hfree]; exact nofun)
      have hawaits : (t₁.put (directory ++ [other]) (.file (.text text))).Awaits reserved
          ⟨directory ++ [other], directory, path.name, path⟩ (path, text) :=
        ⟨rfl, rfl, hleads, hkeeps.walk hwalk, hkeeps _ hinside, ⟨other, rfl, hreserved⟩,
          by rw [at?_put hne, if_pos rfl]⟩
      rcases hrest : (t₁.put (directory ++ [other]) (.file (.text text))).stage reserved files with
        ⟨result', staged', t''⟩
      rw [hrest] at h
      cases h
      obtain ⟨hstages, hlength, -⟩ := ih hrest
      exact ⟨hstages.cons hgrows hfree hawaits, by simpa using hlength, by simp⟩

/-! ## Moving -/

/-- The text that files written one after the other leave at a place. -/
def textAt? : List (Path × String) → Place → Option String
  | [], _ => none
  | f :: rest, q => (textAt? rest q).or (if f.1.LeadsTo q then some f.2 else none)

/-- What a place holds after files have been written. -/
def after (t : FileTree) (files : List (Path × String)) (q : Place) : Option Entry :=
  (textAt? files q).elim (t.at? q) fun text => some (.file (.text text))

/-- A path that no file can be moved to: it has no last name or leads to a directory. -/
def Refuses (t : FileTree) (path : Path) : Prop :=
  path.name = "" ∨ path.name = ".." ∨ t.isDirectory path = true

theorem Refuses.mono {path : Path} (h : t.Refuses path) (hkeeps : t.KeepsDirectories t') :
    t'.Refuses path := by
  refine h.imp_right (Or.imp_right fun hdir => ?_)
  obtain ⟨q, hfind, hq⟩ := Option.bind_eq_some_iff.mp (of_decide_eq_true hdir)
  simp [isDirectory, get?, hkeeps.find? hfind, hkeeps q hq]

theorem Awaits.find? {s : Staged} {f : Path × String} (h : t.Awaits reserved s f)
    (hname : f.1.name ≠ "") (hup : f.1.name ≠ "..") :
    f.1.LeadsTo (s.directory ++ [s.name]) ∧ t.find? f.1 = some (s.directory ++ [s.name]) := by
  obtain ⟨hparts, hleads⟩ := h.leads.child hname hup
  obtain ⟨hroot, -⟩ := Path.leadsTo_iff.mp hleads
  rw [h.name]
  refine ⟨hleads, ?_⟩
  rw [FileTree.find?, if_pos hroot, hparts, walk_append, h.walk, Option.bind_some,
    FileTree.walk, if_neg (not_not_intro h.inside), if_neg hup]
  rfl

/-- A waiting file is refused, or moved to its place. -/
theorem moveStaged_cases {s : Staged} {f : Path × String} (h : t.Awaits reserved s f) :
    (∃ fault, t.moveStaged s = .error fault ∧ t.Refuses f.1) ∨
    (f.1.name ≠ "" ∧ f.1.name ≠ "..") ∧ ∃ place, place = s.directory ++ [f.1.name] ∧
      f.1.LeadsTo place ∧ t.at? place ≠ some .directory ∧
      t.moveStaged s = .ok ((t.erase s.temporary).put place (.file (.text f.2))) := by
  unfold moveStaged
  rw [h.text, h.name]
  dsimp only
  split
  · case isTrue hname =>
    have hname : f.1.name = "" ∨ f.1.name = ".." := by simpa using hname
    exact .inl ⟨_, rfl, or_assoc.mp (.inl hname)⟩
  · case isFalse hname =>
    have hname : f.1.name ≠ "" ∧ f.1.name ≠ ".." := by simpa using hname
    obtain ⟨hleads, hfind⟩ := h.find? hname.1 hname.2
    rw [h.name] at hleads hfind
    split
    · case isTrue hdir =>
      have hrefuses : t.isDirectory f.1 = true := by
        simp [isDirectory, get?, hfind, hdir]
      exact .inl ⟨_, rfl, .inr (.inr hrefuses)⟩
    · case isFalse hdir => exact .inr ⟨hname, _, rfl, hleads, hdir, rfl⟩

/-- Moving a file changes what two places hold. -/
theorem Awaits.at?_moved {s : Staged} {f : Path × String} (h : t.Awaits reserved s f) {place : Place}
    (hplace : place ≠ []) : ((t.erase s.temporary).put place (.file (.text f.2))).at? q =
      if q = place then some (.file (.text f.2)) else if q = s.temporary then none else t.at? q := by
  rw [at?_put hplace, at?_erase h.temporary_ne_nil]

theorem Awaits.keepsDirectories_moved {s : Staged} {f : Path × String} (h : t.Awaits reserved s f)
    {place : Place} (hplace : place ≠ []) (hdir : t.at? place ≠ some .directory) :
    t.KeepsDirectories ((t.erase s.temporary).put place (.file (.text f.2))) := by
  intro q hq
  have hplaceq : q ≠ place := fun heq => hdir (heq ▸ hq)
  have htemporary : q ≠ s.temporary := by
    rintro rfl
    rw [h.text] at hq
    cases hq
  rw [h.at?_moved hplace, if_neg hplaceq, if_neg htemporary, hq]

/-- What is left when some files have been moved, of those that were staged: directories stay, the
places of temporary files are none, and all other places hold what was written there last. -/
structure Moves (moved : List (Path × String)) (staged : List Staged) (t t' : FileTree) : Prop where
  keeps : t.KeepsDirectories t'
  places : ∀ q, q ∉ staged.map (·.temporary) → t'.at? q = t.after moved q
  waiting : ∀ q ∈ staged.map (·.temporary), t'.at? q ≠ some .directory
  named : ∀ f ∈ moved, f.1.name ≠ "" ∧ f.1.name ≠ ".."

/-- No file has been moved. -/
theorem Moves.nothing {files : List (Path × String)} {staged : List Staged}
    (h : List.Forall₂ (t.Awaits reserved) staged files) : Moves [] staged t t where
  keeps _ := id
  places _ _ := rfl
  waiting := by
    intro q hq
    obtain ⟨s, hs, rfl⟩ := List.mem_map.mp hq
    obtain ⟨f, -, hf⟩ := exists_of_forall₂ h hs
    rw [hf.text]
    exact nofun
  named := nofun

/-- One more file moved before the others. -/
theorem Moves.cons {s : Staged} {f : Path × String} {place : Place} {moved : List (Path × String)}
    {staged : List Staged} (hs : t.Awaits reserved s f) (hplace : place ≠ [])
    (hnamed : f.1.name ≠ "" ∧ f.1.name ≠ "..") (hleads : f.1.LeadsTo place)
    (hdir : t.at? place ≠ some .directory) (hne : s.temporary ≠ place)
    (hfirst : s.temporary ∉ staged.map (·.temporary))
    (h : Moves moved staged ((t.erase s.temporary).put place (.file (.text f.2))) t') :
    Moves (f :: moved) (s :: staged) t t' where
  keeps := (hs.keepsDirectories_moved hplace hdir).trans h.keeps
  places := by
    intro q hq
    rw [List.map_cons, List.mem_cons, not_or] at hq
    have hleads' : f.1.LeadsTo q ↔ q = place :=
      ⟨fun hq => (Path.LeadsTo.unique hleads hq).symm, fun hq => hq ▸ hleads⟩
    rw [h.places q hq.2, after, after, textAt?, hs.at?_moved hplace, if_neg hq.1]
    cases textAt? moved q with
    | some text => rfl
    | none =>
      simp only [hleads', Option.none_or]
      split <;> rfl
  waiting := by
    refine List.forall_mem_cons.mpr ⟨?_, h.waiting⟩
    rw [h.places _ hfirst, after, hs.at?_moved hplace, if_neg hne, if_pos rfl]
    cases textAt? moved s.temporary <;> exact nofun
  named := List.forall_mem_cons.mpr ⟨hnamed, h.named⟩

/-- Waiting files are moved up to the first one that is refused. -/
theorem moveAll_spec {files : List (Path × String)} {staged : List Staged}
    {result : Except FileFault Unit} (h : List.Forall₂ (t.Awaits reserved) staged files)
    (hdistinct : (staged.map (·.temporary)).Nodup)
    (hreserved : ∀ f ∈ files, f.1.name ∈ reserved) (hmove : t.moveAll staged = (result, t')) :
    ∃ moved rest, files = moved ++ rest ∧ Moves moved staged t t' ∧ (result = .ok () → rest = []) ∧
      ∀ fault, result = .error fault → ∃ f more, rest = f :: more ∧ t'.Refuses f.1 := by
  induction staged generalizing t files with
  | nil =>
    obtain rfl := List.forall₂_nil_left_iff.mp h
    cases hmove
    exact ⟨[], [], rfl, .nothing h, fun _ => rfl, nofun⟩
  | cons s staged ih =>
    obtain ⟨hfirst, hdistinct⟩ := List.nodup_cons.mp hdistinct
    cases h with
    | @cons _ f _ files hs hrest =>
      obtain ⟨hname, hreserved⟩ := List.forall_mem_cons.mp hreserved
      unfold moveAll at hmove
      obtain ⟨fault, heq, hrefuses⟩ | ⟨hnamed, place, hplace, hleads, hdir, heq⟩ :=
        moveStaged_cases hs
      · rw [heq] at hmove
        cases hmove
        exact ⟨[], f :: files, rfl, .nothing (.cons hs hrest), nofun,
          fun _ _ => ⟨f, files, rfl, hrefuses⟩⟩
      · rw [heq] at hmove
        have hnil : place ≠ [] := by simp [hplace]
        have hawaits : List.Forall₂ (((t.erase s.temporary).put place
            (.file (.text f.2))).Awaits reserved) staged files := by
          refine forall₂_imp_of_mem hrest fun s' hs' f' hf' =>
            hf'.mono (hs.keepsDirectories_moved hnil hdir) ?_
          have hplace' : s'.temporary ≠ place := hplace ▸ hf'.temporary_ne hname
          have htemporary : s'.temporary ≠ s.temporary := fun heq =>
            hfirst (List.mem_map.mpr ⟨s', hs', heq⟩)
          rw [hs.at?_moved hnil, if_neg hplace', if_neg htemporary]
        obtain ⟨moved, rest, rfl, hmoves, hends⟩ := ih hawaits hdistinct hreserved hmove
        have hne : s.temporary ≠ place := hplace ▸ hs.temporary_ne hname
        exact ⟨f :: moved, rest, rfl, hmoves.cons hs hnil hnamed hleads hdir hne hfirst, hends⟩

/-! ## Writing -/

/-- What a write leaves that has moved some of its files: they hold their texts, and all else is as
it was, but for new directories on the ways to the files. -/
structure Written (files moved : List (Path × String)) (t t' : FileTree) : Prop where
  texts : ∀ q text, textAt? moved q = some text → t'.at? q = some (.file (.text text))
  kept : ∀ q, textAt? moved q = none → t'.at? q = t.at? q ∨
    t.at? q = none ∧ t'.at? q = some .directory ∧ ∃ f ∈ files, OnWay f.1.parent.parts q

theorem textAt?_eq_some {files : List (Path × String)} {text : String}
    (h : textAt? files q = some text) : ∃ f ∈ files, f.1.LeadsTo q ∧ f.2 = text := by
  induction files with
  | nil => cases h
  | cons f files ih =>
    rw [textAt?, Option.or_eq_some_iff] at h
    obtain h | ⟨-, h⟩ := h
    · obtain ⟨f', hf', hf⟩ := ih h
      exact ⟨f', List.mem_cons_of_mem f hf', hf⟩
    · split at h
      · case isTrue hleads => exact ⟨f, List.mem_cons_self, hleads, Option.some.inj h⟩
      · cases h

/-- Each file has its text if no two lead to one place. -/
theorem textAt?_of_mem {files : List (Path × String)} (hdistinct : (files.map (·.1.location)).Nodup)
    {f : Path × String} (hf : f ∈ files) (hleads : f.1.LeadsTo q) :
    textAt? files q = some f.2 := by
  induction files with
  | nil => cases hf
  | cons f' files ih =>
    obtain ⟨hfirst, hdistinct⟩ := List.nodup_cons.mp hdistinct
    rcases List.mem_cons.mp hf with rfl | hf
    · have hnone : textAt? files q = none := by
        cases hrest : textAt? files q with
        | none => rfl
        | some text =>
          obtain ⟨f', hf', hleads', -⟩ := textAt?_eq_some hrest
          exact absurd (List.mem_map.mpr ⟨f', hf', hleads'.trans hleads.symm⟩) hfirst
      rw [textAt?, hnone, Option.none_or, if_pos hleads]
    · rw [textAt?, ih hdistinct hf, Option.some_or]

theorem Stages.temporary_ne_nil {files : List (Path × String)} {staged : List Staged}
    (h : Stages reserved files staged t t') : ∀ s ∈ staged, s.temporary ≠ [] := by
  intro s hs
  obtain ⟨f, -, hf⟩ := exists_of_forall₂ h.awaits hs
  exact hf.temporary_ne_nil

/-- No file waits at a place whose name is reserved. -/
theorem Stages.notMem_temporary {files : List (Path × String)} {staged : List Staged}
    (h : Stages reserved files staged t t') (hname : name ∈ reserved) :
    directory ++ [name] ∉ staged.map (·.temporary) := by
  intro hmem
  obtain ⟨s, hs, heq⟩ := List.mem_map.mp hmem
  obtain ⟨f, -, hf⟩ := exists_of_forall₂ h.awaits hs
  exact hf.temporary_ne hname heq

/-- The place of a file that waits. -/
theorem Stages.find? {files : List (Path × String)} {staged : List Staged}
    (h : Stages reserved files staged t t') {f : Path × String}
    (hf : f ∈ files.take staged.length) (hname : f.1.name ≠ "" ∧ f.1.name ≠ "..") :
    ∃ directory, f.1.LeadsTo (directory ++ [f.1.name]) ∧
      t'.find? f.1 = some (directory ++ [f.1.name]) := by
  obtain ⟨s, -, hs⟩ := exists_of_forall₂ h.awaits.flip hf
  exact ⟨s.directory, hs.name ▸ hs.find? hname.1 hname.2⟩

/-- What is left once some of the staged files have been moved and the temporary files erased. -/
theorem Stages.written {t₁ : FileTree} {files moved : List (Path × String)} {staged : List Staged}
    (h : Stages reserved files staged t t₁) (hmoves : Moves moved staged t₁ t')
    (hsub : moved ⊆ files.take staged.length) (hreserved : ∀ f ∈ files, f.1.name ∈ reserved) :
    Written files moved t (staged.foldl (fun t s => t.erase s.temporary) t') where
  texts := by
    intro q text hq
    obtain ⟨f, hf, hleads, -⟩ := textAt?_eq_some hq
    obtain ⟨directory, hplace, -⟩ := h.find? (hsub hf) (hmoves.named f hf)
    obtain rfl := hleads.unique hplace
    have hmem := @Stages.notMem_temporary _ _ _ directory _ _ _ h
      (hreserved f (List.mem_of_mem_take (hsub hf)))
    rw [at?_foldl_erase h.temporary_ne_nil, if_neg hmem, hmoves.places _ hmem, after, hq,
      Option.elim_some]
  kept := by
    intro q hq
    rw [at?_foldl_erase h.temporary_ne_nil]
    split
    · case isTrue hmem =>
      -- The places of the temporary files are what they were before.
      obtain ⟨s, hs, rfl⟩ := List.mem_map.mp hmem
      exact .inl (h.free s hs).symm
    · case isFalse hmem =>
      rw [hmoves.places q hmem, after, hq, Option.elim_none]
      exact h.grows q hmem

theorem Moves.keepsDirectories_erase {moved : List (Path × String)} {staged : List Staged}
    (h : Moves moved staged t t') (hnil : ∀ s ∈ staged, s.temporary ≠ []) :
    t'.KeepsDirectories (staged.foldl (fun t s => t.erase s.temporary) t') := by
  intro q hq
  have hmem : q ∉ staged.map (·.temporary) := fun hmem => h.waiting q hmem hq
  rw [at?_foldl_erase hnil, if_neg hmem]
  exact hq

/-- A write moves all of its files, or those before one that is refused, or none because one cannot
be staged. -/
theorem writeAll_spec {files : List (Path × String)} {result : Except FileFault Unit}
    (h : t.writeAll files = (result, t')) :
    ∃ moved rest, files = moved ++ rest ∧ Written files moved t t' ∧
      (∀ f ∈ moved, ∃ q, f.1.LeadsTo q ∧ t'.find? f.1 = some q) ∧
      (result = .ok () → rest = []) ∧
      ∀ fault, result = .error fault → ∃ f more, rest = f :: more ∧
        (moved ≠ [] → t'.Refuses f.1) := by
  unfold writeAll at h
  rcases hstage : t.stage (files.map (·.1.name)) files with ⟨staging, staged, t₁⟩
  rw [hstage] at h
  obtain ⟨hstages, hlength, hne⟩ := stage_spec hstage
  have hreserved : ∀ f ∈ files, f.1.name ∈ files.map (·.1.name) :=
    fun f hf => List.mem_map.mpr ⟨f, hf, rfl⟩
  cases staging with
  | error fault =>
    cases h
    obtain ⟨f, more, rfl⟩ := List.exists_cons_of_ne_nil (hne fault rfl)
    have hwritten := hstages.written (.nothing hstages.awaits) (List.nil_subset _) hreserved
    exact ⟨[], f :: more, rfl, hwritten, nofun, nofun,
      fun _ _ => ⟨f, more, rfl, fun hmoved => absurd rfl hmoved⟩⟩
  | ok =>
    have htake : files.take staged.length = files := by rw [hlength rfl, List.take_length]
    have hall := hstages.awaits
    rw [htake] at hall
    rcases hmove : t₁.moveAll staged with ⟨moving, t₂⟩
    dsimp only at h
    rw [hmove] at h
    cases h
    obtain ⟨moved, rest, rfl, hmoves, hok, herror⟩ :=
      moveAll_spec hall hstages.distinct hreserved hmove
    have hsub : moved ⊆ (moved ++ rest).take staged.length :=
      htake.symm ▸ List.subset_append_left moved rest
    have herased := hmoves.keepsDirectories_erase hstages.temporary_ne_nil
    refine ⟨moved, rest, rfl, hstages.written hmoves hsub hreserved, fun f hf => ?_, hok,
      fun fault hfault => ?_⟩
    · obtain ⟨directory, hleads, hfind⟩ := hstages.find? (hsub hf) (hmoves.named f hf)
      exact ⟨_, hleads, (hmoves.keeps.trans herased).find? hfind⟩
    · obtain ⟨f, more, hrest, hrefuses⟩ := herror fault hfault
      exact ⟨f, more, hrest, fun _ => hrefuses.mono herased⟩

/-- The places of files hold what they held before. -/
def Spares (files : List (Path × String)) (t t' : FileTree) : Prop :=
  ∀ f ∈ files, ∀ q, f.1.LeadsTo q → t'.at? q = t.at? q

/-- A write that has moved some of its files spares their places just if the moved ones held their
texts before, and no directory was made at the place of a file. -/
theorem Written.spares_iff {files moved : List (Path × String)} (h : Written files moved t t')
    (hsub : moved ⊆ files) : Spares files t t' ↔
      (∀ q text, textAt? moved q = some text → t.at? q = some (.file (.text text))) ∧
        ∀ f ∈ files, ∀ q, f.1.LeadsTo q → t.at? q = none → t'.at? q ≠ some .directory := by
  constructor
  · intro hspares
    refine ⟨fun q text hq => ?_, fun f hf q hleads hnone => ?_⟩
    · obtain ⟨f, hf, hleads, -⟩ := textAt?_eq_some hq
      rw [← hspares f (hsub hf) q hleads]
      exact h.texts q text hq
    · rw [hspares f hf q hleads, hnone]
      exact nofun
  · rintro ⟨hheld, hmade⟩ f hf q hleads
    cases hq : textAt? moved q with
    | some text => rw [h.texts q text hq, hheld q text hq]
    | none =>
      rcases h.kept q hq with heq | ⟨hnone, hdir, -⟩
      · exact heq
      · exact absurd hdir (hmade f hf q hleads hnone)

end FileTree

namespace Run

open FileTree

/-- Telling of files leaves the files. -/
theorem tell_files (paths : List Path) (s : RunState) :
    ∃ s', (paths.forM fun file =>
        tell assemblyLogger Level.info "wrote file" [("path", .text file.toString)]) s =
      (.ok (), s') ∧ s'.files = s.files := by
  induction paths generalizing s with
  | nil => exact ⟨s, rfl, rfl⟩
  | cons path paths ih =>
    unfold List.forM
    rw [Stateful.run_bind]
    exact ih _

section

variable {s : RunState} {t' : FileTree} {files : List (Path × String)}

theorem write_of_error {fault : FileFault} (h : s.files.writeAll files = (.error fault, t')) :
    write files s = (.error (.reported (writeFault fault)), { s with files := t' }) := by
  unfold write
  rw [Stateful.run_get_bind, h]
  rfl

theorem write_of_ok (h : s.files.writeAll files = (.ok (), t')) :
    ∃ s', write files s = (.ok (files.map (·.1)), s') ∧ s'.files = t' := by
  obtain ⟨s', htell, hs'⟩ := tell_files (files.map (·.1)) { s with files := t' }
  have hset : (set { s with files := t' } : Run PUnit) s = (.ok ⟨⟩, { s with files := t' }) := rfl
  refine ⟨s', ?_, hs'⟩
  unfold write
  rw [Stateful.run_get_bind, h]
  dsimp only
  rw [Stateful.run_bind, hset]
  dsimp only
  rw [Stateful.run_bind, htell]
  rfl

end

/-- A write that returns leaves all files at their places and returns their paths in order. One that
fails has moved those before a file that is refused, or none: it spares the places of the files just
if the moved ones held their texts before and no directory was made at the place of another one.
Nothing else changes but for directories on the ways to the files, and no temporary file remains. -/
theorem write_outcome (t : FileTree) (files : List (Path × String)) :
    Triple (fun s => s.files = t) (write files)
      (fun written s => written = files.map (·.1) ∧ Written files files t s.files ∧
        ((files.map (·.1.location)).Nodup → ∀ f ∈ files, s.files.readRaw f.1 = .ok f.2))
      fun failure s => (∃ fault, failure = .reported (writeFault fault)) ∧
        ∃ moved f rest, files = moved ++ f :: rest ∧ Written files moved t s.files ∧
          (moved ≠ [] → s.files.Refuses f.1) ∧
          (Spares files t s.files ↔
            (∀ q text, textAt? moved q = some text → t.at? q = some (.file (.text text))) ∧
              ∀ f ∈ files, ∀ q, f.1.LeadsTo q → t.at? q = none →
                s.files.at? q ≠ some .directory) := by
  rintro s rfl
  rcases hwrite : s.files.writeAll files with ⟨result, t'⟩
  obtain ⟨moved, rest, hfiles, hwritten, hfound, hok, herror⟩ := writeAll_spec hwrite
  cases result with
  | error fault =>
    obtain ⟨f, more, rfl, hrefuses⟩ := herror fault rfl
    have hsub : moved ⊆ files := hfiles ▸ List.subset_append_left _ _
    rw [write_of_error hwrite]
    exact ⟨⟨fault, rfl⟩, moved, f, more, hfiles, hwritten, hrefuses, hwritten.spares_iff hsub⟩
  | ok =>
    obtain rfl := hok rfl
    rw [List.append_nil] at hfiles
    subst hfiles
    obtain ⟨s', hrun, rfl⟩ := write_of_ok hwrite
    rw [hrun]
    refine ⟨rfl, hwritten, fun hdistinct f hf => ?_⟩
    obtain ⟨q, hleads, hfind⟩ := hfound f hf
    have htext := hwritten.texts q f.2 (textAt?_of_mem hdistinct hf hleads)
    simp [readRaw, FileTree.get?, hfind, htext]

/-! ### A directory in the place of a file -/

/-- A tree with a directory. -/
def barredTree : FileTree := ⟨[(["b.py"], .directory)]⟩

/-- Two files, the second one for the place of the directory. -/
def barredFiles : List (Path × String) := [(⟨"", ["a.py"]⟩, "x\n"), (⟨"", ["b.py"]⟩, "y\n")]

theorem writeAll_barred : barredTree.writeAll barredFiles =
    (.error (.isDirectory ⟨"", ["b.py"]⟩),
      ⟨[(["b.py"], .directory), (["a.py"], .file (.text "x\n"))]⟩) := by
  decide +kernel

/-- The first file is written, and then the second one is refused. -/
theorem write_outcome_barred : ∃ failure s,
    perform { files := barredTree } (write barredFiles) = (.error failure, s) ∧
      ∃ moved f rest, barredFiles = moved ++ f :: rest ∧ moved ≠ [] ∧
        Written barredFiles moved barredTree s.files ∧ s.files.Refuses f.1 := by
  have hrun := write_of_error (s := { files := barredTree }) writeAll_barred
  have houtcome := write_outcome barredTree barredFiles { files := barredTree } rfl
  rw [hrun] at houtcome
  obtain ⟨-, moved, f, rest, hfiles, hwritten, hrefuses, -⟩ := houtcome
  have hmoved : moved ≠ [] := by
    rintro rfl
    rcases hwritten.kept ["a.py"] rfl with heq | ⟨-, hdir, -⟩
    · exact absurd heq (by decide)
    · exact absurd hdir (by decide)
  exact ⟨_, _, hrun, moved, f, rest, hfiles, hmoved, hwritten, hrefuses hmoved⟩

/-- A write that fails may have changed the places of some of its files. -/
theorem not_spares_barred : (barredFiles.map (·.1.location)).Nodup ∧ ∃ fault s,
    perform { files := barredTree } (write barredFiles) =
      (.error (.reported (writeFault fault)), s) ∧ ¬Spares barredFiles barredTree s.files := by
  refine ⟨by decide, _, _, write_of_error (s := { files := barredTree }) writeAll_barred, ?_⟩
  intro hspares
  have hsame := hspares (⟨"", ["a.py"]⟩, "x\n") List.mem_cons_self ["a.py"] (by decide)
  exact absurd hsame (by decide)

end Run

end SszSchema
