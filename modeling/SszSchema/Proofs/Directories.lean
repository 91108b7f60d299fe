import SszSchema.Proofs.Writing

/-!
# Writing into one directory

Files that all belong into one directory, which is there. Nothing has to be made on the way to them,
so a write changes only the places of the files (`FileTree.Written.at?_eq`). It succeeds unless a
directory is in one of these places, and even if it fails, names that neither a file nor a temporary
file has are listed in each directory as they were before (`FileTree.writeAll_inside`). To write the
same files again changes nothing (`FileTree.writeAll_again`).
-/

namespace SszSchema

/-- A path for a file in a directory. -/
structure Path.Inside (home path : Path) : Prop where
  parent : path.parent = home
  named : path.name ≠ ""
  below : path.name ≠ ".."

theorem Path.Inside.eq_child {home path : Path} (h : home.Inside path) :
    path = home.child path.name := by
  have hparent := h.parent
  subst hparent
  obtain hparts | ⟨above, part, hparts⟩ := List.eq_nil_or_concat path.parts
  · exact absurd (by simp [name, hparts]) h.named
  · have heq : path.parts = path.parent.parts ++ [path.name] := by simp [Path.parent, name, hparts]
    rw [child, ← heq]
    rfl

namespace FileTree

variable {t t' t'' : FileTree} {home : Path} {d p q : Place} {name : String} {names : List String}
  {files : List (Path × String)} {result : Except FileFault Unit}

/-! ## Directories at the end of a path -/

/-- A path leads to a directory. -/
structure DirectoryAt (t : FileTree) (path : Path) (d : Place) : Prop where
  found : t.find? path = some d
  directory : t.at? d = some .directory

theorem directory_of_walk (hwalk : t.walk p names = some d) (hd : t.at? d = some .directory) :
    t.at? p = some .directory := by
  cases names with
  | nil =>
    obtain rfl := Option.some.inj hwalk
    exact hd
  | cons name names =>
    unfold walk at hwalk
    split at hwalk
    · cases hwalk
    · case isFalse hp => simpa using hp

/-- No directory is made on a way that leads to one. -/
theorem makeDirectories_of_walk (hwalk : t.walk p names = some d)
    (hd : t.at? d = some .directory) : t.makeDirectories p names = (.ok d, t) := by
  induction names generalizing p with
  | nil =>
    obtain rfl := Option.some.inj hwalk
    rfl
  | cons name names ih =>
    unfold walk at hwalk
    unfold makeDirectories
    split at hwalk
    · cases hwalk
    split at hwalk
    · case isTrue hname =>
      rw [if_pos hname]
      split at hwalk
      · cases hwalk
      · case isFalse hp =>
        rw [if_neg hp]
        exact ih hwalk
    · case isFalse hname =>
      rw [if_neg hname]
      dsimp only
      rw [directory_of_walk hwalk hd]
      exact ih hwalk

/-- All places on a way that leads to a directory are directories. -/
theorem directory_of_prefix {before part : List String} (hbefore : Path.Folds before p)
    (hwalk : t.walk p names = some d) (hd : t.at? d = some .directory) (hpart : part <+: names)
    (hfolds : Path.Folds (before ++ part) q) : t.at? q = some .directory := by
  induction part generalizing p before names with
  | nil =>
    rw [List.append_nil] at hfolds
    have hq : p = q := List.reverse_injective (Prod.mk.inj (hbefore.symm.trans hfolds)).2
    exact hq ▸ directory_of_walk hwalk hd
  | cons name part ih =>
    obtain ⟨names, rfl⟩ := hpart
    rw [List.append_cons] at hfolds
    rw [List.cons_append] at hwalk
    unfold walk at hwalk
    split at hwalk
    · cases hwalk
    split at hwalk
    · case isTrue hname =>
      subst hname
      split at hwalk
      · cases hwalk
      · case isFalse hp =>
        have hp : p ≠ [] := by simpa using hp
        exact ih (hbefore.append_up hp) hwalk (List.prefix_append _ _) hfolds
    · case isFalse hname =>
      exact ih (hbefore.append_name hname) hwalk (List.prefix_append _ _) hfolds

namespace DirectoryAt

theorem mono (h : t.DirectoryAt home d) (hkeeps : t.KeepsDirectories t') : t'.DirectoryAt home d :=
  ⟨hkeeps.find? h.found, hkeeps d h.directory⟩

theorem walk (h : t.DirectoryAt home d) : home.root = "" ∧ t.walk [] home.parts = some d := by
  have hfound := h.found
  unfold FileTree.find? at hfound
  split at hfound
  · case isTrue hroot => exact ⟨hroot, hfound⟩
  · cases hfound

theorem makeDirectory (h : t.DirectoryAt home d) : t.makeDirectory home = (.ok d, t) := by
  obtain ⟨hroot, hwalk⟩ := h.walk
  rw [FileTree.makeDirectory, if_pos hroot]
  exact makeDirectories_of_walk hwalk h.directory

theorem leadsTo (h : t.DirectoryAt home d) : home.LeadsTo d :=
  ((makeDirectory_spec h.makeDirectory).2 d rfl).1

theorem of_onWay (h : t.DirectoryAt home d) (hq : OnWay home.parts q) :
    t.at? q = some .directory := by
  obtain ⟨part, hpart, hfolds⟩ := hq
  have hnil : Path.Folds [] [] := rfl
  exact directory_of_prefix hnil h.walk.2 h.directory hpart hfolds

/-- Writing into the directory makes no directories. -/
theorem at?_eq (h : t.DirectoryAt home d) (hfiles : ∀ f ∈ files, home.Inside f.1)
    (hgrown : t'.at? q = t.at? q ∨ t.at? q = none ∧ t'.at? q = some .directory ∧
      ∃ f ∈ files, OnWay f.1.parent.parts q) : t'.at? q = t.at? q := by
  rcases hgrown with heq | ⟨hnone, -, f, hf, hway⟩
  · exact heq
  · rw [(hfiles f hf).parent] at hway
    rw [h.of_onWay hway] at hnone
    cases hnone

/-- The place of a file in the directory. -/
theorem leadsTo_child (h : t.DirectoryAt home d) (hname : name ≠ "..") :
    (home.child name).LeadsTo (d ++ [name]) := by
  obtain ⟨hroot, hfolds⟩ := Path.leadsTo_iff.mp h.leadsTo
  exact Path.leadsTo_iff.mpr ⟨hroot, hfolds.append_name hname⟩

theorem leadsTo_inside (h : t.DirectoryAt home d) {path : Path} (hpath : home.Inside path) :
    path.LeadsTo (d ++ [path.name]) := by
  have hleads := h.leadsTo_child hpath.below
  rwa [← hpath.eq_child] at hleads

theorem find?_child (h : t.DirectoryAt home d) (hname : name ≠ "..") :
    t.find? (home.child name) = some (d ++ [name]) := by
  obtain ⟨hroot, hwalk⟩ := h.walk
  have hroot' : (home.child name).root = "" := hroot
  rw [FileTree.find?, if_pos hroot', Path.child, walk_append, hwalk, Option.bind_some,
    FileTree.walk, if_neg (not_not_intro h.directory), if_neg hname]
  rfl

end DirectoryAt

/-! ## Names in a directory -/

/-- Names of a kind are listed in each directory as before. -/
def KeepsNames (kind : String → Bool) (t t' : FileTree) : Prop :=
  ∀ d, (t'.namesAt d).filter kind = (t.namesAt d).filter kind

namespace KeepsNames

variable {kind : String → Bool}

theorem refl (t : FileTree) : KeepsNames kind t t := fun _ => rfl

theorem trans (h : KeepsNames kind t t') (h' : KeepsNames kind t' t'') : KeepsNames kind t t'' :=
  fun d => (h' d).trans (h d)

theorem put {e : Entry} (hname : kind name = false) : KeepsNames kind t (t.put (p ++ [name]) e) := by
  intro d
  unfold FileTree.put namesAt
  split
  · rw [List.filterMap_map]
    congr 2
    funext old
    by_cases hold : old.1 = p ++ [name] <;> simp [hold]
  · rw [List.filterMap_append, List.filter_append]
    by_cases hd : p = d <;> simp [hd, hname]

theorem erase (hname : kind name = false) : KeepsNames kind t (t.erase (p ++ [name])) := by
  intro d
  unfold FileTree.erase namesAt
  rw [List.filter_filterMap, List.filter_filterMap, List.filterMap_filter]
  congr 1
  funext old
  by_cases hold : old.1 = p ++ [name]
  · by_cases hd : p = d <;> simp [hold, hd, hname, Option.filter_some]
  · simp [hold]

/-- The names of staged files, and those they have until they are moved, are of another kind. -/
def Avoids (kind : String → Bool) (staged : List Staged) : Prop :=
  ∀ s ∈ staged, kind s.name = false ∧ ∃ p name, s.temporary = p ++ [name] ∧ kind name = false

theorem foldl_erase {staged : List Staged} (h : Avoids kind staged) :
    KeepsNames kind t (staged.foldl (fun t s => t.erase s.temporary) t) := by
  induction staged generalizing t with
  | nil => exact refl _
  | cons s staged ih =>
    obtain ⟨⟨-, p, name, htemporary, hname⟩, hstaged⟩ := List.forall_mem_cons.mp h
    rw [List.foldl_cons, htemporary]
    exact (erase hname).trans (ih hstaged)

theorem moveAll {staged : List Staged} (h : Avoids kind staged)
    (hmove : t.moveAll staged = (result, t')) : KeepsNames kind t t' := by
  induction staged generalizing t with
  | nil =>
    cases hmove
    exact refl _
  | cons s staged ih =>
    obtain ⟨⟨hname, p, temporary, htemporary, hkind⟩, hstaged⟩ := List.forall_mem_cons.mp h
    unfold FileTree.moveAll at hmove
    split at hmove
    · cases hmove
      exact refl _
    · case h_2 t₁ hmoved =>
      refine trans ?_ (ih hstaged hmove)
      unfold moveStaged at hmoved
      split at hmoved
      · cases hmoved
      split at hmoved
      · cases hmoved
      dsimp only at hmoved
      split at hmoved
      · cases hmoved
      · obtain rfl := Except.ok.inj hmoved
        rw [htemporary]
        exact (erase hkind).trans (put hname)

end KeepsNames

theorem exists_freshName {reserved : List String} (n : Nat) :
    ∃ k, t.freshName reserved d name n = temporaryName name k := by
  induction n with
  | zero => exact ⟨0, temporaryName_zero.symm⟩
  | succ n ih =>
    unfold freshName
    dsimp only
    split
    · exact ih
    · exact ⟨n + 1, rfl⟩

/-! ## Writing -/

/-- In a directory that is there all files are staged. -/
theorem stage_inside (reserved : List String) (h : t.DirectoryAt home d)
    (hfiles : ∀ f ∈ files, home.Inside f.1) :
    ∃ staged t', t.stage reserved files = (.ok (), staged, t') ∧
      (∀ s ∈ staged, s.name ∈ files.map (·.1.name) ∧
        ∃ k, s.temporary = d ++ [temporaryName s.name k]) ∧
      ∀ kind : String → Bool, (∀ name k, kind (temporaryName name k) = false) →
        KeepsNames kind t t' := by
  induction files generalizing t with
  | nil => exact ⟨[], t, rfl, nofun, fun _ _ => .refl t⟩
  | cons f files ih =>
    obtain ⟨path, text⟩ := f
    obtain ⟨⟨rfl, -, -⟩, hfiles⟩ := List.forall_mem_cons.mp hfiles
    have hfresh := @not_blocked_freshName t reserved d path.name _
      (Nat.le_refl (t.entries.length + reserved.length))
    obtain ⟨k, hk⟩ := @exists_freshName t d path.name reserved (t.entries.length + reserved.length)
    rw [hk] at hfresh
    have hfree : t.at? (d ++ [temporaryName path.name k]) = none := by
      simpa using (not_or.mp hfresh).2
    have hkeeps : t.KeepsDirectories
        (t.put (d ++ [temporaryName path.name k]) (.file (.text text))) :=
      keepsDirectories_put (by simp) (by rw [hfree]; exact nofun)
    obtain ⟨staged, t', hstage, hstaged, hnames⟩ := ih (h.mono hkeeps) hfiles
    refine ⟨⟨d ++ [temporaryName path.name k], d, path.name, path⟩ :: staged, t', ?_, ?_,
      fun kind hkind => (KeepsNames.put (hkind _ _)).trans (hnames kind hkind)⟩
    · unfold stage
      rw [h.makeDirectory]
      dsimp only
      rw [hk, hstage]
    · refine List.forall_mem_cons.mpr ⟨⟨List.mem_cons_self, k, rfl⟩, fun s hs => ?_⟩
      exact (hstaged s hs).imp_left (List.mem_cons_of_mem _)

/-- Where no directory is missing, a write changes nothing but the places of its files. -/
theorem Written.at?_eq {moved : List (Path × String)} (h : Written files moved t t')
    (hhome : t.DirectoryAt home d) (hfiles : ∀ f ∈ files, home.Inside f.1) :
    t'.at? q = t.after moved q := by
  unfold after
  cases hq : textAt? moved q with
  | some text => exact h.texts q text hq
  | none => exact hhome.at?_eq hfiles (h.kept q hq)

/-- A file whose place is not a directory is not refused once all files wait. -/
theorem Stages.not_refuses {reserved : List String} {staged : List Staged}
    {moved : List (Path × String)} (h : Stages reserved files staged t t')
    (hmoves : Moves moved staged t' t'') (hhome : t.DirectoryAt home d)
    (hfiles : ∀ f ∈ files, home.Inside f.1)
    {f : Path × String} (hf : f ∈ files) (hfree : t.at? (d ++ [f.1.name]) ≠ some .directory) :
    ¬t''.Refuses f.1 := by
  have hinside := hfiles f hf
  rintro (hempty | hup | hdir)
  · exact hinside.named hempty
  · exact hinside.below hup
  · have hplace := ((hhome.mono h.keepsDirectories).mono hmoves.keeps).find?_child hinside.below
    rw [← hinside.eq_child] at hplace
    replace hdir : t''.at? (d ++ [f.1.name]) = some .directory := by
      simpa [isDirectory, get?, hplace] using hdir
    have hmem : d ++ [f.1.name] ∉ staged.map (·.temporary) := fun hmem => hmoves.waiting _ hmem hdir
    rw [hmoves.places _ hmem, after] at hdir
    cases htext : textAt? moved (d ++ [f.1.name]) with
    | some text => simp [htext] at hdir
    | none =>
      rw [htext, Option.elim_none, hhome.at?_eq hfiles (h.grows _ hmem)] at hdir
      exact hfree hdir

/-- A write into a directory that is there. -/
theorem writeAll_inside (h : t.DirectoryAt home d) (hfiles : ∀ f ∈ files, home.Inside f.1)
    (hwrite : t.writeAll files = (result, t')) :
    t'.DirectoryAt home d ∧
      (∀ kind : String → Bool, (∀ name k, kind (temporaryName name k) = false) →
        (∀ f ∈ files, kind f.1.name = false) → KeepsNames kind t t') ∧
      ((∀ f ∈ files, t.at? (d ++ [f.1.name]) ≠ some .directory) → result = .ok ()) := by
  obtain ⟨staged, t₁, hstage, hstaged, hnames⟩ := stage_inside (files.map (·.1.name)) h hfiles
  obtain ⟨hstages, hlength, -⟩ := stage_spec hstage
  have hall := hstages.awaits
  rw [hlength rfl, List.take_length] at hall
  rcases hmove : t₁.moveAll staged with ⟨moving, t₂⟩
  obtain ⟨moved, rest, rfl, hmoves, -, herror⟩ :=
    moveAll_spec hall hstages.distinct (fun f hf => List.mem_map.mpr ⟨f, hf, rfl⟩) hmove
  unfold writeAll at hwrite
  rw [hstage] at hwrite
  dsimp only at hwrite
  rw [hmove] at hwrite
  obtain ⟨rfl, rfl⟩ := Prod.mk.inj hwrite
  have hinside : t₂.DirectoryAt home d := (h.mono hstages.keepsDirectories).mono hmoves.keeps
  refine ⟨hinside.mono (hmoves.keepsDirectories_erase hstages.temporary_ne_nil),
    fun kind hkind hkind' => ?_, fun hfree => ?_⟩
  · have havoids : KeepsNames.Avoids kind staged := by
      intro s hs
      obtain ⟨hname, k, hk⟩ := hstaged s hs
      obtain ⟨f, hf, hname⟩ := List.mem_map.mp hname
      exact ⟨hname ▸ hkind' f hf, d, _, hk, hkind _ _⟩
    exact ((hnames kind hkind).trans (.moveAll havoids hmove)).trans (.foldl_erase havoids)
  · cases moving with
    | ok => rfl
    | error fault =>
      obtain ⟨f, more, rfl, hrefuses⟩ := herror fault rfl
      have hf : f ∈ moved ++ f :: more := by simp
      exact absurd hrefuses (hstages.not_refuses hmoves h hfiles hf (hfree f hf))

theorem written_of_ok (h : t.writeAll files = (.ok (), t')) : Written files files t t' := by
  obtain ⟨moved, rest, hfiles, hwritten, -, hok, -⟩ := writeAll_spec h
  rw [hok rfl, List.append_nil] at hfiles
  exact hfiles ▸ hwritten

theorem exists_textAt? {f : Path × String} (hf : f ∈ files) (hleads : f.1.LeadsTo q) :
    ∃ text, textAt? files q = some text := by
  induction files with
  | nil => cases hf
  | cons f' files ih =>
    rw [textAt?]
    rcases List.mem_cons.mp hf with rfl | hf
    · rw [if_pos hleads]
      cases textAt? files q <;> simp
    · obtain ⟨text, htext⟩ := ih hf
      exact ⟨text, by rw [htext, Option.some_or]⟩

/-- To write the same files again succeeds and changes nothing. -/
theorem writeAll_again (hhome : t.DirectoryAt home d) (hfiles : ∀ f ∈ files, home.Inside f.1)
    (hwrite : t.writeAll files = (.ok (), t')) :
    ∃ t'', t'.writeAll files = (.ok (), t'') ∧ ∀ q, t''.at? q = t'.at? q := by
  obtain ⟨hhome', -⟩ := writeAll_inside hhome hfiles hwrite
  rcases hagain : t'.writeAll files with ⟨result, t''⟩
  obtain ⟨-, -, hok⟩ := writeAll_inside hhome' hfiles hagain
  have hfree : ∀ f ∈ files, t'.at? (d ++ [f.1.name]) ≠ some .directory := by
    intro f hf
    obtain ⟨text, htext⟩ := exists_textAt? hf (hhome.leadsTo_inside (hfiles f hf))
    rw [(written_of_ok hwrite).texts _ text htext]
    exact nofun
  obtain rfl := hok hfree
  refine ⟨t'', rfl, fun q => ?_⟩
  rw [(written_of_ok hagain).at?_eq hhome' hfiles, after]
  cases htext : textAt? files q with
  | none => rfl
  | some text => rw [(written_of_ok hwrite).texts q text htext, Option.elim_some]

end FileTree

end SszSchema
