import Mathlib.Data.List.DropRight
import SszSchema.Output.Layout

/-!
# Normal form of texts

What `Layout.format` makes of a text, on its lines. Of the steps of `normalLines`, `squeeze` keeps
the lines with content and leaves no three blank lines in a row (`Spaced`), and the blank lines at
the ends go last. The lines that come out are `Settled`, and settled lines come out unchanged, so a
text in normal form is left alone (`normalize_normalize`).

The same text comes out if the lines are joined first and runs of line feeds are cut to three in the
text (`normalize_eq_rewritten`): all that differs before blank lines are taken from the ends is a
line feed there.
-/

namespace SszSchema

/-! ## Lines of a text -/

namespace Text

theorem dropEndWhile_eq_rdropWhile (p : Char → Bool) (cs : List Char) :
    dropEndWhile p cs = cs.rdropWhile p := rfl

theorem splitAt_eq_splitOn (sep : Char) (cs : List Char) : splitAt sep cs = cs.splitOn sep := by
  induction cs with
  | nil => rfl
  | cons c cs ih =>
    rw [splitAt, List.splitOn_cons_eq_if_modifyHead, ih]
    simp only [beq_iff_eq]
    split
    · rfl
    · cases h : cs.splitOn sep with
      | nil => exact absurd h (List.splitOn_ne_nil sep cs)
      | cons part parts => rfl

theorem joinWith_eq_intercalate (sep : List Char) (parts : List (List Char)) :
    joinWith sep parts = sep.intercalate parts := by
  fun_induction joinWith sep parts with
  | case1 => rfl
  | case2 part => simp
  | case3 part parts hne ih =>
    obtain ⟨next, rest, rfl⟩ := List.exists_cons_of_ne_nil hne
    simp [ih]

theorem joinWith_cons {part : List Char} {parts : List (List Char)} (sep : List Char)
    (h : parts ≠ []) : joinWith sep (part :: parts) = part ++ sep ++ joinWith sep parts := by
  cases parts with
  | nil => exact absurd rfl h
  | cons next rest => rfl

theorem lines_ne_nil (cs : List Char) : lines cs ≠ [] := by
  rw [lines, splitAt_eq_splitOn]
  exact List.splitOn_ne_nil _ _

theorem lines_joinWith {ls : List (List Char)} (hfeeds : ∀ l ∈ ls, '\n' ∉ l) (hne : ls ≠ []) :
    lines (joinWith ['\n'] ls) = ls := by
  rw [lines, splitAt_eq_splitOn, joinWith_eq_intercalate, List.splitOn_intercalate _ hfeeds hne]

theorem lines_append_feed (cs rest : List Char) :
    lines (cs ++ '\n' :: rest) = lines cs ++ lines rest := by
  simp only [lines, splitAt_eq_splitOn, List.splitOn_append_cons_self]

/-- A line holds no line feed. -/
theorem feed_notMem_of_mem_lines {cs l : List Char} (h : l ∈ lines cs) : '\n' ∉ l := by
  rw [lines] at h
  induction cs generalizing l with
  | nil =>
    obtain rfl := List.mem_singleton.mp h
    exact List.not_mem_nil
  | cons c cs ih =>
    rw [splitAt] at h
    split at h
    · rcases List.mem_cons.mp h with rfl | h
      · exact List.not_mem_nil
      · exact ih h
    case isFalse hc =>
      cases hsplit : splitAt '\n' cs with
      | nil =>
        rw [hsplit, List.mem_singleton] at h
        simpa [h] using Ne.symm hc
      | cons part parts =>
        rw [hsplit] at h ih
        rcases List.mem_cons.mp h with rfl | h
        · exact List.not_mem_cons_of_ne_of_not_mem (Ne.symm hc) (ih List.mem_cons_self)
        · exact ih (List.mem_cons_of_mem _ h)

/-- Carriage returns before line feeds are left out. -/
def dropReturns : List Char → List Char
  | '\r' :: '\n' :: rest => '\n' :: dropReturns rest
  | c :: rest => c :: dropReturns rest
  | [] => []

/-- What is dropped at the end of a text does not depend on what stands before the part that has all
of it. -/
theorem dropEndWhile_append (p : Char → Bool) (front cs : List Char) :
    dropEndWhile p (front ++ dropEndWhile p cs) = dropEndWhile p (front ++ cs) := by
  induction cs using List.reverseRecOn with
  | nil => rfl
  | append_singleton cs c ih =>
    simp only [dropEndWhile_eq_rdropWhile] at ih ⊢
    by_cases hc : p c = true
    · rw [List.rdropWhile_concat_pos _ _ _ hc, ih, ← List.append_assoc,
        List.rdropWhile_concat_pos _ _ _ hc]
    · rw [List.rdropWhile_concat_neg _ _ _ hc]

theorem mem_of_mem_dropEndWhile {p : Char → Bool} {cs : List Char} {c : Char}
    (h : c ∈ dropEndWhile p cs) : c ∈ cs := by
  have hkept := List.rdropWhile_prefix p cs
  exact hkept.mem h

theorem dropEndWhile_cons_congr {p : Char → Bool} {cs cs' : List Char}
    (h : dropEndWhile p cs = dropEndWhile p cs') (c : Char) :
    dropEndWhile p (c :: cs) = dropEndWhile p (c :: cs') := by
  have hcs := dropEndWhile_append p [c] cs
  rw [h, dropEndWhile_append] at hcs
  exact hcs.symm

/-- The trimmed lines of a text do not depend on how its lines are ended. -/
theorem map_lines_dropReturns (cs : List Char) :
    (lines (dropReturns cs)).map (dropEndWhile isBlank) = (lines cs).map (dropEndWhile isBlank) := by
  have hcons (c : Char) {x y : List Char} (h : (lines x).map (dropEndWhile isBlank) =
      (lines y).map (dropEndWhile isBlank)) : (lines (c :: x)).map (dropEndWhile isBlank) =
        (lines (c :: y)).map (dropEndWhile isBlank) := by
    obtain ⟨part, parts, hx⟩ := List.exists_cons_of_ne_nil (lines_ne_nil x)
    obtain ⟨part', parts', hy⟩ := List.exists_cons_of_ne_nil (lines_ne_nil y)
    rw [hx, hy, List.map_cons, List.map_cons] at h
    obtain ⟨hpart, hparts⟩ := List.cons.inj h
    rw [lines] at hx hy
    rw [lines, lines, splitAt, splitAt, hx, hy]
    split
    · simp only [List.map_cons, hpart, hparts]
    · simp only [List.map_cons, dropEndWhile_cons_congr hpart c, hparts]
  fun_induction dropReturns cs with
  | case1 rest ih =>
    have hreturn : lines ('\r' :: '\n' :: rest) = ['\r'] :: lines rest := rfl
    have hfeed : lines ('\n' :: dropReturns rest) = [] :: lines (dropReturns rest) := rfl
    rw [hreturn, hfeed, List.map_cons, List.map_cons, ih]
    rfl
  | case2 c rest _ ih => exact hcons c ih
  | case3 => rfl

end Text

namespace Layout

/-! ## Blank lines -/

/-- No three blank lines stand in a row, nor at the beginning so many that there are three with
those that stand before it. -/
def Spaced : Nat → List (List Char) → Prop
  | _, [] => True
  | run, [] :: rest => run < 2 ∧ Spaced (run + 1) rest
  | _, (_ :: _) :: rest => Spaced 0 rest

theorem spaced_squeeze (run : Nat) (ls : List (List Char)) : Spaced run (squeeze run ls) := by
  fun_induction squeeze run ls with
  | case1 => trivial
  | case2 run rest hrun ih => exact ⟨hrun, ih⟩
  | case3 run rest _ ih => exact ih
  | case4 run c line rest ih => exact ih

theorem Spaced.squeeze_eq {run : Nat} {ls : List (List Char)} (h : Spaced run ls) :
    squeeze run ls = ls := by
  fun_induction squeeze run ls with
  | case1 => rfl
  | case2 run rest _ ih => rw [ih h.2]
  | case3 run rest hrun _ => exact absurd h.1 hrun
  | case4 run c line rest ih => rw [ih h]

theorem Spaced.mono {m n : Nat} {ls : List (List Char)} (h : Spaced n ls) (hle : m ≤ n) :
    Spaced m ls := by
  fun_induction Spaced n ls generalizing m with
  | case1 => trivial
  | case2 run rest ih => exact ⟨by have := h.1; omega, ih h.2 (by omega)⟩
  | case3 run c line rest => exact h

theorem Spaced.of_append_right {run : Nat} {front ls : List (List Char)}
    (h : Spaced run (front ++ ls)) : Spaced 0 ls := by
  induction front generalizing run with
  | nil => exact h.mono (Nat.zero_le run)
  | cons l front ih =>
    cases l with
    | nil => exact ih h.2
    | cons c line => exact ih h

theorem Spaced.of_append_left {run : Nat} {ls back : List (List Char)}
    (h : Spaced run (ls ++ back)) : Spaced run ls := by
  induction ls generalizing run with
  | nil => trivial
  | cons l ls ih =>
    cases l with
    | nil => exact ⟨h.1, ih h.2⟩
    | cons c line => exact @ih 0 h

theorem Spaced.not_infix {run : Nat} {ls : List (List Char)} (h : Spaced run ls) :
    ¬List.replicate 3 [] <:+: ls := by
  rintro ⟨front, back, rfl⟩
  rw [List.append_assoc] at h
  exact absurd h.of_append_right.2.2.1 (by decide)

/-- A blank line may follow a line with content. -/
theorem Spaced.concat {run : Nat} {ls : List (List Char)} {last : List Char}
    (h : Spaced run (ls ++ [last])) (hlast : last ≠ []) : Spaced run (ls ++ [last] ++ [[]]) := by
  induction ls generalizing run with
  | nil =>
    cases last with
    | nil => exact absurd rfl hlast
    | cons c line => exact ⟨by decide, trivial⟩
  | cons l ls ih =>
    cases l with
    | nil => exact ⟨h.1, ih h.2⟩
    | cons c line => exact @ih 0 h

theorem squeeze_sublist (run : Nat) (ls : List (List Char)) : (squeeze run ls).Sublist ls := by
  fun_induction squeeze run ls with
  | case1 => exact .slnil
  | case2 run rest _ ih => exact ih.cons_cons _
  | case3 run rest _ ih => exact ih.cons _
  | case4 run c line rest ih => exact ih.cons_cons _

/-- The lines with content. -/
def contents (ls : List (List Char)) : List (List Char) := ls.filter (!·.isEmpty)

theorem contents_append (ls ms : List (List Char)) : contents (ls ++ ms) = contents ls ++ contents ms :=
  List.filter_append _ _

theorem contents_eq_nil_iff {ls : List (List Char)} : contents ls = [] ↔ ∀ l ∈ ls, l = [] := by
  simp [contents]

theorem contents_squeeze (run : Nat) (ls : List (List Char)) :
    contents (squeeze run ls) = contents ls := by
  unfold contents
  fun_induction squeeze run ls with
  | case1 => rfl
  | case2 run rest _ ih => simpa using ih
  | case3 run rest _ ih => simpa using ih
  | case4 run c line rest ih => simpa using ih

/-- Only blank lines are dropped at the ends. -/
theorem exists_eq_append_dropBlankEnds (ls : List (List Char)) :
    ∃ front back, ls = front ++ dropBlankEnds ls ++ back ∧
      (∀ l ∈ front, l = []) ∧ ∀ l ∈ back, l = [] := by
  refine ⟨ls.takeWhile List.isEmpty, (ls.dropWhile List.isEmpty).rtakeWhile List.isEmpty, ?_,
    fun l hl => List.isEmpty_iff.mp (List.mem_takeWhile_imp hl),
    fun l hl => List.isEmpty_iff.mp (List.mem_rtakeWhile_imp hl)⟩
  have hdrop : dropBlankEnds ls = (ls.dropWhile List.isEmpty).rdropWhile List.isEmpty := rfl
  rw [hdrop, List.append_assoc, List.rdropWhile_append_rtakeWhile, List.takeWhile_append_dropWhile]

theorem contents_dropBlankEnds (ls : List (List Char)) :
    contents (dropBlankEnds ls) = contents ls := by
  obtain ⟨front, back, h, hfront, hback⟩ := exists_eq_append_dropBlankEnds ls
  have hcontents := congrArg contents h
  rw [contents_append, contents_append, contents_eq_nil_iff.mpr hfront,
    contents_eq_nil_iff.mpr hback, List.nil_append, List.append_nil] at hcontents
  exact hcontents.symm

/-! ## Settled lines -/

/-- Lines as they are in normal form. -/
structure Settled (ls : List (List Char)) : Prop where
  feeds : ∀ l ∈ ls, '\n' ∉ l
  trimmed : ∀ l ∈ ls, Text.dropEndWhile Text.isBlank l = l
  spaced : Spaced 0 ls
  head : ∀ l ∈ ls.head?, l ≠ []
  last : ∀ l ∈ ls.getLast?, l ≠ []

theorem head_dropBlankEnds (ls : List (List Char)) : ∀ l ∈ (dropBlankEnds ls).head?, l ≠ [] := by
  intro l hl
  have hdropped : dropBlankEnds ls <+: ls.dropWhile List.isEmpty := List.rdropWhile_prefix _ _
  cases hdrop : ls.dropWhile List.isEmpty with
  | nil =>
    rw [hdrop, List.prefix_nil] at hdropped
    rw [hdropped] at hl
    cases hl
  | cons first rest =>
    have hfirst : first.isEmpty = false := by
      have := List.head_dropWhile_not List.isEmpty (l := ls) (by simp [hdrop])
      simpa [hdrop] using this
    rw [hdrop] at hdropped
    rcases List.prefix_cons_iff.mp hdropped with hnil | ⟨rest', hcons, -⟩
    · rw [hnil] at hl
      cases hl
    · rw [hcons] at hl
      obtain rfl := Option.some.inj hl
      exact List.isEmpty_eq_false_iff.mp hfirst

theorem last_dropBlankEnds (ls : List (List Char)) :
    ∀ l ∈ (dropBlankEnds ls).getLast?, l ≠ [] := by
  intro l hl
  obtain ⟨hne, rfl⟩ := List.mem_getLast?_eq_getLast hl
  have hlast := List.rdropWhile_last_not List.isEmpty (ls.dropWhile List.isEmpty) hne
  exact fun hnil => hlast (List.isEmpty_iff.mpr hnil)

theorem mem_of_mem_dropBlankEnds {ls : List (List Char)} {l : List Char}
    (h : l ∈ dropBlankEnds ls) : l ∈ ls := by
  obtain ⟨front, back, heq, -, -⟩ := exists_eq_append_dropBlankEnds ls
  rw [heq]
  exact List.mem_append_left _ (List.mem_append_right _ h)

theorem Spaced.dropBlankEnds {run : Nat} {ls : List (List Char)} (h : Spaced run ls) :
    Spaced 0 (dropBlankEnds ls) := by
  obtain ⟨front, back, heq, -, -⟩ := exists_eq_append_dropBlankEnds ls
  rw [heq, List.append_assoc] at h
  exact h.of_append_right.of_append_left

theorem settled_normalLines (text : List Char) : Settled (normalLines text) := by
  have hmem : ∀ l ∈ normalLines text, ∃ line ∈ Text.lines text,
      Text.dropEndWhile Text.isBlank line = l := fun l hl =>
    List.mem_map.mp ((squeeze_sublist 0 _).subset (mem_of_mem_dropBlankEnds hl))
  refine ⟨fun l hl => ?_, fun l hl => ?_, (spaced_squeeze 0 _).dropBlankEnds,
    head_dropBlankEnds _, last_dropBlankEnds _⟩
  · obtain ⟨line, hline, rfl⟩ := hmem l hl
    exact fun hfeed => Text.feed_notMem_of_mem_lines hline (Text.mem_of_mem_dropEndWhile hfeed)
  · obtain ⟨line, -, rfl⟩ := hmem l hl
    exact List.rdropWhile_idempotent _ _

theorem contents_normalLines (text : List Char) : contents (normalLines text) =
    contents ((Text.lines text).map (Text.dropEndWhile Text.isBlank)) := by
  rw [normalLines, contents_dropBlankEnds, contents_squeeze]

namespace Settled

variable {ls : List (List Char)}

theorem eq_nil_or_exists_concat (h : Settled ls) :
    ls = [] ∨ ∃ front last, ls = front ++ [last] ∧ last ≠ [] := by
  rcases List.eq_nil_or_concat ls with rfl | ⟨front, last, rfl⟩
  · exact .inl rfl
  · rw [List.concat_eq_append]
    exact .inr ⟨front, last, rfl, h.last last (by simp)⟩

theorem contents_eq_nil_iff (h : Settled ls) : contents ls = [] ↔ ls = [] := by
  rw [Layout.contents_eq_nil_iff]
  refine ⟨fun hall => ?_, fun hnil => hnil ▸ List.forall_mem_nil _⟩
  rcases h.eq_nil_or_exists_concat with hnil | ⟨front, last, rfl, hlast⟩
  · exact hnil
  · exact absurd (hall last (by simp)) hlast

/-- The lines of the text that settled lines make. -/
theorem lines_joined (h : Settled ls) (hne : ls ≠ []) :
    Text.lines (Text.joinWith ['\n'] ls ++ ['\n']) = ls ++ [[]] := by
  rw [Text.lines_append_feed, Text.lines_joinWith h.feeds hne]
  rfl

theorem joined_eq_nil_iff (h : Settled ls) : Text.joinWith ['\n'] ls = [] ↔ ls = [] := by
  refine ⟨fun hnil => by_contra fun hne => ?_, fun hnil => hnil ▸ rfl⟩
  have hlines := Text.lines_joinWith h.feeds hne
  rw [hnil] at hlines
  exact h.head [] (by rw [← hlines]; rfl) rfl

theorem spaced_concat (h : Settled ls) : Spaced 0 (ls ++ [[]]) := by
  rcases h.eq_nil_or_exists_concat with rfl | ⟨front, last, rfl, hlast⟩
  · exact ⟨by decide, trivial⟩
  · exact h.spaced.concat hlast

theorem dropBlankEnds_eq (h : Settled ls) : dropBlankEnds (ls ++ [[]]) = ls := by
  cases ls with
  | nil => rfl
  | cons first rest =>
    have hfirst : ¬first.isEmpty = true := fun hnil =>
      h.head first rfl (List.isEmpty_iff.mp hnil)
    have hdrop : (first :: rest ++ [[]]).dropWhile List.isEmpty = first :: rest ++ [[]] :=
      List.dropWhile_cons_of_neg hfirst
    have hends : dropBlankEnds (first :: rest ++ [[]]) =
        ((first :: rest ++ [[]]).dropWhile List.isEmpty).rdropWhile List.isEmpty := rfl
    rw [hends, hdrop, List.rdropWhile_concat_pos _ _ _ rfl, List.rdropWhile_eq_self_iff]
    intro hne hnil
    exact h.last _ (List.getLast?_eq_some_getLast hne) (List.isEmpty_iff.mp hnil)

/-- Settled lines come out unchanged. -/
theorem normalLines_eq (h : Settled ls) :
    normalLines (Text.joinWith ['\n'] ls ++ ['\n']) = ls := by
  by_cases hne : ls = []
  · subst hne
    rfl
  · have htrimmed : (ls ++ [[]]).map (Text.dropEndWhile Text.isBlank) = ls ++ [[]] := by
      rw [List.map_append, List.map_congr_left h.trimmed, List.map_id']
      rfl
    rw [normalLines, h.lines_joined hne, htrimmed, h.spaced_concat.squeeze_eq, h.dropBlankEnds_eq]

end Settled

/-- A text in normal form is left alone. -/
theorem normalize_normalize (text : List Char) : normalize (normalize text) = normalize text := by
  rw [normalize, normalize, (settled_normalLines text).normalLines_eq]

/-! ## Runs of line feeds -/

/-- Keeps at most three line feeds in a row; `run` counts those just kept. -/
def collapse : Nat → List Char → List Char
  | _, [] => []
  | run, c :: rest =>
      if c = '\n' then
        if run < 3 then c :: collapse (run + 1) rest else collapse run rest
      else c :: collapse 0 rest

/-- A text whose lines are trimmed, in which runs of line feeds are collapsed and those at the ends
dropped, and which is ended by one. -/
def rewritten (text : List Char) : List Char :=
  Text.stripWhile (· = '\n') (collapse 0 (Text.joinWith ['\n']
    ((Text.lines (Text.dropReturns text)).map (Text.dropEndWhile Text.isBlank)))) ++ ['\n']

/-- Lines that follow others. -/
def following (ls : List (List Char)) : List Char := ls.flatMap ('\n' :: ·)

theorem joinWith_cons_eq (l : List Char) (ls : List (List Char)) :
    Text.joinWith ['\n'] (l :: ls) = l ++ following ls := by
  induction ls generalizing l with
  | nil => simp [Text.joinWith, following]
  | cons m ls ih => rw [Text.joinWith_cons _ (List.cons_ne_nil m ls), ih]; simp [following]

theorem collapse_append {l : List Char} (hfeed : '\n' ∉ l) (hne : l ≠ []) (run : Nat)
    (rest : List Char) : collapse run (l ++ rest) = l ++ collapse 0 rest := by
  induction l generalizing run with
  | nil => exact absurd rfl hne
  | cons c l ih =>
    obtain ⟨hc, hl⟩ := List.ne_and_not_mem_of_not_mem_cons hfeed
    rw [List.cons_append, collapse, if_neg (Ne.symm hc)]
    cases l with
    | nil => rfl
    | cons d l => rw [ih hl (List.cons_ne_nil d l)]; rfl

/-- A text without the line feeds at its end. -/
def cut (cs : List Char) : List Char := Text.dropEndWhile (· = '\n') cs

theorem cut_append_congr {cs cs' : List Char} (h : cut cs = cut cs') (front : List Char) :
    cut (front ++ cs) = cut (front ++ cs') := by
  have hcs := Text.dropEndWhile_append (· = '\n') front cs
  rw [cut] at h ⊢
  rw [← hcs, h, cut, Text.dropEndWhile_append, cut]

theorem following_cons (l : List Char) (ls : List (List Char)) :
    following (l :: ls) = '\n' :: l ++ following ls := rfl

theorem collapse_feed {run : Nat} (h : run < 3) (cs : List Char) :
    collapse run ('\n' :: cs) = '\n' :: collapse (run + 1) cs := by
  rw [collapse, if_pos rfl, if_pos h]

theorem collapse_three_feed (cs : List Char) : collapse 3 ('\n' :: cs) = collapse 3 cs := by
  rw [collapse, if_pos rfl, if_neg (Nat.lt_irrefl 3)]

/-- Behind a line with content, blank lines may be counted as lines or as line feeds. A text that
has three line feeds in a row is ahead of its lines by one of them. -/
theorem cut_collapse_following {ls : List (List Char)} (hfeeds : ∀ l ∈ ls, '\n' ∉ l) :
    (∀ run ≤ 2, cut (collapse run (following ls)) = cut (following (squeeze run ls))) ∧
      cut ('\n' :: collapse 3 (following ls)) = cut (following (squeeze 2 ls)) := by
  induction ls with
  | nil => exact ⟨fun _ _ => rfl, rfl⟩
  | cons l ls ih =>
    obtain ⟨hl, hls⟩ := List.forall_mem_cons.mp hfeeds
    obtain ⟨ihrun, ihthree⟩ := ih hls
    rw [following_cons, List.cons_append]
    cases l with
    | nil =>
      rw [List.nil_append, collapse_three_feed]
      refine ⟨fun run hrun => ?_, ihthree⟩
      rw [collapse_feed (by omega), squeeze]
      split
      case isTrue htwo => exact cut_append_congr (ihrun (run + 1) htwo) ['\n']
      case isFalse htwo =>
        obtain rfl : run = 2 := by omega
        exact ihthree
    | cons c line =>
      have hne : c :: line ≠ [] := List.cons_ne_nil c line
      have hcontent := cut_append_congr (ihrun 0 (by decide)) ('\n' :: c :: line)
      refine ⟨fun run hrun => ?_, ?_⟩
      · rw [collapse_feed (by omega), collapse_append hl hne]
        exact hcontent
      · rw [collapse_three_feed, collapse_append hl hne]
        exact hcontent

theorem dropWhile_collapse (run : Nat) (cs : List Char) :
    (collapse run cs).dropWhile (· = '\n') = collapse 0 (cs.dropWhile (· = '\n')) := by
  induction cs generalizing run with
  | nil => rfl
  | cons c cs ih =>
    rw [collapse]
    split
    case isTrue hc =>
      subst hc
      split
      · rw [List.dropWhile_cons_of_pos (by simp), List.dropWhile_cons_of_pos (by simp), ih]
      · rw [List.dropWhile_cons_of_pos (by simp), ih]
    case isFalse hc =>
      rw [List.dropWhile_cons_of_neg (by simpa using hc),
        List.dropWhile_cons_of_neg (by simpa using hc), collapse, if_neg hc]

theorem dropWhile_squeeze (run : Nat) (ls : List (List Char)) :
    (squeeze run ls).dropWhile List.isEmpty = squeeze 0 (ls.dropWhile List.isEmpty) := by
  fun_induction squeeze run ls with
  | case1 => rfl
  | case2 run rest _ ih => simpa using ih
  | case3 run rest _ ih => simpa using ih
  | case4 run c line rest ih => simp [squeeze]

/-- The line feeds that begin a text are its first blank lines. -/
theorem dropWhile_joinWith {ls : List (List Char)} (hfeeds : ∀ l ∈ ls, '\n' ∉ l) :
    (Text.joinWith ['\n'] ls).dropWhile (· = '\n') =
      Text.joinWith ['\n'] (ls.dropWhile List.isEmpty) := by
  induction ls with
  | nil => rfl
  | cons l ls ih =>
    obtain ⟨hl, hls⟩ := List.forall_mem_cons.mp hfeeds
    cases l with
    | nil =>
      cases ls with
      | nil => rfl
      | cons m ls => simpa [Text.joinWith] using ih hls
    | cons c line =>
      have hc : c ≠ '\n' := Ne.symm (List.ne_of_not_mem_cons hl)
      rw [joinWith_cons_eq, List.cons_append, List.dropWhile_cons_of_neg (by simpa using hc),
        List.dropWhile_cons_of_neg (by simp), joinWith_cons_eq, List.cons_append]

/-- A line with content ends what is left of a text. -/
theorem cut_append {l : List Char} (hfeed : '\n' ∉ l) (hne : l ≠ []) (front : List Char) :
    cut (front ++ l) = front ++ l := by
  rw [cut, Text.dropEndWhile_eq_rdropWhile, List.rdropWhile_eq_self_iff]
  intro hall hlast
  rw [List.getLast_append_of_ne_nil _ hne, decide_eq_true_eq] at hlast
  exact hfeed (hlast ▸ List.getLast_mem hne)

/-- The line feeds that end a text are its last blank lines. -/
theorem cut_joinWith {ls : List (List Char)} (hfeeds : ∀ l ∈ ls, '\n' ∉ l) :
    cut (Text.joinWith ['\n'] ls) = Text.joinWith ['\n'] (ls.rdropWhile List.isEmpty) := by
  induction ls using List.reverseRecOn with
  | nil => rfl
  | append_singleton ls last ih =>
    have hls := ih fun l hl => hfeeds l (List.mem_append_left _ hl)
    have hlast : '\n' ∉ last := hfeeds last (by simp)
    obtain ⟨front, hfront, hblank⟩ : ∃ front, Text.joinWith ['\n'] (ls ++ [last]) = front ++ last ∧
        cut front = cut (Text.joinWith ['\n'] ls) := by
      cases ls with
      | nil => exact ⟨[], rfl, rfl⟩
      | cons l ls =>
        refine ⟨Text.joinWith ['\n'] (l :: ls) ++ ['\n'], ?_,
          List.rdropWhile_concat_pos _ _ _ (by simp)⟩
        simp [joinWith_cons_eq, following]
    rw [hfront]
    by_cases hnil : last = []
    · rw [hnil, List.append_nil, hblank, hls, List.rdropWhile_concat_pos _ _ _ rfl]
    · rw [cut_append hlast hnil, List.rdropWhile_concat_neg _ _ _ (by simpa using hnil), hfront]

/-- It comes to the same whether blank lines are dropped or line feeds. -/
theorem normalize_eq_rewritten (text : List Char) : normalize text = rewritten text := by
  rw [normalize, normalLines, rewritten, Text.map_lines_dropReturns]
  have hfeeds : ∀ l ∈ (Text.lines text).map (Text.dropEndWhile Text.isBlank), '\n' ∉ l := by
    intro l hl
    obtain ⟨line, hline, rfl⟩ := List.mem_map.mp hl
    exact fun h => Text.feed_notMem_of_mem_lines hline (Text.mem_of_mem_dropEndWhile h)
  generalize (Text.lines text).map (Text.dropEndWhile Text.isBlank) = ls at hfeeds
  have hfirst : ∀ l ∈ ls.dropWhile List.isEmpty, '\n' ∉ l := fun l hl =>
    hfeeds l ((List.dropWhile_sublist _).mem hl)
  have hends : dropBlankEnds (squeeze 0 ls) =
      ((squeeze 0 ls).dropWhile List.isEmpty).rdropWhile List.isEmpty := rfl
  have hstrip : Text.stripWhile (· = '\n') (collapse 0 (Text.joinWith ['\n'] ls)) =
      cut ((collapse 0 (Text.joinWith ['\n'] ls)).dropWhile (· = '\n')) := rfl
  rw [hends, hstrip, dropWhile_squeeze, dropWhile_collapse, dropWhile_joinWith hfeeds,
    ← cut_joinWith fun l hl => hfirst l ((squeeze_sublist _ _).mem hl)]
  cases hrest : ls.dropWhile List.isEmpty with
  | nil => rfl
  | cons l rest =>
    rw [hrest] at hfirst
    obtain ⟨hl, hrest'⟩ := List.forall_mem_cons.mp hfirst
    have hne : l ≠ [] := by
      have := List.head_dropWhile_not List.isEmpty (l := ls) (by simp [hrest])
      simpa [hrest] using this
    have hsqueeze : squeeze 0 (l :: rest) = l :: squeeze 0 rest := by
      cases l with
      | nil => exact absurd rfl hne
      | cons c line => rfl
    rw [hsqueeze, joinWith_cons_eq, joinWith_cons_eq, collapse_append hl hne,
      cut_append_congr ((cut_collapse_following hrest').1 0 (by decide)).symm]

/-! ## Formatted texts -/

/-- A text in normal form. As no line ends in white space, blank lines are empty. -/
structure IsNormal (cs : List Char) : Prop where
  trimmed : ∀ line ∈ Text.lines cs, ∀ c ∈ line.getLast?, Text.isBlank c = false
  spaced : ¬List.replicate 3 [] <:+: Text.lines cs
  /-- Only the text of a blank line begins with one. -/
  first : cs ≠ ['\n'] → ∀ line ∈ (Text.lines cs).head?, line ≠ []
  ended : ∃ body, cs = body ++ ['\n'] ∧ ∀ c ∈ body.getLast?, c ≠ '\n'

/-- The text of settled lines. -/
theorem Settled.isNormal {ls : List (List Char)} (h : Settled ls) :
    IsNormal (Text.joinWith ['\n'] ls ++ ['\n']) := by
  by_cases hne : ls = []
  · subst hne
    have hlines : Text.lines (Text.joinWith ['\n'] [] ++ ['\n']) = [[], []] := rfl
    refine ⟨fun line hline c hc => ?_, fun hinfix => ?_, fun hfalse => absurd rfl hfalse,
      [], rfl, nofun⟩
    · rw [hlines] at hline
      obtain rfl : line = [] := by simpa using hline
      cases hc
    · rw [hlines] at hinfix
      exact absurd hinfix.length_le (by decide)
  refine ⟨fun line hline c hc => ?_, ?_, fun _ => ?_, _, rfl, ?_⟩
  · rw [h.lines_joined hne] at hline
    rcases List.mem_append.mp hline with hline | hline
    · obtain ⟨hcs, rfl⟩ := List.mem_getLast?_eq_getLast hc
      have htrimmed := h.trimmed line hline
      rw [Text.dropEndWhile_eq_rdropWhile, List.rdropWhile_eq_self_iff] at htrimmed
      exact Bool.eq_false_iff.mpr (htrimmed hcs)
    · rw [List.mem_singleton.mp hline] at hc
      cases hc
  · rw [h.lines_joined hne]
    exact h.spaced_concat.not_infix
  · rw [h.lines_joined hne, List.head?_append_of_ne_nil _ hne]
    exact h.head
  · rintro c hc rfl
    -- A line feed at the end would make the last line blank.
    obtain ⟨body, hbody⟩ := List.getLast?_eq_some_iff.mp hc
    have hlines := Text.lines_joinWith h.feeds hne
    rw [hbody, Text.lines_append_feed] at hlines
    exact h.last [] (by rw [← hlines]; simp [Text.lines, Text.splitAt]) rfl

theorem format_eq_some_iff {accepts : String → Bool} {text result : String} :
    format accepts text = some result ↔
      result.toList = normalize text.toList ∧ accepts result = true := by
  have hlist : result.toList = normalize text.toList ↔
      String.ofList (normalize text.toList) = result := by
    rw [eq_comm, ← String.ofList_inj, String.ofList_toList]
  rw [format, hlist]
  split
  case isTrue hok => simpa [hok] using fun heq => heq ▸ hok
  case isFalse hno => exact iff_of_false nofun fun ⟨heq, hok⟩ => hno (heq ▸ hok)

/-- **Normal form.** A text that passes is in normal form. Its lines with content are those of the
text that it comes from without the white space at their ends, and it passes unchanged. -/
theorem format_normal {accepts : String → Bool} {text result : String}
    (h : format accepts text = some result) :
    IsNormal result.toList ∧ result.toList = rewritten text.toList ∧
    (result = "\n" ↔ ∀ line ∈ Text.lines text.toList, line.all Text.isBlank = true) ∧
    contents (Text.lines result.toList) =
      contents ((Text.lines (Text.dropReturns text.toList)).map
        (Text.dropEndWhile Text.isBlank)) ∧
    format accepts result = some result := by
  obtain ⟨hresult, haccepts⟩ := format_eq_some_iff.mp h
  have hsettled := settled_normalLines text.toList
  refine ⟨?_, ?_, ?_, ?_, format_eq_some_iff.mpr ⟨?_, haccepts⟩⟩
  · rw [hresult]
    exact hsettled.isNormal
  · rw [hresult, normalize_eq_rewritten]
  · have hempty : result = "\n" ↔ normalLines text.toList = [] := by
      rw [← String.toList_inj, hresult, normalize, ← hsettled.joined_eq_nil_iff]
      exact List.append_left_eq_self
    rw [hempty, ← hsettled.contents_eq_nil_iff, contents_normalLines, contents_eq_nil_iff]
    simp only [List.forall_mem_map, Text.dropEndWhile_eq_rdropWhile, List.rdropWhile_eq_nil_iff,
      List.all_eq_true]
  · rw [Text.map_lines_dropReturns, ← contents_normalLines, hresult, normalize]
    by_cases hne : normalLines text.toList = []
    · rw [hne]
      rfl
    · rw [hsettled.lines_joined hne, contents_append]
      exact List.append_nil _
  · rw [hresult, normalize_normalize]

/-- Blank lines of several kinds, before and between lines and behind them. -/
theorem format_normal_blanks :
    format (fun _ => true) "\r\n\x0c\n a\t\r\n\n \n\x0b\n\n\n\r\nb\u3000\n\n\r" = some " a\n\n\nb\n" ∧
      IsNormal " a\n\n\nb\n".toList := by
  have hformat : format (fun _ => true) "\r\n\x0c\n a\t\r\n\n \n\x0b\n\n\n\r\nb\u3000\n\n\r" =
      some " a\n\n\nb\n" := by decide +kernel
  exact ⟨hformat, (format_normal hformat).1⟩

end Layout
end SszSchema
