import Mathlib.Data.List.Basic
import SszSchema.Source.Lexer

/-!
# Lexing

What the lexer makes of a text does not depend on its fuel: every line, every joined line and every
token takes characters, and the fuel of `lex` covers what is left at each step (`Lexer.run_congr`).

A comment that is the first line is therefore read as if the line were empty (`lex_comment`). It
ends where the lexer ends lines: at a line feed or a carriage return, whichever comes first.
-/

namespace SszSchema.Source

/-! ## Readers -/

/-- A reader leaves at most so many characters. -/
def Leaves {α : Type} (n : Nat) (r : Option (α × List Char)) : Prop :=
  ∀ a rest, r = some (a, rest) → rest.length ≤ n

namespace Leaves

variable {α β : Type} {m n : Nat} {r r' : Option (α × List Char)}

theorem none : Leaves n (none : Option (α × List Char)) := nofun

theorem some {a : α} {rest : List Char} (h : rest.length ≤ n) : Leaves n (some (a, rest)) := by
  rintro _ _ ⟨⟩
  exact h

theorem mono (h : Leaves m r) (hle : m ≤ n) : Leaves n r := fun a rest hr =>
  Nat.le_trans (h a rest hr) hle

theorem ite {p : Prop} [Decidable p] (h : p → Leaves n r) (h' : ¬p → Leaves n r') :
    Leaves n (if p then r else r') := by
  split
  · exact h ‹p›
  · exact h' ‹¬p›

theorem bind {f : α × List Char → Option (β × List Char)} (h : Leaves m r)
    (hf : ∀ a rest, rest.length ≤ m → Leaves n (f (a, rest))) : Leaves n (r >>= f) := by
  cases r with
  | none => exact none
  | some p => exact hf p.1 p.2 (h p.1 p.2 rfl)

theorem map {f : α × List Char → β × List Char} (h : Leaves n r)
    (hf : ∀ p, (f p).2 = p.2) : Leaves n (r.map f) := by
  cases r with
  | none => exact none
  | some p => exact some (hf p ▸ h p.1 p.2 rfl)

/-- What is made of a token does not matter. -/
theorem of_map {o : Option β} {f : β → α} {rest : List Char} (h : rest.length ≤ n) :
    Leaves n (o.map fun b => (f b, rest)) := by
  cases o with
  | none => exact none
  | some b => exact some h

end Leaves

/-! ## Numbers -/

namespace Literal

theorem leaves_readDigits (isDigit : Char → Bool) (cs : List Char) :
    Leaves cs.length (readDigits isDigit cs) := by
  fun_induction readDigits isDigit cs with
  | case1 => exact .none
  | case2 c rest _ ds rest' _ hds ih =>
    have hle := ih ds rest' hds
    exact .some (by simp only [List.length_cons]; omega)
  | case3 => exact .none
  | case4 => exact .some (Nat.le_refl _)
  | case5 c rest _ _ ih => exact .map (ih.mono (Nat.le_succ _)) fun _ => rfl
  | case6 => exact .some (Nat.le_refl _)
  | case7 => exact .some (Nat.le_refl _)

/-- Digits at the beginning are read. -/
theorem leaves_readDigits_cons {isDigit : Char → Bool} {c : Char} (hc : isDigit c = true)
    (rest : List Char) : Leaves rest.length (readDigits isDigit (c :: rest)) := by
  unfold readDigits
  split
  · case h_1 c' rest' heq =>
    obtain ⟨rfl, rfl⟩ := List.cons.inj heq
    rw [if_pos hc]
    split
    · exact .none
    · case h_2 ds rest'' _ hds =>
      exact .some (Nat.le_succ_of_le (leaves_readDigits isDigit rest' ds rest'' hds))
    · exact .none
  · case h_2 c' rest' _ heq =>
    obtain ⟨rfl, rfl⟩ := List.cons.inj heq
    rw [if_pos hc]
    exact (leaves_readDigits isDigit rest).map fun _ => rfl
  · case h_3 heq => cases heq

/-- Nothing is read if no digit comes first. -/
theorem readDigits_cons_of_not {isDigit : Char → Bool} {c : Char} (hc : isDigit c = false)
    (rest : List Char) : readDigits isDigit (c :: rest) = some ([], c :: rest) := by
  unfold readDigits
  split
  · case h_1 heq =>
    obtain ⟨rfl, rfl⟩ := List.cons.inj heq
    rw [if_neg (Bool.not_eq_true _ ▸ hc)]
  · case h_2 heq =>
    obtain ⟨rfl, rfl⟩ := List.cons.inj heq
    rw [if_neg (Bool.not_eq_true _ ▸ hc)]
  · case h_3 heq => cases heq

theorem leaves_readBased (base : Nat) (cs : List Char) : Leaves cs.length (readBased base cs) := by
  unfold readBased
  split
  · case h_1 rest =>
    refine (leaves_readDigits _ rest).bind fun ds rest' hle => ?_
    exact .ite (fun _ => .none) fun _ => .some (Nat.le_succ_of_le hle)
  · refine (leaves_readDigits _ cs).bind fun ds rest hle => ?_
    exact .ite (fun _ => .none) fun _ => .some hle

theorem leaves_readExponent (cs : List Char) : Leaves cs.length (readExponent cs) := by
  unfold readExponent
  extract_lets signed
  have hsigned (sign : Int) (cs : List Char) : Leaves cs.length (signed sign cs) :=
    (leaves_readDigits _ cs).bind fun ds rest hle => .ite (fun _ => .none) fun _ => .some hle
  split
  · exact (hsigned 1 _).mono (Nat.le_succ _)
  · exact (hsigned (-1) _).mono (Nat.le_succ _)
  · exact .ite (fun _ => hsigned 1 _) fun _ => .some (Nat.le_refl _)
  · exact .some (Nat.le_refl _)

theorem leaves_finish (isFloat : Bool) (whole fraction cs : List Char) :
    Leaves cs.length (finish isFloat whole fraction cs) := by
  unfold finish
  extract_lets value plain marked
  have hplain (cs : List Char) : Leaves cs.length (plain cs) :=
    .ite (fun _ => .none) fun _ => .ite (fun _ => .some (Nat.le_refl _)) fun _ =>
      .ite (fun _ => .none) fun _ => .ite (fun _ => .none) fun _ => .some (Nat.le_refl _)
  have hmarked (isFloat : Bool) (e : Int) (cs : List Char) :
      Leaves cs.length (marked isFloat e cs) := by
    cases cs with
    | nil => exact .ite (fun _ => .some (Nat.le_refl _)) fun _ => hplain []
    | cons c rest =>
      exact .ite (fun _ => .ite (fun _ => .some (Nat.le_succ _)) fun _ => .none) fun _ =>
        .ite (fun _ => .ite (fun _ => .some (Nat.le_refl _)) fun _ => .none) fun _ => hplain _
  split
  · case h_1 c rest =>
    refine .ite (fun _ => ?_) fun _ => hmarked _ _ _
    split
    · exact .none
    · exact hplain _
    · case h_3 e rest' hexponent =>
      exact (hmarked _ _ _).mono (Nat.le_succ_of_le (leaves_readExponent rest _ _ hexponent))
  · exact hplain _

/-- A number takes the digit or the point that it begins with. -/
theorem leaves_readNumber {c : Char} (hc : c.isDigit = true ∨ c = '.') (rest : List Char) :
    Leaves rest.length (readNumber (c :: rest)) := by
  have hwhole : Leaves rest.length (readNumber.readDecimal (c :: rest)) := by
    unfold readNumber.readDecimal
    rcases hc with hc | rfl
    · refine (leaves_readDigits_cons hc rest).bind fun whole rest' hle => ?_
      dsimp only
      split
      · refine (leaves_readDigits _ _).bind fun fraction rest'' hle' => ?_
        have hless := Nat.le_of_succ_le hle
        exact (leaves_finish _ _ _ _).mono (Nat.le_trans hle' hless)
      · exact (leaves_finish _ _ _ _).mono hle
    · rw [readDigits_cons_of_not (by decide)]
      exact (leaves_readDigits _ rest).bind fun fraction rest' hle =>
        (leaves_finish _ _ _ _).mono hle
  unfold readNumber
  split
  · case h_1 c' rest' heq =>
    obtain ⟨rfl, rfl⟩ := List.cons.inj heq
    have hbased (base : Nat) : Leaves (c' :: rest').length (readBased base rest') :=
      (leaves_readBased base rest').mono (Nat.le_succ _)
    exact .ite (fun _ => hbased 16) fun _ => .ite (fun _ => hbased 8) fun _ =>
      .ite (fun _ => hbased 2) fun _ => hwhole
  · exact hwhole

end Literal

/-! ## Tokens -/

namespace Lexer

theorem length_stringBody {quote : Char} {long : Bool} {body cs body' rest : List Char}
    {lines lines' : Nat} (h : stringBody quote long body lines cs = some (body', rest, lines')) :
    rest.length ≤ cs.length := by
  fun_induction stringBody quote long body lines cs
  case case1 | case5 | case8 => cases h
  case case2 ih => exact Nat.le_succ_of_le (Nat.le_succ_of_le (ih h))
  case case3 =>
    cases h
    exact Nat.le_add_right _ 3
  case case4 ih | case7 ih | case9 ih => exact Nat.le_succ_of_le (ih h)
  case case6 =>
    cases h
    exact Nat.le_succ _

theorem leaves_string (l : Lexer) (mark : List Char) (quote : Char) (cs : List Char) :
    Leaves cs.length (l.string mark quote cs) := by
  intro l' rest h
  unfold string at h
  split at h
  case h_1 long cs' hquotes =>
  obtain ⟨⟨body, rest', lines⟩, hbody, h⟩ := Option.bind_eq_some_iff.mp h
  obtain ⟨t, -, h⟩ := Option.bind_eq_some_iff.mp h
  cases h
  have hle := length_stringBody hbody
  split at hquotes
  · split at hquotes
    · cases hquotes
      exact Nat.le_succ_of_le (Nat.le_succ_of_le hle)
    · cases hquotes
      exact hle
  · cases hquotes
    exact hle

/-- An operator takes the character that it begins with. -/
theorem leaves_operator (l : Lexer) (c : Char) (rest : List Char) :
    Leaves rest.length (l.operator (c :: rest)) := by
  have hlong : ∀ s ∈ longOperators, 0 < s.length := by decide +kernel
  unfold operator
  split
  · case h_1 s hs =>
    have := hlong s (List.mem_of_find?_eq_some hs)
    refine .some ?_
    rw [List.length_drop, List.length_cons]
    omega
  · dsimp only
    split
    · exact .ite (fun _ => .some (Nat.le_refl _)) fun _ => .none
    · refine .ite (fun _ => .some (Nat.le_refl _)) fun _ => ?_
      split
      · exact .ite (fun _ => .some (Nat.le_refl _)) fun _ => .none
      · exact .none

/-- A token takes the character that it begins with. -/
theorem leaves_token (l : Lexer) (c : Char) (rest : List Char) :
    Leaves rest.length (l.token (c :: rest)) := by
  unfold token
  refine .ite (fun _ => leaves_string l [] c rest) fun _ => .ite (fun hnumber => ?_) fun _ =>
    .ite (fun hword => ?_) fun _ => leaves_operator l c rest
  · refine .map (Literal.leaves_readNumber ?_ rest) fun _ => rfl
    simp only [Bool.or_eq_true, Bool.and_eq_true, decide_eq_true_eq] at hnumber
    exact hnumber.imp_right And.left
  · have hword' : ((c :: rest).dropWhile Literal.isWordChar).length ≤ rest.length := by
      rw [List.dropWhile_cons_of_pos hword]
      exact (List.dropWhile_sublist _).length_le
    dsimp only
    split
    · case h_1 q rest' heq =>
      rw [heq] at hword'
      have hquoted (mark : List Char) : Leaves rest.length (l.string mark q rest') :=
        (leaves_string l mark q rest').mono (Nat.le_of_succ_le hword')
      exact .ite (fun _ => hquoted _) fun _ => .of_map hword'
    · exact .of_map (Nat.zero_le _)

/-! ## Lines -/

theorem length_joined? {cs rest : List Char} (h : joined? cs = some rest) :
    rest.length < cs.length := by
  unfold joined? at h
  split at h
  · cases h
  · cases h
    exact Nat.lt_succ_self _
  · cases h

theorem leaves_measure (fuel : Nat) (i : Indent) (cs : List Char) :
    Leaves cs.length (measure fuel i cs) := by
  fun_induction measure fuel i cs with
  | case1 => exact .none
  | case2 _ _ _ ih | case3 _ _ _ ih | case4 _ _ _ ih => exact ih.mono (Nat.le_succ _)
  | case5 => exact .none
  | case6 fuel i rest rest' hjoined joinedAt ih =>
    exact ih.mono (Nat.le_succ_of_le (Nat.le_of_lt (length_joined? hjoined)))
  | case7 => exact .some (Nat.le_refl _)

theorem length_skip (cs : List Char) : (skip cs).length ≤ cs.length := by
  have hgaps := (List.dropWhile_sublist (l := cs) isGap).length_le
  unfold skip
  split
  · case h_1 rest heq =>
    rw [heq] at hgaps
    exact Nat.le_trans (List.dropWhile_sublist _).length_le (Nat.le_of_succ_le hgaps)
  · exact hgaps

/-- What is read does not depend on the fuel that is left, if it covers the characters that are left
and, at the beginning of a line, its indentation. -/
theorem run_congr {fuel fuel' : Nat} (l : Lexer) (fresh blank : Bool) (cs : List Char)
    (h : 2 * cs.length + fresh.toNat < fuel) (h' : 2 * cs.length + fresh.toNat < fuel') :
    run fuel l fresh blank cs = run fuel' l fresh blank cs := by
  induction fuel generalizing fuel' l fresh blank cs with
  | zero => exact absurd h (Nat.not_lt_zero _)
  | succ fuel ih =>
    obtain ⟨fuel', rfl⟩ : ∃ n, fuel' = n + 1 := ⟨fuel' - 1, by omega⟩
    cases fresh with
    | true =>
      -- Indentation may be empty, so the beginning of a line counts as a step of its own.
      have hnext (l : Lexer) (blank : Bool) {rest : List Char} (hle : rest.length ≤ cs.length) :
          run fuel l false blank rest = run fuel' l false blank rest := by
        simp only [Bool.toNat_true] at h h'
        exact ih l false blank rest (by simp only [Bool.toNat_false]; omega)
          (by simp only [Bool.toNat_false]; omega)
      simp only [run]
      refine Option.bind_congr fun ⟨i, rest⟩ hmeasure => ?_
      have hle := leaves_measure _ _ _ i rest hmeasure
      simp only [hnext _ _ hle]
    | false =>
      have hless (l : Lexer) (fresh blank : Bool) {rest : List Char}
          (hlt : rest.length < cs.length) :
          run fuel l fresh blank rest = run fuel' l fresh blank rest := by
        have hfresh := fresh.toNat_le
        simp only [Bool.toNat_false] at h h'
        exact ih l fresh blank rest (by omega) (by omega)
      have hskip := length_skip cs
      simp only [run]
      split
      · rfl
      · case h_2 rest heq =>
        rw [heq] at hskip
        simp only [hless _ _ _ hskip]
      · case h_3 rest heq =>
        rw [heq] at hskip
        split
        · rfl
        · case h_2 rest' hjoined =>
          exact hless _ _ _ (Nat.lt_trans (length_joined? hjoined) hskip)
      · case h_4 hne _ _ =>
        split
        · rfl
        · case h_2 l' rest' htoken =>
          obtain ⟨c, rest, heq⟩ := List.exists_cons_of_ne_nil hne
          rw [heq] at htoken hskip
          have hle := leaves_token _ _ _ _ _ htoken
          exact hless _ _ _ (Nat.lt_of_le_of_lt hle hskip)

/-! ## Comments -/

/-- A character that ends a line, alone or before a line feed. -/
def endsLine (c : Char) : Bool := c = '\n' || c = '\r'

/-- A comment, without the end of its line. -/
structure IsComment (cs : List Char) : Prop where
  marked : cs.head? = some '#'
  within : ∀ c ∈ cs, endsLine c = false

/-- A comment goes up to the first end of a line. -/
theorem IsComment.dropWhile_append {cs rest : List Char} (h : IsComment cs)
    (hrest : ∃ c ∈ rest.head?, endsLine c = true) :
    (cs ++ rest).dropWhile (!endsLine ·) = rest := by
  obtain ⟨c, hhead, hc⟩ := hrest
  obtain ⟨after, rfl⟩ := List.head?_eq_some_iff.mp hhead
  rw [List.dropWhile_append_of_pos fun c hc => by rw [h.within c hc]; rfl]
  exact List.dropWhile_cons_of_neg (by simp [hc])

theorem joinReturns_cons {c : Char} (hc : c ≠ '\r') (rest : List Char) :
    joinReturns (c :: rest) = c :: joinReturns rest := by
  simp [joinReturns, hc]

theorem joinReturns_append {cs : List Char} (h : ∀ c ∈ cs, endsLine c = false)
    (rest : List Char) : joinReturns (cs ++ rest) = cs ++ joinReturns rest := by
  induction cs with
  | nil => rfl
  | cons c cs ih =>
    obtain ⟨hc, hcs⟩ := List.forall_mem_cons.mp h
    have hreturn : c ≠ '\r' := by
      rintro rfl
      exact absurd hc (by decide)
    rw [List.cons_append, joinReturns_cons hreturn, ih hcs, List.cons_append]

/-- The end of a line becomes a line feed. -/
theorem exists_joinReturns_eq {rest : List Char} (h : ∃ c ∈ rest.head?, endsLine c = true) :
    ∃ next, joinReturns rest = '\n' :: next := by
  obtain ⟨c, hhead, hc⟩ := h
  obtain ⟨after, rfl⟩ := List.head?_eq_some_iff.mp hhead
  rcases (by simpa [endsLine] using hc : c = '\n' ∨ c = '\r') with rfl | rfl
  · exact ⟨_, joinReturns_cons (by decide) after⟩
  · unfold joinReturns
    split
    · exact ⟨_, rfl⟩
    · exact ⟨_, rfl⟩
    · case h_3 hne heq => exact absurd (List.cons.inj heq).1.symm hne
    · case h_4 heq => cases heq

theorem mem_joinReturns {c : Char} (hc : c ≠ '\r') {cs : List Char} (h : c ∈ cs) :
    c ∈ joinReturns cs := by
  fun_induction joinReturns cs with
  | case1 rest ih =>
    simp only [List.mem_cons, hc, false_or] at h
    exact List.mem_cons.mpr (h.imp_right ih)
  | case2 rest _ ih =>
    simp only [List.mem_cons, hc, false_or] at h
    exact List.mem_cons_of_mem _ (ih h)
  | case3 d rest _ _ ih => exact List.mem_cons.mpr ((List.mem_cons.mp h).imp_right ih)
  | case4 => cases h

theorem endLine_append (cs : List Char) {rest : List Char} (h : rest ≠ []) :
    endLine (cs ++ rest) = cs ++ endLine rest := by
  unfold endLine
  rw [List.getLast?_append_of_ne_nil _ h]
  split
  · case h_1 hnone => exact absurd (List.getLast?_eq_none_iff.mp hnone) h
  · split
    · rfl
    · exact List.append_assoc _ _ _

/-- Nothing but the end of the last line is added. -/
theorem exists_endLine_eq (cs : List Char) : ∃ back, endLine cs = cs ++ back := by
  unfold endLine
  split
  · case h_1 hnone =>
    rw [List.getLast?_eq_none_iff.mp hnone]
    exact ⟨_, rfl⟩
  · split
    · exact ⟨[], (List.append_nil cs).symm⟩
    · exact ⟨_, rfl⟩

/-- An empty line is passed over. -/
theorem run_feed (fuel : Nat) (l : Lexer) (rest : List Char) :
    run (fuel + 2) l true false ('\n' :: rest) =
      run fuel { l with line := l.line + 1 } true false rest := rfl

theorem skip_comment {cs : List Char} (h : IsComment cs) (rest : List Char) :
    skip (cs ++ '\n' :: rest) = '\n' :: rest := by
  obtain ⟨body, rfl⟩ := List.head?_eq_some_iff.mp h.marked
  have hbody : ∀ c ∈ body, decide (c ≠ '\n') = true := fun c hc => by
    have hwithin := h.within c (List.mem_cons_of_mem _ hc)
    simp only [endsLine, Bool.or_eq_false_iff, decide_eq_false_iff_not] at hwithin
    exact decide_eq_true hwithin.1
  have hcut : skip ('#' :: (body ++ '\n' :: rest)) =
      (body ++ '\n' :: rest).dropWhile (· ≠ '\n') := rfl
  rw [List.cons_append, hcut, List.dropWhile_append_of_pos hbody]
  exact List.dropWhile_cons_of_neg (by decide)

/-- A line that holds nothing else than a comment is passed over. -/
theorem run_comment {cs : List Char} (h : IsComment cs) (fuel : Nat) (l : Lexer)
    (rest : List Char) : run (fuel + 2) l true false (cs ++ '\n' :: rest) =
      run fuel { l with line := l.line + 1 } true false rest := by
  have hfirst : run (fuel + 2) l true false (cs ++ '\n' :: rest) =
      run (fuel + 1) l false true (cs ++ '\n' :: rest) := by
    obtain ⟨body, rfl⟩ := List.head?_eq_some_iff.mp h.marked
    rfl
  rw [hfirst]
  simp only [run, skip_comment h rest, Bool.true_or, if_true]

end Lexer

open Lexer in
/-- A comment that is the first line is read like an empty line. -/
theorem lex_comment {cs rest : List Char} (h : IsComment cs) (hnull : Char.ofNat 0 ∉ cs)
    (hrest : ∃ c ∈ rest.head?, endsLine c = true) : lex true (cs ++ rest) = lex true rest := by
  obtain ⟨next, hnext⟩ := exists_joinReturns_eq hrest
  obtain ⟨back, hback⟩ := exists_endLine_eq ('\n' :: next)
  rw [List.cons_append] at hback
  generalize next ++ back = next' at hback
  have hempty : endLine (joinReturns rest) = '\n' :: next' := by rw [hnext, hback]
  have hcommented : endLine (joinReturns (cs ++ rest)) = cs ++ '\n' :: next' := by
    rw [joinReturns_append h.within, endLine_append cs (by rw [hnext]; nofun), hempty]
  have hcontains : (cs ++ '\n' :: next').contains (Char.ofNat 0) =
      ('\n' :: next').contains (Char.ofNat 0) := by
    simp [hnull]
  have hruns : run (2 * (cs ++ '\n' :: next').length + 2) {} true false (cs ++ '\n' :: next') =
      run (2 * ('\n' :: next').length + 2) {} true false ('\n' :: next') := by
    rw [run_comment h, run_feed]
    apply run_congr <;> simp only [List.length_append, List.length_cons, Bool.toNat_true] <;> omega
  unfold lex
  simp only [if_true, hcommented, hempty, hcontains, hruns]

/-- No text that holds the null character is read. -/
theorem lex_eq_none_of_mem {cs : List Char} (h : Char.ofNat 0 ∈ cs) : lex true cs = none := by
  have hread : Char.ofNat 0 ∈ Lexer.endLine (Lexer.joinReturns cs) := by
    obtain ⟨back, hback⟩ := Lexer.exists_endLine_eq (Lexer.joinReturns cs)
    rw [hback]
    exact List.mem_append_left back (Lexer.mem_joinReturns (by decide) h)
  unfold lex
  exact if_pos (List.contains_iff_mem.mpr hread)

end SszSchema.Source
