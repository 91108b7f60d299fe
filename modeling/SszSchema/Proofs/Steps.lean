import Mathlib.Data.List.Forall2

/-!
# Steps that may fail

Laws of the two kinds of steps of this library. A step without state is an `Except`, and what it
returns is told by what its parts return. A step on a state keeps what it has changed when it fails;
`Triple` describes such a step by what holds before it and after it, and composes along its parts.
-/

namespace SszSchema

variable {ε σ α β γ : Type}

/-- A relation between the members of two lists, with the first member in its list. -/
theorem forall₂_imp_of_mem {R S : α → β → Prop} {l : List α} {u : List β}
    (h : List.Forall₂ R l u) (himp : ∀ a ∈ l, ∀ b, R a b → S a b) : List.Forall₂ S l u := by
  have hmem := (List.forall₂_and_left (p := (· ∈ l)) l u).mpr ⟨fun _ ha => ha, h⟩
  exact hmem.imp fun a b hab => himp a hab.1 b hab.2

theorem exists_of_forall₂ {R : α → β → Prop} {l : List α} {u : List β} (h : List.Forall₂ R l u)
    {a : α} (ha : a ∈ l) : ∃ b ∈ u, R a b := by
  induction h with
  | nil => simp at ha
  | cons hr _ ih =>
    rcases List.mem_cons.mp ha with rfl | ha
    · exact ⟨_, List.mem_cons_self, hr⟩
    · obtain ⟨b, hb, hr⟩ := ih ha
      exact ⟨b, List.mem_cons_of_mem _ hb, hr⟩

theorem map_eq_map_of_forall₂ {f : α → γ} {g : β → γ} {l : List α} {u : List β}
    (h : List.Forall₂ (fun a b => f a = g b) l u) : l.map f = u.map g := by
  rwa [← List.forall₂_eq_eq_eq, List.forall₂_map_left_iff, List.forall₂_map_right_iff]

/-- Two lists are equal if each member of a third list tells its counterparts in both. -/
theorem eq_of_forall₂ {R : α → β → Prop} {S : α → β → Prop} {l : List α} {u w : List β}
    (h : List.Forall₂ R l u) (h' : List.Forall₂ S l w) (heq : ∀ a b c, R a b → S a c → b = c) :
    u = w := by
  induction h generalizing w with
  | nil => rw [List.forall₂_nil_left_iff.mp h']
  | cons hr _ ih =>
    obtain _ | ⟨hs, hw⟩ := h'
    rw [heq _ _ _ hr hs, ih hw]

theorem pairwise_of_forall₂ {R : α → β → Prop} {S : α → α → Prop} {T : β → β → Prop} {l : List α}
    {u : List β} (h : List.Forall₂ R l u)
    (hT : ∀ a a' b b', R a b → R a' b' → S a a' → T b b') (hl : l.Pairwise S) : u.Pairwise T := by
  induction h with
  | nil => exact .nil
  | cons hab hlu ih =>
    obtain ⟨ha, hl⟩ := List.pairwise_cons.mp hl
    refine .cons (fun b' hb' => ?_) (ih hl)
    obtain ⟨a', ha', hab'⟩ := exists_of_forall₂ hlu.flip hb'
    exact hT _ _ _ _ hab hab' (ha a' ha')

/-- A relation that goes by way of a third list. -/
theorem forall₂_comp_iff {R : α → β → Prop} {S : β → γ → Prop} {l : List α} {u : List γ} :
    List.Forall₂ (fun a c => ∃ b, R a b ∧ S b c) l u ↔
      ∃ m, List.Forall₂ R l m ∧ List.Forall₂ S m u := by
  constructor
  · intro h
    induction h with
    | nil => exact ⟨[], .nil, .nil⟩
    | cons h _ ih =>
      obtain ⟨b, hr, hs⟩ := h
      obtain ⟨m, hrs, hss⟩ := ih
      exact ⟨b :: m, .cons hr hrs, .cons hs hss⟩
  · rintro ⟨m, hr, hs⟩
    induction hr generalizing u with
    | nil => cases hs; exact .nil
    | cons hr _ ih => cases hs with | cons hs hss => exact .cons ⟨_, hr, hs⟩ (ih hss)

/-- A relation that goes by way of the pairs with a third list. -/
theorem forall₂_of_zip {R : α → β → Prop} {S : α × β → γ → Prop} {T : α → γ → Prop} {l : List α}
    {u : List β} {w : List γ} (hr : List.Forall₂ R l u) (hs : List.Forall₂ S (l.zip u) w)
    (h : ∀ a b c, R a b → S (a, b) c → T a c) : List.Forall₂ T l w := by
  induction hr generalizing w with
  | nil =>
    cases hs
    exact .nil
  | cons hab _ ih =>
    cases hs with
    | cons hs hrest => exact .cons (h _ _ _ hab hs) (ih hrest)

/-! ## Steps without state -/

namespace Outcome

instance decidableEqOk [DecidableEq α] (m : Except ε α) (a : α) : Decidable (m = .ok a) :=
  match m with
  | .ok b => decidable_of_iff (b = a) ⟨congrArg _, Except.ok.inj⟩
  | .error _ => .isFalse nofun

instance decidableEqError (m : Except ε α) (e : ε) [DecidablePred (· = e)] :
    Decidable (m = .error e) :=
  match m with
  | .ok _ => .isFalse nofun
  | .error e' => decidable_of_iff (e' = e) ⟨congrArg _, Except.error.inj⟩

instance decidableExistsOk (m : Except ε α) (P : α → Prop) [DecidablePred P] :
    Decidable (∃ a, m = .ok a ∧ P a) :=
  match m with
  | .ok a => decidable_of_iff (P a)
      ⟨fun h => ⟨a, rfl, h⟩, fun ⟨_, heq, h⟩ => Except.ok.inj heq ▸ h⟩
  | .error _ => .isFalse nofun

theorem exists_eq_ok {m : Except ε α} (h : m.isOk = true) : ∃ a, m = .ok a := by
  cases m with
  | error => cases h
  | ok a => exact ⟨a, rfl⟩

theorem bind_eq_ok {m : Except ε α} {f : α → Except ε β} {b : β} :
    m >>= f = .ok b ↔ ∃ a, m = .ok a ∧ f a = .ok b := by
  cases m <;> simp [bind, Except.bind]

theorem bind_of_ok {m : Except ε α} {a : α} (h : m = .ok a) (f : α → Except ε β) :
    (m >>= f) = f a := by
  rw [h]
  rfl

theorem map_eq_ok {m : Except ε α} {f : α → β} {b : β} :
    m.map f = .ok b ↔ ∃ a, m = .ok a ∧ f a = b := by
  cases m <;> simp [Except.map]

theorem mapError_eq_ok {m : Except ε α} {f : ε → γ} {a : α} :
    m.mapError f = .ok a ↔ m = .ok a := by
  cases m <;> simp [Except.mapError]

@[simp] theorem pure_eq_ok {a b : α} : (pure a : Except ε α) = .ok b ↔ a = b := by
  simp [pure, Except.pure]

/-- A step for each element returns when all of them return. -/
theorem mapM_eq_ok_iff {f : α → Except ε β} {l : List α} {r : List β} :
    l.mapM f = .ok r ↔ List.Forall₂ (fun a b => f a = .ok b) l r := by
  induction l generalizing r with
  | nil => cases r <;> simp
  | cons a l ih =>
    rw [List.mapM_cons, bind_eq_ok]
    constructor
    · rintro ⟨b, hb, h⟩
      obtain ⟨bs, hbs, h⟩ := bind_eq_ok.mp h
      obtain rfl := pure_eq_ok.mp h
      exact .cons hb (ih.mp hbs)
    · rintro (_ | ⟨hb, hbs⟩)
      exact ⟨_, hb, bind_eq_ok.mpr ⟨_, ih.mpr hbs, rfl⟩⟩

/-- Steps for each element depend on what they do on these elements only. -/
theorem mapM_congr {f g : α → Except ε β} {l : List α} (h : ∀ a ∈ l, f a = g a) :
    l.mapM f = l.mapM g := by
  induction l with
  | nil => rfl
  | cons a l ih =>
    obtain ⟨ha, hl⟩ := List.forall_mem_cons.mp h
    rw [List.mapM_cons, List.mapM_cons, ha, ih hl]

/-- Steps that all return do so together, and what holds of each result holds of all. -/
theorem exists_mapM_eq_ok {f : α → Except ε β} {Q : β → Prop} {l : List α}
    (h : ∀ a ∈ l, ∃ b, f a = .ok b ∧ Q b) : ∃ r, l.mapM f = .ok r ∧ ∀ b ∈ r, Q b := by
  induction l with
  | nil => exact ⟨[], rfl, List.forall_mem_nil Q⟩
  | cons a l ih =>
    obtain ⟨⟨b, hb, hQ⟩, hl⟩ := List.forall_mem_cons.mp h
    obtain ⟨r, hr, hrest⟩ := ih hl
    refine ⟨b :: r, ?_, List.forall_mem_cons.mpr ⟨hQ, hrest⟩⟩
    rw [List.mapM_cons, hb, hr]
    rfl

theorem mapM_eq_some_iff {f : α → Option β} {l : List α} {r : List β} :
    l.mapM f = some r ↔ List.Forall₂ (fun a b => f a = some b) l r := by
  induction l generalizing r with
  | nil => cases r <;> simp
  | cons a l ih =>
    rw [List.mapM_cons, Option.bind_eq_bind, Option.bind_eq_some_iff]
    constructor
    · rintro ⟨b, hb, h⟩
      obtain ⟨bs, hbs, h⟩ := Option.bind_eq_some_iff.mp h
      obtain rfl := Option.some.inj h
      exact .cons hb (ih.mp hbs)
    · rintro (_ | ⟨hb, hbs⟩)
      exact ⟨_, hb, Option.bind_eq_some_iff.mpr ⟨_, ih.mpr hbs, rfl⟩⟩

/-- What steps collect stays, and each step finds what it looks for. -/
theorem foldlM_collects {f : List γ → α → Except ε (List γ)} {P : α → List γ → Prop}
    (hmono : ∀ a u w, u ⊆ w → P a u → P a w) (hf : ∀ u a w, f u a = .ok w → u ⊆ w ∧ P a w)
    {l : List α} {u w : List γ} (h : l.foldlM f u = .ok w) : u ⊆ w ∧ ∀ a ∈ l, P a w := by
  induction l generalizing u with
  | nil =>
    rw [List.foldlM_nil] at h
    obtain rfl := pure_eq_ok.mp h
    exact ⟨List.Subset.refl _, nofun⟩
  | cons a l ih =>
    rw [List.foldlM_cons] at h
    obtain ⟨v, hv, h⟩ := bind_eq_ok.mp h
    obtain ⟨huv, ha⟩ := hf u a v hv
    obtain ⟨hvw, hl⟩ := ih h
    exact ⟨List.Subset.trans huv hvw, List.forall_mem_cons.mpr ⟨hmono a v w hvw ha, hl⟩⟩

/-- Steps that return and keep an invariant do so one after the other. -/
theorem exists_foldlM_eq_ok {f : β → α → Except ε β} {I : β → Prop} {l : List α}
    (hf : ∀ a ∈ l, ∀ b, I b → ∃ b', f b a = .ok b' ∧ I b') {b : β} (hb : I b) :
    ∃ b', l.foldlM f b = .ok b' ∧ I b' := by
  induction l generalizing b with
  | nil => exact ⟨b, rfl, hb⟩
  | cons a l ih =>
    obtain ⟨ha, hl⟩ := List.forall_mem_cons.mp hf
    obtain ⟨b', hb', hI⟩ := ha b hb
    rw [List.foldlM_cons, hb']
    exact ih hl hI

/-- Steps that return and keep an invariant do so one after the other. Each takes its state further,
and what it reaches for its element is not lost. -/
theorem exists_foldlM_further {f : β → α → Except ε β} {I : β → Prop} {R : β → β → Prop}
    {P : α → β → Prop} (hrefl : ∀ b, R b b) (htrans : ∀ {b c d}, R b c → R c d → R b d)
    (hkeep : ∀ {a b c}, P a b → R b c → P a c) {l : List α}
    (hf : ∀ a ∈ l, ∀ b, I b → ∃ c, f b a = .ok c ∧ R b c ∧ I c ∧ P a c) {b : β} (hb : I b) :
    ∃ c, l.foldlM f b = .ok c ∧ R b c ∧ I c ∧ ∀ a ∈ l, P a c := by
  induction l generalizing b with
  | nil => exact ⟨b, rfl, hrefl b, hb, List.forall_mem_nil _⟩
  | cons a l ih =>
    obtain ⟨ha, hl⟩ := List.forall_mem_cons.mp hf
    obtain ⟨c, hc, hbc, hI, hP⟩ := ha b hb
    obtain ⟨d, hd, hcd, hI', hrest⟩ := ih hl hI
    refine ⟨d, ?_, htrans hbc hcd, hI', List.forall_mem_cons.mpr ⟨hkeep hP hcd, hrest⟩⟩
    rw [List.foldlM_cons, hc]
    exact hd

end Outcome

/-- A step stops with certain errors only. -/
def Fails (P : ε → Prop) (m : Except ε α) : Prop := ∀ e, m = .error e → P e

namespace Fails

variable {P : ε → Prop} {m : Except ε α}

theorem ok (a : α) : Fails P (.ok a : Except ε α) := nofun

theorem error {e : ε} (h : P e) : Fails P (.error e : Except ε α) := by
  rintro _ ⟨⟩
  exact h

instance decidable (P : ε → Prop) [DecidablePred P] (m : Except ε α) : Decidable (Fails P m) :=
  match m with
  | .ok a => .isTrue (ok a)
  | .error e => decidable_of_iff (P e) ⟨error, fun h => h e rfl⟩

theorem imp {Q : ε → Prop} (hm : Fails P m) (h : ∀ e, P e → Q e) : Fails Q m :=
  fun e he => h e (hm e he)

theorem bind {f : α → Except ε β} (hm : Fails P m) (hf : ∀ a, m = .ok a → Fails P (f a)) :
    Fails P (m >>= f) := by
  intro e h
  cases m with
  | ok a => exact hf a rfl e h
  | error e' =>
    cases h
    exact hm e rfl

/-- A step behind one whose result is known. -/
theorem bind_of_eq_ok {a : α} {f : α → Except ε β} (hm : m = .ok a) (hf : Fails P (f a)) :
    Fails P (m >>= f) := by
  rw [hm]
  exact hf

theorem map {f : α → β} (hm : Fails P m) : Fails P (m.map f) := by
  cases m with
  | ok a => exact ok _
  | error e => exact error (hm e rfl)

theorem mapM {f : α → Except ε β} {l : List α} (h : ∀ a ∈ l, Fails P (f a)) :
    Fails P (l.mapM f) := by
  induction l with
  | nil => exact ok []
  | cons a l ih =>
    obtain ⟨ha, hl⟩ := List.forall_mem_cons.mp h
    rw [List.mapM_cons]
    exact ha.bind fun b _ => (ih hl).bind fun bs _ => ok (b :: bs)

end Fails

/-! ## Steps on a state -/

/-- A step on a state that may fail. -/
abbrev Stateful (ε σ α : Type) := ExceptT ε (StateM σ) α

namespace Stateful

@[simp] theorem pure_eq_ok {a b : α} {s t : σ} :
    (pure a : Stateful ε σ α) s = (.ok b, t) ↔ a = b ∧ s = t := by
  constructor
  · intro h
    cases h
    exact ⟨rfl, rfl⟩
  · rintro ⟨rfl, rfl⟩
    rfl

@[simp] theorem throw_eq_ok {e : ε} {a : α} {s t : σ} :
    (throw e : Stateful ε σ α) s = (.ok a, t) ↔ False :=
  ⟨nofun, nofun⟩

@[simp] theorem get_eq_ok {s t u : σ} :
    (get : Stateful ε σ σ) s = (.ok t, u) ↔ s = t ∧ s = u := by
  constructor
  · intro h
    cases h
    exact ⟨rfl, rfl⟩
  · rintro ⟨rfl, rfl⟩
    rfl

@[simp] theorem set_eq_ok {s t u : σ} {a : PUnit} :
    (set t : Stateful ε σ PUnit) s = (.ok a, u) ↔ t = u := by
  constructor
  · intro h
    cases h
    rfl
  · rintro rfl
    rfl

@[simp] theorem modify_eq_ok {f : σ → σ} {s t : σ} {a : PUnit} :
    (modify f : Stateful ε σ PUnit) s = (.ok a, t) ↔ f s = t := by
  constructor
  · intro h
    cases h
    rfl
  · rintro rfl
    rfl

theorem run_bind (m : Stateful ε σ α) (f : α → Stateful ε σ β) (s : σ) :
    (m >>= f) s = match m s with
      | (.ok a, s) => f a s
      | (.error e, s) => (.error e, s) := by
  have h : (m >>= f) s = ExceptT.bindCont f (m s).1 (m s).2 := rfl
  rw [h]
  rcases m s with ⟨_ | _, _⟩ <;> rfl

theorem run_tryCatch (m : Stateful ε σ α) (handle : ε → Stateful ε σ α) (s : σ) :
    (tryCatch m handle) s = match m s with
      | (.ok a, s) => (.ok a, s)
      | (.error e, s) => handle e s := by
  have h : (tryCatch m handle) s = (match (m s).1 with
      | .ok a => pure (Except.ok a)
      | .error e => handle e : StateM σ (Except ε α)) (m s).2 := rfl
  rw [h]
  rcases m s with ⟨_ | _, _⟩ <;> rfl

theorem run_get_bind (f : σ → Stateful ε σ β) (s : σ) : (get >>= f) s = f s s := rfl

/-- A step that goes on returns when its first part returns and then the rest. -/
theorem bind_eq_ok {m : Stateful ε σ α} {f : α → Stateful ε σ β} {b : β} {s u : σ} :
    (m >>= f) s = (.ok b, u) ↔ ∃ a t, m s = (.ok a, t) ∧ f a t = (.ok b, u) := by
  rw [run_bind]
  constructor
  · intro h
    rcases hm : m s with ⟨_ | a, t⟩ <;> rw [hm] at h
    · cases h
    · exact ⟨a, t, rfl, h⟩
  · rintro ⟨a, t, hm, hf⟩
    rw [hm]
    exact hf

end Stateful

/-- From a state in `P` a step ends in `Q` with its result, or in `E` with its fault. -/
def Triple (P : σ → Prop) (m : Stateful ε σ α) (Q : α → σ → Prop) (E : ε → σ → Prop) : Prop :=
  ∀ s, P s → match m s with
    | (.ok a, t) => Q a t
    | (.error e, t) => E e t

namespace Triple

open Stateful

variable {P P' : σ → Prop} {Q Q' : α → σ → Prop} {R : β → σ → Prop} {E E' : ε → σ → Prop}
  {m : Stateful ε σ α} {f : α → Stateful ε σ β}

theorem conseq (h : Triple P m Q E) (hP : ∀ s, P' s → P s) (hQ : ∀ a s, Q a s → Q' a s)
    (hE : ∀ e s, E e s → E' e s) : Triple P' m Q' E' := by
  intro s hs
  have := h s (hP s hs)
  rcases hm : m s with ⟨e | a, t⟩ <;> rw [hm] at this
  · exact hE e t this
  · exact hQ a t this

theorem and {E' : ε → σ → Prop} (h : Triple P m Q E) (h' : Triple P' m Q' E') :
    Triple (fun s => P s ∧ P' s) m (fun a s => Q a s ∧ Q' a s) fun e s => E e s ∧ E' e s := by
  intro s hs
  have hleft := h s hs.1
  have hright := h' s hs.2
  rcases hm : m s with ⟨e | a, t⟩ <;> rw [hm] at hleft hright <;> exact ⟨hleft, hright⟩

/-- A fact that does not depend on the state. -/
theorem assume {p : Prop} (h : p → Triple P m Q E) : Triple (fun s => P s ∧ p) m Q E :=
  fun s hs => h hs.2 s hs.1

theorem pure {a : α} (h : ∀ s, P s → Q a s) : Triple P (Pure.pure a : Stateful ε σ α) Q E := h

theorem throw {e : ε} (h : ∀ s, P s → E e s) :
    Triple P (MonadExcept.throw e : Stateful ε σ α) Q E := h

theorem update {Q : PUnit → σ → Prop} {g : σ → σ} (h : ∀ s, P s → Q ⟨⟩ (g s)) :
    Triple P (modify g : Stateful ε σ PUnit) Q E := h

theorem bind (h : Triple P m Q E) (hf : ∀ a, Triple (Q a) (f a) R E) : Triple P (m >>= f) R E := by
  intro s hs
  have := h s hs
  rw [run_bind]
  rcases hm : m s with ⟨e | a, t⟩ <;> rw [hm] at this
  · exact this
  · exact hf a t this

theorem tryCatch {handle : ε → Stateful ε σ α} (h : Triple P m Q E)
    (hhandle : ∀ e, Triple (E e) (handle e) Q E') :
    Triple P (MonadExcept.tryCatch m handle) Q E' := by
  intro s hs
  have := h s hs
  rw [run_tryCatch]
  rcases hm : m s with ⟨e | a, t⟩ <;> rw [hm] at this
  · exact hhandle e t this
  · exact this

end Triple

end SszSchema
