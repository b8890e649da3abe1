import Mathlib.Algebra.Group.Defs
import Mathlib.Data.List.Basic
import Mathlib.Tactic.Basic

/-!
# Computations that may fail

`Except` as the result type of a checked procedure: the guard `ensure`, and the inversion lemmas by
which a proof reads the successful run of a `do` block off its steps, one bind at a time.
-/

namespace Exec

variable {ε α β σ : Type}

/-- Go on if `c` holds, and fail with `e` if it does not. -/
def ensure (c : Prop) [Decidable c] (e : ε) : Except ε Unit :=
  if c then .ok () else .error e

/-- The value of an option, or the error `e`. -/
def okOr (o : Option α) (e : ε) : Except ε α :=
  match o with
  | some a => .ok a
  | none => .error e

@[simp] theorem ensure_eq_ok {c : Prop} [Decidable c] {e : ε} {u : Unit} :
    ensure c e = .ok u ↔ c := by
  unfold ensure
  split <;> simp [*]

@[simp] theorem okOr_eq_ok {o : Option α} {e : ε} {a : α} : okOr o e = .ok a ↔ o = some a := by
  cases o <;> simp [okOr]

@[simp] theorem bind_eq_ok {x : Except ε α} {f : α → Except ε β} {b : β} :
    (x >>= f) = .ok b ↔ ∃ a, x = .ok a ∧ f a = .ok b := by
  cases x <;> simp [bind, Except.bind]

@[simp] theorem pure_eq_ok {a b : α} : (pure a : Except ε α) = .ok b ↔ a = b := by
  simp [pure, Except.pure]

/-- A value is returned beside a result. -/
theorem fst_eq_of_bind {x : Except ε β} {a : α} {r : α × β} (h : (do let other ← x; return (a, other)) = .ok r) :
    r.1 = a := by
  obtain ⟨other, -, hother⟩ := bind_eq_ok.mp h
  rw [← pure_eq_ok.mp hother]

/-- Two results are returned together. -/
theorem eq_ok_of_bind {x : Except ε α} {y : Except ε β} {r : α × β}
    (h : (do let a ← x; let other ← y; return (a, other)) = .ok r) : x = .ok r.1 := by
  obtain ⟨a, ha, hrest⟩ := bind_eq_ok.mp h
  rw [fst_eq_of_bind hrest]
  exact ha

@[simp] theorem ok_bind (a : α) (f : α → Except ε β) : (Except.ok a >>= f) = f a := rfl

@[simp] theorem error_bind (e : ε) (f : α → Except ε β) : (Except.error e >>= f) = .error e := rfl

@[simp] theorem okOr_some (a : α) (e : ε) : okOr (some a) e = .ok a := rfl

@[simp] theorem okOr_none (e : ε) : okOr (none : Option α) e = .error e := rfl

theorem bind_eq_error {x : Except ε α} {f : α → Except ε β} {e : ε} :
    (x >>= f) = .error e ↔ x = .error e ∨ ∃ a, x = .ok a ∧ f a = .error e := by
  cases x <;> simp [bind, Except.bind]

@[simp] theorem ensure_eq_error {c : Prop} [Decidable c] {e e' : ε} :
    ensure c e = .error e' ↔ ¬ c ∧ e = e' := by
  unfold ensure
  split <;> simp [*]

@[simp] theorem okOr_eq_error {o : Option α} {e e' : ε} :
    okOr o e = .error e' ↔ o = none ∧ e = e' := by
  cases o <;> simp [okOr]

theorem exists_of_isOk {x : Except ε α} (h : x.isOk = true) : ∃ a, x = .ok a := by
  cases x with
  | ok a => exact ⟨a, rfl⟩
  | error e => exact absurd h (by simp [Except.isOk, Except.toBool])

/-- The computation succeeds with a value that passes the test. -/
def succeedsWith (x : Except ε α) (p : α → Bool) : Bool :=
  match x with
  | .ok a => p a
  | .error _ => false

theorem exists_of_succeedsWith {x : Except ε α} {p : α → Bool} (h : succeedsWith x p = true) :
    ∃ a, x = .ok a ∧ p a = true := by
  cases x with
  | ok a => exact ⟨a, rfl, h⟩
  | error e => exact absurd h (by simp [succeedsWith])

/-! ### Loops

A `for` loop that may stop early is a monadic fold. Its successful run is a sequence of states, one
for each iteration; an invariant of the body is an invariant of the loop. -/

/-- What holds before the first round, and passes from each round to the next, holds after the last. -/
theorem foldlM_range_invariant {f : σ → Nat → Except ε σ} (P : Nat → σ → Prop) {init final : σ} {n : Nat}
    (hinit : P 0 init) (hstep : ∀ k, k < n → ∀ s s', P k s → f s k = .ok s' → P (k + 1) s')
    (h : (List.range n).foldlM f init = .ok final) : P n final := by
  induction n generalizing final with
  | zero =>
      simp only [List.range_zero, List.foldlM_nil, pure_eq_ok] at h
      exact h ▸ hinit
  | succ n ih =>
      rw [List.range_succ, List.foldlM_append] at h
      obtain ⟨mid, hmid, hlast⟩ := bind_eq_ok.mp h
      simp only [List.foldlM_cons, List.foldlM_nil, bind_eq_ok, pure_eq_ok, exists_eq_right] at hlast
      exact hstep n (Nat.lt_succ_self n) mid final
        (ih (fun k hk => hstep k (Nat.lt_succ_of_lt hk)) hmid) hlast

/-- If each round moves the state to a place related to the one before it, any two places are related in
the order of the rounds. -/
theorem foldlM_range_pairwise {γ : Type} (r : γ → γ → Prop) (pos : σ → γ) (place : Nat → γ)
    {f : σ → Nat → Except ε σ} (htrans : ∀ a b c, r a b → r b c → r a c)
    (hround : ∀ s s' k, f s k = .ok s' → r (pos s) (place k) ∧ pos s' = place k) {init final : σ} {n : Nat}
    (h : (List.range n).foldlM f init = .ok final) :
    (∀ i j, i < j → j < n → r (place i) (place j)) ∧ ∀ i, i < n → place i = pos final ∨ r (place i) (pos final) := by
  refine foldlM_range_invariant (fun k s => (∀ i j, i < j → j < k → r (place i) (place j)) ∧
    ∀ i, i < k → place i = pos s ∨ r (place i) (pos s)) ?_ ?_ h
  · exact ⟨fun i j _ hj => absurd hj (Nat.not_lt_zero j), fun i hi => absurd hi (Nat.not_lt_zero i)⟩
  · rintro k - s s' ⟨hpairs, hpos⟩ hs
    obtain ⟨hmove, hpos'⟩ := hround s s' k hs
    have hplace : ∀ i, i < k → r (place i) (place k) := by
      intro i hi
      rcases hpos i hi with heq | hr
      · exact heq ▸ hmove
      · exact htrans _ _ _ hr hmove
    constructor
    · intro i j hij hj
      rcases Nat.lt_succ_iff_lt_or_eq.mp hj with hlt | rfl
      · exact hpairs i j hij hlt
      · exact hplace i hij
    · intro i hi
      rw [hpos']
      rcases Nat.lt_succ_iff_lt_or_eq.mp hi with hlt | rfl
      · exact .inr (hplace i hlt)
      · exact .inl rfl

/-- What the body keeps for each element of a list holds when the loop over the list is done. -/
theorem foldlM_invariant_mem {f : σ → α → Except ε σ} (P : σ → Prop) {l : List α}
    (hstep : ∀ a ∈ l, ∀ s s', P s → f s a = .ok s' → P s') :
    ∀ {init final : σ}, P init → l.foldlM f init = .ok final → P final := by
  induction l with
  | nil =>
      intro init final hinit h
      simp only [List.foldlM_nil, pure_eq_ok] at h
      exact h ▸ hinit
  | cons a l ih =>
      intro init final hinit h
      rw [List.foldlM_cons] at h
      obtain ⟨mid, hmid, hrest⟩ := bind_eq_ok.mp h
      exact ih (fun b hb => hstep b (List.mem_cons_of_mem a hb))
        (hstep a List.mem_cons_self _ _ hinit hmid) hrest

/-- An invariant of the body of a loop over a list holds when the loop is done. -/
theorem foldlM_invariant {f : σ → α → Except ε σ} (P : σ → Prop)
    (hstep : ∀ s a s', P s → f s a = .ok s' → P s') {l : List α} {init final : σ} (hinit : P init)
    (h : l.foldlM f init = .ok final) : P final :=
  foldlM_invariant_mem P (fun a _ s s' => hstep s a s') hinit h

/-- An invariant of the elements that were visited, in their order, and of the state. -/
theorem foldlM_invariant_visited {f : σ → α → Except ε σ} (P : List α → σ → Prop)
    (hstep : ∀ visited a s s', P visited s → f s a = .ok s' → P (visited ++ [a]) s') {visited l : List α}
    {init final : σ} (hinit : P visited init) (h : l.foldlM f init = .ok final) : P (visited ++ l) final := by
  induction l generalizing visited init with
  | nil =>
      rw [List.append_nil]
      exact pure_eq_ok.mp h ▸ hinit
  | cons a l ih =>
      rw [List.foldlM_cons] at h
      obtain ⟨mid, hmid, hrest⟩ := bind_eq_ok.mp h
      rw [List.append_cons]
      exact ih (hstep visited a init mid hinit hmid) hrest

/-- What every step adds to a measure, a loop adds up. -/
theorem foldl_measure {M : Type} [AddCommMonoid M] (measure : β → M) {step : β → α → β} {f : α → M}
    (hstep : ∀ b a, measure (step b a) = measure b + f a) (l : List α) (b : β) :
    measure (l.foldl step b) = measure b + (l.map f).sum := by
  induction l generalizing b with
  | nil => exact (add_zero _).symm
  | cons a l ih => rw [List.foldl_cons, ih, hstep, List.map_cons, List.sum_cons, add_assoc]

theorem foldlM_measure {M : Type} [AddCommMonoid M] (measure : β → M) {step : β → α → Except ε β} {f : α → M}
    (hstep : ∀ b a b', step b a = .ok b' → measure b' = measure b + f a) {l : List α} {b b' : β}
    (h : l.foldlM step b = .ok b') : measure b' = measure b + (l.map f).sum := by
  induction l generalizing b with
  | nil =>
      obtain rfl := pure_eq_ok.mp h
      exact (add_zero _).symm
  | cons a l ih =>
      rw [List.foldlM_cons, bind_eq_ok] at h
      obtain ⟨mid, hmid, h⟩ := h
      rw [ih h, hstep b a mid hmid, List.map_cons, List.sum_cons, add_assoc]

/-- A loop succeeds if its body does wherever its invariant holds. -/
theorem foldlM_total_invariant {f : σ → α → Except ε σ} (P : σ → Prop) {l : List α}
    (h : ∀ a ∈ l, ∀ s, P s → ∃ s', f s a = .ok s' ∧ P s') {init : σ} (hinit : P init) :
    ∃ final, l.foldlM f init = .ok final ∧ P final := by
  induction l generalizing init with
  | nil => exact ⟨init, rfl, hinit⟩
  | cons a l ih =>
      obtain ⟨mid, hmid, hP⟩ := h a List.mem_cons_self init hinit
      rw [List.foldlM_cons, hmid, ok_bind]
      exact ih (fun b hb => h b (List.mem_cons_of_mem a hb)) hP

/-- A loop succeeds from every state if its body does. -/
theorem foldlM_total {f : σ → α → Except ε σ} {l : List α} (h : ∀ a ∈ l, ∀ s, ∃ s', f s a = .ok s')
    (init : σ) : ∃ final, l.foldlM f init = .ok final := by
  have hbody (a : α) (ha : a ∈ l) (s : σ) (_ : True) : ∃ s', f s a = .ok s' ∧ True := by
    obtain ⟨s', hs'⟩ := h a ha s
    exact ⟨s', hs', trivial⟩
  obtain ⟨final, hfinal, -⟩ := foldlM_total_invariant (fun _ => True) hbody trivial
  exact ⟨final, hfinal⟩

/-- A loop over `0, …, n - 1` succeeds if each round does from what the rounds before it lead to. -/
theorem foldlM_range_total {f : σ → Nat → Except ε σ} (P : Nat → σ → Prop) {init : σ} {n : Nat}
    (hinit : P 0 init) (hstep : ∀ k, k < n → ∀ s, P k s → ∃ s', f s k = .ok s' ∧ P (k + 1) s') :
    ∃ final, (List.range n).foldlM f init = .ok final ∧ P n final := by
  induction n with
  | zero => exact ⟨init, rfl, hinit⟩
  | succ n ih =>
      obtain ⟨mid, hmid, hP⟩ := ih fun k hk => hstep k (Nat.lt_succ_of_lt hk)
      obtain ⟨final, hfinal, hP'⟩ := hstep n (Nat.lt_succ_self n) mid hP
      refine ⟨final, ?_, hP'⟩
      rw [List.range_succ, List.foldlM_append, hmid, ok_bind, List.foldlM_cons, hfinal]
      rfl

/-- A loop does not fail in a way its body never does. -/
theorem foldlM_ne_error {f : σ → α → Except ε σ} {e : ε} {l : List α} (h : ∀ a ∈ l, ∀ s, f s a ≠ .error e)
    {init : σ} : l.foldlM f init ≠ .error e := by
  induction l generalizing init with
  | nil => simp [pure, Except.pure]
  | cons a l ih =>
      rw [List.foldlM_cons, ne_eq, bind_eq_error]
      rintro (hhead | ⟨mid, -, hrest⟩)
      · exact h a List.mem_cons_self init hhead
      · exact ih (fun b hb => h b (List.mem_cons_of_mem a hb)) hrest

/-- A loop that succeeds has visited each element. -/
theorem exists_of_foldlM_eq_ok {f : σ → α → Except ε σ} {l : List α} {init final : σ}
    (h : l.foldlM f init = .ok final) {a : α} (ha : a ∈ l) : ∃ s s', f s a = .ok s' := by
  induction l generalizing init with
  | nil => exact absurd ha List.not_mem_nil
  | cons b l ih =>
      rw [List.foldlM_cons] at h
      obtain ⟨mid, hmid, hrest⟩ := bind_eq_ok.mp h
      rcases List.mem_cons.mp ha with rfl | ha
      · exact ⟨init, mid, hmid⟩
      · exact ih hrest ha

/-- What each round of a loop over `0, …, n - 1` finds out holds for all of them. -/
theorem foldlM_range_round {f : σ → Nat → Except ε σ} {init final : σ} {n : Nat} {P : Nat → Prop}
    (h : (List.range n).foldlM f init = .ok final) (hround : ∀ s s' k, f s k = .ok s' → P k) :
    ∀ k, k < n → P k := by
  intro k hk
  obtain ⟨s, s', hs⟩ := exists_of_foldlM_eq_ok h (List.mem_range.mpr hk)
  exact hround s s' k hs

/-- A loop that checks each element before its body is the loop of its body, with all checks passed. -/
theorem foldlM_check {check : α → Except ε Unit} {f : σ → α → Except ε σ} {l : List α} {init final : σ}
    (h : l.foldlM (fun s a => do check a; f s a) init = .ok final) :
    (∀ a ∈ l, check a = .ok ()) ∧ l.foldlM f init = .ok final := by
  induction l generalizing init with
  | nil => exact ⟨fun a ha => absurd ha List.not_mem_nil, h⟩
  | cons a l ih =>
      rw [List.foldlM_cons] at h
      obtain ⟨mid, hmid, hrest⟩ := bind_eq_ok.mp h
      obtain ⟨u, hcheck, hbody⟩ := bind_eq_ok.mp hmid
      obtain ⟨hall, hloop⟩ := ih hrest
      refine ⟨List.forall_mem_cons.mpr ⟨hcheck, hall⟩, ?_⟩
      rw [List.foldlM_cons, hbody, ok_bind]
      exact hloop

theorem forM_check {check : α → Except ε Unit} {l : List α} {u : Unit} (h : l.forM check = .ok u) :
    ∀ a ∈ l, check a = .ok () := by
  induction l with
  | nil => exact fun a ha => absurd ha List.not_mem_nil
  | cons a l ih =>
      obtain ⟨v, hhead, hrest⟩ := bind_eq_ok.mp h
      exact List.forall_mem_cons.mpr ⟨hhead, ih hrest⟩

end Exec
