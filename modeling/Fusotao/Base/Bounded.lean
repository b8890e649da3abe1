import Fusotao.Base.Exec

/-!
# Recursion with a bound

A recursion that is given a bound gives up with an error when it goes deeper. The same recursion with a larger
bound comes to the same result unless the smaller one gives up, and then the bound was too small: a condition that is
carried along with the state.
-/

namespace Exec

variable {ε α β σ : Type} {e : ε} {c c' : Prop} {x y : Except ε α}

/-- The computations come to the same, or the first one gives up with `e`, and then `c` holds. -/
def SameUnless (e : ε) (c : Prop) (x y : Except ε α) : Prop := x = y ∨ x = .error e ∧ c

theorem SameUnless.refl (x : Except ε α) : SameUnless e c x x := .inl rfl

theorem SameUnless.mono (h : SameUnless e c x y) (hc : c → c') : SameUnless e c' x y :=
  h.imp_right fun hgive => ⟨hgive.1, hc hgive.2⟩

theorem SameUnless.eq (h : SameUnless e c x y) (hc : ¬ c) : x = y := h.resolve_right fun hgive => hc hgive.2

/-- One computation after the other: either one may give up. -/
theorem SameUnless.bind {f g : α → Except ε β} (h : SameUnless e c x y)
    (hf : ∀ a, x = .ok a → SameUnless e c (f a) (g a)) : SameUnless e c (x >>= f) (y >>= g) := by
  rcases h with rfl | ⟨rfl, hc⟩
  · cases x with
    | ok a => exact hf a rfl
    | error e' => exact .refl _
  · exact .inr ⟨rfl, hc⟩

/-- A loop gives up if its body does; `c` is a condition on the state that no round brings about. -/
theorem SameUnless.foldlM {f g : σ → α → Except ε σ} {c : σ → Prop}
    (hbody : ∀ s a, SameUnless e (c s) (f s a) (g s a)) (hstep : ∀ s a s', f s a = .ok s' → c s' → c s)
    (l : List α) (init : σ) : SameUnless e (c init) (l.foldlM f init) (l.foldlM g init) := by
  induction l generalizing init with
  | nil => exact .refl _
  | cons a l ih =>
      rw [List.foldlM_cons, List.foldlM_cons]
      exact (hbody init a).bind fun mid hmid => (ih mid).mono (hstep init a mid hmid)

end Exec
