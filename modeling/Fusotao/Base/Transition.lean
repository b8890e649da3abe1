import Mathlib.Logic.Relation
import Mathlib.Tactic.Basic

/-!
# Runs

A system is a set of initial states and a step relation. What holds initially and survives a step
holds in every reachable state. A history is a list of moves, each from one position to the next.
-/

namespace Transition

variable {σ α : Type}

/-- The states a system gets to from an initial one. -/
def Reachable (init : σ → Prop) (step : σ → σ → Prop) (s : σ) : Prop :=
  ∃ s₀, init s₀ ∧ Relation.ReflTransGen step s₀ s

/-- The induction over a run: an invariant holds initially and each step keeps it. -/
theorem Reachable.invariant {init : σ → Prop} {step : σ → σ → Prop} {s : σ}
    (h : Reachable init step s) (P : σ → Prop) (hinit : ∀ s, init s → P s)
    (hstep : ∀ s s', P s → step s s' → P s') : P s := by
  obtain ⟨s₀, hs₀, hrun⟩ := h
  induction hrun with
  | refl => exact hinit s₀ hs₀
  | tail _ hlast ih => exact hstep _ _ ih hlast

theorem Reachable.mono {init : σ → Prop} {step step' : σ → σ → Prop} {s : σ}
    (h : Reachable init step s) (hstep : ∀ s s', step s s' → step' s s') : Reachable init step' s := by
  obtain ⟨s₀, hs₀, hrun⟩ := h
  exact ⟨s₀, hs₀, Relation.ReflTransGen.mono hstep _ _ hrun⟩

/-- The moves of `history` lead from `start` to `stop`, each one starting where the one before it
ended. -/
def Linked (start : α) : List (α × α) → α → Prop
  | [], stop => start = stop
  | (source, target) :: rest, stop => source = start ∧ Linked target rest stop

instance Linked.decidable [DecidableEq α] : ∀ (start : α) (history : List (α × α)) (stop : α),
    Decidable (Linked start history stop)
  | start, [], stop => inferInstanceAs (Decidable (start = stop))
  | start, (source, target) :: rest, stop =>
      have := Linked.decidable target rest stop
      inferInstanceAs (Decidable (source = start ∧ Linked target rest stop))

theorem linked_snoc {start stop source target : α} {history : List (α × α)}
    (h : Linked start history stop) (hsource : source = stop) :
    Linked start (history ++ [(source, target)]) target := by
  induction history generalizing start with
  | nil => exact ⟨hsource.trans h.symm, rfl⟩
  | cons move history ih => exact ⟨h.1, ih h.2⟩

end Transition
