import Mathlib.Algebra.Order.Ring.Nat
import Mathlib.Tactic.Ring

/-!
# Shares that are rounded

A budget is shared out by parts of a whole. If every share is rounded to the nearest unit, all of them together exceed
the budget by half a unit for each share at most.
-/

namespace Rounding

variable {ι : Type} {part share : ι → Nat} {whole budget : Nat}

/-- The share is the part of the budget, and half a unit more at most. -/
def Nearest (whole part budget share : Nat) : Prop := 2 * whole * share ≤ 2 * part * budget + whole

theorem Nearest.mono {p share : Nat} {budget budget' : Nat} (h : Nearest whole p budget share)
    (hle : budget ≤ budget') : Nearest whole p budget' share :=
  h.trans (Nat.add_le_add_right (Nat.mul_le_mul_left _ hle) _)

theorem sum_shares (l : List ι) (h : ∀ x ∈ l, Nearest whole (part x) budget (share x)) :
    2 * whole * (l.map share).sum ≤ 2 * (l.map part).sum * budget + whole * l.length := by
  induction l with
  | nil => simp
  | cons x l ih =>
      have hx := h x List.mem_cons_self
      have hl := ih fun y hy => h y (List.mem_cons_of_mem x hy)
      rw [Nearest] at hx
      rw [List.map_cons, List.map_cons, List.sum_cons, List.sum_cons, List.length_cons]
      calc 2 * whole * (share x + (l.map share).sum) = 2 * whole * share x + 2 * whole * (l.map share).sum := by ring
        _ ≤ (2 * part x * budget + whole) + (2 * (l.map part).sum * budget + whole * l.length) :=
            Nat.add_le_add hx hl
        _ = 2 * (part x + (l.map part).sum) * budget + whole * (l.length + 1) := by ring

/-- If the parts make up no more than the whole, the shares exceed the budget by half a unit each at most. -/
theorem two_mul_sum_shares_le (hwhole : 0 < whole) (l : List ι)
    (h : ∀ x ∈ l, Nearest whole (part x) budget (share x)) (hparts : (l.map part).sum ≤ whole) :
    2 * (l.map share).sum ≤ 2 * budget + l.length := by
  apply Nat.le_of_mul_le_mul_left _ hwhole
  calc whole * (2 * (l.map share).sum) = 2 * whole * (l.map share).sum := by ring
    _ ≤ 2 * (l.map part).sum * budget + whole * l.length := sum_shares l h
    _ ≤ 2 * whole * budget + whole * l.length :=
        Nat.add_le_add_right (Nat.mul_le_mul_right _ (Nat.mul_le_mul_left 2 hparts)) _
    _ = whole * (2 * budget + l.length) := by ring

end Rounding
