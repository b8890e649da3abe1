import Mathlib.Algebra.BigOperators.Group.List.Basic
import Mathlib.Algebra.Order.BigOperators.Group.Finset
import Fusotao.Base.StorageMap

/-!
# Running totals

Entries have a key and an amount. A map that adds up the amounts of each key as they come has, at every key, the total
of its entries, whatever is added up and in whatever order the keys take turns.
-/

namespace Totals

variable {κ M : Type} [DecidableEq κ] [AddMonoid M]

/-- What the entries of a key amount to. -/
def total (entries : List (κ × M)) (k : κ) : M := ((entries.filter fun e => e.1 = k).map Prod.snd).sum

@[simp] theorem total_nil (k : κ) : total ([] : List (κ × M)) k = 0 := rfl

theorem total_append (entries entries' : List (κ × M)) (k : κ) :
    total (entries ++ entries') k = total entries k + total entries' k := by
  rw [total, List.filter_append, List.map_append, List.sum_append]
  rfl

theorem total_singleton (e : κ × M) (k : κ) : total [e] k = if e.1 = k then e.2 else 0 := by
  rw [total, List.filter_singleton]
  by_cases h : e.1 = k <;> simp [h]

/-- A key without entries has no total. -/
theorem total_eq_zero {entries : List (κ × M)} {k : κ} (h : ∀ e ∈ entries, e.1 ≠ k) : total entries k = 0 := by
  rw [total, List.filter_eq_nil_iff.mpr fun e he => by simpa using h e he]
  rfl

/-- The map has the total of every key, where nothing is written for no entry. -/
def Holds (m : StorageMap κ M) (entries : List (κ × M)) : Prop := ∀ k, (m k).getD 0 = total entries k

theorem Holds.empty {m : StorageMap κ M} (h : ∀ k, m k = none) : Holds m [] := by
  intro k
  rw [h]
  rfl

/-- An amount is added at its key. -/
theorem Holds.add {m : StorageMap κ M} {entries : List (κ × M)} (h : Holds m entries) (k : κ) (x : M) :
    Holds (m.insert k ((m k).getD 0 + x)) (entries ++ [(k, x)]) := by
  intro k'
  rw [total_append, total_singleton, StorageMap.insert_apply, ← h k']
  by_cases hk : k' = k
  · subst hk
    rw [if_pos rfl, if_pos rfl]
    rfl
  · rw [if_neg hk, if_neg (Ne.symm hk), add_zero]

/-! ### Families that move one way

Where none of the members moves against the others, each moves as the total does. -/

section Aligned

open scoped BigOperators

variable {ι N : Type} [PartialOrder N] {s : Finset ι} {f g : ι → N}

/-- One of the families is below the other everywhere. -/
def Aligned (s : Finset ι) (f g : ι → N) : Prop := (∀ i ∈ s, f i ≤ g i) ∨ ∀ i ∈ s, g i ≤ f i

theorem Aligned.symm (h : Aligned s f g) : Aligned s g f := Or.symm h

theorem aligned_and_sum_le_iff [AddCommMonoid N] [IsOrderedCancelAddMonoid N] :
    Aligned s f g ∧ ∑ i ∈ s, f i ≤ ∑ i ∈ s, g i ↔ ∀ i ∈ s, f i ≤ g i := by
  constructor
  · rintro ⟨hle | hge, hsum⟩
    · exact hle
    · -- The totals are equal then, and so is each member.
      have heq := (Finset.sum_eq_sum_iff_of_le hge).mp ((Finset.sum_le_sum hge).antisymm hsum)
      exact fun i hi => (heq i hi).ge
  · exact fun hle => ⟨.inl hle, Finset.sum_le_sum hle⟩

end Aligned

end Totals
