import Mathlib.Data.BitVec
import Mathlib.Data.FinEnum
import Mathlib.Algebra.BigOperators.Fin
import Fusotao.Base.StorageMap

/-!
# Counting

Sums over the entries of a map and over the elements of a list, as sums over all keys and all indices.
-/

open scoped BigOperators

/-- Only one element of a list without duplicates is counted anew. -/
theorem countP_of_ne {α : Type} [DecidableEq α] {p q : α → Bool} {l : List α} {a : α} (hnodup : l.Nodup)
    (ha : a ∈ l) (hp : p a = false) (hne : ∀ x ∈ l, x ≠ a → q x = p x) :
    l.countP q = l.countP p + if q a then 1 else 0 := by
  have hrest : (l.erase a).countP q = (l.erase a).countP p := by
    refine List.countP_congr fun x hx => ?_
    rw [hnodup.mem_erase_iff] at hx
    rw [hne x hx.2 hx.1]
  rw [(List.perm_cons_erase ha).countP_eq q, (List.perm_cons_erase ha).countP_eq p, List.countP_cons, List.countP_cons,
    hrest, hp]
  rfl

/-- An entry is summed under its key, and a key without entry adds nothing. -/
theorem IterMap.sum_entries {κ ν : Type} [Fintype κ] [DecidableEq κ] (m : IterMap κ ν) (f : κ → ν → ℕ) :
    (m.entries.map fun entry => f entry.1 entry.2).sum = ∑ k, ((m.lookup k).map (f k)).getD 0 := by
  have hkeys : (m.entries.map fun entry => f entry.1 entry.2).sum =
      (m.keys.map fun k => ((m.lookup k).map (f k)).getD 0).sum := by
    rw [AList.keys, List.keys, List.map_map]
    refine congrArg List.sum (List.map_congr_left fun entry hentry => ?_)
    rw [Function.comp_apply, IterMap.mem_entries.mp hentry]
    rfl
  have hnodup : m.keys.Nodup := m.nodupKeys
  rw [hkeys, ← List.sum_toFinset _ hnodup]
  refine Finset.sum_subset (Finset.subset_univ _) fun k _ hk => ?_
  rw [List.mem_toFinset] at hk
  rw [AList.lookup_eq_none.mpr hk]
  rfl

theorem sum_range_getElem? {α : Type} {f : α → ℕ} {l : List α} {n : ℕ} (h : l.length ≤ n) :
    ∑ i ∈ Finset.range n, (l[i]?.map f).getD 0 = (l.map f).sum := by
  induction l generalizing n with
  | nil => simp
  | cons a l ih =>
      obtain ⟨n, rfl⟩ := Nat.exists_eq_succ_of_ne_zero (Nat.ne_zero_of_lt h)
      rw [Finset.sum_range_succ', List.map_cons, List.sum_cons, Nat.add_comm]
      exact congrArg (f a + ·) (ih (Nat.le_of_succ_le_succ h))

/-- A list that is not longer than there are words is summed by its indices. -/
theorem sum_bitVec_getElem? {α : Type} {f : α → ℕ} {l : List α} {w : ℕ} (h : l.length ≤ 2 ^ w) :
    ∑ i : BitVec w, (l[i.toNat]?.map f).getD 0 = (l.map f).sum := by
  rw [← sum_range_getElem? h, ← Fin.sum_univ_eq_sum_range (fun i => (l[i]?.map f).getD 0)]
  exact Fintype.sum_equiv BitVec.equivFin.toEquiv _ _ fun i => rfl
