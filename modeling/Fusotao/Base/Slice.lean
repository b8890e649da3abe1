import Mathlib.Data.Vector.Basic
import Mathlib.Tactic.Basic

/-!
# Slices

Ranges of an array of fixed length, read and written with the bounds checked: a range that is not inside the array, or a
source of another length than the range, gives nothing. Both are characterised element by element.
-/

namespace Slice

variable {α : Type} {n : Nat}

/-- The elements from `lo` up to, and without, `hi`. -/
def range (xs : List.Vector α n) (lo hi : Nat) : Option (List α) :=
  if lo ≤ hi ∧ hi ≤ n then some ((xs.toList.drop lo).take (hi - lo)) else none

/-- The elements of a range replaced by those of a list of the same length. -/
def copyFrom (xs : List.Vector α n) (lo hi : Nat) (ys : List α) : Option (List.Vector α n) :=
  if h : lo ≤ hi ∧ hi ≤ n ∧ ys.length = hi - lo then
    some ⟨xs.toList.take lo ++ (ys ++ xs.toList.drop hi), by
      simp only [List.length_append, List.length_take, List.length_drop, List.Vector.toList_length]
      omega⟩
  else none

theorem getElem?_toList (xs : List.Vector α n) {i : Nat} (hi : i < n) : xs.toList[i]? = some (xs.get ⟨i, hi⟩) := by
  have hlt : i < xs.toList.length := by
    rw [xs.toList_length]
    exact hi
  rw [List.getElem?_eq_getElem hlt, List.Vector.get_eq_get_toList]
  rfl

theorem getElem?_set (xs : List.Vector α n) {k : Nat} (hk : k < n) (a : α) (j : Nat) :
    (xs.set ⟨k, hk⟩ a).toList[j]? = if k = j then some a else xs.toList[j]? := by
  have hlt : k < xs.toList.length := by
    rw [xs.toList_length]
    exact hk
  rw [List.Vector.toList_set, List.getElem?_set, if_pos hlt]

theorem range_eq_some {xs : List.Vector α n} {lo hi : Nat} {ys : List α} :
    range xs lo hi = some ys ↔
      lo ≤ hi ∧ hi ≤ n ∧ ys.length = hi - lo ∧ ∀ i, i < hi - lo → xs.toList[lo + i]? = ys[i]? := by
  unfold range
  constructor
  · intro h
    split at h
    · rename_i hbounds
      obtain rfl := Option.some.inj h
      refine ⟨hbounds.1, hbounds.2, ?_, ?_⟩
      · simp only [List.length_take, List.length_drop, List.Vector.toList_length]
        omega
      · intro i hin
        rw [List.getElem?_take_of_lt hin, List.getElem?_drop]
    · cases h
  · rintro ⟨hle, hn, hlength, helems⟩
    rw [if_pos ⟨hle, hn⟩]
    congr 1
    apply List.ext_getElem?
    intro i
    by_cases hin : i < hi - lo
    · rw [List.getElem?_take_of_lt hin, List.getElem?_drop, helems i hin]
    · have htake : ((xs.toList.drop lo).take (hi - lo)).length ≤ i := by
        rw [List.length_take]
        omega
      rw [List.getElem?_eq_none htake, List.getElem?_eq_none (by omega)]

theorem range_of_le {xs : List.Vector α n} {lo hi : Nat} (hle : lo ≤ hi) (hn : hi ≤ n) :
    range xs lo hi = some ((xs.toList.drop lo).take (hi - lo)) :=
  if_pos ⟨hle, hn⟩

theorem copyFrom_eq_some {xs zs : List.Vector α n} {lo hi : Nat} {ys : List α} (h : copyFrom xs lo hi ys = some zs) :
    lo ≤ hi ∧ hi ≤ n ∧ ys.length = hi - lo ∧
      ∀ i, zs.toList[i]? = if lo ≤ i ∧ i < hi then ys[i - lo]? else xs.toList[i]? := by
  unfold copyFrom at h
  split at h
  · rename_i hbounds
    obtain ⟨hle, hn, hlength⟩ := hbounds
    obtain rfl := Option.some.inj h
    refine ⟨hle, hn, hlength, ?_⟩
    intro i
    have htake : (xs.toList.take lo).length = lo := by
      rw [List.length_take, xs.toList_length]
      omega
    show (xs.toList.take lo ++ (ys ++ xs.toList.drop hi))[i]? = _
    by_cases hlo : lo ≤ i
    · rw [List.getElem?_append_right (by omega), htake]
      by_cases hhi : i < hi
      · rw [if_pos ⟨hlo, hhi⟩, List.getElem?_append_left (by omega)]
      · rw [if_neg (by omega), List.getElem?_append_right (by omega), List.getElem?_drop]
        congr 1
        omega
    · rw [if_neg (by omega), List.getElem?_append_left (by omega), List.getElem?_take_of_lt (by omega)]
  · cases h

theorem exists_copyFrom (xs : List.Vector α n) {lo hi : Nat} {ys : List α} (hle : lo ≤ hi) (hn : hi ≤ n)
    (hlength : ys.length = hi - lo) : ∃ zs, copyFrom xs lo hi ys = some zs := by
  unfold copyFrom
  rw [dif_pos ⟨hle, hn, hlength⟩]
  exact ⟨_, rfl⟩

end Slice
