import Mathlib.Data.List.AList
import Mathlib.Data.List.Sort
import Mathlib.Algebra.BigOperators.Fin
import Mathlib.Algebra.Order.BigOperators.Group.Finset

/-!
# Key-value storage

A storage map is a partial function from keys to values: a key that was never written, or was
removed, has no value. A map that is also iterated over keeps its entries in a list without duplicate
keys.
-/

open scoped BigOperators

/-- A storage map that is only ever read and written at given keys. -/
abbrev StorageMap (κ ν : Type) := κ → Option ν

namespace StorageMap

variable {κ ν : Type} [DecidableEq κ]

/-- Write the value of a key, or its absence. -/
def put (m : StorageMap κ ν) (k : κ) (o : Option ν) : StorageMap κ ν := Function.update m k o

def insert (m : StorageMap κ ν) (k : κ) (v : ν) : StorageMap κ ν := Function.update m k (some v)

def remove (m : StorageMap κ ν) (k : κ) : StorageMap κ ν := Function.update m k none

theorem put_apply (m : StorageMap κ ν) (k k' : κ) (o : Option ν) :
    m.put k o k' = if k' = k then o else m k' := Function.update_apply ..

theorem insert_apply (m : StorageMap κ ν) (k k' : κ) (v : ν) :
    m.insert k v k' = if k' = k then some v else m k' := Function.update_apply ..

theorem remove_apply (m : StorageMap κ ν) (k k' : κ) :
    m.remove k k' = if k' = k then none else m k' := Function.update_apply ..

@[simp] theorem put_self (m : StorageMap κ ν) (k : κ) (o : Option ν) : m.put k o k = o :=
  Function.update_self ..

@[simp] theorem put_of_ne (m : StorageMap κ ν) {k k' : κ} (o : Option ν) (h : k' ≠ k) :
    m.put k o k' = m k' := Function.update_of_ne h ..

@[simp] theorem insert_self (m : StorageMap κ ν) (k : κ) (v : ν) : m.insert k v k = some v :=
  Function.update_self ..

@[simp] theorem remove_self (m : StorageMap κ ν) (k : κ) : m.remove k k = none :=
  Function.update_self ..

@[simp] theorem insert_of_ne (m : StorageMap κ ν) {k k' : κ} (v : ν) (h : k' ≠ k) :
    m.insert k v k' = m k' := Function.update_of_ne h ..

@[simp] theorem remove_of_ne (m : StorageMap κ ν) {k k' : κ} (h : k' ≠ k) :
    m.remove k k' = m k' := Function.update_of_ne h ..

/-- An entry is the one that was written, or was there before. -/
theorem insert_eq_some {m : StorageMap κ ν} {k k' : κ} {v v' : ν} (h : m.insert k v k' = some v') :
    k' = k ∧ v' = v ∨ k' ≠ k ∧ m k' = some v' := by
  by_cases hk : k' = k
  · subst hk
    rw [insert_self] at h
    exact .inl ⟨rfl, (Option.some.inj h).symm⟩
  · rw [insert_of_ne m v hk] at h
    exact .inr ⟨hk, h⟩

theorem remove_eq_some {m : StorageMap κ ν} {k k' : κ} {v : ν} (h : m.remove k k' = some v) :
    k' ≠ k ∧ m k' = some v := by
  rw [remove_apply] at h
  split at h
  · exact absurd h (by simp)
  · rename_i hne
    exact ⟨hne, h⟩

end StorageMap

/-- A storage map that can be iterated over. -/
abbrev IterMap (κ ν : Type) := AList fun _ : κ => ν

namespace IterMap

variable {κ ν : Type} [DecidableEq κ]

theorem lookup_insert (m : IterMap κ ν) (k k' : κ) (v : ν) :
    (m.insert k v).lookup k' = if k' = k then some v else m.lookup k' := by
  split
  · rename_i h
    rw [h, AList.lookup_insert]
  · rename_i h
    exact AList.lookup_insert_ne h

theorem lookup_erase (m : IterMap κ ν) (k k' : κ) :
    (m.erase k).lookup k' = if k' = k then none else m.lookup k' := by
  split
  · rename_i h
    rw [h, AList.lookup_erase]
  · rename_i h
    exact AList.lookup_erase_ne h

/-- Every entry of the iteration is the value its key has, and every key with a value is visited. -/
theorem mem_entries {m : IterMap κ ν} {k : κ} {v : ν} :
    (⟨k, v⟩ : Sigma fun _ : κ => ν) ∈ m.entries ↔ m.lookup k = some v :=
  AList.mem_lookup_iff.symm

/-- The entries in the order of their keys. -/
def inOrder [LE κ] [DecidableLE κ] (m : IterMap κ ν) : List (Sigma fun _ : κ => ν) :=
  m.entries.insertionSort fun x y => x.1 ≤ y.1

theorem mem_inOrder [LE κ] [DecidableLE κ] {m : IterMap κ ν} {k : κ} {v : ν} :
    (⟨k, v⟩ : Sigma fun _ : κ => ν) ∈ m.inOrder ↔ m.lookup k = some v :=
  (List.mem_insertionSort _).trans mem_entries

section Fold

variable {α : Type} (key : α → κ) (write : α → Option ν → ν) {l : List α}

/-- A key that no element of the list writes keeps its value. -/
theorem lookup_foldl_of_ne {m : IterMap κ ν} {k : κ} (h : ∀ a ∈ l, key a ≠ k) :
    (l.foldl (fun m a => m.insert (key a) (write a (m.lookup (key a)))) m).lookup k = m.lookup k := by
  induction l generalizing m with
  | nil => rfl
  | cons a l ih =>
      rw [List.forall_mem_cons] at h
      rw [List.foldl_cons, ih h.2, lookup_insert, if_neg (Ne.symm h.1)]

/-- If no two elements have the same key, each one sees the value from before. -/
theorem lookup_foldl_of_mem {m : IterMap κ ν} (hnodup : (l.map key).Nodup) {a : α} (ha : a ∈ l) :
    (l.foldl (fun m a => m.insert (key a) (write a (m.lookup (key a)))) m).lookup (key a) =
      some (write a (m.lookup (key a))) := by
  induction l generalizing m with
  | nil => exact absurd ha List.not_mem_nil
  | cons b l ih =>
      rw [List.map_cons, List.nodup_cons] at hnodup
      have hne : ∀ c ∈ l, key c ≠ key b := by
        intro c hc heq
        rw [← heq] at hnodup
        exact hnodup.1 (List.mem_map_of_mem hc)
      rw [List.foldl_cons]
      rcases List.mem_cons.mp ha with rfl | hmem
      · rw [lookup_foldl_of_ne key write hne, lookup_insert, if_pos rfl]
      · rw [ih hnodup.2 hmem, lookup_insert, if_neg (hne a hmem)]

end Fold

section Sums

variable {M : Type} [AddCommMonoid M] [LE κ] [DecidableLE κ]

/-- The value of a key, as a sum over all entries. -/
theorem sum_entry (m : IterMap κ ν) (f : ν → M) (k : κ) :
    (m.inOrder.map fun e => if e.1 = k then f e.2 else 0).sum = (m.lookup k).elim 0 f := by
  have hsum : ∀ l : List (Sigma fun _ : κ => ν), l.NodupKeys →
      (l.map fun e => if e.1 = k then f e.2 else 0).sum = (l.dlookup k).elim 0 f := by
    intro l hnodup
    induction l with
    | nil => rfl
    | cons e l ih =>
        obtain ⟨k', v⟩ := e
        rw [List.nodupKeys_cons] at hnodup
        rw [List.map_cons, List.sum_cons, ih hnodup.2]
        by_cases hk : k' = k
        · subst hk
          rw [if_pos rfl, List.dlookup_cons_eq, List.dlookup_eq_none.mpr hnodup.1]
          exact add_zero _
        · rw [if_neg hk, List.dlookup_cons_ne _ _ (Ne.symm hk), zero_add]
  rw [inOrder, ((List.perm_insertionSort _ m.entries).map _).sum_eq]
  exact hsum m.entries m.nodupKeys

end Sums

end IterMap

/-! ### Sums over a map

Writing one key changes a sum over all keys by the new value less the old one. -/

theorem sum_update_add_of_mem {ι : Type} [DecidableEq ι] {s : Finset ι} (f : ι → ℕ) {a : ι} (ha : a ∈ s)
    (v : ℕ) : ∑ i ∈ s, Function.update f a v i + f a = ∑ i ∈ s, f i + v := by
  rw [Finset.sum_update_of_mem ha, ← Finset.add_sum_erase _ f ha, Finset.sdiff_singleton_eq_erase]
  omega

theorem sum_update_add {ι : Type} [Fintype ι] [DecidableEq ι] (f : ι → ℕ) (a : ι) (v : ℕ) :
    ∑ i, Function.update f a v i + f a = ∑ i, f i + v :=
  sum_update_add_of_mem f (Finset.mem_univ a) v

/-- The value at one key is at most the sum over all keys. -/
theorem le_sum_univ {ι : Type} [Fintype ι] (f : ι → ℕ) (a : ι) : f a ≤ ∑ i, f i :=
  Finset.single_le_sum (fun _ _ => Nat.zero_le _) (Finset.mem_univ a)

/-! ### The keys of a flag -/

section Flags

variable {κ : Type} [Fintype κ] {f : κ → Bool} {k : κ}

/-- The keys at which a flag is set. Over a large type of keys the set is only reasoned about. -/
@[irreducible] def flagged (f : κ → Bool) : Finset κ := Finset.univ.filter fun k => f k = true

theorem mem_flagged : k ∈ flagged f ↔ f k = true := by
  simp [flagged]

theorem exists_not_flagged (h : (flagged f).card < Fintype.card κ) : ∃ k, f k = false := by
  by_contra hall
  have hflag : flagged f = Finset.univ := by
    ext k
    simpa [mem_flagged] using fun hk => hall ⟨k, hk⟩
  rw [hflag, Finset.card_univ] at h
  exact Nat.lt_irrefl _ h

variable [DecidableEq κ]

theorem card_flagged_set (h : f k = false) :
    (flagged (Function.update f k true)).card = (flagged f).card + 1 := by
  have hset : flagged (Function.update f k true) = insert k (flagged f) := by
    ext j
    simp only [mem_flagged, Finset.mem_insert, Function.update_apply]
    split <;> simp [*]
  rw [hset, Finset.card_insert_of_notMem (by simp [mem_flagged, h])]

theorem card_flagged_clear (h : f k = true) :
    (flagged (Function.update f k false)).card + 1 = (flagged f).card := by
  have hset : flagged (Function.update f k false) = (flagged f).erase k := by
    ext j
    simp only [mem_flagged, Finset.mem_erase, Function.update_apply]
    split <;> simp [*]
  rw [hset, Finset.card_erase_add_one (mem_flagged.mpr h)]

end Flags
