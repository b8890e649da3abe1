import Fusotao.Base.StorageMap

/-!
# Escrow

An account keeps the deposits that are listed under keys. It is covered if, besides a base of its own, it has as much
as all deposits together. Depositing under a free key, paying out the deposit of a key and rewriting a deposit keep it
covered.
-/

open scoped BigOperators

namespace Escrow

variable {κ α : Type} {amount : α → Nat} {deposits : StorageMap κ α} {k : κ} {a : α} {base held held' : Nat}

/-- What is deposited under a key. -/
def owedTo (amount : α → Nat) (deposits : StorageMap κ α) (k : κ) : Nat := ((deposits k).map amount).getD 0

theorem owedTo_of_some (h : deposits k = some a) : owedTo amount deposits k = amount a := by
  rw [owedTo, h, Option.map_some, Option.getD_some]

theorem owedTo_of_none (h : deposits k = none) : owedTo amount deposits k = 0 := by
  rw [owedTo, h, Option.map_none, Option.getD_none]

theorem owedTo_put [DecidableEq κ] (o : Option α) : owedTo amount (deposits.put k o) =
    Function.update (owedTo amount deposits) k ((o.map amount).getD 0) := by
  funext k'
  rw [owedTo, StorageMap.put_apply, Function.update_apply]
  split
  · rfl
  · rw [owedTo]

variable [Fintype κ]

/-- What all deposits come to. -/
def owed (amount : α → Nat) (deposits : StorageMap κ α) : Nat := ∑ k, owedTo amount deposits k

/-- The deposits are there, besides the base. -/
def Covered (amount : α → Nat) (base : Nat) (deposits : StorageMap κ α) (held : Nat) : Prop :=
  base + owed amount deposits ≤ held

theorem covered_of_empty (hdeposits : ∀ k, deposits k = none) (hheld : base ≤ held) :
    Covered amount base deposits held := by
  have hnothing : owed amount deposits = 0 := Finset.sum_eq_zero fun k _ => owedTo_of_none (hdeposits k)
  rw [Covered, hnothing]
  exact hheld

theorem Covered.outside (h : Covered amount base deposits held) (hheld : held ≤ held') :
    Covered amount base deposits held' :=
  h.trans hheld

/-- What is deposited under one key is there. -/
theorem Covered.le (h : Covered amount base deposits held) (hdeposit : deposits k = some a) :
    base + amount a ≤ held := by
  have hle := le_sum_univ (owedTo amount deposits) k
  rw [owedTo_of_some hdeposit] at hle
  rw [Covered, owed] at h
  omega

variable [DecidableEq κ]

/-- Writing one deposit changes what is owed by the difference. -/
theorem owed_put (amount : α → Nat) (deposits : StorageMap κ α) (k : κ) (o : Option α) :
    owed amount (deposits.put k o) + owedTo amount deposits k = owed amount deposits + (o.map amount).getD 0 := by
  rw [owed, owedTo_put]
  exact sum_update_add (owedTo amount deposits) k ((o.map amount).getD 0)

theorem Covered.deposit (h : Covered amount base deposits held) (hfree : deposits k = none)
    (hheld : held + amount a ≤ held') : Covered amount base (deposits.insert k a) held' := by
  have hput := owed_put amount deposits k (some a)
  rw [owedTo_of_none hfree, Option.map_some, Option.getD_some] at hput
  have hinsert : owed amount (deposits.insert k a) = owed amount (deposits.put k (some a)) := rfl
  rw [Covered, hinsert]
  rw [Covered] at h
  omega

theorem Covered.payOut (h : Covered amount base deposits held) (hdeposit : deposits k = some a)
    (hheld : held ≤ held' + amount a) : Covered amount base (deposits.remove k) held' := by
  have hput := owed_put amount deposits k none
  rw [owedTo_of_some hdeposit, Option.map_none, Option.getD_none] at hput
  have hremove : owed amount (deposits.remove k) = owed amount (deposits.put k none) := rfl
  rw [Covered, hremove]
  rw [Covered] at h
  omega

theorem Covered.rewrite {a' : α} (h : Covered amount base deposits held) (hdeposit : deposits k = some a)
    (hamount : amount a' = amount a) (hheld : held ≤ held') : Covered amount base (deposits.insert k a') held' := by
  have hput := owed_put amount deposits k (some a')
  rw [owedTo_of_some hdeposit, Option.map_some, Option.getD_some, hamount] at hput
  have hinsert : owed amount (deposits.insert k a') = owed amount (deposits.put k (some a')) := rfl
  rw [Covered, hinsert]
  rw [Covered] at h
  omega

end Escrow
