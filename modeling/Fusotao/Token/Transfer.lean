import Fusotao.Token.Ledger

/-!
# Transfers

A transfer takes from nobody but its origin, and leaves what all accounts have together. Where a token is issued
within the range of a word, what is free can be transferred to anybody.
-/

namespace Fusotao.Token

open Exec

open scoped BigOperators

variable {cfg : Config} {s s' : State cfg} {token : TokenId} {who target : AccountId} {value paid : U128}

/-- Transfers of the native token end with a result or an error. -/
def TransferReturns (cfg : Config) : Prop :=
  ∀ s origin target value, cfg.balances.transfer s origin target value ≠ .error .panic

theorem transferToken_ne_panic (hreturns : TransferReturns cfg) :
    transferToken who token value target s ≠ .error .panic := by
  intro h
  unfold transferToken at h
  split at h
  · exact absurd h (by simp [pure, Except.pure])
  split at h
  · exact absurd h (by simp [pure, Except.pure])
  split at h
  · simp only [bind_eq_error, pure, Except.pure, reduceCtorEq, and_false, exists_false, or_false] at h
    exact hreturns _ _ _ _ h
  · simp [bind_eq_error, pure, Except.pure] at h

theorem transferToken_self (h : transferToken who token value who s = .ok (paid, s')) : s' = s := by
  unfold transferToken at h
  rw [if_pos rfl, ite_self] at h
  exact (Prod.mk.inj (pure_eq_ok.mp h)).2.symm

/-- Only the origin has less afterwards. -/
theorem transferToken_free_le (hexact : cfg.balances.Exact)
    (h : transferToken who token value target s = .ok (paid, s')) (t : TokenId) {other : AccountId}
    (hother : other ≠ who) : (balancesOf t other s).1.toNat ≤ (balancesOf t other s').1.toNat := by
  by_cases hself : who = target
  · subst hself
    rw [transferToken_self h]
  obtain ⟨-, htarget, helsewhere⟩ := transferToken_eq_ok hexact hself h
  by_cases hkey : (t, other) = (token, target)
  · obtain ⟨rfl, rfl⟩ := Prod.mk.inj hkey
    rw [htarget]
    exact Nat.le_add_right _ _
  · rw [helsewhere t other (by simp [hother]) hkey]

theorem transferToken_totalBalance (hexact : cfg.balances.Exact)
    (h : transferToken who token value target s = .ok (paid, s')) (t : TokenId) :
    totalBalance t s' = totalBalance t s := by
  by_cases hself : who = target
  · subst hself
    rw [transferToken_self h]
  have hreserved := transferToken_sameReserved hexact.toLawful h
  obtain ⟨horigin, htarget, helsewhere⟩ := transferToken_eq_ok hexact hself h
  by_cases ht : t = token
  · subst ht
    -- The balances of two accounts change, one after the other.
    let held (s : State cfg) (a : AccountId) : Nat := (balancesOf t a s).1.toNat + (balancesOf t a s).2.toNat
    have hheld : held s' = Function.update (Function.update (held s) who (held s' who)) target (held s' target) := by
      funext a
      by_cases hat : a = target
      · rw [hat, Function.update_self]
      by_cases haw : a = who
      · rw [haw, Function.update_of_ne hself, Function.update_self]
      · rw [Function.update_of_ne hat, Function.update_of_ne haw]
        exact congrArg (fun b : U128 × U128 => b.1.toNat + b.2.toNat)
          (helsewhere t a (by simp [haw]) (by simp [hat]))
    have hfirst := sum_update_add (held s) who (held s' who)
    have hsecond := sum_update_add (Function.update (held s) who (held s' who)) target (held s' target)
    rw [← hheld, Function.update_of_ne (Ne.symm hself)] at hsecond
    have hwho : held s who = held s' who + value.toNat := by
      have : (balancesOf t who s').2 = (balancesOf t who s).2 := hreserved t who
      simp only [held, this, horigin]
      omega
    have htarget : held s' target = held s target + value.toNat := by
      have : (balancesOf t target s').2 = (balancesOf t target s).2 := hreserved t target
      simp only [held, this, htarget]
      omega
    change ∑ a, held s' a = ∑ a, held s a
    omega
  · refine Finset.sum_congr rfl fun a _ => ?_
    rw [helsewhere t a (by simp [ht]) (by simp [ht])]

/-- Nobody has less after something is minted. -/
theorem doMint_free_le (h : doMint token who value s = .ok s') (t : TokenId) (other : AccountId) :
    (balancesOf t other s).1.toNat ≤ (balancesOf t other s').1.toNat := by
  by_cases hkey : (t, other) = (token, who)
  · obtain ⟨rfl, rfl⟩ := Prod.mk.inj hkey
    have hcredit : ∀ (unified free : U128) (tokens : StorageMap TokenId XToken),
        Word.checkedAdd ((s.balances (t, other)).getD default).free unified = some free →
          (freeBalance t other s).toNat ≤ (freeBalance t other { s with
            balances := s.balances.insert (t, other) { (s.balances (t, other)).getD default with free }
            tokens }).toNat := by
      intro unified free tokens hfree
      unfold freeBalance
      split
      · rfl
      · dsimp only
        rw [StorageMap.insert_self, Option.getD_some, Word.checkedAdd_eq_some.mp hfree]
        exact Nat.le_add_right _ _
    unfold doMint at h
    split at h
    · rw [pure_eq_ok.mp h]
    · obtain ⟨info, -, h⟩ := bind_eq_ok.mp h
      cases hdecimals : info.decimals? <;>
        simp only [hdecimals, bind_eq_ok, pure_eq_ok, okOr_eq_ok] at h
      · obtain ⟨-, rfl, -, -, free, hfree, rfl⟩ := h
        exact hcredit _ free _ hfree
      · obtain ⟨total, -, -, rfl, -, -, free, hfree, rfl⟩ := h
        exact hcredit _ free _ hfree
  · rw [doMint_onlyAt h t other hkey]

/-- Two accounts have no more than all together. -/
theorem free_add_free_le_total (token : TokenId) (hne : who ≠ target) (s : State cfg) :
    (balancesOf token who s).1.toNat + (balancesOf token target s).1.toNat ≤ totalBalance token s := by
  have hpair := Finset.sum_le_sum_of_subset (f := fun a =>
    (balancesOf token a s).1.toNat + (balancesOf token a s).2.toNat) (Finset.subset_univ {who, target})
  rw [Finset.sum_pair hne] at hpair
  exact (by omega : _ ≤ _).trans hpair

theorem transferToken_ok_of_total (hunlocked : cfg.balances.Unlocked who) (hne : who ≠ target)
    (hvalue : value.toNat ≤ (balancesOf token who s).1.toNat) (htotal : totalBalance token s < 2 ^ 128) :
    ∃ s', transferToken who token value target s = .ok (value, s') := by
  have hpair := free_add_free_le_total token hne s
  exact transferToken_ok hunlocked hne hvalue (by omega)

end Fusotao.Token
