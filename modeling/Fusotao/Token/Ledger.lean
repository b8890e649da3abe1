import Fusotao.Token.Pallet

/-!
# The two balances of an account

What each operation of the token pallet does to the free and the reserved balance of every account,
whichever of the two ledgers a token is in.
-/

namespace Fusotao.Token

open Exec Word

variable {cfg : Config} {s s' : State cfg} {token : TokenId} {who : AccountId} {value : U128}

/-- The free and the reserved balance. -/
def balancesOf (token : TokenId) (who : AccountId) (s : State cfg) : U128 × U128 :=
  (freeBalance token who s, reservedBalance token who s)

/-- No other account changes. -/
def OnlyAt (token : TokenId) (who : AccountId) (s s' : State cfg) : Prop :=
  ∀ t a, (t, a) ≠ (token, who) → balancesOf t a s' = balancesOf t a s

theorem OnlyAt.refl (token : TokenId) (who : AccountId) (s : State cfg) : OnlyAt token who s s :=
  fun _ _ _ => rfl

/-- No reserved balance changes. -/
def SameReserved (s s' : State cfg) : Prop :=
  ∀ t a, reservedBalance t a s' = reservedBalance t a s

theorem SameReserved.refl (s : State cfg) : SameReserved s s := fun _ _ => rfl

theorem SameReserved.trans {s'' : State cfg} (h : SameReserved s s') (h' : SameReserved s' s'') :
    SameReserved s s'' := fun t a => (h' t a).trans (h t a)

theorem balancesOf_native (who : AccountId) (s : State cfg) :
    balancesOf cfg.nativeTokenId who s =
      (cfg.balances.free s.native who, cfg.balances.reserved s.native who) := by
  simp only [balancesOf, freeBalance, reservedBalance, ↓reduceIte]

theorem balancesOf_of_ne (h : token ≠ cfg.nativeTokenId) (who : AccountId) (s : State cfg) :
    balancesOf token who s = (((s.balances (token, who)).getD default).free,
      ((s.balances (token, who)).getD default).reserved) := by
  simp only [balancesOf, freeBalance, reservedBalance, if_neg h]

/-- Writing one entry of the map changes one account. -/
theorem onlyAt_put (account : Option TokenAccountData) :
    OnlyAt token who s { s with balances := s.balances.put (token, who) account } := by
  intro t a hne
  by_cases ht : t = cfg.nativeTokenId
  · subst ht
    rw [balancesOf_native, balancesOf_native]
  · rw [balancesOf_of_ne ht, balancesOf_of_ne ht]
    dsimp only
    rw [StorageMap.put_of_ne _ _ hne]

/-- Writing the ledger of the native token changes the accounts it changes there. -/
theorem onlyAt_native {native : cfg.balances.Store}
    (h : ∀ a, a ≠ who → cfg.balances.free native a = cfg.balances.free s.native a ∧
      cfg.balances.reserved native a = cfg.balances.reserved s.native a) :
    OnlyAt cfg.nativeTokenId who s { s with native } := by
  intro t a hne
  by_cases ht : t = cfg.nativeTokenId
  · subst ht
    obtain ⟨hfree, hreserved⟩ := h a fun ha => hne (by rw [ha])
    rw [balancesOf_native, balancesOf_native, hfree, hreserved]
  · rw [balancesOf_of_ne ht, balancesOf_of_ne ht]

/-- `tryMutateAccount` leaves the balances `f` returns. -/
theorem tryMutateAccount_eq_ok (hlaw : cfg.balances.Lawful) {f : U128 × U128 → Result (U128 × U128)}
    (h : tryMutateAccount token who f s = .ok s') :
    f (balancesOf token who s) = .ok (balancesOf token who s') ∧ OnlyAt token who s s' := by
  unfold tryMutateAccount at h
  split at h
  · rename_i htoken
    subst htoken
    simp only [bind_eq_ok, pure_eq_ok] at h
    obtain ⟨v, hf, native, hnative, rfl⟩ := h
    obtain ⟨hfree, hreserved⟩ := hlaw.mutateAccount_self _ _ _ _ hnative
    refine ⟨?_, onlyAt_native (hlaw.mutateAccount_other _ _ _ _ hnative)⟩
    rw [balancesOf_native, balancesOf_native, hf, hfree, hreserved]
  · rename_i htoken
    simp only [bind_eq_ok, pure_eq_ok] at h
    obtain ⟨v, hf, rfl⟩ := h
    refine ⟨?_, onlyAt_put _⟩
    rw [balancesOf_of_ne htoken, balancesOf_of_ne htoken, hf]
    simp only [StorageMap.put_self, getD_unlessDead]

/-- An account is written unless that drops its record of the native token. -/
theorem tryMutateAccount_ok (hunlocked : cfg.balances.Unlocked who) {f : U128 × U128 → Result (U128 × U128)}
    {v : U128 × U128} (hf : f (balancesOf token who s) = .ok v)
    (hkeeps : token = cfg.nativeTokenId → v = (0, 0) → balancesOf token who s = (0, 0)) :
    ∃ s', tryMutateAccount token who f s = .ok s' := by
  unfold tryMutateAccount
  split
  · rename_i htoken
    subst htoken
    rw [balancesOf_native] at hf hkeeps
    obtain ⟨native, hnative⟩ := hunlocked.mutateAccount_ok s.native v fun hv =>
      Prod.mk.inj (hkeeps rfl hv)
    rw [hf, ok_bind, hnative]
    exact ⟨_, rfl⟩
  · rename_i htoken
    rw [balancesOf_of_ne htoken] at hf
    dsimp only
    rw [hf]
    exact ⟨_, rfl⟩

theorem tryMutateAccount_sameReserved (hlaw : cfg.balances.Lawful)
    {f : U128 × U128 → Result (U128 × U128)} (hf : ∀ b v, f b = .ok v → v.2 = b.2)
    (h : tryMutateAccount token who f s = .ok s') : SameReserved s s' := by
  obtain ⟨hself, honly⟩ := tryMutateAccount_eq_ok hlaw h
  intro t a
  by_cases hta : (t, a) = (token, who)
  · obtain ⟨rfl, rfl⟩ := Prod.mk.inj hta
    exact hf _ _ hself
  · exact congrArg Prod.snd (honly t a hta)

/-- Reserving moves `value` from the free to the reserved balance. -/
theorem reserve_eq_ok (hlaw : cfg.balances.Lawful) (h : reserve token who value s = .ok s') :
    (balancesOf token who s').2.toNat = (balancesOf token who s).2.toNat + value.toNat ∧
      OnlyAt token who s s' := by
  unfold reserve at h
  split at h
  · rename_i hzero
    obtain rfl := pure_eq_ok.mp h
    exact ⟨by simp [hzero], .refl token who s⟩
  · split at h
    · rename_i htoken
      subst htoken
      simp only [bind_eq_ok, pure_eq_ok] at h
      obtain ⟨native, hnative, rfl⟩ := h
      rw [balancesOf_native, balancesOf_native]
      exact ⟨hlaw.reserve_reserved _ _ _ _ hnative, onlyAt_native (hlaw.reserve_other _ _ _ _ hnative)⟩
    · rename_i htoken
      simp only [bind_eq_ok, pure_eq_ok, okOr_eq_ok, checkedSub_eq_some, checkedAdd_eq_some] at h
      obtain ⟨account, haccount, free, -, reserved, hreserved, rfl⟩ := h
      refine ⟨?_, onlyAt_put _⟩
      rw [balancesOf_of_ne htoken, balancesOf_of_ne htoken, haccount]
      simpa using hreserved

/-- Unreserving takes `value` from the reserved balance. -/
theorem unreserve_eq_ok (hlaw : cfg.balances.Lawful) (h : unreserve token who value s = .ok s') :
    (balancesOf token who s).2.toNat = (balancesOf token who s').2.toNat + value.toNat ∧
      OnlyAt token who s s' := by
  unfold unreserve at h
  split at h
  · rename_i hzero
    obtain rfl := pure_eq_ok.mp h
    exact ⟨by simp [hzero], .refl token who s⟩
  · split at h
    · rename_i htoken
      subst htoken
      simp only [bind_eq_ok, pure_eq_ok, ensure_eq_ok, exists_const] at h
      obtain ⟨hle, rfl⟩ := h
      rw [balancesOf_native, balancesOf_native]
      exact ⟨hlaw.unreserve_reserved _ _ _ hle, onlyAt_native (hlaw.unreserve_other _ _ _)⟩
    · rename_i htoken
      simp only [bind_eq_ok, pure_eq_ok, okOr_eq_ok, checkedSub_eq_some, checkedAdd_eq_some] at h
      obtain ⟨account, haccount, reserved, hreserved, free, -, rfl⟩ := h
      refine ⟨?_, onlyAt_put _⟩
      rw [balancesOf_of_ne htoken, balancesOf_of_ne htoken, haccount]
      simpa using hreserved

/-- What is reserved was free. -/
theorem reserve_free (hlaw : cfg.balances.Lawful) (h : reserve token who value s = .ok s') :
    (balancesOf token who s).1.toNat = (balancesOf token who s').1.toNat + value.toNat := by
  unfold reserve at h
  split at h
  · rename_i hzero
    obtain rfl := pure_eq_ok.mp h
    simp [hzero]
  · split at h
    · rename_i htoken
      subst htoken
      simp only [bind_eq_ok, pure_eq_ok] at h
      obtain ⟨native, hnative, rfl⟩ := h
      rw [balancesOf_native, balancesOf_native]
      exact hlaw.reserve_free _ _ _ _ hnative
    · rename_i htoken
      simp only [bind_eq_ok, pure_eq_ok, okOr_eq_ok, checkedSub_eq_some, checkedAdd_eq_some] at h
      obtain ⟨account, haccount, free, hfree, reserved, -, rfl⟩ := h
      rw [balancesOf_of_ne htoken, balancesOf_of_ne htoken, haccount]
      simpa using hfree

/-- What is no longer reserved is free. -/
theorem unreserve_free (hexact : cfg.balances.Exact) (h : unreserve token who value s = .ok s')
    (hfits : (balancesOf token who s).1.toNat + value.toNat < 2 ^ 128) :
    (balancesOf token who s').1.toNat = (balancesOf token who s).1.toNat + value.toNat := by
  unfold unreserve at h
  split at h
  · rename_i hzero
    obtain rfl := pure_eq_ok.mp h
    simp [hzero]
  · split at h
    · rename_i htoken
      subst htoken
      simp only [bind_eq_ok, pure_eq_ok, ensure_eq_ok, exists_const] at h
      obtain ⟨hle, rfl⟩ := h
      rw [balancesOf_native] at hfits
      rw [balancesOf_native, balancesOf_native]
      exact hexact.unreserve_free _ _ _ hle hfits
    · rename_i htoken
      simp only [bind_eq_ok, pure_eq_ok, okOr_eq_ok, checkedSub_eq_some, checkedAdd_eq_some] at h
      obtain ⟨account, haccount, reserved, -, free, hfree, rfl⟩ := h
      rw [balancesOf_of_ne htoken, balancesOf_of_ne htoken, haccount]
      simpa using hfree

/-- What was released is free, whatever else is. -/
theorem unreserve_covers (hunlocked : cfg.balances.Unlocked who) (h : unreserve token who value s = .ok s') :
    value.toNat ≤ (balancesOf token who s').1.toNat := by
  unfold unreserve at h
  split at h
  · rename_i hzero
    rw [hzero]
    exact Nat.zero_le _
  · split at h
    · rename_i htoken
      subst htoken
      simp only [bind_eq_ok, pure_eq_ok, ensure_eq_ok, exists_const] at h
      obtain ⟨hle, rfl⟩ := h
      rw [balancesOf_native]
      exact hunlocked.unreserve_covers _ _ hle
    · rename_i htoken
      simp only [bind_eq_ok, pure_eq_ok, okOr_eq_ok, checkedSub_eq_some, checkedAdd_eq_some] at h
      obtain ⟨account, haccount, reserved, -, free, hfree, rfl⟩ := h
      rw [balancesOf_of_ne htoken]
      simp only [StorageMap.insert_self, Option.getD_some, hfree]
      exact Nat.le_add_left _ _

theorem reserve_ok (hunlocked : cfg.balances.Unlocked who)
    (hvalue : value.toNat ≤ (balancesOf token who s).1.toNat)
    (hfits : (balancesOf token who s).2.toNat + value.toNat < 2 ^ 128) :
    ∃ s', reserve token who value s = .ok s' := by
  unfold reserve
  split
  · exact ⟨s, rfl⟩
  rename_i hzero
  split
  · rename_i htoken
    subst htoken
    rw [balancesOf_native] at hvalue hfits
    obtain ⟨native, hnative⟩ := hunlocked.reserve_ok s.native value hvalue hfits
    rw [hnative]
    exact ⟨_, rfl⟩
  · rename_i htoken
    rw [balancesOf_of_ne htoken] at hvalue hfits
    cases haccount : s.balances (token, who) with
    | none =>
        rw [haccount] at hvalue
        exact absurd (BitVec.eq_of_toNat_eq (Nat.le_zero.mp hvalue)) hzero
    | some account =>
        rw [haccount, Option.getD_some] at hvalue hfits
        rw [okOr_some, ok_bind, checkedSub, if_pos hvalue, okOr_some, ok_bind, checkedAdd, if_pos hfits]
        exact ⟨_, rfl⟩

/-- Only a free balance that is too large keeps a reserved amount from being released, and none of the native
token does. -/
theorem unreserve_ok (hvalue : value.toNat ≤ (balancesOf token who s).2.toNat)
    (hfits : token ≠ cfg.nativeTokenId → (balancesOf token who s).1.toNat + value.toNat < 2 ^ 128) :
    ∃ s', unreserve token who value s = .ok s' := by
  unfold unreserve
  split
  · exact ⟨s, rfl⟩
  rename_i hzero
  split
  · rename_i htoken
    subst htoken
    rw [balancesOf_native] at hvalue
    rw [ensure, if_pos (show cfg.balances.reserved s.native who ≥ value from hvalue)]
    exact ⟨_, rfl⟩
  · rename_i htoken
    specialize hfits htoken
    rw [balancesOf_of_ne htoken] at hvalue hfits
    cases haccount : s.balances (token, who) with
    | none =>
        rw [haccount] at hvalue
        exact absurd (BitVec.eq_of_toNat_eq (Nat.le_zero.mp hvalue)) hzero
    | some account =>
        rw [haccount, Option.getD_some] at hvalue hfits
        rw [okOr_some, ok_bind, checkedSub, if_pos hvalue, okOr_some, ok_bind, checkedAdd, if_pos hfits]
        exact ⟨_, rfl⟩

/-- What all accounts have of a token, free or reserved. -/
def totalBalance (token : TokenId) (s : State cfg) : Nat :=
  ∑ who, ((balancesOf token who s).1.toNat + (balancesOf token who s).2.toNat)

theorem balance_le_total (token : TokenId) (who : AccountId) (s : State cfg) :
    (balancesOf token who s).1.toNat + (balancesOf token who s).2.toNat ≤ totalBalance token s :=
  le_sum_univ (fun who => (balancesOf token who s).1.toNat + (balancesOf token who s).2.toNat) who

/-- One account moves an amount between its two balances. -/
theorem totalBalance_of_onlyAt (h : OnlyAt token who s s')
    (hsame : (balancesOf token who s').1.toNat + (balancesOf token who s').2.toNat =
      (balancesOf token who s).1.toNat + (balancesOf token who s).2.toNat) :
    totalBalance token s' = totalBalance token s := by
  refine Finset.sum_congr rfl fun other _ => ?_
  by_cases hother : other = who
  · rw [hother, hsame]
  · rw [h token other (by simp [hother])]

theorem reserve_totalBalance (hlaw : cfg.balances.Lawful) (h : reserve token who value s = .ok s') :
    totalBalance token s' = totalBalance token s := by
  obtain ⟨hreserved, honly⟩ := reserve_eq_ok hlaw h
  have hfree := reserve_free hlaw h
  exact totalBalance_of_onlyAt honly (by omega)

theorem unreserve_totalBalance (hexact : cfg.balances.Exact) (hfits : totalBalance token s < 2 ^ 128)
    (h : unreserve token who value s = .ok s') : totalBalance token s' = totalBalance token s := by
  obtain ⟨hreserved, honly⟩ := unreserve_eq_ok hexact.toLawful h
  have hle := balance_le_total token who s
  have hfree := unreserve_free hexact h (by omega)
  exact totalBalance_of_onlyAt honly (by omega)

/-- `value` goes from the free balance of one account to that of another, and no other balance changes. -/
structure Transferred (token : TokenId) (who target : AccountId) (value : U128) (s s' : State cfg) : Prop where
  debit : (balancesOf token who s).1.toNat = (balancesOf token who s').1.toNat + value.toNat
  credit : (balancesOf token target s').1.toNat = (balancesOf token target s).1.toNat + value.toNat
  elsewhere : ∀ t a, (t, a) ≠ (token, who) → (t, a) ≠ (token, target) → balancesOf t a s' = balancesOf t a s

/-- A transfer of any token but the native one. -/
theorem transferToken_moved (htoken : token ≠ cfg.nativeTokenId) {target : AccountId} {paid : U128}
    (hne : who ≠ target) (h : transferToken who token value target s = .ok (paid, s')) :
    Transferred token who target value s s' := by
  unfold transferToken at h
  split at h
  · rename_i hzero
    obtain ⟨-, rfl⟩ := Prod.mk.inj (pure_eq_ok.mp h)
    refine ⟨?_, ?_, fun _ _ _ _ => rfl⟩ <;> simp [hzero]
  simp only [bind_eq_ok, pure_eq_ok, okOr_eq_ok, checkedSub_eq_some, checkedAdd_eq_some,
    Prod.mk.injEq] at h
  obtain ⟨account, haccount, debit, hdebit, credit, hcredit, -, rfl⟩ := h
  rw [StorageMap.put_of_ne _ _ (by simp [Ne.symm hne])] at hcredit
  refine ⟨?_, ?_, fun t a hwho htarget => ?_⟩
  · rw [balancesOf_of_ne htoken, balancesOf_of_ne htoken, haccount]
    dsimp only
    rw [StorageMap.insert_of_ne _ _ (by simp [hne]), StorageMap.put_self, getD_unlessDead]
    exact hdebit
  · rw [balancesOf_of_ne htoken, balancesOf_of_ne htoken]
    dsimp only
    rw [StorageMap.insert_self]
    exact hcredit
  · by_cases ht : t = cfg.nativeTokenId
    · subst ht
      rw [balancesOf_native, balancesOf_native]
    · rw [balancesOf_of_ne ht, balancesOf_of_ne ht]
      dsimp only
      rw [StorageMap.insert_of_ne _ _ htarget, StorageMap.put_of_ne _ _ hwho]

/-- A transfer moves `value` between the free balances of two accounts. -/
theorem transferToken_eq_ok (hexact : cfg.balances.Exact) {target : AccountId} {paid : U128}
    (hne : who ≠ target) (h : transferToken who token value target s = .ok (paid, s')) :
    (balancesOf token who s).1.toNat = (balancesOf token who s').1.toNat + value.toNat ∧
      (balancesOf token target s').1.toNat = (balancesOf token target s).1.toNat + value.toNat ∧
      ∀ t a, (t, a) ≠ (token, who) → (t, a) ≠ (token, target) → balancesOf t a s' = balancesOf t a s := by
  by_cases htoken : token = cfg.nativeTokenId
  · unfold transferToken at h
    split at h
    · rename_i hzero
      obtain ⟨-, rfl⟩ := Prod.mk.inj (pure_eq_ok.mp h)
      simp [hzero]
    subst htoken
    simp only [bind_eq_ok, pure_eq_ok, Prod.mk.injEq] at h
    obtain ⟨native, hnative, -, rfl⟩ := h
    simp only [balancesOf_native]
    refine ⟨hexact.transfer_origin _ _ _ _ _ hne hnative, hexact.transfer_target _ _ _ _ _ hne hnative,
      fun t a hwho htarget => ?_⟩
    by_cases ht : t = cfg.nativeTokenId
    · subst ht
      have hreserved := hexact.transfer_reserved _ _ _ _ _ hnative a
      have hfree := hexact.transfer_other _ _ _ _ _ hnative a (fun ha => hwho (by rw [ha]))
        (fun ha => htarget (by rw [ha]))
      rw [balancesOf_native, balancesOf_native, hfree, hreserved]
    · rw [balancesOf_of_ne ht, balancesOf_of_ne ht]
  · obtain ⟨horigin, htarget, helsewhere⟩ := transferToken_moved htoken hne h
    exact ⟨horigin, htarget, helsewhere⟩

/-- A transfer of what is free goes through, if it fits where it goes. -/
theorem transferToken_ok (hunlocked : cfg.balances.Unlocked who) {target : AccountId} (hne : who ≠ target)
    (hvalue : value.toNat ≤ (balancesOf token who s).1.toNat)
    (hfits : (balancesOf token target s).1.toNat + value.toNat < 2 ^ 128) :
    ∃ s', transferToken who token value target s = .ok (value, s') := by
  by_cases hzero : value = 0
  · exact ⟨s, if_pos hzero⟩
  rw [transferToken, if_neg hzero, if_neg hne]
  by_cases htoken : token = cfg.nativeTokenId
  · subst htoken
    rw [balancesOf_native] at hvalue hfits
    obtain ⟨native, hnative⟩ := hunlocked.transfer_ok _ target value hvalue hfits
    rw [if_pos rfl, hnative]
    exact ⟨_, rfl⟩
  · rw [if_neg htoken]
    rw [balancesOf_of_ne htoken] at hvalue hfits
    cases haccount : s.balances (token, who) with
    | none =>
        rw [haccount] at hvalue
        exact absurd (BitVec.eq_of_toNat_eq (Nat.le_zero.mp hvalue)) hzero
    | some account =>
        rw [haccount, Option.getD_some] at hvalue
        rw [okOr_some, ok_bind, checkedSub, if_pos hvalue, okOr_some, ok_bind]
        dsimp only
        rw [StorageMap.put_of_ne _ _ (by simp [Ne.symm hne]), checkedAdd, if_pos hfits]
        exact ⟨_, rfl⟩

/-! ### What leaves the reserved balances alone -/

theorem sameReserved_put (s : State cfg) (token : TokenId) (who : AccountId)
    (account : Option TokenAccountData)
    (h : (account.getD default).reserved = ((s.balances (token, who)).getD default).reserved) :
    SameReserved s { s with balances := s.balances.put (token, who) account } := by
  intro t a
  simp only [reservedBalance]
  split
  · rfl
  · rw [StorageMap.put_apply]
    split
    · rename_i heq
      obtain ⟨rfl, rfl⟩ := Prod.mk.inj heq
      exact h
    · rfl

theorem sameReserved_free (s : State cfg) (token : TokenId) (who : AccountId) (free : U128) :
    SameReserved s { s with
      balances := s.balances.insert (token, who) { (s.balances (token, who)).getD default with free } } :=
  sameReserved_put s token who (some _) rfl

theorem transferToken_sameReserved (hlaw : cfg.balances.Lawful) {target : AccountId} {paid : U128}
    (h : transferToken who token value target s = .ok (paid, s')) : SameReserved s s' := by
  unfold transferToken at h
  split at h
  · obtain ⟨-, rfl⟩ := Prod.mk.inj (pure_eq_ok.mp h)
    exact .refl s
  split at h
  · obtain ⟨-, rfl⟩ := Prod.mk.inj (pure_eq_ok.mp h)
    exact .refl s
  split at h
  · simp only [bind_eq_ok, pure_eq_ok, Prod.mk.injEq] at h
    obtain ⟨native, hnative, -, rfl⟩ := h
    intro t a
    simp only [reservedBalance, hlaw.transfer_reserved _ _ _ _ _ hnative a]
  · simp only [bind_eq_ok, pure_eq_ok, okOr_eq_ok, Prod.mk.injEq] at h
    obtain ⟨account, haccount, debit, -, credit, -, -, rfl⟩ := h
    have hdebit : SameReserved s { s with
        balances := s.balances.put (token, who) { account with free := debit }.unlessDead } := by
      refine sameReserved_put s token who _ ?_
      rw [getD_unlessDead, haccount]
      rfl
    intro t a
    rw [← hdebit t a]
    exact sameReserved_free { s with
      balances := s.balances.put (token, who) { account with free := debit }.unlessDead } token target
      credit t a

/-- A token that was created has decimals within the limit and no issuance. -/
theorem create_eq_ok {tokenInfo : XToken} {id : TokenId} (h : create tokenInfo s = .ok (id, s')) :
    id = s.nextTokenId ∧ (∀ d ∈ tokenInfo.decimals?, d ≤ maxDecimals) ∧ ∃ tokenByName,
      s' = { s with
        tokenByName
        nextTokenId := s.nextTokenId + 1
        tokens := s.tokens.insert id ((tokenInfo.setTotal 0).setStable false) } := by
  unfold create at h
  cases tokenInfo with
  | nep141 symbol contract total stable decimals =>
      simp only [bind_eq_ok, ensure_eq_ok, pure_eq_ok, Prod.mk.injEq] at h
      obtain ⟨-, hdecimals, -, -, -, -, -, -, tokenByName, -, rfl, rfl⟩ := h
      exact ⟨rfl, fun d hd => Option.some.inj hd ▸ hdecimals, tokenByName, rfl⟩
  | erc20 symbol contract total stable decimals
  | bep20 symbol contract total stable decimals
  | polygon symbol contract total stable decimals =>
      simp only [bind_eq_ok, ensure_eq_ok, pure_eq_ok, Prod.mk.injEq] at h
      obtain ⟨-, hdecimals, -, -, -, -, tokenByName, -, rfl, rfl⟩ := h
      exact ⟨rfl, fun d hd => Option.some.inj hd ▸ hdecimals, tokenByName, rfl⟩
  | fnd10 symbol total =>
      simp only [bind_eq_ok, pure_eq_ok, Prod.mk.injEq] at h
      obtain ⟨-, -, tokenByName, -, rfl, rfl⟩ := h
      exact ⟨rfl, by simp [XToken.decimals?], tokenByName, rfl⟩

theorem create_sameReserved {tokenInfo : XToken} {id : TokenId}
    (h : create tokenInfo s = .ok (id, s')) : SameReserved s s' := by
  obtain ⟨-, -, tokenByName, rfl⟩ := create_eq_ok h
  exact fun _ _ => rfl

theorem markStable_sameReserved (h : markStable token s = .ok s') : SameReserved s s' := by
  unfold markStable at h
  simp only [bind_eq_ok] at h
  obtain ⟨info, -, h⟩ := h
  cases info with
  | fnd10 => exact absurd h (by simp)
  | _ => exact pure_eq_ok.mp h ▸ fun _ _ => rfl

theorem doMint_sameReserved (h : doMint token who value s = .ok s') : SameReserved s s' := by
  unfold doMint at h
  split at h
  · exact pure_eq_ok.mp h ▸ .refl s
  · obtain ⟨info, -, h⟩ := bind_eq_ok.mp h
    cases hdecimals : info.decimals? <;>
      simp only [hdecimals, bind_eq_ok, pure_eq_ok, okOr_eq_ok] at h
    · obtain ⟨-, rfl, -, -, free, -, rfl⟩ := h
      exact sameReserved_free s token who free
    · obtain ⟨total, -, -, rfl, -, -, free, -, rfl⟩ := h
      exact sameReserved_free s token who free

/-- Minting changes one account, and nothing of the native token. -/
theorem doMint_onlyAt (h : doMint token who value s = .ok s') : OnlyAt token who s s' := by
  unfold doMint at h
  split at h
  · exact pure_eq_ok.mp h ▸ .refl token who s
  · obtain ⟨info, -, h⟩ := bind_eq_ok.mp h
    cases hdecimals : info.decimals? <;>
      simp only [hdecimals, bind_eq_ok, pure_eq_ok, okOr_eq_ok] at h
    · obtain ⟨-, rfl, -, -, free, -, rfl⟩ := h
      exact onlyAt_put (some _)
    · obtain ⟨total, -, -, rfl, -, -, free, -, rfl⟩ := h
      exact onlyAt_put (some _)

theorem doMint_contracts (h : doMint token who value s = .ok s') :
    s'.tokenByContract = s.tokenByContract := by
  unfold doMint at h
  split at h
  · rw [pure_eq_ok.mp h]
  · obtain ⟨info, -, h⟩ := bind_eq_ok.mp h
    cases hdecimals : info.decimals? <;>
      simp only [hdecimals, bind_eq_ok, pure_eq_ok, okOr_eq_ok] at h
    · obtain ⟨-, rfl, -, -, free, -, rfl⟩ := h
      rfl
    · obtain ⟨total, -, -, rfl, -, -, free, -, rfl⟩ := h
      rfl

theorem transferToken_contracts {target : AccountId} {paid : U128}
    (h : transferToken who token value target s = .ok (paid, s')) :
    s'.tokenByContract = s.tokenByContract := by
  unfold transferToken at h
  split at h
  · rw [(Prod.mk.inj (pure_eq_ok.mp h)).2]
  split at h
  · rw [(Prod.mk.inj (pure_eq_ok.mp h)).2]
  split at h
  · simp only [bind_eq_ok, pure_eq_ok, Prod.mk.injEq] at h
    obtain ⟨native, -, -, rfl⟩ := h
    rfl
  · simp only [bind_eq_ok, pure_eq_ok, Prod.mk.injEq] at h
    obtain ⟨account, -, debit, -, credit, -, -, rfl⟩ := h
    rfl

theorem transferToken_tokens {target : AccountId} {paid : U128}
    (h : transferToken who token value target s = .ok (paid, s')) : s'.tokens = s.tokens := by
  unfold transferToken at h
  split_ifs at h <;>
    simp only [bind_eq_ok, pure_eq_ok, Prod.mk.injEq] at h
  · rw [h.2]
  · rw [h.2]
  · obtain ⟨native, -, -, rfl⟩ := h
    rfl
  · obtain ⟨account, -, debit, -, credit, -, -, rfl⟩ := h
    rfl

theorem doBurn_onlyAt {paid : U128} (h : doBurn token who value s = .ok (paid, s')) : OnlyAt token who s s' := by
  unfold doBurn at h
  obtain ⟨-, -, h⟩ := bind_eq_ok.mp h
  obtain ⟨info, -, h⟩ := bind_eq_ok.mp h
  cases hdecimals : info.decimals? <;>
    simp only [hdecimals, bind_eq_ok, pure_eq_ok, okOr_eq_ok, Prod.mk.injEq] at h
  · obtain ⟨-, rfl, -, -, account, -, free, -, -, rfl⟩ := h
    exact onlyAt_put { account with free }.unlessDead
  · obtain ⟨total, -, -, rfl, -, -, account, -, free, -, -, rfl⟩ := h
    exact onlyAt_put { account with free }.unlessDead

theorem doBurn_sameReserved {paid : U128} (h : doBurn token who value s = .ok (paid, s')) :
    SameReserved s s' := by
  unfold doBurn at h
  obtain ⟨-, -, h⟩ := bind_eq_ok.mp h
  obtain ⟨info, -, h⟩ := bind_eq_ok.mp h
  have hput : ∀ account, s.balances (token, who) = some account → ∀ free : U128,
      SameReserved s { s with
        balances := s.balances.put (token, who) { account with free }.unlessDead } := by
    intro account haccount free
    refine sameReserved_put s token who _ ?_
    rw [getD_unlessDead, haccount]
    rfl
  cases hdecimals : info.decimals? <;>
    simp only [hdecimals, bind_eq_ok, pure_eq_ok, okOr_eq_ok, Prod.mk.injEq] at h
  · obtain ⟨-, rfl, -, -, account, haccount, free, -, -, rfl⟩ := h
    exact hput account haccount free
  · obtain ⟨total, -, -, rfl, -, -, account, haccount, free, -, -, rfl⟩ := h
    exact hput account haccount free

end Fusotao.Token
