import Fusotao.Token.Decimals

/-!
# Repatriating what is reserved

What is reserved of one account goes to the free or the reserved balance of another, or of the same account. The
pallet treats the latter apart, and there it reserves more where it should leave what is reserved.
-/

namespace Fusotao.Token

open Exec Word

/-! ### What repatriating means -/

/-- What every account has of a token: the free and the reserved amount. -/
abbrev Amounts := AccountId → Nat × Nat

namespace Amounts

/-- Take `value` from what is reserved of `slashed`. -/
def lower (slashed : AccountId) (value : Nat) (b : Amounts) : Amounts :=
  Function.update b slashed ((b slashed).1, (b slashed).2 - value)

/-- The component of a balance that repatriating adds to. -/
def component : BalanceStatus → Nat × Nat → Nat
  | .free, b => b.1
  | .reserved, b => b.2

/-- Add `value` to the component of `beneficiary`. -/
def raise (status : BalanceStatus) (beneficiary : AccountId) (value : Nat) (b : Amounts) : Amounts :=
  match status with
  | .free => Function.update b beneficiary ((b beneficiary).1 + value, (b beneficiary).2)
  | .reserved => Function.update b beneficiary ((b beneficiary).1, (b beneficiary).2 + value)

/-- The one after the other. -/
def repatriate (slashed beneficiary : AccountId) (value : Nat) (status : BalanceStatus) (b : Amounts) :
    Amounts := (b.lower slashed value).raise status beneficiary value

theorem lower_of_ne {slashed beneficiary : AccountId} (hne : slashed ≠ beneficiary) (value : Nat) (b : Amounts) :
    b.lower slashed value beneficiary = b beneficiary := Function.update_of_ne (Ne.symm hne) _ _

/-- To repatriate to the same reserved balance changes nothing. -/
theorem repatriate_reserved_self {who : AccountId} {value : Nat} {b : Amounts} (h : value ≤ (b who).2) :
    b.repatriate who who value .reserved = b := by
  funext a
  by_cases ha : a = who
  · subst ha
    simp [repatriate, raise, lower, Nat.sub_add_cancel h]
  · simp [repatriate, raise, lower, Function.update_of_ne ha]

theorem repatriate_zero (slashed beneficiary : AccountId) (status : BalanceStatus) (b : Amounts) :
    b.repatriate slashed beneficiary 0 status = b := by
  cases status <;> simp [repatriate, raise, lower]

end Amounts

variable {cfg : Config} {s s' : State cfg} {token : TokenId} {slashed beneficiary : AccountId} {value : U128}
  {status : BalanceStatus}

def amounts (token : TokenId) (s : State cfg) : Amounts :=
  fun a => ((freeBalance token a s).toNat, (reservedBalance token a s).toNat)

/-- A call that succeeds moves what was reserved, and nothing else; it succeeds if enough is reserved and what it
goes to has room. -/
structure Repatriates (token : TokenId) (slashed beneficiary : AccountId) (value : U128) (status : BalanceStatus)
    (s : State cfg) : Prop where
  moves : ∀ s', repatriateReserved token slashed beneficiary value status s = .ok s' →
    value.toNat ≤ (amounts token s slashed).2 ∧
      amounts token s' = (amounts token s).repatriate slashed beneficiary value.toNat status
  others : ∀ s', repatriateReserved token slashed beneficiary value status s = .ok s' →
    (∀ t, t ≠ token → amounts t s' = amounts t s) ∧ s'.tokens = s.tokens
  succeeds : value.toNat ≤ (amounts token s slashed).2 →
    Amounts.component status ((amounts token s).lower slashed value.toNat beneficiary) + value.toNat < 2 ^ 128 →
    ∃ s', repatriateReserved token slashed beneficiary value status s = .ok s'

/-- From the same amounts, the call leaves the same amounts as it does of the native token, should the ledger of
the native token obey the law. -/
def AgreesWithNative (token : TokenId) (slashed beneficiary : AccountId) (value : U128) (status : BalanceStatus)
    (s : State cfg) : Prop :=
  ∀ n : State cfg, amounts cfg.nativeTokenId n = amounts token s →
    Repatriates cfg.nativeTokenId slashed beneficiary value status n →
    ∀ s' n', repatriateReserved token slashed beneficiary value status s = .ok s' →
      repatriateReserved cfg.nativeTokenId slashed beneficiary value status n = .ok n' →
      amounts token s' = amounts cfg.nativeTokenId n'

/-- Where the pallet repatriates: to the reserved balance of the same account only nothing, or what it cannot
reserve either; and nothing only from an account with an entry. -/
def RepatriatesWhen (token : TokenId) (slashed beneficiary : AccountId) (value : U128) (status : BalanceStatus)
    (s : State cfg) : Prop :=
  if slashed = beneficiary then
    status = .free ∨ value = 0 ∨ (amounts token s slashed).2 < value.toNat ∧
      ((amounts token s slashed).1 < value.toNat ∨ 2 ^ 128 ≤ (amounts token s slashed).2 + value.toNat)
  else
    value ≠ 0 ∨ s.balances (token, slashed) ≠ none

/-! ### What the map says of the amounts -/

theorem amounts_of_ne (htoken : token ≠ cfg.nativeTokenId) (a : AccountId) (s : State cfg) :
    amounts token s a = (((s.balances (token, a)).getD default).free.toNat,
      ((s.balances (token, a)).getD default).reserved.toNat) := by
  simp only [amounts, freeBalance, reservedBalance, if_neg htoken]

/-- The entries of one token are written, and nothing else is. -/
structure Writes (token : TokenId) (s s' : State cfg) : Prop where
  frame : s' = { s with balances := s'.balances }
  other : ∀ t a, t ≠ token → s'.balances (t, a) = s.balances (t, a)

theorem Writes.refl (token : TokenId) (s : State cfg) : Writes token s s := ⟨rfl, fun _ _ _ => rfl⟩

theorem Writes.put {who : AccountId} (entry : Option TokenAccountData) (h : Writes token s s') :
    Writes token s { s' with balances := s'.balances.put (token, who) entry } := by
  refine ⟨?_, fun t a ht => ?_⟩
  · rw [h.frame]
  · rw [← h.other t a ht]
    exact StorageMap.put_of_ne _ _ fun heq => ht (Prod.mk.inj heq).1

theorem Writes.others (h : Writes token s s') :
    (∀ t, t ≠ token → amounts t s' = amounts t s) ∧ s'.tokens = s.tokens := by
  refine ⟨fun t ht => ?_, ?_⟩
  · have hother := h.other
    rw [h.frame]
    funext a
    simp only [amounts, freeBalance, reservedBalance, hother t a ht]
  · rw [h.frame]

/-- Writing one entry changes the amounts of one account. -/
theorem amounts_put (htoken : token ≠ cfg.nativeTokenId) (who : AccountId) (entry : Option TokenAccountData)
    (s : State cfg) :
    amounts token { s with balances := s.balances.put (token, who) entry } =
      Function.update (amounts token s) who
        ((entry.getD default).free.toNat, (entry.getD default).reserved.toNat) := by
  funext a
  by_cases ha : a = who
  · subst ha
    rw [Function.update_self, amounts_of_ne htoken]
    simp only [StorageMap.put_self]
  · have hkey : (token, a) ≠ (token, who) := fun h => ha (Prod.mk.inj h).2
    rw [Function.update_of_ne ha, amounts_of_ne htoken, amounts_of_ne htoken]
    simp only [StorageMap.put_of_ne _ _ hkey]

/-- Where there is no entry, there is nothing. -/
theorem exists_entry (htoken : token ≠ cfg.nativeTokenId) {who : AccountId}
    (h : 0 < (amounts token s who).1 ∨ 0 < (amounts token s who).2) :
    ∃ account, s.balances (token, who) = some account := by
  cases hentry : s.balances (token, who) with
  | some account => exact ⟨account, rfl⟩
  | none =>
      rw [amounts_of_ne htoken, hentry] at h
      exact absurd h (by decide)

/-! ### The same account -/

/-- Unreserving is repatriating to the free balance. -/
theorem unreserve_amounts (htoken : token ≠ cfg.nativeTokenId) {who : AccountId}
    (h : unreserve token who value s = .ok s') :
    value.toNat ≤ (amounts token s who).2 ∧
      amounts token s' = (amounts token s).repatriate who who value.toNat .free ∧ Writes token s s' := by
  unfold unreserve at h
  split at h
  · rename_i hzero
    obtain rfl := pure_eq_ok.mp h
    subst hzero
    exact ⟨Nat.zero_le _, (Amounts.repatriate_zero ..).symm, .refl _ _⟩
  simp only [bind_eq_ok, okOr_eq_ok, checkedSub_eq_some, checkedAdd_eq_some, pure_eq_ok] at h
  obtain ⟨account, hentry, reserved, hreserved, free, hfree, rfl⟩ := h
  have hamounts : amounts token s who = (account.free.toNat, account.reserved.toNat) := by
    rw [amounts_of_ne htoken, hentry, Option.getD_some]
  refine ⟨?_, ?_, (Writes.refl token s).put (some { free, reserved })⟩
  · rw [hamounts]
    omega
  · refine (amounts_put htoken who (some { free, reserved }) s).trans ?_
    simp only [Amounts.repatriate, Amounts.lower, Amounts.raise, Function.update_self, Function.update_idem,
      hamounts, Option.getD_some, hfree, hreserved, Nat.add_sub_cancel]

/-- The pallet reserves as much again. -/
theorem reserve_eq_ok_iff (htoken : token ≠ cfg.nativeTokenId) (hvalue : value ≠ 0) {who : AccountId} :
    (∃ s', reserve token who value s = .ok s') ↔
      value.toNat ≤ (amounts token s who).1 ∧ (amounts token s who).2 + value.toNat < 2 ^ 128 := by
  unfold reserve
  rw [if_neg hvalue, if_neg htoken]
  constructor
  · rintro ⟨s', h⟩
    simp only [bind_eq_ok, okOr_eq_ok, checkedSub_eq_some, checkedAdd_eq_some, pure_eq_ok] at h
    obtain ⟨account, hentry, free, hfree, reserved, hreserved, -⟩ := h
    rw [amounts_of_ne htoken, hentry, Option.getD_some]
    have := reserved.isLt
    exact ⟨by omega, by omega⟩
  · rintro ⟨hfree, hfits⟩
    have hpos : 0 < value.toNat := Nat.pos_of_ne_zero fun h => hvalue (BitVec.eq_of_toNat_eq h)
    obtain ⟨account, hentry⟩ := exists_entry htoken (.inl (Nat.lt_of_lt_of_le hpos hfree))
    rw [amounts_of_ne htoken, hentry, Option.getD_some] at hfree hfits
    simp only [hentry, okOr_some, ok_bind, checkedSub, if_pos hfree, checkedAdd, if_pos hfits]
    exact ⟨_, rfl⟩

theorem reserve_amounts (htoken : token ≠ cfg.nativeTokenId) {who : AccountId}
    (h : reserve token who value s = .ok s') :
    (amounts token s' who).2 = (amounts token s who).2 + value.toNat := by
  unfold reserve at h
  split at h
  · rename_i hzero
    obtain rfl := pure_eq_ok.mp h
    rw [hzero]
    rfl
  simp only [bind_eq_ok, okOr_eq_ok, checkedSub_eq_some, checkedAdd_eq_some, pure_eq_ok] at h
  obtain ⟨account, hentry, free, -, reserved, hreserved, rfl⟩ := h
  have hwho : amounts token s who = (account.free.toNat, account.reserved.toNat) := by
    rw [amounts_of_ne htoken, hentry, Option.getD_some]
  rw [hwho]
  refine (congrArg Prod.snd (congrFun (amounts_put htoken who (some { free, reserved }) s) who)).trans ?_
  rw [Function.update_self]
  exact hreserved

/-! ### Two accounts -/

/-- The one component of an entry is raised. -/
def TokenAccountData.raise (status : BalanceStatus) (account : TokenAccountData) (component : U128) :
    TokenAccountData :=
  match status with
  | .free => { account with free := component }
  | .reserved => { account with reserved := component }

def TokenAccountData.component (status : BalanceStatus) (account : TokenAccountData) : U128 :=
  match status with
  | .free => account.free
  | .reserved => account.reserved

theorem repatriateReserved_eq_ok (htoken : token ≠ cfg.nativeTokenId) (hne : slashed ≠ beneficiary) :
    repatriateReserved token slashed beneficiary value status s = .ok s' ↔
      ∃ account, s.balances (token, slashed) = some account ∧
      ∃ reserved : U128, account.reserved.toNat = reserved.toNat + value.toNat ∧
      ∃ component : U128, component.toNat =
          (((s.balances (token, beneficiary)).getD default).component status).toNat + value.toNat ∧
        { s with
          balances := StorageMap.put (s.balances.put (token, slashed) { account with reserved }.unlessDead)
            (token, beneficiary)
            (some (((s.balances (token, beneficiary)).getD default).raise status component)) } = s' := by
  have hother : ∀ entry, s.balances.put (token, slashed) entry (token, beneficiary) =
      s.balances (token, beneficiary) :=
    fun entry => StorageMap.put_of_ne _ _ fun h => hne (Prod.mk.inj h).2.symm
  unfold repatriateReserved
  rw [if_neg htoken, if_neg hne]
  cases status <;>
    simp only [bind_eq_ok, okOr_eq_ok, checkedSub_eq_some, checkedAdd_eq_some, pure_eq_ok, hother] <;> rfl

/-- The amounts after the entries of two accounts are written. -/
theorem repatriateReserved_amounts (htoken : token ≠ cfg.nativeTokenId) (hne : slashed ≠ beneficiary)
    (h : repatriateReserved token slashed beneficiary value status s = .ok s') :
    value.toNat ≤ (amounts token s slashed).2 ∧
      amounts token s' = (amounts token s).repatriate slashed beneficiary value.toNat status ∧
      Writes token s s' := by
  obtain ⟨account, hentry, reserved, hreserved, component, hcomponent, rfl⟩ :=
    (repatriateReserved_eq_ok htoken hne).mp h
  have hslashed : amounts token s slashed = (account.free.toNat, account.reserved.toNat) := by
    rw [amounts_of_ne htoken, hentry, Option.getD_some]
  refine ⟨?_, ?_, ((Writes.refl token s).put _).put _⟩
  · rw [hslashed]
    omega
  · refine (amounts_put htoken beneficiary _ { s with
      balances := s.balances.put (token, slashed) { account with reserved }.unlessDead }).trans ?_
    rw [amounts_put htoken slashed _ s]
    have hlowered : Function.update (amounts token s) slashed
        ((({ account with reserved }.unlessDead).getD default).free.toNat,
          (({ account with reserved }.unlessDead).getD default).reserved.toNat) =
        (amounts token s).lower slashed value.toNat := by
      rw [getD_unlessDead, Amounts.lower, hslashed, hreserved, Nat.add_sub_cancel]
    rw [hlowered, Amounts.repatriate]
    have hbeneficiary := amounts_of_ne htoken beneficiary s
    cases status <;>
      simp only [Amounts.raise, Amounts.lower_of_ne hne, hbeneficiary, TokenAccountData.raise,
        TokenAccountData.component, Option.getD_some] at hcomponent ⊢ <;>
      rw [hcomponent]

theorem repatriateReserved_succeeds (htoken : token ≠ cfg.nativeTokenId) (hne : slashed ≠ beneficiary)
    (hentry : value ≠ 0 ∨ s.balances (token, slashed) ≠ none)
    (hvalue : value.toNat ≤ (amounts token s slashed).2)
    (hfits : Amounts.component status (amounts token s beneficiary) + value.toNat < 2 ^ 128) :
    ∃ s', repatriateReserved token slashed beneficiary value status s = .ok s' := by
  obtain ⟨account, haccount⟩ : ∃ account, s.balances (token, slashed) = some account := by
    rcases hentry with hne0 | hsome
    · have hpos : 0 < value.toNat := Nat.pos_of_ne_zero fun h => hne0 (BitVec.eq_of_toNat_eq h)
      exact exists_entry htoken (.inr (Nat.lt_of_lt_of_le hpos hvalue))
    · exact Option.ne_none_iff_exists'.mp hsome
  rw [amounts_of_ne htoken, haccount, Option.getD_some] at hvalue
  have hcomponent : Amounts.component status (amounts token s beneficiary) =
      (((s.balances (token, beneficiary)).getD default).component status).toNat := by
    rw [amounts_of_ne htoken]
    cases status <;> rfl
  rw [hcomponent] at hfits
  exact ⟨_, (repatriateReserved_eq_ok htoken hne).mpr ⟨account, haccount, _,
    checkedSub_eq_some.mp (if_pos hvalue), _, checkedAdd_eq_some.mp (if_pos hfits), rfl⟩⟩

/-! ### Where the pallet obeys the law -/

/-- To another account, only nothing cannot be moved from an account without an entry. -/
theorem repatriates_iff_of_ne (htoken : token ≠ cfg.nativeTokenId) (hne : slashed ≠ beneficiary) :
    Repatriates token slashed beneficiary value status s ↔
      value ≠ 0 ∨ s.balances (token, slashed) ≠ none := by
  constructor
  · intro h
    by_contra hnone
    simp only [not_or, not_not] at hnone
    obtain ⟨rfl, hnone⟩ := hnone
    have hfits : Amounts.component status ((amounts token s).lower slashed 0 beneficiary) + 0 < 2 ^ 128 := by
      rw [Amounts.lower_of_ne hne]
      cases status <;> exact BitVec.isLt _
    obtain ⟨s', hs'⟩ := h.succeeds (Nat.zero_le _) hfits
    obtain ⟨account, hentry, -⟩ := (repatriateReserved_eq_ok htoken hne).mp hs'
    exact absurd (hentry.symm.trans hnone) (by simp)
  · intro hentry
    refine ⟨fun s' h => ?_, fun s' h => ?_, fun hvalue hfits => ?_⟩
    · obtain ⟨hvalue, hmoved, -⟩ := repatriateReserved_amounts htoken hne h
      exact ⟨hvalue, hmoved⟩
    · exact (repatriateReserved_amounts htoken hne h).2.2.others
    · rw [Amounts.lower_of_ne hne] at hfits
      exact repatriateReserved_succeeds htoken hne hentry hvalue hfits

/-- To the free balance of the same account, the pallet unreserves. -/
theorem repatriates_self_free (htoken : token ≠ cfg.nativeTokenId) (who : AccountId) (value : U128)
    (s : State cfg) : Repatriates token who who value .free s := by
  have hcall : repatriateReserved token who who value .free s = unreserve token who value s := by
    rw [repatriateReserved, if_neg htoken, if_pos rfl]
  refine ⟨fun s' h => ?_, fun s' h => ?_, fun hvalue hfits => ?_⟩
  · obtain ⟨hvalue, hmoved, -⟩ := unreserve_amounts htoken (hcall ▸ h)
    exact ⟨hvalue, hmoved⟩
  · exact (unreserve_amounts htoken (hcall ▸ h)).2.2.others
  · rw [hcall]
    refine unreserve_ok hvalue fun _ => ?_
    simp only [Amounts.lower, Function.update_self, Amounts.component] at hfits
    exact hfits

/-- To the reserved balance of the same account, the pallet reserves, which moves something unless it fails. -/
theorem repatriates_self_reserved (htoken : token ≠ cfg.nativeTokenId) (who : AccountId) :
    Repatriates token who who value .reserved s ↔ value = 0 ∨ (amounts token s who).2 < value.toNat ∧
      ((amounts token s who).1 < value.toNat ∨ 2 ^ 128 ≤ (amounts token s who).2 + value.toNat) := by
  have hcall : repatriateReserved token who who value .reserved s = reserve token who value s := by
    rw [repatriateReserved, if_neg htoken, if_pos rfl]
  constructor
  · intro h
    rcases eq_or_ne value 0 with hzero | hvalue
    · exact .inl hzero
    have hpos : 0 < value.toNat := Nat.pos_of_ne_zero fun h => hvalue (BitVec.eq_of_toNat_eq h)
    -- A success would raise what is reserved.
    have hfails : ¬ ∃ s', reserve token who value s = .ok s' := by
      rintro ⟨s', hs'⟩
      obtain ⟨hle, hmoved⟩ := h.moves s' (hcall.trans hs')
      have hraised := reserve_amounts htoken hs'
      rw [hmoved, Amounts.repatriate_reserved_self hle] at hraised
      omega
    have hless : (amounts token s who).2 < value.toNat := by
      by_contra hle
      refine hfails (hcall ▸ h.succeeds (Nat.le_of_not_lt hle) ?_)
      have hlt : (amounts token s who).2 < 2 ^ 128 := BitVec.isLt _
      simp only [Amounts.lower, Function.update_self, Amounts.component]
      omega
    rw [reserve_eq_ok_iff htoken hvalue] at hfails
    exact .inr ⟨hless, by omega⟩
  · rintro (rfl | ⟨hless, hfails⟩)
    · have hok : repatriateReserved token who who 0 .reserved s = .ok s := hcall.trans rfl
      refine ⟨fun s' h => ?_, fun s' h => ?_, fun _ _ => ⟨s, hok⟩⟩
      · obtain rfl := Except.ok.inj (hok.symm.trans h)
        exact ⟨Nat.zero_le _, (Amounts.repatriate_zero ..).symm⟩
      · obtain rfl := Except.ok.inj (hok.symm.trans h)
        exact (Writes.refl token s).others
    · have hvalue : value ≠ 0 := by
        rintro rfl
        exact absurd hless (Nat.not_lt_zero _)
      have hnone : ¬ ∃ s', reserve token who value s = .ok s' := by
        rw [reserve_eq_ok_iff htoken hvalue]
        omega
      exact ⟨fun s' h => absurd ⟨s', hcall ▸ h⟩ hnone, fun s' h => absurd ⟨s', hcall ▸ h⟩ hnone,
        fun hle => absurd hle (Nat.not_le_of_lt hless)⟩

/-- The law holds, and the two branches agree, in precisely these cases. -/
theorem repatriates_iff (htoken : token ≠ cfg.nativeTokenId) :
    (Repatriates token slashed beneficiary value status s ∧
        AgreesWithNative token slashed beneficiary value status s) ↔
      RepatriatesWhen token slashed beneficiary value status s := by
  have hagrees : Repatriates token slashed beneficiary value status s →
      AgreesWithNative token slashed beneficiary value status s := by
    intro h n hsame hnative s' n' hs' hn'
    rw [(h.moves s' hs').2, (hnative.moves n' hn').2, hsame]
  rw [and_iff_left_of_imp hagrees]
  unfold RepatriatesWhen
  by_cases hself : slashed = beneficiary
  · subst hself
    rw [if_pos rfl]
    cases status with
    | free => exact iff_of_true (repatriates_self_free htoken ..) (.inl rfl)
    | reserved =>
        rw [repatriates_self_reserved htoken]
        simp
  · rw [if_neg hself]
    exact repatriates_iff_of_ne htoken hself

/-! ### Reserving what is reserved -/

/-- The account has five units free and five reserved. -/
def reservedState : State plainConfig :=
  { unitState with balances := emptyState.balances.insert (1, alice) ⟨5, 5⟩ }

theorem repatriates_iff_reservedState :
    (Repatriates 1 alice alice 5 .free reservedState ∧ AgreesWithNative 1 alice alice 5 .free reservedState) ↔
      RepatriatesWhen 1 alice alice 5 .free reservedState := repatriates_iff (by decide)

/-- Five of the free units are reserved too. -/
theorem repatriate_reserves_more : (∃ s, repatriateReserved 1 alice alice 5 .reserved reservedState = .ok s ∧
      amounts 1 reservedState alice = (5, 5) ∧ amounts 1 s alice = (0, 10)) ∧
    ¬ Repatriates 1 alice alice 5 .reserved reservedState := by
  refine ⟨⟨_, rfl, rfl, rfl⟩, fun h => ?_⟩
  have hmoved := (h.moves _ rfl).2
  rw [Amounts.repatriate_reserved_self (by decide)] at hmoved
  exact absurd (congrFun hmoved alice) (by decide)

end Fusotao.Token
