import Fusotao.Token.Issuance

/-!
# The supply of a token

What is issued of a token grows by what is minted of it and falls by what is burnt of it. No other call of the pallet
changes it.
-/

namespace Fusotao.Token

open Exec Word

variable {cfg : Config} {s s' : State cfg} {token : TokenId} {who : AccountId} {amount : U128} {info : XToken}

/-- What an amount of the other chain is worth in standard units. -/
def unified (token : TokenId) (amount : U128) (s : State cfg) : Nat :=
  match (s.tokens token).bind XToken.decimals? with
  | some decimals => (transformDecimalsToStandard amount decimals).toNat
  | none => 0

theorem unified_of_info {decimals : Nat} (hinfo : s.tokens token = some info)
    (hdecimals : info.decimals? = some decimals) :
    unified token amount s = (transformDecimalsToStandard amount decimals).toNat := by
  rw [unified, hinfo, Option.bind_some, hdecimals]

theorem transformDecimalsToStandard_zero (decimals : Nat) : transformDecimalsToStandard 0 decimals = 0 := by
  apply BitVec.eq_of_toNat_eq
  rcases Nat.lt_or_ge standardDecimals decimals with h | h
  · rw [toNat_transformDecimalsToStandard_of_gt 0 h]
    simp
  · rw [toNat_transformDecimalsToStandard_of_le 0 h]
    simp

theorem unified_zero (token : TokenId) (s : State cfg) : unified token 0 s = 0 := by
  unfold unified
  split
  · rw [transformDecimalsToStandard_zero]
    rfl
  · rfl

/-! ### Minting and burning -/

/-- What is issued of a token, when a token is written back with a new total. -/
theorem issued_of_insert (htokens : s'.tokens = s.tokens.insert token info) (t : TokenId) :
    issued t s' = if t = token then info.total.toNat else issued t s := by
  rw [issued, htokens, StorageMap.insert_apply]
  by_cases ht : t = token
  · rw [if_pos ht, if_pos ht]
  · rw [if_neg ht, if_neg ht, issued]

theorem issued_of_tokens (htokens : s'.tokens = s.tokens) (t : TokenId) : issued t s' = issued t s := by
  rw [issued, htokens, issued]

theorem doMint_issued (hempty : Fnd10Empty s) (h : doMint token who amount s = .ok s') (t : TokenId) :
    issued t s' = issued t s + if t = token then unified token amount s else 0 := by
  by_cases hamount : amount = 0
  · subst hamount
    obtain rfl : s = s' := by simpa [doMint] using h
    rw [unified_zero, ite_self, Nat.add_zero]
  cases hinfo : s.tokens token with
  | none =>
      rw [doMint, if_neg hamount, hinfo] at h
      exact absurd h (by simp)
  | some info =>
      cases hdecimals : info.decimals? with
      | none =>
          rw [doMint, if_neg hamount, hinfo] at h
          simp [hdecimals, hempty token info hinfo hdecimals, bind_eq_ok] at h
      | some decimals =>
          obtain ⟨total, htotal, -, free, -, rfl⟩ := (doMint_eq_ok hamount hinfo hdecimals).mp h
          rw [unified_of_info hinfo hdecimals, issued_of_insert rfl t]
          split
          · rename_i ht
            rw [ht, issued_of_info hinfo, XToken.total_setTotal, htotal]
          · rfl

theorem doBurn_issued (hempty : Fnd10Empty s) {paid : U128} (h : doBurn token who amount s = .ok (paid, s'))
    (t : TokenId) : issued t s = issued t s' + if t = token then unified token amount s else 0 := by
  cases hinfo : s.tokens token with
  | none => simp [doBurn, hinfo, bind_eq_ok] at h
  | some info =>
      cases hdecimals : info.decimals? with
      | none => simp [doBurn, hinfo, hdecimals, hempty token info hinfo hdecimals, bind_eq_ok] at h
      | some decimals =>
          obtain ⟨-, total, htotal, -, account, -, free, -, -, hs'⟩ := (doBurn_eq_ok hinfo hdecimals).mp h
          have htokens : s'.tokens = s.tokens.insert token (info.setTotal total) := by rw [← hs']
          rw [unified_of_info hinfo hdecimals, issued_of_insert htokens t]
          split
          · rename_i ht
            rw [ht, issued_of_info hinfo, XToken.total_setTotal, htotal]
          · rfl

/-! ### The other calls -/

theorem reserve_tokens (h : reserve token who amount s = .ok s') : s'.tokens = s.tokens := by
  unfold reserve at h
  split_ifs at h <;>
    simp only [bind_eq_ok, pure_eq_ok] at h
  · rw [h]
  · obtain ⟨native, -, rfl⟩ := h
    rfl
  · obtain ⟨account, -, free, -, reserved, -, rfl⟩ := h
    rfl

theorem unreserve_tokens (h : unreserve token who amount s = .ok s') : s'.tokens = s.tokens := by
  unfold unreserve at h
  split_ifs at h <;>
    simp only [bind_eq_ok, pure_eq_ok] at h
  · rw [h]
  · obtain ⟨-, -, rfl⟩ := h
    rfl
  · obtain ⟨account, -, reserved, -, free, -, rfl⟩ := h
    rfl

theorem repatriateReserved_tokens {beneficiary : AccountId} {status : BalanceStatus}
    (h : repatriateReserved token who beneficiary amount status s = .ok s') : s'.tokens = s.tokens := by
  unfold repatriateReserved at h
  split at h
  · simp only [bind_eq_ok, pure_eq_ok] at h
    obtain ⟨-, -, native, -, rfl⟩ := h
    rfl
  split at h
  · cases status with
    | free => exact unreserve_tokens h
    | reserved => exact reserve_tokens h
  · simp only [bind_eq_ok] at h
    obtain ⟨account, -, reserved, -, h⟩ := h
    cases status with
    | free =>
        simp only [bind_eq_ok, pure_eq_ok] at h
        obtain ⟨free, -, rfl⟩ := h
        rfl
    | reserved =>
        simp only [bind_eq_ok, pure_eq_ok] at h
        obtain ⟨reserved, -, rfl⟩ := h
        rfl

theorem markStable_issued {id : TokenId} (h : markStable id s = .ok s') (t : TokenId) :
    issued t s' = issued t s := by
  unfold markStable at h
  simp only [bind_eq_ok, okOr_eq_ok] at h
  obtain ⟨info, hinfo, h⟩ := h
  have hwrite : issued t { s with tokens := s.tokens.insert id (info.setStable true) } = issued t s := by
    rw [issued_of_insert rfl t]
    split
    · rename_i ht
      rw [ht, issued_of_info hinfo, XToken.total_setStable]
    · rfl
  cases info with
  | fnd10 => exact absurd h (by simp)
  | _ => exact pure_eq_ok.mp h ▸ hwrite

/-- Nothing is issued of a new token. -/
theorem create_issued {tokenInfo : XToken} {id : TokenId} (h : create tokenInfo s = .ok (id, s'))
    (hfresh : s.tokens s.nextTokenId = none) (t : TokenId) : issued t s' = issued t s := by
  obtain ⟨rfl, -, tokenByName, rfl⟩ := create_eq_ok h
  rw [issued_of_insert rfl t]
  split
  · rename_i ht
    rw [ht, issued, hfresh, XToken.total_setStable, XToken.total_setTotal]
    rfl
  · rfl

/-- The token that an operation mints or burns. -/
def Operation.supplied? : Operation → Option TokenId
  | .doMint token _ _ | .doBurn token _ _ => some token
  | _ => none

/-- An operation leaves the supply of a token unless it mints or burns it. -/
theorem Operation.issued_eq {op : Operation} (h : op.perform s = .ok s') (hempty : Fnd10Empty s)
    (hfresh : s.tokens s.nextTokenId = none) (hop : op.supplied? ≠ some token) :
    issued token s' = issued token s := by
  cases op with
  | create tokenInfo =>
      simp only [perform, bind_eq_ok, pure_eq_ok, Prod.exists, exists_eq_right] at h
      obtain ⟨id, h⟩ := h
      exact create_issued h hfresh token
  | markStable id => exact markStable_issued h token
  | transferToken origin t amount target =>
      simp only [perform, bind_eq_ok, pure_eq_ok, Prod.exists, exists_eq_right] at h
      obtain ⟨paid, h⟩ := h
      exact issued_of_tokens (transferToken_tokens h) token
  | doMint t beneficiary amount =>
      have hmint := doMint_issued hempty h token
      rwa [if_neg (fun ht => hop (by rw [ht]; rfl)), Nat.add_zero] at hmint
  | doBurn t target amount =>
      simp only [perform, bind_eq_ok, pure_eq_ok, Prod.exists, exists_eq_right] at h
      obtain ⟨paid, h⟩ := h
      have hburn := doBurn_issued hempty h token
      rw [if_neg (fun ht => hop (by rw [ht]; rfl)), Nat.add_zero] at hburn
      exact hburn.symm
  | reserve t who value => exact issued_of_tokens (reserve_tokens h) token
  | unreserve t who value => exact issued_of_tokens (unreserve_tokens h) token
  | repatriateReserved t slashed beneficiary value status =>
      exact issued_of_tokens (repatriateReserved_tokens h) token

end Fusotao.Token
