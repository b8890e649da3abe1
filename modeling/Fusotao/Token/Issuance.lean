import Fusotao.Base.Transition
import Fusotao.Token.Decimals

/-!
# Issued and held

The pallet records how much of a token was issued. As long as no id is given to a second token, that is what
all accounts together hold of it, free and reserved.
-/

namespace Fusotao.Token

open Exec Word

open scoped BigOperators

variable {cfg : Config} {s s' : State cfg} {token : TokenId} {who : AccountId} {value : U128}
  {info : XToken} {account : TokenAccountData}

/-! ### Holdings -/

def TokenAccountData.held (account : TokenAccountData) : Nat :=
  account.free.toNat + account.reserved.toNat

theorem held_free {account account' : TokenAccountData}
    (hfree : account.free.toNat = account'.free.toNat + value.toNat)
    (hreserved : account.reserved = account'.reserved) : account.held = account'.held + value.toNat := by
  rw [TokenAccountData.held, TokenAccountData.held, hfree, hreserved]
  omega

theorem held_reserved {account account' : TokenAccountData}
    (hreserved : account.reserved.toNat = account'.reserved.toNat + value.toNat)
    (hfree : account.free = account'.free) : account.held = account'.held + value.toNat := by
  rw [TokenAccountData.held, TokenAccountData.held, hfree, hreserved]
  omega

/-- What an account holds of a token in the map of the pallet. -/
def heldBy (token : TokenId) (balances : StorageMap (TokenId × AccountId) TokenAccountData)
    (who : AccountId) : Nat :=
  ((balances (token, who)).getD default).held

/-- What all accounts together hold of a token. -/
def held (token : TokenId) (balances : StorageMap (TokenId × AccountId) TokenAccountData) : Nat :=
  ∑ who, heldBy token balances who

section Holdings

variable {balances : StorageMap (TokenId × AccountId) TokenAccountData}

theorem heldBy_put (token : TokenId) (who : AccountId) (entry : Option TokenAccountData) :
    heldBy token (balances.put (token, who) entry) =
      Function.update (heldBy token balances) who (entry.getD default).held := by
  funext a
  rw [heldBy, StorageMap.put_apply, Function.update_apply]
  by_cases ha : a = who
  · rw [if_pos ha, if_pos (by rw [ha])]
  · rw [if_neg ha, if_neg (by simp [ha])]
    rfl

/-- Writing one entry changes what is held by the difference. -/
theorem held_put (balances : StorageMap (TokenId × AccountId) TokenAccountData) (token : TokenId)
    (who : AccountId) (entry : Option TokenAccountData) :
    held token (balances.put (token, who) entry) + heldBy token balances who =
      held token balances + (entry.getD default).held := by
  rw [held, heldBy_put]
  exact sum_update_add (heldBy token balances) who (entry.getD default).held

theorem heldBy_put_of_ne (entry : Option TokenAccountData) {other : AccountId} (h : other ≠ who) :
    heldBy token (balances.put (token, who) entry) other = heldBy token balances other := by
  rw [heldBy_put, Function.update_of_ne h]

theorem heldBy_of_entry (h : balances (token, who) = some account) :
    heldBy token balances who = account.held := by
  rw [heldBy, h, Option.getD_some]

end Holdings

/-! ### The invariant -/

/-- What is issued of a token is what is held of it, and nothing is held of a token that does not exist. -/
structure Issued (s : State cfg) : Prop where
  total : ∀ token, held token s.balances = issued token s
  unissued : ∀ token, s.tokens token = none → ∀ who, s.balances (token, who) = none

/-- Nothing is issued of the tokens of this chain. -/
def Fnd10Empty (s : State cfg) : Prop :=
  ∀ token info, s.tokens token = some info → info.decimals? = none → info.total = 0

theorem issued_of_info (h : s.tokens token = some info) : issued token s = info.total.toNat := by
  rw [issued, h]

/-- A token that is held exists. -/
theorem Issued.exists_info (hinv : Issued s) (h : s.balances (token, who) = some account) :
    ∃ info, s.tokens token = some info := by
  cases hinfo : s.tokens token with
  | some info => exact ⟨info, rfl⟩
  | none => exact absurd (h.symm.trans (hinv.unissued token hinfo who)) (by simp)

/-- What a call does that creates no token: the entries of one token change, with what is held of it as
before, or by what is issued or burnt. -/
inductive Effect (s s' : State cfg) : Prop
  | outside (native : cfg.balances.Store) (hs' : s' = { s with native })
  | move {token : TokenId} {who : AccountId} {account : TokenAccountData}
      (hentry : s.balances (token, who) = some account) (hnext : s'.nextTokenId = s.nextTokenId)
      (htokens : s'.tokens = s.tokens)
      (hbalances : ∀ t, t ≠ token → ∀ who, s'.balances (t, who) = s.balances (t, who))
      (hheld : held token s'.balances = held token s.balances)
  | write {token : TokenId} {info info' : XToken} (hinfo : s.tokens token = some info)
      (hnext : s'.nextTokenId = s.nextTokenId) (htokens : s'.tokens = s.tokens.insert token info')
      (hbalances : ∀ t, t ≠ token → ∀ who, s'.balances (t, who) = s.balances (t, who))
      (hheld : held token s'.balances + info.total.toNat = held token s.balances + info'.total.toNat)
      (hfnd10 : info'.decimals? = none → info'.total = 0)

theorem Effect.conserve (h : Effect s s') (hinv : Issued s) : Issued s' := by
  cases h with
  | outside native hs' => exact hs' ▸ ⟨hinv.total, hinv.unissued⟩
  | @move token who account hentry hnext htokens hbalances hheld =>
      obtain ⟨info, hinfo⟩ := hinv.exists_info hentry
      refine ⟨fun t => ?_, fun t hnone a => ?_⟩
      · by_cases ht : t = token
        · rw [ht, hheld, hinv.total, issued, issued, htokens]
        · have hsame : held t s'.balances = held t s.balances :=
            Finset.sum_congr rfl fun a _ => by rw [heldBy, heldBy, hbalances t ht]
          rw [hsame, hinv.total, issued, issued, htokens]
      · rw [htokens] at hnone
        rw [hbalances t (fun ht => absurd hinfo (by simp [← ht, hnone])), hinv.unissued t hnone]
  | @write token info info' hinfo hnext htokens hbalances hheld hfnd10 =>
      refine ⟨fun t => ?_, fun t hnone who => ?_⟩
      · by_cases ht : t = token
        · subst ht
          have htotal := hinv.total t
          rw [issued_of_info hinfo] at htotal
          rw [issued_of_info (by rw [htokens, StorageMap.insert_self])]
          omega
        · have hsame : held t s'.balances = held t s.balances :=
            Finset.sum_congr rfl fun who _ => by rw [heldBy, heldBy, hbalances t ht]
          rw [hsame, hinv.total, issued, issued, htokens, StorageMap.insert_of_ne _ _ ht]
      · by_cases ht : t = token
        · rw [ht, htokens, StorageMap.insert_self] at hnone
          exact absurd hnone (by simp)
        · rw [htokens, StorageMap.insert_of_ne _ _ ht] at hnone
          rw [hbalances t ht, hinv.unissued t hnone]

/-- The same tokens exist as before. -/
theorem Effect.tokens (h : Effect s s') : s'.nextTokenId = s.nextTokenId ∧
    ∀ id info, s'.tokens id = some info → ∃ old, s.tokens id = some old := by
  cases h with
  | outside native hs' => exact hs' ▸ ⟨rfl, fun id info hinfo => ⟨info, hinfo⟩⟩
  | move hentry hnext htokens hbalances hheld => exact ⟨hnext, fun id info hinfo => ⟨info, htokens ▸ hinfo⟩⟩
  | write hinfo hnext htokens hbalances hheld hfnd10 =>
      refine ⟨hnext, fun id other hother => ?_⟩
      rw [htokens] at hother
      rcases StorageMap.insert_eq_some hother with ⟨rfl, rfl⟩ | ⟨-, hother⟩
      · exact ⟨_, hinfo⟩
      · exact ⟨other, hother⟩

theorem Effect.fnd10Empty (h : Effect s s') (hempty : Fnd10Empty s) : Fnd10Empty s' := by
  intro id other hother hdecimals
  cases h with
  | outside native hs' => exact hempty id other (by rwa [hs'] at hother) hdecimals
  | move hentry hnext htokens hbalances hheld => exact hempty id other (htokens ▸ hother) hdecimals
  | write hinfo hnext htokens hbalances hheld hfnd10 =>
      rw [htokens] at hother
      rcases StorageMap.insert_eq_some hother with ⟨rfl, rfl⟩ | ⟨-, hother⟩
      · exact hfnd10 hdecimals
      · exact hempty id other hother hdecimals

/-- One entry changes, and its account holds as much as before. -/
theorem Effect.put (hentry : s.balances (token, who) = some account) {entry : Option TokenAccountData}
    (hheld : (entry.getD default).held = account.held) :
    Effect s { s with balances := s.balances.put (token, who) entry } := by
  refine .move hentry rfl rfl (fun t ht a => ?_) ?_
  · exact StorageMap.put_of_ne _ _ (by simp [ht])
  · have hput := held_put s.balances token who entry
    rw [heldBy_of_entry hentry, hheld] at hput
    exact Nat.add_right_cancel hput

/-- An amount goes from one account to another. -/
theorem Effect.send (hentry : s.balances (token, who) = some account)
    {target : AccountId} (hne : target ≠ who) {left : TokenAccountData} {entry : Option TokenAccountData}
    (hleft : account.held = left.held + value.toNat)
    (hentry' : (entry.getD default).held = heldBy token s.balances target + value.toNat) :
    Effect s { s with
      balances := (s.balances.put (token, who) left.unlessDead).put (token, target) entry } := by
  refine .move hentry rfl rfl (fun t ht a => ?_) ?_
  · exact (StorageMap.put_of_ne _ _ (by simp [ht])).trans (StorageMap.put_of_ne _ _ (by simp [ht]))
  · have hdebit := held_put s.balances token who left.unlessDead
    have hcredit := held_put (s.balances.put (token, who) left.unlessDead) token target entry
    rw [heldBy_of_entry hentry, getD_unlessDead] at hdebit
    rw [heldBy_put_of_ne _ hne] at hcredit
    simp only
    omega

/-! ### The operations -/

theorem reserve_effect (h : reserve token who value s = .ok s') : Effect s s' := by
  unfold reserve at h
  split at h
  · exact pure_eq_ok.mp h ▸ .outside s.native rfl
  split at h
  · simp only [bind_eq_ok, pure_eq_ok] at h
    obtain ⟨native, -, rfl⟩ := h
    exact .outside native rfl
  · simp only [bind_eq_ok, pure_eq_ok, okOr_eq_ok, checkedSub_eq_some, checkedAdd_eq_some] at h
    obtain ⟨account, hentry, free, hfree, reserved, hreserved, rfl⟩ := h
    refine .put hentry ?_
    change free.toNat + reserved.toNat = account.free.toNat + account.reserved.toNat
    omega

theorem unreserve_effect (h : unreserve token who value s = .ok s') : Effect s s' := by
  unfold unreserve at h
  split at h
  · exact pure_eq_ok.mp h ▸ .outside s.native rfl
  split at h
  · simp only [bind_eq_ok, pure_eq_ok] at h
    obtain ⟨-, -, rfl⟩ := h
    exact .outside _ rfl
  · simp only [bind_eq_ok, pure_eq_ok, okOr_eq_ok, checkedSub_eq_some, checkedAdd_eq_some] at h
    obtain ⟨account, hentry, reserved, hreserved, free, hfree, rfl⟩ := h
    refine .put hentry ?_
    change free.toNat + reserved.toNat = account.free.toNat + account.reserved.toNat
    omega

theorem transferToken_effect {target : AccountId} {paid : U128}
    (h : transferToken who token value target s = .ok (paid, s')) : Effect s s' := by
  unfold transferToken at h
  split at h
  · exact (Prod.mk.inj (pure_eq_ok.mp h)).2 ▸ .outside s.native rfl
  split at h
  · exact (Prod.mk.inj (pure_eq_ok.mp h)).2 ▸ .outside s.native rfl
  rename_i hne
  split at h
  · simp only [bind_eq_ok, pure_eq_ok, Prod.mk.injEq] at h
    obtain ⟨native, -, -, rfl⟩ := h
    exact .outside native rfl
  · simp only [bind_eq_ok, pure_eq_ok, okOr_eq_ok, checkedSub_eq_some, checkedAdd_eq_some,
      Prod.mk.injEq] at h
    obtain ⟨account, hentry, debit, hdebit, credit, hcredit, -, rfl⟩ := h
    have hother : (s.balances.put (token, who) { account with free := debit }.unlessDead) (token, target) =
        s.balances (token, target) := StorageMap.put_of_ne _ _ (by simp [Ne.symm hne])
    rw [hother] at hcredit ⊢
    exact .send hentry (Ne.symm hne) (held_free hdebit rfl) (held_free hcredit rfl)

theorem repatriateReserved_effect {beneficiary : AccountId} {status : BalanceStatus}
    (h : repatriateReserved token who beneficiary value status s = .ok s') : Effect s s' := by
  unfold repatriateReserved at h
  split at h
  · simp only [bind_eq_ok, pure_eq_ok] at h
    obtain ⟨-, -, native, -, rfl⟩ := h
    exact .outside native rfl
  split at h
  · cases status with
    | free => exact unreserve_effect h
    | reserved => exact reserve_effect h
  rename_i hne
  simp only [bind_eq_ok, okOr_eq_ok, checkedSub_eq_some] at h
  obtain ⟨account, hentry, reserved, hreserved, h⟩ := h
  have hother : (s.balances.put (token, who) { account with reserved }.unlessDead) (token, beneficiary) =
      s.balances (token, beneficiary) := StorageMap.put_of_ne _ _ (by simp [Ne.symm hne])
  have hleft : account.held = TokenAccountData.held { account with reserved } + value.toNat :=
    held_reserved hreserved rfl
  cases status with
  | free =>
      simp only [hother, bind_eq_ok, pure_eq_ok, okOr_eq_ok, checkedAdd_eq_some] at h
      obtain ⟨credit, hcredit, rfl⟩ := h
      exact .send hentry (Ne.symm hne) hleft (held_free hcredit rfl)
  | reserved =>
      simp only [hother, bind_eq_ok, pure_eq_ok, okOr_eq_ok, checkedAdd_eq_some] at h
      obtain ⟨credit, hcredit, rfl⟩ := h
      exact .send hentry (Ne.symm hne) hleft (held_reserved hcredit rfl)

theorem markStable_effect (hempty : Fnd10Empty s) (h : markStable token s = .ok s') : Effect s s' := by
  unfold markStable at h
  simp only [bind_eq_ok, okOr_eq_ok] at h
  obtain ⟨info, hinfo, h⟩ := h
  have hwrite : Effect s { s with tokens := s.tokens.insert token (info.setStable true) } := by
    refine .write hinfo rfl rfl (fun _ _ _ => rfl) (by simp) fun hdecimals => ?_
    rw [XToken.total_setStable]
    exact hempty token info hinfo (by rwa [XToken.decimals?_setStable] at hdecimals)
  cases info with
  | fnd10 => exact absurd h (by simp)
  | _ => exact pure_eq_ok.mp h ▸ hwrite

theorem doMint_effect (hempty : Fnd10Empty s) (h : doMint token who value s = .ok s') : Effect s s' := by
  by_cases hvalue : value = 0
  · rw [doMint, if_pos hvalue] at h
    exact pure_eq_ok.mp h ▸ .outside s.native rfl
  cases hinfo : s.tokens token with
  | none =>
      rw [doMint, if_neg hvalue, hinfo] at h
      exact absurd h (by simp)
  | some info =>
      cases hdecimals : info.decimals? with
      | none =>
          -- Nothing is issued of a token of this chain, and an amount of nothing is refused.
          rw [doMint, if_neg hvalue, hinfo] at h
          simp [hdecimals, hempty token info hinfo hdecimals, bind_eq_ok] at h
      | some decimals =>
          obtain ⟨total, htotal, -, free, hfree, rfl⟩ := (doMint_eq_ok hvalue hinfo hdecimals).mp h
          refine .write hinfo rfl rfl (fun t ht a => ?_) ?_ (by simp [hdecimals])
          · exact StorageMap.insert_of_ne _ _ (by simp [ht])
          · have hnew : TokenAccountData.held { (s.balances (token, who)).getD default with free } =
                heldBy token s.balances who + _ := held_free hfree rfl
            have hput := held_put s.balances token who
              (some { (s.balances (token, who)).getD default with free })
            rw [Option.getD_some, hnew] at hput
            rw [XToken.total_setTotal, htotal]
            change held token (s.balances.put (token, who) (some _)) + _ = _
            omega

theorem doBurn_effect (hempty : Fnd10Empty s) {paid : U128} (h : doBurn token who value s = .ok (paid, s')) :
    Effect s s' := by
  cases hinfo : s.tokens token with
  | none => simp [doBurn, hinfo, bind_eq_ok] at h
  | some info =>
      cases hdecimals : info.decimals? with
      | none =>
          simp [doBurn, hinfo, hdecimals, hempty token info hinfo hdecimals, bind_eq_ok] at h
      | some decimals =>
          obtain ⟨-, total, htotal, -, account, hentry, free, hfree, -, rfl⟩ :=
            (doBurn_eq_ok hinfo hdecimals).mp h
          refine .write hinfo rfl rfl (fun t ht a => ?_) ?_ (by simp [hdecimals])
          · exact StorageMap.put_of_ne _ _ (by simp [ht])
          · have hput := held_put s.balances token who { account with free }.unlessDead
            have hold : account.held = TokenAccountData.held { account with free } + _ := held_free hfree rfl
            rw [heldBy_of_entry hentry, getD_unlessDead, hold] at hput
            rw [XToken.total_setTotal, htotal]
            simp only
            omega

/-- A new token takes an id that no token has. -/
theorem Issued.create (hinv : Issued s) {tokenInfo : XToken} {id : TokenId}
    (h : create tokenInfo s = .ok (id, s')) (hfresh : s.tokens s.nextTokenId = none) : Issued s' := by
  obtain ⟨rfl, -, tokenByName, rfl⟩ := create_eq_ok h
  have hnone := hinv.unissued _ hfresh
  refine ⟨fun t => ?_, fun t ht who => ?_⟩
  · by_cases ht : t = s.nextTokenId
    · rw [@issued_of_info _ _ _ ((tokenInfo.setTotal 0).setStable false) (by simp [ht]),
        XToken.total_setStable, XToken.total_setTotal]
      refine Finset.sum_eq_zero fun who _ => ?_
      rw [heldBy, ht, hnone who]
      rfl
    · simp only [hinv.total, issued, StorageMap.insert_of_ne _ _ ht]
  · simp only [StorageMap.insert_apply] at ht
    split at ht
    · exact absurd ht (by simp)
    · exact hinv.unissued t ht who

/-! ### Runs -/

/-- The calls that other pallets make. -/
inductive Operation
  | create (tokenInfo : XToken)
  | markStable (id : TokenId)
  | transferToken (origin : AccountId) (token : TokenId) (amount : U128) (target : AccountId)
  | doMint (token : TokenId) (beneficiary : AccountId) (amount : U128)
  | doBurn (token : TokenId) (target : AccountId) (amount : U128)
  | reserve (token : TokenId) (who : AccountId) (value : U128)
  | unreserve (token : TokenId) (who : AccountId) (value : U128)
  | repatriateReserved (token : TokenId) (slashed beneficiary : AccountId) (value : U128)
      (status : BalanceStatus)

def Operation.perform : Operation → State cfg → Result (State cfg)
  | .create tokenInfo, s => do
      let (_, s) ← Token.create tokenInfo s
      return s
  | .markStable id, s => Token.markStable id s
  | .transferToken origin token amount target, s => do
      let (_, s) ← Token.transferToken origin token amount target s
      return s
  | .doMint token beneficiary amount, s => Token.doMint token beneficiary amount s
  | .doBurn token target amount, s => do
      let (_, s) ← Token.doBurn token target amount s
      return s
  | .reserve token who value, s => Token.reserve token who value s
  | .unreserve token who value, s => Token.unreserve token who value s
  | .repatriateReserved token slashed beneficiary value status, s =>
      Token.repatriateReserved token slashed beneficiary value status s

/-- How many tokens an operation creates. -/
def Operation.creations : Operation → Nat
  | .create _ => 1
  | _ => 0

/-- An operation succeeds; the tokens that were created are counted. -/
def Counted (p p' : State cfg × Nat) : Prop :=
  ∃ op : Operation, op.perform p.1 = .ok p'.1 ∧ p'.2 = p.2 + op.creations

/-- The storage at genesis, with no token created. -/
def Genesis (p : State cfg × Nat) : Prop := ∃ native, p = (.genesis native, 0)

/-- An operation creates a token, or its effect is on the tokens there are. -/
theorem Operation.effect {op : Operation} (h : op.perform s = .ok s') (hempty : Fnd10Empty s) :
    (op.creations = 1 ∧ ∃ tokenInfo id, Token.create tokenInfo s = .ok (id, s')) ∨
      (op.creations = 0 ∧ Effect s s') := by
  cases op with
  | create tokenInfo =>
      simp only [perform, bind_eq_ok, pure_eq_ok, Prod.exists, exists_eq_right] at h
      exact .inl ⟨rfl, tokenInfo, h⟩
  | markStable id => exact .inr ⟨rfl, markStable_effect hempty h⟩
  | transferToken origin token amount target =>
      simp only [perform, bind_eq_ok, pure_eq_ok, Prod.exists, exists_eq_right] at h
      obtain ⟨paid, h⟩ := h
      exact .inr ⟨rfl, transferToken_effect h⟩
  | doMint token beneficiary amount => exact .inr ⟨rfl, doMint_effect hempty h⟩
  | doBurn token target amount =>
      simp only [perform, bind_eq_ok, pure_eq_ok, Prod.exists, exists_eq_right] at h
      obtain ⟨paid, h⟩ := h
      exact .inr ⟨rfl, doBurn_effect hempty h⟩
  | reserve token who value => exact .inr ⟨rfl, reserve_effect h⟩
  | unreserve token who value => exact .inr ⟨rfl, unreserve_effect h⟩
  | repatriateReserved token slashed beneficiary value status =>
      exact .inr ⟨rfl, repatriateReserved_effect h⟩

/-- The ids of the tokens that exist are those given so far, and nothing is issued of those of this chain. -/
structure Numbered (n : Nat) (s : State cfg) : Prop where
  next : s.nextTokenId = BitVec.ofNat 32 (n + 1)
  given : ∀ id info, s.tokens id = some info → ∃ k, k < n ∧ id = BitVec.ofNat 32 (k + 1)
  empty : Fnd10Empty s

/-- Ids repeat only after `2 ^ 32` creations. -/
theorem Numbered.fresh {n : Nat} (h : Numbered n s) (hn : n < 2 ^ 32) :
    s.tokens s.nextTokenId = none := by
  cases htoken : s.tokens s.nextTokenId with
  | none => rfl
  | some info =>
      obtain ⟨k, hk, heq⟩ := h.given _ _ htoken
      rw [h.next] at heq
      have hmod : (n + 1) % 2 ^ 32 = (k + 1) % 2 ^ 32 := by
        simpa [BitVec.toNat_ofNat] using congrArg BitVec.toNat heq
      omega

theorem Numbered.create {n : Nat} (hinv : Numbered n s) {tokenInfo : XToken} {id : TokenId}
    (h : create tokenInfo s = .ok (id, s')) : Numbered (n + 1) s' := by
  obtain ⟨rfl, -, tokenByName, rfl⟩ := create_eq_ok h
  refine ⟨?_, fun id info hinfo => ?_, fun id info hinfo hdecimals => ?_⟩
  · simp only [hinv.next]
    rw [BitVec.ofNat_add (n + 1) 1]
    rfl
  · rcases StorageMap.insert_eq_some hinfo with ⟨hid, -⟩ | ⟨-, hinfo⟩
    · exact ⟨n, Nat.lt_succ_self n, hid.trans hinv.next⟩
    · obtain ⟨k, hk, hid⟩ := hinv.given id info hinfo
      exact ⟨k, Nat.lt_succ_of_lt hk, hid⟩
  · rcases StorageMap.insert_eq_some hinfo with ⟨-, rfl⟩ | ⟨-, hinfo⟩
    · rw [XToken.total_setStable, XToken.total_setTotal]
    · exact hinv.empty id info hinfo hdecimals

theorem Numbered.effect {n : Nat} (hinv : Numbered n s) (h : Effect s s') : Numbered n s' := by
  obtain ⟨hnext, htokens⟩ := h.tokens
  refine ⟨hnext.trans hinv.next, fun id info hinfo => ?_, h.fnd10Empty hinv.empty⟩
  obtain ⟨old, hold⟩ := htokens id info hinfo
  exact hinv.given id old hold

theorem numbered_genesis (native : cfg.balances.Store) : Numbered 0 (State.genesis native) where
  next := rfl
  given id info hinfo := absurd hinfo (by simp [State.genesis])
  empty id info hinfo := absurd hinfo (by simp [State.genesis])

theorem issued_of_reachable {n : Nat} (h : Transition.Reachable Genesis Counted (s, n))
    (hn : n ≤ 2 ^ 32) : Issued s ∧ Numbered n s := by
  refine h.invariant (fun p => p.2 ≤ 2 ^ 32 → Issued p.1 ∧ Numbered p.2 p.1) ?_ ?_ hn
  · rintro p ⟨native, rfl⟩ -
    exact ⟨⟨fun token => Finset.sum_eq_zero fun _ _ => rfl, fun _ _ _ => rfl⟩, numbered_genesis native⟩
  · rintro ⟨s, n⟩ ⟨s', n'⟩ ih ⟨op, hop, hcount⟩ hn'
    obtain ⟨hissued, hnumbered⟩ := ih (by simp only at hcount hn' ⊢; omega)
    simp only at hcount hn' hop ⊢
    rcases op.effect hop hnumbered.empty with ⟨hone, tokenInfo, id, hcreate⟩ | ⟨hzero, heffect⟩
    · rw [hcount, hone]
      exact ⟨hissued.create hcreate (hnumbered.fresh (by omega)), hnumbered.create hcreate⟩
    · rw [hcount, hzero]
      exact ⟨heffect.conserve hissued, hnumbered.effect heffect⟩

/-- A call of the pallet, or other pallets write to its balances. -/
inductive Touched : State cfg × Nat → State cfg × Nat → Prop
  | call {p p' : State cfg × Nat} (h : Counted p p') : Touched p p'
  | write (s : State cfg) (n : Nat) (balances : StorageMap (TokenId × AccountId) TokenAccountData)
      (native : cfg.balances.Store) (tokenByContract : StorageMap (ChainId × List UInt8) TokenId) :
      Touched (s, n) ({ s with balances, native, tokenByContract }, n)

theorem numbered_of_touched {n : Nat} (h : Transition.Reachable Genesis Touched (s, n)) :
    Numbered n s := by
  refine h.invariant (fun p => Numbered p.2 p.1) ?_ ?_
  · rintro p ⟨native, rfl⟩
    exact numbered_genesis native
  · intro p p' hinv hstep
    cases hstep with
    | call h =>
        obtain ⟨op, hop, hcount⟩ := h
        rcases op.effect hop hinv.empty with ⟨hone, tokenInfo, id, hcreate⟩ | ⟨hzero, heffect⟩
        · rw [hcount, hone]
          exact hinv.create hcreate
        · rw [hcount, hzero]
          exact hinv.effect heffect
    | write s n balances native tokenByContract => exact ⟨hinv.next, hinv.given, hinv.empty⟩

/-- Token `0` is only created when the counter has wrapped. -/
theorem Numbered.zero_none {n : Nat} (h : Numbered n s) (hn : n < 2 ^ 32) : s.tokens 0 = none := by
  cases htoken : s.tokens 0 with
  | none => rfl
  | some info =>
      obtain ⟨k, hk, heq⟩ := h.given _ _ htoken
      have hmod : 0 = (k + 1) % 2 ^ 32 := by
        simpa [BitVec.toNat_ofNat] using congrArg BitVec.toNat heq
      omega

/-- What is held by one account fits a word. -/
theorem Issued.toNat_balance (hinv : Issued s) (token : TokenId) (who : AccountId) :
    (balance token who s).toNat = heldBy token s.balances who := by
  have hle : heldBy token s.balances who ≤ issued token s := by
    rw [← hinv.total token]
    exact le_sum_univ (heldBy token s.balances) who
  have hlt : issued token s < 2 ^ 128 := by
    unfold issued
    split
    · exact BitVec.isLt _
    · decide
  exact toNat_add_of_lt (Nat.lt_of_le_of_lt hle hlt)

/-- In every run in which at most `2 ^ 32` tokens were created, what is issued of a token is what is held of
it, nothing is held of a token that does not exist, and no account's balance overflows. -/
theorem issued_is_held {n : Nat} (h : Transition.Reachable Genesis Counted (s, n)) (hn : n ≤ 2 ^ 32)
    (token : TokenId) :
    issued token s = ∑ who, heldBy token s.balances who ∧
      (s.tokens token = none → ∀ who, s.balances (token, who) = none) ∧
      ∀ who, (balance token who s).toNat = heldBy token s.balances who := by
  obtain ⟨hinv, -⟩ := issued_of_reachable h hn
  exact ⟨(hinv.total token).symm, hinv.unissued token, hinv.toNat_balance token⟩

/-! ### An id that comes back -/

set_option maxRecDepth 4000 in
theorem create_unitToken (s : State plainConfig) : create unitToken s = .ok (s.nextTokenId, { s with
    nextTokenId := s.nextTokenId + 1
    tokens := s.tokens.insert s.nextTokenId unitToken }) := rfl

theorem counted_create {s : State plainConfig} {n : Nat}
    (h : Transition.Reachable Genesis Counted (s, n)) :
    Transition.Reachable Genesis Counted ({ s with
      nextTokenId := s.nextTokenId + 1
      tokens := s.tokens.insert s.nextTokenId unitToken }, n + 1) := by
  obtain ⟨p, hgenesis, hrun⟩ := h
  refine ⟨p, hgenesis, hrun.tail ⟨.create unitToken, ?_, rfl⟩⟩
  rw [Operation.perform, create_unitToken]
  rfl

/-- Any number of tokens may be created. -/
theorem counted_creations {s : State plainConfig} {n : Nat}
    (h : Transition.Reachable Genesis Counted (s, n)) (k : Nat) : ∃ s' : State plainConfig,
    Transition.Reachable Genesis Counted (s', n + k) ∧
      s'.nextTokenId = s.nextTokenId + BitVec.ofNat 32 k ∧ s'.balances = s.balances := by
  induction k with
  | zero => exact ⟨s, h, (BitVec.add_zero _).symm, rfl⟩
  | succ k ih =>
      obtain ⟨s', hreach, hnext, hbalances⟩ := ih
      refine ⟨_, counted_create hreach, ?_, hbalances⟩
      rw [hnext, BitVec.ofNat_add k 1, BitVec.add_assoc]
      rfl

theorem counted_unitState : Transition.Reachable Genesis Counted (unitState, 1) :=
  counted_create ⟨_, ⟨_, rfl⟩, .refl⟩

theorem counted_mintedState : Transition.Reachable Genesis Counted (mintedState alice, 1) := by
  obtain ⟨p, hgenesis, hrun⟩ := counted_unitState
  exact ⟨p, hgenesis, hrun.tail ⟨.doMint 1 alice inverseAmount, rfl, rfl⟩⟩

theorem issued_is_held_mintedState :
    issued 1 (mintedState alice) = ∑ who, heldBy 1 (mintedState alice).balances who :=
  (issued_is_held counted_mintedState (by decide) 1).1

/-- Some of the first token is minted, and its id is given again. -/
theorem reissued_id_forgets_total : ∃ (s : State plainConfig) (n : Nat),
    Transition.Reachable Genesis Counted (s, n) ∧ s.tokens 1 ≠ none ∧
      issued 1 s ≠ ∑ who, heldBy 1 s.balances who := by
  obtain ⟨s, hreach, hnext, hbalances⟩ := counted_creations counted_mintedState (2 ^ 32 - 1)
  have hone : s.nextTokenId = 1 := hnext.trans (by decide)
  refine ⟨_, _, counted_create hreach, ?_, ?_⟩
  · simp [hone]
  · have hissued : issued 1 { s with
        nextTokenId := s.nextTokenId + 1
        tokens := s.tokens.insert s.nextTokenId unitToken } = 0 := by
      rw [@issued_of_info _ _ _ unitToken (by simp [hone])]
      rfl
    have halice : heldBy 1 s.balances alice = 2 ^ 18 := by
      rw [hbalances]
      rfl
    have hle := le_sum_univ (heldBy 1 s.balances) alice
    rw [halice] at hle
    rw [hissued]
    exact (Nat.lt_of_lt_of_le (by decide) hle).ne

end Fusotao.Token
