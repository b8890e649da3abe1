import Fusotao.Verifier.Moves
import Fusotao.Verifier.Plain

/-!
# Custody

What the pallet has on record of an account never exceeds the reserved balance of the account. A stash is
written off when its deposit is proved, so the records also have to know that the stash covers the amount in
the receipt.
-/

namespace Fusotao.Verifier

open Exec Word
open Token (SameReserved OnlyAt balancesOf reservedBalance)

open scoped BigOperators

variable {cfg : Config} {s s' : State cfg}

/-! ### What is on record of an account -/

/-- The sum of the records of an account, of every kind and with every counterparty. -/
def onRecord (owner : AccountId) (token : TokenId) (r : Reserves) : Nat :=
  ∑ k : ReserveId × AccountId, amounts r ((k.1, owner, token), k.2)

section Records

variable {r r' : Reserves} {kind kind' : ReserveId} {who other : AccountId} {token : TokenId} {v x : Nat}

theorem amounts_le_onRecord (r : Reserves) (kind : ReserveId) (who : AccountId) (token : TokenId)
    (other : AccountId) : amounts r ((kind, who, token), other) ≤ onRecord who token r :=
  le_sum_univ (fun k : ReserveId × AccountId => amounts r ((k.1, who, token), k.2)) (kind, other)

private theorem amounts_of_update
    (h : amounts r' = Function.update (amounts r) ((kind, who, token), other) v) :
    (fun k : ReserveId × AccountId => amounts r' ((k.1, who, token), k.2)) =
      Function.update (fun k : ReserveId × AccountId => amounts r ((k.1, who, token), k.2))
        (kind, other) v := by
  funext k
  rw [h, Function.update_apply, Function.update_apply]
  refine if_congr ?_ rfl rfl
  simp [Prod.ext_iff]

/-- Writing a record changes the sum by what is written less what was there. -/
theorem onRecord_update (h : amounts r' = Function.update (amounts r) ((kind, who, token), other) v) :
    onRecord who token r' + amounts r ((kind, who, token), other) = onRecord who token r + v := by
  rw [onRecord, amounts_of_update h]
  exact sum_update_add (fun k : ReserveId × AccountId => amounts r ((k.1, who, token), k.2)) (kind, other) v

theorem onRecord_update_of_ne {owner : AccountId} {t : TokenId}
    (h : amounts r' = Function.update (amounts r) ((kind, who, token), other) v)
    (hne : (t, owner) ≠ (token, who)) : onRecord owner t r' = onRecord owner t r := by
  refine Finset.sum_congr rfl fun k _ => ?_
  rw [h, Function.update_of_ne]
  intro heq
  exact hne (Prod.ext (congrArg (fun key => key.1.2.2) heq) (congrArg (fun key => key.1.2.1) heq))

/-- What moves from one record of an account to another does not add to the sum. -/
theorem onRecord_moved (hkinds : kind ≠ kind')
    (h : amounts r' = Function.update (Function.update (amounts r) ((kind, who, token), other) 0)
      ((kind', who, token), other) (amounts r ((kind', who, token), other) + x))
    (hx : x ≤ amounts r ((kind, who, token), other)) (owner : AccountId) (t : TokenId) :
    onRecord owner t r' ≤ onRecord owner t r := by
  have hremove := amounts_remove r ((kind, who, token), other)
  rw [← hremove] at h
  by_cases hne : (t, owner) = (token, who)
  · obtain ⟨rfl, rfl⟩ := Prod.mk.inj hne
    have hfirst := onRecord_update hremove
    have hsecond := onRecord_update h
    rw [hremove, Function.update_of_ne (by simp [hkinds.symm])] at hsecond
    omega
  · rw [onRecord_update_of_ne h hne, onRecord_update_of_ne hremove hne]

end Records

/-! ### Solvency -/

/-- No account has more on record than its reserved balance. -/
def Solvent (s : State cfg) : Prop :=
  ∀ owner token, onRecord owner token s.reserves ≤ (reservedBalance token owner s.asset).toNat

/-- The stash of an account covers the amount in its receipt. -/
def StashCovered (s : State cfg) : Prop :=
  ∀ d owner token amount block, s.receipts (d, owner) = some (.authorize token amount block) →
    amount.toNat ≤ amounts s.reserves ((.authorizingStash, owner, token), d)

section Steps

variable {kind : ReserveId} {who other : AccountId} {token : TokenId} {value : U128} {v : Nat}

/-- The assets change, and no record does. -/
theorem Solvent.of_same (hinv : Solvent s) (hreserves : s'.reserves = s.reserves)
    (hasset : SameReserved s.asset s'.asset) : Solvent s' := by
  intro owner t
  rw [hreserves, hasset t owner]
  exact hinv owner t

/-- One record is written, and the reserved balance follows. -/
theorem Solvent.update (hinv : Solvent s)
    (hreserves : amounts s'.reserves = Function.update (amounts s.reserves) ((kind, who, token), other) v)
    (honly : OnlyAt token who s.asset s'.asset)
    (hbalance : (reservedBalance token who s.asset).toNat + v ≤
      (reservedBalance token who s'.asset).toNat + amounts s.reserves ((kind, who, token), other)) :
    Solvent s' := by
  intro owner t
  by_cases hne : (t, owner) = (token, who)
  · obtain ⟨rfl, rfl⟩ := Prod.mk.inj hne
    have hrecord := onRecord_update hreserves
    have hold := hinv owner t
    omega
  · rw [onRecord_update_of_ne hreserves hne, show reservedBalance t owner s'.asset =
      reservedBalance t owner s.asset from congrArg Prod.snd (honly t owner hne)]
    exact hinv owner t

theorem Solvent.reserve (hlaw : cfg.token.balances.Lawful) (hinv : Solvent s)
    (h : reserve kind who token value other s = .ok s') : Solvent s' := by
  obtain ⟨-, hreserves, hasset⟩ := reserve_eq_ok h
  obtain ⟨hbalance, honly⟩ := Token.reserve_eq_ok hlaw hasset
  refine hinv.update hreserves honly ?_
  simp only [balancesOf] at hbalance
  omega

theorem Solvent.unreserve (hlaw : cfg.token.balances.Lawful) (hinv : Solvent s)
    (h : unreserve kind who token value other s = .ok s') : Solvent s' := by
  obtain ⟨-, hle, hreserves, hasset⟩ := unreserve_eq_ok h
  obtain ⟨hbalance, honly⟩ := Token.unreserve_eq_ok hlaw hasset
  refine hinv.update hreserves honly ?_
  simp only [balancesOf] at hbalance
  omega

/-- Clearing replaces the amount on record, also in the reserved balance. -/
theorem Solvent.clear (hlaw : cfg.token.balances.Lawful) (hinv : Solvent s)
    (h : clear who other token value s = .ok s') : Solvent s' := by
  simp only [Verifier.clear, bind_eq_ok, pure_eq_ok] at h
  obtain ⟨asset, hasset, rfl⟩ := h
  obtain ⟨hself, honly⟩ := Token.tryMutateAccount_eq_ok hlaw hasset
  simp only [bind_eq_ok, pure_eq_ok, okOr_eq_ok, checkedAdd_eq_some] at hself
  obtain ⟨total, htotal, hself⟩ := hself
  refine hinv.update (amounts_insert _ _ _) honly ?_
  -- The amount on record is covered, so the fallback is not taken.
  have hcovered : (reserveOf s.reserves .authorizing who token other).toNat ≤
      (reservedBalance token who s.asset).toNat :=
    (amounts_le_onRecord _ _ _ _ _).trans (hinv who token)
  have hkept : (checkedSub (reservedBalance token who s.asset)
      (reserveOf s.reserves .authorizing who token other)).getD 0 =
      reservedBalance token who s.asset - reserveOf s.reserves .authorizing who token other := by
    rw [checkedSub, if_pos hcovered]
    rfl
  have hbalance : (reservedBalance token who asset).toNat = _ :=
    (congrArg (fun b => b.2.toNat) hself).symm.trans htotal
  simp only [balancesOf] at hbalance
  rw [hkept, toNat_sub_of_le hcovered, toNat_reserveOf] at hbalance
  rw [toNat_reserveOf] at hcovered
  change _ ≤ (reservedBalance token who asset).toNat + _
  omega

/-- Receipts go, and stashes do not shrink. -/
theorem StashCovered.mono (hinv : StashCovered s)
    (h : ∀ d owner t amount block, s'.receipts (d, owner) = some (.authorize t amount block) →
      s.receipts (d, owner) = some (.authorize t amount block) ∧
        amounts s.reserves ((.authorizingStash, owner, t), d) ≤
          amounts s'.reserves ((.authorizingStash, owner, t), d)) : StashCovered s' := by
  intro d owner t amount block hreceipt
  obtain ⟨hreceipt, hle⟩ := h d owner t amount block hreceipt
  exact (hinv d owner t amount block hreceipt).trans hle

/-- Nothing that covers a receipt is written. -/
theorem StashCovered.of_update (hinv : StashCovered s) (hreceipts : s'.receipts = s.receipts)
    (hkind : kind ≠ .authorizingStash)
    (h : amounts s'.reserves = Function.update (amounts s.reserves) ((kind, who, token), other) v) :
    StashCovered s' := by
  refine hinv.mono fun d owner t amount block hreceipt => ⟨hreceipts ▸ hreceipt, ?_⟩
  rw [h, Function.update_of_ne (by simp [hkind.symm])]

/-- A receipt goes; the stash that covered it may go with it. -/
theorem StashCovered.drop (hinv : StashCovered s) {d owner : AccountId}
    (hreceipts : s'.receipts = s.receipts.remove (d, owner))
    (h : ∀ d' owner' t, (d', owner') ≠ (d, owner) →
      amounts s'.reserves ((.authorizingStash, owner', t), d') =
        amounts s.reserves ((.authorizingStash, owner', t), d')) : StashCovered s' := by
  refine hinv.mono fun d' owner' t amount block hreceipt => ?_
  obtain ⟨hne, hreceipt⟩ := StorageMap.remove_eq_some (hreceipts ▸ hreceipt)
  exact ⟨hreceipt, (h d' owner' t hne).ge⟩

end Steps

/-- Two stashes of different accounts or dominators are under different keys. -/
theorem stashKey_ne {d d' owner owner' : AccountId} {t t' : TokenId} (h : (d', owner') ≠ (d, owner)) :
    ((ReserveId.authorizingStash, owner', t'), d') ≠ ((.authorizingStash, owner, t), d) := by
  intro heq
  exact h (Prod.ext (congrArg Prod.snd heq) (congrArg (fun key => key.1.2.1) heq))

/-! ### What the moves keep -/

structure Custody (s : State cfg) : Prop where
  solvent : Solvent s
  covered : StashCovered s

/-- Nothing on record and no reserved balance changes. -/
theorem Custody.of_same (hinv : Custody s) (hreserves : s'.reserves = s.reserves)
    (hreceipts : s'.receipts = s.receipts) (hasset : SameReserved s.asset s'.asset) : Custody s' := by
  refine ⟨hinv.solvent.of_same hreserves hasset, hinv.covered.mono fun d owner t amount block h => ?_⟩
  rw [hreserves]
  exact ⟨hreceipts ▸ h, Nat.le_refl _⟩

section Operations

variable {owner staker d : AccountId} {token : TokenId} {amount : U128} {proof : ProofV2}

theorem Custody.reserve (hlaw : cfg.token.balances.Lawful) (hinv : Custody s) {kind : ReserveId}
    (hkind : kind ≠ .authorizingStash) (h : reserve kind owner token amount d s = .ok s') :
    Custody s' := by
  obtain ⟨hframe, hreserves, -⟩ := reserve_eq_ok h
  refine ⟨hinv.solvent.reserve hlaw h, hinv.covered.of_update ?_ hkind hreserves⟩
  rw [hframe]

theorem Custody.unreserve (hlaw : cfg.token.balances.Lawful) (hinv : Custody s) {kind : ReserveId}
    (hkind : kind ≠ .authorizingStash) (h : unreserve kind owner token amount d s = .ok s') :
    Custody s' := by
  obtain ⟨hframe, -, hreserves, -⟩ := unreserve_eq_ok h
  refine ⟨hinv.solvent.unreserve hlaw h, hinv.covered.of_update ?_ hkind hreserves⟩
  rw [hframe]

/-- The receipt comes with a stash of its amount. -/
theorem Custody.authorizeTo (hlaw : cfg.token.balances.Lawful) (hinv : Custody s)
    (h : authorizeTo owner d token amount s = .ok s') : Custody s' := by
  obtain ⟨-, -, mid, hmid, rfl⟩ := authorizeTo_eq_ok h
  obtain ⟨hframe, hreserves, -⟩ := reserve_eq_ok hmid
  refine ⟨(hinv.solvent.reserve hlaw hmid).of_same rfl (.refl _), ?_⟩
  intro d' owner' t amount' block hreceipt
  simp only [StorageMap.insert_apply] at hreceipt
  simp only [hreserves]
  split at hreceipt
  · rename_i heq
    obtain ⟨rfl, rfl⟩ := Prod.mk.inj heq
    obtain ⟨rfl, rfl, -⟩ := Receipt.authorize.inj (Option.some.inj hreceipt)
    rw [Function.update_self]
    exact Nat.le_add_left _ _
  · refine (hinv.covered d' owner' t amount' block hreceipt).trans ?_
    rw [Function.update_apply]
    split
    · rename_i heq
      rw [heq]
      exact Nat.le_add_right _ _
    · exact Nat.le_refl _

/-- What is stashed moves to what is authorised, and the receipt that it covered goes. -/
theorem Custody.revokeFrom (hlaw : cfg.token.balances.Lawful) (hinv : Custody s) {wanted : Option U128}
    {callback : Option cfg.Call} (h : revokeFrom owner d token wanted callback s = .ok s') :
    Custody s' := by
  obtain rfl | ⟨dominator, amount, -, -, -, ⟨-, mid, last, hmid, hlast, rfl⟩ |
    ⟨-, hnone, receipt, hreceipt, rfl⟩⟩ := revokeFrom_eq_ok h
  · exact hinv
  · obtain ⟨hframe, hreserves⟩ := mergeStash_eq_ok hmid
    obtain ⟨hframe', -, hreserves', -⟩ := unreserve_eq_ok hlast
    have hsolvent : Solvent mid := by
      intro owner' t
      have hmoved := onRecord_moved (by decide) hreserves (Nat.le_refl _) owner' t
      rw [hframe]
      exact hmoved.trans (hinv.solvent owner' t)
    refine ⟨(hsolvent.unreserve hlaw hlast).of_same rfl (.refl _), hinv.covered.drop rfl ?_⟩
    intro d' owner' t hne
    simp only [hreserves', hreserves]
    rw [Function.update_of_ne (by simp), Function.update_of_ne (by simp),
      Function.update_of_ne (stashKey_ne hne)]
  · refine ⟨hinv.solvent, hinv.covered.mono fun d' owner' t amount' block hauthorize => ?_⟩
    simp only [StorageMap.insert_apply] at hauthorize
    split at hauthorize
    · rw [Option.some.inj hauthorize] at hreceipt
      exact hreceipt.elim
    · exact ⟨hauthorize, Nat.le_refl _⟩

theorem Custody.stakeOn (hlaw : cfg.token.balances.Lawful) (hinv : Custody s)
    (h : stakeOn staker d amount s = .ok s') : Custody s' := by
  obtain ⟨dominator, -, -, mid, hmid, last, hlast, rfl⟩ := stakeOn_eq_ok h
  have hsame := takeStakedShares_sameReserved hlaw hlast
  refine (hinv.reserve hlaw (by decide) hmid).of_same ?_ ?_ hsame <;>
    rw [takeStakedShares_eq_ok hlast]

theorem Custody.unstakeFrom (hlaw : cfg.token.balances.Lawful) (hinv : Custody s)
    (h : unstakeFrom staker d amount s = .ok s') : Custody s' := by
  obtain ⟨dominator, -, -, staked, -, staking, -, remain, -, mid, hmid, mid', hmid', pending, -,
    season, last, hlast, rfl⟩ := unstakeFrom_eq_ok h
  have hmid' := (hinv.unreserve hlaw (by decide) hmid).reserve hlaw (by decide) hmid'
  have hsame := takeShares_sameReserved hlaw hlast
  refine hmid'.of_same ?_ ?_ hsame <;>
    rw [(takeShares_eq_ok hlast).2]

theorem Custody.claimShares (hlaw : cfg.token.balances.Lawful) (hinv : Custody s)
    (h : claimShares staker d s = .ok s') : Custody s' := by
  obtain ⟨dominator, -, -, staking, -, season, last, hlast, rfl⟩ := claimShares_eq_ok h
  have hsame := takeShares_sameReserved hlaw hlast
  refine hinv.of_same ?_ ?_ hsame <;>
    rw [(takeShares_eq_ok hlast).2]

/-- The effects of a proof. Only a deposit touches a stash, and its receipt goes with it. -/
theorem Custody.applied (hlaw : cfg.token.balances.Lawful) (hinv : Custody s)
    (h : Applied d proof s s') : Custody s' := by
  cases h with
  | limit side price amount makerFee takerFee base quote broker beneficiary season trade hcmd h =>
      refine ⟨?_, hinv.covered.mono fun d' owner t amount block hreceipt => ?_⟩
      · refine applyLimit_invariant Solvent (fun who token balance mid mid' hmid hclear =>
          hmid.clear hlaw hclear) (fun mid external hmid => hmid) (fun fee mid hmid => ?_)
          (fun fee mid mid' hmid hfee => ?_) hinv.solvent h
        · refine hmid.of_same ?_ ?_ <;> rw [putProfit_frame]
          exact .refl _
        · refine hmid.of_same ?_ (payBaseFee_sameReserved hlaw hfee)
          rw [payBaseFee_frame hfee]
      · rw [applyLimit_frame h] at hreceipt
        refine ⟨hreceipt, ?_⟩
        rw [amounts, amounts, applyLimit_elsewhere h (.inl (by simp))]
  | cancel base quote unfilled external hcmd h hs' =>
      subst hs'
      exact hinv.of_same rfl rfl (.refl _)
  | transferOut currency amount callback hcmd h =>
      obtain ⟨r, -, -, -, mid, hmid, rfl⟩ := applyTransferOut_eq_ok h
      obtain ⟨-, -, hreserves, -⟩ := unreserve_eq_ok hmid
      refine ⟨(hinv.solvent.unreserve hlaw hmid).of_same rfl (.refl _), hinv.covered.drop rfl ?_⟩
      intro d' owner' t _
      simp only [hreserves]
      rw [Function.update_of_ne (by simp)]
  | transferIn currency amount hcmd h =>
      obtain ⟨⟨block, hreceipt⟩, -, hframe, hreserves⟩ := applyTransferIn_eq_ok h
      have hcovered := hinv.covered d _ _ _ _ hreceipt
      have hasset : s'.asset = s.asset := by rw [hframe]
      refine ⟨fun owner t => ?_, hinv.covered.drop (by rw [hframe]) ?_⟩
      · rw [hasset]
        exact (onRecord_moved (by decide) hreserves hcovered owner t).trans (hinv.solvent owner t)
      · intro d' owner' t hne
        rw [hreserves, Function.update_of_ne (by simp), Function.update_of_ne (stashKey_ne hne)]

end Operations

/-- Every move keeps the custody of the accounts. -/
theorem Custody.move (hlaw : cfg.token.balances.Lawful) (hinv : Custody s) (h : Move s s') :
    Custody s' := by
  cases h with
  | register h =>
      obtain ⟨-, dominator, -, -, -, -, rfl⟩ := register_eq_ok h
      exact hinv.of_same rfl rfl (.refl _)
  | evict h =>
      obtain ⟨dominator, -, rfl⟩ := evict_eq_ok h
      exact hinv.of_same rfl rfl (.refl _)
  | launch h =>
      obtain ⟨dominator, -, -, rfl⟩ := launch_eq_ok h
      exact hinv.of_same rfl rfl (.refl _)
  | outside => exact hinv.of_same rfl rfl (.refl _)
  | assets asset h => exact hinv.of_same rfl rfl (h hlaw)
  | authorize h => exact hinv.authorizeTo hlaw h
  | revoke h => exact hinv.revokeFrom hlaw h
  | stake h => exact hinv.stakeOn hlaw h
  | unstake h => exact hinv.unstakeFrom hlaw h
  | claim h => exact hinv.claimShares hlaw h
  | apply hdominator hopenings hbonuses h => exact (hinv.applied hlaw h).of_same rfl rfl (.refl _)
  | reject h =>
      refine ⟨hinv.solvent, hinv.covered.drop rfl fun d owner t _ => ?_⟩
      rfl
  | store hpending h =>
      obtain ⟨dominator, -, rfl⟩ := storeRoot_eq_ok h
      exact hinv.of_same rfl rfl (.refl _)
  | block external h =>
      have hstart : Custody { s with now := s.now + 1, external := external } :=
        hinv.of_same rfl rfl (.refl _)
      refine onInitialize_invariant Custody (fun _ => ?_) (fun _ => hstart)
        (fun mid pendingUnstakings hmid => hmid.of_same rfl rfl (.refl _))
        fun who amount mid mid' hmid hunlock => hmid.unreserve hlaw (by decide) hunlock
      rw [snapshots_frame]
      exact hstart.of_same rfl rfl (.refl _)

theorem custody_of_visited (hlaw : cfg.token.balances.Lawful) (h : Visited s) : Custody s := by
  refine h.invariant Custody ?_ fun s s' hs hmove => hs.move hlaw hmove
  rintro s ⟨asset, external, rfl⟩
  refine ⟨fun owner token => ?_, fun d owner token amount block h => absurd h (by simp [State.genesis])⟩
  have hzero : onRecord owner token (State.genesis asset external).reserves = 0 :=
    Finset.sum_eq_zero fun k _ => rfl
  rw [hzero]
  exact Nat.zero_le _

/-! ### What follows -/

section Consequences

variable {kind : ReserveId} {who other : AccountId} {token : TokenId} {value : U128}

theorem Custody.covers (hinv : Custody s) (kind : ReserveId) (who : AccountId) (token : TokenId)
    (other : AccountId) :
    amounts s.reserves ((kind, who, token), other) ≤ (reservedBalance token who s.asset).toNat :=
  (amounts_le_onRecord _ _ _ _ _).trans (hinv.solvent who token)

/-- The only thing that keeps an amount on record from being released is a free balance that is too
large. -/
theorem unreserve_eq_error (hinv : Custody s)
    (hle : value.toNat ≤ amounts s.reserves ((kind, who, token), other)) {e : Abort}
    (h : unreserve kind who token value other s = .error e) : e = TokenError.overflow := by
  have hcovers := hle.trans (hinv.covers kind who token other)
  unfold unreserve at h
  split at h
  · exact absurd h (by simp [pure, Except.pure])
  rename_i hzero
  have hpos : 0 < value.toNat := Nat.pos_of_ne_zero fun h => hzero (BitVec.eq_of_toNat_eq h)
  rcases bind_eq_error.mp h with h | ⟨asset, -, h⟩
  · -- The token pallet refuses.
    unfold Token.unreserve at h
    rw [if_neg hzero] at h
    unfold reservedBalance at hcovers
    split at h
    · rename_i htoken
      rw [if_pos htoken] at hcovers
      rcases bind_eq_error.mp h with h | ⟨-, -, h⟩
      · exact absurd hcovers (ensure_eq_error.mp h).1
      · exact absurd h (by simp [pure, Except.pure])
    · rename_i htoken
      rw [if_neg htoken] at hcovers
      rcases bind_eq_error.mp h with h | ⟨account, haccount, h⟩
      · rw [(okOr_eq_error.mp h).1] at hcovers
        exact absurd hcovers (Nat.not_le_of_lt hpos)
      · rw [okOr_eq_ok.mp haccount, Option.getD_some] at hcovers
        rcases bind_eq_error.mp h with h | ⟨reserved, -, h⟩
        · have hnone := (okOr_eq_error.mp h).1
          rw [checkedSub, if_pos hcovers] at hnone
          exact absurd hnone (by simp)
        · rcases bind_eq_error.mp h with h | ⟨free, -, h⟩
          · exact (okOr_eq_error.mp h).2.symm
          · exact absurd h (by simp [pure, Except.pure])
  · -- The record is there, and large enough.
    rcases bind_eq_error.mp h with h | ⟨old, hold, h⟩
    · rw [amounts, (okOr_eq_error.mp h).1] at hle
      exact absurd hle (Nat.not_le_of_lt hpos)
    · rw [amounts, okOr_eq_ok.mp hold, Option.getD_some] at hle
      rcases bind_eq_error.mp h with h | ⟨rest, -, h⟩
      · have hnone := (okOr_eq_error.mp h).1
        rw [checkedSub, if_pos hle] at hnone
        exact absurd hnone (by simp)
      · exact absurd h (by simp [pure, Except.pure])

/-- What happens between two clears of an order. -/
inductive Clearing : State cfg → State cfg → Prop
  | clear {s s' : State cfg} {who d : AccountId} {token : TokenId} {balance : U128}
      (h : clear who d token balance s = .ok s') : Clearing s s'
  | outside (s : State cfg) (external : cfg.External) : Clearing s { s with external := external }

theorem Solvent.clearing (hlaw : cfg.token.balances.Lawful) (hinv : Solvent s)
    (h : Relation.ReflTransGen Clearing s s') : Solvent s' := by
  induction h with
  | refl => exact hinv
  | tail _ hlast ih =>
      cases hlast with
      | clear h => exact ih.clear hlaw h
      | outside external => exact ih

/-- In every state of every run, also in the middle of a call, the reserved balance of an account covers all
that is on record of it. So an amount on record can be released as long as the free balance has room for it,
and a clear finds the reserved balance it replaces. -/
theorem custody_solvent (hlaw : cfg.token.balances.Lawful) {start : State cfg}
    (h : Transition.Reachable Init Step start) (hmoves : Relation.ReflTransGen Move start s) :
    (∀ who token, ∑ k : ReserveId × AccountId, amounts s.reserves ((k.1, who, token), k.2) ≤
      (reservedBalance token who s.asset).toNat) ∧
    (∀ kind who token other value e, value.toNat ≤ amounts s.reserves ((kind, who, token), other) →
      unreserve kind who token value other s = .error e → e = TokenError.overflow) ∧
    ∀ last, Relation.ReflTransGen Clearing s last → ∀ who d token,
      (checkedSub (reservedBalance token who last.asset)
        (reserveOf last.reserves .authorizing who token d)).isSome := by
  obtain ⟨s₀, hinit, hrun⟩ := visited_of_reachable h
  have hinv : Custody s := custody_of_visited hlaw ⟨s₀, hinit, hrun.trans hmoves⟩
  refine ⟨hinv.solvent, fun kind who token other value e hle herror => unreserve_eq_error hinv hle herror,
    fun last hlast who d token => ?_⟩
  have hcovered := (amounts_le_onRecord last.reserves .authorizing who token d).trans
    (hinv.solvent.clearing hlaw hlast who token)
  rw [← toNat_reserveOf] at hcovered
  rw [checkedSub, if_pos hcovered]
  rfl

end Consequences

theorem custody_solvent_online : ∃ s : State (plainConfig []), Transition.Reachable Init Step s ∧
    (∑ k : ReserveId × AccountId, amounts s.reserves ((k.1, operator, 0), k.2) ≤
      (reservedBalance 0 operator s.asset).toNat) := by
  obtain ⟨s, hs⟩ := exists_of_isOk (x := play (onlineRun (plainConfig [])) (.genesis (plainAssets 100) ())) (by decide +kernel)
  have hreach := reachable_of_play hs
  exact ⟨s, hreach, (custody_solvent Balances.plain_lawful hreach .refl).1 operator 0⟩

end Fusotao.Verifier
