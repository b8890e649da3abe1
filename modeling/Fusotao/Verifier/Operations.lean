import Fusotao.Token.Ledger
import Fusotao.Verifier.Pallet

/-!
# What the operations do

One lemma for each operation of the pallet: what is checked, and the storage a success leaves. Nothing else
in the development looks inside the operations.
-/

namespace Fusotao.Verifier

open Exec Word

variable {cfg : Config} {s s' : State cfg}

/-! ### Reserves -/

/-- What a reserve is recorded under. -/
abbrev ReserveKey := (ReserveId × AccountId × TokenId) × AccountId

/-- The recorded amounts as naturals. -/
def amounts (r : Reserves) (key : ReserveKey) : Nat := ((r key).getD 0).toNat

theorem toNat_reserveOf (r : Reserves) (kind : ReserveId) (who : AccountId) (token : TokenId)
    (other : AccountId) :
    (reserveOf r kind who token other).toNat = amounts r ((kind, who, token), other) := rfl

theorem amounts_put (r : Reserves) (key : ReserveKey) (o : Option U128) :
    amounts (r.put key o) = Function.update (amounts r) key (o.getD 0).toNat := by
  funext key'
  simp only [amounts, StorageMap.put_apply, Function.update_apply]
  split <;> rfl

theorem amounts_insert (r : Reserves) (key : ReserveKey) (v : U128) :
    amounts (r.insert key v) = Function.update (amounts r) key v.toNat := amounts_put r key (some v)

theorem amounts_remove (r : Reserves) (key : ReserveKey) :
    amounts (r.remove key) = Function.update (amounts r) key 0 := amounts_put r key none

section Reserve

variable {kind : ReserveId} {who other : AccountId} {token : TokenId} {value : U128}

theorem reserve_eq_ok (h : reserve kind who token value other s = .ok s') :
    s' = { s with asset := s'.asset, reserves := s'.reserves } ∧
      amounts s'.reserves = Function.update (amounts s.reserves) ((kind, who, token), other)
        (amounts s.reserves ((kind, who, token), other) + value.toNat) ∧
      Token.reserve token who value s.asset = .ok s'.asset := by
  unfold reserve at h
  split at h
  · rename_i hzero
    obtain rfl := pure_eq_ok.mp h
    subst hzero
    refine ⟨rfl, ?_, by simp [Token.reserve, pure, Except.pure]⟩
    simp
  · simp only [bind_eq_ok, pure_eq_ok, okOr_eq_ok, checkedAdd_eq_some] at h
    obtain ⟨asset, hasset, total, htotal, rfl⟩ := h
    refine ⟨rfl, ?_, hasset⟩
    rw [amounts_insert, htotal, toNat_reserveOf]

theorem unreserve_eq_ok (h : unreserve kind who token value other s = .ok s') :
    s' = { s with asset := s'.asset, reserves := s'.reserves } ∧
      value.toNat ≤ amounts s.reserves ((kind, who, token), other) ∧
      amounts s'.reserves = Function.update (amounts s.reserves) ((kind, who, token), other)
        (amounts s.reserves ((kind, who, token), other) - value.toNat) ∧
      Token.unreserve token who value s.asset = .ok s'.asset := by
  unfold unreserve at h
  split at h
  · rename_i hzero
    obtain rfl := pure_eq_ok.mp h
    subst hzero
    refine ⟨rfl, Nat.zero_le _, ?_, by simp [Token.unreserve, pure, Except.pure]⟩
    simp
  · simp only [bind_eq_ok, pure_eq_ok, okOr_eq_ok, checkedSub_eq_some] at h
    obtain ⟨asset, hasset, old, hold, rest, hrest, rfl⟩ := h
    have hamount : amounts s.reserves ((kind, who, token), other) = old.toNat := by
      rw [amounts, hold, Option.getD_some]
    have hleft : ((if rest > 0 then some rest else none).getD 0 : U128) = rest := by
      split
      · rfl
      · rename_i hnot
        have hzero : ¬ 0 < rest.toNat := hnot
        exact (BitVec.eq_of_toNat_eq (by simp; omega)).symm
    refine ⟨rfl, by omega, ?_, hasset⟩
    rw [amounts_put, hleft, hamount, hrest, Nat.add_sub_cancel]

/-- An amount on record is released if the token pallet has it reserved. -/
theorem unreserve_ok (hrecord : value.toNat ≤ amounts s.reserves ((kind, who, token), other))
    (hasset : ∃ asset, Token.unreserve token who value s.asset = .ok asset) :
    ∃ s', unreserve kind who token value other s = .ok s' := by
  obtain ⟨asset, hasset⟩ := hasset
  unfold unreserve
  split
  · exact ⟨s, rfl⟩
  rename_i hzero
  cases hold : s.reserves ((kind, who, token), other) with
  | none =>
      rw [amounts, hold] at hrecord
      exact absurd (BitVec.eq_of_toNat_eq (Nat.le_zero.mp hrecord)) hzero
  | some old =>
      rw [amounts, hold, Option.getD_some] at hrecord
      rw [hasset, ok_bind, okOr_some, ok_bind, checkedSub, if_pos hrecord]
      exact ⟨_, rfl⟩

/-- An amount is reserved if the token pallet does and the record has room for it. -/
theorem reserve_ok (hrecord : amounts s.reserves ((kind, who, token), other) + value.toNat < 2 ^ 128)
    (hasset : ∃ asset, Token.reserve token who value s.asset = .ok asset) :
    ∃ s', reserve kind who token value other s = .ok s' := by
  obtain ⟨asset, hasset⟩ := hasset
  unfold reserve
  split
  · exact ⟨s, rfl⟩
  · rw [hasset, ok_bind, checkedAdd, if_pos (by rwa [toNat_reserveOf])]
    exact ⟨_, rfl⟩

end Reserve

/-! ### Authorizing and revoking -/

section Authorize

variable {owner d : AccountId} {token : TokenId} {amount : U128}

theorem authorizeTo_eq_ok (h : authorizeTo owner d token amount s = .ok s') :
    (∃ dominator, s.dominators.lookup d = some dominator ∧ dominator.status = .active) ∧
      s.receipts (d, owner) = none ∧ ∃ mid, reserve .authorizingStash owner token amount d s = .ok mid ∧
      s' = { mid with receipts := s.receipts.insert (d, owner) (.authorize token amount s.now) } := by
  simp only [authorizeTo, bind_eq_ok, pure_eq_ok, okOr_eq_ok, ensure_eq_ok, exists_const,
    Option.isNone_iff_eq_none] at h
  obtain ⟨dominator, hdominator, hactive, hnone, -, mid, hmid, rfl⟩ := h
  refine ⟨⟨dominator, hdominator, hactive⟩, hnone, mid, hmid, ?_⟩
  rw [(reserve_eq_ok hmid).1]

/-- The stash is added to what is authorised. -/
theorem mergeStash_eq_ok (h : mergeStash owner d token s = .ok s') :
    s' = { s with reserves := s'.reserves } ∧
      amounts s'.reserves = Function.update
        (Function.update (amounts s.reserves) ((.authorizingStash, owner, token), d) 0)
        ((.authorizing, owner, token), d)
        (amounts s.reserves ((.authorizing, owner, token), d) +
          amounts s.reserves ((.authorizingStash, owner, token), d)) := by
  have hother : ((ReserveId.authorizing, owner, token), d) ≠ ((.authorizingStash, owner, token), d) := by
    simp
  unfold mergeStash at h
  dsimp only at h
  split at h
  · simp only [bind_eq_ok, pure_eq_ok, okOr_eq_ok, checkedAdd_eq_some] at h
    obtain ⟨total, htotal, rfl⟩ := h
    refine ⟨rfl, ?_⟩
    rw [amounts_insert, amounts_remove, htotal, toNat_reserveOf, toNat_reserveOf, amounts_remove,
      Function.update_of_ne hother]
  · rename_i hnot
    obtain rfl := pure_eq_ok.mp h
    have hzero : amounts s.reserves ((.authorizingStash, owner, token), d) = 0 := by
      have : ¬ 0 < (reserveOf s.reserves .authorizingStash owner token d).toNat := hnot
      rw [toNat_reserveOf] at this
      omega
    refine ⟨rfl, ?_⟩
    rw [amounts_remove, hzero, Nat.add_zero]
    exact (Function.update_eq_self_iff.mpr (Function.update_of_ne hother _ _).symm).symm

/-- The receipt of a withdrawal. -/
def IsRevokeReceipt (token : TokenId) (amount : U128) : Receipt cfg.Call → Prop
  | .revoke t a _ => t = token ∧ a = amount
  | .revokeWithCallback t a _ _ => t = token ∧ a = amount
  | .authorize .. => False

theorem revokeFrom_eq_ok {wanted : Option U128} {callback : Option cfg.Call}
    (h : revokeFrom owner d token wanted callback s = .ok s') :
    s' = s ∨ ∃ dominator amount, s.dominators.lookup d = some dominator ∧
      dominator.status ≠ .registered ∧ amount.toNat ≤ amounts s.reserves ((.authorizing, owner, token), d) ∧
      ((dominator.status = .evicted ∧ ∃ mid last, mergeStash owner d token s = .ok mid ∧
          unreserve .authorizing owner token amount d mid = .ok last ∧
          s' = { last with receipts := s.receipts.remove (d, owner) }) ∨
        (dominator.status ≠ .evicted ∧ s.receipts (d, owner) = none ∧ ∃ receipt : Receipt cfg.Call,
          IsRevokeReceipt token amount receipt ∧
          s' = { s with receipts := s.receipts.insert (d, owner) receipt })) := by
  simp only [revokeFrom] at h
  split at h
  · exact .inl (pure_eq_ok.mp h).symm
  · simp only [bind_eq_ok, ensure_eq_ok, okOr_eq_ok, exists_const, hasAuthorizedMorethan,
      decide_eq_true_eq] at h
    obtain ⟨hle, dominator, hdominator, hstatus, h⟩ := h
    refine .inr ⟨dominator, _, hdominator, hstatus, hle, ?_⟩
    split at h
    · rename_i hevicted
      simp only [bind_eq_ok, pure_eq_ok] at h
      obtain ⟨mid, hmid, last, hlast, rfl⟩ := h
      refine .inl ⟨hevicted, mid, last, hmid, hlast, ?_⟩
      rw [(unreserve_eq_ok hlast).1, (mergeStash_eq_ok hmid).1]
    · rename_i hnot
      simp only [bind_eq_ok, pure_eq_ok, ensure_eq_ok, exists_const, Option.isNone_iff_eq_none] at h
      obtain ⟨hnone, rfl⟩ := h
      refine .inr ⟨hnot, hnone, _, ?_, rfl⟩
      cases callback <;> exact ⟨rfl, rfl⟩

theorem authorizeTo_frame (h : authorizeTo owner d token amount s = .ok s') :
    s' = { s with asset := s'.asset, reserves := s'.reserves, receipts := s'.receipts } := by
  obtain ⟨-, -, mid, hmid, rfl⟩ := authorizeTo_eq_ok h
  rw [(reserve_eq_ok hmid).1]

theorem revokeFrom_frame {wanted : Option U128} {callback : Option cfg.Call}
    (h : revokeFrom owner d token wanted callback s = .ok s') :
    s' = { s with asset := s'.asset, reserves := s'.reserves, receipts := s'.receipts } := by
  obtain rfl | ⟨dominator, amount, -, -, -, ⟨-, mid, last, hmid, hlast, rfl⟩ | ⟨-, -, receipt, -, rfl⟩⟩ :=
    revokeFrom_eq_ok h
  · rfl
  · rw [(unreserve_eq_ok hlast).1, (mergeStash_eq_ok hmid).1]
  · rfl

/-- A deposit on its way in is stashed. -/
theorem authorizeTo_records (h : authorizeTo owner d token amount s = .ok s') {key : ReserveKey}
    (hkey : key ≠ ((.authorizingStash, owner, token), d)) :
    amounts s'.reserves key = amounts s.reserves key := by
  obtain ⟨-, -, mid, hmid, rfl⟩ := authorizeTo_eq_ok h
  obtain ⟨-, hreserves, -⟩ := reserve_eq_ok hmid
  change amounts mid.reserves key = _
  rw [hreserves, Function.update_of_ne hkey]

/-- A withdrawal writes what is authorised and what is stashed, if anything. -/
theorem revokeFrom_records {wanted : Option U128} {callback : Option cfg.Call}
    (h : revokeFrom owner d token wanted callback s = .ok s') {key : ReserveKey}
    (hkey : key ≠ ((.authorizing, owner, token), d)) (hstash : key ≠ ((.authorizingStash, owner, token), d)) :
    amounts s'.reserves key = amounts s.reserves key := by
  obtain rfl | ⟨dominator, amount, -, -, -, ⟨-, mid, last, hmid, hlast, rfl⟩ | ⟨-, -, receipt, -, rfl⟩⟩ :=
    revokeFrom_eq_ok h
  · rfl
  · obtain ⟨-, hreserves⟩ := mergeStash_eq_ok hmid
    obtain ⟨-, -, hreserves', -⟩ := unreserve_eq_ok hlast
    change amounts last.reserves key = _
    rw [hreserves', Function.update_of_ne hkey, hreserves, Function.update_of_ne hkey,
      Function.update_of_ne hstash]
  · rfl

end Authorize

/-! ### Stakes -/

section Stakes

variable {staker d : AccountId} {amount : U128} {dist : Distribution} {season : Nat}

/-- The entries written when a staker is paid for the seasons of a distribution. -/
def settledEntries (staker d : AccountId) (dist : Distribution) : List (Entry cfg.Call) :=
  (List.range' dist.fromSeason (dist.toSeason - dist.fromSeason)).map fun season =>
    .settled staker d season dist.staking

theorem takeShares_eq_ok (h : takeShares staker d dist s = .ok (season, s')) :
    season = dist.toSeason ∧
      s' = { s with asset := s'.asset, history := s.history ++ settledEntries staker d dist } := by
  unfold takeShares at h
  split at h
  · rename_i hsame
    obtain ⟨rfl, rfl⟩ := Prod.mk.inj (pure_eq_ok.mp h)
    refine ⟨hsame.symm, ?_⟩
    simp [settledEntries, hsame]
  · simp only [bind_eq_ok, pure_eq_ok, Prod.mk.injEq] at h
    obtain ⟨asset, -, rfl, rfl⟩ := h
    exact ⟨rfl, rfl⟩

/-- Shares are credited: no reserved balance changes. -/
theorem takeShares_sameReserved (hlaw : cfg.token.balances.Lawful)
    (h : takeShares staker d dist s = .ok (season, s')) : Token.SameReserved s.asset s'.asset := by
  unfold takeShares at h
  split at h
  · obtain ⟨-, rfl⟩ := Prod.mk.inj (pure_eq_ok.mp h)
    exact .refl _
  · simp only [bind_eq_ok, pure_eq_ok, Prod.mk.injEq] at h
    obtain ⟨asset, hasset, -, rfl⟩ := h
    refine foldlM_invariant (Token.SameReserved s.asset) (fun a share a' hsame hcredit => ?_)
      (Token.SameReserved.refl _) hasset
    refine hsame.trans (Token.tryMutateAccount_sameReserved hlaw (fun b v hv => ?_) hcredit)
    exact (congrArg Prod.snd (Except.ok.inj hv)).symm

/-- The entries written when a staker who has staked before stakes more. -/
def stakedEntries (staker d : AccountId) (dist : Distribution) : List (Entry cfg.Call) :=
  if dist.staking ≠ 0 then settledEntries staker d dist else []

theorem takeStakedShares_eq_ok (h : takeStakedShares staker d dist s = .ok s') :
    s' = { s with asset := s'.asset, history := s.history ++ stakedEntries staker d dist } := by
  unfold takeStakedShares at h
  unfold stakedEntries
  split at h
  · rename_i hne
    simp only [bind_eq_ok, pure_eq_ok, Prod.exists] at h
    obtain ⟨season, last, hlast, rfl⟩ := h
    rw [if_pos hne]
    exact (takeShares_eq_ok hlast).2
  · rename_i hzero
    obtain rfl := pure_eq_ok.mp h
    rw [if_neg hzero, List.append_nil]

theorem takeStakedShares_sameReserved (hlaw : cfg.token.balances.Lawful)
    (h : takeStakedShares staker d dist s = .ok s') : Token.SameReserved s.asset s'.asset := by
  unfold takeStakedShares at h
  split at h
  · simp only [bind_eq_ok, pure_eq_ok, Prod.exists] at h
    obtain ⟨season, last, hlast, rfl⟩ := h
    exact takeShares_sameReserved hlaw hlast
  · exact pure_eq_ok.mp h ▸ .refl _

/-- What the staker has staked on the dominator so far. -/
def stakingOf (d staker : AccountId) (s : State cfg) : Staking := (s.stakings (d, staker)).getD default

/-- The distribution of a staking up to now. -/
def distributionOf (cfg : Config) (staking : Staking) (now startFrom : BlockNumber) : Distribution :=
  ⟨staking.fromSeason, currentSeason cfg now startFrom, staking.amount⟩

theorem stakeOn_eq_ok (h : stakeOn staker d amount s = .ok s') :
    ∃ dominator, s.dominators.lookup d = some dominator ∧
      (dominator.status = .active ∨ dominator.status = .inactive) ∧
      ∃ mid, reserve .staking staker cfg.token.nativeTokenId amount d s = .ok mid ∧
      ∃ last, takeStakedShares staker d (distributionOf cfg (stakingOf d staker s) s.now dominator.startFrom)
        mid = .ok last ∧
      s' = { last with
        stakings := s.stakings.insert (d, staker)
          ⟨currentSeason cfg s.now dominator.startFrom, (stakingOf d staker s).amount + amount⟩
        dominators := s.dominators.insert d { dominator with
          staked := dominator.staked + amount
          status := onlineStatus cfg (dominator.staked + amount) }
        history := last.history ++ [.staked d dominator.staked amount] } := by
  simp only [stakeOn, bind_eq_ok, ensure_eq_ok, okOr_eq_ok, pure_eq_ok, exists_const] at h
  obtain ⟨-, dominator, hdominator, hstatus, mid, hmid, last, hlast, rfl⟩ := h
  have hframe := (reserve_eq_ok hmid).1
  have hframe' := takeStakedShares_eq_ok hlast
  have hnow : mid.now = s.now := by rw [hframe]
  rw [hnow] at hlast
  refine ⟨dominator, hdominator, hstatus, mid, hmid, last, hlast, ?_⟩
  rw [hframe', hnow, hframe]
  rfl

theorem unstakeFrom_eq_ok (h : unstakeFrom staker d amount s = .ok s') :
    ∃ dominator, s.dominators.lookup d = some dominator ∧ dominator.status ≠ .registered ∧
      ∃ staked, checkedSub dominator.staked amount = some staked ∧
      ∃ staking, s.stakings (d, staker) = some staking ∧
      ∃ remain, checkedSub staking.amount amount = some remain ∧
      ∃ mid, unreserve .staking staker cfg.token.nativeTokenId amount d s = .ok mid ∧
      ∃ mid', reserve .pendingUnstake staker cfg.token.nativeTokenId amount cfg.systemAccount mid =
        .ok mid' ∧
      ∃ pending, checkedAdd ((s.pendingUnstakings.lookup (unlockAt cfg s.now, staker)).getD 0) amount =
        some pending ∧
      ∃ season last,
        takeShares staker d (distributionOf cfg staking s.now dominator.startFrom)
          { mid' with
            pendingUnstakings := s.pendingUnstakings.insert (unlockAt cfg s.now, staker) pending } =
          .ok (season, last) ∧
      s' = { last with
        stakings := s.stakings.put (d, staker)
          (if remain ≠ 0 then some ⟨currentSeason cfg s.now dominator.startFrom, remain⟩ else none)
        dominators := s.dominators.insert d { dominator with
          staked := staked
          status := if dominator.status ≠ .evicted then onlineStatus cfg staked
            else dominator.status }
        history := last.history ++ [.unstaked staker s.now amount] } := by
  simp only [unstakeFrom, bind_eq_ok, ensure_eq_ok, okOr_eq_ok, pure_eq_ok, exists_const,
    Prod.exists] at h
  obtain ⟨dominator, hdominator, hstatus, staked, hstaked, staking, hstaking, remain, hremain, -, mid,
    hmid, mid', hmid', pending, hpending, season, last, hlast, rfl⟩ := h
  have hframe := (unreserve_eq_ok hmid).1
  have hframe' := (reserve_eq_ok hmid').1
  have hframe'' := (takeShares_eq_ok hlast).2
  have hnow : mid'.now = s.now := by rw [hframe', hframe]
  have hdist : (⟨staking.fromSeason, currentSeason cfg mid'.now dominator.startFrom, staking.amount⟩ :
      Distribution) = distributionOf cfg staking s.now dominator.startFrom := by
    rw [hnow, distributionOf]
  have hstakings : last.stakings = s.stakings := by rw [hframe'', hframe', hframe]
  have hdominators : last.dominators = s.dominators := by rw [hframe'', hframe', hframe]
  have hlastNow : last.now = s.now := by rw [hframe'', hframe', hframe]
  have hunstakings : mid'.pendingUnstakings = s.pendingUnstakings := by rw [hframe', hframe]
  have hunlock : unlockAt cfg mid'.now = unlockAt cfg s.now := by rw [hnow]
  rw [hunstakings, hunlock] at hpending hlast
  refine ⟨dominator, hdominator, hstatus, staked, hstaked, staking, hstaking, remain, hremain, mid, hmid,
    mid', hmid', pending, hpending, season, last, hdist ▸ hlast, ?_⟩
  rw [hstakings, hdominators, hnow, hlastNow]

theorem claimShares_eq_ok (h : claimShares staker d s = .ok s') :
    ∃ dominator, s.dominators.lookup d = some dominator ∧ dominator.status ≠ .registered ∧
      ∃ staking, s.stakings (d, staker) = some staking ∧ ∃ season last,
        takeShares staker d (distributionOf cfg staking s.now dominator.startFrom) s = .ok (season, last) ∧
      s' = { last with
        stakings := s.stakings.insert (d, staker)
          { staking with fromSeason := currentSeason cfg s.now dominator.startFrom } } := by
  simp only [claimShares, bind_eq_ok, ensure_eq_ok, okOr_eq_ok, pure_eq_ok, exists_const,
    Prod.exists] at h
  obtain ⟨dominator, hdominator, hstatus, staking, hstaking, season, last, hlast, rfl⟩ := h
  obtain ⟨rfl, hframe⟩ := takeShares_eq_ok hlast
  refine ⟨dominator, hdominator, hstatus, staking, hstaking, _, last, hlast, ?_⟩
  rw [hframe]

theorem stakeOn_minimal (h : stakeOn staker d amount s = .ok s') : cfg.minimalStakingAmount ≤ amount := by
  simp only [stakeOn, bind_eq_ok, ensure_eq_ok, exists_const] at h
  exact h.1

/-- What is left of a stake is nothing, or at least the minimum. -/
theorem unstakeFrom_minimal (h : unstakeFrom staker d amount s = .ok s') {staking : Staking}
    {remain : U128} (hstaking : s.stakings (d, staker) = some staking)
    (hremain : staking.amount.toNat = remain.toNat + amount.toNat) :
    remain = 0 ∨ cfg.minimalStakingAmount ≤ remain := by
  simp only [unstakeFrom, bind_eq_ok, ensure_eq_ok, okOr_eq_ok, exists_const, hstaking,
    Option.some.injEq, checkedSub_eq_some, exists_eq_left'] at h
  obtain ⟨dominator, -, -, staked, -, remain', hremain', hminimal, -⟩ := h
  obtain rfl : remain' = remain := BitVec.eq_of_toNat_eq (by omega)
  exact hminimal

theorem stakeOn_effects (h : stakeOn staker d amount s = .ok s') :
    ∃ dominator, s.dominators.lookup d = some dominator ∧
      (dominator.status = .active ∨ dominator.status = .inactive) ∧
      s' = { s with
        asset := s'.asset
        reserves := s'.reserves
        stakings := s.stakings.insert (d, staker)
          ⟨currentSeason cfg s.now dominator.startFrom, (stakingOf d staker s).amount + amount⟩
        dominators := s.dominators.insert d { dominator with
          staked := dominator.staked + amount
          status := onlineStatus cfg (dominator.staked + amount) }
        history := s.history ++
          stakedEntries staker d (distributionOf cfg (stakingOf d staker s) s.now dominator.startFrom) ++
            [.staked d dominator.staked amount] } ∧
      amounts s'.reserves = Function.update (amounts s.reserves)
        ((.staking, staker, cfg.token.nativeTokenId), d)
        (amounts s.reserves ((.staking, staker, cfg.token.nativeTokenId), d) + amount.toNat) := by
  obtain ⟨dominator, hlookup, hstatus, mid, hmid, last, hlast, rfl⟩ := stakeOn_eq_ok h
  obtain ⟨hframe, hreserves, -⟩ := reserve_eq_ok hmid
  have hframe' := takeStakedShares_eq_ok hlast
  refine ⟨dominator, hlookup, hstatus, ?_, ?_⟩
  · rw [hframe', hframe]
  · rw [hframe']
    exact hreserves

theorem unstakeFrom_effects (h : unstakeFrom staker d amount s = .ok s') :
    ∃ dominator, s.dominators.lookup d = some dominator ∧ dominator.status ≠ .registered ∧
      ∃ staked, checkedSub dominator.staked amount = some staked ∧
      ∃ staking, s.stakings (d, staker) = some staking ∧
      ∃ remain, checkedSub staking.amount amount = some remain ∧
      ∃ pending, checkedAdd ((s.pendingUnstakings.lookup (unlockAt cfg s.now, staker)).getD 0) amount =
        some pending ∧
      s' = { s with
        asset := s'.asset
        reserves := s'.reserves
        pendingUnstakings := s.pendingUnstakings.insert (unlockAt cfg s.now, staker) pending
        stakings := s.stakings.put (d, staker)
          (if remain ≠ 0 then some ⟨currentSeason cfg s.now dominator.startFrom, remain⟩ else none)
        dominators := s.dominators.insert d { dominator with
          staked := staked
          status := if dominator.status ≠ .evicted then onlineStatus cfg staked else dominator.status }
        history := s.history ++
          settledEntries staker d (distributionOf cfg staking s.now dominator.startFrom) ++
            [.unstaked staker s.now amount] } ∧
      amount.toNat ≤ amounts s.reserves ((.staking, staker, cfg.token.nativeTokenId), d) ∧
      amounts s'.reserves = Function.update (Function.update (amounts s.reserves)
          ((.staking, staker, cfg.token.nativeTokenId), d)
          (amounts s.reserves ((.staking, staker, cfg.token.nativeTokenId), d) - amount.toNat))
        ((.pendingUnstake, staker, cfg.token.nativeTokenId), cfg.systemAccount)
        (amounts s.reserves ((.pendingUnstake, staker, cfg.token.nativeTokenId), cfg.systemAccount) +
          amount.toNat) := by
  obtain ⟨dominator, hlookup, hstatus, staked, hstaked, staking, hstaking, remain, hremain, mid, hmid, mid',
    hmid', pending, hpending, season, last, hlast, rfl⟩ := unstakeFrom_eq_ok h
  obtain ⟨hframe, hle, hreserves, -⟩ := unreserve_eq_ok hmid
  obtain ⟨hframe', hreserves', -⟩ := reserve_eq_ok hmid'
  have hframe'' := (takeShares_eq_ok hlast).2
  refine ⟨dominator, hlookup, hstatus, staked, hstaked, staking, hstaking, remain, hremain, pending,
    hpending, ?_, hle, ?_⟩
  · rw [hframe'', hframe', hframe]
  · rw [hframe'']
    refine hreserves'.trans ?_
    rw [hreserves, Function.update_of_ne (by simp)]

theorem claimShares_effects (h : claimShares staker d s = .ok s') :
    ∃ dominator, s.dominators.lookup d = some dominator ∧ ∃ staking, s.stakings (d, staker) = some staking ∧
      s' = { s with
        asset := s'.asset
        stakings := s.stakings.insert (d, staker)
          { staking with fromSeason := currentSeason cfg s.now dominator.startFrom }
        history := s.history ++
          settledEntries staker d (distributionOf cfg staking s.now dominator.startFrom) } := by
  obtain ⟨dominator, hlookup, -, staking, hstaking, season, last, hlast, rfl⟩ := claimShares_eq_ok h
  refine ⟨dominator, hlookup, staking, hstaking, ?_⟩
  rw [(takeShares_eq_ok hlast).2]

end Stakes

/-! ### Dominators -/

section Dominators

variable {d : AccountId}

/-- A dominator that is registered starts with the empty tree and without stakes. -/
theorem register_eq_ok {name : List UInt8} (h : register d name s = .ok s') :
    s.dominators.lookup d = none ∧ ∃ dominator : Dominator, dominator.staked = 0 ∧
      dominator.startFrom = s.now - s.now % cfg.dominatorCheckGracePeriod ∧
      dominator.merkleRoot = List.Vector.replicate 32 0 ∧ dominator.status = .registered ∧
      s' = { s with dominators := s.dominators.insert d dominator } := by
  simp only [register, bind_eq_ok, ensure_eq_ok, pure_eq_ok, exists_const,
    Option.isNone_iff_eq_none] at h
  obtain ⟨-, -, -, hnone, -, rfl⟩ := h
  exact ⟨hnone, _, rfl, rfl, rfl, rfl, rfl⟩

theorem evict_eq_ok (h : evict d s = .ok s') :
    ∃ dominator, s.dominators.lookup d = some dominator ∧
      s' = { s with dominators := s.dominators.insert d { dominator with status := .evicted } } := by
  simp only [evict, bind_eq_ok, okOr_eq_ok, pure_eq_ok] at h
  obtain ⟨dominator, hdominator, rfl⟩ := h
  exact ⟨dominator, hdominator, rfl⟩

theorem launch_eq_ok (h : launch d s = .ok s') :
    ∃ dominator, s.dominators.lookup d = some dominator ∧ dominator.status = .registered ∧
      s' = { s with dominators := s.dominators.insert d { dominator with status := .inactive } } := by
  simp only [launch, bind_eq_ok, ensure_eq_ok, okOr_eq_ok, pure_eq_ok, exists_const] at h
  obtain ⟨dominator, hdominator, hstatus, rfl⟩ := h
  exact ⟨dominator, hdominator, hstatus, rfl⟩

theorem dominatorSetBeneficiary_eq_ok {beneficiary : AccountId} {proof : List UInt8}
    (h : dominatorSetBeneficiary d beneficiary proof s = .ok s') :
    s' = { s with external := s'.external, beneficiaries := s'.beneficiaries } := by
  simp only [dominatorSetBeneficiary, bind_eq_ok, ensure_eq_ok, exists_const] at h
  obtain ⟨-, h⟩ := h
  split at h <;>
    obtain ⟨external, -, h⟩ := bind_eq_ok.mp h <;>
    exact pure_eq_ok.mp h ▸ rfl

end Dominators

/-! ### The first block of a season -/

/-- The stakes of the dominators whose season ends are written down. -/
def snapshots (now : BlockNumber) (s : State cfg) : State cfg :=
  s.dominators.entries.foldl (fun s entry => snapshot now entry.1 entry.2 s) s

theorem snapshot_frame (now : BlockNumber) (d : AccountId) (dominator : Dominator) (s : State cfg) :
    snapshot now d dominator s = { s with bonuses := (snapshot now d dominator s).bonuses } := by
  unfold snapshot
  split
  · rfl
  · split <;> rfl

theorem snapshots_frame (now : BlockNumber) (s : State cfg) :
    snapshots now s = { s with bonuses := (snapshots now s).bonuses } := by
  have hframe : ∃ bonuses, snapshots now s = { s with bonuses := bonuses } := by
    refine List.foldlRecOn (motive := fun mid : State cfg =>
      ∃ bonuses, mid = { s with bonuses := bonuses }) _ _ ⟨s.bonuses, rfl⟩ fun mid hmid entry _ => ?_
    obtain ⟨bonuses, rfl⟩ := hmid
    exact ⟨_, snapshot_frame ..⟩
  obtain ⟨bonuses, hbonuses⟩ := hframe
  rw [hbonuses]

/-- What the snapshots, the unlocking of what was unstaked and the removal of its entry keep, the first
block of a season keeps. -/
theorem onInitialize_invariant (P : State cfg → Prop) {now : BlockNumber}
    (hsnapshots : now % cfg.dominatorCheckGracePeriod = 0 → P (snapshots now s))
    (hskip : now % cfg.dominatorCheckGracePeriod ≠ 0 → P s)
    (hpending : ∀ s pendingUnstakings, P s → P { s with pendingUnstakings := pendingUnstakings })
    (hunlock : ∀ who amount s s', P s → unreserve .pendingUnstake who cfg.token.nativeTokenId amount
      cfg.systemAccount s = .ok s' → P s') : P (onInitialize now s) := by
  unfold onInitialize
  split
  · rename_i hnot
    exact hskip hnot
  · rename_i hgrace
    refine List.foldlRecOn (motive := P) _ _ (hsnapshots (not_not.mp hgrace)) fun mid hmid entry _ => ?_
    unfold unlock
    split
    · rename_i last hlast
      exact hunlock _ _ _ _ (hpending _ _ hmid) hlast
    · exact hpending _ _ hmid

theorem onInitialize_frame (now : BlockNumber) (s : State cfg) :
    onInitialize now s = { s with
      bonuses := (onInitialize now s).bonuses
      asset := (onInitialize now s).asset
      reserves := (onInitialize now s).reserves
      pendingUnstakings := (onInitialize now s).pendingUnstakings } := by
  refine onInitialize_invariant (fun mid => mid = { s with
    bonuses := mid.bonuses, asset := mid.asset, reserves := mid.reserves
    pendingUnstakings := mid.pendingUnstakings }) (fun _ => ?_) (fun _ => rfl)
    (fun mid pendingUnstakings hmid => ?_) fun who amount mid mid' hmid hunlock => ?_
  · rw [snapshots_frame]
  · rw [hmid]
  · rw [(unreserve_eq_ok hunlock).1, hmid]

theorem onInitialize_bonuses (now : BlockNumber) (s : State cfg) : (onInitialize now s).bonuses =
    if now % cfg.dominatorCheckGracePeriod = 0 then (snapshots now s).bonuses else s.bonuses := by
  refine onInitialize_invariant (fun mid => mid.bonuses = if now % cfg.dominatorCheckGracePeriod = 0
    then (snapshots now s).bonuses else s.bonuses) (fun hgrace => (if_pos hgrace).symm)
    (fun hnot => (if_neg hnot).symm) (fun mid pendingUnstakings hmid => hmid)
    fun who amount mid mid' hmid hunlock => ?_
  rw [(unreserve_eq_ok hunlock).1]
  exact hmid

end Fusotao.Verifier
