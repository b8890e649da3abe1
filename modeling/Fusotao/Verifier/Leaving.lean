import Fusotao.Verifier.Season
import Fusotao.Verifier.Unstaking

/-!
# Leaving a dominator

A staker takes all of its stake back in one call. The call releases the stake, reserves it again until it is
unlocked, and pays the staker for the seasons that are over; each of these finds what it asks for.
-/

namespace Fusotao.Verifier

open Exec Word
open Token (alice balancesOf reservedBalance)

variable {cfg : Config} {s s' : State cfg} {staker d : AccountId} {amount : U128}

/-! ### The shares can be paid -/

/-- All shares are nothing. -/
def NoShares (shares : IterMap TokenId U128) : Prop := ∀ token share, shares.lookup token = some share → share = 0

/-- Nothing is due for a stake of nothing. -/
theorem addShares_zero (hzero : ∀ total profit, cfg.perquintillMul 0 total profit = 0) (bonus : Bonus)
    {shares : IterMap TokenId U128} (h : NoShares shares) : NoShares (addShares cfg 0 bonus shares) := by
  unfold addShares
  split
  · exact h
  refine List.foldlRecOn (motive := NoShares) _ _ h fun shares ih entry _ token share hlookup => ?_
  rw [IterMap.lookup_insert] at hlookup
  split at hlookup
  · rw [hzero] at hlookup
    obtain rfl := Option.some.inj hlookup
    split
    · rename_i old hold
      rw [ih _ old hold]
      rfl
    · rfl
  · exact ih token share hlookup

/-- A share is paid to an account that holds a reserve of the native token, and so is nothing to any account. -/
theorem payShare_ok (hunlocked : cfg.token.balances.Unlocked staker) {asset : Token.State cfg.token} {token : TokenId}
    {share : U128} (h : share ≠ 0 → reservedBalance cfg.token.nativeTokenId staker asset ≠ 0) :
    ∃ next, Token.tryMutateAccount token staker (fun b => .ok (b.1 + share, b.2)) asset = .ok next ∧
      Token.SameReserved asset next := by
  obtain ⟨next, hnext⟩ := @Token.tryMutateAccount_ok _ asset token staker hunlocked
    (fun b => .ok (b.1 + share, b.2)) _ rfl fun htoken hv => by
      obtain ⟨hfree, hreserved⟩ := Prod.mk.inj hv
      have hshare : share = 0 := by
        by_contra hne
        exact h hne (htoken ▸ hreserved)
      rw [hshare] at hfree
      replace hfree : (balancesOf token staker asset).1 = 0 := (BitVec.add_zero _).symm.trans hfree
      exact Prod.ext hfree hreserved
  refine ⟨next, hnext, Token.tryMutateAccount_sameReserved hunlocked.toLawful (fun b v hv => ?_) hnext⟩
  exact (congrArg Prod.snd (Except.ok.inj hv)).symm

/-- The shares of a stake are paid while anything is reserved of it. -/
theorem takeShares_ok (hunlocked : cfg.token.balances.Unlocked staker)
    (hzero : ∀ total profit, cfg.perquintillMul 0 total profit = 0) {dist : Distribution}
    (h : dist.staking ≠ 0 → reservedBalance cfg.token.nativeTokenId staker s.asset ≠ 0) :
    ∃ last, takeShares staker d dist s = .ok (dist.toSeason, last) := by
  unfold takeShares
  split
  · rename_i hsame
    exact ⟨s, by rw [hsame]; rfl⟩
  dsimp only
  generalize hshares : List.foldl (fun shares season =>
    addShares cfg dist.staking (bonusOf d season s) shares) ∅ _ = shares
  have hnone (hstaking : dist.staking = 0) : NoShares shares := by
    rw [hstaking] at hshares
    rw [← hshares]
    refine List.foldlRecOn (motive := NoShares) _ _ (fun token share hlookup => ?_)
      fun shares ih season _ => addShares_zero hzero _ ih
    exact absurd hlookup (by simp)
  have hpay (share : Sigma fun _ : TokenId => U128) (hshare : share ∈ shares.inOrder)
      (asset : Token.State cfg.token)
      (hasset : dist.staking ≠ 0 → reservedBalance cfg.token.nativeTokenId staker asset ≠ 0) :
      ∃ next, Token.tryMutateAccount share.1 staker (fun b => .ok (b.1 + share.2, b.2)) asset = .ok next ∧
        (dist.staking ≠ 0 → reservedBalance cfg.token.nativeTokenId staker next ≠ 0) := by
    obtain ⟨next, hnext, hsame⟩ := @payShare_ok _ staker hunlocked asset share.1 share.2 fun hne =>
      hasset fun hstaking => hne (hnone hstaking _ _ (IterMap.mem_inOrder.mp hshare))
    exact ⟨next, hnext, fun hstaking => hsame cfg.token.nativeTokenId staker ▸ hasset hstaking⟩
  obtain ⟨asset, hasset, -⟩ := foldlM_total_invariant _ hpay h
  rw [hasset]
  exact ⟨_, rfl⟩

/-! ### The stake is unlocked later -/

/-- The whole stake of a staker leaves the dominator and waits for a later block. -/
structure Leaves (d staker : AccountId) (amount : U128) (s s' : State cfg) : Prop where
  removed : s'.stakings (d, staker) = none
  lowered : ∃ dominator dominator', s.dominators.lookup d = some dominator ∧
    s'.dominators.lookup d = some dominator' ∧ dominator.staked.toNat = dominator'.staked.toNat + amount.toNat
  scheduled : ∃ block entry, s.now < block ∧ WritesPending block staker (some entry) s s' ∧
    entry.toNat = pendingAt block staker s + amount.toNat

theorem unlockAt_lt (cfg : Config) (now : BlockNumber) : unlockAt cfg now < 2 ^ 32 :=
  Nat.mod_lt _ (by decide)

/-- Where the ledgers of the stakes agree and the records are covered, the whole stake can be taken back. -/
theorem unstakeFrom_all (hunlocked : cfg.token.balances.Unlocked staker)
    (hzero : ∀ total profit, cfg.perquintillMul 0 total profit = 0) (hledger : StakeLedger d s)
    (hreleasable : Releasable s) {dominator : Dominator} {staking : Staking}
    (hd : s.dominators.lookup d = some dominator) (hstatus : dominator.status ≠ .registered)
    (hstaking : s.stakings (d, staker) = some staking) :
    ∃ s', unstakeFrom staker d staking.amount s = .ok s' := by
  have hstaked : stakedBy d s staker = staking.amount.toNat := by
    rw [stakedBy, stakingOf_of_lookup hstaking]
  have hrecord : amounts s.reserves (stakeKey cfg d staker) = staking.amount.toNat :=
    (hledger.record staker).trans hstaked
  have hcovered := hreleasable.custody.covers .staking staker cfg.token.nativeTokenId d
  -- The stake is released, and is free.
  obtain ⟨mid, hmid⟩ := unreserve_ok hrecord.ge (Token.unreserve_ok (hrecord ▸ hcovered) fun hne => absurd rfl hne)
  obtain ⟨hframe, -, hreserves, hunreserve⟩ := unreserve_eq_ok hmid
  have hmidCustody := hreleasable.custody.unreserve hunlocked.toLawful (by decide) hmid
  have hreserved := (Token.unreserve_eq_ok hunlocked.toLawful hunreserve).1
  have hfree := Token.unreserve_covers hunlocked hunreserve
  have hword := (balancesOf cfg.token.nativeTokenId staker s.asset).2.isLt
  -- What waits for the staker is on record, and leaves room for the stake.
  have hwaits : amounts mid.reserves (pendingKey cfg staker) = unstakingOf staker s := by
    rw [hreserves, Function.update_of_ne (by simp), hreleasable.recorded staker]
  have hmidCovered := hmidCustody.covers .pendingUnstake staker cfg.token.nativeTokenId cfg.systemAccount
  have hroom : unstakingOf staker s + staking.amount.toNat < 2 ^ 128 := by
    rw [hwaits] at hmidCovered
    exact (Nat.add_le_add_right hmidCovered _).trans_lt (hreserved ▸ hword)
  obtain ⟨mid', hmid'⟩ := reserve_ok (hwaits ▸ hroom)
    (Token.reserve_ok hunlocked hfree (hreserved ▸ hword))
  obtain ⟨hframe', -, hreserve⟩ := reserve_eq_ok hmid'
  have hreserved' := (Token.reserve_eq_ok hunlocked.toLawful hreserve).1
  have hnow : mid'.now = s.now := by rw [hframe', hframe]
  have hunstakings : mid'.pendingUnstakings = s.pendingUnstakings := by rw [hframe', hframe]
  have hpending : ((s.pendingUnstakings.lookup (unlockAt cfg s.now, staker)).getD 0).toNat +
      staking.amount.toNat < 2 ^ 128 :=
    (Nat.add_le_add_right (pendingAt_le (unlockAt_lt cfg s.now) staker s) _).trans_lt hroom
  -- The stake is still reserved, so the account is there to be paid.
  have hpaid (pendings : IterMap (BlockNumber × AccountId) U128) (season : Nat) : ∃ last,
      takeShares staker d ⟨staking.fromSeason, season, staking.amount⟩
        { mid' with pendingUnstakings := pendings } = .ok (season, last) := by
    refine takeShares_ok hunlocked hzero fun hne hnone => hne (BitVec.eq_of_toNat_eq ?_)
    have hnone' : (balancesOf cfg.token.nativeTokenId staker mid'.asset).2.toNat = 0 := congrArg BitVec.toNat hnone
    exact Nat.eq_zero_of_add_eq_zero_left (hreserved'.symm.trans hnone')
  have htotal : staking.amount.toNat ≤ dominator.staked.toNat := hstaked ▸ hledger.le_total hd staker
  unfold unstakeFrom
  rw [hd, okOr_some, ok_bind, ensure, if_pos hstatus, ok_bind, checkedSub, if_pos htotal, okOr_some, ok_bind,
    hstaking, okOr_some, ok_bind, checkedSub, if_pos le_rfl, okOr_some, ok_bind, ensure,
    if_pos (.inl (BitVec.sub_self _)), ok_bind, hmid, ok_bind, hmid', ok_bind]
  dsimp only
  rw [hunstakings, hnow, checkedAdd, if_pos hpending, okOr_some, ok_bind]
  obtain ⟨last, hlast⟩ := hpaid (s.pendingUnstakings.insert (unlockAt cfg s.now, staker)
    ((s.pendingUnstakings.lookup (unlockAt cfg s.now, staker)).getD 0 + staking.amount))
    (currentSeason cfg s.now dominator.startFrom)
  rw [hnow] at hlast
  rw [hlast]
  exact ⟨_, rfl⟩

/-- Taking the whole stake back writes the amount under the block it is unlocked in. -/
theorem leaves_of_unstakeFrom (hgrace : cfg.dominatorCheckGracePeriod ≤ unstakeDelayBlocks)
    (hrange : gracePeriodOf cfg s.now + unstakeDelayBlocks < 2 ^ 32) {staking : Staking}
    (hstaking : s.stakings (d, staker) = some staking)
    (h : unstakeFrom staker d staking.amount s = .ok s') : Leaves d staker staking.amount s s' := by
  obtain ⟨dominator, hd, -, staked, hstaked, staking', hstaking', remain, hremain, pending, hpending, hs', -, -⟩ :=
    unstakeFrom_effects h
  obtain rfl := Option.some.inj (hstaking.symm.trans hstaking')
  rw [checkedSub_eq_some] at hstaked hremain
  rw [checkedAdd_eq_some] at hpending
  have hnone : remain = 0 := BitVec.eq_of_toNat_eq (Nat.add_eq_right.mp hremain.symm)
  have hunlock : unlockAt cfg s.now = gracePeriodOf cfg s.now + unstakeDelayBlocks := Nat.mod_eq_of_lt hrange
  have hnew : s'.dominators.lookup d = some { dominator with
      staked := staked
      status := if dominator.status ≠ .evicted then onlineStatus cfg staked else dominator.status } := by
    rw [hs']
    exact AList.lookup_insert _
  refine ⟨?_, ⟨dominator, _, hd, hnew, hstaked⟩, unlockAt cfg s.now, pending, ?_, .insert ?_, hpending⟩
  · rw [hs', hnone]
    exact StorageMap.put_self _ _ _
  · rw [hunlock]
    exact lt_unlock hgrace s.now
  · rw [hs']

/-- In every state of a run in which the total of a dominator never leaves the range of a word, each of its stakers
can leave, as long as the block it is unlocked in is in the range of the block numbers. -/
theorem staker_can_leave (hunlocked : cfg.token.balances.Unlocked staker)
    (hzero : ∀ total profit, cfg.perquintillMul 0 total profit = 0)
    (hgrace : cfg.dominatorCheckGracePeriod ≤ unstakeDelayBlocks) {start : State cfg}
    (h : Transition.Reachable Init Step start) (hmoves : Relation.ReflTransGen Move start s)
    (hfits : StakesFit d s.history) (hrange : gracePeriodOf cfg s.now + unstakeDelayBlocks < 2 ^ 32)
    {dominator : Dominator} {staking : Staking} (hd : s.dominators.lookup d = some dominator)
    (hstatus : dominator.status ≠ .registered) (hstaking : s.stakings (d, staker) = some staking) :
    ∃ s', unstakeFrom staker d staking.amount s = .ok s' ∧ Leaves d staker staking.amount s s' := by
  obtain ⟨s₀, hinit, hrun⟩ := visited_of_reachable h
  have hvisited : Visited s := ⟨s₀, hinit, hrun.trans hmoves⟩
  obtain ⟨s', hs'⟩ := unstakeFrom_all hunlocked hzero (stakeLedger_of_visited hvisited hfits)
    (releasable_of_visited hunlocked.toExact hvisited) hd hstatus hstaking
  exact ⟨s', hs', leaves_of_unstakeFrom hgrace hrange hstaking hs'⟩

theorem staker_can_leave_operator : ∃ s : State (plainConfig []), Transition.Reachable Init Step s ∧
    ∃ s', unstakeFrom operator operator 1 s = .ok s' ∧ Leaves operator operator 1 s s' := by
  obtain ⟨s, hs, hcheck⟩ := exists_of_succeedsWith (x := play (onlineRun (plainConfig [])) (.genesis (plainAssets 100) ()))
    (p := fun s => decide ((s.dominators.lookup operator).map Dominator.status = some .active) &&
      decide ((s.stakings (operator, operator)).map Staking.amount = some 1) && decide (s.now = 1) &&
      s.history.all fun entry => !entry.overflowsStake operator) (by decide +kernel)
  simp only [Bool.and_eq_true, decide_eq_true_eq, List.all_eq_true, Bool.not_eq_true'] at hcheck
  obtain ⟨⟨⟨hstatus, hstaking⟩, hnow⟩, hfits⟩ := hcheck
  obtain ⟨dominator, hd, hactive⟩ := Option.map_eq_some_iff.mp hstatus
  obtain ⟨staking, hstaking, hamount⟩ := Option.map_eq_some_iff.mp hstaking
  have hreach := reachable_of_play hs
  have hzero (total profit : U128) : (plainConfig []).perquintillMul 0 total profit = 0 := by
    simp [plainConfig]
  refine ⟨s, hreach, hamount ▸ staker_can_leave (Balances.plain_unlocked _) hzero (by decide) hreach .refl hfits ?_
    hd (by rw [hactive]; decide) hstaking⟩
  rw [hnow]
  decide

/-- The total of the dominator wraps to `0`, and neither of its stakers can leave. -/
theorem wrapped_stake_stays : ∃ (s : State mintConfig) (dominator : Dominator) (staking : Staking),
    Transition.Reachable Init Step s ∧ s.dominators.lookup alice = some dominator ∧
    dominator.status ≠ .registered ∧ s.stakings (alice, bob) = some staking ∧
    ∀ s', unstakeFrom bob alice staking.amount s ≠ .ok s' := by
  obtain ⟨s, hs, hcheck⟩ := exists_of_succeedsWith
    (x := play wrapRun (.genesis (.genesis fun who => if who = operator then (2, 0) else (0, 0)) ()))
    (p := fun s => decide ((s.dominators.lookup alice).map Dominator.status = some .inactive) &&
      decide ((s.stakings (alice, bob)).map Staking.amount = some (2 ^ 127)) &&
      !(unstakeFrom bob alice (2 ^ 127) s).isOk) (by decide +kernel)
  simp only [Bool.and_eq_true, decide_eq_true_eq, Bool.not_eq_true'] at hcheck
  obtain ⟨⟨hstatus, hstaking⟩, hrefused⟩ := hcheck
  obtain ⟨dominator, hd, hinactive⟩ := Option.map_eq_some_iff.mp hstatus
  obtain ⟨staking, hstaking, hamount⟩ := Option.map_eq_some_iff.mp hstaking
  refine ⟨s, dominator, staking, reachable_of_play hs, hd, by rw [hinactive]; decide, hstaking, fun s' h => ?_⟩
  rw [← hamount, h] at hrefused
  exact absurd hrefused (by simp [Except.isOk, Except.toBool])

end Fusotao.Verifier
