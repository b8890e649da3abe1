import Fusotao.Verifier.Solvency
import Fusotao.Verifier.Stakes
import Fusotao.Verifier.Stash

/-!
# Stakes and statuses

The status of a dominator says whether its total reaches the threshold. If the pallet does nothing but staking,
all that is staked is reserved of the native token, so no total leaves the range of a word.
-/

namespace Fusotao.Verifier

open Exec Word
open Token (totalBalance reservedBalance)

open scoped BigOperators

variable {cfg : Config} {s s' : State cfg} {d staker : AccountId} {amount : U128}

/-! ### The status of a dominator -/

/-- The status follows the total. -/
structure StatusAgrees (d : AccountId) (s : State cfg) : Prop where
  active : ∀ dominator, s.dominators.lookup d = some dominator → dominator.status = .active →
    cfg.dominatorOnlineThreshold ≤ dominator.staked
  inactive : ∀ dominator, s.dominators.lookup d = some dominator → dominator.status = .inactive →
    dominator.staked < cfg.dominatorOnlineThreshold

/-- The dominator is written with the status its total asks for. -/
theorem statusAgrees_of_online {dominator : Dominator} (hlookup : s.dominators.lookup d = some dominator)
    (hstatus : dominator.status = onlineStatus cfg dominator.staked ∨ dominator.status = .evicted ∨
      dominator.status = .registered) : StatusAgrees d s := by
  refine ⟨fun other hother hactive => ?_, fun other hother hinactive => ?_⟩
  · obtain rfl := Option.some.inj (hlookup.symm.trans hother)
    rcases hstatus with hstatus | hstatus | hstatus
    · rw [hactive, onlineStatus] at hstatus
      split at hstatus
      · assumption
      · exact absurd hstatus (by decide)
    · exact absurd (hactive.symm.trans hstatus) (by decide)
    · exact absurd (hactive.symm.trans hstatus) (by decide)
  · obtain rfl := Option.some.inj (hlookup.symm.trans hother)
    rcases hstatus with hstatus | hstatus | hstatus
    · rw [hinactive, onlineStatus] at hstatus
      split at hstatus
      · exact absurd hstatus (by decide)
      · rename_i hless
        exact BitVec.not_le.mp hless
    · exact absurd (hinactive.symm.trans hstatus) (by decide)
    · exact absurd (hinactive.symm.trans hstatus) (by decide)

theorem StatusAgrees.of_same (hinv : StatusAgrees d s) (h : s'.dominators = s.dominators) :
    StatusAgrees d s' :=
  ⟨fun dominator hlookup => hinv.active dominator (h ▸ hlookup),
    fun dominator hlookup => hinv.inactive dominator (h ▸ hlookup)⟩

/-- There is no stake on a dominator that was not launched. -/
theorem StakeLedger.registered (hinv : StakeLedger d s) {dominator : Dominator}
    (hlookup : s.dominators.lookup d = some dominator) (hstatus : dominator.status = .registered) :
    dominator.staked = 0 ∧ ∀ u, s.stakings (d, u) = none := by
  have habsent := hinv.absent fun other hother =>
    (Option.some.inj (hlookup.symm.trans hother)) ▸ hstatus
  refine ⟨BitVec.eq_of_toNat_eq ?_, habsent⟩
  rw [hinv.total dominator hlookup]
  exact Finset.sum_eq_zero fun u _ => stakedBy_eq_zero (habsent u)

theorem StatusAgrees.move (hthreshold : cfg.dominatorOnlineThreshold ≠ 0) (hledger : StakeLedger d s)
    (hinv : StatusAgrees d s) (h : Move s s') : StatusAgrees d s' := by
  cases h.stakeMove d with
  | same h =>
      rcases h.lookup with hsame | ⟨old, new, hold, hnew, hstaked, -, hstatus⟩
      · exact ⟨fun dominator hlookup => hinv.active dominator (hsame ▸ hlookup),
          fun dominator hlookup => hinv.inactive dominator (hsame ▸ hlookup)⟩
      rcases hstatus with hstatus | hstatus | ⟨hold', hstatus⟩
      · refine ⟨fun dominator hlookup hactive => ?_, fun dominator hlookup hinactive => ?_⟩
        · obtain rfl := Option.some.inj (hnew.symm.trans hlookup)
          exact hstaked ▸ hinv.active old hold (hstatus ▸ hactive)
        · obtain rfl := Option.some.inj (hnew.symm.trans hlookup)
          exact hstaked ▸ hinv.inactive old hold (hstatus ▸ hinactive)
      · exact statusAgrees_of_online hnew (.inr (.inl hstatus))
      · -- A launch: nothing is staked yet, and the threshold is positive.
        have hzero := (hledger.registered hold hold').1
        refine statusAgrees_of_online hnew (.inl ?_)
        rw [hstatus, hstaked, hzero, onlineStatus, if_neg]
        intro hle
        exact hthreshold (BitVec.eq_of_toNat_eq (Nat.le_zero.mp hle))
  | register name h =>
      obtain ⟨-, dominator, -, -, -, hstatus, rfl⟩ := register_eq_ok h
      exact statusAgrees_of_online (AList.lookup_insert _) (.inr (.inr hstatus))
  | stake staker amount h =>
      obtain ⟨dominator, -, -, hs', -⟩ := stakeOn_effects h
      rw [hs']
      exact statusAgrees_of_online (AList.lookup_insert _) (.inl rfl)
  | unstake staker amount h =>
      obtain ⟨dominator, -, -, staked, -, staking, -, remain, -, pending, -, hs', -, -⟩ :=
        unstakeFrom_effects h
      rw [hs']
      refine statusAgrees_of_online (AList.lookup_insert _) ?_
      dsimp only
      split
      · exact .inl rfl
      · rename_i hevicted
        exact .inr (.inl (not_not.mp hevicted))
  | claim staker h =>
      obtain ⟨dominator, -, staking, -, hs'⟩ := claimShares_effects h
      exact hinv.of_same (by rw [hs'])
  | block external hs' =>
      refine hinv.of_same ?_
      rw [hs', onInitialize_frame]

/-! ### Runs of stakes -/

/-- A call that is about stakes, or the next block. -/
inductive StakingStep : State cfg → State cfg → Prop
  | register {s s' : State cfg} {d : AccountId} {name : List UInt8} (h : register d name s = .ok s') :
      StakingStep s s'
  | launch {s s' : State cfg} {d : AccountId} (h : launch d s = .ok s') : StakingStep s s'
  | evict {s s' : State cfg} {d : AccountId} (h : evict d s = .ok s') : StakingStep s s'
  | stake {s s' : State cfg} {staker d : AccountId} {amount : U128}
      (h : stakeOn staker d amount s = .ok s') : StakingStep s s'
  | unstake {s s' : State cfg} {staker d : AccountId} {amount : U128}
      (h : unstakeFrom staker d amount s = .ok s') : StakingStep s s'
  | claim {s s' : State cfg} {staker d : AccountId} (h : claimShares staker d s = .ok s') :
      StakingStep s s'
  | block (s : State cfg) (external : cfg.External) (h : s.now + 1 < 2 ^ 32) :
      StakingStep s (onInitialize (s.now + 1) { s with now := s.now + 1, external := external })

theorem StakingStep.move (h : StakingStep s s') : Move s s' := by
  cases h with
  | register h => exact .register h
  | launch h => exact .launch h
  | evict h => exact .evict h
  | stake h => exact .stake h
  | unstake h => exact .unstake h
  | claim h => exact .claim h
  | block external h => exact .block s external h

/-- At genesis the total issuance of the native token is a balance. -/
def FundedInit (s : State cfg) : Prop :=
  ∃ asset external, s = .genesis asset external ∧ totalBalance cfg.token.nativeTokenId asset < 2 ^ 128

/-- There is nothing to share. -/
def NoProfit (s : State cfg) : Prop := ∀ d season, (bonusOf d season s).profit.entries = []

theorem NoProfit.of_same (hinv : NoProfit s) (h : s'.bonuses = s.bonuses) : NoProfit s' := by
  intro d season
  rw [bonusOf, h]
  exact hinv d season

theorem takeShares_noProfit (hinv : NoProfit s) {dist : Distribution} {season : Nat}
    (h : takeShares staker d dist s = .ok (season, s')) : s'.asset = s.asset := by
  have hshares : ∀ seasons : List Nat, seasons.foldl (fun shares season =>
      addShares cfg dist.staking (bonusOf d season s) shares) ∅ = ∅ := by
    intro seasons
    induction seasons with
    | nil => rfl
    | cons season seasons ih =>
        rw [List.foldl_cons, addShares, if_pos (.inr (hinv d season))]
        exact ih
  unfold takeShares at h
  split at h
  · obtain ⟨-, rfl⟩ := Prod.mk.inj (pure_eq_ok.mp h)
    rfl
  · dsimp only at h
    rw [hshares] at h
    obtain ⟨asset, hasset, h⟩ := bind_eq_ok.mp h
    obtain ⟨-, rfl⟩ := Prod.mk.inj (pure_eq_ok.mp h)
    exact (pure_eq_ok.mp hasset).symm

theorem snapshots_noProfit (hinv : NoProfit s) (now : BlockNumber) : NoProfit (snapshots now s) := by
  refine List.foldlRecOn (motive := NoProfit) _ _ hinv fun mid hmid entry _ => ?_
  unfold snapshot
  split
  · exact hmid
  split
  · intro d season
    simp only [bonusOf, StorageMap.insert_apply]
    split
    · exact hmid _ _
    · exact hmid d season
  · exact hmid

/-- All that is staked on a dominator is reserved by somebody. -/
theorem staked_le_total (hcustody : Custody s) (d : AccountId) :
    ∑ u, amounts s.reserves (stakeKey cfg d u) ≤ totalBalance cfg.token.nativeTokenId s.asset := by
  refine Finset.sum_le_sum fun u _ => ?_
  exact (hcustody.covers .staking u cfg.token.nativeTokenId d).trans (Nat.le_add_left _ _)

/-- What is staked was reserved before, so the new total is still covered by what is issued. -/
theorem StakeLedger.fits (hlaw : cfg.token.balances.Lawful) (hcustody : Custody s)
    (hinv : StakeLedger d s) (hissued : totalBalance cfg.token.nativeTokenId s.asset < 2 ^ 128)
    (h : stakeOn staker d amount s = .ok s') {dominator : Dominator}
    (hlookup : s.dominators.lookup d = some dominator) :
    dominator.staked.toNat + amount.toNat < 2 ^ 128 := by
  obtain ⟨-, -, -, mid, hmid, -⟩ := stakeOn_eq_ok h
  obtain ⟨-, hreserves, hasset⟩ := reserve_eq_ok hmid
  have hle := staked_le_total (hcustody.reserve hlaw (by decide) hmid) d
  rw [Token.reserve_totalBalance hlaw hasset] at hle
  have hsum := sum_update_add (fun u => amounts s.reserves (stakeKey cfg d u)) staker
    (amounts s.reserves (stakeKey cfg d staker) + amount.toNat)
  have hupdate : (fun u => amounts mid.reserves (stakeKey cfg d u)) =
      Function.update (fun u => amounts s.reserves (stakeKey cfg d u)) staker
        (amounts s.reserves (stakeKey cfg d staker) + amount.toNat) := by
    funext u
    rw [hreserves, Function.update_apply, Function.update_apply]
    exact if_congr (by simp) rfl rfl
  have htotal : dominator.staked.toNat = ∑ u, amounts s.reserves (stakeKey cfg d u) := by
    rw [hinv.total dominator hlookup]
    exact Finset.sum_congr rfl fun u _ => (hinv.record u).symm
  rw [← hupdate] at hsum
  dsimp only at hsum
  omega

/-- What holds in every state of a run of stakes. -/
structure StakingInvariant (s : State cfg) : Prop where
  custody : Custody s
  profits : NoProfit s
  issued : totalBalance cfg.token.nativeTokenId s.asset < 2 ^ 128
  ledger : ∀ d, StakeLedger d s
  status : ∀ d, StatusAgrees d s

/-- A step of a run of stakes leaves nothing to share and issues nothing. -/
theorem StakingInvariant.assets (hexact : cfg.token.balances.Exact) (hinv : StakingInvariant s)
    (h : StakingStep s s') : NoProfit s' ∧ totalBalance cfg.token.nativeTokenId s'.asset =
      totalBalance cfg.token.nativeTokenId s.asset := by
  have hlaw := hexact.toLawful
  cases h with
  | register h =>
      obtain ⟨-, dominator, -, -, -, -, rfl⟩ := register_eq_ok h
      exact ⟨hinv.profits, rfl⟩
  | launch h =>
      obtain ⟨dominator, -, -, rfl⟩ := launch_eq_ok h
      exact ⟨hinv.profits, rfl⟩
  | evict h =>
      obtain ⟨dominator, -, rfl⟩ := evict_eq_ok h
      exact ⟨hinv.profits, rfl⟩
  | stake h =>
      obtain ⟨dominator, -, -, mid, hmid, last, hlast, rfl⟩ := stakeOn_eq_ok h
      obtain ⟨hframe, -, hreserve⟩ := reserve_eq_ok hmid
      have hprofits : NoProfit mid := hinv.profits.of_same (by rw [hframe])
      have hasset : last.asset = mid.asset := by
        unfold takeStakedShares at hlast
        split at hlast
        · simp only [bind_eq_ok, pure_eq_ok, Prod.exists] at hlast
          obtain ⟨season, mid', hmid', rfl⟩ := hlast
          exact takeShares_noProfit hprofits hmid'
        · rw [pure_eq_ok.mp hlast]
      refine ⟨hprofits.of_same ?_, ?_⟩
      · rw [takeStakedShares_eq_ok hlast]
      · rw [hasset]
        exact Token.reserve_totalBalance hlaw hreserve
  | @unstake _ staker _ _ h =>
      obtain ⟨dominator, -, -, staked, -, staking, -, remain, -, mid, hmid, mid', hmid', pending, -,
        season, last, hlast, rfl⟩ := unstakeFrom_eq_ok h
      obtain ⟨hframe, -, -, hunreserve⟩ := unreserve_eq_ok hmid
      obtain ⟨hframe', -, hreserve⟩ := reserve_eq_ok hmid'
      have hprofits : NoProfit mid' := hinv.profits.of_same (by rw [hframe', hframe])
      have hpending : NoProfit { mid' with
          pendingUnstakings := s.pendingUnstakings.insert (unlockAt cfg s.now, staker) pending } := hprofits
      have hasset := takeShares_noProfit hpending hlast
      refine ⟨hprofits.of_same ?_, ?_⟩
      · rw [(takeShares_eq_ok hlast).2]
      · rw [hasset]
        exact (Token.reserve_totalBalance hlaw hreserve).trans
          (Token.unreserve_totalBalance hexact hinv.issued hunreserve)
  | claim h =>
      obtain ⟨dominator, -, -, staking, -, season, last, hlast, rfl⟩ := claimShares_eq_ok h
      have hasset := takeShares_noProfit hinv.profits hlast
      refine ⟨hinv.profits.of_same ?_, ?_⟩
      · rw [(takeShares_eq_ok hlast).2]
      · rw [hasset]
  | block external h =>
      have hnext : NoProfit { s with now := s.now + 1, external := external } := hinv.profits
      refine onInitialize_invariant (fun mid => NoProfit mid ∧
        totalBalance cfg.token.nativeTokenId mid.asset = totalBalance cfg.token.nativeTokenId s.asset)
        (fun _ => ⟨snapshots_noProfit hnext _, by rw [snapshots_frame]⟩) (fun _ => ⟨hnext, rfl⟩)
        (fun mid pending hmid => ⟨hmid.1.of_same rfl, hmid.2⟩)
        fun who amount mid mid' hmid hunlock => ?_
      obtain ⟨hframe, -, -, hunreserve⟩ := unreserve_eq_ok hunlock
      refine ⟨hmid.1.of_same (by rw [hframe]), ?_⟩
      exact (Token.unreserve_totalBalance hexact (hmid.2.trans_lt hinv.issued) hunreserve).trans hmid.2

theorem StakingInvariant.step (hexact : cfg.token.balances.Exact)
    (hthreshold : cfg.dominatorOnlineThreshold ≠ 0) (hinv : StakingInvariant s) (h : StakingStep s s') :
    StakingInvariant s' := by
  have hlaw := hexact.toLawful
  obtain ⟨hprofits, hissued⟩ := hinv.assets hexact h
  refine ⟨hinv.custody.move hlaw h.move, hprofits, hissued.trans_lt hinv.issued, fun d => ?_,
    fun d => (hinv.status d).move hthreshold (hinv.ledger d) h.move⟩
  have hledger := hinv.ledger d
  cases h.move.stakeMove d with
  | same h => exact hledger.same h
  | register name h => exact hledger.register h
  | stake staker amount h =>
      exact hledger.stake h fun dominator hlookup =>
        hledger.fits hlaw hinv.custody hinv.issued h hlookup
  | unstake staker amount h => exact hledger.unstake h
  | claim staker h => exact hledger.claim h
  | block external hs' => exact hledger.block hs'

theorem stakingInvariant_of_reachable (hexact : cfg.token.balances.Exact)
    (hthreshold : cfg.dominatorOnlineThreshold ≠ 0)
    (h : Transition.Reachable FundedInit StakingStep s) : StakingInvariant s := by
  refine h.invariant StakingInvariant ?_ fun s s' hinv hstep => hinv.step hexact hthreshold hstep
  rintro s ⟨asset, external, rfl, hissued⟩
  refine ⟨custody_of_visited hexact.toLawful ⟨_, ⟨asset, external, rfl⟩, .refl⟩, fun d season => rfl, hissued,
    fun d => stakeLedger_genesis d asset external, fun d => ⟨fun dominator hlookup => ?_,
      fun dominator hlookup => ?_⟩⟩
  · exact absurd hlookup (by simp [State.genesis])
  · exact absurd hlookup (by simp [State.genesis])

/-- The ledgers of the stakes on `d` agree with each other and with its status. -/
structure StakesAgree (d : AccountId) (s : State cfg) : Prop where
  total : ∀ dominator, s.dominators.lookup d = some dominator →
    dominator.staked.toNat = ∑ u, (stakingOf d u s).amount.toNat
  record : ∀ u, reserveOf s.reserves .staking u cfg.token.nativeTokenId d = (stakingOf d u s).amount
  status : StatusAgrees d s
  registered : ∀ dominator, s.dominators.lookup d = some dominator → dominator.status = .registered →
    dominator.staked = 0 ∧ ∀ u, s.stakings (d, u) = none
  minimal : ∀ u staking, s.stakings (d, u) = some staking → cfg.minimalStakingAmount ≤ staking.amount

/-- In every run of stakes the ledgers agree, and an eviction is for ever. -/
theorem stakes_agree (hexact : cfg.token.balances.Exact) (hthreshold : cfg.dominatorOnlineThreshold ≠ 0)
    (h : Transition.Reachable FundedInit StakingStep s) (d : AccountId) :
    StakesAgree d s ∧ ∀ s', Relation.ReflTransGen StakingStep s s' → isEvicted d s → isEvicted d s' := by
  have hinv := (stakingInvariant_of_reachable hexact hthreshold h)
  have hledger := hinv.ledger d
  refine ⟨⟨hledger.total, fun u => BitVec.eq_of_toNat_eq (hledger.record u), hinv.status d,
    fun dominator hlookup hstatus => hledger.registered hlookup hstatus, hledger.minimal⟩, ?_⟩
  intro s' hrun hevicted
  induction hrun with
  | refl => exact hevicted
  | tail _ hlast ih => exact hlast.move.isEvicted ih

/-! ### A run of stakes -/

/-- Only the operator has something of the native token. -/
def operatorAssets : Token.State Token.plainConfig :=
  .genesis fun who => if who = operator then (100, 0) else (0, 0)

def operatorGenesis : State (plainConfig []) := .genesis operatorAssets ()

theorem fundedInit_operator : FundedInit operatorGenesis := by
  refine ⟨operatorAssets, (), rfl, ?_⟩
  have hbalance : ∀ who, (Token.balancesOf 0 who operatorAssets).1.toNat +
      (Token.balancesOf 0 who operatorAssets).2.toNat = if who = operator then 100 else 0 := by
    intro who
    rw [show Token.balancesOf 0 who operatorAssets = operatorAssets.native who from
      Token.balancesOf_native who operatorAssets]
    dsimp only [operatorAssets, Token.State.genesis]
    split <;> rfl
  have htotal : totalBalance 0 operatorAssets = 100 := by
    refine (Finset.sum_congr rfl fun who _ => hbalance who).trans ?_
    rw [Finset.sum_ite_eq' Finset.univ operator, if_pos (Finset.mem_univ _)]
  exact htotal.trans_lt (by decide)

/-- The first block after genesis. -/
def openedState : State (plainConfig []) :=
  onInitialize (operatorGenesis.now + 1) { operatorGenesis with now := operatorGenesis.now + 1, external := () }

theorem reachable_openedState : Transition.Reachable FundedInit StakingStep openedState :=
  ⟨operatorGenesis, fundedInit_operator, .single (.block operatorGenesis () (show 0 + 1 < 2 ^ 32 by decide))⟩

theorem stakes_agree_operator : ∃ s : State (plainConfig []),
    Transition.Reachable FundedInit StakingStep s ∧ StakesAgree operator s := by
  obtain ⟨s, hs⟩ := exists_of_isOk (x := do
    let registered ← register operator [100, 101, 120] openedState
    let launched ← launch operator registered
    stakeOn operator operator 1 launched) (by decide +kernel)
  obtain ⟨registered, hregister, hs⟩ := bind_eq_ok.mp hs
  obtain ⟨launched, hlaunch, hstake⟩ := bind_eq_ok.mp hs
  obtain ⟨s₀, hinit, hrun⟩ := reachable_openedState
  have hreach : Transition.Reachable FundedInit StakingStep s :=
    ⟨s₀, hinit, ((hrun.tail (.register hregister)).tail (.launch hlaunch)).tail (.stake hstake)⟩
  exact ⟨s, hreach, (stakes_agree Balances.plain_exact (by decide) hreach operator).1⟩

end Fusotao.Verifier
