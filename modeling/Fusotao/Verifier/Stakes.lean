import Fusotao.Verifier.Moves
import Fusotao.Verifier.Plain

/-!
# Stakes

The stakes of the stakers, the total of their dominator and the reserves they are backed by are three
ledgers. A move concerns the stakes on one dominator in one of six ways, and the ledgers agree after each of
them as long as no total leaves the range of a word.
-/

namespace Fusotao.Verifier

open Exec Word

open scoped BigOperators

variable {cfg : Config} {s s' : State cfg} {d staker : AccountId} {amount : U128}

/-! ### How a move concerns a dominator -/

/-- The record of the stake of a staker. -/
abbrev stakeKey (cfg : Config) (d staker : AccountId) : ReserveKey :=
  ((.staking, staker, cfg.token.nativeTokenId), d)

/-- Who was paid for which season, and for which stake. -/
def settlements {Callback : Type} (d : AccountId) (history : List (Entry Callback)) :
    List (AccountId × Nat × U128) :=
  history.filterMap fun entry =>
    match entry with
    | .settled staker d' season staking => if d' = d then some (staker, season, staking) else none
    | _ => none

@[simp] theorem settlements_append {Callback : Type} (d : AccountId) (l l' : List (Entry Callback)) :
    settlements d (l ++ l') = settlements d l ++ settlements d l' := List.filterMap_append

theorem settlements_settledEntries (staker d : AccountId) (dist : Distribution) :
    settlements d (@settledEntries cfg staker d dist) =
      (List.range' dist.fromSeason (dist.toSeason - dist.fromSeason)).map fun season =>
        (staker, season, dist.staking) := by
  simp [settlements, settledEntries, List.filterMap_map]

theorem settlements_settledEntries_of_ne {d' : AccountId} (hd : d' ≠ d) (staker : AccountId)
    (dist : Distribution) : settlements d (@settledEntries cfg staker d' dist) = [] := by
  simp [settlements, settledEntries, List.filterMap_map, hd]

theorem settlements_stakedEntries_of_ne {d' : AccountId} (hd : d' ≠ d) (staker : AccountId)
    (dist : Distribution) : settlements d (@stakedEntries cfg staker d' dist) = [] := by
  unfold stakedEntries
  split
  · exact settlements_settledEntries_of_ne hd staker dist
  · rfl

/-- How a status may change when no stake does. -/
def StatusMoved (old new : DominatorStatus) : Prop :=
  new = old ∨ new = .evicted ∨ (old = .registered ∧ new = .inactive)

/-- The stakes on a dominator are as before, its root and its status may not be. -/
def LookupMoved (old new : Option Dominator) : Prop :=
  new = old ∨ ∃ dominator dominator', old = some dominator ∧ new = some dominator' ∧
    dominator'.staked = dominator.staked ∧ dominator'.startFrom = dominator.startFrom ∧
    StatusMoved dominator.status dominator'.status

/-- Nothing about the stakes on `d` changes. -/
structure SameStakes (d : AccountId) (s s' : State cfg) : Prop where
  now : s'.now = s.now
  lookup : LookupMoved (s.dominators.lookup d) (s'.dominators.lookup d)
  stakings : ∀ u, s'.stakings (d, u) = s.stakings (d, u)
  record : ∀ u, amounts s'.reserves (stakeKey cfg d u) = amounts s.reserves (stakeKey cfg d u)
  bonus : ∀ season, (bonusOf d season s').staked = (bonusOf d season s).staked
  settlements : settlements d s'.history = settlements d s.history

theorem LookupMoved.insert {m m' : IterMap AccountId Dominator} {d' : AccountId}
    {dominator dominator' : Dominator} (hm' : m' = m.insert d' dominator')
    (hlookup : m.lookup d' = some dominator) (hstaked : dominator'.staked = dominator.staked)
    (hstart : dominator'.startFrom = dominator.startFrom)
    (hstatus : StatusMoved dominator.status dominator'.status) (d : AccountId) :
    LookupMoved (m.lookup d) (m'.lookup d) := by
  rw [hm', IterMap.lookup_insert]
  split
  · rename_i hd
    exact .inr ⟨dominator, dominator', hd ▸ hlookup, rfl, hstaked, hstart, hstatus⟩
  · exact .inl rfl

theorem LookupMoved.insert_of_ne {m m' : IterMap AccountId Dominator} {d' : AccountId}
    {dominator' : Dominator} (hm' : m' = m.insert d' dominator') (hd : d ≠ d') :
    LookupMoved (m.lookup d) (m'.lookup d) :=
  .inl (by rw [hm', AList.lookup_insert_ne hd])

/-- Another record is written. -/
theorem record_update {kind : ReserveId} {who other : AccountId} {token : TokenId} {v : Nat}
    (hne : kind ≠ .staking ∨ other ≠ d) {r r' : Reserves}
    (h : amounts r' = Function.update (amounts r) ((kind, who, token), other) v) (u : AccountId) :
    amounts r' (stakeKey cfg d u) = amounts r (stakeKey cfg d u) := by
  rw [h, Function.update_of_ne]
  rintro heq
  obtain ⟨hleft, rfl⟩ := Prod.mk.inj heq
  obtain ⟨rfl, -⟩ := Prod.mk.inj hleft
  simp at hne

theorem putProfit_staked (d' : AccountId) (season' : Season) (token : TokenId) (fee : U128)
    (s : State cfg) (d : AccountId) (season : Nat) :
    (bonusOf d season (putProfit d' season' token fee s)).staked = (bonusOf d season s).staked := by
  unfold putProfit
  split
  · rfl
  · simp only [bonusOf, StorageMap.insert_apply]
    split
    · rename_i heq
      obtain ⟨rfl, rfl⟩ := Prod.mk.inj heq
      rfl
    · rfl

/-- The effects of a proof leave the stakes alone. -/
theorem Applied.sameStakes {d' : AccountId} {proof : ProofV2} (h : Applied d' proof s s') (d : AccountId) :
    SameStakes d s s' := by
  have hframe := h.frame
  refine ⟨by rw [hframe], .inl (by rw [hframe]), fun u => by rw [hframe], ?_, ?_, by rw [hframe]⟩
  · intro u
    exact h.records (.inl (by simp)) (.inl (by simp))
  · intro season'
    cases h with
    | limit side price amount makerFee takerFee base quote broker beneficiary season trade hcmd h =>
        refine applyLimit_invariant
          (fun mid => (bonusOf d season' mid).staked = (bonusOf d season' s).staked)
          (fun who token balance mid mid' hmid hclear => ?_) (fun mid external hmid => hmid)
          (fun fee mid hmid => (putProfit_staked _ _ _ _ _ _ _).trans hmid)
          (fun fee mid mid' hmid hfee => ?_) rfl h
        · rw [clear_frame hclear]
          exact hmid
        · rw [payBaseFee_frame hfee]
          exact hmid
    | cancel base quote unfilled external hcmd h hs' => rw [hs']; rfl
    | transferOut currency amount callback hcmd h =>
        obtain ⟨r, -, -, -, mid, hmid, rfl⟩ := applyTransferOut_eq_ok h
        rw [(unreserve_eq_ok hmid).1]
        rfl
    | transferIn currency amount hcmd h =>
        obtain ⟨-, -, hframe, -⟩ := applyTransferIn_eq_ok h
        rw [hframe]
        rfl

/-- How a move concerns the stakes on `d`. -/
inductive StakeMove (d : AccountId) (s s' : State cfg) : Prop
  | same (h : SameStakes d s s')
  | register (name : List UInt8) (h : register d name s = .ok s')
  | stake (staker : AccountId) (amount : U128) (h : stakeOn staker d amount s = .ok s')
  | unstake (staker : AccountId) (amount : U128) (h : unstakeFrom staker d amount s = .ok s')
  | claim (staker : AccountId) (h : claimShares staker d s = .ok s')
  | block (external : cfg.External)
      (hs' : s' = onInitialize (s.now + 1) { s with now := s.now + 1, external := external })

theorem Move.stakeMove (h : Move s s') (d : AccountId) : StakeMove d s s' := by
  cases h with
  | @register _ d' name h =>
      by_cases hd : d = d'
      · subst hd
        exact .register name h
      · obtain ⟨-, dominator, -, -, -, -, rfl⟩ := register_eq_ok h
        exact .same ⟨rfl, .insert_of_ne rfl hd, fun _ => rfl, fun _ => rfl, fun _ => rfl, rfl⟩
  | evict h =>
      obtain ⟨dominator, hlookup, rfl⟩ := evict_eq_ok h
      refine .same ⟨rfl, .insert rfl hlookup ?_ ?_ ?_ d, fun _ => rfl, fun _ => rfl, fun _ => rfl, rfl⟩
      · rfl
      · rfl
      · exact .inr (.inl rfl)
  | launch h =>
      obtain ⟨dominator, hlookup, hstatus, rfl⟩ := launch_eq_ok h
      refine .same ⟨rfl, .insert rfl hlookup ?_ ?_ ?_ d, fun _ => rfl, fun _ => rfl, fun _ => rfl, rfl⟩
      · rfl
      · rfl
      · exact .inr (.inr ⟨hstatus, rfl⟩)
  | outside | assets => exact .same ⟨rfl, .inl rfl, fun _ => rfl, fun _ => rfl, fun _ => rfl, rfl⟩
  | authorize h =>
      have hrecord (u : AccountId) : amounts s'.reserves (stakeKey cfg d u) =
          amounts s.reserves (stakeKey cfg d u) := authorizeTo_records h (by simp [stakeKey])
      rw [authorizeTo_frame h]
      exact .same ⟨rfl, .inl rfl, fun _ => rfl, hrecord, fun _ => rfl, rfl⟩
  | revoke h =>
      have hrecord (u : AccountId) : amounts s'.reserves (stakeKey cfg d u) =
          amounts s.reserves (stakeKey cfg d u) :=
        revokeFrom_records h (by simp [stakeKey]) (by simp [stakeKey])
      rw [revokeFrom_frame h]
      exact .same ⟨rfl, .inl rfl, fun _ => rfl, hrecord, fun _ => rfl, rfl⟩
  | @stake _ staker d' amount h =>
      by_cases hd : d = d'
      · subst hd
        exact .stake staker amount h
      · obtain ⟨dominator, -, -, hs', hreserves⟩ := stakeOn_effects h
        have hrecord := @record_update cfg d _ _ _ _ _ (.inr (Ne.symm hd)) _ _ hreserves
        rw [hs']
        refine .same ⟨rfl, .insert_of_ne rfl hd, fun u => ?_, hrecord, fun _ => rfl, ?_⟩
        · exact StorageMap.insert_of_ne _ _ (by simp [hd])
        · simp only [settlements_append, settlements_stakedEntries_of_ne (Ne.symm hd), List.append_nil]
          exact List.append_nil _
  | @unstake _ staker d' amount h =>
      by_cases hd : d = d'
      · subst hd
        exact .unstake staker amount h
      · obtain ⟨dominator, -, -, staked, -, staking, -, remain, -, pending, -, hs', -, hreserves⟩ :=
          unstakeFrom_effects h
        have hrecord : ∀ u, amounts s'.reserves (stakeKey cfg d u) =
            amounts s.reserves (stakeKey cfg d u) := by
          intro u
          rw [hreserves, Function.update_of_ne (by simp), Function.update_of_ne (by simp [hd])]
        rw [hs']
        refine .same ⟨rfl, .insert_of_ne rfl hd, fun u => ?_, hrecord, fun _ => rfl, ?_⟩
        · exact StorageMap.put_of_ne _ _ (by simp [hd])
        · simp only [settlements_append, settlements_settledEntries_of_ne (Ne.symm hd), List.append_nil]
          exact List.append_nil _
  | @claim _ staker d' h =>
      by_cases hd : d = d'
      · subst hd
        exact .claim staker h
      · obtain ⟨dominator, -, staking, -, hs'⟩ := claimShares_effects h
        rw [hs']
        refine .same ⟨rfl, .inl rfl, fun u => ?_, fun _ => rfl, fun _ => rfl, ?_⟩
        · exact StorageMap.insert_of_ne _ _ (by simp [hd])
        · simp only [settlements_append, settlements_settledEntries_of_ne (Ne.symm hd), List.append_nil]
  | apply hlookup hopenings hbonuses h =>
      obtain ⟨hnow, hdominators, hstakings, hrecord, hbonus, hsettlements⟩ := h.sameStakes d
      refine .same ⟨hnow, hdominators, hstakings, hrecord, hbonus, ?_⟩
      rw [recordApplied, settlements_append, hsettlements]
      exact List.append_nil _
  | reject =>
      refine .same ⟨rfl, .inl rfl, fun _ => rfl, fun _ => rfl, fun _ => rfl, ?_⟩
      rw [dropReceipt, settlements_append]
      exact List.append_nil _
  | store hpending h =>
      obtain ⟨dominator, hlookup, rfl⟩ := storeRoot_eq_ok h
      refine .same ⟨rfl, .insert rfl hlookup ?_ ?_ ?_ d, fun _ => rfl, fun _ => rfl, fun _ => rfl, rfl⟩
      · rfl
      · rfl
      · exact .inl rfl
  | block external h => exact .block external rfl

/-! ### The three ledgers -/

/-- What a staker has staked, as a natural. -/
def stakedBy (d : AccountId) (s : State cfg) (staker : AccountId) : Nat :=
  (stakingOf d staker s).amount.toNat

/-- The ledgers of the stakes on `d` agree, there are stakes only once it was launched, and none is below the
minimum. -/
structure StakeLedger (d : AccountId) (s : State cfg) : Prop where
  total : ∀ dominator, s.dominators.lookup d = some dominator →
    dominator.staked.toNat = ∑ u, stakedBy d s u
  absent : (∀ dominator, s.dominators.lookup d = some dominator → dominator.status = .registered) →
    ∀ u, s.stakings (d, u) = none
  record : ∀ u, amounts s.reserves (stakeKey cfg d u) = stakedBy d s u
  minimal : ∀ u staking, s.stakings (d, u) = some staking →
    cfg.minimalStakingAmount.toNat ≤ staking.amount.toNat

theorem stakingOf_of_lookup {staking : Staking} (h : s.stakings (d, staker) = some staking) :
    stakingOf d staker s = staking := by
  rw [stakingOf, h, Option.getD_some]

theorem stakedBy_eq_zero (h : s.stakings (d, staker) = none) : stakedBy d s staker = 0 := by
  rw [stakedBy, stakingOf, h]
  rfl

theorem stakedBy_congr (h : ∀ u, s'.stakings (d, u) = s.stakings (d, u)) :
    stakedBy d s' = stakedBy d s := by
  funext u
  rw [stakedBy, stakedBy, stakingOf, stakingOf, h]

/-- Writing the entry of one staker. -/
theorem stakedBy_update {entry : Option Staking}
    (h : s'.stakings = s.stakings.put (d, staker) entry) :
    stakedBy d s' = Function.update (stakedBy d s) staker (entry.getD default).amount.toNat := by
  funext u
  rw [stakedBy, stakingOf, h, StorageMap.put_apply, Function.update_apply]
  by_cases hu : u = staker
  · rw [if_pos hu, if_pos (by rw [hu])]
  · rw [if_neg hu, if_neg (by simp [hu])]
    rfl

/-- No stake is more than the total of its dominator. -/
theorem StakeLedger.le_total (hinv : StakeLedger d s) {dominator : Dominator}
    (hlookup : s.dominators.lookup d = some dominator) (u : AccountId) :
    stakedBy d s u ≤ dominator.staked.toNat := by
  rw [hinv.total dominator hlookup]
  exact le_sum_univ (stakedBy d s) u

theorem StakeLedger.same (hinv : StakeLedger d s) (h : SameStakes d s s') : StakeLedger d s' := by
  have hstaked := stakedBy_congr h.stakings
  refine ⟨fun dominator hlookup => ?_, fun hregistered u => ?_, fun u => ?_, fun u staking hstaking => ?_⟩
  · rw [hstaked]
    rcases h.lookup with hsame | ⟨old, new, hold, hnew, hstaked, -, -⟩
    · exact hinv.total dominator (hsame ▸ hlookup)
    · obtain rfl := Option.some.inj (hnew.symm.trans hlookup)
      rw [hstaked]
      exact hinv.total old hold
  · rw [h.stakings]
    refine hinv.absent (fun dominator hlookup => ?_) u
    rcases h.lookup with hsame | ⟨old, new, hold, hnew, -, -, hstatus⟩
    · exact hregistered dominator (hsame.trans hlookup)
    · obtain rfl := Option.some.inj (hold.symm.trans hlookup)
      have hnew := hregistered new hnew
      rcases hstatus with hstatus | hstatus | ⟨hstatus, -⟩
      · exact hstatus ▸ hnew
      · exact absurd (hstatus.symm.trans hnew) (by decide)
      · exact hstatus
  · rw [h.record, hstaked]
    exact hinv.record u
  · exact hinv.minimal u staking (h.stakings u ▸ hstaking)

theorem StakeLedger.register (hinv : StakeLedger d s) {name : List UInt8}
    (h : register d name s = .ok s') : StakeLedger d s' := by
  obtain ⟨hnone, dominator, hstaked, -, -, hstatus, rfl⟩ := register_eq_ok h
  have habsent := hinv.absent fun dominator hlookup => absurd (hnone.symm.trans hlookup) (by simp)
  refine ⟨fun dominator' hlookup => ?_, fun _ => habsent, hinv.record, hinv.minimal⟩
  obtain rfl := Option.some.inj ((AList.lookup_insert _).symm.trans hlookup)
  rw [hstaked]
  exact (Finset.sum_eq_zero fun u _ => stakedBy_eq_zero (habsent u)).symm

/-- The staker, the total and the record all grow by the amount. -/
theorem StakeLedger.stake (hinv : StakeLedger d s) (h : stakeOn staker d amount s = .ok s')
    (hfits : ∀ dominator, s.dominators.lookup d = some dominator →
      dominator.staked.toNat + amount.toNat < 2 ^ 128) : StakeLedger d s' := by
  have hamount : cfg.minimalStakingAmount ≤ amount := stakeOn_minimal h
  obtain ⟨dominator, hlookup, hstatus, hs', hreserves⟩ := stakeOn_effects h
  have hfits := hfits dominator hlookup
  have hle := hinv.le_total hlookup staker
  have hsum : ((stakingOf d staker s).amount + amount).toNat = stakedBy d s staker + amount.toNat :=
    toNat_add_of_lt (by rw [stakedBy] at hle; omega)
  have hstakings : s'.stakings = s.stakings.put (d, staker)
      (some ⟨currentSeason cfg s.now dominator.startFrom, (stakingOf d staker s).amount + amount⟩) := by
    rw [hs']
    rfl
  have hstaked := stakedBy_update hstakings
  rw [Option.getD_some, hsum] at hstaked
  have hnew : s'.dominators.lookup d = some { dominator with
      staked := dominator.staked + amount, status := onlineStatus cfg (dominator.staked + amount) } := by
    rw [hs']
    exact AList.lookup_insert _
  refine ⟨fun dominator' hlookup' => ?_, fun hregistered => ?_, fun u => ?_, fun u staking hstaking => ?_⟩
  · obtain rfl := Option.some.inj (hnew.symm.trans hlookup')
    have htotal := hinv.total dominator hlookup
    have hupdate := sum_update_add (stakedBy d s) staker (stakedBy d s staker + amount.toNat)
    simp only [hstaked, toNat_add_of_lt hfits]
    omega
  · have hstatus := hregistered _ hnew
    simp only [onlineStatus] at hstatus
    split at hstatus <;> exact absurd hstatus (by decide)
  · rw [hreserves, hstaked, Function.update_apply, Function.update_apply, hinv.record, hinv.record]
    refine if_congr ?_ rfl rfl
    simp
  · rw [hstakings, StorageMap.put_apply] at hstaking
    split at hstaking
    · obtain rfl := Option.some.inj hstaking
      have hmin : cfg.minimalStakingAmount.toNat ≤ amount.toNat := hamount
      simp only [hsum]
      omega
    · exact hinv.minimal u staking hstaking

/-- The staker, the total and the record all shrink by the amount. -/
theorem StakeLedger.unstake (hinv : StakeLedger d s) (h : unstakeFrom staker d amount s = .ok s') :
    StakeLedger d s' := by
  obtain ⟨dominator, hlookup, hstatus, staked, hstaked, staking, hstaking, remain, hremain, pending, -, hs',
    -, hreserves⟩ := unstakeFrom_effects h
  rw [checkedSub_eq_some] at hstaked hremain
  have hold : stakedBy d s staker = staking.amount.toNat := by
    rw [stakedBy, stakingOf_of_lookup hstaking]
  have hstakings : s'.stakings = s.stakings.put (d, staker)
      (if remain ≠ 0 then some ⟨currentSeason cfg s.now dominator.startFrom, remain⟩ else none) := by
    rw [hs']
  have hnewStaked := stakedBy_update hstakings
  have hleft : ((if remain ≠ 0 then some (⟨currentSeason cfg s.now dominator.startFrom, remain⟩ : Staking)
      else none).getD default).amount.toNat = remain.toNat := by
    split
    · rfl
    · rename_i hzero
      rw [not_not.mp hzero]
      rfl
  rw [hleft] at hnewStaked
  have hnew : s'.dominators.lookup d = some { dominator with
      staked := staked
      status := if dominator.status ≠ .evicted then onlineStatus cfg staked else dominator.status } := by
    rw [hs']
    exact AList.lookup_insert _
  refine ⟨fun dominator' hlookup' => ?_, fun hregistered => ?_, fun u => ?_, fun u staking' hstaking' => ?_⟩
  · obtain rfl := Option.some.inj (hnew.symm.trans hlookup')
    have htotal := hinv.total dominator hlookup
    have hupdate := sum_update_add (stakedBy d s) staker remain.toNat
    simp only [hnewStaked]
    omega
  · have hstatus' := hregistered _ hnew
    simp only [onlineStatus] at hstatus'
    split at hstatus'
    · split at hstatus' <;> exact absurd hstatus' (by decide)
    · exact absurd hstatus' hstatus
  · rw [hreserves, Function.update_of_ne (by simp), hnewStaked, Function.update_apply,
      Function.update_apply, hinv.record, hinv.record, hold]
    refine if_congr (by simp) ?_ rfl
    omega
  · rw [hstakings, StorageMap.put_apply] at hstaking'
    split at hstaking'
    · split at hstaking'
      · rename_i hne
        obtain rfl := Option.some.inj hstaking'
        exact (unstakeFrom_minimal h hstaking hremain).resolve_left hne
      · exact absurd hstaking' (by simp)
    · exact hinv.minimal u staking' hstaking'

/-- The stakes are as before, and so are the total and the records. -/
theorem StakeLedger.of_same (hinv : StakeLedger d s) (hdominators : s'.dominators = s.dominators)
    (habsent : ∀ u, s'.stakings (d, u) = none ↔ s.stakings (d, u) = none)
    (hstaked : stakedBy d s' = stakedBy d s)
    (hrecord : ∀ u, amounts s'.reserves (stakeKey cfg d u) = amounts s.reserves (stakeKey cfg d u))
    (hminimal : ∀ u staking, s'.stakings (d, u) = some staking →
      ∃ old, s.stakings (d, u) = some old ∧ old.amount = staking.amount) : StakeLedger d s' := by
  refine ⟨fun dominator hlookup => ?_, fun hregistered u => (habsent u).mpr ?_, fun u => ?_,
    fun u staking hstaking => ?_⟩
  · rw [hstaked]
    exact hinv.total dominator (hdominators ▸ hlookup)
  · exact hinv.absent (fun dominator hlookup => hregistered dominator (hdominators ▸ hlookup)) u
  · rw [hrecord, hstaked]
    exact hinv.record u
  · obtain ⟨old, hold, hamount⟩ := hminimal u staking hstaking
    rw [← hamount]
    exact hinv.minimal u old hold

theorem StakeLedger.claim (hinv : StakeLedger d s) (h : claimShares staker d s = .ok s') :
    StakeLedger d s' := by
  obtain ⟨dominator, -, staking, hstaking, hs'⟩ := claimShares_effects h
  have hstakings : s'.stakings = s.stakings.put (d, staker)
      (some { staking with fromSeason := currentSeason cfg s.now dominator.startFrom }) := by
    rw [hs']
    rfl
  refine hinv.of_same (by rw [hs']) (fun u => ?_) ?_ (fun u => by rw [hs']) fun u staking' h => ?_
  · rw [hstakings, StorageMap.put_apply]
    split
    · rename_i heq
      rw [heq, hstaking]
      simp
    · rfl
  · rw [stakedBy_update hstakings]
    refine Function.update_eq_self_iff.mpr ?_
    rw [stakedBy, stakingOf_of_lookup hstaking]
    rfl
  · rw [hstakings, StorageMap.put_apply] at h
    split at h
    · rename_i heq
      obtain rfl := Option.some.inj h
      exact ⟨staking, by rw [heq, hstaking], rfl⟩
    · exact ⟨staking', h, rfl⟩

theorem onInitialize_record (now : BlockNumber) (s : State cfg) (d u : AccountId) :
    amounts (onInitialize now s).reserves (stakeKey cfg d u) =
      amounts s.reserves (stakeKey cfg d u) := by
  refine onInitialize_invariant (fun mid => amounts mid.reserves (stakeKey cfg d u) =
    amounts s.reserves (stakeKey cfg d u)) (fun _ => by rw [snapshots_frame]) (fun _ => rfl)
    (fun mid pendingUnstakings hmid => hmid) fun who amount mid mid' hmid hunlock => ?_
  obtain ⟨-, -, hreserves, -⟩ := unreserve_eq_ok hunlock
  exact (record_update (.inl (by decide)) hreserves u).trans hmid

theorem StakeLedger.block (hinv : StakeLedger d s) {external : cfg.External}
    (hs' : s' = onInitialize (s.now + 1) { s with now := s.now + 1, external := external }) :
    StakeLedger d s' := by
  have hframe := onInitialize_frame (s.now + 1) { s with now := s.now + 1, external := external }
  rw [← hs'] at hframe
  refine hinv.of_same (by rw [hframe]) (fun u => by rw [hframe]) ?_ (fun u => ?_) fun u staking h => ?_
  · exact stakedBy_congr fun u => by rw [hframe]
  · rw [hs', onInitialize_record]
  · exact ⟨staking, by rwa [hframe] at h, rfl⟩

/-! ### Runs -/

/-- A stake takes the total of `d` out of the range of a word. -/
def Entry.overflowsStake {Callback : Type} (d : AccountId) : Entry Callback → Bool
  | .staked d' before amount => d' = d ∧ 2 ^ 128 ≤ before.toNat + amount.toNat
  | _ => false

def StakesFit {Callback : Type} (d : AccountId) (history : List (Entry Callback)) : Prop :=
  ∀ entry ∈ history, entry.overflowsStake d = false

theorem StakesFit.of_prefix {Callback : Type} {l l' : List (Entry Callback)} (h : StakesFit d l')
    (hpart : l <+: l') : StakesFit d l :=
  fun entry hmem => h entry (hpart.subset hmem)

/-- The stake that was written down last fits. -/
theorem StakesFit.last (hfits : StakesFit d s'.history) (h : stakeOn staker d amount s = .ok s')
    {dominator : Dominator} (hlookup : s.dominators.lookup d = some dominator) :
    dominator.staked.toNat + amount.toNat < 2 ^ 128 := by
  obtain ⟨dominator', hlookup', -, hs', -⟩ := stakeOn_effects h
  obtain rfl := Option.some.inj (hlookup.symm.trans hlookup')
  rw [hs'] at hfits
  have hentry := hfits _ (List.mem_append_right _ (List.mem_singleton_self _))
  simpa [Entry.overflowsStake] using hentry

theorem StakeLedger.move (hinv : StakeLedger d s) (h : Move s s') (hfits : StakesFit d s'.history) :
    StakeLedger d s' := by
  cases h.stakeMove d with
  | same h => exact hinv.same h
  | register name h => exact hinv.register h
  | stake staker amount h => exact hinv.stake h fun dominator hlookup => hfits.last h hlookup
  | unstake staker amount h => exact hinv.unstake h
  | claim staker h => exact hinv.claim h
  | block external hs' => exact hinv.block hs'

theorem stakeLedger_genesis (d : AccountId) (asset : Token.State cfg.token) (external : cfg.External) :
    StakeLedger d (.genesis asset external) where
  total dominator hlookup := absurd hlookup (by simp [State.genesis])
  absent _ _ := rfl
  record _ := rfl
  minimal u staking hstaking := absurd hstaking (by simp [State.genesis])

theorem stakeLedger_of_visited (h : Visited s) (hfits : StakesFit d s.history) : StakeLedger d s := by
  refine h.invariant (fun s => StakesFit d s.history → StakeLedger d s) ?_ ?_ hfits
  · rintro s ⟨asset, external, rfl⟩ -
    exact stakeLedger_genesis d asset external
  · intro s s' ih hmove hfits
    exact (ih (hfits.of_prefix hmove.history)).move hmove hfits

end Fusotao.Verifier
