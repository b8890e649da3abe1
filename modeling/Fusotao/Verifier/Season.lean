import Fusotao.Verifier.Conservation
import Fusotao.Verifier.Stakes

/-!
# Seasons

A stake takes part in every season that ends while it is there, and its owner is paid for the seasons since
the last payment whenever the stake changes. The first block of a season writes down the total of the season
before it. For a season that is over, the stakes that were paid for it and the stakes that still will be add
up to that total.
-/

namespace Fusotao.Verifier

open Exec Word
open Token (alice)

open scoped BigOperators

variable {cfg : Config} {s s' : State cfg} {d staker : AccountId} {amount : U128} {season : Nat}

/-! ### What is written down of a season -/

/-- The season before `now` is over with this block. -/
def seasonEnds (cfg : Config) (now startFrom : BlockNumber) : Prop :=
  now ≠ startFrom ∧ (now - startFrom) % cfg.seasonDuration = 0

instance (now startFrom : BlockNumber) : Decidable (seasonEnds cfg now startFrom) :=
  inferInstanceAs (Decidable (_ ∧ _))

theorem snapshot_staked (now : BlockNumber) (d' : AccountId) (dominator : Dominator) (s : State cfg) :
    (bonusOf d season (snapshot now d' dominator s)).staked =
      if d' = d ∧ seasonEnds cfg now dominator.startFrom ∧
          season = (now - dominator.startFrom) / cfg.seasonDuration - 1
        then dominator.staked else (bonusOf d season s).staked := by
  unfold snapshot seasonEnds
  by_cases hstart : now = dominator.startFrom
  · simp [hstart]
  by_cases hend : (now - dominator.startFrom) % cfg.seasonDuration = 0
  · simp only [if_neg hstart, if_pos hend, bonusOf, StorageMap.insert_apply, Prod.mk.injEq]
    by_cases hkey : d = d' ∧ season = (now - dominator.startFrom) / cfg.seasonDuration - 1
    · rw [if_pos hkey, if_pos ⟨hkey.1.symm, ⟨hstart, hend⟩, hkey.2⟩, Option.getD_some]
    · rw [if_neg hkey, if_neg fun h => hkey ⟨h.1.symm, h.2.2⟩]
  · simp [hstart, hend]

/-- The snapshot of a dominator is its total, whichever order the dominators are visited in. -/
theorem snapshots_staked (now : BlockNumber) (s : State cfg) (d : AccountId) (season : Nat) :
    (bonusOf d season (snapshots now s)).staked =
      match s.dominators.lookup d with
      | some dominator =>
          if seasonEnds cfg now dominator.startFrom ∧
              season = (now - dominator.startFrom) / cfg.seasonDuration - 1
            then dominator.staked else (bonusOf d season s).staked
      | none => (bonusOf d season s).staked := by
  have hloop : ∀ (l : List (Sigma fun _ : AccountId => Dominator)) (s : State cfg) (v : U128),
      (∀ entry ∈ l, entry.1 = d → seasonEnds cfg now entry.2.startFrom →
        season = (now - entry.2.startFrom) / cfg.seasonDuration - 1 → entry.2.staked = v) →
      (bonusOf d season (l.foldl (fun s entry => snapshot now entry.1 entry.2 s) s)).staked =
        if ∃ entry ∈ l, entry.1 = d ∧ seasonEnds cfg now entry.2.startFrom ∧
            season = (now - entry.2.startFrom) / cfg.seasonDuration - 1
          then v else (bonusOf d season s).staked := by
    intro l
    induction l with
    | nil =>
        intro s v _
        simp
    | cons entry l ih =>
        intro s v hv
        rw [List.foldl_cons, ih _ v fun e he => hv e (List.mem_cons_of_mem _ he), snapshot_staked]
        by_cases hhead : entry.1 = d ∧ seasonEnds cfg now entry.2.startFrom ∧
            season = (now - entry.2.startFrom) / cfg.seasonDuration - 1
        · rw [if_pos hhead, hv entry List.mem_cons_self hhead.1 hhead.2.1 hhead.2.2, ite_self,
            if_pos ⟨entry, List.mem_cons_self, hhead⟩]
        · rw [if_neg hhead]
          refine if_congr ?_ rfl rfl
          rw [List.exists_mem_cons_iff]
          exact (or_iff_right hhead).symm
  unfold snapshots
  cases hlookup : s.dominators.lookup d with
  | none =>
      rw [hloop _ s 0 fun entry hentry hd => ?_, if_neg]
      · rintro ⟨entry, hentry, rfl, -⟩
        exact absurd (hlookup.symm.trans (IterMap.mem_entries.mp hentry)) (by simp)
      · subst hd
        exact absurd (hlookup.symm.trans (IterMap.mem_entries.mp hentry)) (by simp)
  | some dominator =>
      have hsame : ∀ entry ∈ s.dominators.entries, entry.1 = d → entry.2 = dominator := by
        rintro entry hentry rfl
        exact Option.some.inj ((IterMap.mem_entries.mp hentry).symm.trans hlookup)
      rw [hloop _ s dominator.staked fun entry hentry hd _ _ => by rw [hsame entry hentry hd]]
      refine if_congr ?_ rfl rfl
      constructor
      · rintro ⟨entry, hentry, hd, hend⟩
        rwa [hsame entry hentry hd] at hend
      · intro hend
        exact ⟨⟨d, dominator⟩, IterMap.mem_entries.mpr hlookup, rfl, hend⟩

/-! ### The stakes of a season -/

/-- What was paid for a season: the stakes it was paid for. -/
def paidIn (season : Nat) (l : List (AccountId × Nat × U128)) : Nat :=
  ((l.filter fun x => x.2.1 = season).map fun x => x.2.2.toNat).sum

/-- The stakes that still will be paid for a season. -/
def entitled (d : AccountId) (season : Nat) (s : State cfg) (staker : AccountId) : Nat :=
  if (stakingOf d staker s).fromSeason ≤ season then stakedBy d s staker else 0

/-- All stakes that take part in a season. -/
def allotted (d : AccountId) (season : Nat) (s : State cfg) : Nat :=
  paidIn season (settlements d s.history) + ∑ u, entitled d season s u

theorem paidIn_append (season : Nat) (l l' : List (AccountId × Nat × U128)) :
    paidIn season (l ++ l') = paidIn season l + paidIn season l' := by
  simp [paidIn]

/-- One payment covers each of its seasons once. -/
theorem paidIn_range (season : Nat) (staker : AccountId) (first n : Nat) (staking : U128) :
    paidIn season ((List.range' first n).map fun k => (staker, k, staking)) =
      if first ≤ season ∧ season < first + n then staking.toNat else 0 := by
  induction n generalizing first with
  | zero =>
      rw [if_neg (by omega)]
      rfl
  | succ n ih =>
      rw [List.range'_succ, List.map_cons, ← List.singleton_append, paidIn_append, ih]
      by_cases hfirst : first = season
      · subst hfirst
        simp [paidIn]
      · have hsingle : paidIn season [(staker, first, staking)] = 0 := by
          simp [paidIn, hfirst]
        rw [hsingle, Nat.zero_add]
        refine if_congr ?_ rfl rfl
        omega

/-! ### What the moves keep -/

/-- Who is paid for which season, when a staking is settled up to the season `now`. -/
def payments (staker : AccountId) (staking : Staking) (now : Nat) : List (AccountId × Nat × U128) :=
  (List.range' staking.fromSeason (now - staking.fromSeason)).map fun season =>
    (staker, season, staking.amount)

theorem mem_payments {staking : Staking} {now : Nat} {x : AccountId × Nat × U128} :
    x ∈ payments staker staking now ↔
      x.1 = staker ∧ staking.fromSeason ≤ x.2.1 ∧ x.2.1 < now ∧ x.2.2 = staking.amount := by
  obtain ⟨u, season, paid⟩ := x
  simp only [payments, List.mem_map, List.mem_range'_1, Prod.mk.injEq]
  constructor
  · rintro ⟨k, ⟨hle, hlt⟩, rfl, rfl, rfl⟩
    exact ⟨rfl, hle, by omega, rfl⟩
  · rintro ⟨rfl, hle, hlt, rfl⟩
    exact ⟨season, ⟨hle, by omega⟩, rfl, rfl, rfl⟩

/-- The seasons of a dominator: when they began, who was paid for them, and what is written down of them. -/
structure SeasonLedger (d : AccountId) (s : State cfg) : Prop where
  start : ∀ dominator, s.dominators.lookup d = some dominator → dominator.startFrom ≤ s.now ∧
    cfg.dominatorCheckGracePeriod ∣ dominator.startFrom
  fresh : ∀ dominator, s.dominators.lookup d = some dominator → ∀ u,
    (stakingOf d u s).fromSeason ≤ currentSeason cfg s.now dominator.startFrom
  unpaid : s.dominators.lookup d = none → settlements d s.history = []
  ended : ∀ dominator, s.dominators.lookup d = some dominator → ∀ x ∈ settlements d s.history,
    x.2.1 < currentSeason cfg s.now dominator.startFrom
  before : ∀ x ∈ settlements d s.history, ∀ staking, s.stakings (d, x.1) = some staking →
    x.2.1 < staking.fromSeason
  once : ((settlements d s.history).map fun x => (x.1, x.2.1)).Nodup
  exact : ∀ dominator, s.dominators.lookup d = some dominator → ∀ season,
    season < currentSeason cfg s.now dominator.startFrom →
      allotted d season s = (bonusOf d season s).staked.toNat

theorem entitled_congr (h : s'.stakings (d, staker) = s.stakings (d, staker)) (season : Nat) :
    entitled d season s' staker = entitled d season s staker := by
  have hstaking : stakingOf d staker s' = stakingOf d staker s := by rw [stakingOf, stakingOf, h]
  rw [entitled, entitled, stakedBy, stakedBy, hstaking]

theorem SeasonLedger.same (hinv : SeasonLedger d s) (h : SameStakes d s s') : SeasonLedger d s' := by
  have hlookup : ∀ dominator', s'.dominators.lookup d = some dominator' →
      ∃ dominator, s.dominators.lookup d = some dominator ∧
        dominator'.startFrom = dominator.startFrom := by
    intro dominator' hlookup
    rcases h.lookup with hsame | ⟨old, new, hold, hnew, -, hstart, -⟩
    · exact ⟨dominator', hsame ▸ hlookup, rfl⟩
    · obtain rfl := Option.some.inj (hnew.symm.trans hlookup)
      exact ⟨old, hold, hstart⟩
  refine ⟨fun dominator' h' => ?_, fun dominator' h' u => ?_, fun hnone => ?_, fun dominator' h' => ?_,
    fun x hx staking hstaking => ?_, h.settlements.symm ▸ hinv.once, fun dominator' h' season hseason => ?_⟩
  · obtain ⟨dominator, hdominator, hstart⟩ := hlookup dominator' h'
    rw [hstart, h.now]
    exact hinv.start dominator hdominator
  · obtain ⟨dominator, hdominator, hstart⟩ := hlookup dominator' h'
    rw [hstart, h.now, stakingOf, h.stakings]
    exact hinv.fresh dominator hdominator u
  · rw [h.settlements]
    refine hinv.unpaid ?_
    rcases h.lookup with hsame | ⟨old, new, -, hnew, -, -, -⟩
    · exact hsame ▸ hnone
    · exact absurd (hnew.symm.trans hnone) (by simp)
  · obtain ⟨dominator, hdominator, hstart⟩ := hlookup dominator' h'
    rw [hstart, h.now, h.settlements]
    exact hinv.ended dominator hdominator
  · rw [h.settlements] at hx
    exact hinv.before x hx staking (h.stakings x.1 ▸ hstaking)
  · obtain ⟨dominator, hdominator, hstart⟩ := hlookup dominator' h'
    rw [hstart, h.now] at hseason
    rw [allotted, h.settlements, h.bonus, Finset.sum_congr rfl fun u _ => entitled_congr (h.stakings u) season]
    exact hinv.exact dominator hdominator season hseason

/-- `paid` is what a staker is paid when the stake is settled up to the season `now`. -/
def PaidUp (d staker : AccountId) (now : Nat) (s : State cfg) (paid : List (AccountId × Nat × U128)) : Prop :=
  (paid = [] ∧ stakedBy d s staker = 0) ∨
    ∃ staking, s.stakings (d, staker) = some staking ∧ paid = payments staker staking now

section PaidUp

variable {now : Nat} {paid : List (AccountId × Nat × U128)}

theorem PaidUp.mem (h : PaidUp d staker now s paid) {x : AccountId × Nat × U128} (hx : x ∈ paid) :
    ∃ staking, s.stakings (d, staker) = some staking ∧ x.1 = staker ∧ staking.fromSeason ≤ x.2.1 ∧
      x.2.1 < now := by
  rcases h with ⟨rfl, -⟩ | ⟨staking, hstaking, rfl⟩
  · exact absurd hx List.not_mem_nil
  · obtain ⟨hstaker, hle, hlt, -⟩ := mem_payments.mp hx
    exact ⟨staking, hstaking, hstaker, hle, hlt⟩

/-- Nobody is paid twice for a season. -/
theorem PaidUp.nodup (h : PaidUp d staker now s paid) : (paid.map fun x => (x.1, x.2.1)).Nodup := by
  rcases h with ⟨rfl, -⟩ | ⟨staking, -, rfl⟩
  · exact List.nodup_nil
  · have hseasons : (List.range' staking.fromSeason (now - staking.fromSeason)).Nodup := List.nodup_range'
    rw [payments, List.map_map]
    exact hseasons.map fun k k' hk => congrArg Prod.snd hk

/-- What is paid for a season is what the staker was entitled to. -/
theorem PaidUp.paidIn_eq (h : PaidUp d staker now s paid) (hseason : season < now) :
    paidIn season paid = entitled d season s staker := by
  rcases h with ⟨rfl, hzero⟩ | ⟨staking, hstaking, rfl⟩
  · rw [entitled, hzero, ite_self]
    rfl
  · rw [payments, paidIn_range, entitled, stakedBy, stakingOf_of_lookup hstaking]
    refine if_congr ?_ rfl rfl
    omega

/-- A staker whose stake starts after a season is not entitled to it any more. -/
theorem entitled_put {entry : Option Staking}
    (hstakings : s'.stakings = s.stakings.put (d, staker) entry)
    (hentry : ∀ staking, entry = some staking → season < staking.fromSeason) :
    entitled d season s' = Function.update (entitled d season s) staker 0 := by
  funext u
  by_cases hu : u = staker
  · subst hu
    have hself : s'.stakings (d, u) = entry := by rw [hstakings, StorageMap.put_self]
    rw [Function.update_self, entitled]
    cases hcase : entry with
    | none => rw [stakedBy_eq_zero (hself.trans hcase), ite_self]
    | some staking =>
        rw [stakingOf_of_lookup (hself.trans hcase), if_neg (Nat.not_le_of_lt (hentry staking hcase))]
  · have hother : s'.stakings (d, u) = s.stakings (d, u) := by
      rw [hstakings, StorageMap.put_of_ne _ _ (by simp [hu])]
    rw [Function.update_of_ne hu, entitled_congr hother]

end PaidUp

/-- A staker is paid up to now, and what is left of the stake starts now. -/
theorem SeasonLedger.pay (hinv : SeasonLedger d s) (paid : List (AccountId × Nat × U128))
    {dominator dominator' : Dominator}
    (hlookup : s.dominators.lookup d = some dominator)
    (hlookup' : s'.dominators.lookup d = some dominator') (hstart : dominator'.startFrom = dominator.startFrom)
    (hnow : s'.now = s.now) {entry : Option Staking}
    (hstakings : s'.stakings = s.stakings.put (d, staker) entry)
    (hentry : ∀ staking, entry = some staking →
      staking.fromSeason = currentSeason cfg s.now dominator.startFrom)
    (hbonus : ∀ season, (bonusOf d season s').staked = (bonusOf d season s).staked)
    (hhistory : settlements d s'.history = settlements d s.history ++ paid)
    (hpaid : PaidUp d staker (currentSeason cfg s.now dominator.startFrom) s paid) :
    SeasonLedger d s' := by
  have hother : ∀ u, u ≠ staker → s'.stakings (d, u) = s.stakings (d, u) := by
    intro u hu
    rw [hstakings, StorageMap.put_of_ne _ _ (by simp [hu])]
  have hself : s'.stakings (d, staker) = entry := by
    rw [hstakings, StorageMap.put_self]
  have hended : ∀ x ∈ settlements d s'.history, x.2.1 < currentSeason cfg s.now dominator.startFrom := by
    intro x hx
    rw [hhistory] at hx
    rcases List.mem_append.mp hx with hx | hx
    · exact hinv.ended dominator hlookup x hx
    · obtain ⟨-, -, -, -, hlt⟩ := hpaid.mem hx
      exact hlt
  refine ⟨fun new hnew => ?_, fun new hnew u => ?_, fun hnone => ?_, fun new hnew => ?_,
    fun x hx staking hstaking => ?_, ?_, fun new hnew season hseason => ?_⟩
  · obtain rfl := Option.some.inj (hlookup'.symm.trans hnew)
    rw [hstart, hnow]
    exact hinv.start dominator hlookup
  · obtain rfl := Option.some.inj (hlookup'.symm.trans hnew)
    rw [hstart, hnow]
    by_cases hu : u = staker
    · subst hu
      rw [stakingOf, hself]
      cases entry with
      | none => exact Nat.zero_le _
      | some staking => exact (hentry staking rfl).le
    · rw [stakingOf, hother u hu]
      exact hinv.fresh dominator hlookup u
  · exact absurd (hlookup'.symm.trans hnone) (by simp)
  · obtain rfl := Option.some.inj (hlookup'.symm.trans hnew)
    rw [hstart, hnow]
    exact hended
  · by_cases hu : x.1 = staker
    · rw [hu, hself] at hstaking
      rw [hentry staking hstaking]
      exact hended x hx
    · rw [hhistory] at hx
      rcases List.mem_append.mp hx with hx | hx
      · exact hinv.before x hx staking (hother x.1 hu ▸ hstaking)
      · obtain ⟨-, -, hstaker, -⟩ := hpaid.mem hx
        exact absurd hstaker hu
  · -- The seasons paid now come after those paid before.
    rw [hhistory, List.map_append, List.nodup_append']
    refine ⟨hinv.once, hpaid.nodup, fun y hy hy' => ?_⟩
    obtain ⟨x, hx, rfl⟩ := List.mem_map.mp hy
    obtain ⟨x', hx', heq⟩ := List.mem_map.mp hy'
    obtain ⟨hu, hseason⟩ := Prod.mk.inj heq
    obtain ⟨staking, hstaking, hstaker, hle, -⟩ := hpaid.mem hx'
    have hlt := hinv.before x hx staking (by rw [← hu, hstaker, hstaking])
    omega
  · obtain rfl := Option.some.inj (hlookup'.symm.trans hnew)
    rw [hstart, hnow] at hseason
    have hentitled := entitled_put hstakings fun staking hstaking => hseason.trans_eq (hentry staking hstaking).symm
    have hsum := sum_update_add (entitled d season s) staker 0
    rw [hbonus, ← hinv.exact dominator hlookup season hseason, allotted, allotted, hhistory, paidIn_append,
      hentitled, hpaid.paidIn_eq hseason]
    omega

theorem SeasonLedger.stake (hinv : SeasonLedger d s) (h : stakeOn staker d amount s = .ok s') :
    SeasonLedger d s' := by
  obtain ⟨dominator, hlookup, -, hs', -⟩ := stakeOn_effects h
  have hstaked : stakedBy d s staker = (stakingOf d staker s).amount.toNat := rfl
  rw [hs']
  refine hinv.pay (settlements d (@stakedEntries cfg staker d
    (distributionOf cfg (stakingOf d staker s) s.now dominator.startFrom))) hlookup (AList.lookup_insert _)
    rfl rfl rfl (fun staking hstaking => ?_) (fun _ => rfl) ?_ ?_
  · rw [← Option.some.inj hstaking]
  · simp only [settlements_append]
    exact List.append_nil _
  · unfold stakedEntries
    split
    · rename_i hne
      refine .inr ⟨stakingOf d staker s, ?_, settlements_settledEntries _ _ _⟩
      cases hstaking : s.stakings (d, staker) with
      | none =>
          refine absurd ?_ hne
          rw [distributionOf, stakingOf, hstaking]
          rfl
      | some staking => rw [stakingOf_of_lookup hstaking]
    · rename_i hzero
      refine .inl ⟨rfl, ?_⟩
      rw [hstaked, show (stakingOf d staker s).amount = 0 from not_not.mp hzero]
      rfl

theorem SeasonLedger.unstake (hinv : SeasonLedger d s) (h : unstakeFrom staker d amount s = .ok s') :
    SeasonLedger d s' := by
  obtain ⟨dominator, hlookup, -, staked, -, staking, hstaking, remain, -, pending, -, hs', -, -⟩ :=
    unstakeFrom_effects h
  rw [hs']
  refine hinv.pay (settlements d (@settledEntries cfg staker d
    (distributionOf cfg staking s.now dominator.startFrom))) hlookup (AList.lookup_insert _) rfl rfl rfl
    (fun staking' hstaking' => ?_) (fun _ => rfl) ?_ (.inr ⟨staking, hstaking, ?_⟩)
  · split at hstaking'
    · rw [← Option.some.inj hstaking']
    · exact absurd hstaking' (by simp)
  · simp only [settlements_append]
    exact List.append_nil _
  · exact settlements_settledEntries _ _ _

theorem SeasonLedger.claim (hinv : SeasonLedger d s) (h : claimShares staker d s = .ok s') :
    SeasonLedger d s' := by
  obtain ⟨dominator, hlookup, staking, hstaking, hs'⟩ := claimShares_effects h
  rw [hs']
  refine hinv.pay (settlements d (@settledEntries cfg staker d
    (distributionOf cfg staking s.now dominator.startFrom))) hlookup hlookup rfl rfl rfl
    (fun staking' hstaking' => ?_) (fun _ => rfl) ?_ (.inr ⟨staking, hstaking, ?_⟩)
  · rw [← Option.some.inj hstaking']
  · exact settlements_append d _ _
  · exact settlements_settledEntries _ _ _

/-! ### The first block of a season -/

theorem currentSeason_eq {now start : Nat} (h : start ≤ now) :
    currentSeason cfg now start = (now - start) / cfg.seasonDuration := by
  unfold currentSeason
  split
  · rw [show now - start = 0 by omega, Nat.zero_div]
  · rfl

/-- A season goes on until the block that begins the next one. -/
theorem currentSeason_succ {now start : Nat} (h : start ≤ now) :
    currentSeason cfg (now + 1) start =
      currentSeason cfg now start + if seasonEnds cfg (now + 1) start then 1 else 0 := by
  rw [currentSeason_eq h, currentSeason_eq (by omega), Nat.succ_sub h, Nat.succ_div]
  congr 1
  refine if_congr ?_ rfl rfl
  rw [Nat.dvd_iff_mod_eq_zero, seasonEnds, Nat.succ_sub h]
  exact (and_iff_right (Nat.lt_succ_of_le h).ne').symm

/-- A dominator that has just registered is in its first season. -/
theorem currentSeason_first (hdvd : cfg.dominatorCheckGracePeriod ∣ cfg.seasonDuration) (now : Nat) :
    currentSeason cfg now (now - now % cfg.dominatorCheckGracePeriod) = 0 := by
  have hle := Nat.le_of_dvd cfg.seasonDuration_pos hdvd
  have hlt := Nat.mod_lt now cfg.dominatorCheckGracePeriod_pos
  rw [currentSeason_eq (Nat.sub_le _ _)]
  refine Nat.div_eq_of_lt ?_
  have := Nat.mod_le now cfg.dominatorCheckGracePeriod
  omega

theorem SeasonLedger.register (hdvd : cfg.dominatorCheckGracePeriod ∣ cfg.seasonDuration)
    (hinv : SeasonLedger d s) (hstakes : StakeLedger d s) {name : List UInt8}
    (h : register d name s = .ok s') : SeasonLedger d s' := by
  obtain ⟨hnone, dominator, -, hstart, -, -, rfl⟩ := register_eq_ok h
  have habsent := hstakes.absent fun dominator hlookup => absurd (hnone.symm.trans hlookup) (by simp)
  have hunpaid := hinv.unpaid hnone
  have hnew : (s.dominators.insert d dominator).lookup d = some dominator := AList.lookup_insert _
  refine ⟨fun new hlookup => ?_, fun new hlookup u => ?_, fun h => ?_, fun new hlookup => ?_, hinv.before,
    hinv.once, fun new hlookup season hseason => ?_⟩
  · obtain rfl := Option.some.inj (hnew.symm.trans hlookup)
    rw [hstart]
    exact ⟨Nat.sub_le _ _, Nat.dvd_sub_mod s.now⟩
  · rw [stakingOf, habsent]
    exact Nat.zero_le _
  · exact absurd (hnew.symm.trans h) (by simp)
  · rw [hunpaid]
    simp
  · obtain rfl := Option.some.inj (hnew.symm.trans hlookup)
    rw [hstart, currentSeason_first hdvd] at hseason
    exact absurd hseason (Nat.not_lt_zero season)

/-- Before a season is over nobody was paid for it, and everybody who has a stake will be. -/
theorem SeasonLedger.allotted_current (hinv : SeasonLedger d s) {dominator : Dominator}
    (hlookup : s.dominators.lookup d = some dominator) :
    allotted d (currentSeason cfg s.now dominator.startFrom) s = ∑ u, stakedBy d s u := by
  have hpaid : paidIn (currentSeason cfg s.now dominator.startFrom) (settlements d s.history) = 0 := by
    have hnone : (settlements d s.history).filter
        (fun x => x.2.1 = currentSeason cfg s.now dominator.startFrom) = [] := by
      rw [List.filter_eq_nil_iff]
      intro x hx heq
      exact (hinv.ended dominator hlookup x hx).ne (of_decide_eq_true heq)
    rw [paidIn, hnone]
    rfl
  rw [allotted, hpaid, Nat.zero_add]
  refine Finset.sum_congr rfl fun u _ => ?_
  exact if_pos (hinv.fresh dominator hlookup u)

/-- The season that ends with a block gets the total of its dominator, and no other season changes. -/
theorem SeasonLedger.bonus_block (hdvd : cfg.dominatorCheckGracePeriod ∣ cfg.seasonDuration)
    (hinv : SeasonLedger d s) {dominator : Dominator} (hlookup : s.dominators.lookup d = some dominator)
    {external : cfg.External}
    (hs' : s' = onInitialize (s.now + 1) { s with now := s.now + 1, external := external }) (season : Nat) :
    (bonusOf d season s').staked = if seasonEnds cfg (s.now + 1) dominator.startFrom ∧
      season = currentSeason cfg s.now dominator.startFrom
      then dominator.staked else (bonusOf d season s).staked := by
  have hbonuses := onInitialize_bonuses (s.now + 1) { s with now := s.now + 1, external := external }
  rw [← hs'] at hbonuses
  obtain ⟨hle, hgrace⟩ := hinv.start dominator hlookup
  have hlast : seasonEnds cfg (s.now + 1) dominator.startFrom →
      (s.now + 1 - dominator.startFrom) / cfg.seasonDuration - 1 =
        currentSeason cfg s.now dominator.startFrom := by
    intro hends
    have hsucc := @currentSeason_succ cfg _ _ hle
    rw [if_pos hends, currentSeason_eq (Nat.le_succ_of_le hle)] at hsucc
    rw [hsucc, Nat.add_sub_cancel]
  by_cases hdue : (s.now + 1) % cfg.dominatorCheckGracePeriod = 0
  · rw [if_pos hdue] at hbonuses
    have hsnapshots := snapshots_staked (s.now + 1) { s with now := s.now + 1, external := external } d season
    simp only [hlookup] at hsnapshots
    rw [bonusOf, hbonuses]
    refine hsnapshots.trans (if_congr ?_ rfl rfl)
    refine and_congr_right fun hends => ?_
    rw [hlast hends]
  · -- A season ends on a block at which the dominators are checked.
    rw [if_neg hdue] at hbonuses
    rw [bonusOf, hbonuses, if_neg]
    · rfl
    · rintro ⟨⟨-, hmod⟩, -⟩
      refine hdue (Nat.mod_eq_zero_of_dvd ?_)
      have hsub := hdvd.trans (Nat.dvd_of_mod_eq_zero hmod)
      exact (Nat.dvd_sub_iff_left (Nat.le_succ_of_le hle) hgrace).mp hsub

/-- The season that ends with a block gets the total of the stakes, and no other season changes. -/
theorem SeasonLedger.block (hdvd : cfg.dominatorCheckGracePeriod ∣ cfg.seasonDuration)
    (hinv : SeasonLedger d s) (hstakes : StakeLedger d s) {external : cfg.External}
    (hs' : s' = onInitialize (s.now + 1) { s with now := s.now + 1, external := external }) :
    SeasonLedger d s' := by
  have hframe := onInitialize_frame (s.now + 1) { s with now := s.now + 1, external := external }
  have hbonuses := onInitialize_bonuses (s.now + 1) { s with now := s.now + 1, external := external }
  rw [← hs'] at hframe hbonuses
  have hnow : s'.now = s.now + 1 := by rw [hframe]
  have hdominators : s'.dominators = s.dominators := by rw [hframe]
  have hstakings : s'.stakings = s.stakings := by rw [hframe]
  have hhistory : s'.history = s.history := by rw [hframe]
  have hgrow : ∀ dominator, s.dominators.lookup d = some dominator →
      currentSeason cfg s.now dominator.startFrom ≤ currentSeason cfg (s.now + 1) dominator.startFrom := by
    intro dominator hlookup
    rw [currentSeason_succ (hinv.start dominator hlookup).1]
    exact Nat.le_add_right _ _
  refine ⟨fun dominator hlookup => ?_, fun dominator hlookup u => ?_, fun hnone => ?_,
    fun dominator hlookup x hx => ?_, fun x hx => ?_, hhistory ▸ hinv.once,
    fun dominator hlookup season hseason => ?_⟩
  · obtain ⟨hle, hgrace⟩ := hinv.start dominator (hdominators ▸ hlookup)
    exact ⟨hle.trans (hnow ▸ Nat.le_succ _), hgrace⟩
  · rw [hdominators] at hlookup
    rw [stakingOf, hstakings, hnow]
    exact (hinv.fresh dominator hlookup u).trans (hgrow dominator hlookup)
  · rw [hhistory]
    exact hinv.unpaid (hdominators ▸ hnone)
  · rw [hdominators] at hlookup
    rw [hnow]
    exact (hinv.ended dominator hlookup x (hhistory ▸ hx)).trans_le (hgrow dominator hlookup)
  · rw [hstakings]
    exact hinv.before x (hhistory ▸ hx)
  · rw [hdominators] at hlookup
    rw [hnow, currentSeason_succ (hinv.start dominator hlookup).1] at hseason
    have hallotted : allotted d season s' = allotted d season s := by
      rw [allotted, allotted, hhistory]
      exact congrArg _ (Finset.sum_congr rfl fun u _ => entitled_congr (by rw [hstakings]) season)
    -- What this block writes down.
    have hbonus : (bonusOf d season s').staked = if seasonEnds cfg (s.now + 1) dominator.startFrom ∧
        season = currentSeason cfg s.now dominator.startFrom
        then dominator.staked else (bonusOf d season s).staked :=
      hinv.bonus_block hdvd hlookup hs' season
    rw [hallotted, hbonus]
    split
    · rename_i hlast
      obtain ⟨-, rfl⟩ := hlast
      rw [hstakes.total dominator hlookup]
      exact hinv.allotted_current hlookup
    · rename_i hother
      refine hinv.exact dominator hlookup season ?_
      by_cases hends : seasonEnds cfg (s.now + 1) dominator.startFrom
      · rw [if_pos hends] at hseason
        have hne : season ≠ currentSeason cfg s.now dominator.startFrom := fun h => hother ⟨hends, h⟩
        omega
      · rwa [if_neg hends, Nat.add_zero] at hseason

/-! ### Runs -/

theorem SeasonLedger.move (hdvd : cfg.dominatorCheckGracePeriod ∣ cfg.seasonDuration)
    (hinv : SeasonLedger d s) (hstakes : StakeLedger d s) (h : Move s s') : SeasonLedger d s' := by
  cases h.stakeMove d with
  | same h => exact hinv.same h
  | register name h => exact hinv.register hdvd hstakes h
  | stake staker amount h => exact hinv.stake h
  | unstake staker amount h => exact hinv.unstake h
  | claim staker h => exact hinv.claim h
  | block external hs' => exact hinv.block hdvd hstakes hs'

theorem seasonLedger_genesis (d : AccountId) (asset : Token.State cfg.token) (external : cfg.External) :
    SeasonLedger d (.genesis asset external) where
  start dominator hlookup := absurd hlookup (by simp [State.genesis])
  fresh dominator hlookup := absurd hlookup (by simp [State.genesis])
  unpaid _ := rfl
  ended dominator hlookup := absurd hlookup (by simp [State.genesis])
  before x hx := absurd hx (by simp [State.genesis, settlements])
  once := List.nodup_nil
  exact dominator hlookup := absurd hlookup (by simp [State.genesis])

theorem seasonLedger_of_visited (hdvd : cfg.dominatorCheckGracePeriod ∣ cfg.seasonDuration)
    (h : Visited s) (hfits : StakesFit d s.history) : SeasonLedger d s := by
  have hinv := h.invariant
    (fun s => StakesFit d s.history → StakeLedger d s ∧ SeasonLedger d s) ?_ ?_
  · exact (hinv hfits).2
  · rintro s ⟨asset, external, rfl⟩ -
    exact ⟨stakeLedger_genesis d asset external, seasonLedger_genesis d asset external⟩
  · intro s s' ih hmove hfits
    obtain ⟨hstakes, hseasons⟩ := ih (hfits.of_prefix hmove.history)
    exact ⟨hstakes.move hmove hfits, hseasons.move hdvd hstakes hmove⟩

/-- The profits of a season are shared once, and not more of them than there are. -/
structure SharedOnce (d : AccountId) (season : Nat) (s : State cfg) : Prop where
  /-- No staker is paid twice for the season. -/
  once : ((settlements d s.history).filter fun x => x.2.1 = season).map Prod.fst |>.Nodup
  /-- Nobody who was paid for it still will be. -/
  apart : ∀ x ∈ settlements d s.history, x.2.1 = season → entitled d season s x.1 = 0
  /-- The stakes it was and will be paid for add up to what is written down of it. -/
  exact : allotted d season s = (bonusOf d season s).staked.toNat

/-- No share of a season is larger than the season. -/
theorem SharedOnce.share_le (h : SharedOnce d season s) :
    (∀ x ∈ settlements d s.history, x.2.1 = season → x.2.2.toNat ≤ (bonusOf d season s).staked.toNat) ∧
      ∀ u, entitled d season s u ≤ (bonusOf d season s).staked.toNat := by
  rw [← h.exact, allotted]
  constructor
  · intro x hx hseason
    have hmem : x.2.2.toNat ∈ ((settlements d s.history).filter fun x => x.2.1 = season).map
        fun x => x.2.2.toNat := List.mem_map.mpr ⟨x, List.mem_filter.mpr ⟨hx, decide_eq_true hseason⟩, rfl⟩
    exact (List.le_sum_of_mem hmem).trans (Nat.le_add_right _ _)
  · intro u
    exact (le_sum_univ (entitled d season s) u).trans (Nat.le_add_left _ _)

theorem settlements_once {l : List (AccountId × Nat × U128)}
    (h : (l.map fun x => (x.1, x.2.1)).Nodup) (season : Nat) :
    ((l.filter fun x => x.2.1 = season).map Prod.fst).Nodup := by
  refine List.Nodup.of_map (fun u => (u, season)) ?_
  rw [List.map_map]
  have hpairs : (l.filter fun x => x.2.1 = season).map ((fun u => (u, season)) ∘ Prod.fst) =
      (l.filter fun x => x.2.1 = season).map fun x => (x.1, x.2.1) := by
    refine List.map_congr_left fun x hx => ?_
    rw [Function.comp_apply, of_decide_eq_true (List.mem_filter.mp hx).2]
  rw [hpairs]
  exact h.sublist ((List.filter_sublist).map _)

/-- Where every stake leaves the total of its dominator in the range of a word, the profits of a season that is
over are shared once. -/
theorem profits_shared_once (hdvd : cfg.dominatorCheckGracePeriod ∣ cfg.seasonDuration)
    (h : Transition.Reachable Init Step s) (hfits : StakesFit d s.history) {dominator : Dominator}
    (hlookup : s.dominators.lookup d = some dominator)
    (hseason : season < currentSeason cfg s.now dominator.startFrom) : SharedOnce d season s := by
  have hinv := seasonLedger_of_visited hdvd (visited_of_reachable h) hfits
  refine ⟨settlements_once hinv.once season, fun x hx hpaid => ?_, hinv.exact dominator hlookup season hseason⟩
  cases hstaking : s.stakings (d, x.1) with
  | none => rw [entitled, stakedBy_eq_zero hstaking, ite_self]
  | some staking =>
      have hlt := hinv.before x hx staking hstaking
      rw [entitled, stakingOf_of_lookup hstaking, if_neg (by omega)]

/-- The operator has staked, and the first season is over. -/
def seasonRun : List (Action (plainConfig [])) := onlineRun _ ++ [.block]

theorem profits_shared_once_season : ∃ s : State (plainConfig []), Transition.Reachable Init Step s ∧
    SharedOnce operator 0 s := by
  obtain ⟨s, hs, hcheck⟩ := exists_of_succeedsWith
    (x := play seasonRun (.genesis (plainAssets 100) ()))
    (p := fun s => decide ((s.dominators.lookup operator).map Dominator.startFrom = some 1) &&
      decide (s.now = 2) && s.history.all fun entry => !entry.overflowsStake operator) (by decide +kernel)
  simp only [Bool.and_eq_true, decide_eq_true_eq, List.all_eq_true, Bool.not_eq_true'] at hcheck
  obtain ⟨⟨hstart, hnow⟩, hfits⟩ := hcheck
  obtain ⟨dominator, hd, hstart⟩ := Option.map_eq_some_iff.mp hstart
  have hreach := reachable_of_play hs
  refine ⟨s, hreach, profits_shared_once (by decide) hreach hfits hd ?_⟩
  rw [hnow, hstart]
  decide

/-! ### A total that wraps

The operator brings in an order that mints `2 ^ 127` of the native token for each of two accounts, and is
evicted. They take the amounts back and stake them with the next dominator, whose total is then `0`. -/

def wrapRun : List (Action mintConfig) := onlineRun _ ++ [
  .call 1 (.create Token.unitToken) .root, .call 1 (.markStable 1) .root,
  .call 1 (.verifyV2 [mintProof]) (.signed operator), .call 1 (.evict operator) .root,
  .call 1 (.revoke operator 0 (2 ^ 127)) (.signed bob),
  .call 1 (.revoke operator 0 (2 ^ 127)) (.signed carol),
  .call 1 (.register [110, 101, 120, 116]) (.signed alice), .call 1 (.launch alice) .root,
  .call 1 (.stake alice (2 ^ 127)) (.signed bob), .call 1 (.stake alice (2 ^ 127)) (.signed carol), .block]

theorem stake_wraps : ∃ (s : State mintConfig) (dominator : Dominator),
    Transition.Reachable Init Step s ∧ s.dominators.lookup alice = some dominator ∧
    0 < currentSeason mintConfig s.now dominator.startFrom ∧
    (bonusOf alice 0 s).staked = 0 ∧ ¬ SharedOnce alice 0 s := by
  obtain ⟨s, hs, hcheck⟩ := exists_of_succeedsWith
    (x := play wrapRun (.genesis (.genesis fun who => if who = operator then (2, 0) else (0, 0)) ()))
    (p := fun s => decide ((s.dominators.lookup alice).map Dominator.startFrom = some 1) &&
      decide (s.now = 2) && decide ((bonusOf alice 0 s).staked = 0) &&
      decide (entitled alice 0 s bob = 2 ^ 127)) (by decide +kernel)
  simp only [Bool.and_eq_true, decide_eq_true_eq] at hcheck
  obtain ⟨⟨⟨hstart, hnow⟩, hbonus⟩, hbob⟩ := hcheck
  obtain ⟨dominator, hd, hstart⟩ := Option.map_eq_some_iff.mp hstart
  refine ⟨s, dominator, reachable_of_play hs, hd, ?_, hbonus, fun h => ?_⟩
  · rw [hnow, hstart]
    decide
  · have hle := h.share_le.2 bob
    rw [hbob, hbonus] at hle
    exact absurd hle (by decide)

end Fusotao.Verifier
