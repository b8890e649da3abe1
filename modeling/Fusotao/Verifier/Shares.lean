import Fusotao.Verifier.Season
import Mathlib.Data.BitVec
import Mathlib.Data.FinEnum

/-!
# Shares

What a staker has earned is shown by a view that adds up all tokens, and paid by `take_shares` token by token. For
each token the amount is the sum of the shares of the unsettled seasons, and no season that is over changes. So
the view tells what is paid, and it does not matter in how many payments.
-/

namespace Fusotao.Verifier

open Exec Word
open Token (freeBalance)

open scoped BigOperators

variable {cfg : Config} {s s' : State cfg} {d staker : AccountId} {amount : U128}

/-! ### The view -/

/-- What a stake earns of one token in a season. -/
def seasonShare (cfg : Config) (staking : U128) (bonus : Bonus) (token : TokenId) : U128 :=
  if bonus.staked = 0 then 0 else (bonus.profit.lookup token).elim 0 (cfg.perquintillMul staking bonus.staked)

/-- What a stake earns of one token in the seasons from `first` on, up to the season `last`. -/
def sharesOver (d : AccountId) (staking : U128) (first last : Nat) (s : State cfg) (token : TokenId) : U128 :=
  ((List.range' first (last - first)).map fun season => seasonShare cfg staking (bonusOf d season s) token).sum

theorem addShares_share (staking : U128) (bonus : Bonus) (shares : IterMap TokenId U128) (token : TokenId) :
    ((addShares cfg staking bonus shares).lookup token).getD 0 =
      (shares.lookup token).getD 0 + seasonShare cfg staking bonus token := by
  unfold addShares seasonShare
  rw [← IterMap.sum_entry]
  by_cases hstaked : bonus.staked = 0
  · rw [if_pos (.inl hstaked), if_pos hstaked, add_zero]
  by_cases hempty : bonus.profit.entries = []
  · rw [if_pos (.inr hempty), IterMap.inOrder, hempty]
    exact (congrArg _ (ite_self _)).trans (add_zero _) |>.symm
  rw [if_neg (not_or_intro hstaked hempty), if_neg hstaked]
  refine foldl_measure (fun shares : IterMap TokenId U128 => (shares.lookup token).getD 0) (fun shares entry => ?_)
    bonus.profit.inOrder shares
  dsimp only
  rw [IterMap.lookup_insert]
  by_cases htoken : entry.1 = token
  · rw [if_pos htoken.symm, if_pos htoken, htoken]
    cases shares.lookup token with
    | none => exact (zero_add _).symm
    | some share => rfl
  · rw [if_neg (Ne.symm htoken), if_neg htoken, add_zero]

theorem sharesOver_self (staking : U128) (season : Nat) (token : TokenId) :
    sharesOver d staking season season s token = 0 := by
  rw [sharesOver, Nat.sub_self]
  rfl

/-- A stake of nothing earns nothing. -/
theorem sharesOver_zero (hzero : ∀ total profit, cfg.perquintillMul 0 total profit = 0) (first last : Nat)
    (token : TokenId) : sharesOver d 0 first last s token = 0 := by
  apply List.sum_eq_zero
  intro share hshare
  obtain ⟨season, -, rfl⟩ := List.mem_map.mp hshare
  unfold seasonShare
  split
  · rfl
  · cases (bonusOf d season s).profit.lookup token with
    | none => rfl
    | some profit => exact hzero _ profit

/-- What the account of a staker has got more of a token. -/
def credited (token : TokenId) (staker : AccountId) (s s' : State cfg) : U128 :=
  freeBalance token staker s'.asset - freeBalance token staker s.asset

theorem credit_free (hlaw : cfg.token.balances.Lawful) {asset asset' : Token.State cfg.token}
    {share : Sigma fun _ : TokenId => U128} (token : TokenId)
    (h : Token.tryMutateAccount share.1 staker (fun b => .ok (b.1 + share.2, b.2)) asset = .ok asset') :
    freeBalance token staker asset' =
      freeBalance token staker asset + if share.1 = token then share.2 else 0 := by
  obtain ⟨hself, honly⟩ := Token.tryMutateAccount_eq_ok hlaw h
  split
  · rename_i htoken
    subst htoken
    exact (congrArg Prod.fst (Except.ok.inj hself)).symm
  · rename_i htoken
    have hsame := honly token staker fun heq => htoken (Prod.mk.inj heq).1.symm
    rw [add_zero]
    exact congrArg Prod.fst hsame

theorem takeShares_free (hlaw : cfg.token.balances.Lawful) {dist : Distribution} {season : Nat}
    (h : takeShares staker d dist s = .ok (season, s')) (token : TokenId) :
    freeBalance token staker s'.asset = freeBalance token staker s.asset +
      sharesOver d dist.staking dist.fromSeason dist.toSeason s token := by
  unfold takeShares at h
  split at h
  · rename_i hsame
    obtain ⟨-, rfl⟩ := Prod.mk.inj (pure_eq_ok.mp h)
    rw [hsame, sharesOver_self, add_zero]
  · simp only [bind_eq_ok, pure_eq_ok, Prod.mk.injEq] at h
    obtain ⟨asset, hasset, -, rfl⟩ := h
    have hshares := foldl_measure (fun shares : IterMap TokenId U128 => (shares.lookup token).getD 0)
      (fun shares season => @addShares_share cfg dist.staking (bonusOf d season s) shares token)
      (List.range' dist.fromSeason (dist.toSeason - dist.fromSeason)) ∅
    rw [show ((∅ : IterMap TokenId U128).lookup token).getD 0 = 0 from rfl, zero_add] at hshares
    rw [foldlM_measure (freeBalance token staker) (fun _ _ _ hcredit => credit_free hlaw token hcredit) hasset]
    refine congrArg _ ((IterMap.sum_entry _ id token).trans ?_)
    rw [sharesOver, ← hshares]
    generalize AList.lookup token _ = share
    cases share with
    | none => rfl
    | some share => rfl

/-! ### Seasons that are over -/

theorem currentSeason_mono {now later : Nat} (h : now ≤ later) (start : Nat) :
    currentSeason cfg now start ≤ currentSeason cfg later start := by
  rcases Nat.le_total now start with hnow | hnow
  · have hzero : currentSeason cfg now start = 0 := if_pos hnow
    rw [hzero]
    exact Nat.zero_le _
  · rw [currentSeason_eq hnow, currentSeason_eq (hnow.trans h)]
    exact Nat.div_le_div_right (Nat.sub_le_sub_right h start)

/-- A dominator has a first season once it is registered, and no stake begins in a season to come. -/
structure Begun (d : AccountId) (s : State cfg) : Prop where
  start : ∀ dominator, s.dominators.lookup d = some dominator →
    0 < dominator.startFrom ∧ dominator.startFrom ≤ s.now
  fresh : ∀ dominator, s.dominators.lookup d = some dominator → ∀ u,
    (stakingOf d u s).fromSeason ≤ currentSeason cfg s.now dominator.startFrom
  absent : s.dominators.lookup d = none → ∀ u, s.stakings (d, u) = none

/-- The dominators keep their first season, time does not go back, and a stake that is written begins now. -/
theorem Begun.of_written (hinv : Begun d s) {dominator dominator' : Dominator}
    (hlookup : s.dominators.lookup d = some dominator) (hlookup' : s'.dominators.lookup d = some dominator')
    (hstart : dominator'.startFrom = dominator.startFrom) (hnow : s.now ≤ s'.now)
    (hstakings : ∀ u, s'.stakings (d, u) = s.stakings (d, u) ∨ s'.stakings (d, u) = none ∨
      ∃ staking, s'.stakings (d, u) = some staking ∧
        staking.fromSeason = currentSeason cfg s.now dominator.startFrom) : Begun d s' := by
  have hmono := @currentSeason_mono cfg _ _ hnow dominator.startFrom
  refine ⟨fun new hnew => ?_, fun new hnew u => ?_, fun hnone => ?_⟩
  · obtain rfl := Option.some.inj (hlookup'.symm.trans hnew)
    obtain ⟨hpos, hle⟩ := hinv.start dominator hlookup
    rw [hstart]
    exact ⟨hpos, hle.trans hnow⟩
  · obtain rfl := Option.some.inj (hlookup'.symm.trans hnew)
    rw [hstart]
    rcases hstakings u with hsame | hnone | ⟨staking, hstaking, hseason⟩
    · rw [stakingOf, hsame]
      exact (hinv.fresh dominator hlookup u).trans hmono
    · rw [stakingOf, hnone]
      exact Nat.zero_le _
    · rw [stakingOf_of_lookup hstaking, hseason]
      exact hmono
  · exact absurd (hlookup'.symm.trans hnone) (by simp)

theorem register_begun (hinv : Begun d s) {name : List UInt8} (h : register d name s = .ok s') : Begun d s' := by
  have hgrace : cfg.dominatorCheckGracePeriod ≤ s.now := by
    simp only [register, bind_eq_ok, ensure_eq_ok, exists_const] at h
    exact h.2.2.1
  obtain ⟨hnone, dominator, -, hstart, -, -, rfl⟩ := register_eq_ok h
  have hnew : (s.dominators.insert d dominator).lookup d = some dominator := AList.lookup_insert _
  refine ⟨fun new hlookup => ?_, fun new hlookup u => ?_, fun h => ?_⟩
  · obtain rfl := Option.some.inj (hnew.symm.trans hlookup)
    rw [hstart]
    have hlt := Nat.mod_lt s.now cfg.dominatorCheckGracePeriod_pos
    exact ⟨Nat.sub_pos_of_lt (hlt.trans_le hgrace), Nat.sub_le _ _⟩
  · rw [stakingOf, hinv.absent hnone u]
    exact Nat.zero_le _
  · exact absurd (hnew.symm.trans h) (by simp)

theorem Begun.move (hinv : Begun d s) (h : Move s s') : Begun d s' := by
  cases h.stakeMove d with
  | same h =>
      rcases h.lookup with hsame | ⟨old, new, hold, hnew, -, hstart, -⟩
      · cases hlookup : s.dominators.lookup d with
        | none =>
            have hnone := hsame.trans hlookup
            refine ⟨fun new hnew => absurd (hnone.symm.trans hnew) (by simp),
              fun new hnew => absurd (hnone.symm.trans hnew) (by simp), fun _ u => ?_⟩
            rw [h.stakings]
            exact hinv.absent hlookup u
        | some dominator =>
            exact hinv.of_written hlookup (hsame.trans hlookup) rfl h.now.ge fun u => .inl (h.stakings u)
      · exact hinv.of_written hold hnew hstart h.now.ge fun u => .inl (h.stakings u)
  | register name h => exact register_begun hinv h
  | stake staker amount h =>
      obtain ⟨dominator, hlookup, -, hs', -⟩ := stakeOn_effects h
      rw [hs']
      refine hinv.of_written hlookup (AList.lookup_insert _) rfl (Nat.le_refl _) fun u => ?_
      by_cases hu : u = staker
      · subst hu
        exact .inr (.inr ⟨_, StorageMap.insert_self _ _ _, rfl⟩)
      · exact .inl (StorageMap.insert_of_ne _ _ (by simp [hu]))
  | unstake staker amount h =>
      obtain ⟨dominator, hlookup, -, staked, -, staking, -, remain, -, pending, -, hs', -, -⟩ :=
        unstakeFrom_effects h
      rw [hs']
      refine hinv.of_written hlookup (AList.lookup_insert _) rfl (Nat.le_refl _) fun u => ?_
      by_cases hu : u = staker
      · subst hu
        dsimp only
        rw [StorageMap.put_self]
        split
        · exact .inr (.inr ⟨_, rfl, rfl⟩)
        · exact .inr (.inl rfl)
      · exact .inl (StorageMap.put_of_ne _ _ (by simp [hu]))
  | claim staker h =>
      obtain ⟨dominator, hlookup, staking, -, hs'⟩ := claimShares_effects h
      rw [hs']
      refine hinv.of_written hlookup hlookup rfl (Nat.le_refl _) fun u => ?_
      by_cases hu : u = staker
      · subst hu
        exact .inr (.inr ⟨_, StorageMap.insert_self _ _ _, rfl⟩)
      · exact .inl (StorageMap.insert_of_ne _ _ (by simp [hu]))
  | block external hs' =>
      rw [onInitialize_frame] at hs'
      cases hlookup : s.dominators.lookup d with
      | none =>
          rw [hs']
          refine ⟨fun new hnew => absurd (hlookup.symm.trans hnew) (by simp),
            fun new hnew => absurd (hlookup.symm.trans hnew) (by simp), fun _ => hinv.absent hlookup⟩
      | some dominator =>
          rw [hs']
          exact hinv.of_written hlookup hlookup rfl (Nat.le_succ _) fun u => .inl rfl

/-- What is written down of a season that is over does not change with the first block of the next one. -/
theorem snapshots_bonuses {now : BlockNumber} {dominator : Dominator} {season : Nat}
    (hlookup : s.dominators.lookup d = some dominator)
    (hseason : seasonEnds cfg now dominator.startFrom →
      season ≠ (now - dominator.startFrom) / cfg.seasonDuration - 1) :
    (snapshots now s).bonuses (d, season) = s.bonuses (d, season) := by
  refine List.foldlRecOn (motive := fun mid : State cfg => mid.bonuses (d, season) = s.bonuses (d, season))
    _ _ rfl fun mid hmid entry hentry => ?_
  unfold snapshot
  split
  · exact hmid
  · rename_i hstart
    split
    · rename_i hend
      refine (StorageMap.insert_of_ne _ _ fun heq => ?_).trans hmid
      obtain ⟨rfl, hlast⟩ := Prod.mk.inj heq
      obtain rfl := Option.some.inj ((IterMap.mem_entries.mp hentry).symm.trans hlookup)
      exact hseason ⟨hstart, hend⟩ hlast
    · exact hmid

theorem Move.bonuses (hinv : Begun d s) (h : Move s s') {dominator : Dominator}
    (hlookup : s.dominators.lookup d = some dominator) {season : Nat}
    (hseason : season < currentSeason cfg s.now dominator.startFrom) :
    s'.bonuses (d, season) = s.bonuses (d, season) := by
  cases h with
  | register h =>
      obtain ⟨-, new, -, -, -, -, rfl⟩ := register_eq_ok h
      rfl
  | evict h =>
      obtain ⟨old, -, rfl⟩ := evict_eq_ok h
      rfl
  | launch h =>
      obtain ⟨old, -, -, rfl⟩ := launch_eq_ok h
      rfl
  | outside | assets | reject => rfl
  | authorize h => rw [authorizeTo_frame h]
  | revoke h => rw [revokeFrom_frame h]
  | stake h =>
      obtain ⟨old, -, -, hs', -⟩ := stakeOn_effects h
      rw [hs']
  | unstake h =>
      obtain ⟨old, -, -, staked, -, staking, -, remain, -, pending, -, hs', -, -⟩ := unstakeFrom_effects h
      rw [hs']
  | claim h =>
      obtain ⟨old, -, staking, -, hs'⟩ := claimShares_effects h
      rw [hs']
  | @apply _ d' dominator' proof hdominator hopenings hbonuses h =>
      refine hbonuses (d, season) fun heq => ?_
      obtain ⟨rfl, hcurrent⟩ := Prod.mk.inj heq
      obtain rfl := Option.some.inj (hdominator.symm.trans hlookup)
      exact hseason.ne hcurrent
  | store hpending h =>
      obtain ⟨old, -, rfl⟩ := storeRoot_eq_ok h
      rfl
  | block external h =>
      rw [onInitialize_bonuses]
      split
      · refine @snapshots_bonuses cfg _ d _ dominator _ hlookup fun hends heq => ?_
        have hle := (hinv.start dominator hlookup).2
        have hsucc := @currentSeason_succ cfg _ _ hle
        rw [if_pos hends, currentSeason_eq (Nat.le_succ_of_le hle)] at hsucc
        rw [hsucc, Nat.add_sub_cancel] at heq
        exact hseason.ne heq
      · rfl

/-! ### Payments -/

theorem takeShares_credited (hlaw : cfg.token.balances.Lawful) {dist : Distribution} {season : Nat}
    (h : takeShares staker d dist s = .ok (season, s')) (token : TokenId) :
    credited token staker s s' = sharesOver d dist.staking dist.fromSeason dist.toSeason s token := by
  rw [credited, takeShares_free hlaw h, add_sub_cancel_left]

theorem takeStakedShares_credited (hlaw : cfg.token.balances.Lawful)
    (hzero : ∀ total profit, cfg.perquintillMul 0 total profit = 0) {dist : Distribution}
    (h : takeStakedShares staker d dist s = .ok s') (token : TokenId) :
    credited token staker s s' = sharesOver d dist.staking dist.fromSeason dist.toSeason s token := by
  unfold takeStakedShares at h
  split at h
  · simp only [bind_eq_ok, pure_eq_ok, Prod.exists] at h
    obtain ⟨season, last, hlast, rfl⟩ := h
    exact takeShares_credited hlaw hlast token
  · rename_i hnone
    obtain rfl := pure_eq_ok.mp h
    rw [not_not.mp hnone, sharesOver_zero hzero, credited, sub_self]

theorem claimShares_credited (hlaw : cfg.token.balances.Lawful) (h : claimShares staker d s = .ok s') :
    ∃ dominator, s.dominators.lookup d = some dominator ∧ ∃ staking, s.stakings (d, staker) = some staking ∧
      ∀ token, credited token staker s s' = sharesOver d staking.amount staking.fromSeason
        (currentSeason cfg s.now dominator.startFrom) s token := by
  obtain ⟨dominator, hlookup, -, staking, hstaking, season, last, hlast, rfl⟩ := claimShares_eq_ok h
  exact ⟨dominator, hlookup, staking, hstaking, takeShares_credited hlaw hlast⟩

/-- The call changes no stake. -/
def SameStake (d staker : AccountId) (s s' : State cfg) : Prop :=
  (s'.stakings (d, staker)).map Staking.amount = (s.stakings (d, staker)).map Staking.amount

/-- The calls with which a staker is paid. -/
inductive Settles (d staker : AccountId) (s s' : State cfg) : Prop
  | claim (h : claimShares staker d s = .ok s')
  | stake (amount : U128) (h : stakeOn staker d amount s = .ok s')
  | unstake (amount : U128) (h : unstakeFrom staker d amount s = .ok s')

theorem Settles.move (h : Settles d staker s s') : Move s s' := by
  cases h with
  | claim h => exact .claim h
  | stake amount h => exact .stake h
  | unstake amount h => exact .unstake h

/-- A staker whose stake stays the same is paid the shares of the seasons that are not settled yet. -/
theorem Settles.credited (hlaw : cfg.token.balances.Lawful)
    (hzero : ∀ total profit, cfg.perquintillMul 0 total profit = 0) (h : Settles d staker s s')
    (hsame : SameStake d staker s s') {staking : Staking} (hstaking : s.stakings (d, staker) = some staking)
    {dominator : Dominator} (hlookup : s.dominators.lookup d = some dominator) :
    s'.stakings (d, staker) = some ⟨currentSeason cfg s.now dominator.startFrom, staking.amount⟩ ∧
      ∀ token, credited token staker s s' = sharesOver d staking.amount staking.fromSeason
        (currentSeason cfg s.now dominator.startFrom) s token := by
  rw [SameStake, hstaking] at hsame
  cases h with
  | claim h =>
      obtain ⟨old, hold, staking', hstaking', hpaid⟩ := claimShares_credited hlaw h
      obtain rfl := Option.some.inj (hold.symm.trans hlookup)
      obtain rfl := Option.some.inj (hstaking'.symm.trans hstaking)
      refine ⟨?_, hpaid⟩
      obtain ⟨old, hold, staking'', hstaking'', hs'⟩ := claimShares_effects h
      obtain rfl := Option.some.inj (hold.symm.trans hlookup)
      obtain rfl := Option.some.inj (hstaking''.symm.trans hstaking)
      rw [hs']
      exact StorageMap.insert_self _ _ _
  | stake amount h =>
      obtain ⟨old, hold, -, mid, hmid, last, hlast, rfl⟩ := stakeOn_eq_ok h
      obtain rfl := Option.some.inj (hold.symm.trans hlookup)
      rw [stakingOf_of_lookup hstaking] at hsame hlast ⊢
      have hamount : staking.amount + amount = staking.amount := by
        have hsome := @StorageMap.insert_self _ _ _ s.stakings (d, staker)
          ⟨currentSeason cfg s.now old.startFrom, staking.amount + amount⟩
        dsimp only at hsame
        rw [hsome] at hsame
        exact Option.some.inj hsame
      obtain rfl : amount = 0 := add_eq_left.mp hamount
      obtain rfl : s = mid := pure_eq_ok.mp hmid
      refine ⟨?_, takeStakedShares_credited hlaw hzero hlast⟩
      rw [hamount]
      exact StorageMap.insert_self _ _ _
  | unstake amount h =>
      obtain ⟨old, hold, -, staked, -, staking', hstaking', remain, hremain, mid, hmid, mid', hmid', pending, -,
        season, last, hlast, rfl⟩ := unstakeFrom_eq_ok h
      obtain rfl := Option.some.inj (hold.symm.trans hlookup)
      obtain rfl := Option.some.inj (hstaking'.symm.trans hstaking)
      have hentry := @StorageMap.put_self _ _ _ s.stakings (d, staker)
        (if remain ≠ 0 then some ⟨currentSeason cfg s.now old.startFrom, remain⟩ else none)
      dsimp only at hsame ⊢
      rw [hentry] at hsame ⊢
      split at hsame
      · rename_i hne
        obtain rfl : remain = staking'.amount := Option.some.inj hsame
        rw [checkedSub_eq_some] at hremain
        obtain rfl : amount = 0 := BitVec.eq_of_toNat_eq (Nat.add_eq_left.mp hremain.symm)
        obtain rfl : s = mid := pure_eq_ok.mp hmid
        obtain rfl : s = mid' := pure_eq_ok.mp hmid'
        rw [if_pos hne]
        exact ⟨rfl, takeShares_credited hlaw hlast⟩
      · exact absurd hsame (by simp)

/-! ### Any schedule of payments -/

/-- The states from `start` on in which the stake of a staker is the same, and what was paid until then. -/
inductive Schedule (d staker : AccountId) (start : State cfg) : (TokenId → U128) → State cfg → Prop
  | start : Schedule d staker start (fun _ => 0) start
  | pause {paid : TokenId → U128} {s s' : State cfg} (h : Schedule d staker start paid s) (hmove : Move s s')
      (hstaking : s'.stakings (d, staker) = s.stakings (d, staker)) : Schedule d staker start paid s'
  | settle {paid : TokenId → U128} {s s' : State cfg} (h : Schedule d staker start paid s)
      (hsettles : Settles d staker s s') (hsame : SameStake d staker s s') :
      Schedule d staker start (fun token => paid token + credited token staker s s') s'

/-- A move settles with the staker, or leaves the stake alone. -/
theorem Move.settles_or_same (h : Move s s') (d staker : AccountId) :
    Settles d staker s s' ∨ s'.stakings (d, staker) = s.stakings (d, staker) := by
  cases h.stakeMove d with
  | same h => exact .inr (h.stakings staker)
  | register name h =>
      obtain ⟨-, dominator, -, -, -, -, rfl⟩ := register_eq_ok h
      exact .inr rfl
  | stake u amount h =>
      by_cases hu : staker = u
      · subst hu
        exact .inl (.stake amount h)
      · obtain ⟨dominator, -, -, hs', -⟩ := stakeOn_effects h
        rw [hs']
        exact .inr (StorageMap.insert_of_ne _ _ (by simp [hu]))
  | unstake u amount h =>
      by_cases hu : staker = u
      · subst hu
        exact .inl (.unstake amount h)
      · obtain ⟨dominator, -, -, staked, -, staking, -, remain, -, pending, -, hs', -, -⟩ :=
          unstakeFrom_effects h
        rw [hs']
        exact .inr (StorageMap.put_of_ne _ _ (by simp [hu]))
  | claim u h =>
      by_cases hu : staker = u
      · subst hu
        exact .inl (.claim h)
      · obtain ⟨dominator, -, staking, -, hs'⟩ := claimShares_effects h
        rw [hs']
        exact .inr (StorageMap.insert_of_ne _ _ (by simp [hu]))
  | block external hs' =>
      rw [hs', onInitialize_frame]
      exact .inr rfl

/-- Whatever happens while the stake of a staker is the same is such a schedule. -/
theorem schedule_of_moves {start : State cfg}
    (h : Relation.ReflTransGen (fun s s' => Move s s' ∧ SameStake d staker s s') start s) :
    ∃ paid, Schedule d staker start paid s := by
  induction h with
  | refl => exact ⟨_, .start⟩
  | tail _ hlast ih =>
      obtain ⟨paid, h⟩ := ih
      obtain ⟨hmove, hsame⟩ := hlast
      rcases hmove.settles_or_same d staker with hsettles | hstaking
      · exact ⟨_, h.settle hsettles hsame⟩
      · exact ⟨_, h.pause hmove hstaking⟩

theorem Schedule.visited {start : State cfg} (hstart : Visited start) {paid : TokenId → U128}
    (h : Schedule d staker start paid s) : Visited s := by
  induction h with
  | start => exact hstart
  | pause h hmove hstaking ih => exact ih.move hmove
  | settle h hsettles hsame ih => exact ih.move hsettles.move

end Fusotao.Verifier
