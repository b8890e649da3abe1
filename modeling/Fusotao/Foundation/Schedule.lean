import Fusotao.Foundation.Release

/-!
# A fund over its whole life

What has come due of a fund is a matter of the epoch alone. In every run, what was released of it is what has come
due, and what has not is still reserved.
-/

namespace Fusotao.Foundation

open Exec Word

open scoped BigOperators

variable {cfg : Config} {s s' mid : State cfg} {now : U32} {fund : FoundationData} {amount : U128}
  {beneficiary seller : AccountId} {bare : AccountId → Prop}

/-! ### The schedule -/

/-- The instalments of a fund, each with its epoch. -/
def schedule (fund : FoundationData) : List (Nat × Nat) :=
  (fund.delayDurations.toNat, fund.firstAmount.toNat) :: (List.range fund.times.toNat).map fun k =>
    (fund.delayDurations.toNat + (k + 1) * fund.intervalDurations.toNat, fund.amount.toNat)

/-- How many of them have come due by an epoch. -/
def dueBy (fund : FoundationData) (epoch : Nat) : Nat :=
  if epoch < fund.delayDurations.toNat then 0
  else min fund.times.toNat ((epoch - fund.delayDurations.toNat) / fund.intervalDurations.toNat) + 1

/-- The entry of a fund of which some have come due. -/
def entryAfter (fund : FoundationData) (n : Nat) : Option FoundationData :=
  if n ≤ fund.times.toNat then some { fund with times := fund.times - BitVec.ofNat 32 (n - 1) } else none

/-- What is locked up in a fund, over the naturals. -/
def lockedAmount (fund : FoundationData) : Nat := fund.firstAmount.toNat + fund.times.toNat * fund.amount.toNat

theorem length_schedule (fund : FoundationData) : (schedule fund).length = fund.times.toNat + 1 := by
  simp [schedule]

theorem sum_schedule (fund : FoundationData) : ((schedule fund).map Prod.snd).sum = lockedAmount fund := by
  simp [schedule, lockedAmount, Function.comp_def]

theorem schedule_getElem? {n : Nat} (h : n ≤ fund.times.toNat) : (schedule fund)[n]? =
    some (fund.delayDurations.toNat + n * fund.intervalDurations.toNat,
      if n = 0 then fund.firstAmount.toNat else fund.amount.toNat) := by
  cases n with
  | zero => simp [schedule]
  | succ n => simp [schedule, show n < fund.times.toNat by omega]

/-! ### What comes due -/

theorem dueAmount_of_lt (h : now.toNat < fund.delayDurations.toNat) : dueAmount now fund = none := by
  have hgt : ¬ now > fund.delayDurations := fun hgt => absurd h (Nat.lt_asymm hgt)
  rw [dueAmount, if_neg hgt, if_neg fun heq => Nat.lt_irrefl _ (heq ▸ h)]

theorem dueAmount_self (h : now.toNat = fund.delayDurations.toNat) : dueAmount now fund = some fund.firstAmount := by
  have heq : now = fund.delayDurations := BitVec.eq_of_toNat_eq h
  rw [dueAmount, if_neg (by rw [heq]; exact BitVec.lt_irrefl _), if_pos heq]

theorem dueAmount_of_gt (h : fund.delayDurations.toNat < now.toNat) : dueAmount now fund =
    if fund.intervalDurations.toNat ∣ now.toNat - fund.delayDurations.toNat then some fund.amount else none := by
  have hgt : now > fund.delayDurations := h
  rw [dueAmount, if_pos hgt]
  refine if_congr ?_ rfl rfl
  rw [Nat.dvd_iff_mod_eq_zero, ← toNat_sub_of_le (Nat.le_of_lt h), ← BitVec.toNat_umod]
  constructor
  · intro hzero
    rw [hzero]
    rfl
  · exact fun hzero => BitVec.eq_of_toNat_eq hzero

/-- Nothing comes due, or it is the next instalment of the schedule. -/
theorem dueBy_next {epoch : Nat} (hnow : now.toNat = epoch + 1) :
    match dueAmount now fund with
    | none => dueBy fund now.toNat = dueBy fund epoch
    | some amount => if dueBy fund epoch ≤ fund.times.toNat
        then dueBy fund now.toNat = dueBy fund epoch + 1 ∧
          (schedule fund)[dueBy fund epoch]? = some (now.toNat, amount.toNat)
        else dueBy fund now.toNat = dueBy fund epoch := by
  rcases Nat.lt_trichotomy now.toNat fund.delayDurations.toNat with hlt | heq | hgt
  · rw [dueAmount_of_lt hlt]
    simp only [dueBy, if_pos hlt, if_pos (show epoch < fund.delayDurations.toNat by omega)]
  · rw [dueAmount_self heq]
    have hbefore : dueBy fund epoch = 0 := by rw [dueBy, if_pos (by omega)]
    simp only [hbefore, Nat.zero_le, if_true]
    refine ⟨?_, ?_⟩
    · rw [dueBy, if_neg (by omega), heq, Nat.sub_self, Nat.zero_div, Nat.min_zero]
    · rw [schedule_getElem? (Nat.zero_le _), if_pos rfl, heq, Nat.zero_mul, Nat.add_zero]
  · rw [dueAmount_of_gt hgt]
    have hsucc : now.toNat - fund.delayDurations.toNat = (epoch - fund.delayDurations.toNat) + 1 := by omega
    have hbefore : dueBy fund epoch = min fund.times.toNat
        ((epoch - fund.delayDurations.toNat) / fund.intervalDurations.toNat) + 1 := by
      rw [dueBy, if_neg (by omega)]
    have hafter : dueBy fund now.toNat = min fund.times.toNat
        ((now.toNat - fund.delayDurations.toNat) / fund.intervalDurations.toNat) + 1 := by
      rw [dueBy, if_neg (by omega)]
    by_cases hdvd : fund.intervalDurations.toNat ∣ now.toNat - fund.delayDurations.toNat
    · rw [if_pos hdvd]
      have hquot : (now.toNat - fund.delayDurations.toNat) / fund.intervalDurations.toNat =
          (epoch - fund.delayDurations.toNat) / fund.intervalDurations.toNat + 1 := by
        rw [hsucc] at hdvd ⊢
        exact Nat.succ_div_of_dvd hdvd
      dsimp only
      split
      · rename_i hle
        refine ⟨by omega, ?_⟩
        have hn : dueBy fund epoch =
            (now.toNat - fund.delayDurations.toNat) / fund.intervalDurations.toNat := by omega
        have hpos : dueBy fund epoch ≠ 0 := by
          rw [hbefore]
          exact Nat.succ_ne_zero _
        rw [schedule_getElem? hle, if_neg hpos, hn, Nat.div_mul_cancel hdvd,
          Nat.add_sub_cancel' (Nat.le_of_lt hgt)]
      · omega
    · rw [if_neg hdvd]
      have hquot : (now.toNat - fund.delayDurations.toNat) / fund.intervalDurations.toNat =
          (epoch - fund.delayDurations.toNat) / fund.intervalDurations.toNat := by
        rw [hsucc] at hdvd ⊢
        exact Nat.succ_div_of_not_dvd hdvd
      rw [hbefore, hafter, hquot]

/-- The entry is counted down to the next one. -/
theorem afterInstalment_entryAfter {n : Nat} (hn : 0 < n) {entry : FoundationData}
    (h : entryAfter fund n = some entry) : afterInstalment entry = entryAfter fund (n + 1) := by
  unfold entryAfter at h
  split at h
  · rename_i hle
    obtain rfl := Option.some.inj h
    have hlt := fund.times.isLt
    have hpred : (BitVec.ofNat 32 (n - 1)).toNat = n - 1 := by
      rw [BitVec.toNat_ofNat, Nat.mod_eq_of_lt (by omega)]
    have hsucc : fund.times - BitVec.ofNat 32 (n - 1) - 1 = fund.times - BitVec.ofNat 32 n := by
      rw [BitVec.sub_sub]
      congr 1
      apply BitVec.eq_of_toNat_eq
      rw [toNat_add_of_lt (by rw [hpred]; change n - 1 + 1 < 2 ^ 32; omega), hpred, BitVec.toNat_ofNat,
        Nat.mod_eq_of_lt (by omega)]
      change n - 1 + 1 = n
      omega
    have hleft : (fund.times - BitVec.ofNat 32 n).toNat = fund.times.toNat - n := by
      have hn' : (BitVec.ofNat 32 n).toNat = n := by rw [BitVec.toNat_ofNat, Nat.mod_eq_of_lt (by omega)]
      rw [toNat_sub_of_le (by rw [hn']; exact hle), hn']
    simp only [afterInstalment, entryAfter, hsucc, Nat.add_sub_cancel]
    by_cases hlast : n = fund.times.toNat
    · rw [if_pos, if_neg (by omega)]
      apply BitVec.eq_of_toNat_eq
      rw [hleft, hlast, Nat.sub_self]
      rfl
    · rw [if_neg, if_pos (by omega)]
      intro hzero
      rw [hzero] at hleft
      change 0 = _ at hleft
      omega
  · exact absurd h (by simp)

/-! ### The next block -/

/-- The epoch that starts with the next block. -/
def nextEpoch (s : State cfg) : Option U32 :=
  if (s.blockNumber + 1) % cfg.duration = 0 then some ((s.blockNumber + 1) / cfg.duration) else none

/-- What comes due of the fund of an account in the next block. -/
def comesDue (account : AccountId) (s : State cfg) : Option (U32 × U128) :=
  (nextEpoch s).bind fun now => (s.foundation.lookup account).bind fun fund =>
    (dueAmount now fund).map fun amount => (now, amount)

/-- The epoch of the last block. -/
def epochOf (s : State cfg) : Nat := s.blockNumber.toNat / cfg.duration.toNat

theorem block_eq_ok (h : block s = .ok s') :
    (nextEpoch s = none ∧ s' = { s with blockNumber := s.blockNumber + 1 }) ∨
      ∃ now, nextEpoch s = some now ∧ unlockFund now { s with blockNumber := s.blockNumber + 1 } = .ok s' := by
  dsimp only [block, onInitialize] at h
  unfold nextEpoch
  split at h
  · rename_i hne
    exact .inl ⟨if_neg hne, (pure_eq_ok.mp h).symm⟩
  · rename_i heq
    exact .inr ⟨_, if_pos (not_not.mp heq), h⟩

theorem toNat_nextEpoch (hrange : s.blockNumber.toNat + 1 < 2 ^ 32) (h : nextEpoch s = some now) :
    now.toNat = epochOf s + 1 ∧ (s.blockNumber.toNat + 1) / cfg.duration.toNat = epochOf s + 1 := by
  unfold nextEpoch at h
  have hsum : (s.blockNumber + 1).toNat = s.blockNumber.toNat + 1 := toNat_add_of_lt hrange
  split at h
  · rename_i hzero
    obtain rfl := Option.some.inj h
    have hdvd : cfg.duration.toNat ∣ s.blockNumber.toNat + 1 := by
      rw [Nat.dvd_iff_mod_eq_zero, ← hsum, ← BitVec.toNat_umod, hzero]
      rfl
    have hquot := Nat.succ_div_of_dvd hdvd
    rw [BitVec.toNat_udiv, hsum]
    exact ⟨hquot, hquot⟩
  · exact absurd h (by simp)

theorem epoch_of_nextEpoch_none (hrange : s.blockNumber.toNat + 1 < 2 ^ 32) (h : nextEpoch s = none) :
    (s.blockNumber.toNat + 1) / cfg.duration.toNat = epochOf s := by
  unfold nextEpoch at h
  have hsum : (s.blockNumber + 1).toNat = s.blockNumber.toNat + 1 := toNat_add_of_lt hrange
  split at h
  · exact absurd h (by simp)
  · rename_i hne
    refine Nat.succ_div_of_not_dvd fun hdvd => hne ?_
    apply BitVec.eq_of_toNat_eq
    rw [BitVec.toNat_umod, hsum, Nat.mod_eq_zero_of_dvd hdvd]
    rfl

/-- In the course of a block an amount goes to one account, and wholly so. -/
def Pays (beneficiary payee : AccountId) (amount : U128) (s s' : State cfg) : Prop :=
  ∃ mid mid', Beside beneficiary { s with blockNumber := s.blockNumber + 1 } mid ∧
    Released cfg beneficiary payee amount mid.native mid'.native ∧ Beside beneficiary mid' s'

/-- The account that an instalment goes to exists through the epoch, and so does the one that it comes from, unless
that is bare. -/
def ReceiverLives (bare : AccountId → Prop) (beneficiary : AccountId) (s : State cfg) : Prop :=
  ∀ now amount, comesDue beneficiary s = some (now, amount) → receiver now beneficiary s = beneficiary ∨
    Survives now s (receiver now beneficiary s) ∧ (bare beneficiary ∨ Survives now s beneficiary)

/-- What a block does to one fund. -/
structure BlockEffect (bare : AccountId → Prop) (beneficiary : AccountId) (s s' : State cfg) : Prop where
  blockNumber : s'.blockNumber = s.blockNumber + 1
  lookup : s'.foundation.lookup beneficiary = match comesDue beneficiary s, s.foundation.lookup beneficiary with
    | some (now, _), some fund => if now > fund.delayDurations then afterInstalment fund else some fund
    | _, fund? => fund?
  approvals : ∀ epoch, nextEpoch s ≠ some epoch →
    s'.approvals (beneficiary, epoch) = s.approvals (beneficiary, epoch)
  reserved : comesDue beneficiary s = none →
    cfg.balances.reserved s'.native beneficiary = cfg.balances.reserved s.native beneficiary
  pays : ∀ now amount, comesDue beneficiary s = some (now, amount) →
    amount.toNat ≤ (cfg.balances.reserved s.native beneficiary).toNat → ReceiverLives bare beneficiary s →
      Pays beneficiary (receiver now beneficiary s) amount s s'

theorem Pays.reserved {payee : AccountId} (h : Pays beneficiary payee amount s s') :
    (cfg.balances.reserved s.native beneficiary).toNat =
      (cfg.balances.reserved s'.native beneficiary).toNat + amount.toNat := by
  obtain ⟨mid, mid', hbefore, hreleased, hafter⟩ := h
  have hold := congrArg BitVec.toNat hbefore.reserved
  have hnew := congrArg BitVec.toNat hafter.reserved
  have hmoved := hreleased.reserved
  dsimp only at hold
  omega

/-- The account that is paid has more by the amount. -/
theorem Pays.free_le {payee : AccountId} (h : Pays beneficiary payee amount s s') :
    (cfg.balances.free s.native payee).toNat + amount.toNat ≤ (cfg.balances.free s'.native payee).toNat := by
  obtain ⟨mid, mid', hbefore, hreleased, hafter⟩ := h
  have hold := hbefore.free payee
  have hnew := hafter.free payee
  have hmoved := hreleased.free
  dsimp only at hold
  omega

theorem block_effect (hlaw : cfg.balances.BestEffort bare) (hissued : issued cfg s.native < 2 ^ 128)
    (h : block s = .ok s') : BlockEffect bare beneficiary s s' := by
  rcases block_eq_ok h with ⟨hnone, rfl⟩ | ⟨now, hnow, hunlock⟩
  · have hdue : comesDue beneficiary s = none := by rw [comesDue, hnone, Option.bind_none]
    refine ⟨rfl, by rw [hdue], fun _ _ => rfl, fun _ => rfl, fun now amount hsome => ?_⟩
    exact absurd (hdue.symm.trans hsome) (by simp)
  · cases hlookup : s.foundation.lookup beneficiary with
    | none =>
        have hbeside := unlockFund_beside hlaw (s := { s with blockNumber := s.blockNumber + 1 }) hlookup hissued
          hunlock
        have hdue : comesDue beneficiary s = none := by rw [comesDue, hnow, hlookup, Option.bind_some, Option.bind_none]
        refine ⟨hbeside.blockNumber, ?_, fun epoch _ => hbeside.approvals epoch, fun _ => hbeside.reserved,
          fun now amount hsome => absurd (hdue.symm.trans hsome) (by simp)⟩
        rw [hdue, hlookup, hbeside.lookup]
        exact hlookup
    | some fund =>
        obtain ⟨mid, mid', hbefore, halive, hvisit, hafter⟩ :=
          unlockFund_visit hlaw (s := { s with blockNumber := s.blockNumber + 1 }) hlookup hissued hunlock
        have hdue : comesDue beneficiary s = (dueAmount now fund).map fun amount => (now, amount) := by
          rw [comesDue, hnow, hlookup, Option.bind_some, Option.bind_some]
        have hlt : issued cfg mid.native < 2 ^ 128 := by rwa [hbefore.issued]
        obtain ⟨hnone, rfl⟩ | ⟨amount, paid, hsome, hpaid, hblock, hnative, happrovals, hfoundation⟩ :=
          unlockEntry_eq_ok hvisit
        · rw [hnone, Option.map_none] at hdue
          have hbeside := hbefore.trans hafter
          refine ⟨hbeside.blockNumber, ?_, fun epoch _ => hbeside.approvals epoch, fun _ => hbeside.reserved,
            fun now amount hsome => absurd (hdue.symm.trans hsome) (by simp)⟩
          rw [hdue, hlookup, hbeside.lookup]
          exact hlookup
        · rw [hsome, Option.map_some] at hdue
          have heffect := release_effect hlaw hlt hpaid
          have hreceiver : receiver now beneficiary mid = receiver now beneficiary s := by
            rw [receiver, receiver, hbefore.approvals]
          refine ⟨?_, ?_, fun epoch hepoch => ?_, fun hnone => absurd (hdue.symm.trans hnone) (by simp), ?_⟩
          · rw [hafter.blockNumber, hblock, heffect.blockNumber, hbefore.blockNumber]
          · rw [hafter.lookup, hfoundation, if_pos rfl, hdue, hlookup, hbefore.lookup]
            simp only [hlookup]
          · have hne : (beneficiary, epoch) ≠ (beneficiary, now) := fun heq =>
              hepoch (hnow.trans (congrArg some (Prod.mk.inj heq).2.symm))
            rw [hafter.approvals, happrovals, heffect.approvals, StorageMap.remove_of_ne _ hne, hbefore.approvals]
          · intro now' amount' hsome' hcovered hlives
            obtain ⟨rfl, rfl⟩ := Prod.mk.inj (Option.some.inj (hdue.symm.trans hsome'))
            have hgoes : receiver now beneficiary mid = beneficiary ∨
                Alive cfg mid.native (receiver now beneficiary mid) ∧ (bare beneficiary ∨
                  cfg.balances.free mid.native beneficiary ≠ 0 ∨
                    amount.toNat < (cfg.balances.reserved mid.native beneficiary).toNat) := by
              rw [hreceiver]
              refine or_iff_not_imp_left.mpr fun hother => ?_
              obtain ⟨hpayee, hpayer⟩ := (hlives now amount hdue).resolve_left hother
              refine ⟨halive _ hpayee, hpayer.imp_right fun hsurvives => ?_⟩
              exact (hbefore.survives hsurvives).keeps (hbefore.lookup.trans hlookup) hsome (hreceiver.trans_ne hother)
            have hreleased := release_released hlaw hlt (by rw [hbefore.reserved]; exact hcovered) hgoes hpaid
            rw [hreceiver, ← hnative] at hreleased
            exact ⟨mid, mid', hbefore, hreleased, hafter⟩

end Fusotao.Foundation
