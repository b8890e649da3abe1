import Fusotao.Foundation.Pallet
import Fusotao.Base.Transition

/-!
# When the hook unlocks every fund

A remainder by an interval of zero panics, and an instalment of a fund without instalments underflows the count.
Nothing else can go wrong, and both depend on the terms of the fund alone.
-/

namespace Fusotao.Foundation

open Exec Word

variable {cfg : Config} {s s' : State cfg} {now : U32} {account : AccountId} {fund : FoundationData}

/-! ### The terms of a fund -/

/-- No instalment is ever due that is not there. -/
structure FoundationData.Sound (fund : FoundationData) : Prop where
  interval : fund.intervalDurations ≠ 0
  times : fund.times ≠ 0 ∨ 2 ^ 32 ≤ fund.delayDurations.toNat + fund.intervalDurations.toNat

theorem intervalPassed_eq_ok {b : Bool} : intervalPassed now fund = .ok b ↔
    fund.intervalDurations ≠ 0 ∧
      decide (saturatingSub now fund.delayDurations % fund.intervalDurations = 0) = b := by
  simp only [intervalPassed, bind_eq_ok, okOr_eq_ok, checkedRem_eq_some, pure_eq_ok]
  constructor
  · rintro ⟨passed, ⟨hinterval, rfl⟩, rfl⟩
    exact ⟨hinterval, rfl⟩
  · rintro ⟨hinterval, rfl⟩
    exact ⟨_, ⟨hinterval, rfl⟩, rfl⟩

/-- An instalment is due a whole number of intervals after the delay. -/
theorem instalmentDue_eq_true (h : instalmentDue now fund = .ok true) :
    ∃ k, 0 < k ∧ now.toNat = fund.delayDurations.toNat + k * fund.intervalDurations.toNat := by
  unfold instalmentDue at h
  split at h
  · rename_i hafter
    obtain ⟨-, hpassed⟩ := intervalPassed_eq_ok.mp h
    have hlt : fund.delayDurations.toNat < now.toNat := hafter
    rw [saturatingSub_of_le hlt.le] at hpassed
    have hmod : (now.toNat - fund.delayDurations.toNat) % fund.intervalDurations.toNat = 0 := by
      have hzero := congrArg BitVec.toNat (of_decide_eq_true hpassed)
      rwa [BitVec.toNat_umod, toNat_sub_of_le hlt.le] at hzero
    obtain ⟨k, hk⟩ := Nat.dvd_of_mod_eq_zero hmod
    rw [Nat.mul_comm] at hk
    refine ⟨k, Nat.pos_of_ne_zero ?_, by omega⟩
    rintro rfl
    omega
  · exact absurd (pure_eq_ok.mp h) (by simp)

/-- After the last instalment of a sound fund the epochs are used up. -/
theorem FoundationData.Sound.times_ne_zero (hsound : fund.Sound) (h : instalmentDue now fund = .ok true) :
    fund.times ≠ 0 := by
  obtain ⟨k, hk, hnow⟩ := instalmentDue_eq_true h
  refine hsound.times.resolve_right fun hlate => ?_
  have hlt := now.isLt
  have hle : fund.intervalDurations.toNat ≤ k * fund.intervalDurations.toNat :=
    Nat.le_mul_of_pos_left _ hk
  omega

theorem FoundationData.Sound.countDown (hsound : fund.Sound) (times : U32) (htimes : times ≠ 0) :
    FoundationData.Sound { fund with times } := ⟨hsound.interval, .inl htimes⟩

/-! ### One fund -/

/-- `repatriate_reserved` ends with a result or an error. -/
def NoPanic (cfg : Config) : Prop :=
  ∀ s slashed beneficiary value status,
    cfg.balances.repatriateReserved s slashed beneficiary value status ≠ .error .panic

/-- A release changes the balances and the approvals only. -/
theorem release_ok (hpanic : NoPanic cfg) (now : U32) (account : AccountId) (amount : U128) (s : State cfg) :
    ∃ approvals native, release now account amount s = .ok { s with approvals, native } := by
  unfold release
  cases s.approvals (account, now) with
  | none => exact ⟨s.approvals, _, rfl⟩
  | some approver =>
      dsimp only
      cases hpaid : cfg.balances.repatriateReserved s.native account approver amount .free with
      | ok native => exact ⟨_, native, rfl⟩
      | error abort =>
          cases abort with
          | err e => exact ⟨_, s.native, rfl⟩
          | panic => exact absurd hpaid (hpanic _ _ _ _ _)

theorem release_foundation {amount : U128} (h : release now account amount s = .ok s') :
    s'.foundation = s.foundation := by
  unfold release at h
  split at h
  · obtain ⟨native, -, h⟩ := bind_eq_ok.mp h
    rw [← pure_eq_ok.mp h]
  · rw [← pure_eq_ok.mp h]

/-- A fund is visited without a panic if and only if it has an interval or its time has not come. -/
theorem unlockEntry_ok_iff (hpanic : NoPanic cfg) :
    (∃ s', unlockEntry now s ⟨account, fund⟩ = .ok s') ↔
      (fund.delayDurations ≤ now → fund.intervalDurations ≠ 0) := by
  constructor
  · rintro ⟨s', h⟩ hle
    simp only [unlockEntry, bind_eq_ok] at h
    obtain ⟨due, hdue, h⟩ := h
    by_cases hlt : now > fund.delayDurations
    · rw [instalmentDue, if_pos hlt] at hdue
      exact (intervalPassed_eq_ok.mp hdue).1
    · have heq : now = fund.delayDurations := by
        apply BitVec.eq_of_toNat_eq
        simp only [gt_iff_lt, BitVec.lt_def, BitVec.le_def] at hlt hle
        omega
      rw [instalmentDue, if_neg hlt, pure_eq_ok] at hdue
      subst hdue
      rw [if_neg Bool.false_ne_true, bind_eq_ok] at h
      obtain ⟨initial, hinitial, -⟩ := h
      rw [initialDue, if_pos heq] at hinitial
      exact (intervalPassed_eq_ok.mp hinitial).1
  · intro h
    have hpassed (hle : fund.delayDurations ≤ now) : ∃ b, intervalPassed now fund = .ok b :=
      ⟨_, intervalPassed_eq_ok.mpr ⟨h hle, rfl⟩⟩
    obtain ⟨due, hdue⟩ : ∃ b, instalmentDue now fund = .ok b := by
      unfold instalmentDue
      split
      · rename_i hlt
        exact hpassed (BitVec.le_of_lt hlt)
      · exact ⟨false, rfl⟩
    obtain ⟨initial, hinitial⟩ : ∃ b, initialDue now fund = .ok b := by
      unfold initialDue
      split
      · rename_i heq
        exact hpassed (heq ▸ BitVec.le_refl _)
      · exact ⟨false, rfl⟩
    simp only [unlockEntry, hdue, hinitial, ok_bind]
    cases due with
    | true =>
        obtain ⟨approvals, native, hrelease⟩ := release_ok hpanic now account fund.amount s
        rw [if_pos rfl, hrelease]
        exact ⟨_, rfl⟩
    | false =>
        rw [if_neg Bool.false_ne_true]
        split
        · obtain ⟨approvals, native, hrelease⟩ := release_ok hpanic now account fund.firstAmount s
          exact ⟨_, hrelease⟩
        · exact ⟨s, rfl⟩

/-- A fund is left as it is, or has one instalment less. -/
theorem unlockEntry_foundation (h : unlockEntry now s ⟨account, fund⟩ = .ok s') :
    s'.foundation = s.foundation ∨
      instalmentDue now fund = .ok true ∧ s'.foundation = (countDown account fund s).foundation := by
  simp only [unlockEntry, bind_eq_ok] at h
  obtain ⟨due, hdue, h⟩ := h
  cases due with
  | true =>
      rw [if_pos rfl, bind_eq_ok] at h
      obtain ⟨mid, hmid, h⟩ := h
      rw [← pure_eq_ok.mp h, countDown, countDown, release_foundation hmid]
      exact .inr ⟨hdue, rfl⟩
  | false =>
      rw [if_neg Bool.false_ne_true, bind_eq_ok] at h
      obtain ⟨initial, -, h⟩ := h
      refine .inl ?_
      split at h
      · exact release_foundation h
      · rw [← pure_eq_ok.mp h]

/-! ### Every fund -/

/-- Nothing panics in an epoch, and no count is taken below zero. -/
structure UnlocksNormally (now : U32) (s : State cfg) : Prop where
  terminates : ∃ s', unlockFund now s = .ok s'
  counts : ∀ account fund, s.foundation.lookup account = some fund →
    instalmentDue now fund = .ok true → fund.times ≠ 0

/-- The funds are all sound. -/
def AllSound (s : State cfg) : Prop :=
  ∀ account fund, s.foundation.lookup account = some fund → fund.Sound

theorem AllSound.insert (h : AllSound s) (hfund : fund.Sound)
    (hs' : s'.foundation = s.foundation.insert account fund) : AllSound s' := by
  intro who other hother
  rw [hs', IterMap.lookup_insert] at hother
  split at hother
  · exact Option.some.inj hother ▸ hfund
  · exact h who other hother

theorem AllSound.countDown (h : AllSound s) (hfund : fund.Sound)
    (hs' : s'.foundation = (countDown account fund s).foundation) : AllSound s' := by
  by_cases htimes : fund.times - 1 = 0
  · intro who other hother
    rw [hs', Foundation.countDown] at hother
    simp only [if_pos htimes, IterMap.lookup_erase] at hother
    split at hother
    · exact absurd hother (by simp)
    · exact h who other hother
  · have hinsert : s'.foundation = s.foundation.insert account { fund with times := fund.times - 1 } := by
      rw [hs', Foundation.countDown]
      exact if_neg htimes
    exact h.insert (hfund.countDown _ htimes) hinsert

/-- Sound terms are what a fund needs in every epoch. -/
theorem unlocksNormally_iff (hpanic : NoPanic cfg) (s : State cfg) :
    (∀ now, UnlocksNormally now s) ↔ AllSound s := by
  constructor
  · intro h account fund hlookup
    have hinterval : fund.intervalDurations ≠ 0 := by
      -- The fund is looked at in the epoch of its delay.
      obtain ⟨final, hfinal⟩ := (h fund.delayDurations).terminates
      obtain ⟨mid, mid', hmid⟩ := exists_of_foldlM_eq_ok hfinal (IterMap.mem_entries.mpr hlookup)
      exact (unlockEntry_ok_iff hpanic).mp ⟨mid', hmid⟩ (BitVec.le_refl _)
    refine ⟨hinterval, ?_⟩
    by_contra hnot
    rw [not_or, not_not, Nat.not_le] at hnot
    obtain ⟨htimes, hlate⟩ := hnot
    -- The first instalment is due one interval after the delay.
    refine (h (fund.delayDurations + fund.intervalDurations)).counts account fund hlookup ?_ htimes
    have hpos : 0 < fund.intervalDurations.toNat :=
      Nat.pos_of_ne_zero fun hzero => hinterval (BitVec.eq_of_toNat_eq hzero)
    have hsum := toNat_add_of_lt hlate
    have hlt : fund.delayDurations + fund.intervalDurations > fund.delayDurations := by
      rw [gt_iff_lt, BitVec.lt_def, hsum]
      omega
    rw [instalmentDue, if_pos hlt, intervalPassed_eq_ok]
    refine ⟨hinterval, decide_eq_true ?_⟩
    rw [saturatingSub_of_le (BitVec.le_of_lt hlt)]
    apply BitVec.eq_of_toNat_eq
    rw [BitVec.toNat_umod, toNat_sub_of_le (BitVec.le_of_lt hlt), hsum, Nat.add_sub_cancel_left, Nat.mod_self]
    rfl
  · intro h now
    refine ⟨foldlM_total (fun entry hmem mid => ?_) s, ?_⟩
    · exact (unlockEntry_ok_iff hpanic).mpr fun _ =>
        (h entry.1 entry.2 (IterMap.mem_entries.mp hmem)).interval
    · intro account fund hlookup hdue
      exact (h account fund hlookup).times_ne_zero hdue

theorem AllSound.unlockFund (h : AllSound s) (hunlock : unlockFund now s = .ok s') : AllSound s' := by
  refine foldlM_invariant_mem AllSound ?_ h hunlock
  rintro ⟨account, fund⟩ hmem mid mid' hmid hentry
  have hfund := h account fund (IterMap.mem_entries.mp hmem)
  rcases unlockEntry_foundation hentry with hsame | ⟨-, hcount⟩
  · intro who other hother
    exact hmid who other (hsame ▸ hother)
  · exact hmid.countDown hfund hcount

/-! ### Runs -/

/-- The funds that genesis and the calls have accepted are written down. -/
def Genesis (p : State cfg × List FoundationData) : Prop :=
  ∃ funds native, build funds native = .ok p.1 ∧ p.2 = funds.map Prod.snd

inductive Step : State cfg × List FoundationData → State cfg × List FoundationData → Prop
  | putIntoVault {s s' : State cfg} {log : List FoundationData} {origin : Origin} {beneficiary : AccountId}
      {fund : FoundationData} {needToApprove : Bool}
      (h : putIntoVault origin beneficiary fund needToApprove s = .ok s') : Step (s, log) (s', log ++ [fund])
  | approve {s s' : State cfg} {log : List FoundationData} {origin : Origin} {beneficiary : AccountId}
      {epoch : U32} (h : approve origin beneficiary epoch s = .ok s') : Step (s, log) (s', log)
  | block {s s' : State cfg} {log : List FoundationData} (h : block s = .ok s') : Step (s, log) (s', log)

theorem build_allSound {funds : List (AccountId × FoundationData)} {native : cfg.balances.Store}
    (hfunds : ∀ fund ∈ funds.map Prod.snd, fund.Sound) (h : build funds native = .ok s) : AllSound s := by
  refine foldlM_invariant_mem AllSound ?_ (fun account fund hlookup => absurd hlookup (by simp)) h
  rintro ⟨account, fund⟩ hmem mid mid' hmid hentry
  simp only [buildEntry, bind_eq_ok, pure_eq_ok] at hentry
  obtain ⟨native, -, rfl⟩ := hentry
  exact hmid.insert (hfunds fund (List.mem_map_of_mem hmem)) rfl

theorem AllSound.block (h : AllSound s) (hblock : block s = .ok s') : AllSound s' := by
  have hnext : AllSound { s with blockNumber := s.blockNumber + 1 } := h
  dsimp only [Foundation.block, onInitialize] at hblock
  split at hblock
  · exact pure_eq_ok.mp hblock ▸ hnext
  · exact hnext.unlockFund hblock

theorem allSound_of_reachable {log : List FoundationData} (h : Transition.Reachable Genesis Step (s, log))
    (hsound : ∀ fund ∈ log, fund.Sound) : AllSound s := by
  refine h.invariant (fun p => (∀ fund ∈ p.2, fund.Sound) → AllSound p.1) ?_ ?_ hsound
  · rintro ⟨s, log⟩ ⟨funds, native, hbuild, rfl⟩ hsound
    exact build_allSound hsound hbuild
  · intro p p' ih hstep hsound
    cases hstep with
    | putIntoVault h =>
        simp only [putIntoVault, bind_eq_ok, pure_eq_ok] at h
        obtain ⟨seller, -, -, -, -, -, paid, -, native, -, rfl⟩ := h
        exact (ih fun fund hmem => hsound fund (List.mem_append_left _ hmem)).insert
          (hsound _ (by simp)) rfl
    | approve h =>
        simp only [approve, bind_eq_ok] at h
        obtain ⟨approver, -, h⟩ := h
        split at h
        · obtain ⟨-, -, h⟩ := bind_eq_ok.mp h
          exact pure_eq_ok.mp h ▸ ih hsound
        · exact pure_eq_ok.mp h ▸ ih hsound
    | block h => exact (ih hsound).block h

/-- In every run that has accepted sound funds only, every epoch unlocks them without a panic and without an
underflow. -/
theorem unlockFund_normal (hpanic : NoPanic cfg) {log : List FoundationData}
    (h : Transition.Reachable Genesis Step (s, log)) (hsound : ∀ fund ∈ log, fund.Sound) (now : U32) :
    UnlocksNormally now s :=
  (unlocksNormally_iff hpanic s).mpr (allSound_of_reachable h hsound) now

/-! ### Funds that halt the chain -/

def plainConfig : Config where
  balances := .plain
  duration := 1
  duration_pos := by decide

def seller : AccountId := List.Vector.replicate 32 1

def beneficiary : AccountId := List.Vector.replicate 32 2

/-- Every account has an amount to give. -/
def plainState : State plainConfig := ⟨0, ∅, fun _ => none, fun _ => (100, 0)⟩

theorem plain_noPanic : NoPanic plainConfig := PlainBalances.repatriateReserved_ne_panic

/-- A fund of a seller that nobody has to approve. -/
def lock (fund : FoundationData) : Result (State plainConfig) :=
  putIntoVault (.signed seller) beneficiary fund false plainState

theorem reachable_lock {fund : FoundationData} {s : State plainConfig} (h : lock fund = .ok s) :
    Transition.Reachable Genesis Step (s, [fund]) :=
  ⟨(plainState, []), ⟨[], plainState.native, rfl, rfl⟩, .single (.putIntoVault h)⟩

theorem unlockFund_normal_lock : ∃ s, lock ⟨1, 1, 2, 5, 5⟩ = .ok s ∧ UnlocksNormally 2 s := by
  obtain ⟨s, h⟩ := exists_of_isOk (x := lock ⟨1, 1, 2, 5, 5⟩) (by decide +kernel)
  refine ⟨s, h, unlockFund_normal plain_noPanic (reachable_lock h) ?_ 2⟩
  intro fund hmem
  obtain rfl := List.mem_singleton.mp hmem
  exact ⟨by decide, .inl (by decide)⟩

/-- The pallet accepts an interval of zero, and the next block panics; it accepts a fund without instalments, and
counts it down. -/
theorem accepted_fund_halts :
    (∃ s : State plainConfig, Transition.Reachable Genesis Step (s, [⟨1, 0, 1, 5, 5⟩]) ∧
      block s = .error .panic) ∧
    ∃ s : State plainConfig, Transition.Reachable Genesis Step (s, [⟨1, 1, 0, 5, 5⟩]) ∧
      ¬ UnlocksNormally 2 s := by
  constructor
  · obtain ⟨s, h, hblock⟩ := exists_of_succeedsWith (x := lock ⟨1, 0, 1, 5, 5⟩)
      (p := fun s => panics (block s)) (by decide +kernel)
    exact ⟨s, reachable_lock h, panics_iff.mp hblock⟩
  · obtain ⟨s, h, hlookup⟩ := exists_of_succeedsWith (x := lock ⟨1, 1, 0, 5, 5⟩)
      (p := fun s => s.foundation.lookup beneficiary = some ⟨1, 1, 0, 5, 5⟩) (by decide +kernel)
    refine ⟨s, reachable_lock h, fun hnormal => ?_⟩
    exact hnormal.counts _ _ (of_decide_eq_true hlookup) (by rfl) rfl

end Fusotao.Foundation
