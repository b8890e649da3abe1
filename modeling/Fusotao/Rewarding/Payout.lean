import Fusotao.Base.Rounding
import Fusotao.Rewarding.Accounting

/-!
# What is paid for an era

A settlement confirms a reward, and a claim mints what is confirmed. Beside the books it is written down what each
settlement was worth: what was minted and what is confirmed is what the settlements were worth, and the settlements of
an era were worth the rewards of an era, up to rounding.
-/

namespace Fusotao.Rewarding

open Exec Relation

open Indicator (quintill)

open scoped BigOperators

variable {cfg : Config} {s s' : State cfg} {book book' : Book} {who account : AccountId} {era : Era} {block : U32}

/-! ### What is confirmed -/

/-- What is confirmed of an account's rewards. -/
def Book.confirmedOf (book : Book) (who : AccountId) : Nat := (book.rewardOf who).confirmed.toNat

/-- What is confirmed of all rewards, and not claimed. -/
def Book.outstanding (book : Book) : Nat := ∑ who, book.confirmedOf who

theorem confirmedOf_insert {r : Reward} (h : book'.rewards = book.rewards.insert who r) :
    book'.confirmedOf = Function.update book.confirmedOf who r.confirmed.toNat := by
  funext who'
  rw [Book.confirmedOf, rewardOf_insert h, Function.update_apply]
  split <;> rfl

/-- Writing the record of one account changes what is confirmed by the difference. -/
theorem outstanding_insert {r : Reward} (h : book'.rewards = book.rewards.insert who r) :
    book'.outstanding + book.confirmedOf who = book.outstanding + r.confirmed.toNat := by
  rw [Book.outstanding, confirmedOf_insert h]
  exact sum_update_add book.confirmedOf who r.confirmed.toNat

theorem outstanding_insert_same {r : Reward} (h : book'.rewards = book.rewards.insert who r)
    (hr : r.confirmed = (book.rewardOf who).confirmed) : book'.outstanding = book.outstanding := by
  have hinsert := outstanding_insert h
  rw [hr] at hinsert
  exact Nat.add_right_cancel hinsert

theorem outstanding_remove (h : book'.rewards = book.rewards.remove who) :
    book'.outstanding + book.confirmedOf who = book.outstanding := by
  have hconfirmed : book'.confirmedOf = Function.update book.confirmedOf who 0 := by
    funext who'
    rw [Book.confirmedOf, Book.rewardOf, h, StorageMap.remove_apply, Function.update_apply]
    split <;> rfl
  have hsum := sum_update_add book.confirmedOf who 0
  rw [Nat.add_zero, ← hconfirmed] at hsum
  exact hsum

theorem outstanding_of_rewards (h : book'.rewards = book.rewards) : book'.outstanding = book.outstanding := by
  have hreward : book'.rewardOf = book.rewardOf := by
    funext who
    rw [Book.rewardOf, h, Book.rewardOf]
  rw [Book.outstanding, Book.outstanding]
  unfold Book.confirmedOf
  rw [hreward]

/-! ### What is settled -/

/-- The rewards of an era, as they are now. -/
def currentRewards (s : State cfg) : U128 := if s.now > cfg.rewardTerminateAt then 0 else s.eraRewards

/-- What a settlement is worth if it is made now. -/
def worthOf (s : State cfg) (x : Settlement) : U128 := cfg.fractions.mul x.fraction (currentRewards s)

def totalWorth (s : State cfg) (new : List Settlement) : Nat := (new.map fun x => (worthOf s x).toNat).sum

/-- Something was settled, and something was minted: the difference is confirmed. -/
structure Paid (s : State cfg) (new : List Settlement) (minted : Nat) (book book' : Book) : Prop where
  settlements : book'.settlements = new ++ book.settlements
  outstanding : book'.outstanding + minted = book.outstanding + totalWorth s new

/-- Nothing was settled, and what is confirmed was minted or is confirmed as before. -/
theorem Paid.of_nil {minted : Nat} (hsettlements : book'.settlements = book.settlements)
    (houtstanding : book'.outstanding + minted = book.outstanding) : Paid s [] minted book book' := by
  refine ⟨hsettlements, ?_⟩
  rw [houtstanding, totalWorth, List.map_nil, List.sum_nil, Nat.add_zero]

theorem Paid.of_same (hsettlements : book'.settlements = book.settlements)
    (houtstanding : book'.outstanding = book.outstanding) : Paid s [] 0 book book' :=
  .of_nil hsettlements (by rw [Nat.add_zero, houtstanding])

theorem Paid.trans {mid : Book} {new new' : List Settlement} {minted minted' : Nat} (h : Paid s new minted book mid)
    (h' : Paid s new' minted' mid book') : Paid s (new' ++ new) (minted + minted') book book' := by
  refine ⟨by rw [h'.settlements, h.settlements, List.append_assoc], ?_⟩
  have hfirst := h.outstanding
  have hsecond := h'.outstanding
  rw [totalWorth, List.map_append, List.sum_append, ← totalWorth, ← totalWorth]
  omega

theorem Paid.of_state {mid : State cfg} {new : List Settlement} {minted : Nat} (h : Paid mid new minted book book')
    (hnow : mid.now = s.now) (hrewards : mid.eraRewards = s.eraRewards) : Paid s new minted book book' := by
  have hworth : worthOf mid = worthOf s := by
    funext x
    rw [worthOf, currentRewards, hnow, hrewards, worthOf, currentRewards]
  refine ⟨h.settlements, ?_⟩
  rw [h.outstanding, totalWorth, hworth, totalWorth]

theorem addVolume_paid {vol : U128} (h : book.addVolume account era vol = .ok book') : Paid s [] 0 book book' := by
  simp only [Book.addVolume, bind_eq_ok, pure_eq_ok] at h
  obtain ⟨total, -, rfl⟩ := h
  exact .of_same rfl (outstanding_of_rewards rfl)

theorem rotate_paid {contribution confirmed : U128}
    (h : rotate cfg s.eraRewards s.now era contribution account book = .ok (confirmed, book')) :
    (∃ new, Paid s new 0 book book') ∧ book'.confirmedOf account = confirmed.toNat := by
  unfold rotate at h
  dsimp only at h
  split at h
  · simp only [bind_eq_ok, pure_eq_ok, Prod.mk.injEq] at h
    obtain ⟨pendingVol, -, rfl, hbook⟩ := h
    have hrewards : book'.rewards = book.rewards.insert account { book.rewardOf account with pendingVol } := by
      rw [← hbook]
    refine ⟨⟨[], .of_same (by rw [← hbook]) (outstanding_insert_same hrewards rfl)⟩, ?_⟩
    rw [confirmedOf_insert hrewards, Function.update_self]
  split at h
  · simp only [pure_eq_ok, Prod.mk.injEq] at h
    obtain ⟨rfl, hbook⟩ := h
    have hrewards : book'.rewards = book.rewards.insert account
        { book.rewardOf account with pendingVol := contribution, lastModify := era } := by
      rw [← hbook]
    refine ⟨⟨[], .of_same (by rw [← hbook]) (outstanding_insert_same hrewards rfl)⟩, ?_⟩
    rw [confirmedOf_insert hrewards, Function.update_self]
  · simp only [bind_eq_ok, okOr_eq_ok, Word.checkedAdd_eq_some, pure_eq_ok, Prod.mk.injEq] at h
    obtain ⟨-, -, total, htotal, rfl, hbook⟩ := h
    have hrewards : book'.rewards = book.rewards.insert account ⟨total, contribution, era⟩ := by rw [← hbook]
    refine ⟨⟨[⟨account, (book.rewardOf account).lastModify, (book.rewardOf account).pendingVol,
      book.volumeOf (book.rewardOf account).lastModify, cfg.fractions.fromRational (book.rewardOf account).pendingVol
        (book.volumeOf (book.rewardOf account).lastModify), era⟩], by rw [← hbook]; rfl, ?_⟩, ?_⟩
    · have hinsert := outstanding_insert hrewards
      rw [htotal, ← Nat.add_assoc, Nat.add_right_comm] at hinsert
      rw [Nat.add_zero, totalWorth, List.map_singleton, List.sum_singleton]
      exact Nat.add_right_cancel hinsert
    · rw [confirmedOf_insert hrewards, Function.update_self]

/-- What is confirmed is minted, and the issuance grows by it. -/
theorem mintConfirmed_paid {confirmed : U128} (h : mintConfirmed who book s = .ok (confirmed, book', s')) :
    ∃ minted, Paid s [] minted book book' ∧ s'.issuance.toNat = s.issuance.toNat + minted ∧
      minted = confirmed.toNat := by
  have hsettlements := (mintConfirmed_ledger h).2.1
  simp only [mintConfirmed, bind_eq_ok, okOr_eq_ok] at h
  obtain ⟨reward, hreward, h⟩ := h
  have hold : book.confirmedOf who = reward.confirmed.toNat := by
    rw [Book.confirmedOf, Book.rewardOf, hreward]
    rfl
  have hwritten : confirmed = reward.confirmed ∧ book'.rewards = (if reward.pendingVol > 0 then
      book.rewards.insert who { reward with confirmed := 0 } else book.rewards.remove who) ∧
      s'.issuance.toNat = s.issuance.toNat + reward.confirmed.toNat := by
    split at h
    · simp only [bind_eq_ok, okOr_eq_ok, Word.checkedAdd_eq_some, pure_eq_ok, Prod.mk.injEq] at h
      obtain ⟨issuance, hissuance, asset, -, rfl, rfl, rfl⟩ := h
      exact ⟨rfl, rfl, hissuance⟩
    · rename_i hzero
      simp only [pure_eq_ok, Prod.mk.injEq] at h
      obtain ⟨rfl, rfl, rfl⟩ := h
      refine ⟨rfl, rfl, ?_⟩
      have hnothing : reward.confirmed.toNat = 0 := Nat.eq_zero_of_not_pos hzero
      rw [hnothing, Nat.add_zero]
  obtain ⟨rfl, hrewards, hissuance⟩ := hwritten
  refine ⟨reward.confirmed.toNat, .of_nil hsettlements ?_, hissuance, rfl⟩
  rw [← hold]
  split at hrewards
  · have hinsert := outstanding_insert hrewards
    have hzero : (0 : U128).toNat = 0 := rfl
    rwa [hzero, Nat.add_zero] at hinsert
  · exact outstanding_remove hrewards

/-- A claim changes the book, the issuance and the balances. -/
theorem claim_frame {confirmed : U128} (h : claim who block book s = .ok (confirmed, book', s')) :
    ∃ issuance asset, s' = { s with issuance, asset } := by
  simp only [claim, bind_eq_ok, Prod.exists] at h
  obtain ⟨era, -, pending, mid, -, h⟩ := h
  split at h
  · simp only [pure_eq_ok, Prod.mk.injEq] at h
    obtain ⟨-, -, rfl⟩ := h
    exact ⟨s.issuance, s.asset, rfl⟩
  · exact (mintConfirmed_ledger h).2.2

theorem claim_paid {confirmed : U128} (h : claim who s.now book s = .ok (confirmed, book', s')) :
    (∃ new, Paid s new confirmed.toNat book book') ∧
      s'.issuance.toNat = s.issuance.toNat + confirmed.toNat := by
  simp only [claim, bind_eq_ok, Prod.exists] at h
  obtain ⟨era, -, pending, mid, hrotate, h⟩ := h
  obtain ⟨⟨new, hpaid⟩, -⟩ := rotate_paid hrotate
  split at h
  · simp only [pure_eq_ok, Prod.mk.injEq] at h
    obtain ⟨rfl, rfl, rfl⟩ := h
    exact ⟨⟨new, hpaid⟩, rfl⟩
  · obtain ⟨minted, hminted, hissuance, rfl⟩ := mintConfirmed_paid h
    refine ⟨⟨[] ++ new, ?_⟩, hissuance⟩
    have hboth := hpaid.trans hminted
    rwa [Nat.zero_add] at hboth

/-! ### A call -/

/-- Something was settled and minted in either book, and issued. -/
inductive Accrued (s s' : State cfg) : Prop
  | intro (legacyNew marketingNew : List Settlement) (legacyMinted marketingMinted : Nat)
      (legacy : Paid s legacyNew legacyMinted s.legacy s'.legacy)
      (marketing : Paid s marketingNew marketingMinted s.marketing s'.marketing)
      (issuance : s'.issuance.toNat = s.issuance.toNat + legacyMinted + marketingMinted)

theorem Paid.refl (s : State cfg) (book : Book) : Paid s [] 0 book book := .of_same rfl rfl

theorem Accrued.of_eq (hlegacy : s'.legacy = s.legacy) (hmarketing : s'.marketing = s.marketing)
    (hissuance : s'.issuance = s.issuance) : Accrued s s' := by
  apply Accrued.intro [] [] 0 0
  · rw [hlegacy]
    exact .refl s s.legacy
  · rw [hmarketing]
    exact .refl s s.marketing
  · rw [hissuance, Nat.add_zero]

theorem addVolume_rotate_paid {vol contribution confirmed : U128} {mid : Book}
    (hadd : book.addVolume account era vol = .ok mid)
    (hrotate : rotate cfg s.eraRewards s.now era contribution account mid = .ok (confirmed, book')) :
    ∃ new, Paid s new 0 book book' := by
  obtain ⟨⟨new, hpaid⟩, -⟩ := rotate_paid hrotate
  exact ⟨new ++ [], (addVolume_paid hadd).trans hpaid⟩

theorem consumeLiquidity_accrued {maker : AccountId} {symbol : Symbol} {vol : U128}
    (h : consumeLiquidity maker symbol vol s.now s = .ok s') : Accrued s s' := by
  unfold consumeLiquidity at h
  split at h
  · rename_i startFrom mid hremove
    obtain ⟨liquidityPool, rfl⟩ := removeLiquidity_frame hremove
    simp only [bind_eq_ok, pure_eq_ok, Prod.exists] at h
    obtain ⟨era, -, contribution, -, book, hadd, trading, -, confirmed, book', hrotate, rfl⟩ := h
    obtain ⟨new, hpaid⟩ := addVolume_rotate_paid hadd hrotate
    exact .intro [] new 0 0 (.refl s s.legacy) (hpaid.of_state rfl rfl) rfl
  · rw [← Except.ok.inj h]
    exact .of_eq rfl rfl rfl
  · exact absurd h (by simp)

theorem saveTrading_accrued {trader : AccountId} {vol : U128} (h : saveTrading trader vol s.now s = .ok s') :
    Accrued s s' := by
  unfold saveTrading at h
  split at h
  · rw [← pure_eq_ok.mp h]
    exact .of_eq rfl rfl rfl
  · simp only [bind_eq_ok, pure_eq_ok, Prod.exists] at h
    obtain ⟨era, -, book, hadd, confirmed, book', hrotate, rfl⟩ := h
    obtain ⟨new, hpaid⟩ := addVolume_rotate_paid hadd hrotate
    exact .intro new [] 0 0 hpaid (.refl s s.marketing) rfl

/-- The legacy rewards are claimed before the others. -/
theorem takeReward_accrued {origin : Origin} (h : takeReward origin s = .ok s') : Accrued s s' := by
  simp only [takeReward, claimLegacyReward, claimReward, bind_eq_ok, pure_eq_ok, Prod.exists, Prod.mk.injEq] at h
  obtain ⟨who, -, _, mid, hlegacy, _, last, hmarketing, -, -, rfl⟩ := h
  obtain ⟨legacyReward, legacy, t, hlegacy, -, rfl⟩ := hlegacy
  obtain ⟨reward, marketing, t', hmarketing, -, rfl⟩ := hmarketing
  obtain ⟨⟨legacyNew, hlegacyPaid⟩, hlegacyIssued⟩ := claim_paid hlegacy
  obtain ⟨⟨marketingNew, hmarketingPaid⟩, hmarketingIssued⟩ := claim_paid hmarketing
  obtain ⟨issuance, asset, rfl⟩ := claim_frame hlegacy
  obtain ⟨issuance', asset', rfl⟩ := claim_frame hmarketing
  apply Accrued.intro legacyNew marketingNew legacyReward.toNat reward.toNat
  · exact hlegacyPaid
  · exact hmarketingPaid.of_state rfl rfl
  · exact hmarketingIssued.trans (congrArg (· + reward.toNat) hlegacyIssued)

theorem perform_accrued {c : Call} (h : c.perform s = .ok s') : Accrued s s' := by
  cases c with
  | putLiquidity maker symbol vol =>
      rw [← Except.ok.inj h, putLiquidity]
      split <;> exact .of_eq rfl rfl rfl
  | removeLiquidity maker symbol vol =>
      simp only [Call.perform, bind_eq_ok, pure_eq_ok, Prod.exists] at h
      obtain ⟨startFrom, mid, hremove, rfl⟩ := h
      obtain ⟨liquidityPool, rfl⟩ := removeLiquidity_frame hremove
      exact .of_eq rfl rfl rfl
  | consumeLiquidity maker symbol vol => exact consumeLiquidity_accrued h
  | takeReward origin => exact takeReward_accrued h
  | setEraRewards origin eraRewards =>
      simp only [Call.perform, setEraRewards, bind_eq_ok, pure_eq_ok] at h
      obtain ⟨-, -, rfl⟩ := h
      exact .of_eq rfl rfl rfl
  | saveTrading trader vol => exact saveTrading_accrued h

/-! ### The payroll -/

/-- The pallet, what each settlement was worth when it was made, and what was minted. -/
structure Payroll (cfg : Config) where
  state : State cfg
  legacy : List (Settlement × U128)
  marketing : List (Settlement × U128)
  minted : Nat

/-- The settlements made in the state are written down before those that are written down already. -/
def entered (s : State cfg) (settlements : List Settlement) (log : List (Settlement × U128)) :
    List (Settlement × U128) :=
  ((settlements.take (settlements.length - log.length)).map fun x => (x, worthOf s x)) ++ log

/-- A call has led to a state. -/
def Payroll.after (p : Payroll cfg) (s' : State cfg) : Payroll cfg where
  state := s'
  legacy := entered p.state s'.legacy.settlements p.legacy
  marketing := entered p.state s'.marketing.settlements p.marketing
  minted := p.minted + (s'.issuance.toNat - p.state.issuance.toNat)

/-- A call succeeds while the rewards of an era are limited, or blocks go by. -/
inductive Payroll.Step (limit : Nat) : Payroll cfg → Payroll cfg → Prop
  | call (p : Payroll cfg) {s' : State cfg} (c : Call) (h : c.perform p.state = .ok s')
      (hlimit : p.state.eraRewards.toNat ≤ limit) : Step limit p (p.after s')
  | outside (p : Payroll cfg) (now : U32) (issuance : U128) (asset : Token.State cfg.token)
      (hnow : p.state.now ≤ now) : Step limit p { p with state := { p.state with now, issuance, asset } }

structure Payroll.Genesis (p : Payroll cfg) : Prop where
  state : Rewarding.Genesis p.state
  legacy : p.legacy = []
  marketing : p.marketing = []
  minted : p.minted = 0

/-- What the settlements were worth, all of them or those of an era. -/
def paid (log : List (Settlement × U128)) : Nat := (log.map fun x => x.2.toNat).sum

def settledFor (era : Era) (log : List (Settlement × U128)) : List (Settlement × U128) :=
  log.filter fun x => x.1.era = era

/-- What is written down is what was settled, each at the part of rewards within the limit. -/
structure Recorded (cfg : Config) (limit : Nat) (book : Book) (log : List (Settlement × U128)) : Prop where
  settlements : log.map Prod.fst = book.settlements
  worth : ∀ x ∈ log, ∃ rewards : U128, rewards.toNat ≤ limit ∧ x.2 = cfg.fractions.mul x.1.fraction rewards

theorem currentRewards_le {limit : Nat} (h : s.eraRewards.toNat ≤ limit) : (currentRewards s).toNat ≤ limit := by
  rw [currentRewards]
  split
  · exact Nat.zero_le limit
  · exact h

theorem entered_eq {new old : List Settlement} {log : List (Settlement × U128)} (h : log.map Prod.fst = old) :
    entered s (new ++ old) log = (new.map fun x => (x, worthOf s x)) ++ log := by
  have hlength : (new ++ old).length - log.length = new.length := by
    rw [← h, List.length_append, List.length_map, Nat.add_sub_cancel]
  rw [entered, hlength, List.take_left]

/-- A call writes down what it settles. -/
theorem Recorded.enter {limit minted : Nat} {log : List (Settlement × U128)} {new : List Settlement}
    (h : Recorded cfg limit book log) (hpaid : Paid s new minted book book') (hlimit : s.eraRewards.toNat ≤ limit) :
    Recorded cfg limit book' (entered s book'.settlements log) ∧
      paid (entered s book'.settlements log) + book.outstanding = paid log + book'.outstanding + minted := by
  have hentered : entered s book'.settlements log = (new.map fun x => (x, worthOf s x)) ++ log := by
    rw [hpaid.settlements]
    exact entered_eq h.settlements
  rw [hentered]
  refine ⟨⟨?_, fun x hx => ?_⟩, ?_⟩
  · rw [List.map_append, List.map_map, h.settlements, hpaid.settlements]
    exact congrArg (· ++ book.settlements) (List.map_id new)
  · rcases List.mem_append.mp hx with hnew | hold
    · obtain ⟨y, -, rfl⟩ := List.mem_map.mp hnew
      exact ⟨currentRewards s, currentRewards_le hlimit, rfl⟩
    · exact h.worth x hold
  · have houtstanding := hpaid.outstanding
    have hworth : ((new.map fun x => (x, worthOf s x)).map fun x => x.2.toNat).sum = totalWorth s new := by
      rw [List.map_map]
      rfl
    rw [paid, List.map_append, List.sum_append, hworth, ← paid]
    omega

/-- What the settlements were worth was minted or is confirmed. -/
structure Payroll.Balanced (limit : Nat) (p : Payroll cfg) : Prop where
  legacy : Recorded cfg limit p.state.legacy p.legacy
  marketing : Recorded cfg limit p.state.marketing p.marketing
  paid : paid p.legacy + paid p.marketing = p.minted + p.state.legacy.outstanding + p.state.marketing.outstanding

theorem outstanding_empty : Book.outstanding .empty = 0 := Finset.sum_eq_zero fun _ _ => rfl

theorem recorded_empty {limit : Nat} : Recorded cfg limit .empty [] := ⟨rfl, fun _ hx => absurd hx List.not_mem_nil⟩

theorem Payroll.Genesis.balanced {limit : Nat} {p : Payroll cfg} (h : p.Genesis) : p.Balanced limit := by
  constructor
  · rw [h.state.legacy, h.legacy]
    exact recorded_empty
  · rw [h.state.marketing, h.marketing]
    exact recorded_empty
  · rw [h.legacy, h.marketing, h.minted, h.state.legacy, h.state.marketing, outstanding_empty]
    rfl

theorem Payroll.Balanced.step {limit : Nat} {p p' : Payroll cfg} (h : p.Balanced limit) (hstep : Step limit p p') :
    p'.Balanced limit := by
  cases hstep with
  | call c hcall hlimit =>
      rename_i s'
      cases perform_accrued hcall with
      | intro legacyNew marketingNew legacyMinted marketingMinted hlegacy hmarketing hissuance =>
        obtain ⟨hlegacyRecorded, hlegacyPaid⟩ := h.legacy.enter hlegacy hlimit
        obtain ⟨hmarketingRecorded, hmarketingPaid⟩ := h.marketing.enter hmarketing hlimit
        have hpaid := h.paid
        refine ⟨hlegacyRecorded, hmarketingRecorded, ?_⟩
        rw [Payroll.after]
        dsimp only
        omega
  | outside now issuance asset hnow => exact ⟨h.legacy, h.marketing, h.paid⟩

theorem Payroll.balanced_of_reachable {limit : Nat} {p : Payroll cfg}
    (h : Transition.Reachable Genesis (Step limit) p) : p.Balanced limit :=
  h.invariant (Balanced limit) (fun _ hp => hp.balanced) fun _ _ hp hstep => hp.step hstep

/-- The payroll is written beside the runs of the pallet. -/
theorem Payroll.state_reachable {limit : Nat} {p : Payroll cfg} (h : Transition.Reachable Genesis (Step limit) p) :
    Transition.Reachable Rewarding.Genesis Rewarding.Step p.state := by
  obtain ⟨p₀, hp₀, hrun⟩ := h
  refine ⟨p₀.state, hp₀.state, hrun.lift Payroll.state fun p p' hstep => ?_⟩
  cases hstep with
  | call c hcall hlimit => exact .call c hcall
  | outside now issuance asset hnow => exact .outside p.state now issuance asset hnow

/-! ### The budget of an era -/

/-- `Perquintill * u128` is rounded to the nearest whole. -/
def Fractions.RoundsNearest (fractions : Fractions) : Prop :=
  ∀ p a : U128, p.toNat ≤ quintill.toNat →
    Rounding.Nearest quintill.toNat p.toNat a.toNat (fractions.mul p a).toNat

theorem Book.Exact.fraction_le {now : U32} (h : book.Exact cfg now) {x : Settlement} (hx : x ∈ book.settlements) :
    x.fraction.toNat ≤ quintill.toNat := by
  have hmem : x ∈ book.settlements.filter fun y => y.era = x.era :=
    List.mem_filter.mpr ⟨hx, decide_eq_true rfl⟩
  exact (List.le_sum_of_mem (List.mem_map_of_mem hmem)).trans (h.fractions x.era)

/-- What was paid for an era is the rewards of an era, and half a unit for each settlement at most. -/
theorem Recorded.within_budget {limit : Nat} {now : U32} {log : List (Settlement × U128)}
    (hrounds : cfg.fractions.RoundsNearest) (h : Recorded cfg limit book log) (hexact : book.Exact cfg now)
    (era : Era) : 2 * paid (settledFor era log) ≤ 2 * limit + (settledFor era log).length := by
  have hquintill : 0 < quintill.toNat := by decide
  have hshares : ∀ x ∈ settledFor era log, Rounding.Nearest quintill.toNat x.1.fraction.toNat limit x.2.toNat := by
    intro x hx
    have hlog : x ∈ log := List.mem_of_mem_filter hx
    have hsettled : x.1 ∈ book.settlements := h.settlements ▸ List.mem_map_of_mem hlog
    obtain ⟨rewards, hle, hworth⟩ := h.worth x hlog
    rw [hworth]
    exact (hrounds x.1.fraction rewards (hexact.fraction_le hsettled)).mono hle
  have hfractions : (settledFor era log).map (fun x => x.1.fraction.toNat) =
      (book.settlements.filter fun x => x.era = era).map fun x => x.fraction.toNat := by
    rw [settledFor, ← h.settlements, List.filter_map, List.map_map]
    rfl
  have hparts : ((settledFor era log).map fun x => x.1.fraction.toNat).sum ≤ quintill.toNat := by
    rw [hfractions]
    exact hexact.fractions era
  exact Rounding.two_mul_sum_shares_le hquintill (settledFor era log) hshares hparts

/-- What all settlements were worth was minted to their accounts or is confirmed, and the settlements of an era were
worth its rewards, up to half a unit each. -/
theorem rewards_within_budget {limit : Nat} {p : Payroll cfg} (hrounds : cfg.fractions.RoundsNearest)
    (h : Transition.Reachable Payroll.Genesis (Payroll.Step limit) p) :
    paid p.legacy + paid p.marketing = p.minted + p.state.legacy.outstanding + p.state.marketing.outstanding ∧
      p.legacy.map Prod.fst = p.state.legacy.settlements ∧
      p.marketing.map Prod.fst = p.state.marketing.settlements ∧
      ∀ era, 2 * paid (settledFor era p.legacy) ≤ 2 * limit + (settledFor era p.legacy).length ∧
        2 * paid (settledFor era p.marketing) ≤ 2 * limit + (settledFor era p.marketing).length := by
  have hbalanced := Payroll.balanced_of_reachable h
  have hsound := sound_of_reachable (Payroll.state_reachable h)
  exact ⟨hbalanced.paid, hbalanced.legacy.settlements, hbalanced.marketing.settlements, fun era =>
    ⟨hbalanced.legacy.within_budget hrounds hsound.legacy.exact era,
      hbalanced.marketing.within_budget hrounds hsound.marketing.exact era⟩⟩

/-- The products of the runtime's fractions are rounded down from half a unit above. -/
theorem reduced_roundsNearest : Fractions.RoundsNearest .reduced := by
  intro p a _
  rw [Rounding.Nearest]
  have hmul : (Fractions.reduced.mul p a).toNat ≤
      (2 * p.toNat * a.toNat + quintill.toNat - 1) / (2 * quintill.toNat) := by
    change (BitVec.ofNat 128 _).toNat ≤ _
    rw [BitVec.toNat_ofNat]
    exact Nat.mod_le _ _
  calc 2 * quintill.toNat * (Fractions.reduced.mul p a).toNat ≤
        2 * quintill.toNat * ((2 * p.toNat * a.toNat + quintill.toNat - 1) / (2 * quintill.toNat)) :=
        Nat.mul_le_mul_left _ hmul
    _ ≤ 2 * p.toNat * a.toNat + quintill.toNat - 1 := Nat.mul_div_le _ _
    _ ≤ 2 * p.toNat * a.toNat + quintill.toNat := Nat.sub_le _ _

/-- Nothing is written down yet. -/
def startPayroll : Payroll plainConfig := ⟨startState, [], [], 0⟩

/-- Alice was the only one to contribute to the second era, and took its rewards in the fourth. -/
theorem rewards_within_budget_taken : ∃ p : Payroll plainConfig, p.minted = 1000000 ∧
    p.marketing = [(⟨Token.alice, 100, 10, 10, quintill, 300⟩, 1000000)] ∧
      paid p.legacy + paid p.marketing = p.minted + p.state.legacy.outstanding + p.state.marketing.outstanding := by
  obtain ⟨⟨s₁, s₂⟩, hrun, hcheck⟩ := exists_of_succeedsWith
    (x := do
      let s := putLiquidity Token.alice (0, 1) 1000 101 startState
      let s₁ ← consumeLiquidity Token.alice (0, 1) 10 101 s
      let s₂ ← takeReward (.signed Token.alice) { s₁ with now := 301 }
      return (s₁, s₂))
    (p := fun x => decide (x.1.now = 101) && decide (x.1.issuance = 0) && decide (x.1.eraRewards = 1000000) &&
      decide (x.1.marketing.settlements = []) && decide (x.2.issuance = 1000000) &&
      decide (x.2.marketing.settlements = [⟨Token.alice, 100, 10, 10, quintill, 300⟩])) (by decide +kernel)
  simp only [Bool.and_eq_true, decide_eq_true_eq] at hcheck
  obtain ⟨⟨⟨⟨⟨hnow, hissuance⟩, hrewards⟩, hbefore⟩, hminted⟩, hsettlements⟩ := hcheck
  simp only [bind_eq_ok, pure_eq_ok, Prod.mk.injEq] at hrun
  obtain ⟨t₁, h₁, t₂, h₂, rfl, rfl⟩ := hrun
  have hlater : t₁.now ≤ (301 : U32) := by
    rw [hnow]
    decide
  have hlimit : t₁.eraRewards.toNat ≤ 1000000 := by
    rw [hrewards]
    decide
  have hput : Payroll.Step 1000000 startPayroll
      (startPayroll.after (putLiquidity Token.alice (0, 1) 1000 101 startState)) :=
    .call startPayroll (.putLiquidity Token.alice (0, 1) 1000) rfl (by decide)
  have hrun := (((Relation.ReflTransGen.single hput).tail
    (.call _ (.consumeLiquidity Token.alice (0, 1) 10) h₁ (by decide))).tail
    (.outside _ 301 t₁.issuance t₁.asset hlater)).tail (.call _ (.takeReward (.signed Token.alice)) h₂ hlimit)
  have hworth : worthOf { t₁ with now := 301 } ⟨Token.alice, 100, 10, 10, quintill, 300⟩ = 1000000 := by
    rw [worthOf, currentRewards, hrewards]
    change Fractions.reduced.mul quintill (if (301 : U32) > 1000000 then 0 else 1000000) = 1000000
    decide +kernel
  have hgenesis : Payroll.Genesis startPayroll := ⟨⟨rfl, rfl⟩, rfl, rfl, rfl⟩
  refine ⟨_, ?_, ?_, (rewards_within_budget reduced_roundsNearest ⟨startPayroll, hgenesis, hrun⟩).1⟩
  · simp only [Payroll.after, hissuance, hminted]
    rfl
  · simp only [Payroll.after, hsettlements, hbefore]
    rw [← hworth]
    rfl

end Fusotao.Rewarding
