import Fusotao.Base.Epoch
import Fusotao.Base.Transition
import Fusotao.Token.Decimals
import Fusotao.Rewarding.Pallet

/-!
# Every contribution is rewarded once

The books of the pallet are a ledger of lazily settled epochs, with words for amounts and the first block of an era
for the era.
-/

namespace Fusotao.Rewarding

open Exec

open Epoch (Ledger epochSum)
open Indicator (quintill)
open Word (checkedAdd)

open scoped BigOperators

variable {cfg : Config} {s s' : State cfg} {book book' : Book} {who account : AccountId} {era : Era} {now block : U32}

/-! ### The ledger of a book -/

def Contribution.entry (c : Contribution) : Epoch.Entry AccountId := ⟨c.who, c.era.toNat, c.vol.toNat⟩

def Settlement.entry (x : Settlement) : Epoch.Settlement AccountId :=
  ⟨⟨x.who, x.era.toNat, x.vol.toNat⟩, x.totalVol.toNat, x.settledIn.toNat⟩

def Book.ledger (book : Book) : Ledger AccountId where
  pending who := (book.rewardOf who).pendingVol.toNat
  last who := (book.rewardOf who).lastModify.toNat
  total e := if e < 2 ^ 32 then (book.volumeOf (BitVec.ofNat 32 e)).toNat else 0
  contributions := book.contributions.map Contribution.entry
  settlements := book.settlements.map Settlement.entry

theorem ledger_total (book : Book) (era : Era) : book.ledger.total era.toNat = (book.volumeOf era).toNat := by
  simp only [Book.ledger, if_pos era.isLt, BitVec.ofNat_toNat, BitVec.setWidth_eq]

theorem rewardOf_insert {r : Reward} (h : book'.rewards = book.rewards.insert who r) (who' : AccountId) :
    book'.rewardOf who' = if who' = who then r else book.rewardOf who' := by
  rw [Book.rewardOf, h, StorageMap.insert_apply]
  split <;> rfl

/-- Writing the record of one account. -/
theorem ledger_insert (book : Book) (who : AccountId) (r : Reward) (settlements : List Settlement) :
    Book.ledger { book with rewards := book.rewards.insert who r, settlements } = { book.ledger with
      pending := Function.update book.ledger.pending who r.pendingVol.toNat
      last := Function.update book.ledger.last who r.lastModify.toNat
      settlements := settlements.map Settlement.entry } := by
  have hreward := fun who' => @rewardOf_insert book { book with
    rewards := book.rewards.insert who r, settlements } who r rfl who'
  apply Ledger.ext
  · funext who'
    dsimp only
    rw [Function.update_apply]
    simp only [Book.ledger, hreward]
    split <;> rfl
  · funext who'
    dsimp only
    rw [Function.update_apply]
    simp only [Book.ledger, hreward]
    split <;> rfl
  · rfl
  · rfl
  · rfl

theorem toNat_eq_zero_iff {x : U128} : x.toNat = 0 ↔ x = 0 :=
  ⟨fun h => BitVec.eq_of_toNat_eq h, fun h => by rw [h]; rfl⟩

/-- A rotation visits the account in the era. -/
theorem rotate_ledger {eraRewards contribution confirmed : U128}
    (h : rotate cfg eraRewards now era contribution account book = .ok (confirmed, book')) :
    book'.ledger = book.ledger.rotate account era.toNat contribution.toNat := by
  unfold rotate at h
  dsimp only at h
  rw [Ledger.rotate]
  split at h
  · rename_i hera
    simp only [bind_eq_ok, okOr_eq_ok, Word.checkedAdd_eq_some, pure_eq_ok, Prod.mk.injEq] at h
    obtain ⟨pendingVol, hpending, -, rfl⟩ := h
    have hlast : era.toNat = book.ledger.last account := congrArg BitVec.toNat hera
    rw [if_pos hlast, ledger_insert book]
    apply Ledger.ext
    · exact congrArg (Function.update book.ledger.pending account) hpending
    · exact Function.update_eq_self account book.ledger.last
    · rfl
    · rfl
    · rfl
  · rename_i hera
    have hlast : ¬ era.toNat = book.ledger.last account := fun heq => hera (BitVec.eq_of_toNat_eq heq)
    rw [if_neg hlast]
    split at h
    · rename_i hzero
      simp only [pure_eq_ok, Prod.mk.injEq] at h
      obtain ⟨-, rfl⟩ := h
      have hpending : book.ledger.pending account = 0 := toNat_eq_zero_iff.mpr hzero
      rw [if_pos hpending, ledger_insert book]
      rfl
    · rename_i hzero
      simp only [bind_eq_ok, okOr_eq_ok, pure_eq_ok, Prod.mk.injEq] at h
      obtain ⟨-, -, _, -, -, rfl⟩ := h
      have hpending : ¬ book.ledger.pending account = 0 := fun heq => hzero (toNat_eq_zero_iff.mp heq)
      rw [if_neg hpending, ledger_insert book]
      apply Ledger.ext
      · rfl
      · rfl
      · rfl
      · rfl
      · rw [List.map_cons]
        refine congrArg (· :: _) ?_
        rw [Settlement.entry, ← ledger_total]
        rfl

theorem addVolume_ledger {vol : U128} (h : book.addVolume account era vol = .ok book') :
    book'.ledger = { book.ledger with
      total := Function.update book.ledger.total era.toNat (book.ledger.total era.toNat + vol.toNat)
      contributions := ⟨account, era.toNat, vol.toNat⟩ :: book.ledger.contributions } := by
  simp only [Book.addVolume, bind_eq_ok, okOr_eq_ok, Word.checkedAdd_eq_some, pure_eq_ok] at h
  obtain ⟨total, htotal, rfl⟩ := h
  apply Ledger.ext
  · rfl
  · rfl
  · funext e
    dsimp only
    rw [Function.update_apply, ledger_total, ← htotal]
    by_cases he : e = era.toNat
    · rw [if_pos he, he, ledger_total, Book.volumeOf]
      dsimp only
      rw [StorageMap.insert_self]
      rfl
    · rw [if_neg he]
      simp only [Book.ledger]
      split
      · rename_i hlt
        have hne : BitVec.ofNat 32 e ≠ era := by
          rintro rfl
          exact he (by rw [BitVec.toNat_ofNat, Nat.mod_eq_of_lt hlt])
        rw [Book.volumeOf]
        dsimp only
        rw [StorageMap.insert_of_ne _ _ hne]
        rfl
      · rfl
  · rfl
  · rfl

/-- A record is minted. It stays if something is pending, and is forgotten otherwise. -/
theorem mintConfirmed_ledger {confirmed : U128} (h : mintConfirmed who book s = .ok (confirmed, book', s')) :
    (book'.ledger = book.ledger ∨ book.ledger.pending who = 0 ∧ book'.ledger = book.ledger.forget who) ∧
      book'.settlements = book.settlements ∧ ∃ issuance asset, s' = { s with issuance, asset } := by
  simp only [mintConfirmed, bind_eq_ok, okOr_eq_ok] at h
  obtain ⟨reward, hreward, h⟩ := h
  have hold : book.rewardOf who = reward := by
    rw [Book.rewardOf, hreward]
    rfl
  have hbook : book' = { book with
      rewards := if reward.pendingVol > 0 then book.rewards.insert who { reward with confirmed := 0 }
        else book.rewards.remove who } ∧ ∃ issuance asset, s' = { s with issuance, asset } := by
    split at h
    · simp only [bind_eq_ok, pure_eq_ok, Prod.mk.injEq] at h
      obtain ⟨issuance, -, asset, -, -, rfl, rfl⟩ := h
      exact ⟨rfl, issuance, asset, rfl⟩
    · simp only [pure_eq_ok, Prod.mk.injEq] at h
      obtain ⟨-, rfl, rfl⟩ := h
      exact ⟨rfl, s.issuance, s.asset, rfl⟩
  obtain ⟨rfl, hs'⟩ := hbook
  refine ⟨?_, rfl, hs'⟩
  split
  · left
    rw [ledger_insert book]
    apply Ledger.ext
    · dsimp only
      rw [← hold]
      exact Function.update_eq_self who book.ledger.pending
    · dsimp only
      rw [← hold]
      exact Function.update_eq_self who book.ledger.last
    · rfl
    · rfl
    · rfl
  · rename_i hzero
    have hpending : reward.pendingVol = 0 := toNat_eq_zero_iff.mp (Nat.eq_zero_of_not_pos hzero)
    have hremoved : ∀ who', Book.rewardOf { book with rewards := book.rewards.remove who } who' =
        if who' = who then default else book.rewardOf who' := by
      intro who'
      rw [Book.rewardOf]
      dsimp only
      rw [StorageMap.remove_apply]
      split <;> rfl
    have hnothing : book.ledger.pending who = 0 := by
      simp only [Book.ledger, hold, hpending]
      rfl
    refine .inr ⟨hnothing, ?_⟩
    apply Ledger.ext
    · funext who'
      simp only [Book.ledger, hremoved]
      split
      · rename_i heq
        rw [heq]
        exact hnothing.symm
      · rfl
    · funext who'
      simp only [Ledger.forget, Book.ledger, hremoved, Function.update_apply]
      split <;> rfl
    · rfl
    · rfl
    · rfl

/-! ### What holds of a book -/

/-- The first block of the current era. -/
def eraStart (cfg : Config) (now : U32) : Nat := now.toNat - now.toNat % cfg.eraDuration.toNat

theorem beginOfEra_eq_ok (h : beginOfEra cfg block = .ok era) : era.toNat = eraStart cfg block := by
  simp only [beginOfEra, bind_eq_ok, pure_eq_ok] at h
  obtain ⟨-, -, rfl⟩ := h
  rw [eraStart, Word.toNat_sub_of_le, BitVec.toNat_umod]
  rw [BitVec.toNat_umod]
  exact Nat.mod_le _ _

theorem eraStart_le (now : U32) : eraStart cfg now ≤ now.toNat := Nat.sub_le _ _

theorem dvd_eraStart (now : U32) : cfg.eraDuration.toNat ∣ eraStart cfg now := Nat.dvd_sub_mod _

theorem eraStart_mono {later : U32} (h : now ≤ later) : eraStart cfg now ≤ eraStart cfg later := by
  have hdiv : ∀ x : U32, eraStart cfg x = cfg.eraDuration.toNat * (x.toNat / cfg.eraDuration.toNat) := by
    intro x
    rw [eraStart, Nat.sub_eq_of_eq_add]
    exact (Nat.div_add_mod _ _).symm
  rw [hdiv, hdiv]
  exact Nat.mul_le_mul_left _ (Nat.div_le_div_right h)

/-- The records of a book name eras, and settlements the fractions of them. -/
structure Book.Aligned (cfg : Config) (book : Book) : Prop where
  rewards : ∀ who, (book.rewardOf who).pendingVol ≠ 0 → cfg.eraDuration.toNat ∣ (book.rewardOf who).lastModify.toNat
  eras : ∀ x ∈ book.settlements, cfg.eraDuration.toNat ∣ x.era.toNat ∧ cfg.eraDuration.toNat ∣ x.settledIn.toNat
  fraction : ∀ x ∈ book.settlements, x.fraction = cfg.fractions.fromRational x.vol x.totalVol

theorem Book.Aligned.insert (h : book.Aligned cfg) {r : Reward} (hrewards : book'.rewards = book.rewards.insert who r)
    (hr : r.pendingVol ≠ 0 → cfg.eraDuration.toNat ∣ r.lastModify.toNat)
    (hsettlements : ∀ x ∈ book'.settlements, x ∈ book.settlements ∨
      (cfg.eraDuration.toNat ∣ x.era.toNat ∧ cfg.eraDuration.toNat ∣ x.settledIn.toNat) ∧
        x.fraction = cfg.fractions.fromRational x.vol x.totalVol) : book'.Aligned cfg := by
  refine ⟨fun who' hpending => ?_, fun x hx => ?_, fun x hx => ?_⟩
  · rw [rewardOf_insert hrewards] at hpending ⊢
    split at hpending
    · rename_i heq
      rw [if_pos heq]
      exact hr hpending
    · rename_i hne
      rw [if_neg hne]
      exact h.rewards who' hpending
  · exact (hsettlements x hx).elim (h.eras x) fun hnew => hnew.1
  · exact (hsettlements x hx).elim (h.fraction x) fun hnew => hnew.2

theorem Book.Aligned.rotate (h : book.Aligned cfg) {eraRewards contribution confirmed : U128}
    (hera : cfg.eraDuration.toNat ∣ era.toNat)
    (hrotate : rotate cfg eraRewards now era contribution account book = .ok (confirmed, book')) :
    book'.Aligned cfg := by
  unfold Rewarding.rotate at hrotate
  dsimp only at hrotate
  split at hrotate
  · rename_i hlast
    simp only [bind_eq_ok, pure_eq_ok, Prod.mk.injEq] at hrotate
    obtain ⟨pendingVol, -, -, rfl⟩ := hrotate
    exact h.insert rfl (fun _ => hlast ▸ hera) fun x hx => .inl hx
  split at hrotate
  · simp only [pure_eq_ok, Prod.mk.injEq] at hrotate
    obtain ⟨-, rfl⟩ := hrotate
    exact h.insert rfl (fun _ => hera) fun x hx => .inl hx
  · rename_i hpending
    simp only [bind_eq_ok, pure_eq_ok, Prod.mk.injEq] at hrotate
    obtain ⟨-, -, confirmed, -, -, rfl⟩ := hrotate
    refine h.insert rfl (fun _ => hera) fun x hx => ?_
    rcases List.mem_cons.mp hx with rfl | hx
    · exact .inr ⟨⟨h.rewards account hpending, hera⟩, rfl⟩
    · exact .inl hx

theorem Book.Aligned.mint (h : book.Aligned cfg) {confirmed : U128}
    (hmint : mintConfirmed who book s = .ok (confirmed, book', s')) : book'.Aligned cfg := by
  obtain ⟨hledger, hsettlements, -⟩ := mintConfirmed_ledger hmint
  refine ⟨fun who' hpending => ?_, hsettlements ▸ h.eras, hsettlements ▸ h.fraction⟩
  have hne : book'.ledger.pending who' ≠ 0 := fun hzero => hpending (toNat_eq_zero_iff.mp hzero)
  rcases hledger with hsame | ⟨hnothing, hforget⟩
  · change cfg.eraDuration.toNat ∣ book'.ledger.last who'
    rw [hsame] at hne ⊢
    exact h.rewards who' fun hzero => hne (toNat_eq_zero_iff.mpr hzero)
  · change cfg.eraDuration.toNat ∣ book'.ledger.last who'
    rw [hforget] at hne ⊢
    have hother : who' ≠ who := by
      rintro rfl
      exact hne hnothing
    have hlast : (book.ledger.forget who).last who' = book.ledger.last who' := Function.update_of_ne hother _ _
    rw [hlast]
    exact h.rewards who' fun hzero => hne (toNat_eq_zero_iff.mpr hzero)

structure Book.Sound (cfg : Config) (now : U32) (book : Book) : Prop where
  ledger : book.ledger.Sound (eraStart cfg now)
  aligned : book.Aligned cfg

theorem Book.Sound.mono (h : book.Sound cfg now) {later : U32} (hle : now ≤ later) : book.Sound cfg later :=
  ⟨h.ledger.mono (eraStart_mono hle), h.aligned⟩

theorem Book.Sound.contribute (h : book.Sound cfg now) {eraRewards vol confirmed : U128} {mid : Book}
    (hera : beginOfEra cfg now = .ok era) (hadd : book.addVolume account era vol = .ok mid)
    (hrotate : rotate cfg eraRewards now era vol account mid = .ok (confirmed, book')) : book'.Sound cfg now := by
  have hstart := beginOfEra_eq_ok hera
  constructor
  · have hledger : book'.ledger = book.ledger.contribute account era.toNat vol.toNat := by
      rw [rotate_ledger hrotate, addVolume_ledger hadd]
      rfl
    rw [hledger, ← hstart]
    exact h.ledger.contribute hstart.ge
  · have hmid : mid.Aligned cfg := by
      simp only [Book.addVolume, bind_eq_ok, pure_eq_ok] at hadd
      obtain ⟨total, -, rfl⟩ := hadd
      exact ⟨h.aligned.rewards, h.aligned.eras, h.aligned.fraction⟩
    exact hmid.rotate (hstart ▸ dvd_eraStart now) hrotate

/-- A claim changes the book, the issuance and the balances. -/
theorem Book.Sound.claim {confirmed : U128} (h : book.Sound cfg s.now)
    (hclaim : claim who s.now book s = .ok (confirmed, book', s')) :
    book'.Sound cfg s.now ∧ ∃ issuance asset, s' = { s with issuance, asset } := by
  simp only [Rewarding.claim, bind_eq_ok, Prod.exists] at hclaim
  obtain ⟨era, hera, pending, mid, hrotate, hclaim⟩ := hclaim
  have hstart := beginOfEra_eq_ok hera
  have hmid : mid.Sound cfg s.now := by
    constructor
    · rw [rotate_ledger hrotate, ← hstart]
      exact h.ledger.visit hstart.ge
    · exact h.aligned.rotate (hstart ▸ dvd_eraStart s.now) hrotate
  split at hclaim
  · simp only [pure_eq_ok, Prod.mk.injEq] at hclaim
    obtain ⟨-, rfl, rfl⟩ := hclaim
    exact ⟨hmid, s.issuance, s.asset, rfl⟩
  · obtain ⟨hledger, -, hs'⟩ := mintConfirmed_ledger hclaim
    refine ⟨⟨?_, hmid.aligned.mint hclaim⟩, hs'⟩
    rcases hledger with hsame | ⟨hnothing, hforget⟩
    · rw [hsame]
      exact hmid.ledger
    · rw [hforget]
      exact hmid.ledger.forget hnothing

/-! ### Errors that never occur -/

/-- The balances pallet has errors of its own. -/
def MintsCleanly (cfg : Token.Config) : Prop :=
  ∀ s who v e, cfg.balances.mutateAccount s who v ≠ .error (.err (.reward e))

/-- An error that the pallet declares, and that would mean that its records contradict each other. -/
def Spurious (e : RewardError) : Prop := e = .divideByZero ∨ e = .rewardNotFound

/-- What is pending of an account is part of the volume of its era. -/
def Book.Covers (book : Book) (account : AccountId) : Prop :=
  (book.rewardOf account).pendingVol.toNat ≤ (book.volumeOf (book.rewardOf account).lastModify).toNat

theorem Book.Sound.covers (h : book.Sound cfg now) (account : AccountId) : book.Covers account := by
  rw [Book.Covers, ← ledger_total]
  exact h.ledger.pending_le account

theorem Spurious.ne_overflow {e : RewardError} (he : Spurious e) : RewardError.overflow ≠ e := by
  rintro rfl
  exact he.elim (by simp) (by simp)

theorem rotate_ne {eraRewards contribution : U128} {e : RewardError} (hcovers : book.Covers account)
    (he : Spurious e) : rotate cfg eraRewards now era contribution account book ≠ .error (.err (.reward e)) := by
  intro hrotate
  unfold rotate at hrotate
  dsimp only at hrotate
  have hoverflow := he.ne_overflow
  split at hrotate
  · simp only [bind_eq_error, okOr_eq_error, Abort.err.injEq, DispatchError.reward.injEq, hoverflow, pure, Except.pure,
      reduceCtorEq, and_false, exists_false, or_false] at hrotate
  split at hrotate
  · exact absurd hrotate (by simp [pure, Except.pure])
  · rename_i hpending
    have hne : (book.rewardOf account).pendingVol.toNat ≠ 0 := fun hzero => hpending (toNat_eq_zero_iff.mp hzero)
    have hpos : book.volumeOf (book.rewardOf account).lastModify > 0 :=
      Nat.lt_of_lt_of_le (Nat.pos_of_ne_zero hne) hcovers
    simp only [bind_eq_error, ensure_eq_error, okOr_eq_error, hpos, not_true_eq_false, false_and,
      Abort.err.injEq, DispatchError.reward.injEq, hoverflow, pure, Except.pure, reduceCtorEq, and_false, exists_false,
      or_false] at hrotate

/-- The record that a rotation returns the reward of is there. -/
theorem exists_of_rotate {eraRewards contribution confirmed : U128}
    (h : rotate cfg eraRewards now era contribution account book = .ok (confirmed, book')) :
    (book'.rewards account).isSome := by
  unfold rotate at h
  dsimp only at h
  split at h
  · simp only [bind_eq_ok, pure_eq_ok, Prod.mk.injEq] at h
    obtain ⟨_, -, -, rfl⟩ := h
    exact Option.isSome_of_eq_some (StorageMap.insert_self ..)
  split at h
  · simp only [pure_eq_ok, Prod.mk.injEq] at h
    obtain ⟨-, rfl⟩ := h
    exact Option.isSome_of_eq_some (StorageMap.insert_self ..)
  · simp only [bind_eq_ok, pure_eq_ok, Prod.mk.injEq] at h
    obtain ⟨-, -, _, -, -, rfl⟩ := h
    exact Option.isSome_of_eq_some (StorageMap.insert_self ..)

theorem mintConfirmed_ne (hmints : MintsCleanly cfg.token) {e : RewardError} (he : Spurious e)
    (hsome : (book.rewards who).isSome) : mintConfirmed who book s ≠ .error (.err (.reward e)) := by
  intro hmint
  have hoverflow := he.ne_overflow
  obtain ⟨reward, hreward⟩ := Option.isSome_iff_exists.mp hsome
  rw [mintConfirmed, hreward, okOr_some, ok_bind] at hmint
  dsimp only at hmint
  split at hmint
  · simp only [bind_eq_error, okOr_eq_error, Abort.err.injEq, DispatchError.reward.injEq, hoverflow, and_false,
      false_or, Token.tryMutateAccount, if_true, reduceCtorEq, pure, Except.pure, exists_false, or_false] at hmint
    obtain ⟨issuance, -, v, -, hmutate⟩ := hmint
    exact hmints _ _ _ _ hmutate
  · exact absurd hmint (by simp [pure, Except.pure])

theorem Book.Sound.claim_ne (hmints : MintsCleanly cfg.token) {e : RewardError} (h : book.Sound cfg s.now)
    (he : Spurious e) : Rewarding.claim who block book s ≠ .error (.err (.reward e)) := by
  intro hclaim
  simp only [Rewarding.claim, bind_eq_error, beginOfEra, ensure_eq_error, reduceCtorEq, and_false, pure, Except.pure,
    exists_false, or_false, false_or, Prod.exists] at hclaim
  obtain ⟨era, -, hrotate | ⟨confirmed, mid, hrotate, hclaim⟩⟩ := hclaim
  · exact rotate_ne (h.covers who) he hrotate
  · split at hclaim
    · exact absurd hclaim (by simp)
    · exact mintConfirmed_ne hmints he (exists_of_rotate hrotate) hclaim

/-! ### In every run -/

structure State.Sound (s : State cfg) : Prop where
  legacy : s.legacy.Sound cfg s.now
  marketing : s.marketing.Sound cfg s.now

theorem removeLiquidity_frame {maker : AccountId} {symbol : Symbol} {vol : U128} {startFrom : U32}
    (h : removeLiquidity maker symbol vol s = .ok (startFrom, s')) :
    ∃ liquidityPool, s' = { s with liquidityPool } := by
  unfold removeLiquidity at h
  split at h
  · obtain ⟨-, rfl⟩ := Prod.mk.inj (pure_eq_ok.mp h)
    exact ⟨s.liquidityPool, rfl⟩
  · simp only [bind_eq_ok, pure_eq_ok, Prod.mk.injEq] at h
    obtain ⟨_, -, _, -, -, rfl⟩ := h
    exact ⟨_, rfl⟩

theorem State.Sound.consumeLiquidity (h : s.Sound) {maker : AccountId} {symbol : Symbol} {vol : U128}
    (hconsume : consumeLiquidity maker symbol vol s.now s = .ok s') : s'.Sound := by
  unfold Rewarding.consumeLiquidity at hconsume
  split at hconsume
  · rename_i startFrom mid hremove
    obtain ⟨liquidityPool, rfl⟩ := removeLiquidity_frame hremove
    simp only [bind_eq_ok, pure_eq_ok, Prod.exists] at hconsume
    obtain ⟨era, hera, vol', -, book, hadd, trading, -, confirmed, book', hrotate, rfl⟩ := hconsume
    exact ⟨h.legacy, h.marketing.contribute hera hadd hrotate⟩
  · rw [← Except.ok.inj hconsume]
    exact h
  · exact absurd hconsume (by simp)

theorem State.Sound.claimLegacyReward (h : s.Sound) {confirmed : U128}
    (hclaim : claimLegacyReward who s.now s = .ok (confirmed, s')) : s'.Sound := by
  simp only [Rewarding.claimLegacyReward, bind_eq_ok, pure_eq_ok, Prod.exists, Prod.mk.injEq] at hclaim
  obtain ⟨_, legacy, mid, hclaim, -, rfl⟩ := hclaim
  obtain ⟨hsound, issuance, asset, rfl⟩ := h.legacy.claim hclaim
  exact ⟨hsound, h.marketing⟩

theorem State.Sound.claimReward (h : s.Sound) {confirmed : U128}
    (hclaim : claimReward who s.now s = .ok (confirmed, s')) : s'.Sound := by
  simp only [Rewarding.claimReward, bind_eq_ok, pure_eq_ok, Prod.exists, Prod.mk.injEq] at hclaim
  obtain ⟨_, marketing, mid, hclaim, -, rfl⟩ := hclaim
  obtain ⟨hsound, issuance, asset, rfl⟩ := h.marketing.claim hclaim
  exact ⟨h.legacy, hsound⟩

theorem State.Sound.takeReward (h : s.Sound) {origin : Origin} (htake : takeReward origin s = .ok s') : s'.Sound := by
  simp only [Rewarding.takeReward, bind_eq_ok, pure_eq_ok, Prod.exists] at htake
  obtain ⟨who, -, legacyReward, mid, hlegacy, reward, last, hreward, _, -, rfl⟩ := htake
  exact (h.claimLegacyReward hlegacy).claimReward hreward

theorem State.Sound.saveTrading (h : s.Sound) {trader : AccountId} {vol : U128}
    (hsave : saveTrading trader vol s.now s = .ok s') : s'.Sound := by
  unfold Rewarding.saveTrading at hsave
  split at hsave
  · rw [← pure_eq_ok.mp hsave]
    exact h
  · simp only [bind_eq_ok, pure_eq_ok, Prod.exists] at hsave
    obtain ⟨era, hera, book, hadd, confirmed, book', hrotate, rfl⟩ := hsave
    exact ⟨h.legacy.contribute hera hadd hrotate, h.marketing⟩

theorem State.Sound.perform (h : s.Sound) {c : Call} (hc : c.perform s = .ok s') : s'.Sound := by
  cases c with
  | putLiquidity maker symbol vol =>
      rw [← Except.ok.inj hc, putLiquidity]
      split
      · exact h
      · exact ⟨h.legacy, h.marketing⟩
  | removeLiquidity maker symbol vol =>
      simp only [Call.perform, bind_eq_ok, pure_eq_ok, Prod.exists] at hc
      obtain ⟨startFrom, mid, hremove, rfl⟩ := hc
      obtain ⟨liquidityPool, rfl⟩ := removeLiquidity_frame hremove
      exact ⟨h.legacy, h.marketing⟩
  | consumeLiquidity maker symbol vol => exact h.consumeLiquidity hc
  | takeReward origin => exact h.takeReward hc
  | setEraRewards origin eraRewards =>
      simp only [Call.perform, setEraRewards, bind_eq_ok, pure_eq_ok] at hc
      obtain ⟨-, -, rfl⟩ := hc
      exact ⟨h.legacy, h.marketing⟩
  | saveTrading trader vol => exact h.saveTrading hc

theorem empty_sound : Book.Sound cfg now .empty := by
  refine ⟨⟨fun who e => ?_, fun e => ?_, fun who hpending => absurd rfl hpending,
    fun x hx => absurd hx List.not_mem_nil, fun x hx => absurd hx List.not_mem_nil,
    fun x hx => absurd hx List.not_mem_nil, List.nodup_nil, fun who hpending => absurd rfl hpending⟩,
    ⟨fun who hpending => absurd rfl hpending, fun x hx => absurd hx List.not_mem_nil,
      fun x hx => absurd hx List.not_mem_nil⟩⟩
  · have hnothing : Ledger.pendingIn (Book.ledger .empty) who e = 0 := ite_self _
    rw [hnothing]
    rfl
  · exact (ite_self _).symm

theorem sound_of_reachable (h : Transition.Reachable Genesis Step s) : s.Sound := by
  refine h.invariant State.Sound (fun s hs => ?_) fun s s' hinv hstep => ?_
  · constructor
    · rw [hs.legacy]
      exact empty_sound
    · rw [hs.marketing]
      exact empty_sound
  · cases hstep with
    | call c h => exact hinv.perform h
    | outside now issuance asset hnow => exact ⟨hinv.legacy.mono hnow, hinv.marketing.mono hnow⟩

/-! ### What a book says of an era -/

def Book.settledVol (book : Book) (era : Era) : Nat :=
  ((book.settlements.filter fun x => x.era = era).map fun x => x.vol.toNat).sum

/-- What is pending of all accounts whose last era this is. -/
noncomputable def Book.pendingIn (book : Book) (era : Era) : Nat :=
  ∑ who, if (book.rewardOf who).lastModify = era then (book.rewardOf who).pendingVol.toNat else 0

def Book.contributed (book : Book) (who : AccountId) (era : Era) : Nat :=
  ((book.contributions.filter fun c => c.who = who ∧ c.era = era).map fun c => c.vol.toNat).sum

structure Book.Exact (cfg : Config) (now : U32) (book : Book) : Prop where
  /-- Contributions have become rewards or are pending. -/
  total : ∀ era, book.settledVol era + book.pendingIn era = (book.volumeOf era).toNat
  /-- An account is rewarded once for an era. -/
  once : (book.settlements.map fun x => (x.who, x.era)).Nodup
  /-- It is rewarded for all it contributed. -/
  whole : ∀ x ∈ book.settlements, x.vol.toNat = book.contributed x.who x.era
  /-- It is rewarded after the era has ended. -/
  ended : ∀ x ∈ book.settlements, x.era.toNat + cfg.eraDuration.toNat ≤ x.settledIn.toNat ∧ x.settledIn ≤ now
  /-- The parts of the rewards of an era make up no more than all of them. -/
  fractions : ∀ era, ((book.settlements.filter fun x => x.era = era).map fun x => x.fraction.toNat).sum ≤
    quintill.toNat

theorem settledVol_eq (book : Book) (era : Era) : book.settledVol era = epochSum book.ledger.settled era.toNat := by
  rw [Book.settledVol, epochSum, Ledger.settled, Book.ledger]
  simp only [List.map_map, List.filter_map]
  congr 2
  refine List.filter_congr fun x _ => ?_
  simp only [Function.comp_apply, Settlement.entry, BitVec.toNat_inj]

theorem pendingIn_eq (book : Book) (era : Era) : book.pendingIn era = ∑ who, book.ledger.pendingIn who era.toNat := by
  refine Finset.sum_congr rfl fun who _ => ?_
  simp only [Ledger.pendingIn, Book.ledger, BitVec.toNat_inj]

theorem contributed_eq (book : Book) (who : AccountId) (era : Era) :
    book.contributed who era = Epoch.sumOf book.ledger.contributions who era.toNat := by
  rw [Book.contributed, Epoch.sumOf, Book.ledger]
  simp only [List.map_map, List.filter_map]
  congr 2
  refine List.filter_congr fun c _ => ?_
  simp only [Function.comp_apply, Contribution.entry, BitVec.toNat_inj]

/-- What was settled was settled out of the total of its era. -/
theorem Book.Sound.totalVol (h : book.Sound cfg now) {x : Settlement} (hx : x ∈ book.settlements) :
    x.totalVol = book.volumeOf x.era ∧ x.totalVol ≠ 0 := by
  have hmem : x.entry ∈ book.ledger.settlements := List.mem_map_of_mem hx
  have htotal : x.totalVol.toNat = book.ledger.total x.era.toNat := h.ledger.outOf x.entry hmem
  rw [ledger_total] at htotal
  refine ⟨BitVec.eq_of_toNat_eq htotal, fun hzero => ?_⟩
  have hle : x.vol.toNat ≤ x.totalVol.toNat := h.ledger.amount_le hmem
  rw [hzero] at hle
  exact h.ledger.nonzero x.entry hmem (Nat.le_zero.mp hle)

theorem Book.Sound.exact (h : book.Sound cfg now) : book.Exact cfg now := by
  have hmem : ∀ x ∈ book.settlements, x.entry ∈ book.ledger.settlements := fun x hx => List.mem_map_of_mem hx
  refine ⟨fun era => ?_, ?_, fun x hx => ?_, fun x hx => ?_, fun era => ?_⟩
  · rw [settledVol_eq, pendingIn_eq, h.ledger.total_eq, ledger_total]
  · have honce := h.ledger.once
    have hkeys : (book.ledger.settlements.map fun x => (x.key, x.epoch)) =
        (book.settlements.map fun x => (x.who, x.era)).map fun key => (key.1, key.2.toNat) := by
      rw [Book.ledger, List.map_map, List.map_map]
      rfl
    rw [hkeys] at honce
    exact honce.of_map
  · rw [contributed_eq]
    exact h.ledger.amount_eq (hmem x hx)
  · obtain ⟨hlater, hstart⟩ := h.ledger.past x.entry (hmem x hx)
    obtain ⟨hera, hsettled⟩ := h.aligned.eras x hx
    have hpos : 0 < x.settledIn.toNat - x.era.toNat := Nat.sub_pos_of_lt hlater
    have hduration := Nat.le_of_dvd hpos (Nat.dvd_sub hsettled hera)
    constructor
    · omega
    · exact hstart.trans (eraStart_le now)
  · have hparts : ((book.settlements.filter fun x => x.era = era).map fun x => x.vol.toNat).sum ≤
        (book.volumeOf era).toNat := by
      have htotal := h.ledger.total_eq era.toNat
      rw [← settledVol_eq, ← pendingIn_eq, ledger_total] at htotal
      exact (Nat.le_add_right _ _).trans htotal.le
    have hsame : ((book.settlements.filter fun x => x.era = era).map fun x => x.fraction.toNat) =
        ((book.settlements.filter fun x => x.era = era).map Settlement.vol).map fun p =>
          (cfg.fractions.fromRational p (book.volumeOf era)).toNat := by
      rw [List.map_map]
      apply List.map_congr_left
      intro x hx
      obtain ⟨hsettled, hera⟩ := List.mem_filter.mp hx
      rw [h.aligned.fraction x hsettled, (h.totalVol hsettled).1, of_decide_eq_true hera]
      rfl
    by_cases hnothing : book.volumeOf era = 0
    · have hnone : (book.settlements.filter fun x => x.era = era) = [] := by
        apply List.filter_eq_nil_iff.mpr
        intro x hx hera
        obtain ⟨htotal, hne⟩ := h.totalVol hx
        rw [htotal, of_decide_eq_true hera] at hne
        exact hne hnothing
      rw [hnone]
      exact Nat.zero_le _
    · rw [hsame]
      apply cfg.fractions.partsFit _ _ hnothing
      rw [List.map_map]
      exact hparts

theorem addVolume_ne {vol : U128} {e : RewardError} (he : Spurious e) :
    book.addVolume account era vol ≠ .error (.err (.reward e)) := by
  intro hadd
  simp only [Book.addVolume, bind_eq_error, okOr_eq_error, Abort.err.injEq, DispatchError.reward.injEq, he.ne_overflow,
    pure, Except.pure, reduceCtorEq, and_false, exists_false, or_false] at hadd

/-- More volume covers what was covered. -/
theorem Book.Covers.addVolume {vol : U128} (h : book.Covers account) (hadd : book.addVolume who era vol = .ok book') :
    book'.Covers account := by
  simp only [Book.addVolume, bind_eq_ok, okOr_eq_ok, Word.checkedAdd_eq_some, pure_eq_ok] at hadd
  obtain ⟨total, htotal, rfl⟩ := hadd
  refine h.trans ?_
  change (book.volumeOf (book.rewardOf account).lastModify).toNat ≤
    ((book.volumes.insert era total (book.rewardOf account).lastModify).getD 0).toNat
  rw [StorageMap.insert_apply]
  split
  · rename_i heq
    rw [heq, Option.getD_some, htotal]
    exact Nat.le_add_right _ _
  · exact Nat.le_refl _

theorem State.Sound.consumeLiquidity_ne (h : s.Sound) {maker : AccountId} {symbol : Symbol} {vol : U128}
    {e : RewardError} (he : Spurious e) :
    Rewarding.consumeLiquidity maker symbol vol block s ≠ .error (.err (.reward e)) := by
  intro hconsume
  unfold Rewarding.consumeLiquidity at hconsume
  split at hconsume
  · rename_i startFrom mid hremove
    obtain ⟨liquidityPool, rfl⟩ := removeLiquidity_frame hremove
    simp only [bind_eq_error, beginOfEra, contributionOf, ensure_eq_error, okOr_eq_error, Abort.err.injEq,
      DispatchError.reward.injEq, he.ne_overflow, pure, Except.pure, reduceCtorEq, and_false, exists_false, or_false,
      false_or] at hconsume
    obtain ⟨era, -, contribution, -, hadd | ⟨book, hadd, trading, -, hrotate⟩⟩ := hconsume
    · exact addVolume_ne he hadd
    · exact rotate_ne ((h.marketing.covers maker).addVolume hadd) he hrotate
  · exact absurd hconsume (by simp)
  · exact absurd hconsume (by simp)

theorem State.Sound.takeReward_ne (hmints : MintsCleanly cfg.token) (h : s.Sound) {origin : Origin} {e : RewardError}
    (he : Spurious e) : Rewarding.takeReward origin s ≠ .error (.err (.reward e)) := by
  intro htake
  simp only [Rewarding.takeReward, bind_eq_error, okOr_eq_error, Abort.err.injEq, DispatchError.reward.injEq,
    he.ne_overflow, pure, Except.pure, reduceCtorEq, and_false, exists_false, or_false, Prod.exists] at htake
  obtain horigin | ⟨who, -, hlegacy | ⟨legacyReward, mid, hlegacy, hreward⟩⟩ := htake
  · cases origin <;> simp [ensureSigned] at horigin
  · simp only [Rewarding.claimLegacyReward, bind_eq_error, pure, Except.pure, reduceCtorEq, and_false, exists_false,
      or_false] at hlegacy
    exact h.legacy.claim_ne hmints he hlegacy
  · simp only [Rewarding.claimReward, bind_eq_error, pure, Except.pure, reduceCtorEq, and_false, exists_false,
      or_false] at hreward
    exact (h.claimLegacyReward hlegacy).marketing.claim_ne hmints he hreward

theorem State.Sound.perform_ne (hmints : MintsCleanly cfg.token) (h : s.Sound) {e : RewardError} (he : Spurious e)
    (c : Call) : c.perform s ≠ .error (.err (.reward e)) := by
  intro hc
  cases c with
  | putLiquidity maker symbol vol => exact absurd hc (by simp [Call.perform])
  | removeLiquidity maker symbol vol =>
      simp only [Call.perform, removeLiquidity, bind_eq_error, pure, Except.pure, reduceCtorEq, and_false,
        exists_false, or_false] at hc
      split at hc
      · exact absurd hc (by simp)
      · simp only [bind_eq_error, okOr_eq_error, Abort.err.injEq, DispatchError.reward.injEq, reduceCtorEq, and_false,
          exists_false, or_false] at hc
        rcases hc with ⟨-, rfl⟩ | ⟨_, -, -, rfl⟩ <;> exact he.elim (by simp) (by simp)
  | consumeLiquidity maker symbol vol => exact h.consumeLiquidity_ne he hc
  | takeReward origin => exact h.takeReward_ne hmints he hc
  | setEraRewards origin eraRewards =>
      simp only [Call.perform, setEraRewards, bind_eq_error, ensure_eq_error, pure, Except.pure, reduceCtorEq,
        and_false, exists_false, or_false] at hc
      exact absurd hc.2 (by simp)
  | saveTrading trader vol =>
      simp only [Call.perform, Rewarding.saveTrading] at hc
      split at hc
      · exact absurd hc (by simp [pure, Except.pure])
      · simp only [bind_eq_error, beginOfEra, ensure_eq_error, pure, Except.pure, reduceCtorEq, and_false,
          exists_false, or_false, false_or] at hc
        obtain ⟨era, -, hadd | ⟨book, hadd, hrotate⟩⟩ := hc
        · exact addVolume_ne he hadd
        · exact rotate_ne ((h.legacy.covers trader).addVolume hadd) he hrotate

/-- In every run, the books are exact, and no record is missing or divided by nothing. -/
theorem contributions_rewarded_once (hmints : MintsCleanly cfg.token)
    (h : Transition.Reachable Genesis Step s) : s.marketing.Exact cfg s.now ∧ s.legacy.Exact cfg s.now ∧
      ∀ c : Call, c.perform s ≠ .error RewardError.divideByZero ∧ c.perform s ≠ .error RewardError.rewardNotFound := by
  have hsound := sound_of_reachable h
  exact ⟨hsound.marketing.exact, hsound.legacy.exact, fun c =>
    ⟨hsound.perform_ne hmints (.inl rfl) c, hsound.perform_ne hmints (.inr rfl) c⟩⟩

/-- The fractions of the runtime, whose products are rounded to the nearest whole. -/
def Fractions.reduced : Fractions where
  toPerquintill := Indicator.Perquintill.reduced
  partsFit := Indicator.Perquintill.reduced_partsFit
  mul p a := BitVec.ofNat 128 ((2 * p.toNat * a.toNat + quintill.toNat - 1) / (2 * quintill.toNat))

def plainConfig : Config where
  token := Token.plainConfig
  eraDuration := 100
  timeCoefficientZoom := 1
  rewardTerminateAt := 1000000
  fractions := .reduced
  treasuryOrigin origin := origin = .root

/-- In block 101, with a million to share in each era. -/
def startState : State plainConfig where
  now := 101
  liquidityPool := fun _ => none
  eraRewards := 1000000
  legacy := .empty
  marketing := .empty
  tradingVolumes := fun _ => none
  issuance := 0
  asset := .genesis fun _ => (0, 0)

theorem plain_mintsCleanly : MintsCleanly plainConfig.token := by
  intro s who v e h
  simp [plainConfig, Token.plainConfig, Balances.plain] at h

/-- What alice contributed in the second era is settled in the fourth. -/
theorem contributions_rewarded_once_settled : ∃ s : State plainConfig,
    s.marketing.settlements = [⟨Token.alice, 100, 10, 10, quintill, 300⟩] ∧
      s.marketing.rewardOf Token.alice = ⟨1000000, 1000, 300⟩ ∧ s.marketing.Exact plainConfig s.now := by
  obtain ⟨⟨s₁, s₂⟩, hrun, hcheck⟩ := exists_of_succeedsWith
    (x := do
      let s := putLiquidity Token.alice (0, 1) 1000 101 startState
      let s₁ ← consumeLiquidity Token.alice (0, 1) 10 101 s
      let s₂ ← consumeLiquidity Token.alice (0, 1) 10 301 { s₁ with now := 301 }
      return (s₁, s₂))
    (p := fun x => decide (x.1.now = 101) &&
      decide (x.2.marketing.settlements = [⟨Token.alice, 100, 10, 10, quintill, 300⟩]) &&
      decide (x.2.marketing.rewardOf Token.alice = ⟨1000000, 1000, 300⟩)) (by decide +kernel)
  simp only [Bool.and_eq_true, decide_eq_true_eq] at hcheck
  obtain ⟨⟨hnow, hsettlements⟩, hreward⟩ := hcheck
  simp only [bind_eq_ok, pure_eq_ok, Prod.mk.injEq] at hrun
  obtain ⟨t₁, h₁, t₂, h₂, rfl, rfl⟩ := hrun
  have hlater : t₁.now ≤ (301 : U32) := by
    rw [hnow]
    decide
  have hreach : Transition.Reachable Genesis Step t₂ :=
    ⟨startState, ⟨rfl, rfl⟩, (((Relation.ReflTransGen.single
      (.call (.putLiquidity Token.alice (0, 1) 1000) rfl)).tail
      (.call (.consumeLiquidity Token.alice (0, 1) 10) h₁)).tail
      (.outside t₁ 301 t₁.issuance t₁.asset hlater)).tail
      (.call (.consumeLiquidity Token.alice (0, 1) 10) h₂)⟩
  exact ⟨t₂, hsettlements, hreward, (contributions_rewarded_once plain_mintsCleanly hreach).1⟩

end Fusotao.Rewarding
