import Fusotao.Rewarding.Payout
import Fusotao.Verifier.Calls
import Fusotao.Verifier.Trades
import Mathlib.Algebra.Order.BigOperators.Group.List
import Mathlib.Data.List.Forall2

/-!
# Rewards are for what makers had filled

The verifier tells the reward pallet of each maker whose order was filled. With both in one runtime, the contributions
to the eras are, one after the other, for what the orders that were applied have filled, and nobody is rewarded for
more.
-/

namespace Fusotao.Rewarding

open Exec Relation

open List (SublistForall₂)
open Verifier (Fill MakerMutation ProofV2 fillsOf)

variable {cfg : Config} {s s' : State cfg} {book book' : Book} {fills fills' : List Fill} {now : BlockNumber}

/-! ### What a contribution is for -/

/-- How often a volume counts at most: as that of an order which has stood for an era. -/
def maxCoefficient (cfg : Config) : Nat := max 1 (cfg.eraDuration.toNat / cfg.timeCoefficientZoom.toNat)

/-- The maker contributed what it had filled, once at least. -/
structure EarnedBy (cfg : Config) (c : Contribution) (fill : Fill) : Prop where
  who : c.who = fill.maker
  vol : ∃ coefficient : U128, 1 ≤ coefficient.toNat ∧ coefficient.toNat ≤ maxCoefficient cfg ∧
    c.vol = coefficient * fill.vol

theorem EarnedBy.le {c : Contribution} {fill : Fill} (h : EarnedBy cfg c fill) :
    c.vol.toNat ≤ maxCoefficient cfg * fill.vol.toNat := by
  obtain ⟨coefficient, -, hle, hvol⟩ := h.vol
  calc c.vol.toNat = coefficient.toNat * fill.vol.toNat % 2 ^ 128 := by rw [hvol, BitVec.toNat_mul]
    _ ≤ coefficient.toNat * fill.vol.toNat := Nat.mod_le _ _
    _ ≤ maxCoefficient cfg * fill.vol.toNat := Nat.mul_le_mul_right _ hle

/-- What an account had filled. -/
def filledBy (who : AccountId) (fills : List Fill) : Nat :=
  ((fills.filter fun fill => fill.maker = who).map fun fill => fill.vol.toNat).sum

theorem filledBy_cons (who : AccountId) (fill : Fill) (fills : List Fill) :
    filledBy who (fill :: fills) = (if fill.maker = who then fill.vol.toNat else 0) + filledBy who fills := by
  unfold filledBy
  split
  · rename_i hwho
    rw [List.filter_cons_of_pos (by simpa using hwho), List.map_cons, List.sum_cons]
  · rename_i hwho
    rw [List.filter_cons_of_neg (by simpa using hwho), Nat.zero_add]

/-- What an account contributed to an era is for what it had filled. -/
theorem sum_earned_le {l : List Contribution} (h : SublistForall₂ (EarnedBy cfg) l fills) (who : AccountId)
    (era : Era) : ((l.filter fun c => c.who = who ∧ c.era = era).map fun c => c.vol.toNat).sum ≤
      maxCoefficient cfg * filledBy who fills := by
  induction h with
  | nil => exact Nat.zero_le _
  | @cons c fill l fills hearned hrest ih =>
      rw [filledBy_cons, Nat.mul_add]
      by_cases hkey : c.who = who ∧ c.era = era
      · rw [List.filter_cons_of_pos (by simpa using hkey), List.map_cons, List.sum_cons]
        rw [if_pos (hearned.who.symm.trans hkey.1)]
        exact Nat.add_le_add hearned.le ih
      · rw [List.filter_cons_of_neg (by simpa using hkey)]
        exact ih.trans (Nat.le_add_left _ _)
  | cons_right hrest ih =>
      rw [filledBy_cons]
      exact ih.trans (Nat.mul_le_mul_left _ (Nat.le_add_left _ _))

theorem contributed_le (h : SublistForall₂ (EarnedBy cfg) book.contributions.reverse fills) (who : AccountId)
    (era : Era) : book.contributed who era ≤ maxCoefficient cfg * filledBy who fills := by
  have hsum := sum_earned_le h who era
  rw [List.filter_reverse, List.map_reverse, List.sum_reverse] at hsum
  exact hsum

theorem earned_append {l l' : List Contribution} (h : SublistForall₂ (EarnedBy cfg) l fills)
    (h' : SublistForall₂ (EarnedBy cfg) l' fills') : SublistForall₂ (EarnedBy cfg) (l ++ l') (fills ++ fills') := by
  obtain ⟨some, hsome, hsub⟩ := List.sublistForall₂_iff.mp h
  obtain ⟨some', hsome', hsub'⟩ := List.sublistForall₂_iff.mp h'
  exact List.sublistForall₂_iff.mpr ⟨some ++ some', List.rel_append hsome hsome', hsub.append hsub'⟩

/-! ### What the pallet writes down -/

theorem rotate_contributions {eraRewards contribution confirmed : U128} {block : U32} {era : Era} {account : AccountId}
    (h : rotate cfg eraRewards block era contribution account book = .ok (confirmed, book')) :
    book'.contributions = book.contributions := by
  unfold rotate at h
  dsimp only at h
  split at h
  · simp only [bind_eq_ok, pure_eq_ok, Prod.mk.injEq] at h
    obtain ⟨pendingVol, -, -, rfl⟩ := h
    rfl
  split at h
  · simp only [pure_eq_ok, Prod.mk.injEq] at h
    obtain ⟨-, rfl⟩ := h
    rfl
  · simp only [bind_eq_ok, pure_eq_ok, Prod.mk.injEq] at h
    obtain ⟨-, -, total, -, -, rfl⟩ := h
    rfl

theorem claim_contributions {who : AccountId} {block : U32} {confirmed : U128}
    (h : claim who block book s = .ok (confirmed, book', s')) : book'.contributions = book.contributions := by
  simp only [claim, bind_eq_ok, Prod.exists] at h
  obtain ⟨era, -, pending, mid, hrotate, h⟩ := h
  have hmid := rotate_contributions hrotate
  split at h
  · simp only [pure_eq_ok, Prod.mk.injEq] at h
    obtain ⟨-, rfl, -⟩ := h
    exact hmid
  · simp only [mintConfirmed, bind_eq_ok] at h
    obtain ⟨reward, -, h⟩ := h
    split at h
    · simp only [bind_eq_ok, pure_eq_ok, Prod.mk.injEq] at h
      obtain ⟨issuance, -, asset, -, -, rfl, -⟩ := h
      exact hmid
    · simp only [pure_eq_ok, Prod.mk.injEq] at h
      obtain ⟨-, rfl, -⟩ := h
      exact hmid

theorem toNat_atLeastOnce (q : U128) : 1 ≤ (if q ≤ 1 then (1 : U128) else q).toNat ∧
    (if q ≤ 1 then (1 : U128) else q).toNat ≤ max 1 q.toNat := by
  split
  · exact ⟨Nat.le_refl 1, Nat.le_max_left 1 q.toNat⟩
  · rename_i hlt
    exact ⟨(Nat.lt_of_not_le hlt).le, Nat.le_max_right 1 q.toNat⟩

theorem contributionOf_eq_ok {vol contribution : U128} {startFrom current : U32}
    (h : contributionOf cfg vol startFrom current = .ok contribution) : ∃ coefficient : U128,
      1 ≤ coefficient.toNat ∧ coefficient.toNat ≤ maxCoefficient cfg ∧ contribution = coefficient * vol := by
  simp only [contributionOf, bind_eq_ok, pure_eq_ok] at h
  obtain ⟨-, -, rfl⟩ := h
  refine ⟨_, (toNat_atLeastOnce _).1, (toNat_atLeastOnce _).2.trans ?_, rfl⟩
  have hduration : (if (current - startFrom).setWidth 128 ≤ cfg.eraDuration.setWidth 128 then
      (current - startFrom).setWidth 128 else cfg.eraDuration.setWidth 128 : U128).toNat ≤ cfg.eraDuration.toNat := by
    have hwidth : (cfg.eraDuration.setWidth 128).toNat = cfg.eraDuration.toNat :=
      BitVec.toNat_setWidth_of_le (by decide)
    split
    · rename_i hle
      exact hwidth ▸ hle
    · exact hwidth.le
  have hzoom : (cfg.timeCoefficientZoom.setWidth 128).toNat = cfg.timeCoefficientZoom.toNat :=
    BitVec.toNat_setWidth_of_le (by decide)
  rw [BitVec.toNat_udiv, hzoom]
  exact max_le_max (Nat.le_refl 1) (Nat.div_le_div_right hduration)

/-- A maker whose order is on record contributes, by what it had filled. -/
theorem consumeLiquidity_earned {maker : AccountId} {symbol : Symbol} {vol : U128} {current : U32}
    (h : consumeLiquidity maker symbol vol current s = .ok s') : s'.legacy = s.legacy ∧ s'.now = s.now ∧
      ∃ new, s'.marketing.contributions = new ++ s.marketing.contributions ∧
        SublistForall₂ (EarnedBy cfg) new.reverse [⟨maker, vol⟩] := by
  unfold consumeLiquidity at h
  split at h
  · rename_i startFrom mid hremove
    obtain ⟨liquidityPool, rfl⟩ := removeLiquidity_frame hremove
    simp only [bind_eq_ok, pure_eq_ok, Prod.exists] at h
    obtain ⟨era, -, contribution, hcontribution, book, hadd, trading, -, confirmed, book', hrotate, rfl⟩ := h
    refine ⟨rfl, rfl, [⟨maker, era, contribution⟩], ?_, ?_⟩
    · simp only [Book.addVolume, bind_eq_ok, pure_eq_ok] at hadd
      obtain ⟨total, -, rfl⟩ := hadd
      exact rotate_contributions hrotate
    · exact .cons ⟨rfl, contributionOf_eq_ok hcontribution⟩ .nil
  · rw [← Except.ok.inj h]
    exact ⟨rfl, rfl, [], rfl, .nil⟩
  · exact absurd h (by simp)

/-! ### What the pallet is told -/

/-- Within a block the pallet made steps of its own, and wrote down contributions for what was filled. -/
structure Fed (now : BlockNumber) (fills : List Fill) (s s' : State cfg) : Prop where
  run : s.now.toNat ≤ now → ReflTransGen Step s s' ∧ s'.now.toNat ≤ now
  legacy : s'.legacy.contributions = s.legacy.contributions
  earned : ∃ new, s'.marketing.contributions = new ++ s.marketing.contributions ∧
    SublistForall₂ (EarnedBy cfg) new.reverse fills

theorem Fed.refl (now : BlockNumber) (s : State cfg) : Fed now [] s s :=
  ⟨fun hnow => ⟨.refl, hnow⟩, rfl, [], rfl, .nil⟩

theorem Fed.trans {mid : State cfg} (h : Fed now fills s mid) (h' : Fed now fills' mid s') :
    Fed now (fills ++ fills') s s' := by
  refine ⟨fun hnow => ?_, h'.legacy.trans h.legacy, ?_⟩
  · obtain ⟨hrun, hmid⟩ := h.run hnow
    obtain ⟨hrun', hlast⟩ := h'.run hmid
    exact ⟨hrun.trans hrun', hlast⟩
  · obtain ⟨new, hnew, hearned⟩ := h.earned
    obtain ⟨new', hnew', hearned'⟩ := h'.earned
    refine ⟨new' ++ new, by rw [hnew', hnew, List.append_assoc], ?_⟩
    rw [List.reverse_append]
    exact earned_append hearned hearned'

/-- A step that contributes nothing. -/
theorem Fed.step (hstep : s.now.toNat ≤ now → Step s s' ∧ s'.now.toNat ≤ now)
    (hlegacy : s'.legacy.contributions = s.legacy.contributions)
    (hmarketing : s'.marketing.contributions = s.marketing.contributions) : Fed now [] s s' :=
  ⟨fun hnow => ⟨.single (hstep hnow).1, (hstep hnow).2⟩, hlegacy, [], hmarketing, .nil⟩

/-- The pallet in the block. -/
def inBlock (now : BlockNumber) (s : State cfg) : State cfg := { s with now := BitVec.ofNat 32 now }

theorem fed_inBlock (hrange : now < 2 ^ 32) (asset : Token.State cfg.token) (s : State cfg) :
    Fed now [] s { inBlock now s with asset } := by
  have hnow : (BitVec.ofNat 32 now).toNat = now := by rw [BitVec.toNat_ofNat, Nat.mod_eq_of_lt hrange]
  refine .step (fun hpast => ⟨.outside s _ s.issuance asset ?_, hnow.le⟩) rfl rfl
  change s.now.toNat ≤ (BitVec.ofNat 32 now).toNat
  rw [hnow]
  exact hpast

theorem consumeLiquidity_fed (hrange : now < 2 ^ 32) {maker : AccountId} {symbol : Symbol} {vol : U128}
    (h : consumeLiquidity maker symbol vol (BitVec.ofNat 32 now) (inBlock now s) = .ok s') :
    Fed now [⟨maker, vol⟩] s s' := by
  obtain ⟨hlegacy, hnow, hearned⟩ := consumeLiquidity_earned h
  have hcall : Fed now [⟨maker, vol⟩] (inBlock now s) s' := by
    refine ⟨fun hpast => ⟨.single (.call (.consumeLiquidity maker symbol vol) h), ?_⟩, congrArg _ hlegacy, hearned⟩
    rw [hnow]
    exact hpast
  exact (fed_inBlock hrange s.asset s).trans hcall

theorem putLiquidity_fed (hrange : now < 2 ^ 32) (maker : AccountId) (symbol : Symbol) (vol : U128) (s : State cfg) :
    Fed now [] s (putLiquidity maker symbol vol (BitVec.ofNat 32 now) (inBlock now s)) := by
  refine (fed_inBlock hrange s.asset s).trans (.step (fun hpast => ?_) ?_ ?_)
  · refine ⟨.call (.putLiquidity maker symbol vol) rfl, ?_⟩
    unfold putLiquidity
    split <;> exact hpast
  · unfold putLiquidity
    split <;> rfl
  · unfold putLiquidity
    split <;> rfl

/-- What is removed is what there is, or nothing. -/
def withoutLiquidity (maker : AccountId) (symbol : Symbol) (vol : U128) (s : State cfg) : State cfg :=
  match removeLiquidity maker symbol vol s with
  | .ok (_, s') => s'
  | .error _ => s

theorem withoutLiquidity_fed (now : BlockNumber) (maker : AccountId) (symbol : Symbol) (vol : U128) (s : State cfg) :
    Fed now [] s (withoutLiquidity maker symbol vol s) := by
  unfold withoutLiquidity
  split
  · rename_i startFrom s' hremove
    have hcall : Call.perform s (.removeLiquidity maker symbol vol) = .ok s' := by
      rw [Call.perform, hremove]
      rfl
    obtain ⟨liquidityPool, rfl⟩ := removeLiquidity_frame hremove
    exact .step (fun hpast => ⟨.call _ hcall, hpast⟩) rfl rfl
  · exact .refl now s

/-- The calls of the pallet that accounts may make. -/
def Call.isExtrinsic : Call → Bool
  | .takeReward _ | .setEraRewards _ _ => true
  | _ => false

/-- What accounts may call contributes nothing. -/
theorem extrinsic_fed {c : Call} (hc : c.isExtrinsic = true) (h : c.perform s = .ok s') : Fed now [] s s' := by
  cases c with
  | takeReward origin =>
      have hstep : Step s s' := .call _ h
      simp only [Call.perform, takeReward, claimLegacyReward, claimReward, bind_eq_ok, pure_eq_ok, Prod.exists,
        Prod.mk.injEq] at h
      obtain ⟨who, -, _, mid, hlegacy, _, last, hmarketing, -, -, rfl⟩ := h
      obtain ⟨legacyReward, legacy, t, hlegacy, -, rfl⟩ := hlegacy
      obtain ⟨reward, marketing, t', hmarketing, -, rfl⟩ := hmarketing
      have hlegacySame := claim_contributions hlegacy
      have hmarketingSame := claim_contributions hmarketing
      obtain ⟨issuance, asset, rfl⟩ := claim_frame hlegacy
      obtain ⟨issuance', asset', rfl⟩ := claim_frame hmarketing
      exact .step (fun hpast => ⟨hstep, hpast⟩) hlegacySame hmarketingSame
  | setEraRewards origin eraRewards =>
      have hstep : Step s s' := .call _ h
      simp only [Call.perform, setEraRewards, bind_eq_ok, pure_eq_ok] at h
      obtain ⟨-, -, rfl⟩ := h
      exact .step (fun hpast => ⟨hstep, hpast⟩) rfl rfl
  | _ => exact absurd hc (by simp [Call.isExtrinsic])

/-! ### Both in one runtime -/

/-- The reward pallet of a runtime, which mints the tokens of the runtime. -/
abbrev within (rewards : Config) (cfg : Verifier.Config) : Config := { rewards with token := cfg.token }

/-- The verifier in a runtime with the reward pallet. What the runtime does besides is kept. -/
def rewarded (rewards : Config) (cfg : Verifier.Config) : Verifier.Config := { cfg with
  External := State (within rewards cfg) × cfg.External
  perform := fun effect origin e => do
    let other ← cfg.perform effect origin e.2
    return (e.1, other)
  consumeLiquidity := fun maker symbol vol now e => do
    let pallet ← consumeLiquidity maker symbol vol (BitVec.ofNat 32 now) (inBlock now e.1)
    let other ← cfg.consumeLiquidity maker symbol vol now e.2
    return (pallet, other)
  putLiquidity := fun maker symbol vol now e =>
    (putLiquidity maker symbol vol (BitVec.ofNat 32 now) (inBlock now e.1),
      cfg.putLiquidity maker symbol vol now e.2)
  removeLiquidity := fun maker symbol vol e =>
    (withoutLiquidity maker symbol vol e.1, cfg.removeLiquidity maker symbol vol e.2)
  setPrice := fun token amount volume now e => (e.1, cfg.setPrice token amount volume now e.2)
  brokerBeneficiary := fun broker e => cfg.brokerBeneficiary broker e.2
  validateBeneficiary := fun who proof beneficiary e => do
    let other ← cfg.validateBeneficiary who proof beneficiary e.2
    return (e.1, other) }

section Runtime

variable {rewards : Config} {cfg : Verifier.Config} {t t' : Verifier.State (rewarded rewards cfg)}
  {d beneficiary : AccountId} {proof : ProofV2}

/-- The pallet was told of what was filled, and of nothing else. -/
def Told (fills : List Fill) (t t' : Verifier.State (rewarded rewards cfg)) : Prop :=
  Fed t.now fills t.external.1 t'.external.1 ∧ t'.now = t.now

theorem Told.refl (t : Verifier.State (rewarded rewards cfg)) : Told [] t t := ⟨.refl _ _, rfl⟩

theorem Told.trans {mid : Verifier.State (rewarded rewards cfg)} (h : Told fills t mid) (h' : Told fills' mid t') :
    Told (fills ++ fills') t t' := by
  obtain ⟨hfed, hnow⟩ := h
  obtain ⟨hfed', hnow'⟩ := h'
  rw [hnow] at hfed'
  exact ⟨hfed.trans hfed', hnow'.trans hnow⟩

theorem Told.of_same (hexternal : t'.external = t.external) (hnow : t'.now = t.now) : Told [] t t' := by
  refine ⟨?_, hnow⟩
  rw [hexternal]
  exact .refl _ _

theorem clear_told {who : AccountId} {token : TokenId} {balance : U128}
    (h : Verifier.clear who d token balance t = .ok t') : Told [] t t' := by
  rw [Verifier.clear_frame h]
  exact .of_same rfl rfl

theorem clearMaker_told (hrange : t.now < 2 ^ 32) {base quote : U32} {maker : MakerMutation}
    (h : Verifier.clearMaker base quote d t maker = .ok t') : Told [maker.fill] t t' := by
  simp only [Verifier.clearMaker, bind_eq_ok, pure_eq_ok] at h
  obtain ⟨mid, hbase, mid', hquote, external, hconsume, rfl⟩ := h
  have hmid := (clear_told hbase).trans (clear_told hquote)
  have hpallet : consumeLiquidity maker.who (base, quote) maker.filledVolume (BitVec.ofNat 32 mid'.now)
      (inBlock mid'.now mid'.external.1) = .ok external.1 := eq_ok_of_bind hconsume
  have hlast : Told [maker.fill] mid' { mid' with external } := by
    refine ⟨consumeLiquidity_fed ?_ hpallet, rfl⟩
    rw [hmid.2]
    exact hrange
  exact hmid.trans hlast

theorem clearMakers_told (hrange : t.now < 2 ^ 32) {base quote : U32} {makers : List MakerMutation}
    (h : makers.foldlM (Verifier.clearMaker base quote d) t = .ok t') : Told (makers.map MakerMutation.fill) t t' := by
  refine foldlM_invariant_visited (fun visited mid => Told (visited.map MakerMutation.fill) t mid)
    (fun visited maker mid next hmid hmaker => ?_) (show Told (List.map MakerMutation.fill []) t t from .refl t) h
  rw [List.map_append]
  refine hmid.trans (clearMaker_told ?_ hmaker)
  rw [hmid.2]
  exact hrange

/-- The makers are told of, and then what rests of the taker's order. -/
theorem applyLimit_told (hrange : t.now < 2 ^ 32) {side : Verifier.Side} {price amount : U128}
    {makerFee takerFee base quote : U32} {broker : Option AccountId} {season : Season}
    {trade : Verifier.Trade}
    (h : Verifier.applyLimit side price amount makerFee takerFee base quote broker d beneficiary season proof t =
      .ok (trade, t')) :
    Told ((List.range (proof.makerAccountDelta.toNat / 2)).map (side.fill proof.leaves)) t t' := by
  simp only [Verifier.applyLimit, bind_eq_ok, pure_eq_ok, ensure_eq_ok, exists_const, Prod.mk.injEq] at h
  obtain ⟨-, -, -, cr, hcr, mid, hmakers, mid', hbase, last, hquote, final, hfee, -, rfl⟩ := h
  have hmid := clearMakers_told hrange hmakers
  rw [(Verifier.verifyLimit_traded hcr).2] at hmid
  have hlast := (hmid.trans (clear_told hbase)).trans (clear_told hquote)
  rw [List.append_nil, List.append_nil] at hlast
  have hexternal : final.external = (rewarded rewards cfg).putLiquidity cr.taker.who (base, quote)
      cr.taker.unfilledVolume last.now last.external := by
    rw [Verifier.payBaseFee_frame hfee, Verifier.putProfit_frame]
  have hnow : final.now = last.now := by
    rw [Verifier.payBaseFee_frame hfee, Verifier.putProfit_frame]
  have hrest : Told [] last final := by
    refine ⟨?_, hnow⟩
    rw [hexternal]
    apply putLiquidity_fed
    rw [hlast.2]
    exact hrange
  have hall := hlast.trans hrest
  rwa [List.append_nil] at hall

/-- What an applied proof tells the pallet of is what it fills. -/
theorem applyCommand_told (hrange : t.now < 2 ^ 32) {season : Season} {trade : Verifier.Trade}
    {callback : Option (rewarded rewards cfg).Call}
    (h : Verifier.applyCommand d beneficiary season proof t = .ok (.forward trade callback t')) :
    Told proof.fills t t' := by
  unfold Verifier.applyCommand at h
  cases hcmd : proof.cmd <;> simp only [hcmd, bind_eq_ok, pure_eq_ok, Prod.exists] at h
  case askLimit =>
    obtain ⟨trade', mid, hlimit, hforward⟩ := h
    obtain ⟨-, -, rfl⟩ := Verifier.Outcome.forward.inj hforward
    rw [ProofV2.fills, hcmd]
    exact applyLimit_told hrange hlimit
  case bidLimit =>
    obtain ⟨trade', mid, hlimit, hforward⟩ := h
    obtain ⟨-, -, rfl⟩ := Verifier.Outcome.forward.inj hforward
    rw [ProofV2.fills, hcmd]
    exact applyLimit_told hrange hlimit
  case cancel base quote =>
    obtain ⟨unfilled, -, hforward⟩ := h
    obtain ⟨-, -, rfl⟩ := Verifier.Outcome.forward.inj hforward
    rw [ProofV2.fills, hcmd]
    exact ⟨withoutLiquidity_fed _ _ _ _ _, rfl⟩
  case transferOut =>
    obtain ⟨callback', mid, hout, hforward⟩ := h
    obtain ⟨-, -, rfl⟩ := Verifier.Outcome.forward.inj hforward
    obtain ⟨r, -, -, -, last, hlast, rfl⟩ := Verifier.applyTransferOut_eq_ok hout
    rw [ProofV2.fills, hcmd, (Verifier.unreserve_eq_ok hlast).1]
    exact .of_same rfl rfl
  case transferIn =>
    obtain ⟨mid, hin, hforward⟩ := h
    obtain ⟨-, -, rfl⟩ := Verifier.Outcome.forward.inj hforward
    rw [ProofV2.fills, hcmd, (Verifier.applyTransferIn_eq_ok hin).2.2.1]
    exact .of_same rfl rfl
  all_goals simp at h

theorem outward_same {e e' : (rewarded rewards cfg).External} (h : Verifier.Outward e e') : e'.1 = e.1 := by
  cases h with
  | same hout => exact congrArg Prod.fst hout
  | perform effect origin hout => exact fst_eq_of_bind hout
  | beneficiary who proof beneficiary hout => exact fst_eq_of_bind hout

/-- Prices are no matter of the pallet. -/
theorem foldl_setPrice_fst (incr : List (Sigma fun _ : TokenId => U128 × U128)) (now : BlockNumber)
    (e : (rewarded rewards cfg).External) :
    (incr.foldl (fun e sums => (rewarded rewards cfg).setPrice sums.1 sums.2.1 sums.2.2 now e) e).1 = e.1 := by
  induction incr generalizing e with
  | nil => rfl
  | cons sums incr ih => exact ih _

/-! ### In every run -/

/-- The pallet's storage is that of one of its own runs, and its contributions are for what the orders that were applied
have filled. -/
structure Driven (t : Verifier.State (rewarded rewards cfg)) : Prop where
  range : t.now < 2 ^ 32
  past : t.external.1.now.toNat ≤ t.now
  reachable : Transition.Reachable Genesis Step t.external.1
  legacy : t.external.1.legacy.contributions = []
  earned : SublistForall₂ (EarnedBy (within rewards cfg)) t.external.1.marketing.contributions.reverse
    (fillsOf t.history)

/-- The pallet is told of the fills that are written down. -/
theorem Driven.fed (h : Driven t) (hle : t.now ≤ t'.now) (hrange : t'.now < 2 ^ 32)
    (hfed : Fed t'.now fills t.external.1 t'.external.1) (hhistory : fillsOf t'.history = fillsOf t.history ++ fills) :
    Driven t' := by
  obtain ⟨hrun, hpast⟩ := hfed.run (h.past.trans hle)
  obtain ⟨new, hnew, hearned⟩ := hfed.earned
  obtain ⟨s₀, hs₀, hreach⟩ := h.reachable
  refine ⟨hrange, hpast, ⟨s₀, hs₀, hreach.trans hrun⟩, hfed.legacy.trans h.legacy, ?_⟩
  rw [hhistory, hnew, List.reverse_append]
  exact earned_append h.earned hearned

theorem Driven.told (h : Driven t) (htold : Told fills t t')
    (hhistory : fillsOf t'.history = fillsOf t.history ++ fills) : Driven t' := by
  obtain ⟨hfed, hnow⟩ := htold
  rw [← hnow] at hfed
  exact h.fed hnow.ge (hnow ▸ h.range) hfed hhistory

theorem Driven.of_same (h : Driven t) (hexternal : t'.external.1 = t.external.1) (hnow : t'.now = t.now)
    (hhistory : fillsOf t'.history = fillsOf t.history) : Driven t' := by
  refine ⟨hnow ▸ h.range, ?_, ?_, ?_, ?_⟩
  · rw [hexternal, hnow]
    exact h.past
  · rw [hexternal]
    exact h.reachable
  · rw [hexternal]
    exact h.legacy
  · rw [hexternal, hhistory]
    exact h.earned

/-- Nothing is filled when no proof is applied. -/
theorem fillsOf_of_noProof (h : Verifier.NoProof t t') : fillsOf t'.history = fillsOf t.history := by
  obtain ⟨entries, hwrote, hproofs⟩ := h
  have hnothing : fillsOf entries = [] := by
    refine List.flatMap_eq_nil_iff.mpr fun e he => ?_
    cases e with
    | applied d root proof reentrant => exact absurd (hproofs _ he) (by simp [Verifier.Entry.isApplied])
    | _ => rfl
  rw [hwrote, Verifier.fillsOf_append, hnothing, List.append_nil]

theorem driven_of_batchStep (h : Driven t) (hbatch : Verifier.BatchStep d t t') : Driven t' := by
  cases hbatch with
  | apply beneficiary season knownRoot proof trade callback mid hcommand ht' =>
      subst ht'
      have htold := applyCommand_told h.range hcommand
      have hhistory : mid.history = t.history := by rw [(Verifier.applyCommand_forward hcommand).2.frame]
      have hfills : fillsOf (Verifier.recordApplied d knownRoot proof mid).history =
          fillsOf t.history ++ proof.fills := by
        rw [Verifier.recordApplied, Verifier.fillsOf_append, hhistory]
        exact congrArg _ (List.append_nil proof.fills)
      exact h.told htold hfills
  | reject proof r hr hcloses ht' =>
      subst ht'
      refine h.of_same rfl rfl (fillsOf_of_noProof ⟨[_], rfl, ?_⟩)
      simp [Verifier.Entry.isApplied]
  | store proof hstore =>
      obtain ⟨dominator, -, rfl⟩ := Verifier.storeRoot_eq_ok hstore
      exact h.of_same rfl rfl rfl
  | prices incr ht' =>
      subst ht'
      exact h.of_same (foldl_setPrice_fst incr t.now t.external) rfl rfl

theorem kept_driven : Verifier.Kept (fun _ _ => True) (fun _ => True)
    (fun t : Verifier.State (rewarded rewards cfg) => Driven t) fun _ _ => True where
  refl := fun _ => trivial
  trans := fun _ _ _ _ _ => trivial
  both := fun _ _ _ _ => ⟨trivial, trivial⟩
  dispatchAs := fun _ _ _ _ => trivial
  attempt := fun _ _ _ _ => trivial
  callback := fun _ _ _ _ _ _ _ _ => trivial
  active := fun _ _ _ _ => trivial
  single := fun _ _ _ _ h _ _ heffect =>
    ⟨h.of_same (outward_same heffect.outward) heffect.now (fillsOf_of_noProof heffect.noProof), trivial⟩
  batch := fun _ _ _ h _ hbatch => ⟨driven_of_batchStep h hbatch, trivial⟩

/-- The pallet in the current block, with the balances of the runtime. -/
def current (t : Verifier.State (rewarded rewards cfg)) : State (within rewards cfg) :=
  { inBlock t.now t.external.1 with asset := t.asset }

/-- A call of the verifier or of the pallet is included in the block, or the next block begins; other pallets issue
native tokens. -/
inductive RewardedStep : Verifier.State (rewarded rewards cfg) → Verifier.State (rewarded rewards cfg) → Prop
  | call {t t' : Verifier.State (rewarded rewards cfg)} (depth : Nat) (c : (rewarded rewards cfg).Call)
      (origin : Origin) (h : Verifier.dispatch depth c origin t = .ok t') : RewardedStep t t'
  | pallet {t : Verifier.State (rewarded rewards cfg)} (c : Call) (hc : c.isExtrinsic = true)
      {pallet : State (within rewards cfg)} (h : c.perform (current t) = .ok pallet) :
      RewardedStep t { t with asset := pallet.asset, external := (pallet, t.external.2) }
  | block (t : Verifier.State (rewarded rewards cfg)) (issuance : U128) (other : cfg.External)
      (h : t.now + 1 < 2 ^ 32) :
      RewardedStep t (Verifier.onInitialize (t.now + 1)
        { t with now := t.now + 1, external := ({ t.external.1 with issuance }, other) })

/-- Nobody has contributed yet, and nothing was filled. -/
structure Unrewarded (t : Verifier.State (rewarded rewards cfg)) : Prop where
  range : t.now < 2 ^ 32
  past : t.external.1.now.toNat ≤ t.now
  genesis : Genesis t.external.1
  history : t.history = []

theorem Unrewarded.driven (h : Unrewarded t) : Driven t := by
  refine ⟨h.range, h.past, ⟨_, h.genesis, .refl⟩, ?_, ?_⟩
  · rw [h.genesis.legacy]
    rfl
  · rw [h.genesis.marketing]
    exact .nil

theorem Driven.step (h : Driven t) (hstep : RewardedStep t t') : Driven t' := by
  cases hstep with
  | call depth c origin hcall => exact (kept_driven.dispatch h trivial hcall).1
  | pallet c hc hcall =>
      have hcurrent : Fed t.now [] t.external.1 (current t) := by
        exact @fed_inBlock (within rewards cfg) t.now h.range t.asset t.external.1
      exact h.told ⟨hcurrent.trans (extrinsic_fed hc hcall), rfl⟩ (List.append_nil _).symm
  | block issuance other hnow =>
      rw [Verifier.onInitialize_frame]
      have hissued : Fed (t.now + 1) [] t.external.1 { t.external.1 with issuance } :=
        .step (fun hpast => ⟨.outside _ _ issuance _ (BitVec.le_refl _), hpast⟩) rfl rfl
      exact h.fed (Nat.le_succ _) hnow hissued (List.append_nil _).symm

theorem driven_of_reachable (h : Transition.Reachable Unrewarded RewardedStep t) : Driven t :=
  h.invariant Driven (fun _ ht => ht.driven) fun _ _ ht hstep => ht.step hstep

/-- The contributions to the rewards are, one after the other, for what makers had filled by orders that were applied. A
reward is paid for no more than its account had filled, as often as a volume counts at most, and none is paid by the
deprecated book. -/
theorem rewards_were_earned (h : Transition.Reachable Unrewarded RewardedStep t) :
    SublistForall₂ (EarnedBy (within rewards cfg)) t.external.1.marketing.contributions.reverse (fillsOf t.history) ∧
      (∀ x ∈ t.external.1.marketing.settlements,
        x.vol.toNat ≤ maxCoefficient rewards * filledBy x.who (fillsOf t.history)) ∧
      t.external.1.legacy.settlements = [] := by
  have hdriven := driven_of_reachable h
  have hsound := sound_of_reachable hdriven.reachable
  refine ⟨hdriven.earned, fun x hx => ?_, ?_⟩
  · rw [hsound.marketing.exact.whole x hx]
    exact contributed_le hdriven.earned x.who x.era
  · refine List.eq_nil_iff_forall_not_mem.mpr fun x hx => ?_
    have hnothing : x.vol.toNat = 0 := by
      rw [hsound.legacy.exact.whole x hx, Book.contributed, hdriven.legacy]
      rfl
    exact hsound.legacy.ledger.nonzero x.entry (List.mem_map_of_mem hx) hnothing

end Runtime

/-- The order of `bob` is on record, as the sale is about to fill it. -/
def saleState : Verifier.State (rewarded plainConfig (Verifier.plainConfig Verifier.saleListings)) := {
  Verifier.State.genesis Verifier.saleAssets ({ startState with
    now := 0
    liquidityPool := StorageMap.insert (fun _ => none) (Verifier.bob, 1, 2) ⟨5, 0⟩ }, ()) with
  reserves := Verifier.tradeReserves
  dominators := Verifier.saleDominators }

/-- The batch of one order is a contribution of its maker. -/
theorem rewards_were_earned_sale :
    ∃ t : Verifier.State (rewarded plainConfig (Verifier.plainConfig Verifier.saleListings)),
    t.external.1.marketing.contributions = [⟨Verifier.bob, 0, 5⟩] ∧
      SublistForall₂ (EarnedBy (within plainConfig (Verifier.plainConfig Verifier.saleListings)))
        t.external.1.marketing.contributions.reverse (fillsOf t.history) := by
  obtain ⟨t, hrun, hcheck⟩ := exists_of_succeedsWith
    (x := Verifier.dispatch 1 (.verifyV2 [Verifier.saleProof]) (.signed Verifier.operator) saleState)
    (p := fun t => decide (t.external.1.marketing.contributions = [⟨Verifier.bob, 0, 5⟩])) (by decide +kernel)
  have hstart : Unrewarded saleState := ⟨by decide, by decide, ⟨rfl, rfl⟩, rfl⟩
  have hreach : Transition.Reachable Unrewarded RewardedStep t :=
    ⟨saleState, hstart, .single (.call 1 _ (.signed Verifier.operator) hrun)⟩
  exact ⟨t, of_decide_eq_true hcheck, (rewards_were_earned hreach).1⟩

end Fusotao.Rewarding
