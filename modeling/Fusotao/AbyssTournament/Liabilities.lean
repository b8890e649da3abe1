import Fusotao.AbyssTournament.Payout

/-!
# Bettings are covered

In every state before a claim, what could be claimed if an item were hit is booked on that item, and what is booked
is free on the pledge account.
-/

namespace Fusotao.AbyssTournament

open Exec Word
open Token (alice balancesOf freeBalance)

open scoped BigOperators

variable {cfg : Config} {s s' : State cfg} {id : BettingId} {betting : Betting} {hit : SelectIndex}

/-- The calls by which bettings are made and bet on. Nothing is taken out. -/
def BettingCall : Call → Prop
  | .dropBetting _ | .revokeRemainCompensate _ | .bettingClaim _ => False
  | _ => True

/-- A new betting takes an id that is not in use, and bets are exact. -/
def SoundBooking (origin : Origin) (s : State cfg) : Call → Prop
  | .createBetting .. => s.bettings s.nextBettingId = none
  | .goBet bettingId itemIndex amount | .goBetWithInvite bettingId itemIndex amount _ =>
      ∀ who, origin = .signed who → ExactBet who bettingId itemIndex amount s
  | _ => True

/-- What is claimed of a betting, all accounts together, if an item is hit. -/
def claimable (id : BettingId) (hit : SelectIndex) (s : State cfg) : Nat :=
  ∑ who, (claimAmount hit (recordOf who id s).1).toNat

/-- What can be claimed is booked, and what is booked is free. -/
def LiabilitiesCovered (s : State cfg) : Prop :=
  ∀ id betting (hit : SelectIndex) item, s.bettings id = some betting → betting.odds[hit.toNat]? = some item →
    claimable id hit s ≤ item.totalCompensateAmount.toNat ∧
      item.totalCompensateAmount ≤ freeBalance betting.tokenId betting.pledgeAccount s.asset

theorem Booked.claimable_eq (hinv : Booked id betting s) {item : OddsItem}
    (hitem : betting.odds[hit.toNat]? = some item) : claimable id hit s = owed id hit s := by
  have hbooked := hinv.booked hit item hitem
  have hword := item.totalCompensateAmount.isLt
  apply Finset.sum_congr rfl
  intro who _
  have hle : dueOn hit (recordOf who id s).1 ≤ owed id hit s :=
    le_sum_univ (fun who => dueOn hit (recordOf who id s).1) who
  exact toNat_claimAmount (hinv.inRange who) (by omega)

/-- A betting that is written by a call was there before, or is new. -/
theorem exists_betting_of_dispatch {origin : Origin} {c : Call} (hc : c.betting? s = some id)
    (hnew : ∀ bettingType battles odditemParams seasonId pledgeAmount,
      c ≠ .createBetting bettingType battles odditemParams seasonId pledgeAmount)
    (h : dispatch origin s c = .ok s') : ∃ betting, s.bettings id = some betting := by
  cases c with
  | createBetting bettingType battles odditemParams seasonId pledgeAmount => exact absurd rfl (hnew _ _ _ _ _)
  | goBet bettingId itemIndex amount =>
      obtain rfl := Option.some.inj hc
      obtain ⟨who, betting, -, hbet⟩ := goBet_eq_ok h
      obtain ⟨item, paid, hbetting, -⟩ := bet_eq_ok hbet
      exact ⟨betting, hbetting⟩
  | goBetWithInvite bettingId itemIndex amount inviteCode =>
      obtain rfl := Option.some.inj hc
      obtain ⟨who, betting, mid, -, hbet, -⟩ := goBetWithInvite_eq_ok h
      obtain ⟨item, paid, hbetting, -⟩ := bet_eq_ok hbet
      exact ⟨betting, hbetting⟩
  | appendBettingPledge bettingId amount =>
      obtain rfl := Option.some.inj hc
      obtain ⟨who, betting, paid, -, hbetting, -⟩ := appendBettingPledge_eq_ok h
      exact ⟨betting, hbetting⟩
  | updateOdds bettingId odds =>
      obtain rfl := Option.some.inj hc
      obtain ⟨betting, items, hbetting, -⟩ := updateOdds_eq_ok h
      exact ⟨betting, hbetting⟩
  | dropBetting bettingId =>
      obtain rfl := Option.some.inj hc
      obtain ⟨betting, value, paid, hbetting, -⟩ := dropBetting_eq_ok h
      exact ⟨betting, hbetting⟩
  | revokeRemainCompensate bettingId =>
      obtain rfl := Option.some.inj hc
      obtain ⟨betting, hitIndex, item, hbetting, -⟩ := revokeRemainCompensate_eq_ok h
      exact ⟨betting, hbetting⟩
  | bettingClaim bettingId =>
      obtain rfl := Option.some.inj hc
      obtain ⟨who, betting, hitIndex, -, hbetting, -⟩ := bettingClaim_eq_ok h
      exact ⟨betting, hbetting⟩
  | setResult | finalsSettle | leagueSettle => exact absurd hc (by simp [Call.betting?])

section Runs

variable (hexact : cfg.token.balances.Exact) (hinj : Function.Injective cfg.getBettingTreasury)
  (horganizer : ¬ Keyless cfg cfg.bvbOrganizer)

include hexact hinj horganizer

/-- A step keeps every betting booked. -/
theorem booked_step (hwf : Wellformed s) (hinv : ∀ id betting, s.bettings id = some betting → Booked id betting s)
    (h : Step (fun origin s c => BettingCall c ∧ SoundBooking origin s c) [] s s') :
    ∀ id betting, s'.bettings id = some betting → Booked id betting s' := by
  intro id betting hbetting
  have hfound {betting' : Betting} (hbooked : Booked id betting' s') : Booked id betting s' :=
    Option.some.inj (hbooked.lookup.symm.trans hbetting) ▸ hbooked
  cases h with
  | outside h hfixed => exact (hinv id betting (h.bettings ▸ hbetting)).untouched (h.untouched id)
  | call origin c hsigned hallowed h =>
      obtain ⟨hkind, hsound⟩ := hallowed
      by_cases hc : c.betting? s = some id
      · by_cases hnew : ∀ bettingType battles odditemParams seasonId pledgeAmount,
          c ≠ .createBetting bettingType battles odditemParams seasonId pledgeAmount
        · obtain ⟨old, hold⟩ := exists_betting_of_dispatch hc hnew h
          have hstep : Step (fun origin s c => OpenCall id s c ∧ SoundCall id origin s c) [] s s' := by
            refine .call origin c hsigned ⟨fun _ => ?_, ?_⟩ h
            · cases c with
              | createBetting bettingType battles odditemParams seasonId pledgeAmount => exact hnew _ _ _ _ _ rfl
              | dropBetting | revokeRemainCompensate | bettingClaim => exact hkind
              | goBet | goBetWithInvite | appendBettingPledge | updateOdds => trivial
              | setResult | finalsSettle | leagueSettle => exact absurd hc (by simp [Call.betting?])
            · cases c with
              | goBet bettingId itemIndex amount => exact fun heq who hwho => heq ▸ hsound who hwho
              | goBetWithInvite bettingId itemIndex amount inviteCode =>
                  exact fun heq who hwho => heq ▸ hsound who hwho
              | revokeRemainCompensate bettingId => exact hkind.elim
              | _ => trivial
          obtain ⟨betting', hbooked⟩ := Booked.step hexact hinj horganizer hwf (hinv id old hold) hstep
          exact hfound hbooked
        · push Not at hnew
          obtain ⟨bettingType, battles, odditemParams, seasonId, pledgeAmount, rfl⟩ := hnew
          obtain rfl := Option.some.inj hc
          obtain ⟨betting', hbooked⟩ := booked_of_created hexact horganizer hwf hsound h
          exact hfound hbooked
      · have huntouched := untouched_of_dispatch hexact hinj horganizer hwf hsigned hc h
        exact (hinv id betting (huntouched.betting ▸ hbetting)).untouched huntouched

/-- In every run of exact bets, what can be claimed of a betting is booked, and what is booked is free on its pledge
account. -/
theorem liabilities_covered
    (h : Transition.Reachable Init (Step (fun origin s c => BettingCall c ∧ SoundBooking origin s c) []) s) :
    LiabilitiesCovered s := by
  have hinv : Wellformed s ∧ ∀ id betting, s.bettings id = some betting → Booked id betting s := by
    refine h.invariant (fun s => Wellformed s ∧ ∀ id betting, s.bettings id = some betting → Booked id betting s)
      (fun s hs => ⟨?_, fun id betting hbetting => ?_⟩) fun s s' hinv hstep =>
        ⟨hinv.1.step hexact hinj horganizer hstep.any, booked_step hexact hinj horganizer hinv.1 hinv.2 hstep⟩
    · exact wellformed_of_reachable hexact hinj horganizer ⟨s, hs, .refl⟩
    · rw [hs.bettings] at hbetting
      exact absurd hbetting (by simp)
  intro id betting hit item hbetting hitem
  have hbooked := hinv.2 id betting hbetting
  obtain ⟨-, hpledgeAccount, htoken⟩ := hinv.1.terms id betting hbetting
  refine ⟨?_, ?_⟩
  · rw [hbooked.claimable_eq hitem]
    exact hbooked.booked hit item hitem
  · rw [htoken, hpledgeAccount]
    exact hbooked.covered item (List.mem_of_getElem? hitem)

end Runs

/-- Two bets of `1` at odds of `1.5` are booked as `1` each, and claimed as `3` together. -/
def roundedStates : Result (State plainConfig × State plainConfig × State plainConfig) := do
  let created ← createBetting (.signed organizer) .winLose [1] [⟨[1], [], 150⟩, ⟨[2], [], 150⟩] 1 100 startState
  let once ← goBet (.signed alice) 1 0 1 created
  let twice ← goBet (.signed alice) 1 0 1 once
  return (created, once, twice)

/-- What can be claimed on the first item is more than what is booked on it. -/
theorem liabilities_rounded_apart : ∃ s : State plainConfig,
    Transition.Reachable Init (Step (fun _ _ c => BettingCall c) []) s ∧ ¬ LiabilitiesCovered s := by
  obtain ⟨⟨created, once, twice⟩, hrun, hcheck⟩ := exists_of_succeedsWith (x := roundedStates)
    (p := fun x => recordOf alice 1 x.2.2 = ([⟨0, 150, 2⟩], false) ∧
      (x.2.2.bettings 1).map Betting.odds = some [⟨[1], [], 150, 2, 2, 2⟩, itemOf [2] [] 150]) (by decide +kernel)
  obtain ⟨hrecord, hodds⟩ := of_decide_eq_true hcheck
  obtain ⟨created', hcreate, hrun⟩ := bind_eq_ok.mp hrun
  obtain ⟨once', honce, hrun⟩ := bind_eq_ok.mp hrun
  obtain ⟨twice', htwice, hrun⟩ := bind_eq_ok.mp hrun
  obtain ⟨rfl, rfl, rfl⟩ : created' = created ∧ once' = once ∧ twice' = twice := by simpa using hrun
  have horganizer : Signable plainConfig (.signed organizer) := signable_replicate (by decide)
  have halice : Signable plainConfig (.signed alice) := signable_replicate (by decide)
  refine ⟨twice', ⟨startState, init_startState, ?_⟩, fun hcovered => ?_⟩
  · exact ((Relation.ReflTransGen.single (.call (.signed organizer)
      (.createBetting .winLose [1] [⟨[1], [], 150⟩, ⟨[2], [], 150⟩] 1 100) horganizer trivial hcreate)).tail
      (.call (.signed alice) (.goBet 1 0 1) halice trivial honce)).tail
      (.call (.signed alice) (.goBet 1 0 1) halice trivial htwice)
  · obtain ⟨betting, hbetting, hodds⟩ := Option.map_eq_some_iff.mp hodds
    have hitem : betting.odds[(0 : SelectIndex).toNat]? = some ⟨[1], [], 150, 2, 2, 2⟩ := by
      rw [hodds]
      rfl
    have hclaimable := (hcovered 1 betting 0 _ hbetting hitem).1
    have hclaim : (claimAmount 0 (recordOf alice 1 twice').1).toNat ≤ claimable 1 0 twice' :=
      le_sum_univ (fun who => (claimAmount 0 (recordOf who 1 twice').1).toNat) alice
    rw [hrecord] at hclaim
    exact absurd (hclaim.trans hclaimable) (by decide)

theorem liabilities_covered_alice : ∃ s : State plainConfig, LiabilitiesCovered s ∧
    recordOf alice 1 s = ([⟨0, 200, 25⟩], false) := by
  obtain ⟨⟨created, opened, judged, settled⟩, h⟩ := exists_of_isOk (x := settledStates) (by decide +kernel)
  have hexact := exactBet_of_settledStates h
  have hrecord := (settledStates_spec h).2.2.2.2
  obtain ⟨created', hcreate, h⟩ := bind_eq_ok.mp h
  obtain ⟨opened', hbet, h⟩ := bind_eq_ok.mp h
  obtain ⟨judged', hjudge, h⟩ := bind_eq_ok.mp h
  obtain ⟨settled', hsettle, h⟩ := bind_eq_ok.mp h
  obtain ⟨rfl, rfl, rfl, rfl⟩ : created' = created ∧ opened' = opened ∧ judged' = judged ∧ settled' = settled := by
    simpa using h
  have horganizer : Signable plainConfig (.signed organizer) := signable_replicate (by decide)
  have halice : Signable plainConfig (.signed alice) := signable_replicate (by decide)
  have hcreated : Relation.ReflTransGen (Step (fun origin s c => BettingCall c ∧ SoundBooking origin s c) [])
      startState created' :=
    .single (.call (.signed organizer) (.createBetting .winLose [1] [] 1 100) horganizer ⟨trivial, rfl⟩ hcreate)
  have hopened := hcreated.tail (.call (.signed alice) (.goBet 1 0 25) halice
    ⟨trivial, fun who hwho => Origin.signed.inj hwho ▸ hexact⟩ hbet)
  have hjudged := hopened.tail (.call (.signed organizer) (.setResult 1 3 0) horganizer ⟨trivial, trivial⟩ hjudge)
  have hsettled := hjudged.tail (.call (.signed organizer) (.leagueSettle 1) horganizer ⟨trivial, trivial⟩ hsettle)
  exact ⟨settled', liabilities_covered Balances.plain_exact plainTreasury_injective (not_keyless_replicate (by decide))
    ⟨startState, init_startState, hsettled⟩, hrecord⟩

end Fusotao.AbyssTournament
