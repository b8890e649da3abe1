import Fusotao.AbyssTournament.Booking
import Fusotao.Token.Decimals

/-!
# Winners are paid

When its battle is settled, the pledge account of a betting covers the bets on the item that was hit and what the
creator gets back: then claims and one refund can come in any order.
-/

namespace Fusotao.AbyssTournament

open Exec Word
open Token (alice balancesOf totalBalance transferToken)

open scoped BigOperators

variable {cfg : Config} {s s' : State cfg} {id : BettingId} {betting : Betting} {hit : SelectIndex}
  {who : AccountId}

/-! ### After the battle is settled -/

/-- What was not paid of the bets on an item. -/
def unpaidOn (id : BettingId) (hit : SelectIndex) (s : State cfg) : Nat :=
  ∑ who, if (recordOf who id s).2 = true then 0 else dueOn hit (recordOf who id s).1

/-- What the creator still gets back. -/
def toRefund (id : BettingId) (betting : Betting) (hit : SelectIndex) (s : State cfg) : Nat :=
  if id ∈ s.refunds then 0
  else match betting.odds[hit.toNat]? with
    | some item => betting.totalPledge.toNat - item.totalCompensateAmount.toNat
    | none => 0

/-- The pledge account covers all that is still to be paid if an item is hit. -/
structure Payable (id : BettingId) (betting : Betting) (hit : SelectIndex) (s : State cfg) : Prop where
  lookup : s.bettings id = some betting
  inRange : ∀ who, InRange (recordOf who id s).1
  covered : unpaidOn id hit s + toRefund id betting hit s ≤ pledgeOf id s

theorem unpaidOn_congr (h : ∀ who, recordOf who id s' = recordOf who id s) (hit : SelectIndex) :
    unpaidOn id hit s' = unpaidOn id hit s :=
  Finset.sum_congr rfl fun who _ => by rw [h]

theorem dueOn_le_unpaidOn (h : (recordOf who id s).2 = false) (hit : SelectIndex) :
    dueOn hit (recordOf who id s).1 ≤ unpaidOn id hit s := by
  have hle := le_sum_univ (fun who => if (recordOf who id s).2 = true then 0
    else dueOn hit (recordOf who id s).1) who
  rwa [if_neg (by rw [h]; decide)] at hle

/-- Whatever is hit is covered. -/
theorem Booked.payable (hinv : Booked id betting s) (hit : SelectIndex) : Payable id betting hit s := by
  refine ⟨hinv.lookup, hinv.inRange, ?_⟩
  have hunpaid : unpaidOn id hit s = owed id hit s := by
    refine Finset.sum_congr rfl fun who _ => ?_
    rw [if_neg (by rw [hinv.unpaid who]; decide)]
  have hrefund : toRefund id betting hit s ≤ match betting.odds[hit.toNat]? with
      | some item => betting.totalPledge.toNat - item.totalCompensateAmount.toNat
      | none => 0 := by
    unfold toRefund
    split
    · exact Nat.zero_le _
    · exact Nat.le_refl _
  rw [hunpaid]
  cases hitem : betting.odds[hit.toNat]? with
  | some item =>
      rw [hitem] at hrefund
      have hbooked := hinv.booked hit item hitem
      have hcovered := hinv.covered item (List.mem_of_getElem? hitem)
      have hpledged := hinv.pledged
      replace hrefund : toRefund id betting hit s ≤
        betting.totalPledge.toNat - item.totalCompensateAmount.toNat := hrefund
      omega
  | none =>
      rw [hitem] at hrefund
      have hlength := List.getElem?_eq_none_iff.mp hitem
      have hzero : owed id hit s = 0 := by
        refine Finset.sum_eq_zero fun who _ => List.sum_eq_zero fun x hx => ?_
        obtain ⟨r, hr, rfl⟩ := List.mem_map.mp hx
        have hplaced := hinv.placed who r hr
        exact if_neg fun heq => absurd (heq ▸ hplaced) (Nat.not_lt.mpr hlength)
      rw [hzero]
      exact (Nat.zero_add _).le.trans (hrefund.trans (Nat.zero_le _))

theorem Payable.untouched (hinv : Payable id betting hit s) (h : Untouched id s s') :
    Payable id betting hit s' := by
  refine ⟨h.betting.trans hinv.lookup, fun who => ?_, ?_⟩
  · rw [h.records]
    exact hinv.inRange who
  · have hrefund : toRefund id betting hit s' = toRefund id betting hit s := by
      rw [toRefund, toRefund]
      exact if_congr h.refunds rfl rfl
    rw [unpaidOn_congr h.records, hrefund]
    exact hinv.covered.trans h.pledge

/-- The amount a claim transfers is what the bets are worth. -/
theorem Payable.toNat_claimAmount (hinv : Payable id betting hit s) (h : (recordOf who id s).2 = false) :
    (claimAmount hit (recordOf who id s).1).toNat = dueOn hit (recordOf who id s).1 ∧
      dueOn hit (recordOf who id s).1 ≤ pledgeOf id s := by
  have hle := dueOn_le_unpaidOn h hit
  have hcovered := hinv.covered
  have hword : pledgeOf id s < 2 ^ 128 := BitVec.isLt _
  exact ⟨AbyssTournament.toNat_claimAmount (hinv.inRange who) (by omega), by omega⟩

/-- A claim moves its amount from the pledge account to the claimant. -/
theorem claim_moves (hexact : cfg.token.balances.Exact) (hwf : Wellformed s) (hkeyed : ¬ Keyless cfg who)
    (hlookup : s.bettings id = some betting) (hhit : calcBettingHitIndex betting s = .ok hit)
    (h : bettingClaim (.signed who) id s = .ok s') :
    pledgeOf id s = pledgeOf id s' + (claimAmount hit (recordOf who id s).1).toNat ∧
      (balancesOf cfg.awtTokenId who s'.asset).1.toNat =
        (balancesOf cfg.awtTokenId who s.asset).1.toNat + (claimAmount hit (recordOf who id s).1).toNat := by
  obtain ⟨who', betting', hit', hwho, hlookup', -, hhit', hasset, -⟩ := bettingClaim_eq_ok h
  obtain rfl := Origin.signed.inj hwho
  obtain rfl := Option.some.inj (hlookup.symm.trans hlookup')
  obtain rfl := Except.ok.inj (hhit.symm.trans hhit')
  obtain ⟨-, hpledgeAccount, htoken⟩ := hwf.terms id betting hlookup
  obtain ⟨hzero, hsame⟩ | ⟨paid, hasset⟩ := hasset
  · rw [hzero, pledgeOf, pledgeOf, hsame]
    exact ⟨rfl, rfl⟩
  · rw [hpledgeAccount, htoken] at hasset
    obtain ⟨hpledge, hreceived, -⟩ :=
      Token.transferToken_eq_ok hexact (fun heq => hkeyed ⟨id, heq.symm⟩) hasset
    exact ⟨hpledge, hreceived⟩

/-- A claim takes from the pledge account what is no longer to be paid. -/
theorem Payable.claim (hexact : cfg.token.balances.Exact) (hwf : Wellformed s)
    (hinv : Payable id betting hit s) {origin : Origin}
    (hsigned : Signable cfg origin)
    (hhit : calcBettingHitIndex betting s = .ok hit) (h : bettingClaim origin id s = .ok s') :
    Payable id betting hit s' := by
  obtain ⟨who, betting', hit', rfl, hlookup, hclaimed, -, -, hs'⟩ := bettingClaim_eq_ok h
  obtain ⟨hpledge, -⟩ := claim_moves hexact hwf (hsigned who rfl) hinv.lookup hhit h
  rw [(hinv.toNat_claimAmount hclaimed).1] at hpledge
  have hrecords := @recordOf_insert _ s s' _ _ _ (congrArg State.bettingRecords hs')
  have hunpaid : unpaidOn id hit s' + dueOn hit (recordOf who id s).1 = unpaidOn id hit s := by
    have hupdate : (fun who => if (recordOf who id s').2 = true then 0 else dueOn hit (recordOf who id s').1) =
        Function.update (fun who => if (recordOf who id s).2 = true then 0
          else dueOn hit (recordOf who id s).1) who 0 := by
      funext other
      by_cases hother : other = who
      · subst hother
        simp [hrecords]
      · simp [hrecords, hother]
    have hsum := sum_update_add (fun who => if (recordOf who id s).2 = true then 0
      else dueOn hit (recordOf who id s).1) who 0
    rw [← hupdate, if_neg (by rw [hclaimed]; decide), Nat.add_zero] at hsum
    exact hsum
  have hrefund : toRefund id betting hit s' = toRefund id betting hit s := by
    rw [toRefund, toRefund, hs']
  refine ⟨?_, fun other => ?_, ?_⟩
  · rw [hs']
    exact hinv.lookup
  · rw [hrecords]
    split
    · exact hinv.inRange who
    · exact hinv.inRange other
  · have hcovered := hinv.covered
    rw [hrefund]
    omega

/-- The refund takes from the pledge account what the creator no longer gets back. -/
theorem Payable.refund (hexact : cfg.token.balances.Exact) (horganizer : ¬ Keyless cfg cfg.bvbOrganizer)
    (hwf : Wellformed s) (hinv : Payable id betting hit s) {origin : Origin} (honce : id ∉ s.refunds)
    (hhit : calcBettingHitIndex betting s = .ok hit) (h : revokeRemainCompensate origin id s = .ok s') :
    Payable id betting hit s' := by
  obtain ⟨betting', hit', item, hlookup, -, hhit', hitem, ⟨-, rfl⟩ | ⟨hlt, paid, hasset, hs'⟩⟩ :=
    revokeRemainCompensate_eq_ok h
  · exact hinv
  obtain rfl := Option.some.inj (hinv.lookup.symm.trans hlookup)
  obtain rfl := Except.ok.inj (hhit.symm.trans hhit')
  obtain ⟨hcreator, hpledgeAccount, htoken⟩ := hwf.terms id betting hlookup
  rw [hpledgeAccount, htoken, hcreator] at hasset
  have hpledge := (Token.transferToken_eq_ok hexact (fun heq => horganizer ⟨id, heq.symm⟩) hasset).1
  rw [toNat_sub_of_le (Nat.le_of_lt hlt)] at hpledge
  have hrecords (who) : recordOf who id s' = recordOf who id s :=
    recordOf_congr (congrArg State.bettingRecords hs') who id
  have hbefore : toRefund id betting hit s =
      betting.totalPledge.toNat - item.totalCompensateAmount.toNat := by
    rw [toRefund, if_neg honce, hitem]
  have hafter : toRefund id betting hit s' = 0 := by
    rw [toRefund, if_pos]
    rw [hs']
    exact List.mem_append_right _ (List.mem_singleton_self _)
  refine ⟨?_, fun who => ?_, ?_⟩
  · rw [hs']
    exact hlookup
  · rw [hrecords]
    exact hinv.inRange who
  · have hcovered := hinv.covered
    rw [unpaidOn_congr hrecords, hafter]
    change pledgeOf id s = pledgeOf id s' + _ at hpledge
    omega

theorem calcBettingHitIndex_congr (h : ∀ battleId ∈ betting.battles, s'.battles battleId = s.battles battleId) :
    calcBettingHitIndex betting s' = calcBettingHitIndex betting s := by
  have hloop : ∀ (l : List BattleId), (∀ battleId ∈ l, s'.battles battleId = s.battles battleId) →
      l.mapM (finalizedBattle s'.battles) = l.mapM (finalizedBattle s.battles) := by
    intro l
    induction l with
    | nil => exact fun _ => rfl
    | cons battleId l ih =>
        intro hl
        have hhead : finalizedBattle s'.battles battleId = finalizedBattle s.battles battleId := by
          rw [finalizedBattle, finalizedBattle, hl battleId List.mem_cons_self]
        rw [List.mapM_cons, List.mapM_cons, hhead, ih fun b hb => hl b (List.mem_cons_of_mem _ hb)]
  rw [calcBettingHitIndex, calcBettingHitIndex, hloop betting.battles h]

section Claims

variable (hexact : cfg.token.balances.Exact) (hinj : Function.Injective cfg.getBettingTreasury)
  (horganizer : ¬ Keyless cfg cfg.bvbOrganizer)

include hexact hinj horganizer

/-- The item that is hit stays the same, and what is still to be paid stays covered. -/
theorem Payable.step (hwf : Wellformed s)
    (hinv : ∀ hit, calcBettingHitIndex betting s = .ok hit → Payable id betting hit s)
    (h : Step (fun origin s c => ClosedCall id betting s c ∧ SoundCall id origin s c) betting.battles s s') :
    ∀ hit, calcBettingHitIndex betting s' = .ok hit → Payable id betting hit s' := by
  intro hit hhit'
  cases h with
  | outside h hfixed =>
      rw [calcBettingHitIndex_congr hfixed] at hhit'
      exact (hinv hit hhit').untouched (h.untouched id)
  | call origin c hsigned hallowed h =>
      obtain ⟨⟨hclosed, hbattle⟩, hsound⟩ := hallowed
      have hbattles : ∀ battleId ∈ betting.battles, s'.battles battleId = s.battles battleId := by
        intro battleId hmem
        cases hc : c.betting? s with
        | some id' => rw [(touched_of_dispatch hinj horganizer hwf hsigned hc h).battles]
        | none =>
            obtain ⟨judged, hjudged⟩ := exists_battle_of_betting?_eq_none hc
            refine (judged_of_dispatch hjudged h).battles battleId fun heq => ?_
            exact hbattle battleId hmem (heq ▸ hjudged)
      rw [calcBettingHitIndex_congr hbattles] at hhit'
      by_cases hc : c.betting? s = some id
      · have hkind := hclosed hc
        cases c with
        | bettingClaim bettingId =>
            obtain rfl := Option.some.inj hc
            exact (hinv hit hhit').claim hexact hwf hsigned hhit' h
        | revokeRemainCompensate bettingId =>
            obtain rfl := Option.some.inj hc
            exact (hinv hit hhit').refund hexact horganizer hwf (hsound rfl) hhit' h
        | _ => exact hkind.elim
      · exact (hinv hit hhit').untouched (untouched_of_dispatch hexact hinj horganizer hwf hsigned hc h)

theorem payable_of_played {s₀ s₁ s₂ s₃ : State cfg} (h : Played (SoundCall id) id betting s₀ s₁ s₂ s₃ s)
    (hhit : calcBettingHitIndex betting s = .ok hit) : Wellformed s ∧ Payable id betting hit s := by
  obtain ⟨hwf₃, hbooked⟩ := booked_of_played hexact hinj horganizer h
  refine ⟨hwf₃.run hexact hinj horganizer h.claims, ?_⟩
  have hclaims := h.claims
  have hinv : ∀ hit, calcBettingHitIndex betting s = .ok hit → Payable id betting hit s := by
    clear hhit h
    induction hclaims with
    | refl => exact fun hit _ => hbooked.payable hit
    | tail hrun hlast ih =>
        exact Payable.step hexact hinj horganizer (hwf₃.run hexact hinj horganizer hrun) ih hlast
  exact hinv hit hhit

end Claims

/-- A claim pays what the bets on the item that was hit are worth. -/
structure PaidOut (who : AccountId) (id : BettingId) (hit : SelectIndex) (s s' : State cfg) : Prop where
  received : (balancesOf cfg.awtTokenId who s'.asset).1.toNat =
    (balancesOf cfg.awtTokenId who s.asset).1.toNat + dueOn hit (recordOf who id s).1
  paid : pledgeOf id s = pledgeOf id s' + dueOn hit (recordOf who id s).1
  claimed : recordOf who id s' = ((recordOf who id s).1, true)

/-- In every run in which bets are booked exactly and the creator takes the rest at most once, each bettor with a bet
on the item that was hit is paid. -/
theorem winners_payable (hunlocked : cfg.token.balances.Unlocked (cfg.getBettingTreasury id))
    (hinj : Function.Injective cfg.getBettingTreasury) (horganizer : ¬ Keyless cfg cfg.bvbOrganizer)
    {s₀ s₁ s₂ s₃ : State cfg} (h : Played (SoundCall id) id betting s₀ s₁ s₂ s₃ s)
    (hhit : calcBettingHitIndex betting s = .ok hit) (hunclaimed : (recordOf who id s).2 = false)
    (hholds : ∃ r ∈ (recordOf who id s).1, r.selectIndex = hit) :
    ∃ s', bettingClaim (.signed who) id s = .ok s' ∧ PaidOut who id hit s s' := by
  obtain ⟨hwf, hpayable⟩ := payable_of_played hunlocked.toExact hinj horganizer h hhit
  obtain ⟨r, hr, -⟩ := hholds
  have hrecords : (recordOf who id s).1 ≠ [] := List.ne_nil_of_mem hr
  have hkeyed := hwf.bettors id who hrecords
  obtain ⟨-, hpledgeAccount, htoken⟩ := hwf.terms id betting hpayable.lookup
  obtain ⟨hamount, hcovered⟩ := hpayable.toNat_claimAmount hunclaimed
  have hpay : ∃ asset, payFromPledge betting (claimAmount hit (recordOf who id s).1) who s.asset = .ok asset := by
    unfold payFromPledge
    split
    · obtain ⟨asset, hasset⟩ := Token.transferToken_ok_of_total hunlocked
        (fun heq : cfg.getBettingTreasury id = who => hkeyed ⟨id, heq.symm⟩) (hamount.trans_le hcovered) hwf.issued
      rw [hpledgeAccount, htoken, hasset]
      exact ⟨_, rfl⟩
    · exact ⟨_, rfl⟩
  obtain ⟨asset, hasset⟩ := hpay
  have hclaim : bettingClaim (.signed who) id s = .ok { s with
      asset
      bettingRecords := s.bettingRecords.insert (who, id) ((recordOf who id s).1, true) } := by
    simp only [bettingClaim, ensureSigned, ok_bind, hunclaimed, hpayable.lookup, okOr_some, hhit, hasset, ensure,
      if_pos hrecords]
    rfl
  obtain ⟨hpledge, hreceived⟩ := claim_moves hunlocked.toExact hwf hkeyed hpayable.lookup hhit hclaim
  rw [hamount] at hpledge hreceived
  refine ⟨_, hclaim, hreceived, hpledge, ?_⟩
  exact (recordOf_insert rfl who id).trans (if_pos rfl)

/-! ### A refund that is paid twice -/

theorem not_keyless_replicate {b : UInt8} (hb : b ≠ 255) : ¬ Keyless plainConfig (List.Vector.replicate 32 b) := by
  rintro ⟨id, h⟩
  have hlast : (plainTreasury id).toList.getLast? = some 255 := by
    change (Bytes.leBytes 4 id.toNat ++ List.replicate 28 255).getLast? = some 255
    rw [List.getLast?_append, List.getLast?_replicate]
    rfl
  have hsame : some b = (plainTreasury id).toList.getLast? :=
    congrArg (fun v : AccountId => v.toList.getLast?) h
  exact hb (Option.some.inj (hsame.trans hlast))

theorem signable_replicate {b : UInt8} (hb : b ≠ 255) :
    Signable plainConfig (.signed (List.Vector.replicate 32 b)) := by
  intro who hwho
  rw [← Origin.signed.inj hwho]
  exact not_keyless_replicate hb

/-- The organizer has what is pledged, and one battle is open. -/
def startState : State plainConfig where
  now := 0
  nextBettingId := 1
  nextSeasonId := 2
  nextBattleId := 2
  defaultSeason := 1
  npcs := fun id => id = 1 || id = 2
  accountNonce := fun _ => 1
  seasons := fun id =>
    if id = 1 then some ⟨.initial, plainConfig.getSeasonTreasury 1, 0, 35, [], 1, .league, none, 0⟩ else none
  battles := fun id => if id = 1 then some ⟨1, 1, .league, 2, .running, 10, none, none⟩ else none
  bettingByBattle := fun _ => none
  bettings := fun _ => none
  bettingRecords := fun _ => none
  bettingInviteAmount := fun _ => none
  seasonWinners := fun _ => none
  votesForCalc := fun _ => none
  participantPoints := ∅
  tickets := fun _ => none
  voteSelectInfos := fun _ => none
  inviteCode := fun _ => none
  inviteRecords := fun _ => none
  npcPoints := fun _ => none
  asset := .genesis fun who => (if who = organizer then 100 else if who = alice then 50 else 0, 0)
  refunds := []
  settlements := []

theorem sum_two_holders (a b : AccountId) (x y : Nat) :
    (∑ who, ((if who = a then x else 0) + if who = b then y else 0)) = x + y := by
  rw [Finset.sum_add_distrib, Finset.sum_ite_eq' Finset.univ a, Finset.sum_ite_eq' Finset.univ b,
    if_pos (Finset.mem_univ a), if_pos (Finset.mem_univ b)]

theorem init_startState : Init startState := by
  refine ⟨rfl, rfl, ?_⟩
  have hbalance : ∀ who, (balancesOf 0 who startState.asset).1.toNat +
      (balancesOf 0 who startState.asset).2.toNat =
        (if who = organizer then 100 else 0) + if who = alice then 50 else 0 := by
    intro who
    rw [show balancesOf 0 who startState.asset = startState.asset.native who from
      Token.balancesOf_native who startState.asset]
    dsimp only [startState, Token.State.genesis]
    by_cases horganizer : who = organizer
    · have halice : who ≠ alice := by
        rw [horganizer]
        decide
      rw [if_pos horganizer, if_pos horganizer, if_neg halice]
      rfl
    · simp only [if_neg horganizer]
      split <;> rfl
  have htotal : totalBalance 0 startState.asset = 100 + 50 :=
    (Finset.sum_congr rfl fun who _ => hbalance who).trans (sum_two_holders organizer alice 100 50)
  exact htotal.trans_lt (by decide)

/-- A betting of `100` on the battle, in which alice has `25` at odds of two on the winner. -/
def settledStates : Result (State plainConfig × State plainConfig × State plainConfig × State plainConfig) := do
  let created ← createBetting (.signed organizer) .winLose [1] [] 1 100 startState
  let opened ← goBet (.signed alice) 1 0 25 created
  let judged ← setResult (.signed organizer) 1 3 0 opened
  let settled ← leagueSettle (.signed organizer) 1 judged
  return (created, opened, judged, settled)

/-- The betting when its battle is settled. -/
def wonBetting : Betting where
  creator := organizer
  pledgeAccount := plainTreasury 1
  totalPledge := 100
  bettingType := .winLose
  battles := [1]
  odds := [⟨[1], [], 200, 50, 25, 1⟩, ⟨[2], [], 200, 0, 0, 0⟩]
  tokenId := 0
  minBettingAmount := 1
  season := 1

/-- What the states of the run are like: alice's bet is exact, and the winner is the item that she has bet on. -/
theorem settledStates_spec {created opened judged settled : State plainConfig}
    (h : settledStates = .ok (created, opened, judged, settled)) :
    recordOf alice 1 created = ([], false) ∧
      created.bettings 1 = some { wonBetting with odds := [itemOf [1] [] 200, itemOf [2] [] 200] } ∧
      judged.bettings 1 = some wonBetting ∧ settled.battles 1 = some ⟨1, 1, .league, 2, .finalized, 10, some 3, some 0⟩ ∧
      recordOf alice 1 settled = ([⟨0, 200, 25⟩], false) := by
  have hcheck : succeedsWith settledStates (fun s => recordOf alice 1 s.1 = ([], false) ∧
      s.1.bettings 1 = some { wonBetting with odds := [itemOf [1] [] 200, itemOf [2] [] 200] } ∧
      s.2.2.1.bettings 1 = some wonBetting ∧
      s.2.2.2.battles 1 = some ⟨1, 1, .league, 2, .finalized, 10, some 3, some 0⟩ ∧
      recordOf alice 1 s.2.2.2 = ([⟨0, 200, 25⟩], false)) = true := by decide +kernel
  rw [h] at hcheck
  exact of_decide_eq_true hcheck

theorem exactBet_of_settledStates {created opened judged settled : State plainConfig}
    (h : settledStates = .ok (created, opened, judged, settled)) : ExactBet alice 1 0 25 created := by
  obtain ⟨hrecord, hcreated, -⟩ := settledStates_spec h
  intro betting item hbetting hitem
  obtain rfl := Option.some.inj (hcreated.symm.trans hbetting)
  obtain rfl : itemOf [1] [] 200 = item := Option.some.inj hitem
  rw [hrecord]
  exact ⟨⟨by decide, fun r hr => absurd hr List.not_mem_nil⟩, by decide⟩

theorem played_of_settledStates {created opened judged settled : State plainConfig}
    (h : settledStates = .ok (created, opened, judged, settled)) :
    Played (SoundCall 1) 1 wonBetting startState created judged settled settled := by
  obtain ⟨-, -, hjudged, -⟩ := settledStates_spec h
  have hexact := exactBet_of_settledStates h
  have horganizer : Signable plainConfig (.signed organizer) := signable_replicate (by decide)
  have halice : Signable plainConfig (.signed alice) := signable_replicate (by decide)
  obtain ⟨created', hcreate, h⟩ := bind_eq_ok.mp h
  obtain ⟨opened', hbet, h⟩ := bind_eq_ok.mp h
  obtain ⟨judged', hjudge, h⟩ := bind_eq_ok.mp h
  obtain ⟨settled', hsettle, h⟩ := bind_eq_ok.mp h
  obtain ⟨rfl, rfl, rfl, rfl⟩ : created' = created ∧ opened' = opened ∧ judged' = judged ∧ settled' = settled := by
    simpa using h
  exact {
    reached := ⟨startState, init_startState, .refl⟩
    fresh := rfl
    created := ⟨rfl, .signed organizer, horganizer, .winLose, [1], [], 1, 100, hcreate⟩
    bets := (Relation.ReflTransGen.single (.call (.signed alice) (.goBet 1 0 25) halice
      ⟨fun _ => trivial, fun _ who hwho => Origin.signed.inj hwho ▸ hexact⟩ hbet)).tail (.call (.signed organizer) (.setResult 1 3 0) horganizer
      ⟨fun hnone => absurd hnone (by simp [Call.betting?]), trivial⟩ hjudge)
    lookup := hjudged
    settled := ⟨.signed organizer, horganizer, 1, List.mem_singleton_self 1, .inr hsettle⟩
    claims := .refl }

theorem calcBettingHitIndex_settled {created opened judged settled : State plainConfig}
    (h : settledStates = .ok (created, opened, judged, settled)) : calcBettingHitIndex wonBetting settled = .ok 0 := by
  obtain ⟨-, -, -, hbattle, -⟩ := settledStates_spec h
  have hfinalized : finalizedBattle settled.battles 1 =
      .ok ⟨1, 1, .league, 2, .finalized, 10, some 3, some 0⟩ := by
    rw [finalizedBattle, hbattle]
    rfl
  simp only [calcBettingHitIndex, wonBetting, List.mapM_cons, List.mapM_nil, hfinalized]
  rfl

/-- Alice is paid when nobody else takes from the pledge account. -/
theorem winners_payable_alice : ∃ s s' : State plainConfig,
    bettingClaim (.signed alice) 1 s = .ok s' ∧ PaidOut alice 1 0 s s' := by
  obtain ⟨⟨created, opened, judged, settled⟩, h⟩ := exists_of_isOk (x := settledStates) (by decide +kernel)
  have hrecord := (settledStates_spec h).2.2.2.2
  obtain ⟨s', hclaim⟩ := @winners_payable _ _ _ _ _ alice (Balances.plain_unlocked _) plainTreasury_injective
    (not_keyless_replicate (by decide)) _ _ _ _ (played_of_settledStates h) (calcBettingHitIndex_settled h)
    (by rw [hrecord]) ⟨⟨0, 200, 25⟩, by rw [hrecord]; exact List.mem_singleton_self _, rfl⟩
  exact ⟨settled, s', hclaim⟩

/-- The creator takes the rest twice, and nothing is left for alice. -/
theorem refund_paid_twice : ∃ s₀ s₁ s₂ s₃ s : State plainConfig,
    Played (fun _ _ _ => True) 1 wonBetting s₀ s₁ s₂ s₃ s ∧ calcBettingHitIndex wonBetting s = .ok 0 ∧
      recordOf alice 1 s = ([⟨0, 200, 25⟩], false) ∧ ∀ s', bettingClaim (.signed alice) 1 s ≠ .ok s' := by
  obtain ⟨⟨⟨created, opened, judged, settled⟩, once, twice⟩, hrun, hcheck⟩ := exists_of_succeedsWith
    (x := do
      let states ← settledStates
      let once ← revokeRemainCompensate (.signed organizer) 1 states.2.2.2
      let twice ← revokeRemainCompensate (.signed organizer) 1 once
      return (states, once, twice))
    (p := fun x => recordOf alice 1 x.2.2 = ([⟨0, 200, 25⟩], false) ∧
      succeedsWith (calcBettingHitIndex wonBetting x.2.2) (fun hit => hit = 0) = true ∧
      (bettingClaim (.signed alice) 1 x.2.2).isOk = false) (by decide +kernel)
  obtain ⟨hrecord, hhit, hfails⟩ := of_decide_eq_true hcheck
  obtain ⟨states, hstates, hrun⟩ := bind_eq_ok.mp hrun
  obtain ⟨once', honce, hrun⟩ := bind_eq_ok.mp hrun
  obtain ⟨twice', htwice, hrun⟩ := bind_eq_ok.mp hrun
  obtain ⟨rfl, rfl, rfl⟩ : states = (created, opened, judged, settled) ∧ once' = once ∧ twice' = twice := by
    simpa using hrun
  have horganizer : Signable plainConfig (.signed organizer) := signable_replicate (by decide)
  have hclosed (s : State plainConfig) : ClosedCall 1 wonBetting s (.revokeRemainCompensate 1) :=
    ⟨fun _ => trivial, fun _ _ => by simp [Call.battle?]⟩
  have hplayed := (played_of_settledStates hstates).mono fun _ _ _ _ => trivial
  obtain ⟨hit, hhit, hzero⟩ := exists_of_succeedsWith hhit
  obtain rfl : hit = 0 := of_decide_eq_true hzero
  refine ⟨startState, created, judged, settled, twice', { hplayed with
    claims := (Relation.ReflTransGen.single (.call (.signed organizer) (.revokeRemainCompensate 1) horganizer
      ⟨hclosed _, trivial⟩ honce)).tail (.call (.signed organizer) (.revokeRemainCompensate 1) horganizer
      ⟨hclosed _, trivial⟩ htwice) }, hhit, hrecord, fun s' hs' => ?_⟩
  rw [hs'] at hfails
  exact absurd hfails (by simp [Except.isOk, Except.toBool])

end Fusotao.AbyssTournament
