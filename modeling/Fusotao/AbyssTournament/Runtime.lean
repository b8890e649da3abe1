import Fusotao.Base.Transition
import Fusotao.Token.Transfer
import Fusotao.AbyssTournament.Pallet

/-!
# Calls on bettings

A call on a betting leaves the other bettings alone: it takes from no pledge account but its own. So what an
account is owed by a betting is only ever touched by calls on this betting.
-/

namespace Fusotao.AbyssTournament

open Exec
open Token (balancesOf freeBalance totalBalance transferToken)

variable {cfg : Config} {s s' : State cfg} {id : BettingId}

inductive Call
  | createBetting (bettingType : BettingType) (battles : List BattleId) (odditemParams : List OddsItemPrams)
      (seasonId : SeasonId) (pledgeAmount : U128)
  | goBet (bettingId : BettingId) (itemIndex : SelectIndex) (amount : U128)
  | goBetWithInvite (bettingId : BettingId) (itemIndex : SelectIndex) (amount : U128)
      (inviteCode : List UInt8)
  | appendBettingPledge (bettingId : BettingId) (amount : U128)
  | updateOdds (bettingId : BettingId) (odds : List (SelectIndex × OddsNumber))
  | dropBetting (bettingId : BettingId)
  | revokeRemainCompensate (bettingId : BettingId)
  | bettingClaim (bettingId : BettingId)
  | setResult (battleId : BattleId) (homeScore visitingScore : Score)
  | finalsSettle (battleId : BattleId)
  | leagueSettle (battleId : BattleId)

def dispatch (origin : Origin) (s : State cfg) : Call → Result (State cfg)
  | .createBetting bettingType battles odditemParams seasonId pledgeAmount =>
      createBetting origin bettingType battles odditemParams seasonId pledgeAmount s
  | .goBet bettingId itemIndex amount => goBet origin bettingId itemIndex amount s
  | .goBetWithInvite bettingId itemIndex amount inviteCode =>
      goBetWithInvite origin bettingId itemIndex amount inviteCode s
  | .appendBettingPledge bettingId amount => appendBettingPledge origin bettingId amount s
  | .updateOdds bettingId odds => updateOdds origin bettingId odds s
  | .dropBetting bettingId => dropBetting origin bettingId s
  | .revokeRemainCompensate bettingId => revokeRemainCompensate origin bettingId s
  | .bettingClaim bettingId => bettingClaim origin bettingId s
  | .setResult battleId homeScore visitingScore => setResult origin battleId homeScore visitingScore s
  | .finalsSettle battleId => finalsSettle origin battleId s
  | .leagueSettle battleId => leagueSettle origin battleId s

/-- The betting that a call is on. -/
def Call.betting? (s : State cfg) : Call → Option BettingId
  | .createBetting .. => some s.nextBettingId
  | .goBet bettingId .. | .goBetWithInvite bettingId .. | .appendBettingPledge bettingId ..
  | .updateOdds bettingId .. | .dropBetting bettingId | .revokeRemainCompensate bettingId
  | .bettingClaim bettingId => some bettingId
  | .setResult .. | .finalsSettle _ | .leagueSettle _ => none

/-- The battle whose result a call is about. -/
def Call.battle? : Call → Option BattleId
  | .setResult battleId .. | .finalsSettle battleId | .leagueSettle battleId => some battleId
  | _ => none

/-! ### What the calls do -/

section Calls

variable {who : AccountId} {itemIndex : SelectIndex} {amount : U128} {betting : Betting} {origin : Origin}

theorem createBetting_eq_ok {bettingType : BettingType} {battles : List BattleId}
    {odditemParams : List OddsItemPrams} {seasonId : SeasonId} {pledgeAmount : U128}
    (h : createBetting origin bettingType battles odditemParams seasonId pledgeAmount s = .ok s') :
    ∃ betting paid, betting.creator = cfg.bvbOrganizer ∧
      betting.pledgeAccount = cfg.getBettingTreasury s.nextBettingId ∧ betting.tokenId = cfg.awtTokenId ∧
      betting.totalPledge = pledgeAmount ∧ (∀ item ∈ betting.odds, item.totalCompensateAmount = 0) ∧
      transferToken cfg.bvbOrganizer cfg.awtTokenId pledgeAmount (cfg.getBettingTreasury s.nextBettingId)
        s.asset = .ok (paid, s'.asset) ∧
      s' = { s with
        asset := s'.asset
        bettings := s.bettings.insert s.nextBettingId betting
        bettingByBattle := s'.bettingByBattle
        nextBettingId := s.nextBettingId + 1 } := by
  simp only [createBetting, bind_eq_ok, ensure_eq_ok, okOr_eq_ok, pure_eq_ok, exists_const, Prod.exists] at h
  obtain ⟨_, -, -, odds, hodds, _, -, -, paid, asset, hasset, rfl⟩ := h
  refine ⟨_, paid, rfl, rfl, rfl, rfl, ?_, hasset, rfl⟩
  intro item hitem
  unfold oddsOrDefault at hodds
  split at hodds
  · rw [okOr_eq_ok] at hodds
    cases bettingType with
    | score =>
        simp only [generateDefaultOddItem] at hodds
        split at hodds
        · exact absurd hodds (by simp)
        · obtain rfl := Option.some.inj hodds
          obtain ⟨x, -, rfl⟩ := List.mem_map.mp hitem
          rfl
    | winLose =>
        obtain ⟨results, -, rfl⟩ := Option.map_eq_some_iff.mp hodds
        obtain ⟨x, -, rfl⟩ := List.mem_map.mp hitem
        rfl
  · rw [← Except.ok.inj hodds] at hitem
    obtain ⟨params, -, rfl⟩ := List.mem_map.mp hitem
    rfl

theorem bet_eq_ok (h : bet who id itemIndex amount s = .ok (betting, s')) :
    ∃ item paid, s.bettings id = some betting ∧ betting.odds[itemIndex.toNat]? = some item ∧
      compensateAmount item amount ≤ freeBalance betting.tokenId betting.pledgeAccount s.asset ∧
      transferToken who betting.tokenId amount betting.creator s.asset = .ok (paid, s'.asset) ∧
      s' = { s with
        asset := s'.asset
        bettingRecords := s.bettingRecords.insert (who, id)
          (addRecord itemIndex item.o amount (recordOf who id s).1, (recordOf who id s).2)
        bettings := s.bettings.insert id { betting with
          odds := betting.odds.set itemIndex.toNat { item with
            totalCompensateAmount := compensateAmount item amount
            accounts := item.accounts + 1
            buyIn := item.buyIn + amount } } } := by
  simp only [bet, bind_eq_ok, ensure_eq_ok, okOr_eq_ok, pure_eq_ok, exists_const, Prod.exists,
    Prod.mk.injEq] at h
  obtain ⟨betting', hbetting, -, item, hitem, -, -, hfree, paid, asset, hasset, rfl, rfl⟩ := h
  exact ⟨item, paid, hbetting, hitem, hfree, hasset, rfl⟩

/-- With or without a code, a bet is a bet. -/
theorem goBet_eq_ok (h : goBet origin id itemIndex amount s = .ok s') :
    ∃ who betting, origin = .signed who ∧ bet who id itemIndex amount s = .ok (betting, s') := by
  simp only [goBet, bind_eq_ok, ensureSigned_eq_ok, pure_eq_ok, Prod.exists] at h
  obtain ⟨who, rfl, betting, mid, hmid, rfl⟩ := h
  exact ⟨who, betting, rfl, hmid⟩

theorem goBetWithInvite_eq_ok {inviteCode : List UInt8}
    (h : goBetWithInvite origin id itemIndex amount inviteCode s = .ok s') :
    ∃ who betting mid, origin = .signed who ∧ bet who id itemIndex amount s = .ok (betting, mid) ∧
      s' = { mid with bettingInviteAmount := s'.bettingInviteAmount } := by
  simp only [goBetWithInvite, bind_eq_ok, ensureSigned_eq_ok, Prod.exists] at h
  obtain ⟨who, rfl, betting, mid, hmid, h⟩ := h
  refine ⟨who, betting, mid, rfl, hmid, ?_⟩
  split at h
  · split at h <;> exact pure_eq_ok.mp h ▸ rfl
  · exact pure_eq_ok.mp h ▸ rfl

theorem appendBettingPledge_eq_ok (h : appendBettingPledge origin id amount s = .ok s') :
    ∃ who betting paid, origin = .signed who ∧ s.bettings id = some betting ∧
      transferToken who betting.tokenId amount betting.pledgeAccount s.asset = .ok (paid, s'.asset) ∧
      s' = { s with
        asset := s'.asset
        bettings := s.bettings.insert id
          { betting with totalPledge := freeBalance betting.tokenId betting.pledgeAccount s'.asset } } := by
  simp only [appendBettingPledge, bind_eq_ok, ensureSigned_eq_ok, ensure_eq_ok, okOr_eq_ok, pure_eq_ok,
    exists_const, Prod.exists] at h
  obtain ⟨who, rfl, -, betting, hbetting, -, -, paid, asset, hasset, rfl⟩ := h
  exact ⟨who, betting, paid, rfl, hbetting, hasset, rfl⟩

/-- New odds for some items: nothing else of an item changes. -/
theorem updateOdds_eq_ok {odds : List (SelectIndex × OddsNumber)} (h : updateOdds origin id odds s = .ok s') :
    ∃ betting items, s.bettings id = some betting ∧
      items.map OddsItem.totalCompensateAmount = betting.odds.map OddsItem.totalCompensateAmount ∧
      s' = { s with bettings := s.bettings.insert id { betting with odds := items } } := by
  simp only [updateOdds, bind_eq_ok, ensureSigned_eq_ok, ensure_eq_ok, okOr_eq_ok, pure_eq_ok,
    exists_const] at h
  obtain ⟨who, rfl, betting, hbetting, -, items, hitems, rfl⟩ := h
  refine ⟨betting, items, hbetting, ?_, rfl⟩
  refine foldlM_invariant (fun items => items.map OddsItem.totalCompensateAmount =
    betting.odds.map OddsItem.totalCompensateAmount) (fun items o items' ih h => ?_) rfl hitems
  simp only [bind_eq_ok, okOr_eq_ok, ensure_eq_ok, pure_eq_ok, exists_const] at h
  obtain ⟨item, hitem, -, rfl⟩ := h
  obtain ⟨hlt, rfl⟩ := List.getElem?_eq_some_iff.mp hitem
  rw [List.map_set, ← ih, ← List.getElem_map OddsItem.totalCompensateAmount (h := by simpa using hlt)]
  exact List.set_getElem_self _

theorem dropBetting_eq_ok (h : dropBetting origin id s = .ok s') :
    ∃ betting value paid, s.bettings id = some betting ∧
      transferToken betting.pledgeAccount betting.tokenId value betting.creator s.asset = .ok (paid, s'.asset) ∧
      s' = { s with
        asset := s'.asset
        bettings := s.bettings.insert id { betting with totalPledge := 0 }
        bettingByBattle := s'.bettingByBattle } := by
  simp only [dropBetting, bind_eq_ok, ensureSigned_eq_ok, ensure_eq_ok, okOr_eq_ok, pure_eq_ok, exists_const,
    Prod.exists] at h
  obtain ⟨who, rfl, betting, hbetting, -, -, paid, asset, hasset, rfl⟩ := h
  exact ⟨betting, _, paid, hbetting, hasset, rfl⟩

theorem revokeRemainCompensate_eq_ok (h : revokeRemainCompensate origin id s = .ok s') :
    ∃ betting hitIndex item, s.bettings id = some betting ∧ origin = .signed betting.creator ∧
      calcBettingHitIndex betting s = .ok hitIndex ∧ betting.odds[hitIndex.toNat]? = some item ∧
      ((betting.totalPledge ≤ item.totalCompensateAmount ∧ s' = s) ∨
        (item.totalCompensateAmount < betting.totalPledge ∧ ∃ paid,
          transferToken betting.pledgeAccount betting.tokenId
            (betting.totalPledge - item.totalCompensateAmount) betting.creator s.asset = .ok (paid, s'.asset) ∧
          s' = { s with asset := s'.asset, refunds := s.refunds ++ [id] })) := by
  simp only [revokeRemainCompensate, bind_eq_ok, ensureSigned_eq_ok, ensure_eq_ok, okOr_eq_ok,
    exists_const] at h
  obtain ⟨who, rfl, betting, hbetting, rfl, hitIndex, hhit, item, hitem, h⟩ := h
  refine ⟨betting, hitIndex, item, hbetting, rfl, hhit, hitem, ?_⟩
  split at h
  · rename_i hle
    exact .inl ⟨hle, (pure_eq_ok.mp h).symm⟩
  · rename_i hlt
    simp only [bind_eq_ok, pure_eq_ok, Prod.exists] at h
    obtain ⟨paid, asset, hasset, rfl⟩ := h
    exact .inr ⟨BitVec.not_le.mp hlt, paid, hasset, rfl⟩

theorem bettingClaim_eq_ok (h : bettingClaim origin id s = .ok s') :
    ∃ who betting hitIndex, origin = .signed who ∧ s.bettings id = some betting ∧
      (recordOf who id s).2 = false ∧ calcBettingHitIndex betting s = .ok hitIndex ∧
      ((claimAmount hitIndex (recordOf who id s).1 = 0 ∧ s'.asset = s.asset) ∨
        ∃ paid, transferToken betting.pledgeAccount betting.tokenId
          (claimAmount hitIndex (recordOf who id s).1) who s.asset = .ok (paid, s'.asset)) ∧
      s' = { s with
        asset := s'.asset
        bettingRecords := s.bettingRecords.insert (who, id) ((recordOf who id s).1, true) } := by
  simp only [bettingClaim, bind_eq_ok, ensureSigned_eq_ok, ensure_eq_ok, okOr_eq_ok, pure_eq_ok,
    exists_const] at h
  obtain ⟨who, rfl, hclaimed, -, betting, hbetting, hitIndex, hhit, asset, hasset, rfl⟩ := h
  refine ⟨who, betting, hitIndex, rfl, hbetting, hclaimed, hhit, ?_, rfl⟩
  unfold payFromPledge at hasset
  split at hasset
  · simp only [bind_eq_ok, pure_eq_ok, Prod.exists, exists_eq_right] at hasset
    obtain ⟨paid, hasset⟩ := hasset
    exact .inr ⟨paid, hasset⟩
  · rename_i hnot
    refine .inl ⟨?_, (pure_eq_ok.mp hasset).symm⟩
    exact BitVec.eq_of_toNat_eq (Nat.eq_zero_of_not_pos hnot)

end Calls

/-! ### Calls on battles -/

/-- Only the results of one battle, and what is derived from them, change. -/
structure Judged (battleId : BattleId) (s s' : State cfg) : Prop where
  bettings : s'.bettings = s.bettings
  records : s'.bettingRecords = s.bettingRecords
  refunds : s'.refunds = s.refunds
  asset : s'.asset = s.asset
  battles : ∀ other, other ≠ battleId → s'.battles other = s.battles other

theorem updateParticipantPoint_eq_ok {seasonId : SeasonId} {battleId : BattleId} {battle : Battle}
    {winner : NpcId} (h : updateParticipantPoint seasonId battleId battle winner s = .ok s') :
    s' = { s with participantPoints := s'.participantPoints } := by
  simp only [updateParticipantPoint, bind_eq_ok, pure_eq_ok] at h
  obtain ⟨_, -, _, -, rfl⟩ := h
  rfl

theorem judged_of_dispatch {origin : Origin} {c : Call} {battleId : BattleId} (hc : c.battle? = some battleId)
    (h : dispatch origin s c = .ok s') : Judged battleId s s' := by
  cases c with
  | setResult id homeScore visitingScore =>
      obtain rfl := Option.some.inj hc
      simp only [dispatch, setResult, bind_eq_ok, pure_eq_ok] at h
      obtain ⟨_, -, battle, -, _, -, rfl⟩ := h
      exact ⟨rfl, rfl, rfl, rfl, fun other hne => StorageMap.insert_of_ne _ _ hne⟩
  | finalsSettle id =>
      obtain rfl := Option.some.inj hc
      simp only [dispatch, finalsSettle, bind_eq_ok, Prod.exists] at h
      obtain ⟨_, -, battle, -, _, -, _, -, _, winner, _, -, mid, hmid, h⟩ := h
      have hframe := updateParticipantPoint_eq_ok hmid
      have hfinal : s' = { finalize id battle mid with seasons := s'.seasons } := by
        split at h
        · obtain ⟨season, -, h⟩ := bind_eq_ok.mp h
          exact pure_eq_ok.mp h ▸ rfl
        · exact pure_eq_ok.mp h ▸ rfl
      rw [hfinal, finalize, hframe]
      exact ⟨rfl, rfl, rfl, rfl, fun other hne => StorageMap.insert_of_ne _ _ hne⟩
  | leagueSettle id =>
      obtain rfl := Option.some.inj hc
      simp only [dispatch, leagueSettle, bind_eq_ok, pure_eq_ok, Prod.exists] at h
      obtain ⟨_, -, battle, -, _, -, _, -, scoreDiff, winner, loser, -, mid, hmid, rfl⟩ := h
      rw [finalize, updateParticipantPoint_eq_ok hmid]
      unfold updateNpcLeaguePoint
      split <;> exact ⟨rfl, rfl, rfl, rfl, fun other hne => StorageMap.insert_of_ne _ _ hne⟩
  | _ => exact absurd hc (by simp [Call.battle?])

/-! ### Calls on a betting -/

/-- What a betting is created with and no call changes. -/
structure Terms (cfg : Config) (id : BettingId) (betting : Betting) : Prop where
  creator : betting.creator = cfg.bvbOrganizer
  pledgeAccount : betting.pledgeAccount = cfg.getBettingTreasury id
  tokenId : betting.tokenId = cfg.awtTokenId

/-- Nobody signs for a pledge account. -/
def Keyless (cfg : Config) (who : AccountId) : Prop := ∃ id, who = cfg.getBettingTreasury id

def Signable (cfg : Config) (origin : Origin) : Prop := ∀ who, origin = .signed who → ¬ Keyless cfg who

/-- What holds of the storage in every run. -/
structure Wellformed (s : State cfg) : Prop where
  terms : ∀ id betting, s.bettings id = some betting → Terms cfg id betting
  unrecorded : ∀ id who, s.bettings id = none → recordOf who id s = ([], false)
  bettors : ∀ id who, (recordOf who id s).1 ≠ [] → ¬ Keyless cfg who
  issued : totalBalance cfg.awtTokenId s.asset < 2 ^ 128

/-- Tokens move, but not from the pledge account of another betting. -/
def PaysFrom (id : BettingId) (s s' : State cfg) : Prop :=
  s'.asset = s.asset ∨ ∃ payer value target paid, (∀ id', id' ≠ id → cfg.getBettingTreasury id' ≠ payer) ∧
    transferToken payer cfg.awtTokenId value target s.asset = .ok (paid, s'.asset)

/-- A call on one betting. -/
structure Touched (id : BettingId) (s s' : State cfg) : Prop where
  bettings : ∀ id', id' ≠ id → s'.bettings id' = s.bettings id'
  present : ∃ betting, s'.bettings id = some betting ∧ Terms cfg id betting
  records : ∀ id' who, id' ≠ id → recordOf who id' s' = recordOf who id' s
  bettors : ∀ who, (recordOf who id s').1 ≠ [] → (recordOf who id s).1 ≠ [] ∨ ¬ Keyless cfg who
  refunds : ∀ id', id' ≠ id → (id' ∈ s'.refunds ↔ id' ∈ s.refunds)
  battles : s'.battles = s.battles
  asset : PaysFrom id s s'

theorem recordOf_congr (h : s'.bettingRecords = s.bettingRecords) (who : AccountId) (id : BettingId) :
    recordOf who id s' = recordOf who id s := by
  rw [recordOf, recordOf, h]

/-- Writing the record of one account. -/
theorem recordOf_insert {who : AccountId} {v : List BettingRecord × Bool}
    (h : s'.bettingRecords = s.bettingRecords.insert (who, id) v) (who' : AccountId) (id' : BettingId) :
    recordOf who' id' s' = if (who', id') = (who, id) then v else recordOf who' id' s := by
  rw [recordOf, h, StorageMap.insert_apply]
  split <;> rfl

section Touched

variable {origin : Origin} {c : Call} {betting : Betting}

/-- A betting is written, and no record is. -/
theorem Touched.of_insert (hbettings : s'.bettings = s.bettings.insert id betting)
    (hterms : Terms cfg id betting) (hrecords : s'.bettingRecords = s.bettingRecords)
    (hrefunds : s'.refunds = s.refunds) (hbattles : s'.battles = s.battles) (hasset : PaysFrom id s s') :
    Touched id s s' := by
  refine ⟨fun id' hne => ?_, ⟨betting, ?_, hterms⟩, fun id' who _ => recordOf_congr hrecords who id',
    fun who hbets => .inl ?_, fun id' _ => by rw [hrefunds], hbattles, hasset⟩
  · rw [hbettings, StorageMap.insert_of_ne _ _ hne]
  · rw [hbettings, StorageMap.insert_self]
  · rwa [recordOf_congr hrecords] at hbets

theorem PaysFrom.treasury (hinj : Function.Injective cfg.getBettingTreasury) {value paid : U128}
    {target : AccountId} (h : transferToken (cfg.getBettingTreasury id) cfg.awtTokenId value target s.asset =
      .ok (paid, s'.asset)) : PaysFrom id s s' :=
  .inr ⟨_, value, target, paid, fun _ hne heq => hne (hinj heq), h⟩

theorem PaysFrom.keyed {value paid : U128} {payer target : AccountId} (hpayer : ¬ Keyless cfg payer)
    (h : transferToken payer cfg.awtTokenId value target s.asset = .ok (paid, s'.asset)) : PaysFrom id s s' :=
  .inr ⟨payer, value, target, paid, fun id' _ heq => hpayer ⟨id', heq.symm⟩, h⟩

theorem bet_touched {who : AccountId} {itemIndex : SelectIndex} {amount : U128} (hwf : Wellformed s)
    (hwho : ¬ Keyless cfg who) (h : bet who id itemIndex amount s = .ok (betting, s')) : Touched id s s' := by
  obtain ⟨item, paid, hbetting, -, -, hasset, hs'⟩ := bet_eq_ok h
  obtain ⟨h1, h2, h3⟩ := hwf.terms id betting hbetting
  rw [h3] at hasset
  have hrecords := @recordOf_insert _ s s' _ _ _ (by rw [hs'])
  have hnew : s'.bettings id = some { betting with
      odds := betting.odds.set itemIndex.toNat { item with
        totalCompensateAmount := compensateAmount item amount
        accounts := item.accounts + 1
        buyIn := item.buyIn + amount } } := by
    rw [hs']
    exact StorageMap.insert_self _ _ _
  refine ⟨fun id' hne => ?_, ⟨_, hnew, h1, h2, h3⟩, fun id' who' hne => ?_, fun who' hbets => ?_,
    fun id' _ => by rw [hs'], by rw [hs'], .keyed hwho hasset⟩
  · rw [hs']
    exact StorageMap.insert_of_ne _ _ hne
  · rw [hrecords, if_neg (by simp [hne])]
  · by_cases hself : who' = who
    · exact .inr (hself ▸ hwho)
    · rw [hrecords, if_neg (by simp [hself])] at hbets
      exact .inl hbets

theorem touched_of_dispatch (hinj : Function.Injective cfg.getBettingTreasury)
    (horganizer : ¬ Keyless cfg cfg.bvbOrganizer) (hwf : Wellformed s)
    (hsigned : Signable cfg origin) (hc : c.betting? s = some id)
    (h : dispatch origin s c = .ok s') : Touched id s s' := by
  cases c with
  | createBetting bettingType battles odditemParams seasonId pledgeAmount =>
      obtain rfl := Option.some.inj hc
      obtain ⟨betting, paid, h1, h2, h3, -, -, hasset, hs'⟩ := createBetting_eq_ok h
      exact .of_insert (congrArg State.bettings hs') ⟨h1, h2, h3⟩ (by rw [hs'])
        (by rw [hs']) (by rw [hs']) (.keyed horganizer hasset)
  | goBet bettingId itemIndex amount =>
      obtain rfl := Option.some.inj hc
      obtain ⟨who, betting, horigin, hbet⟩ := goBet_eq_ok h
      exact bet_touched hwf (hsigned who horigin) hbet
  | goBetWithInvite bettingId itemIndex amount inviteCode =>
      obtain rfl := Option.some.inj hc
      obtain ⟨who, betting, mid, horigin, hbet, hs'⟩ := goBetWithInvite_eq_ok h
      have hmid := bet_touched hwf (hsigned who horigin) hbet
      rw [hs']
      exact ⟨hmid.bettings, hmid.present, hmid.records, hmid.bettors, hmid.refunds, hmid.battles, hmid.asset⟩
  | appendBettingPledge bettingId amount =>
      obtain rfl := Option.some.inj hc
      obtain ⟨who, betting, paid, horigin, hbetting, hasset, hs'⟩ := appendBettingPledge_eq_ok h
      obtain ⟨h1, h2, h3⟩ := hwf.terms _ _ hbetting
      rw [h3] at hasset
      exact .of_insert (congrArg State.bettings hs') ⟨h1, h2, h3⟩ (by rw [hs'])
        (by rw [hs']) (by rw [hs']) (.keyed (hsigned who horigin) hasset)
  | updateOdds bettingId odds =>
      obtain rfl := Option.some.inj hc
      obtain ⟨betting, items, hbetting, -, hs'⟩ := updateOdds_eq_ok h
      obtain ⟨h1, h2, h3⟩ := hwf.terms _ _ hbetting
      exact .of_insert (congrArg State.bettings hs') ⟨h1, h2, h3⟩ (by rw [hs'])
        (by rw [hs']) (by rw [hs']) (.inl (by rw [hs']))
  | dropBetting bettingId =>
      obtain rfl := Option.some.inj hc
      obtain ⟨betting, value, paid, hbetting, hasset, hs'⟩ := dropBetting_eq_ok h
      obtain ⟨h1, h2, h3⟩ := hwf.terms _ _ hbetting
      rw [h2, h3] at hasset
      exact .of_insert (congrArg State.bettings hs') ⟨h1, h2, h3⟩ (by rw [hs'])
        (by rw [hs']) (by rw [hs']) (.treasury hinj hasset)
  | revokeRemainCompensate bettingId =>
      obtain rfl := Option.some.inj hc
      obtain ⟨betting, hitIndex, item, hbetting, -, -, -, ⟨-, rfl⟩ | ⟨-, paid, hasset, hs'⟩⟩ :=
        revokeRemainCompensate_eq_ok h
      · exact ⟨fun _ _ => rfl, ⟨betting, hbetting, hwf.terms _ _ hbetting⟩, fun _ _ _ => rfl,
          fun _ hbets => .inl hbets, fun _ _ => Iff.rfl, rfl, .inl rfl⟩
      · obtain ⟨h1, h2, h3⟩ := hwf.terms _ _ hbetting
        rw [h2, h3] at hasset
        rw [hs']
        exact ⟨fun _ _ => rfl, ⟨betting, hbetting, h1, h2, h3⟩, fun _ _ _ => rfl,
          fun _ hbets => .inl hbets, fun id' hne => by simp [hne], rfl, .treasury hinj hasset⟩
  | bettingClaim bettingId =>
      obtain rfl := Option.some.inj hc
      obtain ⟨who, betting, hitIndex, -, hbetting, -, -, hasset, hs'⟩ := bettingClaim_eq_ok h
      obtain ⟨h1, h2, h3⟩ := hwf.terms _ _ hbetting
      have hrecords := @recordOf_insert _ s s' _ _ _ (by rw [hs'])
      refine ⟨fun _ _ => by rw [hs'], ⟨betting, by rw [hs']; exact hbetting, h1, h2, h3⟩,
        fun id' who' hne => ?_, fun who' hbets => .inl ?_, fun _ _ => by rw [hs'], by rw [hs'], ?_⟩
      · rw [hrecords, if_neg (by simp [hne])]
      · rw [hrecords] at hbets
        split at hbets
        · rename_i heq
          rw [(Prod.mk.inj heq).1]
          exact hbets
        · exact hbets
      · obtain ⟨-, hsame⟩ | ⟨paid, hasset⟩ := hasset
        · exact .inl hsame
        · rw [h2, h3] at hasset
          exact .treasury hinj hasset
  | setResult | finalsSettle | leagueSettle => exact absurd hc (by simp [Call.betting?])

end Touched

/-! ### Runs -/

/-- What else happens on the chain: time passes, battles and votes are written, tokens move and are issued. Nobody
signs for a pledge account, and the token is issued within the range of a word. -/
structure Outside (s s' : State cfg) : Prop where
  bettings : s'.bettings = s.bettings
  records : s'.bettingRecords = s.bettingRecords
  refunds : s'.refunds = s.refunds
  free : ∀ id, (balancesOf cfg.awtTokenId (cfg.getBettingTreasury id) s.asset).1.toNat ≤
    (balancesOf cfg.awtTokenId (cfg.getBettingTreasury id) s'.asset).1.toNat
  issued : totalBalance cfg.awtTokenId s'.asset < 2 ^ 128

/-- A call of some kind succeeds, or something else happens that leaves some battles alone. -/
inductive Step (allowed : Origin → State cfg → Call → Prop) (fixed : List BattleId) :
    State cfg → State cfg → Prop
  | call {s s' : State cfg} (origin : Origin) (c : Call)
      (hsigned : Signable cfg origin) (hallowed : allowed origin s c)
      (h : dispatch origin s c = .ok s') : Step allowed fixed s s'
  | outside {s s' : State cfg} (h : Outside s s')
      (hfixed : ∀ battleId ∈ fixed, s'.battles battleId = s.battles battleId) : Step allowed fixed s s'

/-- There is no betting yet. -/
structure Init (s : State cfg) : Prop where
  bettings : s.bettings = fun _ => none
  records : s.bettingRecords = fun _ => none
  issued : totalBalance cfg.awtTokenId s.asset < 2 ^ 128

/-- How the chain gets anywhere. -/
abbrev AnyStep : State cfg → State cfg → Prop := Step (fun _ _ _ => True) []

theorem Step.any {allowed : Origin → State cfg → Call → Prop} {fixed : List BattleId}
    (h : Step allowed fixed s s') : AnyStep s s' := by
  cases h with
  | call origin c hsigned hallowed h => exact .call origin c hsigned trivial h
  | outside h hfixed => exact .outside h (by simp)

theorem exists_battle_of_betting?_eq_none {c : Call} (h : c.betting? s = none) :
    ∃ battleId, c.battle? = some battleId := by
  cases c with
  | setResult battleId | finalsSettle battleId | leagueSettle battleId => exact ⟨battleId, rfl⟩
  | _ => exact absurd h (by simp [Call.betting?])

theorem Touched.wellformed (hexact : cfg.token.balances.Exact) (hwf : Wellformed s) (h : Touched id s s') :
    Wellformed s' := by
  obtain ⟨betting, hbetting, hterms⟩ := h.present
  refine ⟨fun id' betting' hbetting' => ?_, fun id' who hnone => ?_, fun id' who hbets => ?_, ?_⟩
  · by_cases hid : id' = id
    · subst hid
      exact Option.some.inj (hbetting.symm.trans hbetting') ▸ hterms
    · exact hwf.terms id' betting' (h.bettings id' hid ▸ hbetting')
  · have hid : id' ≠ id := fun heq => absurd (hbetting.symm.trans (heq ▸ hnone)) (by simp)
    rw [h.records id' who hid]
    exact hwf.unrecorded id' who (h.bettings id' hid ▸ hnone)
  · by_cases hid : id' = id
    · subst hid
      exact (h.bettors who hbets).elim (hwf.bettors id' who) fun hkey => hkey
    · exact hwf.bettors id' who (h.records id' who hid ▸ hbets)
  · obtain hsame | ⟨payer, value, target, paid, -, hasset⟩ := h.asset
    · rw [hsame]
      exact hwf.issued
    · rw [Token.transferToken_totalBalance hexact hasset]
      exact hwf.issued

section Runs

variable (hexact : cfg.token.balances.Exact) (hinj : Function.Injective cfg.getBettingTreasury)
  (horganizer : ¬ Keyless cfg cfg.bvbOrganizer)

include hexact hinj horganizer

theorem Wellformed.step (hwf : Wellformed s) (h : AnyStep s s') : Wellformed s' := by
  cases h with
  | call origin c hsigned hallowed h =>
      cases hc : c.betting? s with
      | some id => exact (touched_of_dispatch hinj horganizer hwf hsigned hc h).wellformed hexact hwf
      | none =>
          obtain ⟨battleId, hbattle⟩ := exists_battle_of_betting?_eq_none hc
          obtain ⟨hbettings, hrecords, -, hasset, -⟩ := judged_of_dispatch hbattle h
          refine ⟨?_, fun id who => ?_, fun id who => ?_, hasset ▸ hwf.issued⟩
          · rw [hbettings]
            exact hwf.terms
          · rw [hbettings, recordOf_congr hrecords]
            exact hwf.unrecorded id who
          · rw [recordOf_congr hrecords]
            exact hwf.bettors id who
  | outside h hfixed =>
      refine ⟨?_, fun id who => ?_, fun id who => ?_, h.issued⟩
      · rw [h.bettings]
        exact hwf.terms
      · rw [h.bettings, recordOf_congr h.records]
        exact hwf.unrecorded id who
      · rw [recordOf_congr h.records]
        exact hwf.bettors id who

theorem wellformed_of_reachable (h : Transition.Reachable Init AnyStep s) : Wellformed s := by
  refine h.invariant Wellformed (fun s hs => ?_) fun s s' hwf hstep =>
    hwf.step hexact hinj horganizer hstep
  have hnone (id who) : recordOf who id s = ([], false) := by
    rw [recordOf, hs.records]
    rfl
  refine ⟨fun id betting hbetting => ?_, fun id who _ => hnone id who, fun id who hbets => ?_, hs.issued⟩
  · rw [hs.bettings] at hbetting
    exact absurd hbetting (by simp)
  · rw [hnone] at hbets
    exact absurd rfl hbets

end Runs

/-! ### What leaves a betting alone -/

/-- What is free on the pledge account of a betting. -/
def pledgeOf (id : BettingId) (s : State cfg) : Nat :=
  (balancesOf cfg.awtTokenId (cfg.getBettingTreasury id) s.asset).1.toNat

structure Untouched (id : BettingId) (s s' : State cfg) : Prop where
  betting : s'.bettings id = s.bettings id
  records : ∀ who, recordOf who id s' = recordOf who id s
  refunds : id ∈ s'.refunds ↔ id ∈ s.refunds
  pledge : pledgeOf id s ≤ pledgeOf id s'

theorem PaysFrom.pledge_le (hexact : cfg.token.balances.Exact) (h : PaysFrom id s s') {id' : BettingId}
    (hne : id' ≠ id) : pledgeOf id' s ≤ pledgeOf id' s' := by
  obtain hsame | ⟨payer, value, target, paid, hpayer, hasset⟩ := h
  · rw [pledgeOf, pledgeOf, hsame]
  · exact Token.transferToken_free_le hexact hasset _ (hpayer id' hne)

theorem Touched.untouched (hexact : cfg.token.balances.Exact) (h : Touched id s s') {id' : BettingId}
    (hne : id' ≠ id) : Untouched id' s s' :=
  ⟨h.bettings id' hne, fun who => h.records id' who hne, h.refunds id' hne, h.asset.pledge_le hexact hne⟩

theorem Judged.untouched {battleId : BattleId} (h : Judged battleId s s') (id : BettingId) :
    Untouched id s s' :=
  ⟨by rw [h.bettings], fun who => recordOf_congr h.records who id, by rw [h.refunds],
    by rw [pledgeOf, pledgeOf, h.asset]⟩

theorem Outside.untouched (h : Outside s s') (id : BettingId) : Untouched id s s' :=
  ⟨by rw [h.bettings], fun who => recordOf_congr h.records who id, by rw [h.refunds], h.free id⟩

end Fusotao.AbyssTournament
