import Fusotao.Base.Base64
import Fusotao.Token.Decimals
import Fusotao.AbyssTournament.Types

/-!
# The tournament pallet

Every function takes the storage it reads and returns the storage it leaves.
-/

namespace Fusotao.AbyssTournament

open Exec
open Token (freeBalance)

variable {cfg : Config}

def ensureOrganizer (cfg : Config) (origin : Origin) : Result Unit :=
  ensure (cfg.organizerOrigin origin = true) DispatchError.badOrigin

/-! ### Odds -/

def defaultWinLose : Nat → Option (List (List HomeOrVisiting))
  | 1 => some [[1], [2]]
  | 2 => some [[1, 1], [1, 2], [2, 1], [2, 2]]
  | 3 => some [[1, 1, 1], [1, 1, 2], [1, 2, 1], [1, 2, 2], [2, 1, 1], [2, 1, 2], [2, 2, 1], [2, 2, 2]]
  | _ => none

/-- The item for a result at the odds it starts with. -/
def itemOf (winLose : List HomeOrVisiting) (score : List (Score × Score)) (o : OddsNumber) : OddsItem :=
  ⟨winLose, score, o, 0, 0, 0⟩

def generateDefaultOddItem (bettingType : BettingType) (battleSize : Nat) : Option (List OddsItem) :=
  match bettingType with
  | .score =>
      if battleSize ≠ 1 then none
      else some ([(3, 0), (3, 1), (3, 2), (0, 3), (1, 3), (2, 3)].map fun s => itemOf [] [s] 600)
  | .winLose => (defaultWinLose battleSize).map fun results =>
      results.map fun o => itemOf o [] (match battleSize with | 1 => 200 | 2 => 400 | _ => 800)

/-- The items of a new betting. -/
def oddsOrDefault (bettingType : BettingType) (battleSize : Nat) (odditemParams : List OddsItemPrams) :
    Result (List OddsItem) :=
  if odditemParams = [] then okOr (generateDefaultOddItem bettingType battleSize) TournamentError.bettingError
  else .ok (odditemParams.map OddsItemPrams.into)

/-! ### Bettings -/

def createBetting (origin : Origin) (bettingType : BettingType) (battles : List BattleId)
    (odditemParams : List OddsItemPrams) (seasonId : SeasonId) (pledgeAmount : U128) (s : State cfg) :
    Result (State cfg) := do
  ensureOrganizer cfg origin
  ensure (pledgeAmount > 0) TournamentError.pledgeAmountZero
  let odds ← oddsOrDefault bettingType battles.length odditemParams
  let _season ← okOr (s.seasons seasonId) TournamentError.seasonNotFound
  let bettingId := s.nextBettingId
  let betting : Betting :=
    { creator := cfg.bvbOrganizer
      pledgeAccount := cfg.getBettingTreasury bettingId
      totalPledge := pledgeAmount
      bettingType, battles, odds
      tokenId := cfg.awtTokenId
      minBettingAmount := cfg.defaultMinBetingAmount
      season := seasonId }
  ensure (betting.check = true) TournamentError.bettingParamsError
  let (_, asset) ← Token.transferToken betting.creator betting.tokenId pledgeAmount betting.pledgeAccount
    s.asset
  return { s with
    asset
    bettings := s.bettings.insert bettingId betting
    bettingByBattle := battles.foldl
      (fun m battleId => m.insert battleId ((m battleId).getD [] ++ [bettingId])) s.bettingByBattle
    nextBettingId := bettingId + 1 }

/-- No battle of a betting has started. -/
def ensureOpen (battles : List BattleId) (s : State cfg) : Result Unit :=
  battles.forM fun battleId => do
    let battle ← okOr (s.battles battleId) TournamentError.battleNotFound
    ensure (s.now / 1000 < battle.startTime) TournamentError.bettingOverTime

/-- The amount joins what was bet on the same item at the same odds. -/
def addRecord (itemIndex : SelectIndex) (o : OddsNumber) (amount : U128) :
    List BettingRecord → List BettingRecord
  | [] => [⟨itemIndex, o, amount⟩]
  | r :: records =>
      if r.selectIndex = itemIndex ∧ r.o = o then { r with amount := r.amount + amount } :: records
      else r :: addRecord itemIndex o amount records

/-- What the item at an index has to compensate with one more bet. -/
def compensateAmount (item : OddsItem) (amount : U128) : U128 :=
  item.totalCompensateAmount + item.o.setWidth 128 * amount / 100

def recordOf (who : AccountId) (bettingId : BettingId) (s : State cfg) : List BettingRecord × Bool :=
  (s.bettingRecords (who, bettingId)).getD ([], false)

/-- The part that the two calls to bet share. -/
def bet (who : AccountId) (bettingId : BettingId) (itemIndex : SelectIndex) (amount : U128) (s : State cfg) :
    Result (Betting × State cfg) := do
  let betting ← okOr (s.bettings bettingId) TournamentError.bettingNotFound
  ensure (amount ≥ betting.minBettingAmount) TournamentError.bettingAmountTooSmall
  let item ← okOr betting.odds[itemIndex.toNat]? TournamentError.selectIndexOverflow
  ensureOpen betting.battles s
  let newCompensateAmount := compensateAmount item amount
  ensure (newCompensateAmount ≤ freeBalance betting.tokenId betting.pledgeAccount s.asset)
    TournamentError.bettingAmountOverflow
  let (_, asset) ← Token.transferToken who betting.tokenId amount betting.creator s.asset
  let (records, claimed) := recordOf who bettingId s
  return (betting, { s with
    asset
    bettingRecords := s.bettingRecords.insert (who, bettingId) (addRecord itemIndex item.o amount records, claimed)
    bettings := s.bettings.insert bettingId { betting with
      odds := betting.odds.set itemIndex.toNat { item with
        totalCompensateAmount := newCompensateAmount
        accounts := item.accounts + 1
        buyIn := item.buyIn + amount } } })

def goBet (origin : Origin) (bettingId : BettingId) (itemIndex : SelectIndex) (amount : U128)
    (s : State cfg) : Result (State cfg) := do
  let who ← ensureSigned origin
  let (_, s) ← bet who bettingId itemIndex amount s
  return s

/-- The account that bytes decode to: bytes that are missing are zero, and bytes too many are ignored. -/
def toAccountId (bytes : List UInt8) : AccountId := ⟨(bytes ++ List.replicate 32 0).take 32, by simp⟩

def inviteCodeToAddr (cfg : Config) (inviteCode : List UInt8) : Option AccountId :=
  (cfg.base64Decode inviteCode).map fun v => toAccountId v.reverse

def addrToInviteCode (cfg : Config) (addr : AccountId) : List UInt8 := cfg.base64Encode addr.toList.reverse

def goBetWithInvite (origin : Origin) (bettingId : BettingId) (itemIndex : SelectIndex) (amount : U128)
    (inviteCode : List UInt8) (s : State cfg) : Result (State cfg) := do
  let who ← ensureSigned origin
  let (betting, s) ← bet who bettingId itemIndex amount s
  match inviteCodeToAddr cfg inviteCode with
  | some invitor =>
      if invitor ≠ who then
        let key := ((betting.season, invitor), betting.tokenId)
        return { s with
          bettingInviteAmount := s.bettingInviteAmount.insert key
            ((s.bettingInviteAmount key).getD 0 + amount) }
      else
        return s
  | none => return s

def appendBettingPledge (origin : Origin) (bettingId : BettingId) (amount : U128) (s : State cfg) :
    Result (State cfg) := do
  let who ← ensureSigned origin
  ensure (amount > 0) TournamentError.pledgeAmountZero
  let betting ← okOr (s.bettings bettingId) TournamentError.bettingNotFound
  betting.battles.forM fun battleId => do
    let battle ← okOr (s.battles battleId) TournamentError.battleNotFound
    ensure (battle.status ≠ .finalized) TournamentError.battleStatusError
  let (_, asset) ← Token.transferToken who betting.tokenId amount betting.pledgeAccount s.asset
  return { s with
    asset
    bettings := s.bettings.insert bettingId
      { betting with totalPledge := freeBalance betting.tokenId betting.pledgeAccount asset } }

def updateOdds (origin : Origin) (bettingId : BettingId) (odds : List (SelectIndex × OddsNumber))
    (s : State cfg) : Result (State cfg) := do
  let who ← ensureSigned origin
  let betting ← okOr (s.bettings bettingId) TournamentError.bettingNotFound
  ensure (who = betting.creator) TournamentError.permissonDeny
  let items ← odds.foldlM
    (fun items o => do
      let item ← okOr items[o.1.toNat]? TournamentError.selectIndexOverflow
      ensure (o.2 > 100) TournamentError.bettingParamsError
      return items.set o.1.toNat { item with o := o.2 })
    betting.odds
  return { s with bettings := s.bettings.insert bettingId { betting with odds := items } }

/-- A betting nobody has bet on gives the pledge back. -/
def dropBetting (origin : Origin) (bettingId : BettingId) (s : State cfg) : Result (State cfg) := do
  let who ← ensureSigned origin
  let betting ← okOr (s.bettings bettingId) TournamentError.bettingNotFound
  ensure (who = betting.creator) TournamentError.permissonDeny
  ensure (∀ item ∈ betting.odds, item.totalCompensateAmount = 0) TournamentError.bettingError
  let pledgeAmount := freeBalance betting.tokenId betting.pledgeAccount s.asset
  let (_, asset) ← Token.transferToken betting.pledgeAccount betting.tokenId pledgeAmount betting.creator
    s.asset
  return { s with
    asset
    bettings := s.bettings.insert bettingId { betting with totalPledge := 0 }
    bettingByBattle := betting.battles.foldl
      (fun m battleId => m.insert battleId (((m battleId).getD []).filter fun id => id ≠ bettingId))
      s.bettingByBattle }

/-! ### Results -/

/-- An item is hit if it names the scores of all battles, compared one after the other. -/
def scoreHit : List (Score × Score) → List Battle → Result Bool
  | [], _ => .ok true
  | _ :: _, [] => .error .panic
  | x :: score, battle :: battles => do
      let home ← okOr battle.homeScore Abort.panic
      if x.1 ≠ home then return false
      let visiting ← okOr battle.visitingScore Abort.panic
      if x.2 ≠ visiting then return false
      scoreHit score battles

/-- An item is hit if it names the winners of all battles. -/
def winLoseHit : List HomeOrVisiting → List Battle → Result Bool
  | [], _ => .ok true
  | _ :: _, [] => .error .panic
  | x :: winLose, battle :: battles =>
      if x ≠ (if scoreGt battle.homeScore battle.visitingScore then 1 else 2) then .ok false
      else winLoseHit winLose battles

/-- The first item that is hit. -/
def firstHit (hit : OddsItem → Result Bool) : Nat → List OddsItem → Result SelectIndex
  | _, [] => .error TournamentError.bettingError
  | i, odd :: odds => do
      if ← hit odd then return BitVec.ofNat 16 i
      firstHit hit (i + 1) odds

def finalizedBattle (battles : StorageMap BattleId Battle) (battleId : BattleId) : Result Battle := do
  let battle ← okOr (battles battleId) TournamentError.battleNotFound
  ensure (battle.status = .finalized) TournamentError.battleStatusError
  return battle

def calcBettingHitIndex (betting : Betting) (s : State cfg) : Result SelectIndex := do
  let battles ← betting.battles.mapM (finalizedBattle s.battles)
  match betting.bettingType with
  | .score => firstHit (fun odd => scoreHit odd.score battles) 0 betting.odds
  | .winLose => firstHit (fun odd => winLoseHit odd.winLose battles) 0 betting.odds

/-- The creator takes back what the winners do not get. -/
def revokeRemainCompensate (origin : Origin) (bettingId : BettingId) (s : State cfg) :
    Result (State cfg) := do
  let who ← ensureSigned origin
  let betting ← okOr (s.bettings bettingId) TournamentError.bettingNotFound
  ensure (who = betting.creator) TournamentError.permissonDeny
  let hitIndex ← calcBettingHitIndex betting s
  let item ← okOr betting.odds[hitIndex.toNat]? Abort.panic
  if betting.totalPledge ≤ item.totalCompensateAmount then
    return s
  let (_, asset) ← Token.transferToken betting.pledgeAccount betting.tokenId
    (betting.totalPledge - item.totalCompensateAmount) who s.asset
  return { s with asset, refunds := s.refunds ++ [bettingId] }

/-- What is paid for the bets on an item. -/
def claimAmount (hitIndex : SelectIndex) (records : List BettingRecord) : U128 :=
  records.foldl
    (fun total r => if r.selectIndex = hitIndex then total + r.amount * r.o.setWidth 128 / 100 else total) 0

/-- Nothing is transferred if there is nothing to pay. -/
def payFromPledge (betting : Betting) (amount : U128) (who : AccountId) (asset : Token.State cfg.token) :
    Result (Token.State cfg.token) := do
  if amount > 0 then
    let (_, asset) ← Token.transferToken betting.pledgeAccount betting.tokenId amount who asset
    return asset
  else
    return asset

def bettingClaim (origin : Origin) (bettingId : BettingId) (s : State cfg) : Result (State cfg) := do
  let who ← ensureSigned origin
  let (records, claimed) := recordOf who bettingId s
  ensure (claimed = false) TournamentError.haveNoBonus
  ensure (records ≠ []) TournamentError.haveNoBonus
  let betting ← okOr (s.bettings bettingId) TournamentError.bettingNotFound
  let hitIndex ← calcBettingHitIndex betting s
  let asset ← payFromPledge betting (claimAmount hitIndex records) who s.asset
  return { s with asset, bettingRecords := s.bettingRecords.insert (who, bettingId) (records, true) }

/-! ### Battles -/

def setResult (origin : Origin) (battleId : BattleId) (homeScore visitingScore : Score) (s : State cfg) :
    Result (State cfg) := do
  ensureOrganizer cfg origin
  let battle ← okOr (s.battles battleId) TournamentError.battleNotFound
  let winner := if homeScore > visitingScore then battle.home else battle.visiting
  let winners := (s.seasonWinners battle.season).getD ∅
  ensure (winners.entries.length < cfg.maxParticipantPerBattle ∨ battleId ∈ winners)
    TournamentError.participantOverflow
  return { s with
    seasonWinners := s.seasonWinners.insert battle.season (winners.insert battleId winner)
    battles := s.battles.insert battleId { battle with
      homeScore := some homeScore
      visitingScore := some visitingScore
      status := .completed } }

def updateParticipantPoint (seasonId : SeasonId) (battleId : BattleId) (battle : Battle) (winner : NpcId)
    (s : State cfg) : Result (State cfg) := do
  let _home ← okOr battle.homeScore Abort.panic
  let _visiting ← okOr battle.visitingScore Abort.panic
  return { s with
    participantPoints := ((s.votesForCalc battleId).getD ∅).entries.foldl
      (fun points entry =>
        let p := (points.lookup (seasonId, entry.1)).getD (0, 0, 0)
        points.insert (seasonId, entry.1)
          (if winner = entry.2 then (p.1 + 1, p.2.1 + 1, p.2.2 + 3) else (p.1 + 1, p.2.1, p.2.2)))
      s.participantPoints }

def updateNpcLeaguePoint (seasonId : SeasonId) (winner loser : NpcId) (scoreDiff : Score)
    (battleType : BattleType) (s : State cfg) : State cfg :=
  if battleType ≠ .league then s
  else
    let e := (s.npcPoints (seasonId, winner)).getD (0, 0, 0, 0)
    let npcPoints := s.npcPoints.insert (seasonId, winner)
      (e.1 + 1, e.2.1 + 1, e.2.2.1 + 3, e.2.2.2 + scoreDiff.setWidth 32)
    let e := (npcPoints (seasonId, loser)).getD (0, 0, 0, 0)
    { s with
      npcPoints := npcPoints.insert (seasonId, loser)
        (e.1 + 1, e.2.1, e.2.2.1, e.2.2.2 - scoreDiff.setWidth 32) }

def finalize (battleId : BattleId) (battle : Battle) (s : State cfg) : State cfg :=
  { s with
    battles := s.battles.insert battleId { battle with status := .finalized }
    settlements := battleId :: s.settlements }

def finalsSettle (origin : Origin) (battleId : BattleId) (s : State cfg) : Result (State cfg) := do
  ensureOrganizer cfg origin
  let battle ← okOr (s.battles battleId) TournamentError.battleNotFound
  ensure (battle.battleType = .quarterFinals ∨ battle.battleType = .semiFinals ∨ battle.battleType = .finals)
    TournamentError.battleTypeError
  ensure (battle.status = .completed) TournamentError.battleStatusError
  let (_, winner, _) ← battle.calc
  let s ← updateParticipantPoint battle.season battleId battle winner s
  let s := finalize battleId battle s
  if battle.battleType = .finals then
    let season ← okOr (s.seasons battle.season) Abort.panic
    return { s with seasons := s.seasons.insert battle.season { season with champion := some winner } }
  else
    return s

def leagueSettle (origin : Origin) (battleId : BattleId) (s : State cfg) : Result (State cfg) := do
  ensureOrganizer cfg origin
  let battle ← okOr (s.battles battleId) TournamentError.battleNotFound
  ensure (battle.status = .completed) TournamentError.battleStatusError
  ensure (battle.battleType = .league) TournamentError.battleTypeError
  let (scoreDiff, winner, loser) ← battle.calc
  let s := updateNpcLeaguePoint battle.season winner loser scoreDiff battle.battleType s
  let s ← updateParticipantPoint battle.season battleId battle winner s
  return finalize battleId battle s

/-! ### A runtime to run the pallet in -/

def organizer : AccountId := List.Vector.replicate 32 9

/-- The address of a betting ends in bytes that no other account here ends in. -/
def plainTreasury (id : BettingId) : AccountId :=
  ⟨Bytes.leBytes 4 id.toNat ++ List.replicate 28 255, by simp⟩

/-- The awards are paid in the native token. -/
def plainConfig : Config where
  token := Token.plainConfig
  awtTokenId := 0
  defaultMinBetingAmount := 1
  maxParticipantPerBattle := 10
  bvbOrganizer := organizer
  organizerOrigin origin := origin = .signed organizer
  getBettingTreasury := plainTreasury
  getSeasonTreasury id := ⟨Bytes.leBytes 4 id.toNat ++ List.replicate 28 254, by simp⟩
  maxTicketAmount := 99
  bvbTreasury := List.Vector.replicate 32 8
  donorAccount := List.Vector.replicate 32 7
  donationForAgent := 1
  base64Decode := Base64.decode
  base64Encode := Base64.encode
  decodeAddrs bytes := some (bytes.map fun b => List.replicate 32 b)
  dateToTimestamp bytes := some (BitVec.ofNat 64 (Bytes.leNat bytes))

theorem plainTreasury_injective : Function.Injective plainTreasury := by
  intro id id' h
  have hbytes := (List.append_inj (congrArg List.Vector.toList h) (by simp)).1
  exact BitVec.eq_of_toNat_eq (Bytes.leBytes_inj id.isLt id'.isLt hbytes)

theorem plainSeasonTreasury_injective : Function.Injective plainConfig.getSeasonTreasury := by
  intro id id' h
  have hbytes := (List.append_inj (congrArg List.Vector.toList h) (by simp)).1
  exact BitVec.eq_of_toNat_eq (Bytes.leBytes_inj id.isLt id'.isLt hbytes)

end Fusotao.AbyssTournament
