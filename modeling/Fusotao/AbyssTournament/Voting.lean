import Fusotao.AbyssTournament.Pallet

/-!
# Seasons, tickets and ballots

The calls by which a season is set up, its tickets change hands, its players vote, and its bonus is paid.
-/

namespace Fusotao.AbyssTournament

open Exec
open Token (freeBalance)

variable {cfg : Config}

/-! ### Seasons and battles -/

def dateToTimestamp (cfg : Config) (date : List UInt8) : Result Moment :=
  okOr (cfg.dateToTimestamp date) TournamentError.timeFormatError

def createSeason (origin : Origin) (startTimeStr : List UInt8) (firstFinalsBattleType : BattleType)
    (ticketPrice : U128) (s : State cfg) : Result (State cfg) := do
  ensureOrganizer cfg origin
  let startTime ← dateToTimestamp cfg startTimeStr
  ensure (ticketPrice > 1000000000000000000) TournamentError.ticketPriceTooSmall
  let id := s.nextSeasonId
  return { s with
    seasons := s.seasons.insert id
      { status := .initial
        treasury := cfg.getSeasonTreasury id
        startTime
        totalBattles := firstFinalsBattleType.totalBattles
        bonusStrategy := []
        ticketPrice, firstFinalsBattleType
        champion := none
        totalTickets := 0 }
    nextSeasonId := id + 1 }

def updateSeason (origin : Origin) (seasonId : SeasonId) (startTimeStr : List UInt8)
    (firstFinalsBattleType : BattleType) (ticketPrice : U128) (s : State cfg) : Result (State cfg) := do
  ensureOrganizer cfg origin
  let startTime ← dateToTimestamp cfg startTimeStr
  ensure (ticketPrice > 1000000000000000000) TournamentError.ticketPriceTooSmall
  let season ← okOr (s.seasons seasonId) TournamentError.seasonNotFound
  return { s with
    seasons := s.seasons.insert seasonId
      { season with
        startTime
        totalBattles := firstFinalsBattleType.totalBattles
        firstFinalsBattleType, ticketPrice } }

def setDefaultSeason (origin : Origin) (seasonId : SeasonId) (s : State cfg) : Result (State cfg) := do
  ensureOrganizer cfg origin
  let _season ← okOr (s.seasons seasonId) TournamentError.seasonNotFound
  return { s with defaultSeason := seasonId }

def createBattle (origin : Origin) (seasonId : SeasonId) (battleType : BattleType) (home visiting : NpcId)
    (startTimeStr : List UInt8) (s : State cfg) : Result (State cfg) := do
  ensureOrganizer cfg origin
  let season ← okOr (s.seasons seasonId) TournamentError.seasonNotFound
  ensure (s.npcs home = true) TournamentError.npcNotFound
  ensure (s.npcs visiting = true) TournamentError.npcNotFound
  let startTime ← dateToTimestamp cfg startTimeStr
  ensure (battleType = .league ∨ startTime ≥ season.startTime) TournamentError.battleTimeError
  ensure (home ≠ visiting) TournamentError.battleNpcCantSame
  let id := s.nextBattleId
  return { s with
    battles := s.battles.insert id
      { season := seasonId
        battleType, home, visiting
        status := .running
        startTime
        homeScore := none
        visitingScore := none }
    nextBattleId := id + 1 }

/-- The battle starts anew, in any season. -/
def updateBattle (origin : Origin) (battleId : BattleId) (seasonId : SeasonId) (battleType : BattleType)
    (home visiting : NpcId) (startTimeStr : List UInt8) (s : State cfg) : Result (State cfg) := do
  ensureOrganizer cfg origin
  let season ← okOr (s.seasons seasonId) TournamentError.seasonNotFound
  ensure (s.npcs home = true) TournamentError.npcNotFound
  ensure (s.npcs visiting = true) TournamentError.npcNotFound
  let startTime ← dateToTimestamp cfg startTimeStr
  ensure (startTime ≥ season.startTime) TournamentError.battleTimeError
  ensure (home ≠ visiting) TournamentError.battleNpcCantSame
  return { s with
    battles := s.battles.insert battleId
      { season := seasonId
        battleType, home, visiting
        status := .running
        startTime
        homeScore := none
        visitingScore := none } }

/-! ### Tickets -/

def ticketsOf (seasonId : SeasonId) (who : AccountId) (s : State cfg) : U32 × U32 :=
  (s.tickets (seasonId, who)).getD (0, 0)

/-- More tickets, none of which are voted with. -/
def addTickets (seasonId : SeasonId) (who : AccountId) (amount : U32) (s : State cfg) : State cfg :=
  let t := ticketsOf seasonId who s
  { s with tickets := s.tickets.insert (seasonId, who) (t.1 + amount, t.2 + amount) }

def giveAwayTickets (origin : Origin) (seasonId : SeasonId) (addrs : List UInt8) (s : State cfg) :
    Result (State cfg) := do
  ensureOrganizer cfg origin
  let v ← okOr (cfg.decodeAddrs addrs) TournamentError.addrListInputError
  return v.foldl (fun s a => addTickets seasonId (toAccountId a) 1 s) s

/-- Whoever has not signed anything yet gets what its first calls cost, if there is as much to give. -/
def donate (target : AccountId) (s : State cfg) : Result (State cfg) :=
  if s.accountNonce target = 0 then
    ignoreError s do
      let (_, asset) ← Token.transferToken cfg.donorAccount cfg.token.nativeTokenId cfg.donationForAgent target
        s.asset
      return { s with asset }
  else .ok s

def giveAwayFee (origin : Origin) (addrs : List UInt8) (s : State cfg) : Result (State cfg) := do
  ensureOrganizer cfg origin
  let v ← okOr (cfg.decodeAddrs addrs) TournamentError.addrListInputError
  v.foldlM
    (fun s a => ignoreError s do
      let (_, asset) ← Token.transferToken cfg.donorAccount cfg.token.nativeTokenId cfg.donationForAgent
        (toAccountId a) s.asset
      return { s with asset })
    s

def transferTicket (origin : Origin) (seasonId : SeasonId) (tickets : U32) (target : AccountId)
    (s : State cfg) : Result (State cfg) := do
  let who ← ensureSigned origin
  let t := ticketsOf seasonId who s
  ensure (t.1 ≥ tickets ∧ t.2 ≥ tickets ∧ tickets > 0) TournamentError.ticketAmountError
  let s := { s with tickets := s.tickets.insert (seasonId, who) (t.1 - tickets, t.2 - tickets) }
  donate target (addTickets seasonId target tickets s)

/-- A transfer of the award token. -/
def payAwt (origin target : AccountId) (amount : U128) (s : State cfg) : Result (State cfg) := do
  let (_, asset) ← Token.transferToken origin cfg.awtTokenId amount target s.asset
  return { s with asset }

/-- What the owner of a code gets for a ticket of somebody else. -/
def payInvitor (who : AccountId) (m : U128) (inviteCode : List UInt8) (s : State cfg) :
    Result (U128 × State cfg) := do
  match inviteCodeToAddr cfg inviteCode with
  | some invitor =>
      if invitor ≠ who then
        let partToInvitor := m * 5 / 100
        let s ← payAwt who invitor partToInvitor s
        let v := (s.inviteCode invitor).getD (0, 0)
        return (partToInvitor, { s with
          inviteRecords := s.inviteRecords.insert who true
          inviteCode := s.inviteCode.insert invitor (v.1 + 1, v.2 + partToInvitor) })
      else
        return (0, s)
  | none => return (0, s)

def buyTicket (origin : Origin) (amount : U32) (inviteCode : List UInt8) (s : State cfg) :
    Result (State cfg) := do
  let who ← ensureSigned origin
  let sid := s.defaultSeason
  let season ← okOr (s.seasons sid) TournamentError.defaultSeasonNotFound
  ensure (s.now / 1000 < season.startTime) TournamentError.buyTicketOverTime
  ensure ((ticketsOf sid who s).1 + amount ≤ cfg.maxTicketAmount ∧ amount > 0) TournamentError.ticketAmountError
  let m := season.ticketPrice * amount.setWidth 128
  ensure (m ≤ freeBalance cfg.awtTokenId who s.asset) TournamentError.insufficientBalance
  let partToBonus := m * 85 / 100
  let s ← payAwt who season.treasury partToBonus s
  let (partToInvitor, s) ← payInvitor who m inviteCode s
  let s ← payAwt who cfg.bvbTreasury (m - partToBonus - partToInvitor) s
  let s := addTickets sid who amount s
  return { s with
    seasons := s.seasons.insert sid { season with totalTickets := season.totalTickets + amount } }

/-! ### Ballots -/

def votesOf (who : AccountId) (seasonId : SeasonId) (s : State cfg) : List VoteSelectInfo × Bool :=
  (s.voteSelectInfos (who, seasonId)).getD ([], false)

/-- Some battle is voted on twice. -/
def duplicate : List BattleId → Bool
  | [] => false
  | battleId :: rest => rest.contains battleId || duplicate rest

/-- Some battle is voted on again. -/
def appendVoteCheckDuplicate : List BattleId → List VoteSelect → Bool
  | _, [] => false
  | oldBattleIds, v :: votes =>
      oldBattleIds.contains v.battleId || appendVoteCheckDuplicate (oldBattleIds ++ [v.battleId]) votes

abbrev VoteMap := StorageMap BattleId (IterMap (AccountId × SelectIndex) NpcId)

/-- Write down for a battle how a ballot voted on it. -/
def recordVote (cfg : Config) (who : AccountId) (index : SelectIndex) (m : VoteMap) (v : VoteSelect) :
    Result VoteMap := do
  let mp := (m v.battleId).getD ∅
  ensure (mp.entries.length < cfg.maxParticipantPerBattle ∨ (who, index) ∈ mp) TournamentError.participantOverflow
  return m.insert v.battleId (mp.insert (who, index) v.npcId)

def checkInitialVote (seasonId : SeasonId) (season : Season) (v : VoteSelect) (s : State cfg) : Result Unit := do
  let battle ← okOr (s.battles v.battleId) TournamentError.battleNotFound
  ensure (battle.home = v.npcId ∨ battle.visiting = v.npcId) TournamentError.npcNotInBattle
  ensure (battle.status = .running) TournamentError.battleStatusError
  ensure (battle.battleType = season.firstFinalsBattleType) TournamentError.battleTypeError
  ensure (battle.season = seasonId) TournamentError.battleNotInSeason
  ensure (s.now / 1000 < battle.startTime) TournamentError.bettingOverTime

def initialVote (origin : Origin) (seasonId : SeasonId) (ticketsAmount : U32) (votes : List VoteSelect)
    (s : State cfg) : Result (State cfg) := do
  let who ← ensureSigned origin
  ensure (votes ≠ []) TournamentError.voteSelectZero
  let season ← okOr (s.seasons seasonId) TournamentError.seasonNotFound
  let t := ticketsOf seasonId who s
  ensure (t.2 ≥ ticketsAmount ∧ ticketsAmount > 0) TournamentError.ticketAmountError
  let infos := votesOf who seasonId s
  let newSelectIndex := BitVec.ofNat 16 infos.1.length
  let votesForCalc ← votes.foldlM
    (fun m v => do
      checkInitialVote seasonId season v s
      recordVote cfg who newSelectIndex m v)
    s.votesForCalc
  ensure (duplicate (votes.map VoteSelect.battleId) = false) TournamentError.duplicateBetting
  return { s with
    votesForCalc
    voteSelectInfos := s.voteSelectInfos.insert (who, seasonId) (infos.1 ++ [⟨ticketsAmount, votes⟩], infos.2)
    tickets := s.tickets.insert (seasonId, who) (t.1, t.2 - ticketsAmount) }

def checkAppendVote (seasonId : SeasonId) (v : VoteSelect) (s : State cfg) : Result Unit := do
  let battle ← okOr (s.battles v.battleId) TournamentError.battleNotFound
  ensure (battle.status = .running) TournamentError.battleStatusError
  ensure (battle.home = v.npcId ∨ battle.visiting = v.npcId) TournamentError.npcNotInBattle
  ensure (battle.season = seasonId) TournamentError.battleNotInSeason
  ensure (s.now / 1000 < battle.startTime) TournamentError.bettingOverTime

/-- All tickets of a ballot vote on more battles. -/
def extendBallot (who : AccountId) (seasonId : SeasonId) (selectIndex : SelectIndex) (old : VoteSelectInfo)
    (votes : List VoteSelect) (s : State cfg) : Result (State cfg) := do
  let infos := votesOf who seasonId s
  let votesForCalc ← votes.foldlM
    (fun m v => do
      checkAppendVote seasonId v s
      recordVote cfg who selectIndex m v)
    s.votesForCalc
  return { s with
    votesForCalc
    voteSelectInfos := s.voteSelectInfos.insert (who, seasonId)
      (infos.1.set selectIndex.toNat { old with selects := old.selects ++ votes }, infos.2) }

def pointsOf (seasonId : SeasonId) (who : AccountId) (index : SelectIndex) (s : State cfg) :
    BattleAmount × BattleAmount × U32 :=
  (s.participantPoints.lookup (seasonId, who, index)).getD (0, 0, 0)

/-- Some tickets of a ballot leave it, for a ballot that votes on more battles and has the points so far. -/
def splitBallot (who : AccountId) (seasonId : SeasonId) (selectIndex : SelectIndex) (old : VoteSelectInfo)
    (selectTicketAmount : U32) (votes : List VoteSelect) (s : State cfg) : Result (State cfg) := do
  let infos := votesOf who seasonId s
  let newSelectIndex := BitVec.ofNat 16 infos.1.length
  votes.forM fun v => checkAppendVote seasonId v s
  let baseSelect := old.selects ++ votes
  let votesForCalc ← baseSelect.foldlM (recordVote cfg who newSelectIndex) s.votesForCalc
  return { s with
    votesForCalc
    voteSelectInfos := s.voteSelectInfos.insert (who, seasonId)
      (infos.1.set selectIndex.toNat { old with ticketAmount := old.ticketAmount - selectTicketAmount } ++
        [⟨selectTicketAmount, baseSelect⟩], infos.2)
    participantPoints := s.participantPoints.insert (seasonId, who, newSelectIndex)
      (pointsOf seasonId who selectIndex s) }

def appendVote (origin : Origin) (seasonId : SeasonId) (selectIndex : SelectIndex) (selectBattleType : U8)
    (selectTicketAmount : U32) (votes : List VoteSelect) (s : State cfg) : Result (State cfg) := do
  let who ← ensureSigned origin
  ensure (votes ≠ []) TournamentError.voteSelectZero
  let season ← okOr (s.seasons seasonId) TournamentError.seasonNotFound
  ensure (selectBattleType < season.firstFinalsBattleType.toU8 ∧ (BattleType.ofU8? selectBattleType).isSome)
    TournamentError.battleTypeError
  let old ← okOr (votesOf who seasonId s).1[selectIndex.toNat]? TournamentError.selectIndexOverflow
  ensure (selectTicketAmount ≤ old.ticketAmount ∧ selectTicketAmount > 0) TournamentError.ticketAmountError
  ensure (appendVoteCheckDuplicate (old.selects.map VoteSelect.battleId) votes = false)
    TournamentError.duplicateBetting
  if selectTicketAmount = old.ticketAmount then
    extendBallot who seasonId selectIndex old votes s
  else
    splitBallot who seasonId selectIndex old selectTicketAmount votes s

/-! ### The bonus -/

/-- The tickets on the ballots that won all battles, and on those that won all but one. -/
def countTickets (seasonId : SeasonId) (totalBattles : BattleAmount) (s : State cfg) : Result (U32 × U32) :=
  (s.participantPoints.entries.filter fun entry => entry.1.1 = seasonId).foldlM
    (fun counts entry => do
      let info ← okOr (votesOf entry.1.2.1 seasonId s).1[entry.1.2.2.toNat]? Abort.panic
      return (if entry.2.2.1 = totalBattles then counts.1 + info.ticketAmount else counts.1,
        if entry.2.2.1 + 1 = totalBattles then counts.2 + info.ticketAmount else counts.2))
    (0, 0)

def closeSeason (origin : Origin) (seasonId : SeasonId) (s : State cfg) : Result (State cfg) := do
  ensureOrganizer cfg origin
  let season ← okOr (s.seasons seasonId) TournamentError.seasonNotFound
  let (championTickets, runnerUpTickets) ← countTickets seasonId season.totalBattles s
  let b := freeBalance cfg.awtTokenId season.treasury s.asset
  let championBonus := b * 7 / 8
  return { s with
    seasons := s.seasons.insert seasonId
      { season with
        bonusStrategy := [(season.totalBattles, championTickets, championBonus),
          (season.totalBattles - 1, runnerUpTickets, b - championBonus)]
        status := .finalized } }

/-- How many battles a ballot is right about. -/
def selectRightBattles (resultMap : IterMap BattleId NpcId) (sel : VoteSelectInfo) : Result BattleAmount :=
  sel.selects.foldlM
    (fun n v => do
      let winner ← okOr (resultMap.lookup v.battleId) Abort.panic
      return if v.npcId = winner then n + 1 else n)
    0

/-- What the first entry for a number of battles won gives for each ticket. -/
def bonusPerTicket (season : Season) (rightBattles : BattleAmount) : U128 :=
  match season.bonusStrategy.find? fun b => rightBattles = b.1 ∧ b.2.1 > 0 with
  | some b =>
      if b.2.2 / b.2.1.setWidth 128 > season.ticketPrice * 100 then season.ticketPrice * 100
      else b.2.2 / b.2.1.setWidth 128
  | none => 0

def totalClaimed (season : Season) (resultMap : IterMap BattleId NpcId) (selectInfos : List VoteSelectInfo) :
    Result U128 :=
  selectInfos.foldlM
    (fun total sel => do
      let rightBattles ← selectRightBattles resultMap sel
      return total + bonusPerTicket season rightBattles * sel.ticketAmount.setWidth 128)
    0

def claim (origin : Origin) (seasonId : SeasonId) (s : State cfg) : Result (State cfg) := do
  let who ← ensureSigned origin
  let season ← okOr (s.seasons seasonId) TournamentError.seasonNotFound
  ensure (season.status = .finalized) TournamentError.seasonStatusError
  let infos := votesOf who seasonId s
  ensure (infos.1 ≠ [] ∧ infos.2 = false) TournamentError.haveNoBonus
  let total ← totalClaimed season ((s.seasonWinners seasonId).getD ∅) infos.1
  let s ← payAwt season.treasury who total s
  return { s with voteSelectInfos := s.voteSelectInfos.insert (who, seasonId) (infos.1, true) }

def withdrawSeasonTreasury (origin : Origin) (seasonId : SeasonId) (target : AccountId) (amount : U128) (s : State cfg) :
    Result (State cfg) := do
  ensureOrganizer cfg origin
  let season ← okOr (s.seasons seasonId) TournamentError.seasonNotFound
  payAwt season.treasury target amount s

/-! ### Calls on a season -/

inductive SeasonCall
  | createSeason (startTimeStr : List UInt8) (firstFinalsBattleType : BattleType) (ticketPrice : U128)
  | updateSeason (seasonId : SeasonId) (startTimeStr : List UInt8) (firstFinalsBattleType : BattleType)
      (ticketPrice : U128)
  | setDefaultSeason (seasonId : SeasonId)
  | createBattle (seasonId : SeasonId) (battleType : BattleType) (home visiting : NpcId)
      (startTimeStr : List UInt8)
  | giveAwayTickets (seasonId : SeasonId) (addrs : List UInt8)
  | transferTicket (seasonId : SeasonId) (tickets : U32) (target : AccountId)
  | buyTicket (amount : U32) (inviteCode : List UInt8)
  | initialVote (seasonId : SeasonId) (ticketsAmount : U32) (votes : List VoteSelect)
  | appendVote (seasonId : SeasonId) (selectIndex : SelectIndex) (selectBattleType : U8) (selectTicketAmount : U32)
      (votes : List VoteSelect)
  | setResult (battleId : BattleId) (homeScore visitingScore : Score)
  | finalsSettle (battleId : BattleId)
  | leagueSettle (battleId : BattleId)
  | closeSeason (seasonId : SeasonId)
  | claim (seasonId : SeasonId)

def SeasonCall.perform (origin : Origin) (s : State cfg) : SeasonCall → Result (State cfg)
  | .createSeason startTimeStr firstFinalsBattleType ticketPrice =>
      AbyssTournament.createSeason origin startTimeStr firstFinalsBattleType ticketPrice s
  | .updateSeason seasonId startTimeStr firstFinalsBattleType ticketPrice =>
      AbyssTournament.updateSeason origin seasonId startTimeStr firstFinalsBattleType ticketPrice s
  | .setDefaultSeason seasonId => AbyssTournament.setDefaultSeason origin seasonId s
  | .createBattle seasonId battleType home visiting startTimeStr =>
      AbyssTournament.createBattle origin seasonId battleType home visiting startTimeStr s
  | .giveAwayTickets seasonId addrs => AbyssTournament.giveAwayTickets origin seasonId addrs s
  | .transferTicket seasonId tickets target => AbyssTournament.transferTicket origin seasonId tickets target s
  | .buyTicket amount inviteCode => AbyssTournament.buyTicket origin amount inviteCode s
  | .initialVote seasonId ticketsAmount votes => AbyssTournament.initialVote origin seasonId ticketsAmount votes s
  | .appendVote seasonId selectIndex selectBattleType selectTicketAmount votes =>
      AbyssTournament.appendVote origin seasonId selectIndex selectBattleType selectTicketAmount votes s
  | .setResult battleId homeScore visitingScore => AbyssTournament.setResult origin battleId homeScore visitingScore s
  | .finalsSettle battleId => AbyssTournament.finalsSettle origin battleId s
  | .leagueSettle battleId => AbyssTournament.leagueSettle origin battleId s
  | .closeSeason seasonId => AbyssTournament.closeSeason origin seasonId s
  | .claim seasonId => AbyssTournament.claim origin seasonId s

/-- A call that is allowed, or anything else that leaves seasons, battles, tickets and ballots alone: time passes,
characters are created, nonces and balances change, and bets are made. -/
inductive SeasonStep (allowed : State cfg → Origin → SeasonCall → Prop) : State cfg → State cfg → Prop
  | call {s s' : State cfg} (origin : Origin) (c : SeasonCall) (hallowed : allowed s origin c)
      (h : c.perform origin s = .ok s') : SeasonStep allowed s s'
  | outside (s : State cfg) (now : Moment) (npcs : NpcId → Bool) (accountNonce : AccountId → U32)
      (asset : Token.State cfg.token) (nextBettingId : BettingId) (bettings : StorageMap BettingId Betting)
      (bettingByBattle : StorageMap BattleId (List BettingId))
      (bettingRecords : StorageMap (AccountId × BettingId) (List BettingRecord × Bool))
      (bettingInviteAmount : StorageMap ((SeasonId × AccountId) × TokenId) U128) (refunds : List BettingId) :
      SeasonStep allowed s { s with
        now, npcs, accountNonce, asset, nextBettingId, bettings, bettingByBattle, bettingRecords
        bettingInviteAmount, refunds }

/-- There is no season yet. -/
structure NoSeason (s : State cfg) : Prop where
  seasons : ∀ id, s.seasons id = none
  battles : ∀ id, s.battles id = none
  tickets : ∀ key, s.tickets key = none
  voteSelectInfos : ∀ key, s.voteSelectInfos key = none
  votesForCalc : ∀ id, s.votesForCalc id = none
  participantPoints : s.participantPoints = ∅
  seasonWinners : ∀ id, s.seasonWinners id = none
  settlements : s.settlements = []

/-- No season, two characters, and the clock at zero. -/
def emptyState (cfg : Config) (asset : Token.State cfg.token) : State cfg where
  now := 0
  nextBettingId := 1
  nextSeasonId := 1
  nextBattleId := 1
  defaultSeason := 0
  npcs := fun id => id = 1 || id = 2
  accountNonce := fun _ => 1
  seasons := fun _ => none
  battles := fun _ => none
  bettingByBattle := fun _ => none
  bettings := fun _ => none
  bettingRecords := fun _ => none
  bettingInviteAmount := fun _ => none
  seasonWinners := fun _ => none
  votesForCalc := fun _ => none
  participantPoints := ∅
  tickets := fun _ => none
  voteSelectInfos := fun _ => none
  inviteCode := fun _ => none
  inviteRecords := fun _ => none
  npcPoints := fun _ => none
  asset := asset
  refunds := []
  settlements := []

theorem noSeason_emptyState (asset : Token.State cfg.token) : NoSeason (emptyState cfg asset) :=
  ⟨fun _ => rfl, fun _ => rfl, fun _ => rfl, fun _ => rfl, fun _ => rfl, rfl, fun _ => rfl, rfl⟩

end Fusotao.AbyssTournament
