import Fusotao.Token.Ledger

/-!
# What the tournament keeps

Battles between characters, bettings on their results, and seasons of battles. A betting has a pledge account of its
own and a season a treasury, whose addresses are hashes: nobody signs for them. With the tickets of a season its
players vote on the winners of battles, and who has voted best shares the treasury.
-/

namespace Fusotao.AbyssTournament

open Exec

abbrev SeasonId := U32
abbrev NpcId := U32
abbrev BattleId := U32
abbrev BettingId := U32
abbrev OddsNumber := BitVec 16
abbrev SelectIndex := BitVec 16
abbrev BattleAmount := U8
abbrev Score := U8
/-- `1` is home, `2` is visiting. -/
abbrev HomeOrVisiting := U8
/-- Milliseconds or seconds since the epoch. -/
abbrev Moment := BitVec 64

inductive SeasonStatus
  | initial
  | active
  | finalized
  deriving DecidableEq

inductive BattleStatus
  | running
  | completed
  | finalized
  deriving DecidableEq

inductive BattleType
  | sixteenthFinals
  | eighthFinals
  | quarterFinals
  | semiFinals
  | finals
  | league
  deriving DecidableEq

def BattleType.totalBattles : BattleType → BattleAmount
  | .sixteenthFinals => 31
  | .eighthFinals => 15
  | .quarterFinals => 7
  | .semiFinals => 3
  | .finals => 1
  | .league => 35

/-- `Into<u8>`. -/
def BattleType.toU8 : BattleType → U8
  | .sixteenthFinals => 16
  | .eighthFinals => 8
  | .quarterFinals => 4
  | .semiFinals => 2
  | .finals => 1
  | .league => 255

/-- `TryFrom<u8>`. -/
def BattleType.ofU8? (value : U8) : Option BattleType :=
  if value = 255 then some .league
  else if value = 16 then some .sixteenthFinals
  else if value = 8 then some .eighthFinals
  else if value = 4 then some .quarterFinals
  else if value = 2 then some .semiFinals
  else if value = 1 then some .finals
  else none

inductive BettingType
  | score
  | winLose
  deriving DecidableEq

structure Battle where
  season : SeasonId
  home : NpcId
  battleType : BattleType
  visiting : NpcId
  status : BattleStatus
  startTime : Moment
  homeScore : Option Score
  visitingScore : Option Score
  deriving DecidableEq

/-- The comparison of two optional scores, where none is the least. -/
def scoreGt : Option Score → Option Score → Bool
  | some x, some y => y < x
  | some _, none => true
  | none, _ => false

/-- The score difference, the winner and the loser. -/
def Battle.calc (battle : Battle) : Result (Score × NpcId × NpcId) := do
  if scoreGt battle.homeScore battle.visitingScore then
    let home ← okOr battle.homeScore Abort.panic
    let visiting ← okOr battle.visitingScore Abort.panic
    return (home - visiting, battle.home, battle.visiting)
  else
    let visiting ← okOr battle.visitingScore Abort.panic
    let home ← okOr battle.homeScore Abort.panic
    return (visiting - home, battle.visiting, battle.home)

structure OddsItem where
  winLose : List HomeOrVisiting
  score : List (Score × Score)
  /-- The odds in hundredths. -/
  o : OddsNumber
  totalCompensateAmount : U128
  buyIn : U128
  accounts : U32
  deriving DecidableEq

structure OddsItemPrams where
  winLose : List HomeOrVisiting
  score : List (Score × Score)
  o : OddsNumber
  deriving DecidableEq

def OddsItemPrams.into (params : OddsItemPrams) : OddsItem where
  winLose := params.winLose
  score := params.score
  o := params.o
  totalCompensateAmount := 0
  buyIn := 0
  accounts := 0

structure Betting where
  creator : AccountId
  pledgeAccount : AccountId
  totalPledge : U128
  bettingType : BettingType
  battles : List BattleId
  odds : List OddsItem
  tokenId : TokenId
  minBettingAmount : U128
  season : SeasonId
  deriving DecidableEq

/-- A result of best of five. -/
def checkScore (x : Score × Score) : Bool :=
  if x.1 ≠ 3 ∧ x.2 ≠ 3 then false
  else if x.1 > 3 ∨ x.2 > 3 then false
  else x.1 ≠ x.2

def OddsItem.check (item : OddsItem) (bettingType : BettingType) (battleSize : Nat) : Bool :=
  let results := match bettingType with
    | .score => decide (item.score.length = battleSize) && item.score.all checkScore
    | .winLose => decide (item.winLose.length = battleSize) && item.winLose.all fun x => x = 1 ∨ x = 2
  results && decide (item.o > 100)

/-- A betting is on one battle, and has one item for each result. -/
def Betting.check (betting : Betting) : Bool :=
  decide (betting.battles.length = 1) &&
  betting.odds.all (fun item => item.check betting.bettingType betting.battles.length) &&
  match betting.bettingType with
  | .score => decide (betting.odds.length = 6 ^ betting.battles.length) &&
      decide (betting.odds.map OddsItem.score).Nodup
  | .winLose => decide (betting.odds.length = 2 ^ betting.battles.length) &&
      decide (betting.odds.map OddsItem.winLose).Nodup

/-- What was bet on an item while it had these odds. -/
structure BettingRecord where
  selectIndex : SelectIndex
  o : OddsNumber
  amount : U128
  deriving DecidableEq

structure VoteSelect where
  battleId : BattleId
  npcId : NpcId
  deriving DecidableEq

/-- A ballot: what was voted with some tickets. -/
structure VoteSelectInfo where
  ticketAmount : U32
  selects : List VoteSelect
  deriving DecidableEq

structure Season where
  status : SeasonStatus
  treasury : AccountId
  startTime : Moment
  totalBattles : BattleAmount
  /-- The battles won, the tickets on ballots that won as many, and the bonus for them. -/
  bonusStrategy : List (BattleAmount × U32 × U128)
  ticketPrice : U128
  firstFinalsBattleType : BattleType
  champion : Option NpcId
  totalTickets : U32
  deriving DecidableEq

/-- What the runtime configures, and the functions of other crates. -/
structure Config where
  token : Token.Config
  awtTokenId : TokenId
  defaultMinBetingAmount : U128
  maxParticipantPerBattle : Nat
  bvbOrganizer : AccountId
  organizerOrigin : Origin → Bool
  /-- The account that a hash of the betting id is the address of. -/
  getBettingTreasury : BettingId → AccountId
  /-- The account that a hash of the season id is the address of. -/
  getSeasonTreasury : SeasonId → AccountId
  maxTicketAmount : U32
  bvbTreasury : AccountId
  donorAccount : AccountId
  donationForAgent : U128
  base64Decode : List UInt8 → Option (List UInt8)
  base64Encode : List UInt8 → List UInt8
  /-- A list of addresses in SCALE. -/
  decodeAddrs : List UInt8 → Option (List (List UInt8))
  /-- The seconds since the epoch of a date in ASCII, as `chrono` parses it. -/
  dateToTimestamp : List UInt8 → Option Moment

structure State (cfg : Config) where
  now : Moment
  nextBettingId : BettingId
  nextSeasonId : SeasonId
  nextBattleId : BattleId
  defaultSeason : SeasonId
  /-- The characters there are. -/
  npcs : NpcId → Bool
  /-- The nonces of accounts, which `frame_system` keeps. -/
  accountNonce : AccountId → U32
  seasons : StorageMap SeasonId Season
  battles : StorageMap BattleId Battle
  bettingByBattle : StorageMap BattleId (List BettingId)
  bettings : StorageMap BettingId Betting
  /-- The bets of an account, and whether they were paid. -/
  bettingRecords : StorageMap (AccountId × BettingId) (List BettingRecord × Bool)
  bettingInviteAmount : StorageMap ((SeasonId × AccountId) × TokenId) U128
  seasonWinners : StorageMap SeasonId (IterMap BattleId NpcId)
  votesForCalc : StorageMap BattleId (IterMap (AccountId × SelectIndex) NpcId)
  participantPoints : IterMap (SeasonId × AccountId × SelectIndex) (BattleAmount × BattleAmount × U32)
  /-- The tickets an account got in a season, and those it has not voted with. -/
  tickets : StorageMap (SeasonId × AccountId) (U32 × U32)
  /-- The ballots of an account in a season, and whether their bonus was paid. -/
  voteSelectInfos : StorageMap (AccountId × SeasonId) (List VoteSelectInfo × Bool)
  /-- How many tickets were bought with the code of an account, and what it got for them. -/
  inviteCode : StorageMap AccountId (U32 × U128)
  inviteRecords : StorageMap AccountId Bool
  /-- Games, games won, points, and the balance of the scores (an `i32`). -/
  npcPoints : StorageMap (SeasonId × NpcId) (BattleAmount × BattleAmount × U32 × BitVec 32)
  asset : Token.State cfg.token
  /-- The refunds that were paid, which the pallet does not keep. -/
  refunds : List BettingId
  /-- The battles that were settled, which the pallet does not keep either. -/
  settlements : List BattleId

end Fusotao.AbyssTournament
