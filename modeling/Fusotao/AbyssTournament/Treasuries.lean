import Fusotao.Base.Totals
import Fusotao.AbyssTournament.Defined
import Fusotao.AbyssTournament.Swap

/-!
# The treasuries of the seasons

Whatever is called in whatever order, a season's treasury takes in its part of every sale of tickets, and spends on
nothing but bonuses and what the organizer withdraws; and nobody is paid the bonus of a season twice. All the calls of
the pallet are in a run, those on bettings and those that come in over the bridge included.
-/

namespace Fusotao.AbyssTournament

open Exec
open ChainBridge (ResourceId)
open Indicator (Prices)
open Token (freeBalance transferToken)
open Totals (total total_append total_singleton)

section

variable {cfg : Config} {s s' : State cfg} {who : AccountId} {seasonId : SeasonId} {origin : Origin}

/-! ### What is booked -/

/-- Tickets sold at once, what they cost, and whose code was used. -/
structure Sale where
  season : SeasonId
  buyer : AccountId
  tickets : U32
  price : U128
  invitor : Option AccountId

structure Bonus where
  season : SeasonId
  winner : AccountId
  amount : U128

/-- All sales, bonuses, withdrawals, and bets with the code of somebody else, which the pallet does not keep. -/
structure Books where
  sales : List Sale
  bonuses : List Bonus
  withdrawals : List (SeasonId × Nat)
  bets : List (((SeasonId × AccountId) × TokenId) × U128)

def Books.blank : Books := ⟨[], [], [], []⟩

/-- Whose code it is, unless it is one's own. -/
def invitorOf (cfg : Config) (who : AccountId) (inviteCode : List UInt8) : Option AccountId :=
  (inviteCodeToAddr cfg inviteCode).filter fun a => a ≠ who

/-- A call of the pallet, with what it reads of others. -/
inductive TournamentCall
  | onPallet (c : AnyCall)
  | giveAwayFee (addrs : List UInt8)
  | withdrawSeasonTreasury (seasonId : SeasonId) (target : AccountId) (amount : U128)
  | deposit (target : AccountId) (awt : U128) (rId : ResourceId)
  | swap (target : AccountId) (amt : U128) (rId : ResourceId) (prices : Prices)

def TournamentCall.sale? (origin : Origin) (s : State cfg) : TournamentCall → Option Sale
  | .onPallet (.onSeason (.buyTicket amount inviteCode)) =>
      match origin, s.seasons s.defaultSeason with
      | .signed who, some season =>
          some ⟨s.defaultSeason, who, amount, season.ticketPrice * amount.setWidth 128, invitorOf cfg who inviteCode⟩
      | _, _ => none
  | _ => none

def TournamentCall.bonus? (origin : Origin) (s : State cfg) : TournamentCall → Option Bonus
  | .onPallet (.onSeason (.claim seasonId)) =>
      match origin, s.seasons seasonId with
      | .signed who, some season =>
          match totalClaimed season ((s.seasonWinners seasonId).getD ∅) (votesOf who seasonId s).1 with
          | .ok total => some ⟨seasonId, who, total⟩
          | .error _ => none
      | _, _ => none
  | _ => none

def TournamentCall.withdrawal? : TournamentCall → Option (SeasonId × Nat)
  | .withdrawSeasonTreasury seasonId _ amount => some (seasonId, amount.toNat)
  | _ => none

def TournamentCall.bet? (origin : Origin) (s : State cfg) :
    TournamentCall → Option (((SeasonId × AccountId) × TokenId) × U128)
  | .onPallet (.onBetting (.goBetWithInvite bettingId _ amount inviteCode) _) =>
      match origin, s.bettings bettingId with
      | .signed who, some betting =>
          (invitorOf cfg who inviteCode).map fun invitor => (((betting.season, invitor), betting.tokenId), amount)
      | _, _ => none
  | _ => none

/-- The books after a call that succeeds. -/
def Books.book (b : Books) (origin : Origin) (s : State cfg) (c : TournamentCall) : Books where
  sales := b.sales ++ (c.sale? origin s).toList
  bonuses := b.bonuses ++ (c.bonus? origin s).toList
  withdrawals := b.withdrawals ++ c.withdrawal?.toList
  bets := b.bets ++ (c.bet? origin s).toList

/-- The part of a sale that goes to the treasury. -/
def Sale.toTreasury (x : Sale) : SeasonId × Nat := (x.season, (x.price * 85 / 100).toNat)

def Bonus.toWinner (x : Bonus) : SeasonId × Nat := (x.season, x.amount.toNat)

def Bonus.key (x : Bonus) : AccountId × SeasonId := (x.winner, x.season)

/-! ### Calls on seasons -/

/-- No token, no betting, no code and no record of a bonus changes. -/
structure Aside (s s' : State cfg) : Prop where
  asset : s'.asset = s.asset
  flags : ∀ who id, (votesOf who id s').2 = (votesOf who id s).2
  inviteCode : s'.inviteCode = s.inviteCode
  inviteRecords : s'.inviteRecords = s.inviteRecords
  bettings : s'.bettings = s.bettings
  bettingInviteAmount : s'.bettingInviteAmount = s.bettingInviteAmount

/-- The calls on seasons that transfer tokens. -/
def SeasonCall.pays : SeasonCall → Bool
  | .transferTicket .. | .buyTicket .. | .claim _ => true
  | _ => false

theorem flag_insert {ballots : List VoteSelectInfo}
    (h : s'.voteSelectInfos = s.voteSelectInfos.insert (who, seasonId) (ballots, (votesOf who seasonId s).2))
    (a : AccountId) (id : SeasonId) : (votesOf a id s').2 = (votesOf a id s).2 := by
  rw [votesOf_insert h]
  split
  · rename_i heq
    obtain ⟨rfl, rfl⟩ := Prod.mk.inj heq
    rfl
  · rfl

theorem aside_of_perform {c : SeasonCall} (hc : c.pays = false) (h : c.perform origin s = .ok s') : Aside s s' := by
  cases c with
  | createSeason date battleType price =>
      simp only [SeasonCall.perform, createSeason, bind_eq_ok, pure_eq_ok] at h
      obtain ⟨_, -, _, -, _, -, rfl⟩ := h
      exact ⟨rfl, fun _ _ => rfl, rfl, rfl, rfl, rfl⟩
  | updateSeason seasonId date battleType price =>
      simp only [SeasonCall.perform, updateSeason, bind_eq_ok, pure_eq_ok] at h
      obtain ⟨_, -, _, -, _, -, season, -, rfl⟩ := h
      exact ⟨rfl, fun _ _ => rfl, rfl, rfl, rfl, rfl⟩
  | setDefaultSeason seasonId =>
      simp only [SeasonCall.perform, setDefaultSeason, bind_eq_ok, pure_eq_ok] at h
      obtain ⟨_, -, _, -, rfl⟩ := h
      exact ⟨rfl, fun _ _ => rfl, rfl, rfl, rfl, rfl⟩
  | createBattle seasonId battleType home visiting date =>
      simp only [SeasonCall.perform, createBattle, bind_eq_ok, pure_eq_ok] at h
      obtain ⟨_, -, season, -, _, -, _, -, startTime, -, _, -, _, -, rfl⟩ := h
      exact ⟨rfl, fun _ _ => rfl, rfl, rfl, rfl, rfl⟩
  | giveAwayTickets seasonId addrs =>
      rw [giveAwayTickets_frame h]
      exact ⟨rfl, fun _ _ => rfl, rfl, rfl, rfl, rfl⟩
  | initialVote seasonId ticketsAmount votes =>
      simp only [SeasonCall.perform, initialVote, bind_eq_ok, pure_eq_ok] at h
      obtain ⟨who, -, _, -, season, -, _, -, m, -, _, -, rfl⟩ := h
      exact ⟨rfl, flag_insert rfl, rfl, rfl, rfl, rfl⟩
  | appendVote seasonId selectIndex battleType amount votes =>
      simp only [SeasonCall.perform, appendVote, bind_eq_ok] at h
      obtain ⟨who, -, _, -, season, -, _, -, old, -, _, -, _, -, h⟩ := h
      split at h
      · simp only [extendBallot, bind_eq_ok, pure_eq_ok] at h
        obtain ⟨m, -, rfl⟩ := h
        exact ⟨rfl, flag_insert rfl, rfl, rfl, rfl, rfl⟩
      · simp only [splitBallot, bind_eq_ok, pure_eq_ok] at h
        obtain ⟨_, -, m, -, rfl⟩ := h
        exact ⟨rfl, flag_insert rfl, rfl, rfl, rfl, rfl⟩
  | setResult battleId homeScore visitingScore =>
      simp only [SeasonCall.perform, setResult, bind_eq_ok, pure_eq_ok] at h
      obtain ⟨_, -, battle, -, _, -, rfl⟩ := h
      exact ⟨rfl, fun _ _ => rfl, rfl, rfl, rfl, rfl⟩
  | finalsSettle battleId =>
      obtain ⟨battle, diff, winner, loser, -, -, -, hs'⟩ := finalsSettle_eq_ok h
      rw [hs']
      exact ⟨rfl, fun _ _ => rfl, rfl, rfl, rfl, rfl⟩
  | leagueSettle battleId =>
      obtain ⟨battle, diff, winner, loser, -, -, -, hs'⟩ := leagueSettle_eq_ok h
      rw [hs']
      exact ⟨rfl, fun _ _ => rfl, rfl, rfl, rfl, rfl⟩
  | closeSeason seasonId =>
      simp only [SeasonCall.perform, closeSeason, bind_eq_ok, pure_eq_ok, Prod.exists] at h
      obtain ⟨_, -, season, -, _, _, -, rfl⟩ := h
      exact ⟨rfl, fun _ _ => rfl, rfl, rfl, rfl, rfl⟩
  | transferTicket | buyTicket | claim => exact absurd hc (by simp [SeasonCall.pays])

/-! ### Calls on bettings -/

/-- Every betting has the terms it was created with. -/
def OnTerms (s : State cfg) : Prop := ∀ id betting, s.bettings id = some betting → Terms cfg id betting

theorem OnTerms.insert {id : BettingId} {betting : Betting} (hinv : OnTerms s)
    (h : s'.bettings = s.bettings.insert id betting) (hterms : Terms cfg id betting) : OnTerms s' := by
  intro id' betting' hid
  rw [h] at hid
  rcases StorageMap.insert_eq_some hid with ⟨rfl, rfl⟩ | ⟨-, hid⟩
  · exact hterms
  · exact hinv id' betting' hid

/-- Only bettings, bets and balances change. -/
theorem dispatch_frame {c : Call} (hc : c.battle? = none) (h : dispatch origin s c = .ok s') : s' = { s with
    nextBettingId := s'.nextBettingId
    bettings := s'.bettings
    bettingByBattle := s'.bettingByBattle
    bettingRecords := s'.bettingRecords
    bettingInviteAmount := s'.bettingInviteAmount
    asset := s'.asset
    refunds := s'.refunds } := by
  cases c with
  | createBetting bettingType battles odditemParams seasonId pledgeAmount =>
      obtain ⟨betting, paid, -, -, -, -, -, -, hs'⟩ := createBetting_eq_ok h
      rw [hs']
  | goBet bettingId itemIndex amount =>
      obtain ⟨who, betting, -, hbet⟩ := goBet_eq_ok h
      obtain ⟨item, paid, -, -, -, -, hs'⟩ := bet_eq_ok hbet
      rw [hs']
  | goBetWithInvite bettingId itemIndex amount inviteCode =>
      obtain ⟨who, betting, mid, -, hbet, hs'⟩ := goBetWithInvite_eq_ok h
      obtain ⟨item, paid, -, -, -, -, hmid⟩ := bet_eq_ok hbet
      rw [hs', hmid]
  | appendBettingPledge bettingId amount =>
      obtain ⟨who, betting, paid, -, -, -, hs'⟩ := appendBettingPledge_eq_ok h
      rw [hs']
  | updateOdds bettingId odds =>
      obtain ⟨betting, items, -, -, hs'⟩ := updateOdds_eq_ok h
      rw [hs']
  | dropBetting bettingId =>
      obtain ⟨betting, value, paid, -, -, hs'⟩ := dropBetting_eq_ok h
      rw [hs']
  | revokeRemainCompensate bettingId =>
      obtain ⟨betting, hitIndex, item, -, -, -, -, ⟨-, rfl⟩ | ⟨-, paid, -, hs'⟩⟩ := revokeRemainCompensate_eq_ok h
      · rfl
      · rw [hs']
  | bettingClaim bettingId =>
      obtain ⟨who, betting, hitIndex, -, -, -, -, -, hs'⟩ := bettingClaim_eq_ok h
      rw [hs']
  | setResult | finalsSettle | leagueSettle => exact absurd hc (by simp [Call.battle?])

/-! ### What the calls pay -/

/-- What an account has of the award token. -/
def funds (a : AccountId) (s : State cfg) : Nat := (freeBalance cfg.awtTokenId a s.asset).toNat

/-- An account that pays for no call on a betting has no less after it. -/
theorem dispatch_funds_le (hexact : cfg.token.balances.Exact) {c : Call} {a : AccountId} (hterms : OnTerms s)
    (hc : c.battle? = none) (horganizer : a ≠ cfg.bvbOrganizer) (hpledge : ¬ Keyless cfg a)
    (hsigned : origin ≠ .signed a) (h : dispatch origin s c = .ok s') : funds a s ≤ funds a s' ∧ OnTerms s' := by
  have hother : ∀ {payer token value target paid}, a ≠ payer →
      transferToken payer token value target s.asset = .ok (paid, s'.asset) → funds a s ≤ funds a s' :=
    fun hne htransfer => Token.transferToken_free_le hexact htransfer _ hne
  have hwho : ∀ {who}, origin = .signed who → a ≠ who := by
    rintro who rfl rfl
    exact hsigned rfl
  have hkeyless : ∀ {id betting}, s.bettings id = some betting → a ≠ betting.pledgeAccount := by
    intro id betting hbetting heq
    exact hpledge ⟨id, heq.trans (hterms id betting hbetting).pledgeAccount⟩
  cases c with
  | createBetting bettingType battles odditemParams seasonId pledgeAmount =>
      obtain ⟨betting, paid, h1, h2, h3, -, -, hasset, hs'⟩ := createBetting_eq_ok h
      exact ⟨hother horganizer hasset, hterms.insert (congrArg State.bettings hs') ⟨h1, h2, h3⟩⟩
  | goBet bettingId itemIndex amount =>
      obtain ⟨who, betting, horigin, hbet⟩ := goBet_eq_ok h
      obtain ⟨item, paid, hbetting, -, -, hasset, hs'⟩ := bet_eq_ok hbet
      obtain ⟨h1, h2, h3⟩ := hterms bettingId betting hbetting
      exact ⟨hother (hwho horigin) hasset, hterms.insert (congrArg State.bettings hs') ⟨h1, h2, h3⟩⟩
  | goBetWithInvite bettingId itemIndex amount inviteCode =>
      obtain ⟨who, betting, mid, horigin, hbet, hs'⟩ := goBetWithInvite_eq_ok h
      obtain ⟨item, paid, hbetting, -, -, hasset, hmid⟩ := bet_eq_ok hbet
      obtain ⟨h1, h2, h3⟩ := hterms bettingId betting hbetting
      have hsame : s'.asset = mid.asset := by rw [hs']
      rw [← hsame] at hasset
      have hbettings : s'.bettings = mid.bettings := by rw [hs']
      exact ⟨hother (hwho horigin) hasset,
        hterms.insert (hbettings.trans (congrArg State.bettings hmid)) ⟨h1, h2, h3⟩⟩
  | appendBettingPledge bettingId amount =>
      obtain ⟨who, betting, paid, horigin, hbetting, hasset, hs'⟩ := appendBettingPledge_eq_ok h
      obtain ⟨h1, h2, h3⟩ := hterms bettingId betting hbetting
      exact ⟨hother (hwho horigin) hasset, hterms.insert (congrArg State.bettings hs') ⟨h1, h2, h3⟩⟩
  | updateOdds bettingId odds =>
      obtain ⟨betting, items, hbetting, -, hs'⟩ := updateOdds_eq_ok h
      obtain ⟨h1, h2, h3⟩ := hterms bettingId betting hbetting
      refine ⟨?_, hterms.insert (congrArg State.bettings hs') ⟨h1, h2, h3⟩⟩
      rw [funds, funds, hs']
  | dropBetting bettingId =>
      obtain ⟨betting, value, paid, hbetting, hasset, hs'⟩ := dropBetting_eq_ok h
      obtain ⟨h1, h2, h3⟩ := hterms bettingId betting hbetting
      exact ⟨hother (hkeyless hbetting) hasset, hterms.insert (congrArg State.bettings hs') ⟨h1, h2, h3⟩⟩
  | revokeRemainCompensate bettingId =>
      obtain ⟨betting, hitIndex, item, hbetting, -, -, -, ⟨-, rfl⟩ | ⟨-, paid, hasset, hs'⟩⟩ :=
        revokeRemainCompensate_eq_ok h
      · exact ⟨Nat.le_refl _, hterms⟩
      · refine ⟨hother (hkeyless hbetting) hasset, ?_⟩
        rw [hs']
        exact hterms
  | bettingClaim bettingId =>
      obtain ⟨who, betting, hitIndex, -, hbetting, -, -, hasset, hs'⟩ := bettingClaim_eq_ok h
      constructor
      · rcases hasset with ⟨-, hsame⟩ | ⟨paid, hasset⟩
        · rw [funds, funds, hsame]
        · exact hother (hkeyless hbetting) hasset
      · rw [hs']
        exact hterms
  | setResult | finalsSettle | leagueSettle => exact absurd hc (by simp [Call.battle?])

/-- A donation costs nobody but the donor. -/
theorem donate_funds_le (hexact : cfg.token.balances.Exact) {a target : AccountId} (hdonor : a ≠ cfg.donorAccount)
    (h : donate target s = .ok s') : funds a s ≤ funds a s' := by
  unfold donate at h
  split at h
  · rcases ignoreError_eq_ok h with h | rfl
    · simp only [bind_eq_ok, pure_eq_ok, Prod.exists] at h
      obtain ⟨paid, asset, htransfer, rfl⟩ := h
      exact Token.transferToken_free_le hexact htransfer _ hdonor
    · exact Nat.le_refl _
  · obtain rfl := Except.ok.inj h
    exact Nat.le_refl _

theorem giveAwayFee_funds_le (hexact : cfg.token.balances.Exact) {a : AccountId} (hdonor : a ≠ cfg.donorAccount)
    {addrs : List UInt8} (h : giveAwayFee origin addrs s = .ok s') : funds a s ≤ funds a s' := by
  simp only [giveAwayFee, bind_eq_ok] at h
  obtain ⟨_, -, v, -, h⟩ := h
  refine foldlM_invariant (fun mid : State cfg => funds a s ≤ funds a mid) (fun mid _ mid' ih hmid => ?_)
    (Nat.le_refl _) h
  rcases ignoreError_eq_ok hmid with hmid | rfl
  · simp only [bind_eq_ok, pure_eq_ok, Prod.exists] at hmid
    obtain ⟨paid, asset, htransfer, rfl⟩ := hmid
    exact ih.trans (Token.transferToken_free_le hexact htransfer _ hdonor)
  · exact ih

theorem giveAwayFee_frame {addrs : List UInt8} (h : giveAwayFee origin addrs s = .ok s') :
    s' = { s with asset := s'.asset } := by
  simp only [giveAwayFee, bind_eq_ok] at h
  obtain ⟨_, -, v, -, h⟩ := h
  refine foldlM_invariant (fun mid : State cfg => mid = { s with asset := mid.asset }) (fun mid _ mid' ih hmid => ?_)
    rfl h
  rcases ignoreError_eq_ok hmid with hmid | rfl
  · simp only [bind_eq_ok, pure_eq_ok, Prod.exists] at hmid
    obtain ⟨paid, asset, -, rfl⟩ := hmid
    rw [ih]
  · exact ih

theorem exists_of_buyTicket {amount : U32} {inviteCode : List UInt8} (h : buyTicket origin amount inviteCode s = .ok s') :
    ∃ who season, origin = .signed who ∧ s.seasons s.defaultSeason = some season := by
  simp only [buyTicket, bind_eq_ok, ensureSigned_eq_ok, okOr_eq_ok] at h
  obtain ⟨who, horigin, season, hseason, -⟩ := h
  exact ⟨who, season, horigin, hseason⟩

/-- The part of a sale goes to the treasury; the buyer pays. -/
theorem buyTicket_funds_le (hexact : cfg.token.balances.Exact) {amount : U32} {inviteCode : List UInt8} {season : Season}
    {a : AccountId} (ha : a ≠ who) (hseason : s.seasons s.defaultSeason = some season)
    (h : buyTicket (.signed who) amount inviteCode s = .ok s') :
    funds a s + (if a = season.treasury then (season.ticketPrice * amount.setWidth 128 * 85 / 100).toNat else 0) ≤
      funds a s' := by
  simp only [buyTicket, bind_eq_ok, ensureSigned_eq_ok, okOr_eq_ok, pure_eq_ok, Prod.exists] at h
  obtain ⟨_, hwho, _, hseason', _, -, _, -, _, -, first, hfirst, part, second, hsecond, third, hthird, rfl⟩ := h
  obtain rfl := Origin.signed.inj hwho
  obtain rfl := Option.some.inj (hseason.symm.trans hseason')
  have h₁ := payAwt_free hexact hfirst a
  have h₂ := (payInvitor_free hexact hsecond).2 a
  have h₃ := payAwt_free hexact hthird a
  rw [if_neg ha, Nat.add_zero] at h₁ h₂ h₃
  calc funds a s + (if a = season.treasury then (season.ticketPrice * amount.setWidth 128 * 85 / 100).toNat else 0)
      = (freeBalance cfg.awtTokenId a first.asset).toNat := h₁.symm
    _ ≤ (freeBalance cfg.awtTokenId a second.asset).toNat := h₂ ▸ Nat.le_add_right _ _
    _ ≤ (freeBalance cfg.awtTokenId a third.asset).toNat := h₃ ▸ Nat.le_add_right _ _

/-- A treasury pays what is asked of it. -/
theorem payAwt_funds_le (hexact : cfg.token.balances.Exact) {a payer target : AccountId} {amount : U128}
    (h : payAwt payer target amount s = .ok s') :
    funds a s ≤ funds a s' + if a = payer then amount.toNat else 0 := by
  have hfree := payAwt_free hexact h a
  exact (Nat.le_add_right _ _).trans hfree.ge

end

/-! ### All calls -/

section

variable {cfg : SwapConfig} {s s' : State cfg.toConfig} {a who target : AccountId} {origin : Origin} {id : SeasonId}
  {c : TournamentCall} {b : Books}

def TournamentCall.perform (origin : Origin) (s : State cfg.toConfig) : TournamentCall → Result (State cfg.toConfig)
  | .onPallet c => c.run origin s
  | .giveAwayFee addrs => AbyssTournament.giveAwayFee origin addrs s
  | .withdrawSeasonTreasury seasonId target amount =>
      AbyssTournament.withdrawSeasonTreasury origin seasonId target amount s
  | .deposit target awt rId => AbyssTournament.deposit origin target awt rId s
  | .swap target amt rId prices => AbyssTournament.swap origin target amt rId prices s

/-- The treasuries are hashes, and none of the accounts the pallet itself pays from. -/
structure Apart (cfg : SwapConfig) : Prop where
  injective : Function.Injective cfg.getSeasonTreasury
  organizer : ∀ id, cfg.getSeasonTreasury id ≠ cfg.bvbOrganizer
  pledge : ∀ id, ¬ Keyless cfg.toConfig (cfg.getSeasonTreasury id)
  donor : ∀ id, cfg.getSeasonTreasury id ≠ cfg.donorAccount
  pool : ∀ id, cfg.getSeasonTreasury id ≠ cfg.swapPoolAccount

/-- A call that is allowed is performed and booked, or something happens besides: time passes, characters are created,
nonces and balances change. -/
inductive BookedStep (allowed : State cfg.toConfig → Origin → TournamentCall → Prop)
    (besides : State cfg.toConfig → Token.State cfg.token → Prop) :
    State cfg.toConfig × Books → State cfg.toConfig × Books → Prop
  | call {s s' : State cfg.toConfig} {b : Books} (origin : Origin) (c : TournamentCall) (hallowed : allowed s origin c)
      (h : c.perform origin s = .ok s') : BookedStep allowed besides (s, b) (s', b.book origin s c)
  | outside (s : State cfg.toConfig) (b : Books) (now : Moment) (npcs : NpcId → Bool) (accountNonce : AccountId → U32)
      (asset : Token.State cfg.token) (hbesides : besides s asset) :
      BookedStep allowed besides (s, b) ({ s with now, npcs, accountNonce, asset }, b)

/-- The call is not signed for a treasury. -/
def NotTreasury (cfg : SwapConfig) (_ : State cfg.toConfig) (origin : Origin) (_ : TournamentCall) : Prop :=
  ∀ id, origin ≠ .signed (cfg.getSeasonTreasury id)

/-- Nothing is taken from a treasury. -/
def TreasuriesKept (s : State cfg.toConfig) (asset : Token.State cfg.token) : Prop :=
  ∀ id, funds (cfg.getSeasonTreasury id) s ≤ (freeBalance cfg.awtTokenId (cfg.getSeasonTreasury id) asset).toNat

/-! ### What comes in over the bridge -/

theorem mintTo_frame {tokenId : TokenId} {amount : U128} (h : mintTo target tokenId amount s = .ok s') :
    s' = { s with asset := s'.asset } := by
  simp only [mintTo, bind_eq_ok] at h
  obtain ⟨asset, -, hdonate⟩ := h
  rw [donate_frame hdonate]

theorem exchange_frame {tokenId : TokenId} {unifiedAmount price : U128}
    (h : exchange who tokenId unifiedAmount price s = .ok s') : s' = { s with asset := s'.asset } := by
  unfold exchange at h
  dsimp only at h
  split at h
  · obtain rfl := pure_eq_ok.mp h
    rfl
  · simp only [bind_eq_ok, pure_eq_ok, Prod.exists] at h
    obtain ⟨paid, mid, -, paid', asset, -, rfl⟩ := h
    rfl

/-- A swap mints, and exchanges what is no award token and has a price. -/
theorem swap_eq_ok {amt : U128} {rId : ResourceId} {prices : Prices} (h : swap origin target amt rId prices s = .ok s') :
    ∃ tokenId mid, mintTo target tokenId amt s = .ok mid ∧ (s' = mid ∨ tokenId ≠ cfg.awtTokenId ∧
      ∃ unifiedAmount price, exchange target tokenId unifiedAmount price mid = .ok s') := by
  simp only [swap, bind_eq_ok] at h
  obtain ⟨_, -, tokenId, -, mid, hmid, h⟩ := h
  refine ⟨tokenId, mid, hmid, ?_⟩
  split at h
  · exact .inl (pure_eq_ok.mp h).symm
  rename_i htoken
  split at h
  · exact .inl (pure_eq_ok.mp h).symm
  obtain ⟨decimals, -, h⟩ := bind_eq_ok.mp h
  split at h
  · exact .inl (pure_eq_ok.mp h).symm
  · exact .inr ⟨htoken, _, _, h⟩

theorem swap_frame {amt : U128} {rId : ResourceId} {prices : Prices}
    (h : swap origin target amt rId prices s = .ok s') : s' = { s with asset := s'.asset } := by
  obtain ⟨tokenId, mid, hmid, rfl | ⟨-, unifiedAmount, price, hexchange⟩⟩ := swap_eq_ok h
  · exact mintTo_frame hmid
  · rw [exchange_frame hexchange, mintTo_frame hmid]

section Funds

variable (hexact : cfg.token.balances.Exact)

include hexact

theorem mintTo_funds_le (hdonor : a ≠ cfg.donorAccount) {tokenId : TokenId} {amount : U128}
    (h : mintTo target tokenId amount s = .ok s') : funds a s ≤ funds a s' := by
  simp only [mintTo, bind_eq_ok] at h
  obtain ⟨asset, hmint, hdonate⟩ := h
  exact (Token.doMint_free_le hmint _ a).trans (donate_funds_le hexact hdonor hdonate)

/-- The pool pays in the award token, and is paid in another. -/
theorem exchange_funds_le (hpool : a ≠ cfg.swapPoolAccount) {tokenId : TokenId} {unifiedAmount price : U128}
    (htoken : tokenId ≠ cfg.awtTokenId) (h : exchange who tokenId unifiedAmount price s = .ok s') :
    funds a s ≤ funds a s' := by
  unfold exchange at h
  dsimp only at h
  split at h
  · obtain rfl := pure_eq_ok.mp h
    exact Nat.le_refl _
  · simp only [bind_eq_ok, pure_eq_ok, Prod.exists] at h
    obtain ⟨paid, mid, hfirst, paid', asset, hsecond, rfl⟩ := h
    refine (Token.transferToken_free_le hexact hfirst cfg.awtTokenId hpool).trans ?_
    by_cases hself : a = who
    · have hsame := (Token.transferToken_eq_ok hexact (hself ▸ hpool) hsecond).2.2 cfg.awtTokenId a
        (fun heq => htoken (Prod.mk.inj heq).1.symm) fun heq => htoken (Prod.mk.inj heq).1.symm
      exact (congrArg (fun x : U128 × U128 => x.1.toNat) hsame).ge
    · exact Token.transferToken_free_le hexact hsecond _ hself

theorem swap_funds_le (hdonor : a ≠ cfg.donorAccount) (hpool : a ≠ cfg.swapPoolAccount) {amt : U128}
    {rId : ResourceId} {prices : Prices} (h : swap origin target amt rId prices s = .ok s') :
    funds a s ≤ funds a s' := by
  obtain ⟨tokenId, mid, hmid, rfl | ⟨htoken, unifiedAmount, price, hexchange⟩⟩ := swap_eq_ok h
  · exact mintTo_funds_le hexact hdonor hmid
  · exact (mintTo_funds_le hexact hdonor hmid).trans (exchange_funds_le hexact hpool htoken hexchange)

end Funds

/-! ### What a call does -/

/-- What a call does to the treasuries and to the records of who was paid. -/
structure Accounts (origin : Origin) (c : TournamentCall) (s s' : State cfg.toConfig) : Prop where
  funds : ∀ id, funds (cfg.getSeasonTreasury id) s + total ((c.sale? origin s).toList.map Sale.toTreasury) id ≤
    funds (cfg.getSeasonTreasury id) s' + total c.withdrawal?.toList id +
      total ((c.bonus? origin s).toList.map Bonus.toWinner) id
  unpaid : ∀ x, c.bonus? origin s = some x → (votesOf x.winner x.season s).2 = false
  flags : ∀ who id, (votesOf who id s').2 = true ↔
    (votesOf who id s).2 = true ∨ ∃ x, c.bonus? origin s = some x ∧ x.key = (who, id)
  terms : OnTerms s'
  listed : Listed s'

/-- A call that takes from no treasury, gives nothing to one, and pays no bonus. -/
theorem Accounts.quiet (hsale : c.sale? origin s = none) (hbonus : c.bonus? origin s = none)
    (hfunds : ∀ id, AbyssTournament.funds (cfg.getSeasonTreasury id) s ≤
      AbyssTournament.funds (cfg.getSeasonTreasury id) s')
    (hflags : ∀ who id, (votesOf who id s').2 = (votesOf who id s).2) (hterms : OnTerms s') (hlisted : Listed s') :
    Accounts origin c s s' := by
  refine ⟨fun id => ?_, fun x hx => ?_, fun who id => ?_, hterms, hlisted⟩
  · rw [hsale]
    exact (hfunds id).trans ((Nat.le_add_right _ _).trans (Nat.le_add_right _ _))
  · rw [hbonus] at hx
    exact absurd hx (by simp)
  · rw [hflags, hbonus]
    simp

variable (hexact : cfg.token.balances.Exact) (hapart : Apart cfg) (hterms : OnTerms s) (hlisted : Listed s)
  (hsigned : ∀ id, origin ≠ .signed (cfg.getSeasonTreasury id))

include hexact hapart hterms hlisted hsigned

theorem accounts_of_onBetting {c : Call} {hc : c.battle? = none} (h : dispatch origin s c = .ok s') :
    Accounts origin (.onPallet (.onBetting c hc)) s s' := by
  have hframe := dispatch_frame hc h
  have hpaid := fun id => dispatch_funds_le hexact hterms hc (hapart.organizer id) (hapart.pledge id) (hsigned id) h
  refine .quiet rfl rfl (fun id => (hpaid id).1) (fun who id => ?_) (hpaid 0).2 ?_
  · rw [hframe]
    rfl
  · rw [hframe]
    exact hlisted

theorem accounts_of_buyTicket {amount : U32} {inviteCode : List UInt8}
    (h : buyTicket origin amount inviteCode s = .ok s') :
    Accounts origin (.onPallet (.onSeason (.buyTicket amount inviteCode))) s s' := by
  have hframe := buyTicket_frame h
  have hlisted' : Listed s' := hlisted.perform (c := .buyTicket amount inviteCode) h
  obtain ⟨who, season, rfl, hseason⟩ := exists_of_buyTicket h
  refine ⟨fun id => ?_, fun x hx => ?_, fun who id => ?_, ?_, hlisted'⟩
  · have hne : cfg.getSeasonTreasury id ≠ who := fun heq => hsigned id (by rw [heq])
    have hpaid := buyTicket_funds_le hexact hne hseason h
    rw [(hlisted _ season hseason).1] at hpaid
    simp only [TournamentCall.sale?, TournamentCall.withdrawal?, TournamentCall.bonus?, hseason,
      Option.toList_some, Option.toList_none, List.map_cons, List.map_nil, total_singleton, Sale.toTreasury]
    simp only [hapart.injective.eq_iff, eq_comm (a := id)] at hpaid
    exact hpaid
  · exact absurd hx (by simp [TournamentCall.bonus?])
  · rw [hframe]
    simp [TournamentCall.bonus?, votesOf]
  · rw [hframe]
    exact hterms

theorem accounts_of_claim {seasonId : SeasonId} (h : claim origin seasonId s = .ok s') :
    Accounts origin (.onPallet (.onSeason (.claim seasonId))) s s' := by
  have hlisted' : Listed s' := hlisted.perform (c := .claim seasonId) h
  cases origin with
  | root => exact absurd h (by simp [claim, ensureSigned])
  | signed who =>
      obtain ⟨season, total, paid, hseason, hflag, htotal, hpaid, hs'⟩ := claim_eq_ok h
      have hbonus : TournamentCall.bonus? (.signed who) s (.onPallet (.onSeason (.claim seasonId))) =
          some ⟨seasonId, who, total⟩ := by
        simp only [TournamentCall.bonus?, hseason, htotal]
      have hframe := idle_payAwt hpaid
      have hinfos : s'.voteSelectInfos = s.voteSelectInfos.insert (who, seasonId) ((votesOf who seasonId s).1, true) := by
        rw [hs', hframe]
      refine ⟨fun id => ?_, fun x hx => ?_, fun a id => ?_, ?_, hlisted'⟩
      · have hpaid := @payAwt_funds_le _ _ _ hexact (cfg.getSeasonTreasury id) _ _ _ hpaid
        rw [(hlisted seasonId season hseason).1] at hpaid
        have hsame : funds (cfg.getSeasonTreasury id) s' = funds (cfg.getSeasonTreasury id) paid := by rw [hs', funds, funds]
        rw [hbonus, hsame]
        simp only [TournamentCall.sale?, TournamentCall.withdrawal?, Option.toList_some, Option.toList_none,
          List.map_cons, List.map_nil, total_singleton, Bonus.toWinner]
        simp only [hapart.injective.eq_iff, eq_comm (a := id)] at hpaid
        exact hpaid
      · rw [hbonus] at hx
        obtain rfl := Option.some.inj hx
        exact hflag
      · rw [votesOf_insert hinfos, hbonus]
        split
        · rename_i hkey
          exact iff_of_true rfl (.inr ⟨_, rfl, hkey.symm⟩)
        · rename_i hkey
          refine ⟨.inl, fun hboth => hboth.resolve_right ?_⟩
          rintro ⟨x, hx, heq⟩
          obtain rfl := Option.some.inj hx
          exact hkey heq.symm
      · rw [hs', hframe]
        exact hterms

theorem accounts_of_onSeason {c : SeasonCall} (h : c.perform origin s = .ok s') :
    Accounts origin (.onPallet (.onSeason c)) s s' := by
  have hlisted' := hlisted.perform h
  cases hpays : c.pays with
  | false =>
      have haside := aside_of_perform hpays h
      refine .quiet ?_ ?_ (fun id => ?_) haside.flags (fun id betting hbetting => ?_) hlisted'
      · cases c <;> first | rfl | exact absurd hpays (by simp [SeasonCall.pays])
      · cases c <;> first | rfl | exact absurd hpays (by simp [SeasonCall.pays])
      · rw [funds, funds, haside.asset]
      · exact hterms id betting (haside.bettings ▸ hbetting)
  | true =>
      cases c with
      | transferTicket seasonId tickets target =>
          have hframe := transferTicket_frame h
          simp only [SeasonCall.perform, transferTicket, bind_eq_ok] at h
          obtain ⟨who, -, _, -, h⟩ := h
          have hdonated := fun id => donate_funds_le hexact (hapart.donor id) h
          refine .quiet rfl rfl hdonated (fun who id => ?_) ?_ hlisted'
          · rw [hframe]
            rfl
          · rw [hframe]
            exact hterms
      | buyTicket amount inviteCode => exact accounts_of_buyTicket hexact hapart hterms hlisted hsigned h
      | claim seasonId => exact accounts_of_claim hexact hapart hterms hlisted hsigned h
      | _ => exact absurd hpays (by simp [SeasonCall.pays])

theorem accounts_of_perform (h : c.perform origin s = .ok s') : Accounts origin c s s' := by
  have hquiet : ∀ {c : TournamentCall}, c.sale? origin s = none → c.bonus? origin s = none →
      (∀ id, funds (cfg.getSeasonTreasury id) s ≤ funds (cfg.getSeasonTreasury id) s') →
        s' = { s with asset := s'.asset } → Accounts origin c s s' := by
    intro c hsale hbonus hfunds hframe
    refine .quiet hsale hbonus hfunds (fun who id => ?_) ?_ ?_
    · rw [hframe]
      rfl
    · rw [hframe]
      exact hterms
    · rw [hframe]
      exact hlisted
  cases c with
  | onPallet c =>
      cases c with
      | onBetting c hc => exact accounts_of_onBetting hexact hapart hterms hlisted hsigned h
      | onSeason c => exact accounts_of_onSeason hexact hapart hterms hlisted hsigned h
      | updateBattle battleId seasonId battleType home visiting startTimeStr =>
          simp only [TournamentCall.perform, AnyCall.run, updateBattle, bind_eq_ok, pure_eq_ok] at h
          obtain ⟨_, -, season, -, _, -, _, -, startTime, -, _, -, _, -, rfl⟩ := h
          exact .quiet rfl rfl (fun _ => Nat.le_refl _) (fun _ _ => rfl) hterms hlisted
  | giveAwayFee addrs =>
      exact hquiet rfl rfl (fun id => giveAwayFee_funds_le hexact (hapart.donor id) h) (giveAwayFee_frame h)
  | withdrawSeasonTreasury seasonId target amount =>
      simp only [TournamentCall.perform, withdrawSeasonTreasury, bind_eq_ok, okOr_eq_ok] at h
      obtain ⟨_, -, season, hseason, hpaid⟩ := h
      have hframe := idle_payAwt hpaid
      refine ⟨fun id => ?_, fun x hx => absurd hx (by simp [TournamentCall.bonus?]), fun who id => ?_, ?_, ?_⟩
      · have hpaid := @payAwt_funds_le _ _ _ hexact (cfg.getSeasonTreasury id) _ _ _ hpaid
        rw [(hlisted seasonId season hseason).1] at hpaid
        simp only [TournamentCall.sale?, TournamentCall.withdrawal?, TournamentCall.bonus?, Option.toList_some,
          Option.toList_none, List.map_nil, total_singleton]
        simp only [hapart.injective.eq_iff, eq_comm (a := id)] at hpaid
        exact hpaid
      · rw [hframe]
        simp [TournamentCall.bonus?, votesOf]
      · rw [hframe]
        exact hterms
      · rw [hframe]
        exact hlisted
  | deposit target awt rId =>
      simp only [TournamentCall.perform, deposit, bind_eq_ok] at h
      obtain ⟨_, -, tokenId, -, h⟩ := h
      exact hquiet rfl rfl (fun id => mintTo_funds_le hexact (hapart.donor id) h) (mintTo_frame h)
  | swap target amt rId prices =>
      exact hquiet rfl rfl (fun id => swap_funds_le hexact (hapart.donor id) (hapart.pool id) h) (swap_frame h)

omit hexact hapart hterms hlisted hsigned

/-! ### In every run -/

/-- What the books say of the treasuries and of the records of who was paid. -/
structure Accounted (s₀ : State cfg.toConfig) (p : State cfg.toConfig × Books) : Prop where
  funds : ∀ id, funds (cfg.getSeasonTreasury id) s₀ + total (p.2.sales.map Sale.toTreasury) id ≤
    funds (cfg.getSeasonTreasury id) p.1 + total p.2.withdrawals id + total (p.2.bonuses.map Bonus.toWinner) id
  once : (p.2.bonuses.map Bonus.key).Nodup
  flags : ∀ who id, (votesOf who id p.1).2 = true ↔ (who, id) ∈ p.2.bonuses.map Bonus.key
  terms : OnTerms p.1
  listed : Listed p.1

theorem Accounted.next {s₀ : State cfg.toConfig} (hinv : Accounted s₀ (s, b)) (h : Accounts origin c s s') :
    Accounted s₀ (s', b.book origin s c) := by
  refine ⟨fun id => ?_, ?_, fun who id => ?_, h.terms, h.listed⟩
  · have hbefore := hinv.funds id
    have hstep := h.funds id
    simp only [Books.book, List.map_append, total_append] at hbefore hstep ⊢
    omega
  · simp only [Books.book, List.map_append]
    cases hbonus : c.bonus? origin s with
    | none => simpa using hinv.once
    | some x =>
        -- Nobody who was paid before is unpaid.
        have hunpaid : x.key ∉ b.bonuses.map Bonus.key := by
          rw [Bonus.key, ← hinv.flags, h.unpaid x hbonus]
          exact Bool.false_ne_true
        refine List.nodup_append.mpr ⟨hinv.once, List.nodup_singleton _, ?_⟩
        rintro key hkey key' hkey' rfl
        obtain rfl := List.mem_singleton.mp hkey'
        exact hunpaid hkey
  · rw [h.flags who id, hinv.flags who id]
    simp only [Books.book, List.map_append, List.mem_append]
    refine or_congr_right ?_
    cases c.bonus? origin s <;> simp [eq_comm]

theorem Accounted.step (hexact : cfg.token.balances.Exact) (hapart : Apart cfg) {s₀ : State cfg.toConfig}
    {p p' : State cfg.toConfig × Books} (hinv : Accounted s₀ p) (h : BookedStep (NotTreasury cfg) TreasuriesKept p p') :
    Accounted s₀ p' := by
  cases h with
  | call origin c hsigned h =>
      exact hinv.next (accounts_of_perform hexact hapart hinv.terms hinv.listed hsigned h)
  | outside s b now npcs accountNonce asset hfunds =>
      refine ⟨fun id => ?_, hinv.once, hinv.flags, hinv.terms, hinv.listed⟩
      have hbefore := hinv.funds id
      have hstep := hfunds id
      simp only [AbyssTournament.funds] at hbefore hstep ⊢
      omega

theorem accounted_of_blank (h : Blank s) : Accounted s (s, .blank) := by
  refine ⟨fun id => Nat.le_refl _, List.nodup_nil, fun who id => ?_, fun id betting hbetting => ?_,
    fun id season hseason => ?_⟩
  · rw [votesOf, h.voteSelectInfos]
    simp [Books.blank]
  · exact absurd ((h.bettings id).symm.trans hbetting) (by simp)
  · exact absurd ((h.seasons id).symm.trans hseason) (by simp)

/-- In every run in which nobody signs for a treasury and nothing else is taken from one, a season's treasury has what
it had and its part of all sales, less bonuses and withdrawals; and each account is paid the bonus of a season at most
once, and is recorded as paid if it was. -/
theorem treasuries_accounted (hexact : cfg.token.balances.Exact) (hapart : Apart cfg) {s₀ : State cfg.toConfig}
    (hblank : Blank s₀)
    (hrun : Relation.ReflTransGen (BookedStep (NotTreasury cfg) TreasuriesKept) (s₀, .blank) (s, b)) :
    (∀ id, funds (cfg.getSeasonTreasury id) s₀ + total (b.sales.map Sale.toTreasury) id ≤
      funds (cfg.getSeasonTreasury id) s + total b.withdrawals id + total (b.bonuses.map Bonus.toWinner) id) ∧
    (b.bonuses.map Bonus.key).Nodup ∧
    ∀ who id, (votesOf who id s).2 = true ↔ (who, id) ∈ b.bonuses.map Bonus.key := by
  have hall : ∀ p, Relation.ReflTransGen (BookedStep (NotTreasury cfg) TreasuriesKept) (s₀, .blank) p →
      Accounted s₀ p := by
    intro p hp
    induction hp with
    | refl => exact accounted_of_blank hblank
    | tail _ hlast ih => exact ih.step hexact hapart hlast
  have hinv := hall (s, b) hrun
  exact ⟨hinv.funds, hinv.once, hinv.flags⟩

/-! ### A season that is played -/

/-- Calls one after the other, each of them booked. -/
def playSeason (calls : List (Origin × TournamentCall)) (p : State cfg.toConfig × Books) :
    Result (State cfg.toConfig × Books) :=
  calls.foldlM
    (fun p x => do
      let s ← x.2.perform x.1 p.1
      return (s, p.2.book x.1 p.1 x.2))
    p

theorem steps_of_playSeason {allowed : State cfg.toConfig → Origin → TournamentCall → Prop}
    {besides : State cfg.toConfig → Token.State cfg.token → Prop} {calls : List (Origin × TournamentCall)}
    {p p' : State cfg.toConfig × Books} (hallowed : ∀ x ∈ calls, ∀ s, allowed s x.1 x.2)
    (h : playSeason calls p = .ok p') : Relation.ReflTransGen (BookedStep allowed besides) p p' := by
  refine foldlM_invariant_mem (Relation.ReflTransGen (BookedStep allowed besides) p)
    (fun x hx mid mid' hmid hnext => ?_) .refl h
  obtain ⟨s, hs, rfl⟩ := by simpa only [bind_eq_ok, pure_eq_ok] using hnext
  exact hmid.tail (.call x.1 x.2 (hallowed x hx mid.1) hs)

end

def plainSwapConfig : SwapConfig where
  toConfig := plainConfig
  bridgeAccount := List.Vector.replicate 32 8
  swapPoolAccount := List.Vector.replicate 32 10
  perquintill := .exact

/-- No treasury ends in the byte that another account ends in. -/
theorem plainTreasury_ne {a : AccountId} (h : a.toList.getLast? ≠ some 254) (id : SeasonId) :
    plainSwapConfig.getSeasonTreasury id ≠ a := by
  rintro rfl
  exact h (by simp [plainSwapConfig, plainConfig])

theorem plainSwapConfig_apart : Apart plainSwapConfig where
  injective := plainSeasonTreasury_injective
  organizer := plainTreasury_ne (by decide)
  pledge id := by
    rintro ⟨id', h⟩
    exact plainTreasury_ne (by simp [plainSwapConfig, plainConfig, plainTreasury]) id h
  donor := plainTreasury_ne (by decide)
  pool := plainTreasury_ne (by decide)

/-- Alice buys a ticket, is right about the only battle, and claims; then the organizer withdraws some. -/
def playedSeason : List (Origin × TournamentCall) :=
  [(.signed organizer, .onPallet (.onSeason (.createSeason [1] .finals 1000000000000000001))),
    (.signed organizer, .onPallet (.onSeason (.setDefaultSeason 1))),
    (.signed organizer, .onPallet (.onSeason (.createBattle 1 .finals 1 2 [1]))),
    (.signed Token.alice, .onPallet (.onSeason (.buyTicket 1 []))),
    (.signed Token.alice, .onPallet (.onSeason (.initialVote 1 1 [⟨1, 1⟩]))),
    (.signed organizer, .onPallet (.onSeason (.setResult 1 3 0))),
    (.signed organizer, .onPallet (.onSeason (.finalsSettle 1))),
    (.signed organizer, .onPallet (.onSeason (.closeSeason 1))),
    (.signed Token.alice, .onPallet (.onSeason (.claim 1))),
    (.signed organizer, .withdrawSeasonTreasury 1 Token.alice 5)]

def aliceFunded : State plainSwapConfig.toConfig :=
  emptyState plainConfig (.genesis fun a => if a = Token.alice then (10 ^ 30, 0) else (0, 0))

theorem signed_ne_treasury {origin : Origin} (h : origin = .signed organizer ∨ origin = .signed Token.alice)
    (id : SeasonId) : origin ≠ .signed (plainSwapConfig.getSeasonTreasury id) := by
  intro heq
  rcases h with h | h
  · exact plainTreasury_ne (by decide) id (Origin.signed.inj (heq.symm.trans h))
  · exact plainTreasury_ne (by decide) id (Origin.signed.inj (heq.symm.trans h))

theorem playedSeason_signed : ∀ x ∈ playedSeason, x.1 = .signed organizer ∨ x.1 = .signed Token.alice := by
  simp [playedSeason]

theorem treasuries_accounted_played : ∃ (s : State plainSwapConfig.toConfig) (b : Books),
    total (b.sales.map Sale.toTreasury) 1 = 850000000000000000 ∧ total b.withdrawals 1 = 5 ∧
      total (b.bonuses.map Bonus.toWinner) 1 = 743750000000000000 ∧
      850000000000000000 ≤ funds (plainSwapConfig.getSeasonTreasury 1) s + 5 + 743750000000000000 ∧
      (votesOf Token.alice 1 s).2 = true := by
  obtain ⟨⟨s, b⟩, hplay, hcheck⟩ := exists_of_succeedsWith (x := playSeason playedSeason (aliceFunded, .blank))
    (p := fun x => decide (total (x.2.sales.map Sale.toTreasury) 1 = 850000000000000000) &&
      decide (total x.2.withdrawals 1 = 5) &&
      decide (total (x.2.bonuses.map Bonus.toWinner) 1 = 743750000000000000) &&
      decide ((Token.alice, 1) ∈ x.2.bonuses.map Bonus.key)) (by decide +kernel)
  simp only [Bool.and_eq_true, decide_eq_true_eq] at hcheck
  obtain ⟨⟨⟨hsold, hwithdrawn⟩, hpaid⟩, hwinner⟩ := hcheck
  have hall := treasuries_accounted Balances.plain_exact plainSwapConfig_apart (blank_emptyState _)
    (steps_of_playSeason (fun x hx _ => signed_ne_treasury (playedSeason_signed x hx)) hplay)
  have hfunds := hall.1 1
  rw [hsold, hwithdrawn, hpaid] at hfunds
  exact ⟨s, b, hsold, hwithdrawn, hpaid, (Nat.le_add_left _ _).trans hfunds, (hall.2.2 Token.alice 1).mpr hwinner⟩

end Fusotao.AbyssTournament
