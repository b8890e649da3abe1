import Mathlib.Data.BitVec
import Fusotao.AbyssTournament.Treasuries

/-!
# What was sold, and with whose code

A season counts the tickets that were sold for it, and an account what was sold and bet with its code. In every run in
which no season takes the id of another, these are the totals of all sales and of all bets, whoever made them in
whatever order; and who bought with the code of somebody else is recorded.
-/

namespace Fusotao.AbyssTournament

open Exec
open Totals (Holds total total_append total_singleton total_eq_zero)

section

variable {cfg : Config} {s s' : State cfg} {who : AccountId} {seasonId : SeasonId} {origin : Origin} {id : BettingId}

/-! ### Totals of the sales -/

/-- What the owner of the code is credited: one more purchase, and a part of the price. -/
def Sale.commission (x : Sale) : Option (AccountId × (U32 × U128)) :=
  x.invitor.map fun invitor => (invitor, (1, x.price * 5 / 100))

def Sale.forSeason (x : Sale) : SeasonId × U32 := (x.season, x.tickets)

/-! ### Seasons stay -/

/-- Seasons stay with the tickets sold for them, and a new one has none. -/
structure SeasonsKept (s s' : State cfg) : Prop where
  present : ∀ id, (s.seasons id).isSome → (s'.seasons id).isSome
  sold : ∀ id season', s'.seasons id = some season' →
    (∃ season, s.seasons id = some season ∧ season'.totalTickets = season.totalTickets) ∨
      s.seasons id = none ∧ season'.totalTickets = 0

theorem SeasonsKept.of_eq (h : s'.seasons = s.seasons) : SeasonsKept s s' := by
  constructor
  · intro id hsome
    rwa [h]
  · intro id season' hseason'
    exact .inl ⟨season', h ▸ hseason', rfl⟩

theorem SeasonsKept.insert {season' : Season} (h : s'.seasons = s.seasons.insert seasonId season')
    (hseason : (∃ season, s.seasons seasonId = some season ∧ season'.totalTickets = season.totalTickets) ∨
      s.seasons seasonId = none ∧ season'.totalTickets = 0) : SeasonsKept s s' := by
  constructor
  · intro id hsome
    rw [h, StorageMap.insert_apply]
    split
    · rfl
    · exact hsome
  · intro id season hid
    rw [h] at hid
    rcases StorageMap.insert_eq_some hid with ⟨rfl, rfl⟩ | ⟨-, hid⟩
    · exact hseason
    · exact .inl ⟨season, hid, rfl⟩

/-- A new season does not take the id of another. -/
def SeasonCall.Fresh (s : State cfg) : SeasonCall → Prop
  | .createSeason .. => s.seasons s.nextSeasonId = none
  | _ => True

theorem seasonsKept_of_perform {c : SeasonCall} (hc : ∀ amount inviteCode, c ≠ .buyTicket amount inviteCode)
    (hfresh : c.Fresh s) (h : c.perform origin s = .ok s') : SeasonsKept s s' := by
  cases c with
  | createSeason date battleType price =>
      simp only [SeasonCall.perform, createSeason, bind_eq_ok, pure_eq_ok] at h
      obtain ⟨_, -, _, -, _, -, rfl⟩ := h
      exact .insert rfl (.inr ⟨hfresh, rfl⟩)
  | updateSeason seasonId date battleType price =>
      simp only [SeasonCall.perform, updateSeason, bind_eq_ok, okOr_eq_ok, pure_eq_ok] at h
      obtain ⟨_, -, _, -, _, -, season, hseason, rfl⟩ := h
      exact .insert rfl (.inl ⟨season, hseason, rfl⟩)
  | setDefaultSeason seasonId =>
      simp only [SeasonCall.perform, setDefaultSeason, bind_eq_ok, pure_eq_ok] at h
      obtain ⟨_, -, _, -, rfl⟩ := h
      exact .of_eq rfl
  | createBattle seasonId battleType home visiting date =>
      simp only [SeasonCall.perform, createBattle, bind_eq_ok, pure_eq_ok] at h
      obtain ⟨_, -, season, -, _, -, _, -, startTime, -, _, -, _, -, rfl⟩ := h
      exact .of_eq rfl
  | giveAwayTickets seasonId addrs =>
      rw [giveAwayTickets_frame h]
      exact .of_eq rfl
  | transferTicket seasonId tickets target =>
      rw [transferTicket_frame h]
      exact .of_eq rfl
  | buyTicket amount inviteCode => exact absurd rfl (hc amount inviteCode)
  | initialVote seasonId ticketsAmount votes =>
      simp only [SeasonCall.perform, initialVote, bind_eq_ok, pure_eq_ok] at h
      obtain ⟨who, -, _, -, season, -, _, -, m, -, _, -, rfl⟩ := h
      exact .of_eq rfl
  | appendVote seasonId selectIndex battleType amount votes =>
      simp only [SeasonCall.perform, appendVote, bind_eq_ok] at h
      obtain ⟨who, -, _, -, season, -, _, -, old, -, _, -, _, -, h⟩ := h
      split at h
      · simp only [extendBallot, bind_eq_ok, pure_eq_ok] at h
        obtain ⟨m, -, rfl⟩ := h
        exact .of_eq rfl
      · simp only [splitBallot, bind_eq_ok, pure_eq_ok] at h
        obtain ⟨_, -, m, -, rfl⟩ := h
        exact .of_eq rfl
  | setResult battleId homeScore visitingScore =>
      simp only [SeasonCall.perform, setResult, bind_eq_ok, pure_eq_ok] at h
      obtain ⟨_, -, battle, -, _, -, rfl⟩ := h
      exact .of_eq rfl
  | finalsSettle battleId =>
      simp only [SeasonCall.perform, finalsSettle, bind_eq_ok, Prod.exists] at h
      obtain ⟨_, -, battle, -, _, -, _, -, _, _, _, -, mid, hmid, h⟩ := h
      have hmid := updateParticipantPoint_tally hmid
      split at h
      · obtain ⟨season, hseason, h⟩ := bind_eq_ok.mp h
        rw [← pure_eq_ok.mp h, hmid]
        rw [hmid] at hseason
        exact .insert rfl (.inl ⟨season, okOr_eq_ok.mp hseason, rfl⟩)
      · rw [← pure_eq_ok.mp h, hmid]
        exact .of_eq rfl
  | leagueSettle battleId =>
      obtain ⟨battle, diff, winner, loser, -, -, -, hs'⟩ := leagueSettle_eq_ok h
      rw [hs']
      exact .of_eq rfl
  | closeSeason seasonId =>
      simp only [SeasonCall.perform, closeSeason, bind_eq_ok, okOr_eq_ok, pure_eq_ok, Prod.exists] at h
      obtain ⟨_, -, season, hseason, _, _, -, rfl⟩ := h
      exact .insert rfl (.inl ⟨season, hseason, rfl⟩)
  | claim seasonId =>
      simp only [SeasonCall.perform, claim, bind_eq_ok, pure_eq_ok] at h
      obtain ⟨who, -, season, -, _, -, _, -, total, -, mid, hmid, rfl⟩ := h
      rw [idle_payAwt hmid]
      exact .of_eq rfl

/-! ### Whose code it is -/

theorem payInvitor_of_none {m part : U128} {inviteCode : List UInt8} (hcode : invitorOf cfg who inviteCode = none)
    (h : payInvitor who m inviteCode s = .ok (part, s')) : s' = s := by
  unfold payInvitor at h
  split at h
  · rename_i invitor hinvitor
    split at h
    · rename_i hne
      rw [invitorOf, hinvitor, Option.filter_some_pos (by simpa using hne)] at hcode
      exact absurd hcode (by simp)
    · exact (Prod.mk.inj (pure_eq_ok.mp h)).2.symm
  · exact (Prod.mk.inj (pure_eq_ok.mp h)).2.symm

theorem payInvitor_of_some {m part : U128} {inviteCode : List UInt8} {invitor : AccountId}
    (hcode : invitorOf cfg who inviteCode = some invitor) (h : payInvitor who m inviteCode s = .ok (part, s')) :
    s'.inviteCode = s.inviteCode.insert invitor
        (((s.inviteCode invitor).getD (0, 0)).1 + 1, ((s.inviteCode invitor).getD (0, 0)).2 + m * 5 / 100) ∧
      s'.inviteRecords = s.inviteRecords.insert who true := by
  obtain ⟨haddr, hne⟩ := Option.filter_eq_some_iff.mp hcode
  have hne : invitor ≠ who := of_decide_eq_true hne
  simp only [payInvitor, haddr, if_pos hne, bind_eq_ok, pure_eq_ok, Prod.mk.injEq] at h
  obtain ⟨mid, hmid, -, rfl⟩ := h
  rw [idle_payAwt hmid]
  exact ⟨rfl, rfl⟩

/-- A bet with a code credits its owner. -/
theorem goBetWithInvite_credits {itemIndex : SelectIndex} {amount : U128} {inviteCode : List UInt8}
    (h : goBetWithInvite (.signed who) id itemIndex amount inviteCode s = .ok s') : ∃ betting,
      s.bettings id = some betting ∧ s'.bettingInviteAmount = match invitorOf cfg who inviteCode with
        | none => s.bettingInviteAmount
        | some invitor => s.bettingInviteAmount.insert ((betting.season, invitor), betting.tokenId)
            ((s.bettingInviteAmount ((betting.season, invitor), betting.tokenId)).getD 0 + amount) := by
  simp only [goBetWithInvite, bind_eq_ok, ensureSigned_eq_ok, Prod.exists] at h
  obtain ⟨_, hwho, betting, mid, hbet, h⟩ := h
  obtain rfl := Origin.signed.inj hwho
  obtain ⟨item, paid, hbetting, -, -, -, hmid⟩ := bet_eq_ok hbet
  have hsame : mid.bettingInviteAmount = s.bettingInviteAmount := by rw [hmid]
  refine ⟨betting, hbetting, ?_⟩
  cases haddr : inviteCodeToAddr cfg inviteCode with
  | none =>
      rw [haddr] at h
      rw [invitorOf, haddr, ← hsame, ← pure_eq_ok.mp h]
      rfl
  | some invitor =>
      by_cases hne : invitor = who
      · simp only [haddr, if_neg (not_not_intro hne)] at h
        rw [invitorOf, haddr, Option.filter_some_neg (by simpa using hne), ← hsame, ← pure_eq_ok.mp h]
      · simp only [haddr, ne_eq, if_pos hne] at h
        rw [invitorOf, haddr, Option.filter_some_pos (by simpa using hne), ← hsame, ← pure_eq_ok.mp h]

theorem buyTicket_credits {amount : U32} {inviteCode : List UInt8} {season : Season}
    (hseason : s.seasons s.defaultSeason = some season) (h : buyTicket (.signed who) amount inviteCode s = .ok s') :
    s'.seasons = s.seasons.insert s.defaultSeason { season with totalTickets := season.totalTickets + amount } ∧
    (invitorOf cfg who inviteCode = none → s'.inviteCode = s.inviteCode ∧ s'.inviteRecords = s.inviteRecords) ∧
    ∀ invitor, invitorOf cfg who inviteCode = some invitor →
      s'.inviteCode = s.inviteCode.insert invitor (((s.inviteCode invitor).getD (0, 0)).1 + 1,
        ((s.inviteCode invitor).getD (0, 0)).2 + season.ticketPrice * amount.setWidth 128 * 5 / 100) ∧
      s'.inviteRecords = s.inviteRecords.insert who true := by
  simp only [buyTicket, bind_eq_ok, ensureSigned_eq_ok, okOr_eq_ok, pure_eq_ok, Prod.exists] at h
  obtain ⟨_, hwho, _, hseason', _, -, _, -, _, -, first, hfirst, part, second, hsecond, third, hthird, rfl⟩ := h
  obtain rfl := Origin.signed.inj hwho
  obtain rfl := Option.some.inj (hseason.symm.trans hseason')
  have hfirst := idle_payAwt hfirst
  have hthird := idle_payAwt hthird
  have hcode : first.inviteCode = s.inviteCode := by rw [hfirst]
  have hrecords : first.inviteRecords = s.inviteRecords := by rw [hfirst]
  refine ⟨?_, fun hnone => ?_, fun invitor hsome => ?_⟩
  · rw [hthird, payInvitor_frame hsecond, hfirst]
    rfl
  · rw [hthird, payInvitor_of_none hnone hsecond]
    exact ⟨hcode, hrecords⟩
  · obtain ⟨hcode', hrecords'⟩ := payInvitor_of_some hsome hsecond
    rw [hcode] at hcode'
    rw [hrecords] at hrecords'
    rw [hthird]
    exact ⟨hcode', hrecords'⟩

/-! ### The totals are kept -/

/-- What the pallet has counted is what the books say. -/
structure Credited (s : State cfg) (b : Books) : Prop where
  inviteCode : Holds s.inviteCode (b.sales.filterMap Sale.commission)
  inviteRecords : ∀ who, (s.inviteRecords who).getD false = true ↔ ∃ x ∈ b.sales, x.buyer = who ∧ x.invitor.isSome
  bettingInviteAmount : Holds s.bettingInviteAmount b.bets
  tickets : ∀ id season, s.seasons id = some season → season.totalTickets = total (b.sales.map Sale.forSeason) id
  present : ∀ x ∈ b.sales, (s.seasons x.season).isSome

variable {b b' : Books}

/-- Nothing is sold: seasons may change, or there is a new one, for which nothing was sold before. -/
theorem Credited.seasons_kept (hinv : Credited s b) (hseasons : SeasonsKept s s') :
    (∀ id season, s'.seasons id = some season → season.totalTickets = total (b.sales.map Sale.forSeason) id) ∧
      ∀ x ∈ b.sales, (s'.seasons x.season).isSome := by
  refine ⟨fun id season' hseason' => ?_, fun x hx => hseasons.present _ (hinv.present x hx)⟩
  rcases hseasons.sold id season' hseason' with ⟨season, hseason, htickets⟩ | ⟨hnone, htickets⟩
  · rw [htickets, hinv.tickets id season hseason]
  · rw [htickets, total_eq_zero]
    rintro e he rfl
    obtain ⟨x, hx, rfl⟩ := List.mem_map.mp he
    have hsome := hinv.present x hx
    rw [Sale.forSeason] at hnone
    rw [hnone] at hsome
    exact Bool.false_ne_true hsome

/-- Neither a sale nor a bet with a code is made. -/
theorem Credited.unsold (hinv : Credited s b) (hsales : b'.sales = b.sales) (hbets : b'.bets = b.bets)
    (hcode : s'.inviteCode = s.inviteCode) (hrecords : s'.inviteRecords = s.inviteRecords)
    (hamount : s'.bettingInviteAmount = s.bettingInviteAmount) (hseasons : SeasonsKept s s') : Credited s' b' := by
  have hkept := hinv.seasons_kept hseasons
  constructor
  · rw [hcode, hsales]
    exact hinv.inviteCode
  · rw [hrecords, hsales]
    exact hinv.inviteRecords
  · rw [hamount, hbets]
    exact hinv.bettingInviteAmount
  · rw [hsales]
    exact hkept.1
  · rw [hsales]
    exact hkept.2

theorem Credited.buyTicket (hinv : Credited s b) {amount : U32} {inviteCode : List UInt8} {season : Season}
    (hseason : s.seasons s.defaultSeason = some season)
    (h : AbyssTournament.buyTicket (.signed who) amount inviteCode s = .ok s')
    (hsales : b'.sales = b.sales ++ [⟨s.defaultSeason, who, amount, season.ticketPrice * amount.setWidth 128,
      invitorOf cfg who inviteCode⟩]) (hbets : b'.bets = b.bets) : Credited s' b' := by
  obtain ⟨hseasons, hnone, hsome⟩ := buyTicket_credits hseason h
  have hframe := buyTicket_frame h
  refine ⟨?_, fun a => ?_, ?_, fun id season' hid => ?_, fun x hx => ?_⟩
  · rw [hsales, List.filterMap_append]
    cases hcode : invitorOf cfg who inviteCode with
    | none =>
        rw [(hnone hcode).1]
        exact (List.append_nil _).symm ▸ hinv.inviteCode
    | some invitor =>
        rw [(hsome invitor hcode).1]
        exact hinv.inviteCode.add invitor (1, season.ticketPrice * amount.setWidth 128 * 5 / 100)
  · simp only [hsales, List.mem_append, List.mem_singleton, or_and_right, exists_or, exists_eq_left]
    rw [← hinv.inviteRecords a]
    cases hcode : invitorOf cfg who inviteCode with
    | none =>
        rw [(hnone hcode).2]
        simp
    | some invitor =>
        rw [(hsome invitor hcode).2, StorageMap.insert_apply]
        by_cases ha : a = who
        · rw [if_pos ha]
          exact iff_of_true rfl (.inr ⟨ha.symm, rfl⟩)
        · rw [if_neg ha]
          exact ⟨.inl, fun hboth => hboth.resolve_right fun heq => ha heq.1.symm⟩
  · rw [hframe, hbets]
    exact hinv.bettingInviteAmount
  · rw [hseasons] at hid
    rw [hsales, List.map_append, List.map_singleton, total_append, total_singleton]
    rcases StorageMap.insert_eq_some hid with ⟨rfl, rfl⟩ | ⟨hne, hid⟩
    · rw [← hinv.tickets _ season hseason]
      exact congrArg (season.totalTickets + ·) (if_pos rfl).symm
    · rw [← hinv.tickets id season' hid]
      exact (congrArg (season'.totalTickets + ·) (if_neg fun heq => hne heq.symm)).trans (add_zero _) |>.symm
  · rw [hseasons, StorageMap.insert_apply]
    split
    · rfl
    · rename_i hne
      rw [hsales] at hx
      rcases List.mem_append.mp hx with hx | hx
      · exact hinv.present x hx
      · obtain rfl := List.mem_singleton.mp hx
        exact absurd rfl hne

theorem Credited.goBetWithInvite (hinv : Credited s b) {itemIndex : SelectIndex} {amount : U128}
    {inviteCode : List UInt8} {betting : Betting} (hbetting : s.bettings id = some betting)
    (h : AbyssTournament.goBetWithInvite (.signed who) id itemIndex amount inviteCode s = .ok s')
    (hsales : b'.sales = b.sales) (hbets : b'.bets = b.bets ++ ((invitorOf cfg who inviteCode).map fun invitor =>
      (((betting.season, invitor), betting.tokenId), amount)).toList) : Credited s' b' := by
  obtain ⟨_, hbetting', hcredited⟩ := goBetWithInvite_credits h
  obtain rfl := Option.some.inj (hbetting.symm.trans hbetting')
  have hframe := @dispatch_frame _ _ _ _ (.goBetWithInvite id itemIndex amount inviteCode) rfl h
  have hseasons : s'.seasons = s.seasons := by rw [hframe]
  have hkept := hinv.seasons_kept (.of_eq hseasons)
  constructor
  · rw [hframe, hsales]
    exact hinv.inviteCode
  · rw [hframe, hsales]
    exact hinv.inviteRecords
  · rw [hcredited, hbets]
    cases invitorOf cfg who inviteCode with
    | none => exact (List.append_nil b.bets).symm ▸ hinv.bettingInviteAmount
    | some invitor => exact hinv.bettingInviteAmount.add _ amount
  · rw [hsales]
    exact hkept.1
  · rw [hsales]
    exact hkept.2

end

/-! ### In every run -/

section

variable {cfg : SwapConfig} {s s' s₀ : State cfg.toConfig} {c : TournamentCall} {origin : Origin} {b : Books}

def TournamentCall.Fresh (s : State cfg.toConfig) : TournamentCall → Prop
  | .onPallet (.onSeason c) => c.Fresh s
  | _ => True

theorem Credited.onBetting {c : Call} {hc : c.battle? = none} (hinv : Credited s b) (h : dispatch origin s c = .ok s') :
    Credited s' (b.book origin s (.onPallet (.onBetting c hc))) := by
  have hframe := dispatch_frame hc h
  have hunsold : TournamentCall.bet? origin s (.onPallet (.onBetting c hc)) = none →
      s'.bettingInviteAmount = s.bettingInviteAmount →
        Credited s' (b.book origin s (.onPallet (.onBetting c hc))) := by
    intro hbet hamount
    refine hinv.unsold (List.append_nil _) ?_ (by rw [hframe]) (by rw [hframe]) hamount (.of_eq (by rw [hframe]))
    rw [Books.book, hbet]
    exact List.append_nil _
  cases c with
  | createBetting bettingType battles odditemParams seasonId pledgeAmount =>
      obtain ⟨betting, paid, -, -, -, -, -, -, hs'⟩ := createBetting_eq_ok h
      exact hunsold rfl (by rw [hs'])
  | goBet bettingId itemIndex amount =>
      obtain ⟨who, betting, -, hbet⟩ := goBet_eq_ok h
      obtain ⟨item, paid, -, -, -, -, hs'⟩ := bet_eq_ok hbet
      exact hunsold rfl (by rw [hs'])
  | goBetWithInvite bettingId itemIndex amount inviteCode =>
      obtain ⟨who, betting, mid, rfl, hbet, -⟩ := goBetWithInvite_eq_ok h
      obtain ⟨item, paid, hbetting, -, -, -, -⟩ := bet_eq_ok hbet
      refine hinv.goBetWithInvite hbetting h (List.append_nil _) ?_
      simp only [Books.book, TournamentCall.bet?, hbetting]
  | appendBettingPledge bettingId amount =>
      obtain ⟨who, betting, paid, -, -, -, hs'⟩ := appendBettingPledge_eq_ok h
      exact hunsold rfl (by rw [hs'])
  | updateOdds bettingId odds =>
      obtain ⟨betting, items, -, -, hs'⟩ := updateOdds_eq_ok h
      exact hunsold rfl (by rw [hs'])
  | dropBetting bettingId =>
      obtain ⟨betting, value, paid, -, -, hs'⟩ := dropBetting_eq_ok h
      exact hunsold rfl (by rw [hs'])
  | revokeRemainCompensate bettingId =>
      obtain ⟨betting, hitIndex, item, -, -, -, -, ⟨-, rfl⟩ | ⟨-, paid, -, hs'⟩⟩ := revokeRemainCompensate_eq_ok h
      · exact hunsold rfl rfl
      · exact hunsold rfl (by rw [hs'])
  | bettingClaim bettingId =>
      obtain ⟨who, betting, hitIndex, -, -, -, -, -, hs'⟩ := bettingClaim_eq_ok h
      exact hunsold rfl (by rw [hs'])
  | setResult | finalsSettle | leagueSettle => exact absurd hc (by simp [Call.battle?])

theorem Credited.onSeason {c : SeasonCall} (hinv : Credited s b) (hfresh : c.Fresh s) (h : c.perform origin s = .ok s') :
    Credited s' (b.book origin s (.onPallet (.onSeason c))) := by
  by_cases hbuy : ∃ amount inviteCode, c = .buyTicket amount inviteCode
  · obtain ⟨amount, inviteCode, rfl⟩ := hbuy
    obtain ⟨who, season, rfl, hseason⟩ := exists_of_buyTicket h
    refine hinv.buyTicket hseason h ?_ (List.append_nil _)
    simp only [Books.book, TournamentCall.sale?, hseason, Option.toList_some]
  · have hseasons : SeasonsKept s s' :=
      seasonsKept_of_perform (fun amount inviteCode heq => hbuy ⟨amount, inviteCode, heq⟩) hfresh h
    have hsales : (b.book origin s (.onPallet (.onSeason c))).sales = b.sales := by
      cases c <;> first | exact List.append_nil _ | exact absurd ⟨_, _, rfl⟩ hbuy
    cases hpays : c.pays with
    | false =>
        have haside := aside_of_perform hpays h
        exact hinv.unsold hsales (List.append_nil _) haside.inviteCode haside.inviteRecords haside.bettingInviteAmount
          hseasons
    | true =>
        cases c with
        | transferTicket seasonId tickets target =>
            have hframe := transferTicket_frame h
            exact hinv.unsold hsales (List.append_nil _) (by rw [hframe]) (by rw [hframe]) (by rw [hframe]) hseasons
        | buyTicket amount inviteCode => exact absurd ⟨amount, inviteCode, rfl⟩ hbuy
        | claim seasonId =>
            simp only [SeasonCall.perform, AbyssTournament.claim, bind_eq_ok, pure_eq_ok] at h
            obtain ⟨who, -, season, -, _, -, _, -, total, -, mid, hmid, rfl⟩ := h
            have hframe := idle_payAwt hmid
            refine hinv.unsold hsales (List.append_nil _) ?_ ?_ ?_ hseasons
            · rw [hframe]
            · rw [hframe]
            · rw [hframe]
        | _ => exact absurd hpays (by simp [SeasonCall.pays])

theorem Credited.perform (hinv : Credited s b) (hfresh : c.Fresh s) (h : c.perform origin s = .ok s') :
    Credited s' (b.book origin s c) := by
  have hasset : ∀ {c : TournamentCall}, c.sale? origin s = none → c.bet? origin s = none →
      s' = { s with asset := s'.asset } → Credited s' (b.book origin s c) := by
    intro c hsale hbet hframe
    refine hinv.unsold ?_ ?_ (by rw [hframe]) (by rw [hframe]) (by rw [hframe]) (.of_eq (by rw [hframe]))
    · rw [Books.book, hsale]
      exact List.append_nil _
    · rw [Books.book, hbet]
      exact List.append_nil _
  cases c with
  | onPallet c =>
      cases c with
      | onBetting c hc => exact hinv.onBetting h
      | onSeason c => exact hinv.onSeason hfresh h
      | updateBattle battleId seasonId battleType home visiting startTimeStr =>
          simp only [TournamentCall.perform, AnyCall.run, updateBattle, bind_eq_ok, pure_eq_ok] at h
          obtain ⟨_, -, season, -, _, -, _, -, startTime, -, _, -, _, -, rfl⟩ := h
          exact hinv.unsold (List.append_nil _) (List.append_nil _) rfl rfl rfl (.of_eq rfl)
  | giveAwayFee addrs => exact hasset rfl rfl (giveAwayFee_frame h)
  | withdrawSeasonTreasury seasonId target amount =>
      simp only [TournamentCall.perform, withdrawSeasonTreasury, bind_eq_ok] at h
      obtain ⟨_, -, season, -, hpaid⟩ := h
      exact hasset rfl rfl (idle_payAwt hpaid)
  | deposit target awt rId =>
      simp only [TournamentCall.perform, deposit, bind_eq_ok] at h
      obtain ⟨_, -, tokenId, -, h⟩ := h
      exact hasset rfl rfl (mintTo_frame h)
  | swap target amt rId prices => exact hasset rfl rfl (swap_frame h)

theorem Credited.step {p p' : State cfg.toConfig × Books} (hinv : Credited p.1 p.2)
    (h : BookedStep (fun s _ c => c.Fresh s) (fun _ _ => True) p p') : Credited p'.1 p'.2 := by
  cases h with
  | call origin c hfresh h => exact hinv.perform hfresh h
  | outside => exact ⟨hinv.inviteCode, hinv.inviteRecords, hinv.bettingInviteAmount, hinv.tickets, hinv.present⟩

/-- No code was used yet, and there is no season. -/
structure Unused (s : State cfg.toConfig) : Prop where
  seasons : ∀ id, s.seasons id = none
  inviteCode : ∀ who, s.inviteCode who = none
  inviteRecords : ∀ who, s.inviteRecords who = none
  bettingInviteAmount : ∀ key, s.bettingInviteAmount key = none

theorem credited_of_unused (h : Unused s) : Credited s .blank := by
  refine ⟨.empty h.inviteCode, fun who => ?_, .empty h.bettingInviteAmount, fun id season hseason => ?_, fun x hx => ?_⟩
  · rw [h.inviteRecords]
    simp [Books.blank]
  · exact absurd ((h.seasons id).symm.trans hseason) (by simp)
  · exact absurd hx List.not_mem_nil

theorem credited_of_run (hunused : Unused s₀) {p : State cfg.toConfig × Books}
    (hrun : Relation.ReflTransGen (BookedStep (fun s _ c => c.Fresh s) fun _ _ => True) (s₀, .blank) p) :
    Credited p.1 p.2 := by
  induction hrun with
  | refl => exact credited_of_unused hunused
  | tail _ hlast ih => exact ih.step hlast

/-- In every run in which no season takes the id of another, a season counts the tickets of its sales; an account is
credited the number of the sales with its code and the sum of its parts, and what was bet with its code in a season in
each token; and those are recorded who bought with the code of somebody else. -/
theorem sales_credited (hunused : Unused s₀)
    (hrun : Relation.ReflTransGen (BookedStep (fun s _ c => c.Fresh s) fun _ _ => True) (s₀, .blank) (s, b)) :
    (∀ id season, s.seasons id = some season → season.totalTickets = total (b.sales.map Sale.forSeason) id) ∧
    (∀ invitor, (s.inviteCode invitor).getD (0, 0) = total (b.sales.filterMap Sale.commission) invitor) ∧
    (∀ key, (s.bettingInviteAmount key).getD 0 = total b.bets key) ∧
    ∀ who, (s.inviteRecords who).getD false = true ↔ ∃ x ∈ b.sales, x.buyer = who ∧ x.invitor.isSome := by
  have hinv := credited_of_run hunused hrun
  exact ⟨hinv.tickets, hinv.inviteCode, hinv.bettingInviteAmount, hinv.inviteRecords⟩

end

/-- Alice buys tickets, and bets, with the code of the organizer. -/
def invitedCalls : List (Origin × TournamentCall) :=
  [(.signed organizer, .onPallet (.onSeason (.setDefaultSeason 1))),
    (.signed organizer, .onPallet (.onSeason (.createBattle 1 .finals 1 2 [1]))),
    (.signed organizer, .onPallet (.onBetting (.createBetting .winLose [1] [] 1 1000) rfl)),
    (.signed Token.alice, .onPallet (.onSeason (.buyTicket 2 (addrToInviteCode plainConfig organizer)))),
    (.signed Token.alice, .onPallet (.onBetting (.goBetWithInvite 1 0 100 (addrToInviteCode plainConfig organizer)) rfl))]

def bothFunded : State plainSwapConfig.toConfig :=
  emptyState plainConfig (.genesis fun a => if a = Token.alice ∨ a = organizer then (10 ^ 30, 0) else (0, 0))

theorem steps_of_invitedCalls {s : State plainSwapConfig.toConfig} {b b' : Books} {c : TournamentCall}
    {s' : State plainSwapConfig.toConfig} (h : c.perform (.signed organizer) s = .ok s') (hfresh : c.Fresh s)
    {p : State plainSwapConfig.toConfig × Books} (hb : b' = b.book (.signed organizer) s c)
    (hplay : playSeason invitedCalls (s', b') = .ok p) :
    Relation.ReflTransGen (BookedStep (fun s _ c => c.Fresh s) fun _ _ => True) (s, b) p := by
  subst hb
  refine (Relation.ReflTransGen.single (.call _ c hfresh h)).trans (steps_of_playSeason (fun x hx s => ?_) hplay)
  simp only [invitedCalls, List.mem_cons, List.not_mem_nil, or_false] at hx
  rcases hx with rfl | rfl | rfl | rfl | rfl <;> trivial

theorem sales_credited_organizer : ∃ s : State plainSwapConfig.toConfig,
    (s.seasons 1).map Season.totalTickets = some 2 ∧
      (s.inviteCode organizer).getD (0, 0) = (1, 100000000000000000) ∧
      (s.bettingInviteAmount ((1, organizer), 0)).getD 0 = 100 ∧ (s.inviteRecords Token.alice).getD false = true := by
  obtain ⟨⟨s₁, s, b⟩, hrun, hcheck⟩ := exists_of_succeedsWith
    (x := do
      let c : TournamentCall := .onPallet (.onSeason (.createSeason [1] .finals 1000000000000000001))
      let s₁ ← c.perform (.signed organizer) bothFunded
      let p ← playSeason invitedCalls (s₁, .blank)
      return (s₁, p))
    (p := fun x => decide (total (x.2.2.sales.map Sale.forSeason) 1 = 2) &&
      decide (total (x.2.2.sales.filterMap Sale.commission) organizer = (1, 100000000000000000)) &&
      decide (total x.2.2.bets ((1, organizer), 0) = 100) && (x.2.1.seasons 1).isSome &&
      decide (x.2.2.sales.map (fun x => (x.buyer, x.invitor)) = [(Token.alice, some organizer)])) (by decide +kernel)
  simp only [Bool.and_eq_true, decide_eq_true_eq] at hcheck
  obtain ⟨⟨⟨⟨htickets, hcommission⟩, hbets⟩, hseason⟩, hsales⟩ := hcheck
  simp only [bind_eq_ok, pure_eq_ok, Prod.mk.injEq] at hrun
  obtain ⟨_, hcreate, p, hplay, rfl, rfl⟩ := hrun
  obtain ⟨season, hseason⟩ := Option.isSome_iff_exists.mp hseason
  have hunused : Unused bothFunded := ⟨fun _ => rfl, fun _ => rfl, fun _ => rfl, fun _ => rfl⟩
  have hall := sales_credited hunused (steps_of_invitedCalls hcreate rfl rfl hplay)
  refine ⟨s, ?_, (hall.2.1 organizer).trans hcommission, (hall.2.2.1 _).trans hbets,
    (hall.2.2.2 Token.alice).mpr ?_⟩
  · rw [hseason, Option.map_some, hall.1 1 season hseason, htickets]
  · obtain ⟨x, hx, heq⟩ := List.mem_map.mp (hsales ▸ List.mem_singleton_self (Token.alice, some organizer))
    obtain ⟨hbuyer, hinvitor⟩ := Prod.mk.inj heq
    exact ⟨x, hx, hbuyer, by rw [hinvitor]; rfl⟩

end Fusotao.AbyssTournament
