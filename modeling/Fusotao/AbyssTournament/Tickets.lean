import Fusotao.Token.Transfer
import Fusotao.AbyssTournament.Ballots

/-!
# Tickets

Tickets are bought, given away and transferred, and ballots take them. As long as no count of tickets and no price
wraps, the tickets of an account are those that remain and those on its ballots.
-/

namespace Fusotao.AbyssTournament

open Exec
open Token (freeBalance)

open scoped BigOperators

variable {cfg : Config} {s s' : State cfg} {who target : AccountId} {seasonId : SeasonId} {origin : Origin}
  {c : SeasonCall} {amount : U32}

/-! ### Tickets and ballots -/

def ballotTickets (ballots : List VoteSelectInfo) : Nat :=
  (ballots.map fun ballot => ballot.ticketAmount.toNat).sum

/-- What an account got is what remains, and what it voted with. -/
def Conserved (s : State cfg) : Prop :=
  ∀ seasonId who, (ticketsOf seasonId who s).1.toNat =
    (ticketsOf seasonId who s).2.toNat + ballotTickets (votesOf who seasonId s).1

/-- The tickets of all accounts. -/
def totals (seasonId : SeasonId) (s : State cfg) : Nat :=
  ∑ a, (ticketsOf seasonId a s).1.toNat

theorem ballotTickets_append (x y : List VoteSelectInfo) :
    ballotTickets (x ++ y) = ballotTickets x + ballotTickets y := by
  rw [ballotTickets, List.map_append, List.sum_append]
  rfl

/-- A ballot is replaced by another one. -/
theorem ballotTickets_set {ballots : List VoteSelectInfo} {i : Nat} {old : VoteSelectInfo} (new : VoteSelectInfo)
    (h : ballots[i]? = some old) :
    ballotTickets (ballots.set i new) + old.ticketAmount.toNat = ballotTickets ballots + new.ticketAmount.toNat := by
  induction ballots generalizing i with
  | nil => exact absurd h (by simp)
  | cons ballot ballots ih =>
      cases i with
      | zero =>
          obtain rfl := Option.some.inj h
          simp only [ballotTickets, List.set_cons_zero, List.map_cons, List.sum_cons]
          omega
      | succ i =>
          have hrest := ih h
          simp only [ballotTickets, List.set_cons_succ, List.map_cons, List.sum_cons] at hrest ⊢
          omega

theorem ticketsOf_insert {v : U32 × U32} (h : s'.tickets = s.tickets.insert (seasonId, who) v) (seasonId' : SeasonId)
    (who' : AccountId) : ticketsOf seasonId' who' s' =
      if (seasonId', who') = (seasonId, who) then v else ticketsOf seasonId' who' s := by
  rw [ticketsOf, h, StorageMap.insert_apply]
  split <;> rfl

theorem Conserved.of_same (hinv : Conserved s) (htickets : s'.tickets = s.tickets)
    (hballots : ∀ who seasonId, (votesOf who seasonId s').1 = (votesOf who seasonId s).1) : Conserved s' := by
  intro seasonId who
  rw [ticketsOf, htickets, hballots]
  exact hinv seasonId who

/-- The tickets of one account change, and its ballots with them. -/
theorem Conserved.insert (hinv : Conserved s) {v : U32 × U32}
    (htickets : s'.tickets = s.tickets.insert (seasonId, who) v)
    (hballots : ∀ who' seasonId', (who', seasonId') ≠ (who, seasonId) →
      (votesOf who' seasonId' s').1 = (votesOf who' seasonId' s).1)
    (h : v.1.toNat = v.2.toNat + ballotTickets (votesOf who seasonId s').1) : Conserved s' := by
  intro seasonId' who'
  rw [ticketsOf_insert htickets]
  split
  · rename_i heq
    obtain ⟨rfl, rfl⟩ := Prod.mk.inj heq
    exact h
  · rename_i hne
    rw [hballots who' seasonId' fun heq => hne (by rw [(Prod.mk.inj heq).1, (Prod.mk.inj heq).2])]
    exact hinv seasonId' who'

theorem totals_insert {total remain : U32} (h : s'.tickets = s.tickets.insert (seasonId, who) (total, remain))
    (seasonId' : SeasonId) :
    totals seasonId' s' + (if seasonId' = seasonId then (ticketsOf seasonId who s).1.toNat else 0) =
      totals seasonId' s + if seasonId' = seasonId then total.toNat else 0 := by
  by_cases hseason : seasonId' = seasonId
  · subst hseason
    rw [if_pos rfl, if_pos rfl, totals, totals,
      ← sum_update_add (fun a => (ticketsOf seasonId' a s).1.toNat) who total.toNat]
    refine congrArg (· + (ticketsOf seasonId' who s).1.toNat) (Finset.sum_congr rfl fun a _ => ?_)
    rw [ticketsOf_insert h, Function.update_apply]
    by_cases ha : a = who
    · rw [if_pos (by rw [ha]), if_pos ha]
    · rw [if_neg fun heq => ha (Prod.mk.inj heq).2, if_neg ha]
  · rw [if_neg hseason, if_neg hseason]
    refine congrArg (· + 0) (Finset.sum_congr rfl fun a _ => ?_)
    rw [ticketsOf_insert h, if_neg fun heq => hseason (Prod.mk.inj heq).1]

/-! ### More tickets -/

theorem ticketsOf_addTickets (seasonId' : SeasonId) (who' : AccountId) :
    ticketsOf seasonId' who' (addTickets seasonId who amount s) = if (seasonId', who') = (seasonId, who) then
      ((ticketsOf seasonId who s).1 + amount, (ticketsOf seasonId who s).2 + amount) else ticketsOf seasonId' who' s :=
  ticketsOf_insert rfl seasonId' who'

theorem Conserved.addTickets (hinv : Conserved s) (hroom : (ticketsOf seasonId who s).1.toNat + amount.toNat < 2 ^ 32) :
    Conserved (addTickets seasonId who amount s) := by
  have hwho := hinv seasonId who
  have htotal : ((ticketsOf seasonId who s).1 + amount).toNat = (ticketsOf seasonId who s).1.toNat + amount.toNat :=
    BitVec.toNat_add_of_lt hroom
  have hremain : ((ticketsOf seasonId who s).2 + amount).toNat = (ticketsOf seasonId who s).2.toNat + amount.toNat :=
    BitVec.toNat_add_of_lt (by omega)
  refine @Conserved.insert _ s _ who seasonId hinv
    ((ticketsOf seasonId who s).1 + amount, (ticketsOf seasonId who s).2 + amount) rfl (fun _ _ _ => rfl) ?_
  calc ((ticketsOf seasonId who s).1 + amount).toNat
      = (ticketsOf seasonId who s).1.toNat + amount.toNat := htotal
    _ = ((ticketsOf seasonId who s).2 + amount).toNat + ballotTickets (votesOf who seasonId s).1 := by omega

theorem eq_add_ite {x y a b : Nat} {p : Prop} [Decidable p]
    (h : x + (if p then a else 0) = y + if p then a + b else 0) : x = y + if p then b else 0 := by
  split at h
  · rename_i hp
    rw [if_pos hp]
    omega
  · rename_i hp
    rw [if_neg hp]
    omega

theorem totals_addTickets (hroom : (ticketsOf seasonId who s).1.toNat + amount.toNat < 2 ^ 32)
    (seasonId' : SeasonId) : totals seasonId' (addTickets seasonId who amount s) =
      totals seasonId' s + if seasonId' = seasonId then amount.toNat else 0 := by
  have hinsert := @totals_insert cfg s (addTickets seasonId who amount s) who seasonId
    ((ticketsOf seasonId who s).1 + amount) ((ticketsOf seasonId who s).2 + amount) rfl seasonId'
  rw [BitVec.toNat_add_of_lt hroom] at hinsert
  exact eq_add_ite hinsert

/-- Each account of a list gets a ticket. -/
theorem Conserved.foldl_addTickets {addrs : List (List UInt8)} (hinv : Conserved s)
    (hroom : ∀ a ∈ addrs, (ticketsOf seasonId (toAccountId a) s).1.toNat +
      (addrs.map toAccountId).count (toAccountId a) < 2 ^ 32) :
    Conserved (addrs.foldl (fun s a => AbyssTournament.addTickets seasonId (toAccountId a) 1 s) s) := by
  induction addrs generalizing s with
  | nil => exact hinv
  | cons a addrs ih =>
      have hfirst := hroom a List.mem_cons_self
      rw [List.map_cons, List.count_cons_self] at hfirst
      have hone : (ticketsOf seasonId (toAccountId a) s).1.toNat + (1 : U32).toNat < 2 ^ 32 := by
        have : (1 : U32).toNat = 1 := rfl
        omega
      rw [List.foldl_cons]
      refine ih (hinv.addTickets hone) fun b hb => ?_
      have hroom := hroom b (List.mem_cons_of_mem _ hb)
      rw [ticketsOf_addTickets]
      by_cases hsame : toAccountId b = toAccountId a
      · rw [hsame, if_pos rfl]
        dsimp only
        rw [BitVec.toNat_add_of_lt hone]
        have : (1 : U32).toNat = 1 := rfl
        omega
      · rw [if_neg fun heq => hsame (Prod.mk.inj heq).2]
        rw [List.map_cons, List.count_cons_of_ne (Ne.symm hsame)] at hroom
        exact hroom

/-! ### A transfer -/

/-- Some tickets leave an account that has as many. -/
theorem Conserved.withdraw (hinv : Conserved s) (htotal : amount ≤ (ticketsOf seasonId who s).1)
    (hremain : amount ≤ (ticketsOf seasonId who s).2) : Conserved { s with
      tickets := s.tickets.insert (seasonId, who)
        ((ticketsOf seasonId who s).1 - amount, (ticketsOf seasonId who s).2 - amount) } := by
  have hwho := hinv seasonId who
  have hfirst := BitVec.toNat_sub_of_le htotal
  have hsecond := BitVec.toNat_sub_of_le hremain
  have hle : amount.toNat ≤ (ticketsOf seasonId who s).2.toNat := hremain
  refine @Conserved.insert _ s _ who seasonId hinv
    ((ticketsOf seasonId who s).1 - amount, (ticketsOf seasonId who s).2 - amount) rfl (fun _ _ _ => rfl) ?_
  calc ((ticketsOf seasonId who s).1 - amount).toNat
      = (ticketsOf seasonId who s).1.toNat - amount.toNat := hfirst
    _ = ((ticketsOf seasonId who s).2 - amount).toNat + ballotTickets (votesOf who seasonId s).1 := by omega

theorem add_ite_eq {x y a b : Nat} {p : Prop} [Decidable p] (hle : b ≤ a)
    (h : x + (if p then a else 0) = y + if p then a - b else 0) : x + (if p then b else 0) = y := by
  split at h
  · rename_i hp
    rw [if_pos hp]
    omega
  · rename_i hp
    rw [if_neg hp]
    omega

/-- What leaves one account arrives at the other. -/
theorem transferTicket_keeps (hroom : target ≠ who → (ticketsOf seasonId target s).1.toNat + amount.toNat < 2 ^ 32)
    (h : transferTicket (.signed who) seasonId amount target s = .ok s') :
    (Conserved s → Conserved s') ∧ ∀ seasonId', totals seasonId' s' = totals seasonId' s := by
  simp only [transferTicket, bind_eq_ok, ensureSigned_eq_ok, ensure_eq_ok, exists_const] at h
  obtain ⟨_, hwho, ⟨htotal, hremain, -⟩, h⟩ := h
  obtain rfl := Origin.signed.inj hwho
  let mid : State cfg := { s with
    tickets := s.tickets.insert (seasonId, who)
      ((ticketsOf seasonId who s).1 - amount, (ticketsOf seasonId who s).2 - amount) }
  have hdonate : s' = { addTickets seasonId target amount mid with asset := s'.asset } := donate_frame h
  have hsub : ((ticketsOf seasonId who s).1 - amount).toNat = (ticketsOf seasonId who s).1.toNat - amount.toNat :=
    BitVec.toNat_sub_of_le htotal
  have hle : amount.toNat ≤ (ticketsOf seasonId who s).1.toNat := htotal
  have hfits : (ticketsOf seasonId target mid).1.toNat + amount.toNat < 2 ^ 32 := by
    rw [@ticketsOf_insert cfg s mid who seasonId _ rfl]
    by_cases hself : target = who
    · have hlt := (ticketsOf seasonId who s).1.isLt
      rw [if_pos (by rw [hself]), hsub]
      omega
    · rw [if_neg fun heq => hself (Prod.mk.inj heq).2]
      exact hroom hself
  refine ⟨fun hinv => ?_, fun seasonId' => ?_⟩
  · have hafter : Conserved (addTickets seasonId target amount mid) :=
      (hinv.withdraw htotal hremain).addTickets hfits
    rw [hdonate]
    exact hafter
  · have hless := @totals_insert cfg s mid who seasonId ((ticketsOf seasonId who s).1 - amount)
      ((ticketsOf seasonId who s).2 - amount) rfl seasonId'
    rw [hsub] at hless
    have hmore : totals seasonId' s' = totals seasonId' (addTickets seasonId target amount mid) :=
      Finset.sum_congr rfl fun a _ => by
        rw [ticketsOf, congrArg State.tickets hdonate]
        rfl
    rw [hmore, totals_addTickets hfits]
    exact add_ite_eq hle hless

/-! ### Every call keeps the tickets -/

/-- No count of tickets and no price wraps. -/
def SeasonCall.Room (s : State cfg) (origin : Origin) : SeasonCall → Prop
  | .buyTicket amount _ => ∀ who season, origin = .signed who → s.seasons s.defaultSeason = some season →
      (ticketsOf s.defaultSeason who s).1.toNat + amount.toNat < 2 ^ 32 ∧
        season.ticketPrice.toNat * amount.toNat < 2 ^ 128
  | .giveAwayTickets seasonId addrs => ∀ v, cfg.decodeAddrs addrs = some v → ∀ a ∈ v,
      (ticketsOf seasonId (toAccountId a) s).1.toNat + (v.map toAccountId).count (toAccountId a) < 2 ^ 32
  | .transferTicket seasonId tickets target => ∀ who, origin = .signed who → target ≠ who →
      (ticketsOf seasonId target s).1.toNat + tickets.toNat < 2 ^ 32
  | _ => True

theorem tickets_of_buyTicket {inviteCode : List UInt8} (h : buyTicket (.signed who) amount inviteCode s = .ok s') :
    s'.tickets = (addTickets s.defaultSeason who amount s).tickets ∧ s'.voteSelectInfos = s.voteSelectInfos := by
  simp only [buyTicket, bind_eq_ok, ensureSigned_eq_ok, pure_eq_ok, Prod.exists] at h
  obtain ⟨_, hwho, season, -, _, -, _, -, _, -, first, hfirst, part, second, hsecond, third, hthird, rfl⟩ := h
  obtain rfl := Origin.signed.inj hwho
  rw [idle_payAwt hthird, payInvitor_frame hsecond, idle_payAwt hfirst]
  exact ⟨rfl, rfl⟩

theorem finalsSettle_frame {battleId : BattleId} (h : finalsSettle origin battleId s = .ok s') :
    s'.tickets = s.tickets ∧ s'.voteSelectInfos = s.voteSelectInfos := by
  obtain ⟨battle, diff, winner, loser, -, -, -, hs'⟩ := finalsSettle_eq_ok h
  rw [hs']
  exact ⟨rfl, rfl⟩

theorem leagueSettle_frame {battleId : BattleId} (h : leagueSettle origin battleId s = .ok s') :
    s'.tickets = s.tickets ∧ s'.voteSelectInfos = s.voteSelectInfos := by
  obtain ⟨battle, diff, winner, loser, -, -, -, hs'⟩ := leagueSettle_eq_ok h
  rw [hs']
  exact ⟨rfl, rfl⟩

/-- The ballots of one account change, but not the tickets on them. -/
theorem Conserved.vote (hinv : Conserved s) {ballots : List VoteSelectInfo} {claimed : Bool}
    (htickets : s'.tickets = s.tickets)
    (hinfos : s'.voteSelectInfos = s.voteSelectInfos.insert (who, seasonId) (ballots, claimed))
    (h : ballotTickets ballots = ballotTickets (votesOf who seasonId s).1) : Conserved s' := by
  intro seasonId' who'
  rw [ticketsOf, htickets, votesOf_insert hinfos]
  split
  · rename_i heq
    obtain ⟨rfl, rfl⟩ := Prod.mk.inj heq
    rw [h]
    exact hinv seasonId' who'
  · exact hinv seasonId' who'

theorem Conserved.perform (hinv : Conserved s) (hroom : c.Room s origin) (h : c.perform origin s = .ok s') :
    Conserved s' := by
  cases c with
  | createSeason date battleType price =>
      simp only [SeasonCall.perform, createSeason, bind_eq_ok, pure_eq_ok] at h
      obtain ⟨_, -, _, -, _, -, rfl⟩ := h
      exact hinv
  | updateSeason seasonId date battleType price =>
      simp only [SeasonCall.perform, updateSeason, bind_eq_ok, pure_eq_ok] at h
      obtain ⟨_, -, _, -, _, -, _, -, rfl⟩ := h
      exact hinv
  | setDefaultSeason seasonId =>
      simp only [SeasonCall.perform, setDefaultSeason, bind_eq_ok, pure_eq_ok] at h
      obtain ⟨_, -, _, -, rfl⟩ := h
      exact hinv
  | createBattle seasonId battleType home visiting date =>
      simp only [SeasonCall.perform, createBattle, bind_eq_ok, pure_eq_ok] at h
      obtain ⟨_, -, season, -, _, -, _, -, startTime, -, _, -, _, -, rfl⟩ := h
      exact hinv
  | giveAwayTickets seasonId addrs =>
      simp only [SeasonCall.perform, giveAwayTickets, bind_eq_ok, okOr_eq_ok, pure_eq_ok] at h
      obtain ⟨_, -, v, hv, rfl⟩ := h
      exact hinv.foldl_addTickets (hroom v hv)
  | transferTicket seasonId tickets target =>
      obtain ⟨who, rfl⟩ : ∃ who, origin = .signed who := by
        simp only [SeasonCall.perform, transferTicket, bind_eq_ok, ensureSigned_eq_ok] at h
        obtain ⟨who, hwho, -⟩ := h
        exact ⟨who, hwho⟩
      exact (transferTicket_keeps (hroom who rfl) h).1 hinv
  | buyTicket amount inviteCode =>
      obtain ⟨who, season, rfl, hseason⟩ : ∃ who season, origin = .signed who ∧
          s.seasons s.defaultSeason = some season := by
        simp only [SeasonCall.perform, buyTicket, bind_eq_ok, ensureSigned_eq_ok, okOr_eq_ok] at h
        obtain ⟨who, hwho, season, hseason, -⟩ := h
        exact ⟨who, season, hwho, hseason⟩
      obtain ⟨htickets, hinfos⟩ := tickets_of_buyTicket h
      exact (hinv.addTickets (hroom who season rfl hseason).1).of_same htickets fun who seasonId =>
        congrArg Prod.fst (votesOf_congr hinfos who seasonId)
  | initialVote seasonId ticketsAmount votes =>
      simp only [SeasonCall.perform, initialVote, bind_eq_ok, ensureSigned_eq_ok, ensure_eq_ok, okOr_eq_ok, pure_eq_ok,
        exists_const] at h
      obtain ⟨who, rfl, -, season, -, ⟨hticket, -⟩, m, -, -, rfl⟩ := h
      have hwho := hinv seasonId who
      have hle : ticketsAmount.toNat ≤ (ticketsOf seasonId who s).2.toNat := hticket
      have hsub := BitVec.toNat_sub_of_le hticket
      refine @Conserved.insert _ s _ who seasonId hinv _ rfl (fun who' seasonId' hne => ?_) ?_
      · rw [@votesOf_insert cfg s _ who seasonId _ rfl, if_neg hne]
      · rw [@votesOf_insert cfg s _ who seasonId _ rfl, if_pos rfl]
        dsimp only
        rw [ballotTickets_append, hsub]
        simp only [ballotTickets, List.map_cons, List.map_nil, List.sum_singleton] at hwho ⊢
        omega
  | appendVote seasonId selectIndex battleType amount votes =>
      simp only [SeasonCall.perform, appendVote, bind_eq_ok, ensureSigned_eq_ok, ensure_eq_ok, okOr_eq_ok,
        exists_const] at h
      obtain ⟨who, rfl, -, season, -, -, old, hold, hamount, -, h⟩ := h
      split at h
      · simp only [extendBallot, bind_eq_ok, pure_eq_ok] at h
        obtain ⟨m, -, rfl⟩ := h
        refine @Conserved.vote _ s _ who seasonId hinv _ _ rfl rfl ?_
        have hset := ballotTickets_set { old with selects := old.selects ++ votes } hold
        exact Nat.add_right_cancel hset
      · simp only [splitBallot, bind_eq_ok, pure_eq_ok] at h
        obtain ⟨_, -, m, -, rfl⟩ := h
        refine @Conserved.vote _ s _ who seasonId hinv _ _ rfl rfl ?_
        have hle : amount.toNat ≤ old.ticketAmount.toNat := hamount.1
        have hset := ballotTickets_set { old with ticketAmount := old.ticketAmount - amount } hold
        rw [ballotTickets_append]
        dsimp only at hset
        rw [BitVec.toNat_sub_of_le hamount.1] at hset
        have hone : ballotTickets [⟨amount, old.selects ++ votes⟩] = amount.toNat := List.sum_singleton
        omega
  | setResult battleId homeScore visitingScore =>
      simp only [SeasonCall.perform, setResult, bind_eq_ok, okOr_eq_ok, pure_eq_ok] at h
      obtain ⟨_, -, battle, hbattle, _, -, rfl⟩ := h
      exact hinv
  | finalsSettle battleId =>
      obtain ⟨htickets, hinfos⟩ := finalsSettle_frame h
      exact hinv.of_same htickets fun who seasonId => congrArg Prod.fst (votesOf_congr hinfos who seasonId)
  | leagueSettle battleId =>
      obtain ⟨htickets, hinfos⟩ := leagueSettle_frame h
      exact hinv.of_same htickets fun who seasonId => congrArg Prod.fst (votesOf_congr hinfos who seasonId)
  | closeSeason seasonId =>
      simp only [SeasonCall.perform, closeSeason, bind_eq_ok, pure_eq_ok, Prod.exists] at h
      obtain ⟨_, -, season, -, _, _, -, rfl⟩ := h
      exact hinv
  | claim seasonId =>
      simp only [SeasonCall.perform, claim, bind_eq_ok, pure_eq_ok] at h
      obtain ⟨who, -, season, -, _, -, _, -, total, -, mid, hmid, rfl⟩ := h
      have hmid := idle_payAwt hmid
      rw [hmid]
      exact @Conserved.vote _ s _ who seasonId hinv _ _ rfl rfl rfl

theorem conserved_of_reachable {allowed : State cfg → Origin → SeasonCall → Prop}
    (hallowed : ∀ s origin c, allowed s origin c → c.Room s origin)
    (h : Transition.Reachable NoSeason (SeasonStep allowed) s) : Conserved s := by
  refine h.invariant Conserved (fun s hs seasonId who => ?_) fun s s' hinv hstep => ?_
  · rw [ticketsOf, votesOf, hs.tickets, hs.voteSelectInfos]
    rfl
  · cases hstep with
    | call origin c hc h => exact hinv.perform (hallowed s origin c hc) h
    | outside => exact hinv

/-! ### What a ticket costs -/

theorem payAwt_free (hexact : cfg.token.balances.Exact) {amount : U128} (h : payAwt who target amount s = .ok s')
    (a : AccountId) :
    (freeBalance cfg.awtTokenId a s'.asset).toNat + (if a = who then amount.toNat else 0) =
      (freeBalance cfg.awtTokenId a s.asset).toNat + if a = target then amount.toNat else 0 := by
  simp only [payAwt, bind_eq_ok, pure_eq_ok, Prod.exists] at h
  obtain ⟨paid, asset, htransfer, rfl⟩ := h
  dsimp only
  by_cases hself : who = target
  · subst hself
    rw [Token.transferToken_self htransfer]
  obtain ⟨hwho, htarget, hothers⟩ := Token.transferToken_eq_ok hexact hself htransfer
  by_cases ha : a = who
  · subst ha
    rw [if_pos rfl, if_neg hself]
    exact hwho.symm
  · rw [if_neg ha]
    by_cases hat : a = target
    · subst hat
      rw [if_pos rfl]
      exact htarget
    · rw [if_neg hat]
      exact congrArg (fun b : U128 × U128 => b.1.toNat + 0) (hothers cfg.awtTokenId a (by simp [ha]) (by simp [hat]))

theorem percent_le (m k : U128) : (m * k / 100).toNat ≤ m.toNat * k.toNat / 100 := by
  rw [BitVec.toNat_udiv, BitVec.toNat_mul]
  exact Nat.div_le_div_right (Nat.mod_le _ _)

theorem payInvitor_free (hexact : cfg.token.balances.Exact) {m part : U128} {inviteCode : List UInt8}
    (h : payInvitor who m inviteCode s = .ok (part, s')) : part.toNat ≤ m.toNat * 5 / 100 ∧ ∀ a,
      (freeBalance cfg.awtTokenId a s'.asset).toNat + (if a = who then part.toNat else 0) =
        (freeBalance cfg.awtTokenId a s.asset).toNat +
          if inviteCodeToAddr cfg inviteCode = some a then part.toNat else 0 := by
  unfold payInvitor at h
  split at h
  · rename_i invitor hinvitor
    split at h
    · rename_i hne
      simp only [bind_eq_ok, pure_eq_ok, Prod.mk.injEq] at h
      obtain ⟨mid, hmid, rfl, rfl⟩ := h
      refine ⟨percent_le m 5, fun a => ?_⟩
      have hfree := payAwt_free hexact hmid a
      rw [hinvitor]
      simp only [Option.some.injEq, eq_comm (a := invitor)]
      exact hfree
    · obtain ⟨rfl, rfl⟩ := Prod.mk.inj (pure_eq_ok.mp h)
      exact ⟨Nat.zero_le _, fun a => by simp⟩
  · obtain ⟨rfl, rfl⟩ := Prod.mk.inj (pure_eq_ok.mp h)
    exact ⟨Nat.zero_le _, fun a => by simp⟩

/-- The buyer pays the price, and three others share it. -/
theorem buyTicket_pays (hexact : cfg.token.balances.Exact) {season : Season} {inviteCode : List UInt8}
    (hseason : s.seasons s.defaultSeason = some season) (hprice : season.ticketPrice.toNat * amount.toNat < 2 ^ 128)
    (h : buyTicket (.signed who) amount inviteCode s = .ok s') : ∃ bonus invited project : U128,
      bonus.toNat + invited.toNat + project.toNat = season.ticketPrice.toNat * amount.toNat ∧ ∀ a,
        (freeBalance cfg.awtTokenId a s'.asset).toNat +
            (if a = who then season.ticketPrice.toNat * amount.toNat else 0) =
          (freeBalance cfg.awtTokenId a s.asset).toNat + (if a = season.treasury then bonus.toNat else 0) +
            (if inviteCodeToAddr cfg inviteCode = some a then invited.toNat else 0) +
              if a = cfg.bvbTreasury then project.toNat else 0 := by
  simp only [buyTicket, bind_eq_ok, ensureSigned_eq_ok, okOr_eq_ok, pure_eq_ok, Prod.exists] at h
  obtain ⟨_, hwho, _, hseason', _, -, _, -, _, -, first, hfirst, invited, second, hsecond, third, hthird, rfl⟩ := h
  obtain rfl := Origin.signed.inj hwho
  obtain rfl := Option.some.inj (hseason.symm.trans hseason')
  have hm : (season.ticketPrice * amount.setWidth 128).toNat = season.ticketPrice.toNat * amount.toNat := by
    rw [BitVec.toNat_mul, BitVec.toNat_setWidth, Nat.mod_eq_of_lt (amount.isLt.trans (by decide)), Nat.mod_eq_of_lt hprice]
  generalize season.ticketPrice * amount.setWidth 128 = m at hm hfirst hsecond hthird
  have hbonus : (m * 85 / 100).toNat ≤ m.toNat * 85 / 100 := percent_le m 85
  obtain ⟨hinvited, hpaid⟩ := payInvitor_free hexact hsecond
  have hrest : (m - m * 85 / 100).toNat = m.toNat - (m * 85 / 100).toNat :=
    BitVec.toNat_sub_of_le (show (m * 85 / 100).toNat ≤ m.toNat by omega)
  have hproject : (m - m * 85 / 100 - invited).toNat = m.toNat - (m * 85 / 100).toNat - invited.toNat := by
    rw [BitVec.toNat_sub_of_le (show invited.toNat ≤ (m - m * 85 / 100).toNat by omega), hrest]
  rw [← hm]
  refine ⟨m * 85 / 100, invited, m - m * 85 / 100 - invited, by omega, fun a => ?_⟩
  have h₁ := payAwt_free hexact hfirst a
  have h₂ := hpaid a
  have h₃ := payAwt_free hexact hthird a
  change (freeBalance cfg.awtTokenId a third.asset).toNat + _ = _
  by_cases ha : a = who
  · rw [if_pos ha] at h₁ h₂ h₃ ⊢
    omega
  · rw [if_neg ha] at h₁ h₂ h₃ ⊢
    omega

theorem buyTicket_total {inviteCode : List UInt8}
    (hroom : (ticketsOf s.defaultSeason who s).1.toNat + amount.toNat < 2 ^ 32)
    (h : buyTicket (.signed who) amount inviteCode s = .ok s') :
    (ticketsOf s.defaultSeason who s').1.toNat = (ticketsOf s.defaultSeason who s).1.toNat + amount.toNat ∧
      (ticketsOf s.defaultSeason who s').1 ≤ cfg.maxTicketAmount := by
  have htickets : ticketsOf s.defaultSeason who s' = ((ticketsOf s.defaultSeason who s).1 + amount,
      (ticketsOf s.defaultSeason who s).2 + amount) := by
    rw [@ticketsOf_insert cfg s s' who s.defaultSeason _ (tickets_of_buyTicket h).1, if_pos rfl]
  simp only [buyTicket, bind_eq_ok, ensureSigned_eq_ok, ensure_eq_ok, exists_const] at h
  obtain ⟨_, hwho, season, -, -, ⟨hmax, -⟩, -⟩ := h
  obtain rfl := Origin.signed.inj hwho
  rw [htickets]
  exact ⟨BitVec.toNat_add_of_lt hroom, hmax⟩

/-- In every run in which no count of tickets and no price wraps, each account has the tickets that remain and those on
its ballots, a transfer keeps the tickets of all, and a ticket is paid by its buyer and to three others. -/
theorem tickets_conserved (hexact : cfg.token.balances.Exact)
    (h : Transition.Reachable NoSeason (SeasonStep fun s origin c => c.Room s origin) s) :
    (∀ seasonId who, (ticketsOf seasonId who s).1.toNat =
      (ticketsOf seasonId who s).2.toNat + ballotTickets (votesOf who seasonId s).1) ∧
    (∀ who seasonId amount target s', (SeasonCall.transferTicket seasonId amount target).Room s (.signed who) →
      transferTicket (.signed who) seasonId amount target s = .ok s' →
        ∀ seasonId', ∑ a, (ticketsOf seasonId' a s').1.toNat = ∑ a, (ticketsOf seasonId' a s).1.toNat) ∧
    ∀ who amount inviteCode season s', (SeasonCall.buyTicket amount inviteCode).Room s (.signed who) →
      s.seasons s.defaultSeason = some season → buyTicket (.signed who) amount inviteCode s = .ok s' →
        (ticketsOf s.defaultSeason who s').1.toNat = (ticketsOf s.defaultSeason who s).1.toNat + amount.toNat ∧
        (ticketsOf s.defaultSeason who s').1 ≤ cfg.maxTicketAmount ∧
        ∃ bonus invited project : U128,
          bonus.toNat + invited.toNat + project.toNat = season.ticketPrice.toNat * amount.toNat ∧ ∀ a,
            (freeBalance cfg.awtTokenId a s'.asset).toNat +
                (if a = who then season.ticketPrice.toNat * amount.toNat else 0) =
              (freeBalance cfg.awtTokenId a s.asset).toNat + (if a = season.treasury then bonus.toNat else 0) +
                (if inviteCodeToAddr cfg inviteCode = some a then invited.toNat else 0) +
                  if a = cfg.bvbTreasury then project.toNat else 0 := by
  refine ⟨conserved_of_reachable (fun _ _ _ hc => hc) h, ?_, ?_⟩
  · intro who seasonId amount target s' hroom h
    exact (transferTicket_keeps (hroom who rfl) h).2
  · intro who amount inviteCode season s' hroom hseason h
    obtain ⟨hfits, hprice⟩ := hroom who season rfl hseason
    obtain ⟨htotal, hmax⟩ := buyTicket_total hfits h
    exact ⟨htotal, hmax, buyTicket_pays hexact hseason hprice h⟩

/-- The first season, for which alice has some of the native token, a ticket, and a ballot that took it. -/
def votedTicket : Result (State plainConfig × State plainConfig × State plainConfig × State plainConfig ×
    State plainConfig) := do
  let s₁ ← createSeason (.signed organizer) [1] .league 1000000000000000001
    (emptyState plainConfig (.genesis fun a => if a = Token.alice then (10 ^ 30, 0) else (0, 0)))
  let s₂ ← setDefaultSeason (.signed organizer) 1 s₁
  let s₃ ← createBattle (.signed organizer) 1 .league 1 2 [1] s₂
  let s₄ ← giveAwayTickets (.signed organizer) 1 [1] s₃
  let s₅ ← initialVote (.signed Token.alice) 1 1 [⟨1, 1⟩] s₄
  return (s₁, s₂, s₃, s₄, s₅)

theorem tickets_conserved_bought : ∃ s s' : State plainConfig,
    buyTicket (.signed Token.alice) 2 [] s = .ok s' ∧
      (ticketsOf 1 Token.alice s).1.toNat = (ticketsOf 1 Token.alice s).2.toNat +
        ballotTickets (votesOf Token.alice 1 s).1 ∧
      (ticketsOf 1 Token.alice s').1.toNat = (ticketsOf 1 Token.alice s).1.toNat + (2 : U32).toNat := by
  obtain ⟨⟨⟨s₁, s₂, s₃, s₄, s₅⟩, s₆⟩, hrun, hcheck⟩ := exists_of_succeedsWith
    (x := do
      let x ← votedTicket
      let s₆ ← buyTicket (.signed Token.alice) 2 [] x.2.2.2.2
      return (x, s₆))
    (p := fun x => decide ((ticketsOf 1 (toAccountId (List.replicate 32 1)) x.1.2.2.1).1 = 0) &&
      decide (x.1.2.2.2.2.defaultSeason = 1) && decide ((ticketsOf 1 Token.alice x.1.2.2.2.2).1 = 1) &&
      decide ((x.1.2.2.2.2.seasons 1).map Season.ticketPrice = some 1000000000000000001)) (by decide +kernel)
  simp only [Bool.and_eq_true, decide_eq_true_eq] at hcheck
  obtain ⟨⟨⟨hnone, hdefault⟩, hone⟩, hprice⟩ := hcheck
  simp only [votedTicket, bind_eq_ok, pure_eq_ok, Prod.mk.injEq] at hrun
  obtain ⟨x, ⟨_, h₁, _, h₂, _, h₃, _, h₄, _, h₅, rfl⟩, _, h₆, ⟨rfl, rfl, rfl, rfl, rfl⟩, rfl⟩ := hrun
  have hreach : Transition.Reachable NoSeason (SeasonStep fun s origin c => c.Room s origin) _ :=
    ⟨_, noSeason_emptyState _, ((((Relation.ReflTransGen.single
      (.call _ (.createSeason [1] .league 1000000000000000001) trivial h₁)).tail
      (.call _ (.setDefaultSeason 1) trivial h₂)).tail
      (.call _ (.createBattle 1 .league 1 2 [1]) trivial h₃)).tail
      (.call _ (.giveAwayTickets 1 [1]) (fun v hv a ha => by
        obtain rfl := Option.some.inj hv
        obtain rfl := List.mem_singleton.mp ha
        rw [hnone]
        decide) h₄)).tail
      (.call _ (.initialVote 1 1 [⟨1, 1⟩]) trivial h₅)⟩
  obtain ⟨hconserved, -, hbuy⟩ := tickets_conserved Balances.plain_exact hreach
  obtain ⟨season, hseason, hprice⟩ := Option.map_eq_some_iff.mp hprice
  have hbought := (hbuy Token.alice 2 [] season _ (fun who season' hwho hseason' => ?_) (hdefault ▸ hseason) h₆).1
  · rw [hdefault] at hbought
    exact ⟨_, _, h₆, hconserved 1 Token.alice, hbought⟩
  · obtain rfl := Origin.signed.inj hwho
    rw [hdefault] at hseason' ⊢
    obtain rfl := Option.some.inj (hseason.symm.trans hseason')
    rw [hone, hprice]
    decide

/-- The sum of the tickets wraps below the limit: all but one of them remain, and one is voted with. -/
theorem wrapped_sum_is_bought : ∃ s : State plainConfig,
    Transition.Reachable NoSeason (SeasonStep fun _ _ _ => True) s ∧ (ticketsOf 1 Token.alice s).1.toNat = 0 ∧
      (ticketsOf 1 Token.alice s).2.toNat = 2 ^ 32 - 1 ∧ ballotTickets (votesOf Token.alice 1 s).1 = 1 := by
  obtain ⟨⟨⟨s₁, s₂, s₃, s₄, s₅⟩, s₆⟩, hrun, hcheck⟩ := exists_of_succeedsWith
    (x := do
      let x ← votedTicket
      let s₆ ← buyTicket (.signed Token.alice) 4294967295 [] x.2.2.2.2
      return (x, s₆))
    (p := fun x => decide ((ticketsOf 1 Token.alice x.2).1.toNat = 0) &&
      decide ((ticketsOf 1 Token.alice x.2).2.toNat = 2 ^ 32 - 1) &&
      decide (ballotTickets (votesOf Token.alice 1 x.2).1 = 1)) (by decide +kernel)
  simp only [Bool.and_eq_true, decide_eq_true_eq] at hcheck
  simp only [votedTicket, bind_eq_ok, pure_eq_ok, Prod.mk.injEq] at hrun
  obtain ⟨x, ⟨_, h₁, _, h₂, _, h₃, _, h₄, _, h₅, rfl⟩, _, h₆, ⟨rfl, rfl, rfl, rfl, rfl⟩, rfl⟩ := hrun
  exact ⟨_, ⟨_, noSeason_emptyState _, (((((Relation.ReflTransGen.single
    (.call _ (.createSeason [1] .league 1000000000000000001) trivial h₁)).tail
    (.call _ (.setDefaultSeason 1) trivial h₂)).tail
    (.call _ (.createBattle 1 .league 1 2 [1]) trivial h₃)).tail
    (.call _ (.giveAwayTickets 1 [1]) trivial h₄)).tail
    (.call _ (.initialVote 1 1 [⟨1, 1⟩]) trivial h₅)).tail
    (.call _ (.buyTicket 4294967295 []) trivial h₆)⟩, hcheck.1.1, hcheck.1.2, hcheck.2⟩

end Fusotao.AbyssTournament
