import Fusotao.AbyssTournament.Runtime
import Fusotao.AbyssTournament.Bonus

/-!
# Calls that always return

A claim looks up the winner of every battle on a ballot, closing a season reads the ballot of every entry, settling
a battle unwraps its scores, and paying a betting indexes its battles. These are defined in every run in which a
season is closed only when the battles on its unpaid ballots have winners, nobody votes in a closed season on a
battle without one, and a battle is settled in the season in which it was voted on.
-/

namespace Fusotao.AbyssTournament

open Exec
open Token (TransferReturns transferToken_ne_panic)

variable {cfg : Config} {s s' : State cfg} {who : AccountId} {seasonId : SeasonId} {origin : Origin} {id : BettingId}
  {battleId : BattleId}

/-! ### What the calls rely on -/

/-- The items of a betting name no more results than it has battles, and an index of a word reaches all of them. -/
structure Betting.Shaped (betting : Betting) : Prop where
  indexed : betting.odds.length ≤ 2 ^ 16
  score : betting.bettingType = .score → ∀ item ∈ betting.odds, item.score.length ≤ betting.battles.length
  winLose : betting.bettingType = .winLose → ∀ item ∈ betting.odds, item.winLose.length ≤ betting.battles.length

/-- Every battle on a ballot has a winner in its season. -/
def HasWinners (seasonId : SeasonId) (ballots : List VoteSelectInfo) (s : State cfg) : Prop :=
  ∀ ballot ∈ ballots, ∀ v ∈ ballot.selects, (winnerOf seasonId v.battleId s).isSome

def Closed (seasonId : SeasonId) (s : State cfg) : Prop :=
  ∃ season, s.seasons seasonId = some season ∧ season.status = .finalized

structure Defined (s : State cfg) : Prop where
  scored : ∀ id battle, s.battles id = some battle → battle.status ≠ .running →
    battle.homeScore.isSome ∧ battle.visitingScore.isSome
  hosted : ∀ id battle, s.battles id = some battle → (s.seasons battle.season).isSome
  indexed : ∀ seasonId who (i : SelectIndex), (s.participantPoints.lookup (seasonId, who, i)).isSome →
    i.toNat < (votesOf who seasonId s).1.length
  won : ∀ seasonId who, Closed seasonId s → (votesOf who seasonId s).2 = false →
    HasWinners seasonId (votesOf who seasonId s).1 s
  shaped : ∀ id betting, s.bettings id = some betting → betting.Shaped

/-! ### No call panics -/

theorem ensureSigned_ne_panic : ensureSigned origin ≠ .error .panic := by
  cases origin <;> simp [ensureSigned]

theorem payAwt_ne_panic (hreturns : TransferReturns cfg.token) {target : AccountId} {amount : U128} :
    payAwt who target amount s ≠ .error .panic := by
  intro h
  simp only [payAwt, bind_eq_error, pure, Except.pure, reduceCtorEq, and_false, exists_false, or_false] at h
  exact transferToken_ne_panic hreturns h

theorem selectRightBattles_ne_panic {ballot : VoteSelectInfo}
    (h : ∀ v ∈ ballot.selects, (winnerOf seasonId v.battleId s).isSome) :
    selectRightBattles ((s.seasonWinners seasonId).getD ∅) ballot ≠ .error .panic := by
  refine foldlM_ne_error fun v hv n hpanic => ?_
  simp only [bind_eq_error, okOr_eq_error, and_true, pure, Except.pure, reduceCtorEq, and_false, exists_false,
    or_false] at hpanic
  obtain ⟨winner, hwinner⟩ := Option.isSome_iff_exists.mp (h v hv)
  exact absurd (hwinner.symm.trans hpanic) (by simp)

theorem claim_ne_panic (hreturns : TransferReturns cfg.token) (hinv : Defined s) :
    claim origin seasonId s ≠ .error .panic := by
  intro h
  simp only [claim, bind_eq_error, ensureSigned_ne_panic, okOr_eq_error, ensure_eq_error, reduceCtorEq, and_false,
    false_or, ensureSigned_eq_ok, okOr_eq_ok, ensure_eq_ok, exists_const, pure, Except.pure, exists_false,
    or_false] at h
  obtain ⟨who, -, season, hseason, hfinal, ⟨-, hunpaid⟩, h | ⟨total, -, h⟩⟩ := h
  · refine foldlM_ne_error (fun ballot hballot total hpanic => ?_) h
    simp only [bind_eq_error, pure, Except.pure, reduceCtorEq, and_false, exists_false, or_false] at hpanic
    exact selectRightBattles_ne_panic (hinv.won _ who ⟨season, hseason, hfinal⟩ hunpaid ballot hballot) hpanic
  · exact payAwt_ne_panic hreturns h

theorem closeSeason_ne_panic (hinv : Defined s) : closeSeason origin seasonId s ≠ .error .panic := by
  intro h
  simp only [closeSeason, bind_eq_error, ensureOrganizer, okOr_eq_error, ensure_eq_error, reduceCtorEq, and_false,
    false_or, okOr_eq_ok, ensure_eq_ok, exists_const, pure, Except.pure, or_false] at h
  obtain ⟨-, season, -, h⟩ := h
  refine foldlM_ne_error (fun entry hentry counts hpanic => ?_) h
  simp only [bind_eq_error, okOr_eq_error, and_true, pure, Except.pure, reduceCtorEq, and_false, exists_false,
    or_false] at hpanic
  obtain ⟨hmem, hseason⟩ := List.mem_filter.mp hentry
  obtain ⟨⟨id, who, i⟩, points⟩ := entry
  obtain rfl : id = seasonId := of_decide_eq_true hseason
  have hlt := hinv.indexed id who i (Option.isSome_iff_exists.mpr ⟨points, IterMap.mem_entries.mp hmem⟩)
  exact absurd (List.getElem?_eq_none_iff.mp hpanic) (Nat.not_le_of_lt hlt)

theorem calc_ne_panic {battle : Battle} (h : battle.homeScore.isSome ∧ battle.visitingScore.isSome) :
    battle.calc ≠ .error .panic := by
  obtain ⟨home, hhome⟩ := Option.isSome_iff_exists.mp h.1
  obtain ⟨visiting, hvisiting⟩ := Option.isSome_iff_exists.mp h.2
  rw [Battle.calc, hhome, hvisiting]
  dsimp only [okOr_some, ok_bind, pure, Except.pure]
  split <;> simp

theorem updateParticipantPoint_ne_panic {battle : Battle} {winner : NpcId}
    (h : battle.homeScore.isSome ∧ battle.visitingScore.isSome) :
    updateParticipantPoint seasonId battleId battle winner s ≠ .error .panic := by
  obtain ⟨home, hhome⟩ := Option.isSome_iff_exists.mp h.1
  obtain ⟨visiting, hvisiting⟩ := Option.isSome_iff_exists.mp h.2
  rw [updateParticipantPoint, hhome, hvisiting]
  simp [pure, Except.pure]

/-- A battle that has a result has scores. -/
theorem Defined.scores (hinv : Defined s) {battle : Battle} (hbattle : s.battles battleId = some battle)
    (hcompleted : battle.status = .completed) : battle.homeScore.isSome ∧ battle.visitingScore.isSome :=
  hinv.scored battleId battle hbattle (by rw [hcompleted]; decide)

theorem finalsSettle_ne_panic (hinv : Defined s) : finalsSettle origin battleId s ≠ .error .panic := by
  intro h
  simp only [finalsSettle, bind_eq_error, ensureOrganizer, okOr_eq_error, ensure_eq_error, reduceCtorEq, and_false,
    false_or, okOr_eq_ok, ensure_eq_ok, exists_const, Prod.exists] at h
  obtain ⟨-, battle, hbattle, -, hcompleted, h⟩ := h
  have hscores := hinv.scores hbattle hcompleted
  obtain hcalc | ⟨diff, winner, loser, -, hpoint | ⟨mid, hmid, h⟩⟩ := h
  · exact calc_ne_panic hscores hcalc
  · exact updateParticipantPoint_ne_panic hscores hpoint
  · split at h
    · simp only [bind_eq_error, okOr_eq_error, and_true, pure, Except.pure, reduceCtorEq, and_false, exists_false,
        or_false] at h
      rw [updateParticipantPoint_tally hmid] at h
      obtain ⟨season, hseason⟩ := Option.isSome_iff_exists.mp (hinv.hosted battleId battle hbattle)
      exact absurd (hseason.symm.trans h) (by simp)
    · exact absurd h (by simp [pure, Except.pure])

theorem leagueSettle_ne_panic (hinv : Defined s) : leagueSettle origin battleId s ≠ .error .panic := by
  intro h
  simp only [leagueSettle, bind_eq_error, ensureOrganizer, okOr_eq_error, ensure_eq_error, reduceCtorEq, and_false,
    false_or, okOr_eq_ok, ensure_eq_ok, exists_const, Prod.exists, pure, Except.pure, exists_false, or_false] at h
  obtain ⟨-, battle, hbattle, hcompleted, -, h⟩ := h
  have hscores := hinv.scores hbattle hcompleted
  obtain hcalc | ⟨diff, winner, loser, -, hpoint⟩ := h
  · exact calc_ne_panic hscores hcalc
  · exact updateParticipantPoint_ne_panic hscores hpoint

/-! ### Bettings -/

section Hits

variable {battles : List Battle}

/-- A result named for each battle there is, all of which have scores. -/
theorem scoreHit_ne_panic {score : List (Score × Score)} (hlength : score.length ≤ battles.length)
    (h : ∀ battle ∈ battles, battle.homeScore.isSome ∧ battle.visitingScore.isSome) :
    scoreHit score battles ≠ .error .panic := by
  induction score generalizing battles with
  | nil => simp [scoreHit]
  | cons x score ih =>
      cases battles with
      | nil => exact absurd hlength (by simp)
      | cons battle battles =>
          obtain ⟨home, hhome⟩ := Option.isSome_iff_exists.mp (h battle List.mem_cons_self).1
          obtain ⟨visiting, hvisiting⟩ := Option.isSome_iff_exists.mp (h battle List.mem_cons_self).2
          have hrest := ih (Nat.le_of_succ_le_succ hlength) fun b hb => h b (List.mem_cons_of_mem _ hb)
          rw [scoreHit, hhome, hvisiting]
          dsimp only [okOr_some, ok_bind, pure, Except.pure]
          split
          · simp
          split
          · simp
          · exact hrest

theorem winLoseHit_ne_panic {winLose : List HomeOrVisiting} (hlength : winLose.length ≤ battles.length) :
    winLoseHit winLose battles ≠ .error .panic := by
  induction winLose generalizing battles with
  | nil => simp [winLoseHit]
  | cons x winLose ih =>
      cases battles with
      | nil => exact absurd hlength (by simp)
      | cons battle battles =>
          have hrest := ih (Nat.le_of_succ_le_succ hlength)
          rw [winLoseHit]
          split_ifs
          · simp
          · exact hrest
          · simp
          · exact hrest

variable {hit : OddsItem → Result Bool} {odds : List OddsItem}

theorem firstHit_ne_panic (h : ∀ item ∈ odds, hit item ≠ .error .panic) (i : Nat) :
    firstHit hit i odds ≠ .error .panic := by
  induction odds generalizing i with
  | nil => simp [firstHit]
  | cons item odds ih =>
      intro hpanic
      rw [firstHit, bind_eq_error] at hpanic
      obtain hitem | ⟨found, -, hpanic⟩ := hpanic
      · exact h item List.mem_cons_self hitem
      · split at hpanic
        · exact absurd hpanic (by simp [pure, Except.pure])
        · exact ih (fun item hitem => h item (List.mem_cons_of_mem _ hitem)) (i + 1) hpanic

/-- The index of an item that is hit is that of an item. -/
theorem firstHit_lt {i : Nat} {index : SelectIndex} (hfits : i + odds.length ≤ 2 ^ 16)
    (h : firstHit hit i odds = .ok index) : index.toNat < i + odds.length := by
  induction odds generalizing i with
  | nil => simp [firstHit] at h
  | cons item odds ih =>
      rw [firstHit, bind_eq_ok] at h
      obtain ⟨found, -, h⟩ := h
      rw [List.length_cons] at hfits ⊢
      split at h
      · obtain rfl := pure_eq_ok.mp h
        rw [toNat_newIndex (by omega)]
        omega
      · have hlt := ih (by omega) h
        omega

end Hits

theorem finalizedBattle_eq_ok {battle : Battle} (h : finalizedBattle s.battles battleId = .ok battle) :
    s.battles battleId = some battle ∧ battle.status = .finalized := by
  simp only [finalizedBattle, bind_eq_ok, okOr_eq_ok, ensure_eq_ok, exists_const, pure_eq_ok] at h
  obtain ⟨battle', hbattle, hstatus, rfl⟩ := h
  exact ⟨hbattle, hstatus⟩

/-- As many battles as ids, all of them settled. -/
theorem finalizedBattles {ids : List BattleId} {battles : List Battle}
    (h : ids.mapM (finalizedBattle s.battles) = .ok battles) : battles.length = ids.length ∧
      ∀ battle ∈ battles, ∃ id, s.battles id = some battle ∧ battle.status = .finalized := by
  induction ids generalizing battles with
  | nil =>
      obtain rfl := pure_eq_ok.mp h
      exact ⟨rfl, fun battle hmem => absurd hmem List.not_mem_nil⟩
  | cons id ids ih =>
      simp only [List.mapM_cons, bind_eq_ok, pure_eq_ok] at h
      obtain ⟨battle, hbattle, rest, hrest, rfl⟩ := h
      obtain ⟨hlength, hall⟩ := ih hrest
      refine ⟨by rw [List.length_cons, List.length_cons, hlength], ?_⟩
      exact List.forall_mem_cons.mpr ⟨⟨id, finalizedBattle_eq_ok hbattle⟩, hall⟩

theorem finalizedBattles_ne_panic (ids : List BattleId) :
    ids.mapM (finalizedBattle s.battles) ≠ .error .panic := by
  induction ids with
  | nil => simp [pure, Except.pure]
  | cons id ids ih =>
      intro h
      simp only [List.mapM_cons, bind_eq_error, finalizedBattle, okOr_eq_error, ensure_eq_error, reduceCtorEq,
        and_false, false_or, pure, Except.pure, exists_false, or_false] at h
      obtain ⟨battle, -, h⟩ := h
      exact ih h

/-- The hit index is found, if at all, among the items. -/
theorem calcBettingHitIndex_ne_panic (hinv : Defined s) {betting : Betting} (hshaped : betting.Shaped) :
    calcBettingHitIndex betting s ≠ .error .panic := by
  intro h
  rw [calcBettingHitIndex, bind_eq_error] at h
  obtain h | ⟨battles, hbattles, h⟩ := h
  · exact finalizedBattles_ne_panic _ h
  obtain ⟨hlength, hall⟩ := finalizedBattles hbattles
  have hscores : ∀ battle ∈ battles, battle.homeScore.isSome ∧ battle.visitingScore.isSome := by
    intro battle hmem
    obtain ⟨id, hbattle, hstatus⟩ := hall battle hmem
    exact hinv.scored id battle hbattle (by rw [hstatus]; decide)
  cases htype : betting.bettingType with
  | score =>
      rw [htype] at h
      refine firstHit_ne_panic (fun item hitem => ?_) 0 h
      exact scoreHit_ne_panic (hlength ▸ hshaped.score htype item hitem) hscores
  | winLose =>
      rw [htype] at h
      refine firstHit_ne_panic (fun item hitem => ?_) 0 h
      exact winLoseHit_ne_panic (hlength ▸ hshaped.winLose htype item hitem)

theorem calcBettingHitIndex_lt {betting : Betting} (hshaped : betting.Shaped) {index : SelectIndex}
    (h : calcBettingHitIndex betting s = .ok index) : index.toNat < betting.odds.length := by
  rw [calcBettingHitIndex, bind_eq_ok] at h
  obtain ⟨battles, -, h⟩ := h
  have hfits : 0 + betting.odds.length ≤ 2 ^ 16 := by
    rw [Nat.zero_add]
    exact hshaped.indexed
  cases htype : betting.bettingType with
  | score =>
      rw [htype] at h
      simpa using firstHit_lt hfits h
  | winLose =>
      rw [htype] at h
      simpa using firstHit_lt hfits h

theorem payFromPledge_ne_panic (hreturns : TransferReturns cfg.token) {betting : Betting} {amount : U128} :
    payFromPledge betting amount who s.asset ≠ .error .panic := by
  intro h
  unfold payFromPledge at h
  split at h
  · simp only [bind_eq_error, pure, Except.pure, reduceCtorEq, and_false, exists_false, or_false] at h
    exact transferToken_ne_panic hreturns h
  · exact absurd h (by simp [pure, Except.pure])

theorem bettingClaim_ne_panic (hreturns : TransferReturns cfg.token) (hinv : Defined s) :
    bettingClaim origin id s ≠ .error .panic := by
  intro h
  simp only [bettingClaim, bind_eq_error, ensureSigned_ne_panic, okOr_eq_error, ensure_eq_error, reduceCtorEq,
    and_false, false_or, ensureSigned_eq_ok, okOr_eq_ok, ensure_eq_ok, exists_const, pure, Except.pure, exists_false,
    or_false] at h
  obtain ⟨who, -, -, -, betting, hbetting, h⟩ := h
  have hshaped := hinv.shaped id betting hbetting
  obtain hhit | ⟨hitIndex, -, hpaid⟩ := h
  · exact calcBettingHitIndex_ne_panic hinv hshaped hhit
  · exact payFromPledge_ne_panic hreturns hpaid

theorem revokeRemainCompensate_ne_panic (hreturns : TransferReturns cfg.token) (hinv : Defined s) :
    revokeRemainCompensate origin id s ≠ .error .panic := by
  intro h
  simp only [revokeRemainCompensate, bind_eq_error, ensureSigned_ne_panic, okOr_eq_error, ensure_eq_error,
    reduceCtorEq, and_false, and_true, false_or, ensureSigned_eq_ok, okOr_eq_ok, ensure_eq_ok, exists_const] at h
  obtain ⟨who, -, betting, hbetting, -, h⟩ := h
  have hshaped := hinv.shaped id betting hbetting
  obtain hhit | ⟨hitIndex, hhit, hitem | ⟨item, -, h⟩⟩ := h
  · exact calcBettingHitIndex_ne_panic hinv hshaped hhit
  · exact absurd (List.getElem?_eq_none_iff.mp hitem) (Nat.not_le_of_lt (calcBettingHitIndex_lt hshaped hhit))
  · split at h
    · exact absurd h (by simp [pure, Except.pure])
    · simp only [bind_eq_error, pure, Except.pure, reduceCtorEq, and_false, exists_false, or_false] at h
      exact transferToken_ne_panic hreturns h

/-! ### Runs -/

/-- A call of the pallet. Those on the result of a battle are among the calls on seasons. -/
inductive AnyCall
  | onBetting (c : Call) (h : c.battle? = none)
  | onSeason (c : SeasonCall)
  | updateBattle (battleId : BattleId) (seasonId : SeasonId) (battleType : BattleType) (home visiting : NpcId)
      (startTimeStr : List UInt8)

def AnyCall.run (origin : Origin) (s : State cfg) : AnyCall → Result (State cfg)
  | .onBetting c _ => dispatch origin s c
  | .onSeason c => c.perform origin s
  | .updateBattle battleId seasonId battleType home visiting startTimeStr =>
      AbyssTournament.updateBattle origin battleId seasonId battleType home visiting startTimeStr s

/-- A call that is allowed, or anything else that leaves the storage of the pallet alone: time passes, characters are
created, nonces and balances change. -/
inductive TournamentStep (allowed : State cfg → Origin → AnyCall → Prop) : State cfg → State cfg → Prop
  | call {s s' : State cfg} (origin : Origin) (c : AnyCall) (hallowed : allowed s origin c)
      (h : c.run origin s = .ok s') : TournamentStep allowed s s'
  | outside (s : State cfg) (now : Moment) (npcs : NpcId → Bool) (accountNonce : AccountId → U32)
      (asset : Token.State cfg.token) : TournamentStep allowed s { s with now, npcs, accountNonce, asset }

/-- There is neither a season nor a betting. -/
structure Blank (s : State cfg) : Prop extends NoSeason s where
  bettings : ∀ id, s.bettings id = none

/-- Whoever voted on a battle has, in the season the battle is in, a ballot at the index of the vote. -/
def VotedInSeason (battleId : BattleId) (s : State cfg) : Prop :=
  ∀ battle, s.battles battleId = some battle → ∀ who (i : SelectIndex) npcId,
    pickOf s.votesForCalc battleId (who, i) = some npcId → i.toNat < (votesOf who battle.season s).1.length

/-- A closed season with a bonus to claim takes votes only on battles that have a winner. -/
def VotesDecided (seasonId : SeasonId) (votes : List VoteSelect) (origin : Origin) (s : State cfg) : Prop :=
  ∀ who, origin = .signed who → Closed seasonId s → (votesOf who seasonId s).2 = false →
    ∀ v ∈ votes, (winnerOf seasonId v.battleId s).isSome

/-- No branch is taken that leaves an index without a value. -/
def AnyCall.Safe (s : State cfg) (origin : Origin) : AnyCall → Prop
  | .onSeason (.finalsSettle battleId) | .onSeason (.leagueSettle battleId) => VotedInSeason battleId s
  | .onSeason (.closeSeason seasonId) => ∀ who, (votesOf who seasonId s).2 = false →
      HasWinners seasonId (votesOf who seasonId s).1 s
  | .onSeason (.initialVote seasonId _ votes) | .onSeason (.appendVote seasonId _ _ _ votes) =>
      VotesDecided seasonId votes origin s
  | _ => True

/-! ### What the calls on seasons keep -/

/-- Seasons stay, and none gets closed but by closing it. -/
structure KeepsStatus (closing : SeasonId → Prop) (s s' : State cfg) : Prop where
  present : ∀ id, (s.seasons id).isSome → (s'.seasons id).isSome
  closed : ∀ id, Closed id s' → closing id ∨ Closed id s

section Keeps

variable {closing : SeasonId → Prop} {season : Season}

theorem KeepsStatus.of_eq (h : s'.seasons = s.seasons) : KeepsStatus closing s s' := by
  constructor
  · intro id hsome
    rwa [h]
  · intro id hclosed
    rw [Closed, h] at hclosed
    exact .inr hclosed

theorem KeepsStatus.insert (h : s'.seasons = s.seasons.insert seasonId season)
    (hstatus : season.status = .finalized → closing seasonId ∨ Closed seasonId s) : KeepsStatus closing s s' := by
  constructor
  · intro id hsome
    rw [h, StorageMap.insert_apply]
    split
    · rfl
    · exact hsome
  · rintro id ⟨season', hseason', hfinal⟩
    rw [h] at hseason'
    rcases StorageMap.insert_eq_some hseason' with ⟨rfl, rfl⟩ | ⟨-, hseason'⟩
    · exact hstatus hfinal
    · exact .inr ⟨season', hseason', hfinal⟩

/-- Whoever has a bonus to claim had one. -/
def KeepsPaid (s s' : State cfg) : Prop :=
  ∀ who seasonId, (votesOf who seasonId s').2 = false → (votesOf who seasonId s).2 = false

theorem KeepsPaid.of_eq (h : s'.voteSelectInfos = s.voteSelectInfos) : KeepsPaid s s' := by
  intro who seasonId hunpaid
  rwa [votesOf, h] at hunpaid

theorem KeepsPaid.insert {ballots : List VoteSelectInfo} {flag : Bool}
    (h : s'.voteSelectInfos = s.voteSelectInfos.insert (who, seasonId) (ballots, flag))
    (hflag : flag = false → (votesOf who seasonId s).2 = false) : KeepsPaid s s' := by
  intro who' seasonId' hunpaid
  rw [votesOf_insert h] at hunpaid
  split at hunpaid
  · rename_i heq
    obtain ⟨rfl, rfl⟩ := Prod.mk.inj heq
    exact hflag hunpaid
  · exact hunpaid

/-- Every battle is in a season there is. -/
def Hosted (s s' : State cfg) : Prop :=
  ∀ id battle, s'.battles id = some battle → (s.seasons battle.season).isSome

theorem Hosted.insert {battle : Battle} (hhosted : Hosted s s) (h : s'.battles = s.battles.insert battleId battle)
    (hseason : (s.seasons battle.season).isSome) : Hosted s s' := by
  intro id battle' hbattle'
  rw [h] at hbattle'
  rcases StorageMap.insert_eq_some hbattle' with ⟨rfl, rfl⟩ | ⟨-, hbattle'⟩
  · exact hseason
  · exact hhosted id battle' hbattle'

end Keeps

structure Keeps (closing : SeasonId → Prop) (s s' : State cfg) : Prop where
  status : KeepsStatus closing s s'
  paid : KeepsPaid s s'
  hosted : Hosted s s'
  bettings : s'.bettings = s.bettings

theorem keeps_of_perform {c : SeasonCall} (hhosted : Hosted s s) (h : c.perform origin s = .ok s') :
    Keeps (fun id => c = .closeSeason id) s s' := by
  cases c with
  | createSeason date battleType price =>
      simp only [SeasonCall.perform, createSeason, bind_eq_ok, pure_eq_ok] at h
      obtain ⟨_, -, _, -, _, -, rfl⟩ := h
      exact ⟨.insert rfl fun hfinal => by simp at hfinal, .of_eq rfl, hhosted, rfl⟩
  | updateSeason seasonId date battleType price =>
      simp only [SeasonCall.perform, updateSeason, bind_eq_ok, okOr_eq_ok, pure_eq_ok] at h
      obtain ⟨_, -, _, -, _, -, season, hseason, rfl⟩ := h
      exact ⟨.insert rfl fun hfinal => .inr ⟨season, hseason, hfinal⟩, .of_eq rfl, hhosted, rfl⟩
  | setDefaultSeason seasonId =>
      simp only [SeasonCall.perform, setDefaultSeason, bind_eq_ok, pure_eq_ok] at h
      obtain ⟨_, -, _, -, rfl⟩ := h
      exact ⟨.of_eq rfl, .of_eq rfl, hhosted, rfl⟩
  | createBattle seasonId battleType home visiting date =>
      simp only [SeasonCall.perform, createBattle, bind_eq_ok, okOr_eq_ok, pure_eq_ok] at h
      obtain ⟨_, -, season, hseason, _, -, _, -, startTime, -, _, -, _, -, rfl⟩ := h
      exact ⟨.of_eq rfl, .of_eq rfl, hhosted.insert rfl (Option.isSome_of_eq_some hseason), rfl⟩
  | giveAwayTickets seasonId addrs =>
      rw [giveAwayTickets_frame h]
      exact ⟨.of_eq rfl, .of_eq rfl, hhosted, rfl⟩
  | transferTicket seasonId tickets target =>
      rw [transferTicket_frame h]
      exact ⟨.of_eq rfl, .of_eq rfl, hhosted, rfl⟩
  | buyTicket amount inviteCode =>
      simp only [SeasonCall.perform, buyTicket, bind_eq_ok, okOr_eq_ok, pure_eq_ok, Prod.exists] at h
      obtain ⟨who, -, season, hseason, _, -, _, -, _, -, first, hfirst, part, second, hsecond, third, hthird, rfl⟩ := h
      rw [idle_payAwt hthird, payInvitor_frame hsecond, idle_payAwt hfirst]
      exact ⟨.insert rfl fun hfinal => .inr ⟨season, hseason, hfinal⟩, .of_eq rfl, hhosted, rfl⟩
  | initialVote seasonId ticketsAmount votes =>
      simp only [SeasonCall.perform, initialVote, bind_eq_ok, pure_eq_ok] at h
      obtain ⟨who, -, _, -, season, -, _, -, m, -, _, -, rfl⟩ := h
      exact ⟨.of_eq rfl, .insert rfl fun hflag => hflag, hhosted, rfl⟩
  | appendVote seasonId selectIndex battleType amount votes =>
      simp only [SeasonCall.perform, appendVote, bind_eq_ok] at h
      obtain ⟨who, -, _, -, season, -, _, -, old, -, _, -, _, -, h⟩ := h
      split at h
      · simp only [extendBallot, bind_eq_ok, pure_eq_ok] at h
        obtain ⟨m, -, rfl⟩ := h
        exact ⟨.of_eq rfl, .insert rfl fun hflag => hflag, hhosted, rfl⟩
      · simp only [splitBallot, bind_eq_ok, pure_eq_ok] at h
        obtain ⟨_, -, m, -, rfl⟩ := h
        exact ⟨.of_eq rfl, .insert rfl fun hflag => hflag, hhosted, rfl⟩
  | setResult battleId homeScore visitingScore =>
      simp only [SeasonCall.perform, setResult, bind_eq_ok, okOr_eq_ok, pure_eq_ok] at h
      obtain ⟨_, -, battle, hbattle, _, -, rfl⟩ := h
      exact ⟨.of_eq rfl, .of_eq rfl, hhosted.insert rfl (hhosted battleId battle hbattle), rfl⟩
  | finalsSettle battleId =>
      simp only [SeasonCall.perform, finalsSettle, bind_eq_ok, okOr_eq_ok, Prod.exists] at h
      obtain ⟨_, -, battle, hbattle, _, -, _, -, _, _, _, -, mid, hmid, h⟩ := h
      have hmid := updateParticipantPoint_tally hmid
      split at h
      · obtain ⟨season, hseason, h⟩ := bind_eq_ok.mp h
        rw [← pure_eq_ok.mp h, hmid]
        rw [hmid] at hseason
        exact ⟨.insert rfl fun hfinal => .inr ⟨season, okOr_eq_ok.mp hseason, hfinal⟩, .of_eq rfl,
          hhosted.insert rfl (hhosted battleId battle hbattle), rfl⟩
      · rw [← pure_eq_ok.mp h, hmid]
        exact ⟨.of_eq rfl, .of_eq rfl, hhosted.insert rfl (hhosted battleId battle hbattle), rfl⟩
  | leagueSettle battleId =>
      obtain ⟨battle, diff, winner, loser, hbattle, -, -, hs'⟩ := leagueSettle_eq_ok h
      rw [hs']
      exact ⟨.of_eq rfl, .of_eq rfl, hhosted.insert rfl (hhosted battleId battle hbattle), rfl⟩
  | closeSeason seasonId =>
      simp only [SeasonCall.perform, closeSeason, bind_eq_ok, pure_eq_ok, Prod.exists] at h
      obtain ⟨_, -, season, -, _, _, -, rfl⟩ := h
      exact ⟨.insert rfl fun _ => .inl rfl, .of_eq rfl, hhosted, rfl⟩
  | claim seasonId =>
      simp only [SeasonCall.perform, claim, bind_eq_ok, pure_eq_ok] at h
      obtain ⟨who, -, season, -, _, -, _, -, total, -, mid, hmid, rfl⟩ := h
      rw [idle_payAwt hmid]
      exact ⟨.of_eq rfl, .insert rfl fun hflag => by simp at hflag, hhosted, rfl⟩

/-! ### Every safe call keeps the indices -/

section Winners

variable {ballots ballots' : List VoteSelectInfo} {votes : List VoteSelect}

theorem HasWinners.mono (h : HasWinners seasonId ballots s)
    (hwinners : ∀ id, (winnerOf seasonId id s).isSome → (winnerOf seasonId id s').isSome) :
    HasWinners seasonId ballots s' :=
  fun ballot hballot v hv => hwinners v.battleId (h ballot hballot v hv)

theorem HasWinners.congr (h : HasWinners seasonId ballots s) (hwinners : s'.seasonWinners = s.seasonWinners) :
    HasWinners seasonId ballots s' := by
  refine h.mono fun id hsome => ?_
  rwa [winnerOf, hwinners]

/-- A ballot more, whose battles have winners. -/
theorem HasWinners.snoc {ballot : VoteSelectInfo} (h : HasWinners seasonId ballots s)
    (hvotes : ∀ v ∈ ballot.selects, (winnerOf seasonId v.battleId s).isSome) :
    HasWinners seasonId (ballots ++ [ballot]) s := by
  intro ballot' hmem
  rcases List.mem_append.mp hmem with hmem | hmem
  · exact h ballot' hmem
  · rwa [List.mem_singleton.mp hmem]

theorem HasWinners.set {ballot : VoteSelectInfo} {i : Nat} (h : HasWinners seasonId ballots s)
    (hvotes : ∀ v ∈ ballot.selects, (winnerOf seasonId v.battleId s).isSome) :
    HasWinners seasonId (ballots.set i ballot) s := by
  intro ballot' hmem
  rcases List.mem_or_eq_of_mem_set hmem with hmem | rfl
  · exact h ballot' hmem
  · exact hvotes

theorem HasWinners.append {old : VoteSelectInfo} {i : Nat} (h : HasWinners seasonId ballots s)
    (hold : ballots[i]? = some old) (hvotes : ∀ v ∈ votes, (winnerOf seasonId v.battleId s).isSome) :
    ∀ v ∈ old.selects ++ votes, (winnerOf seasonId v.battleId s).isSome := by
  intro v hv
  rcases List.mem_append.mp hv with hv | hv
  · exact h old (List.mem_of_getElem? hold) v hv
  · exact hvotes v hv

end Winners

theorem winnerOf_setResult {winner : NpcId} (h : s'.seasonWinners = s.seasonWinners.insert seasonId
    (((s.seasonWinners seasonId).getD ∅).insert battleId winner)) (seasonId' : SeasonId) (id : BattleId)
    (hsome : (winnerOf seasonId' id s).isSome) : (winnerOf seasonId' id s').isSome := by
  rw [winnerOf_insert h]
  split
  · rfl
  · exact hsome

/-- The ballots of an account with a bonus to claim have winners after a step if they have whenever the season was
closed before, or the step closes it. -/
theorem Defined.next {closing : SeasonId → Prop} (hinv : Defined s) (hkeeps : Keeps closing s s')
    (hscored : ∀ id battle, s'.battles id = some battle → battle.status ≠ .running →
      battle.homeScore.isSome ∧ battle.visitingScore.isSome)
    (hindexed : ∀ seasonId who (i : SelectIndex), (s'.participantPoints.lookup (seasonId, who, i)).isSome →
      i.toNat < (votesOf who seasonId s').1.length)
    (hclosing : ∀ seasonId who, closing seasonId → (votesOf who seasonId s).2 = false →
      HasWinners seasonId (votesOf who seasonId s).1 s)
    (hwon : ∀ seasonId who, (closing seasonId ∨ Closed seasonId s) → (votesOf who seasonId s).2 = false →
      HasWinners seasonId (votesOf who seasonId s).1 s → HasWinners seasonId (votesOf who seasonId s').1 s') :
    Defined s' := by
  refine ⟨hscored, fun id battle hbattle => ?_, hindexed, fun seasonId who hclosed hunpaid => ?_,
    fun id betting hbetting => ?_⟩
  · exact hkeeps.status.present _ (hkeeps.hosted id battle hbattle)
  · have hbefore := hkeeps.paid who seasonId hunpaid
    have hcases := hkeeps.status.closed seasonId hclosed
    refine hwon seasonId who hcases hbefore ?_
    rcases hcases with hc | hc
    · exact hclosing seasonId who hc hbefore
    · exact hinv.won seasonId who hc hbefore
  · exact hinv.shaped id betting (hkeeps.bettings ▸ hbetting)

/-- Another battle, or one that has scores unless it is running. -/
theorem Defined.scored_insert (hinv : Defined s) {battle : Battle} (h : s'.battles = s.battles.insert battleId battle)
    (hscores : battle.status ≠ .running → battle.homeScore.isSome ∧ battle.visitingScore.isSome) (id : BattleId)
    (battle' : Battle) (hid : s'.battles id = some battle') (hstatus : battle'.status ≠ .running) :
    battle'.homeScore.isSome ∧ battle'.visitingScore.isSome := by
  rw [h] at hid
  rcases StorageMap.insert_eq_some hid with ⟨rfl, rfl⟩ | ⟨-, hid⟩
  · exact hscores hstatus
  · exact hinv.scored id battle' hid hstatus

/-- Settling a battle counts it for those who voted on it, all of whom have a ballot in its season. -/
theorem Defined.indexed_tally (hinv : Defined s) {battle : Battle} {winner : NpcId}
    (hbattle : s.battles battleId = some battle) (hvoted : VotedInSeason battleId s)
    (hpoints : s'.participantPoints =
      tally battle.season winner ((s.votesForCalc battleId).getD ∅).entries s.participantPoints)
    (hvotes : s'.voteSelectInfos = s.voteSelectInfos) (seasonId : SeasonId) (who : AccountId) (i : SelectIndex)
    (hsome : (s'.participantPoints.lookup (seasonId, who, i)).isSome) :
    i.toNat < (votesOf who seasonId s').1.length := by
  rw [votesOf_congr hvotes]
  cases hpick : pickOf s.votesForCalc battleId (who, i) with
  | some npcId =>
      by_cases hseason : seasonId = battle.season
      · rw [hseason]
        exact hvoted battle hbattle who i npcId hpick
      · rw [hpoints, lookup_tally_of_none fun heq => absurd heq hseason] at hsome
        exact hinv.indexed seasonId who i hsome
  | none =>
      rw [hpoints, lookup_tally_of_none fun _ => hpick] at hsome
      exact hinv.indexed seasonId who i hsome

/-- The ballots of one account in a season change. -/
theorem Defined.vote {closing : SeasonId → Prop} (hinv : Defined s) (hkeeps : Keeps closing s s')
    (hopen : ∀ id, ¬ closing id) {ballots : List VoteSelectInfo} {flag : Bool}
    (hinfos : s'.voteSelectInfos = s.voteSelectInfos.insert (who, seasonId) (ballots, flag))
    (hlength : (votesOf who seasonId s).1.length ≤ ballots.length) (hbattles : s'.battles = s.battles)
    (hwinners : s'.seasonWinners = s.seasonWinners)
    (hpoints : ∀ seasonId' who' (i : SelectIndex), (s'.participantPoints.lookup (seasonId', who', i)).isSome →
      (s.participantPoints.lookup (seasonId', who', i)).isSome ∨
        (seasonId', who') = (seasonId, who) ∧ i.toNat < ballots.length)
    (hballots : Closed seasonId s → (votesOf who seasonId s).2 = false →
      HasWinners seasonId (votesOf who seasonId s).1 s → HasWinners seasonId ballots s) : Defined s' := by
  refine hinv.next hkeeps (fun id battle hid => ?_) (fun seasonId' who' i hsome => ?_)
    (fun id _ hclosing => absurd hclosing (hopen id)) fun seasonId' who' hcases hunpaid hbefore => ?_
  · rw [hbattles] at hid
    exact hinv.scored id battle hid
  · rw [votesOf_insert hinfos]
    rcases hpoints seasonId' who' i hsome with hold | ⟨heq, hlt⟩
    · have hlt := hinv.indexed seasonId' who' i hold
      split
      · rename_i heq
        obtain ⟨rfl, rfl⟩ := Prod.mk.inj heq
        exact Nat.lt_of_lt_of_le hlt hlength
      · exact hlt
    · obtain ⟨rfl, rfl⟩ := Prod.mk.inj heq
      rwa [if_pos rfl]
  · have hclosed := hcases.resolve_left (hopen seasonId')
    rw [votesOf_insert hinfos]
    split
    · rename_i heq
      obtain ⟨rfl, rfl⟩ := Prod.mk.inj heq
      exact (hballots hclosed hunpaid hbefore).congr hwinners
    · exact hbefore.congr hwinners

theorem Defined.perform {c : SeasonCall} (hinv : Defined s) (hsafe : AnyCall.Safe s origin (.onSeason c))
    (h : c.perform origin s = .ok s') : Defined s' := by
  have hkeeps := keeps_of_perform hinv.hosted h
  cases effect_of_perform h with
  | idle hidle =>
      refine hinv.next hkeeps (fun id battle hid => ?_) (fun seasonId who i hsome => ?_)
        (fun seasonId who hclosing hunpaid => ?_) fun seasonId who _ _ hbefore => ?_
      · rw [hidle.battles] at hid
        exact hinv.scored id battle hid
      · rw [hidle.points] at hsome
        rw [hidle.ballots]
        exact hinv.indexed seasonId who i hsome
      · rw [hclosing] at hsafe
        exact hsafe who hunpaid
      · rw [hidle.ballots]
        exact hbefore.congr hidle.winners
  | createBattle battle hstatus =>
      refine hinv.next hkeeps (hinv.scored_insert rfl fun hnot => absurd hstatus hnot) hinv.indexed
        (fun id _ hclosing => by simp at hclosing) fun seasonId who _ _ hbefore => hbefore.congr rfl
  | setResult battle hbattle =>
      refine hinv.next hkeeps (hinv.scored_insert rfl fun _ => ⟨rfl, rfl⟩) hinv.indexed
        (fun id _ hclosing => by simp at hclosing) fun seasonId who _ _ hbefore => ?_
      exact hbefore.mono fun id hsome => winnerOf_setResult rfl seasonId id hsome
  | @settle battleId c s s' battle winner hc hbattle hcompleted hwinner hs' =>
      have hvoted : VotedInSeason battleId s := by
        rcases hc with rfl | rfl <;> exact hsafe
      have hscores := hinv.scores hbattle hcompleted
      have hinfos : s'.voteSelectInfos = s.voteSelectInfos := by rw [hs']
      refine hinv.next hkeeps (hinv.scored_insert (congrArg State.battles hs') fun _ => hscores)
        (hinv.indexed_tally hbattle hvoted (congrArg State.participantPoints hs') hinfos)
        (fun id _ hclosing => by rcases hc with rfl | rfl <;> simp at hclosing) fun seasonId who _ _ hbefore => ?_
      rw [hs']
      exact hbefore.congr rfl
  | @initialVote seasonId ticketsAmount votes s votesForCalc who horigin hne hticket hvotable hnodup hrecord =>
      refine hinv.vote hkeeps (by simp) rfl ?_ rfl rfl (fun _ _ _ hsome => .inl hsome)
        fun hclosed hunpaid hbefore => ?_
      · rw [List.length_append]
        exact Nat.le_add_right _ _
      · exact hbefore.snoc (hsafe who horigin hclosed hunpaid)
  | @extend seasonId selectIndex battleType amount votes s votesForCalc who old horigin hold hvotable hnodup hrecord =>
      refine hinv.vote hkeeps (by simp) rfl ?_ rfl rfl (fun _ _ _ hsome => .inl hsome)
        fun hclosed hunpaid hbefore => ?_
      · rw [List.length_set]
      · exact hbefore.set (hbefore.append hold (hsafe who horigin hclosed hunpaid))
  | @split seasonId selectIndex battleType amount votes s votesForCalc who old horigin hold hamount hvotable hnodup
      hrecord =>
      refine hinv.vote hkeeps (by simp) rfl ?_ rfl rfl (fun seasonId' who' i hsome => ?_)
        fun hclosed hunpaid hbefore => ?_
      · rw [List.length_append, List.length_set]
        exact Nat.le_add_right _ _
      · rw [IterMap.lookup_insert] at hsome
        split at hsome
        · rename_i heq
          simp only [Prod.mk.injEq] at heq
          obtain ⟨rfl, rfl, rfl⟩ := heq
          refine .inr ⟨rfl, ?_⟩
          rw [List.length_append, List.length_set, BitVec.toNat_ofNat]
          exact Nat.lt_succ_of_le (Nat.mod_le _ _)
        · exact .inl hsome
      · have hall := hbefore.append hold (hsafe who horigin hclosed hunpaid)
        have hset := @HasWinners.set _ s seasonId _ { old with ticketAmount := old.ticketAmount - amount } selectIndex.toNat
          hbefore fun v hv => hall v (List.mem_append_left _ hv)
        exact hset.snoc hall

/-- A battle may start anew in any season there is, since it has no result any more. -/
theorem Defined.updateBattle (hinv : Defined s) {battleType : BattleType} {home visiting : NpcId}
    {startTimeStr : List UInt8}
    (h : updateBattle origin battleId seasonId battleType home visiting startTimeStr s = .ok s') : Defined s' := by
  simp only [AbyssTournament.updateBattle, bind_eq_ok, okOr_eq_ok, pure_eq_ok] at h
  obtain ⟨_, -, season, hseason, _, -, _, -, startTime, -, _, -, _, -, rfl⟩ := h
  have hhosted : Hosted s s := hinv.hosted
  have hsome : (s.seasons seasonId).isSome := Option.isSome_of_eq_some hseason
  have hkeeps : Keeps (fun _ => False) s { s with
      battles := s.battles.insert battleId
        ⟨seasonId, home, battleType, visiting, .running, startTime, none, none⟩ } :=
    ⟨.of_eq rfl, .of_eq rfl, hhosted.insert rfl hsome, rfl⟩
  exact hinv.next hkeeps (hinv.scored_insert rfl fun hnot => absurd rfl hnot) hinv.indexed
    (fun _ _ hfalse => hfalse.elim) fun seasonId who _ _ hbefore => hbefore.congr rfl

/-! ### Calls on bettings keep their shape -/

section Shape

variable {betting : Betting} {item : OddsItem}

theorem Betting.Shaped.set {odds : List OddsItem} {i : Nat} (h : Betting.Shaped { betting with odds })
    (hitem : odds[i]? = some item) {new : OddsItem} (hscore : new.score = item.score)
    (hwinLose : new.winLose = item.winLose) : Betting.Shaped { betting with odds := odds.set i new } := by
  have hmem : item ∈ odds := List.mem_of_getElem? hitem
  refine ⟨?_, fun htype item' hitem' => ?_, fun htype item' hitem' => ?_⟩
  · rw [List.length_set]
    exact h.indexed
  · rcases List.mem_or_eq_of_mem_set hitem' with hold | rfl
    · exact h.score htype item' hold
    · rw [hscore]
      exact h.score htype item hmem
  · rcases List.mem_or_eq_of_mem_set hitem' with hold | rfl
    · exact h.winLose htype item' hold
    · rw [hwinLose]
      exact h.winLose htype item hmem

theorem Betting.shaped_of_check (h : betting.check = true) : betting.Shaped := by
  simp only [Betting.check, Bool.and_eq_true, decide_eq_true_eq, List.all_eq_true] at h
  obtain ⟨⟨hbattles, hitems⟩, hlength⟩ := h
  refine ⟨?_, fun htype item hitem => ?_, fun htype item hitem => ?_⟩
  · cases htype : betting.bettingType with
    | score =>
        simp only [htype, Bool.and_eq_true, decide_eq_true_eq, hbattles] at hlength
        exact hlength.1.trans_le (by decide)
    | winLose =>
        simp only [htype, Bool.and_eq_true, decide_eq_true_eq, hbattles] at hlength
        exact hlength.1.trans_le (by decide)
  · have hcheck := hitems item hitem
    simp only [OddsItem.check, htype, Bool.and_eq_true, decide_eq_true_eq] at hcheck
    exact hcheck.1.1.le
  · have hcheck := hitems item hitem
    simp only [OddsItem.check, htype, Bool.and_eq_true, decide_eq_true_eq] at hcheck
    exact hcheck.1.1.le

/-- Writing a betting of this shape. -/
theorem shaped_insert (hinv : Defined s) (h : s'.bettings = s.bettings.insert id betting) (hshaped : betting.Shaped)
    (id' : BettingId) (betting' : Betting) (hid : s'.bettings id' = some betting') : betting'.Shaped := by
  rw [h] at hid
  rcases StorageMap.insert_eq_some hid with ⟨rfl, rfl⟩ | ⟨-, hid⟩
  · exact hshaped
  · exact hinv.shaped id' betting' hid

end Shape

/-- Only bettings, bets and balances change. -/
structure OnBettings (s s' : State cfg) : Prop where
  frame : s' = { s with
    nextBettingId := s'.nextBettingId
    bettings := s'.bettings
    bettingByBattle := s'.bettingByBattle
    bettingRecords := s'.bettingRecords
    bettingInviteAmount := s'.bettingInviteAmount
    asset := s'.asset
    refunds := s'.refunds }
  shaped : ∀ id betting, s'.bettings id = some betting → betting.Shaped

theorem bet_onBettings (hinv : Defined s) {itemIndex : SelectIndex} {amount : U128} {betting : Betting}
    (h : bet who id itemIndex amount s = .ok (betting, s')) : OnBettings s s' := by
  obtain ⟨item, paid, hbetting, hitem, -, -, hs'⟩ := bet_eq_ok h
  have hshaped := hinv.shaped id betting hbetting
  constructor
  · rw [hs']
  · exact shaped_insert hinv (congrArg State.bettings hs') (hshaped.set hitem rfl rfl)

theorem onBettings_of_dispatch (hinv : Defined s) {c : Call} (hc : c.battle? = none)
    (h : dispatch origin s c = .ok s') : OnBettings s s' := by
  cases c with
  | createBetting bettingType battles odditemParams seasonId pledgeAmount =>
      simp only [dispatch, createBetting, bind_eq_ok, ensure_eq_ok, pure_eq_ok, exists_const, Prod.exists] at h
      obtain ⟨_, -, -, odds, -, _, -, hcheck, paid, asset, -, rfl⟩ := h
      exact ⟨rfl, shaped_insert hinv rfl (Betting.shaped_of_check hcheck)⟩
  | goBet bettingId itemIndex amount =>
      obtain ⟨who, betting, -, hbet⟩ := goBet_eq_ok h
      exact bet_onBettings hinv hbet
  | goBetWithInvite bettingId itemIndex amount inviteCode =>
      obtain ⟨who, betting, mid, -, hbet, hs'⟩ := goBetWithInvite_eq_ok h
      have hmid := bet_onBettings hinv hbet
      constructor
      · rw [hs', hmid.frame]
      · rw [hs']
        exact hmid.shaped
  | appendBettingPledge bettingId amount =>
      obtain ⟨who, betting, paid, -, hbetting, -, hs'⟩ := appendBettingPledge_eq_ok h
      have hshaped := hinv.shaped bettingId betting hbetting
      exact ⟨by rw [hs'], shaped_insert hinv (congrArg State.bettings hs')
        ⟨hshaped.indexed, hshaped.score, hshaped.winLose⟩⟩
  | updateOdds bettingId odds =>
      simp only [dispatch, updateOdds, bind_eq_ok, okOr_eq_ok, pure_eq_ok] at h
      obtain ⟨who, -, betting, hbetting, _, -, items, hitems, rfl⟩ := h
      refine ⟨rfl, shaped_insert hinv rfl ?_⟩
      refine foldlM_invariant (fun items => Betting.Shaped { betting with odds := items })
        (fun items o items' ih h => ?_) (hinv.shaped bettingId betting hbetting) hitems
      simp only [bind_eq_ok, okOr_eq_ok, ensure_eq_ok, pure_eq_ok, exists_const] at h
      obtain ⟨item, hitem, -, rfl⟩ := h
      exact ih.set hitem rfl rfl
  | dropBetting bettingId =>
      obtain ⟨betting, value, paid, hbetting, -, hs'⟩ := dropBetting_eq_ok h
      have hshaped := hinv.shaped bettingId betting hbetting
      exact ⟨by rw [hs'], shaped_insert hinv (congrArg State.bettings hs')
        ⟨hshaped.indexed, hshaped.score, hshaped.winLose⟩⟩
  | revokeRemainCompensate bettingId =>
      obtain ⟨betting, hitIndex, item, -, -, -, -, ⟨-, rfl⟩ | ⟨-, paid, -, hs'⟩⟩ := revokeRemainCompensate_eq_ok h
      · exact ⟨rfl, hinv.shaped⟩
      · exact ⟨by rw [hs'], by rw [hs']; exact hinv.shaped⟩
  | bettingClaim bettingId =>
      obtain ⟨who, betting, hitIndex, -, -, -, -, -, hs'⟩ := bettingClaim_eq_ok h
      exact ⟨by rw [hs'], by rw [hs']; exact hinv.shaped⟩
  | setResult | finalsSettle | leagueSettle => exact absurd hc (by simp [Call.battle?])

/-- What changes on a betting, no other index depends on. -/
theorem Defined.onBettings (hinv : Defined s) (h : OnBettings s s') : Defined s' := by
  refine ⟨?_, ?_, ?_, ?_, h.shaped⟩
  · rw [h.frame]
    exact hinv.scored
  · rw [h.frame]
    exact hinv.hosted
  · rw [h.frame]
    exact hinv.indexed
  · rw [h.frame]
    exact hinv.won

/-! ### In every run -/

theorem defined_of_blank (h : Blank s) : Defined s := by
  refine ⟨fun id battle hbattle => ?_, fun id battle hbattle => ?_, fun seasonId who i hsome => ?_,
    fun seasonId who hclosed => ?_, fun id betting hbetting => ?_⟩
  · exact absurd ((h.battles id).symm.trans hbattle) (by simp)
  · exact absurd ((h.battles id).symm.trans hbattle) (by simp)
  · rw [h.participantPoints] at hsome
    exact absurd hsome (by simp)
  · obtain ⟨season, hseason, -⟩ := hclosed
    exact absurd ((h.seasons seasonId).symm.trans hseason) (by simp)
  · exact absurd ((h.bettings id).symm.trans hbetting) (by simp)

theorem Defined.run (hinv : Defined s) {c : AnyCall} (hsafe : c.Safe s origin) (h : c.run origin s = .ok s') :
    Defined s' := by
  cases c with
  | onBetting c hc => exact hinv.onBettings (onBettings_of_dispatch hinv hc h)
  | onSeason c => exact hinv.perform hsafe h
  | updateBattle battleId seasonId battleType home visiting startTimeStr => exact hinv.updateBattle h

theorem defined_of_reachable
    (h : Transition.Reachable Blank (TournamentStep fun s origin c => c.Safe s origin) s) : Defined s := by
  refine h.invariant Defined (fun s hs => defined_of_blank hs) fun s s' hinv hstep => ?_
  cases hstep with
  | call origin c hsafe h => exact hinv.run hsafe h
  | outside => exact ⟨hinv.scored, hinv.hosted, hinv.indexed, hinv.won, hinv.shaped⟩

/-- In every state that safe calls lead to, none of these calls panics, whoever calls it with whatever arguments. -/
theorem calls_return (hreturns : TransferReturns cfg.token)
    (h : Transition.Reachable Blank (TournamentStep fun s origin c => c.Safe s origin) s) (origin : Origin) :
    (∀ seasonId, claim origin seasonId s ≠ .error .panic) ∧
      (∀ seasonId, closeSeason origin seasonId s ≠ .error .panic) ∧
      (∀ battleId, finalsSettle origin battleId s ≠ .error .panic) ∧
      (∀ battleId, leagueSettle origin battleId s ≠ .error .panic) ∧
      (∀ bettingId, bettingClaim origin bettingId s ≠ .error .panic) ∧
      ∀ bettingId, revokeRemainCompensate origin bettingId s ≠ .error .panic := by
  have hinv := defined_of_reachable h
  exact ⟨fun _ => claim_ne_panic hreturns hinv, fun _ => closeSeason_ne_panic hinv,
    fun _ => finalsSettle_ne_panic hinv, fun _ => leagueSettle_ne_panic hinv,
    fun _ => bettingClaim_ne_panic hreturns hinv, fun _ => revokeRemainCompensate_ne_panic hreturns hinv⟩

theorem plain_transferReturns : TransferReturns plainConfig.token := PlainBalances.transfer_ne_panic

theorem blank_emptyState (asset : Token.State cfg.token) : Blank (emptyState cfg asset) :=
  ⟨noSeason_emptyState asset, fun _ => rfl⟩

/-- The season is closed after its battle was settled, and the entry for alice has its ballot. -/
theorem calls_return_settled : ∃ s : State plainConfig, (votesOf Token.alice 1 s).1 = [⟨1, [⟨1, 1⟩]⟩] ∧
    s.participantPoints.entries = [⟨(1, Token.alice, 0), (1, 1, 3)⟩] ∧
      closeSeason (.signed organizer) 1 s ≠ .error .panic := by
  obtain ⟨⟨s₁, s₂, s₃, s₄, s₅, s₆⟩, hrun, hcheck⟩ := exists_of_succeedsWith
    (x := wonSeason 1000000000000000001)
    (p := fun x => decide ((x.2.2.1.seasons 1).map Season.status = some .initial) &&
      decide (((x.2.2.2.2.1.votesForCalc 1).getD ∅).entries = [⟨(Token.alice, 0), 1⟩]) &&
      decide ((x.2.2.2.2.1.battles 1).map Battle.season = some 1) &&
      decide ((votesOf Token.alice 1 x.2.2.2.2.1).1.length = 1) &&
      decide ((votesOf Token.alice 1 x.2.2.2.2.2).1 = [⟨1, [⟨1, 1⟩]⟩]) &&
      decide (x.2.2.2.2.2.participantPoints.entries = [⟨(1, Token.alice, 0), (1, 1, 3)⟩])) (by decide +kernel)
  simp only [Bool.and_eq_true, decide_eq_true_eq] at hcheck
  obtain ⟨⟨⟨⟨⟨hstatus, hentries⟩, hbattle⟩, hlength⟩, hballots⟩, hpoints⟩ := hcheck
  simp only [wonSeason, bind_eq_ok, pure_eq_ok, Prod.mk.injEq] at hrun
  obtain ⟨t₁, h₁, t₂, h₂, t₃, h₃, t₄, h₄, t₅, h₅, t₆, h₆, rfl, rfl, rfl, rfl, rfl, rfl⟩ := hrun
  have hopen : VotesDecided 1 [⟨1, 1⟩] (.signed Token.alice) t₃ := by
    rintro who - ⟨season, hseason, hfinal⟩
    rw [hseason, Option.map_some, hfinal] at hstatus
    exact absurd hstatus (by simp)
  have hvoted : VotedInSeason 1 t₅ := by
    intro battle hb who i npcId hpick
    rw [hb, Option.map_some] at hbattle
    have hmem := IterMap.mem_entries.mpr hpick
    rw [hentries] at hmem
    simp only [List.mem_singleton, Sigma.mk.injEq, Prod.mk.injEq] at hmem
    rw [Option.some.inj hbattle, hmem.1.1, hmem.1.2, hlength]
    exact Nat.zero_lt_one
  have hreach : Transition.Reachable Blank (TournamentStep fun s origin c => c.Safe s origin) t₆ :=
    ⟨_, blank_emptyState _, (((((Relation.ReflTransGen.single
      (.call _ (.onSeason (.createSeason [] .finals 1000000000000000001)) trivial h₁)).tail
      (.call _ (.onSeason (.createBattle 1 .finals 1 2 [1])) trivial h₂)).tail
      (.call _ (.onSeason (.giveAwayTickets 1 [1])) trivial h₃)).tail
      (.call _ (.onSeason (.initialVote 1 1 [⟨1, 1⟩])) hopen h₄)).tail
      (.call _ (.onSeason (.setResult 1 3 0)) trivial h₅)).tail
      (.call _ (.onSeason (.finalsSettle 1)) hvoted h₆)⟩
  exact ⟨t₆, hballots, hpoints, (calls_return plain_transferReturns hreach (.signed organizer)).2.1 1⟩

/-- The season is closed before its battle has a result, and alice claims. -/
theorem early_close_panics : ∃ s : State plainConfig,
    Transition.Reachable Blank (TournamentStep fun _ _ _ => True) s ∧
      claim (.signed Token.alice) 1 s = .error .panic := by
  obtain ⟨⟨s₁, s₂, s₃, s₄, s₅⟩, hrun, hcheck⟩ := exists_of_succeedsWith
    (x := do
      let s₁ ← createSeason (.signed organizer) [] .finals 1000000000000000001
        (emptyState plainConfig (.genesis fun _ => (0, 0)))
      let s₂ ← createBattle (.signed organizer) 1 .finals 1 2 [1] s₁
      let s₃ ← giveAwayTickets (.signed organizer) 1 [1] s₂
      let s₄ ← initialVote (.signed Token.alice) 1 1 [⟨1, 1⟩] s₃
      let s₅ ← closeSeason (.signed organizer) 1 s₄
      return (s₁, s₂, s₃, s₄, s₅))
    (p := fun x => panics (claim (.signed Token.alice) 1 x.2.2.2.2)) (by decide +kernel)
  simp only [bind_eq_ok, pure_eq_ok, Prod.mk.injEq] at hrun
  obtain ⟨t₁, h₁, t₂, h₂, t₃, h₃, t₄, h₄, t₅, h₅, rfl, rfl, rfl, rfl, rfl⟩ := hrun
  refine ⟨t₅, ⟨_, blank_emptyState _, ((((Relation.ReflTransGen.single
    (.call _ (.onSeason (.createSeason [] .finals 1000000000000000001)) trivial h₁)).tail
    (.call _ (.onSeason (.createBattle 1 .finals 1 2 [1])) trivial h₂)).tail
    (.call _ (.onSeason (.giveAwayTickets 1 [1])) trivial h₃)).tail
    (.call _ (.onSeason (.initialVote 1 1 [⟨1, 1⟩])) trivial h₄)).tail
    (.call _ (.onSeason (.closeSeason 1)) trivial h₅)⟩, panics_iff.mp hcheck⟩

end Fusotao.AbyssTournament
