import Fusotao.Base.Transition
import Fusotao.AbyssTournament.Voting

/-!
# Ballots

How a ballot voted is kept twice: in the ballots of its owner, and for each battle. Both are the same, as long as a
season has no more ballots of an account than there are indices, and no id is given to two battles.
-/

namespace Fusotao.AbyssTournament

open Exec

variable {cfg : Config} {s s' : State cfg} {who : AccountId} {seasonId : SeasonId} {origin : Origin} {c : SeasonCall}

/-! ### Votes on a battle -/

/-- How a ballot voted on a battle, as the battle has it. -/
def pickOf (m : VoteMap) (battleId : BattleId) (key : AccountId × SelectIndex) : Option NpcId :=
  ((m battleId).getD ∅).lookup key

section Record

variable {m m' : VoteMap} {index : SelectIndex} {votes : List VoteSelect}

theorem pickOf_recordVote {v : VoteSelect} (h : recordVote cfg who index m v = .ok m') (battleId : BattleId)
    (key : AccountId × SelectIndex) : pickOf m' battleId key =
      if battleId = v.battleId ∧ key = (who, index) then some v.npcId else pickOf m battleId key := by
  simp only [recordVote, bind_eq_ok, pure_eq_ok] at h
  obtain ⟨-, -, rfl⟩ := h
  rw [pickOf, StorageMap.insert_apply]
  by_cases hbattle : battleId = v.battleId
  · rw [if_pos hbattle, Option.getD_some, IterMap.lookup_insert, hbattle]
    simp only [true_and]
    rfl
  · rw [if_neg hbattle, if_neg fun hboth => hbattle hboth.1]
    rfl

/-- All votes of a ballot are written down, and nothing else. -/
structure Recorded (who : AccountId) (index : SelectIndex) (votes : List VoteSelect) (m m' : VoteMap) : Prop where
  written : ∀ v ∈ votes, pickOf m' v.battleId (who, index) = some v.npcId
  battles : ∀ battleId, battleId ∉ votes.map VoteSelect.battleId →
    pickOf m' battleId (who, index) = pickOf m battleId (who, index)
  others : ∀ battleId key, key ≠ (who, index) → pickOf m' battleId key = pickOf m battleId key

theorem recorded_of_foldlM (hnodup : (votes.map VoteSelect.battleId).Nodup)
    (h : votes.foldlM (recordVote cfg who index) m = .ok m') : Recorded who index votes m m' := by
  induction votes generalizing m with
  | nil =>
      obtain rfl := pure_eq_ok.mp h
      exact ⟨fun v hv => absurd hv List.not_mem_nil, fun _ _ => rfl, fun _ _ _ => rfl⟩
  | cons v votes ih =>
      rw [List.foldlM_cons] at h
      obtain ⟨mid, hmid, hrest⟩ := bind_eq_ok.mp h
      rw [List.map_cons, List.nodup_cons] at hnodup
      have hpick := pickOf_recordVote hmid
      have hlater := ih hnodup.2 hrest
      refine ⟨List.forall_mem_cons.mpr ⟨?_, hlater.written⟩, fun battleId hnot => ?_, fun battleId key hkey => ?_⟩
      · rw [hlater.battles _ hnodup.1, hpick, if_pos ⟨rfl, rfl⟩]
      · rw [List.map_cons, List.mem_cons, not_or] at hnot
        rw [hlater.battles _ hnot.2, hpick, if_neg fun hboth => hnot.1 hboth.1]
      · rw [hlater.others _ _ hkey, hpick, if_neg fun hboth => hkey hboth.2]

theorem duplicate_eq_false {v : List BattleId} : duplicate v = false ↔ v.Nodup := by
  induction v with
  | nil => simp [duplicate]
  | cons battleId v ih => simp [duplicate, ih]

theorem appendVoteCheckDuplicate_eq_false {old : List BattleId} (hold : old.Nodup)
    (h : appendVoteCheckDuplicate old votes = false) : (old ++ votes.map VoteSelect.battleId).Nodup := by
  induction votes generalizing old with
  | nil => simpa using hold
  | cons v votes ih =>
      simp only [appendVoteCheckDuplicate, Bool.or_eq_false_iff, List.contains_eq_mem, decide_eq_false_iff_not] at h
      have hsnoc : (old ++ [v.battleId]).Nodup :=
        List.nodup_append.mpr ⟨hold, List.nodup_singleton _, by
          rintro a ha b hb rfl
          exact h.1 (List.mem_singleton.mp hb ▸ ha)⟩
      have hall := ih hsnoc h.2
      rwa [List.append_assoc] at hall

end Record

/-! ### What the calls do -/

/-- Neither a battle nor a ballot nor a point changes. -/
structure Idle (s s' : State cfg) : Prop where
  battles : s'.battles = s.battles
  nextBattleId : s'.nextBattleId = s.nextBattleId
  votesForCalc : s'.votesForCalc = s.votesForCalc
  ballots : ∀ who seasonId, (votesOf who seasonId s').1 = (votesOf who seasonId s).1
  points : s'.participantPoints = s.participantPoints
  winners : s'.seasonWinners = s.seasonWinners
  settlements : s'.settlements = s.settlements

/-- The battle of a vote, which is still running. -/
def Votable (seasonId : SeasonId) (s : State cfg) (v : VoteSelect) : Prop :=
  ∃ battle, s.battles v.battleId = some battle ∧ battle.status = .running ∧ battle.season = seasonId

theorem Votable.known {v : VoteSelect} (h : Votable seasonId s v) :
    ∃ battle, s.battles v.battleId = some battle ∧ battle.season = seasonId := by
  obtain ⟨battle, hbattle, -, hseason⟩ := h
  exact ⟨battle, hbattle, hseason⟩

/-- One more battle for each entry, won if the entry names the winner. -/
def tally (seasonId : SeasonId) (winner : NpcId) (entries : List (Sigma fun _ : AccountId × SelectIndex => NpcId))
    (points : IterMap (SeasonId × AccountId × SelectIndex) (BattleAmount × BattleAmount × U32)) :
    IterMap (SeasonId × AccountId × SelectIndex) (BattleAmount × BattleAmount × U32) :=
  entries.foldl
    (fun points entry =>
      let p := (points.lookup (seasonId, entry.1)).getD (0, 0, 0)
      points.insert (seasonId, entry.1)
        (if winner = entry.2 then (p.1 + 1, p.2.1 + 1, p.2.2 + 3) else (p.1 + 1, p.2.1, p.2.2)))
    points

/-- What a call leaves. -/
inductive Effect (origin : Origin) : SeasonCall → State cfg → State cfg → Prop
  | idle {c : SeasonCall} {s s' : State cfg} (h : Idle s s') : Effect origin c s s'
  | createBattle {seasonId : SeasonId} {battleType : BattleType} {home visiting : NpcId} {date : List UInt8}
      {s : State cfg} (battle : Battle) (hstatus : battle.status = .running) :
      Effect origin (.createBattle seasonId battleType home visiting date) s { s with
        battles := s.battles.insert s.nextBattleId battle
        nextBattleId := s.nextBattleId + 1 }
  | setResult {battleId : BattleId} {homeScore visitingScore : Score} {s : State cfg} (battle : Battle)
      (hbattle : s.battles battleId = some battle) :
      Effect origin (.setResult battleId homeScore visitingScore) s { s with
        seasonWinners := s.seasonWinners.insert battle.season (((s.seasonWinners battle.season).getD ∅).insert battleId
          (if homeScore > visitingScore then battle.home else battle.visiting))
        battles := s.battles.insert battleId { battle with
          homeScore := some homeScore
          visitingScore := some visitingScore
          status := .completed } }
  | settle {battleId : BattleId} {c : SeasonCall} {s s' : State cfg} (battle : Battle) (winner : NpcId)
      (hc : c = .finalsSettle battleId ∨ c = .leagueSettle battleId) (hbattle : s.battles battleId = some battle)
      (hcompleted : battle.status = .completed) (hwinner : ∃ scoreDiff loser, battle.calc = .ok (scoreDiff, winner, loser))
      (h : s' = { s with
        participantPoints := tally battle.season winner ((s.votesForCalc battleId).getD ∅).entries s.participantPoints
        battles := s.battles.insert battleId { battle with status := .finalized }
        npcPoints := s'.npcPoints
        seasons := s'.seasons
        settlements := battleId :: s.settlements }) : Effect origin c s s'
  | initialVote {seasonId : SeasonId} {ticketsAmount : U32} {votes : List VoteSelect} {s : State cfg}
      {votesForCalc : VoteMap} (who : AccountId) (horigin : origin = .signed who) (hne : votes ≠ [])
      (hticket : ticketsAmount ≤ (ticketsOf seasonId who s).2 ∧ 0 < ticketsAmount)
      (hvotable : ∀ v ∈ votes, Votable seasonId s v) (hnodup : (votes.map VoteSelect.battleId).Nodup)
      (hrecord : votes.foldlM (recordVote cfg who (BitVec.ofNat 16 (votesOf who seasonId s).1.length))
        s.votesForCalc = .ok votesForCalc) :
      Effect origin (.initialVote seasonId ticketsAmount votes) s { s with
        votesForCalc
        voteSelectInfos := s.voteSelectInfos.insert (who, seasonId)
          ((votesOf who seasonId s).1 ++ [⟨ticketsAmount, votes⟩], (votesOf who seasonId s).2)
        tickets := s.tickets.insert (seasonId, who)
          ((ticketsOf seasonId who s).1, (ticketsOf seasonId who s).2 - ticketsAmount) }
  | extend {seasonId : SeasonId} {selectIndex : SelectIndex} {battleType : U8} {amount : U32}
      {votes : List VoteSelect} {s : State cfg} {votesForCalc : VoteMap} (who : AccountId) (old : VoteSelectInfo)
      (horigin : origin = .signed who) (hold : (votesOf who seasonId s).1[selectIndex.toNat]? = some old)
      (hvotable : ∀ v ∈ votes, Votable seasonId s v)
      (hnodup : (old.selects.map VoteSelect.battleId).Nodup →
        ((old.selects ++ votes).map VoteSelect.battleId).Nodup)
      (hrecord : votes.foldlM (recordVote cfg who selectIndex) s.votesForCalc = .ok votesForCalc) :
      Effect origin (.appendVote seasonId selectIndex battleType amount votes) s { s with
        votesForCalc
        voteSelectInfos := s.voteSelectInfos.insert (who, seasonId)
          ((votesOf who seasonId s).1.set selectIndex.toNat { old with selects := old.selects ++ votes },
            (votesOf who seasonId s).2) }
  | split {seasonId : SeasonId} {selectIndex : SelectIndex} {battleType : U8} {amount : U32}
      {votes : List VoteSelect} {s : State cfg} {votesForCalc : VoteMap} (who : AccountId) (old : VoteSelectInfo)
      (horigin : origin = .signed who) (hold : (votesOf who seasonId s).1[selectIndex.toNat]? = some old)
      (hamount : amount < old.ticketAmount ∧ 0 < amount) (hvotable : ∀ v ∈ votes, Votable seasonId s v)
      (hnodup : (old.selects.map VoteSelect.battleId).Nodup →
        ((old.selects ++ votes).map VoteSelect.battleId).Nodup)
      (hrecord : (old.selects ++ votes).foldlM
        (recordVote cfg who (BitVec.ofNat 16 (votesOf who seasonId s).1.length)) s.votesForCalc = .ok votesForCalc) :
      Effect origin (.appendVote seasonId selectIndex battleType amount votes) s { s with
        votesForCalc
        voteSelectInfos := s.voteSelectInfos.insert (who, seasonId)
          ((votesOf who seasonId s).1.set selectIndex.toNat { old with ticketAmount := old.ticketAmount - amount } ++
            [⟨amount, old.selects ++ votes⟩], (votesOf who seasonId s).2)
        participantPoints := s.participantPoints.insert
          (seasonId, who, BitVec.ofNat 16 (votesOf who seasonId s).1.length)
          (pointsOf seasonId who selectIndex s) }

theorem votesOf_congr (h : s'.voteSelectInfos = s.voteSelectInfos) (who : AccountId) (seasonId : SeasonId) :
    votesOf who seasonId s' = votesOf who seasonId s := by
  rw [votesOf, h, ← votesOf]

theorem votesOf_insert {v : List VoteSelectInfo × Bool}
    (h : s'.voteSelectInfos = s.voteSelectInfos.insert (who, seasonId) v) (who' : AccountId) (seasonId' : SeasonId) :
    votesOf who' seasonId' s' = if (who', seasonId') = (who, seasonId) then v else votesOf who' seasonId' s := by
  rw [votesOf, h, StorageMap.insert_apply]
  split <;> rfl

theorem checkInitialVote_votable {season : Season} {v : VoteSelect}
    (h : checkInitialVote seasonId season v s = .ok ()) : Votable seasonId s v := by
  simp only [checkInitialVote, bind_eq_ok, okOr_eq_ok, ensure_eq_ok, exists_const] at h
  obtain ⟨battle, hbattle, -, hrunning, -, hseason, -⟩ := h
  exact ⟨battle, hbattle, hrunning, hseason⟩

theorem checkAppendVote_votable {v : VoteSelect} (h : checkAppendVote seasonId v s = .ok ()) :
    Votable seasonId s v := by
  simp only [checkAppendVote, bind_eq_ok, okOr_eq_ok, ensure_eq_ok, exists_const] at h
  obtain ⟨battle, hbattle, hrunning, -, hseason, -⟩ := h
  exact ⟨battle, hbattle, hrunning, hseason⟩

theorem idle_payAwt {target : AccountId} {amount : U128} (h : payAwt who target amount s = .ok s') :
    s' = { s with asset := s'.asset } := by
  simp only [payAwt, bind_eq_ok, pure_eq_ok, Prod.exists] at h
  obtain ⟨paid, asset, -, rfl⟩ := h
  rfl

theorem payInvitor_frame {m part : U128} {inviteCode : List UInt8}
    (h : payInvitor who m inviteCode s = .ok (part, s')) : s' = { s with
      asset := s'.asset
      inviteRecords := s'.inviteRecords
      inviteCode := s'.inviteCode } := by
  unfold payInvitor at h
  split at h
  · split at h
    · simp only [bind_eq_ok, pure_eq_ok, Prod.mk.injEq] at h
      obtain ⟨mid, hmid, -, rfl⟩ := h
      rw [idle_payAwt hmid]
    · obtain ⟨-, rfl⟩ := Prod.mk.inj (pure_eq_ok.mp h)
      rfl
  · obtain ⟨-, rfl⟩ := Prod.mk.inj (pure_eq_ok.mp h)
    rfl

theorem buyTicket_frame {amount : U32} {inviteCode : List UInt8} (h : buyTicket origin amount inviteCode s = .ok s') :
    s' = { s with
      asset := s'.asset
      inviteRecords := s'.inviteRecords
      inviteCode := s'.inviteCode
      tickets := s'.tickets
      seasons := s'.seasons } := by
  simp only [buyTicket, bind_eq_ok, pure_eq_ok, Prod.exists] at h
  obtain ⟨_, -, _, -, _, -, _, -, _, -, first, hfirst, part, second, hsecond, third, hthird, rfl⟩ := h
  rw [idle_payAwt hthird, payInvitor_frame hsecond, idle_payAwt hfirst]
  rfl

theorem donate_frame {target : AccountId} (h : donate target s = .ok s') : s' = { s with asset := s'.asset } := by
  unfold donate at h
  split at h
  · rcases ignoreError_eq_ok h with h | rfl
    · simp only [bind_eq_ok, pure_eq_ok, Prod.exists] at h
      obtain ⟨paid, asset, -, rfl⟩ := h
      rfl
    · rfl
  · rw [Except.ok.inj h]

theorem transferTicket_frame {tickets : U32} {target : AccountId}
    (h : transferTicket origin seasonId tickets target s = .ok s') :
    s' = { s with tickets := s'.tickets, asset := s'.asset } := by
  simp only [transferTicket, bind_eq_ok] at h
  obtain ⟨_, -, _, -, h⟩ := h
  rw [donate_frame h]
  rfl

theorem giveAwayTickets_frame {addrs : List UInt8} (h : giveAwayTickets origin seasonId addrs s = .ok s') :
    s' = { s with tickets := s'.tickets } := by
  simp only [giveAwayTickets, bind_eq_ok, pure_eq_ok] at h
  obtain ⟨_, -, v, -, rfl⟩ := h
  refine List.foldlRecOn v _ (motive := fun mid : State cfg => mid = { s with tickets := mid.tickets }) rfl fun mid hmid a _ => ?_
  rw [addTickets, hmid]

/-- The tally of a battle, and its new status. -/
theorem updateParticipantPoint_tally {battleId : BattleId} {battle : Battle} {winner : NpcId}
    (h : updateParticipantPoint seasonId battleId battle winner s = .ok s') : s' = { s with
      participantPoints := tally seasonId winner ((s.votesForCalc battleId).getD ∅).entries s.participantPoints } := by
  simp only [updateParticipantPoint, bind_eq_ok, pure_eq_ok] at h
  obtain ⟨_, -, _, -, rfl⟩ := h
  rfl

theorem finalsSettle_eq_ok {battleId : BattleId} (h : finalsSettle origin battleId s = .ok s') :
    ∃ battle diff winner loser, s.battles battleId = some battle ∧ battle.status = .completed ∧
      battle.calc = .ok (diff, winner, loser) ∧ s' = { s with
        participantPoints := tally battle.season winner ((s.votesForCalc battleId).getD ∅).entries s.participantPoints
        battles := s.battles.insert battleId { battle with status := .finalized }
        npcPoints := s'.npcPoints
        seasons := s'.seasons
        settlements := battleId :: s.settlements } := by
  simp only [finalsSettle, bind_eq_ok, okOr_eq_ok, ensure_eq_ok, Prod.exists] at h
  obtain ⟨_, -, battle, hbattle, _, -, _, hcompleted, diff, winner, loser, hcalc, mid, hmid, h⟩ := h
  refine ⟨battle, diff, winner, loser, hbattle, hcompleted, hcalc, ?_⟩
  have hmid := updateParticipantPoint_tally hmid
  split at h
  · obtain ⟨season, -, h⟩ := bind_eq_ok.mp h
    rw [← pure_eq_ok.mp h, hmid]
    rfl
  · rw [← pure_eq_ok.mp h, hmid]
    rfl

theorem leagueSettle_eq_ok {battleId : BattleId} (h : leagueSettle origin battleId s = .ok s') :
    ∃ battle diff winner loser, s.battles battleId = some battle ∧ battle.status = .completed ∧
      battle.calc = .ok (diff, winner, loser) ∧ s' = { s with
        participantPoints := tally battle.season winner ((s.votesForCalc battleId).getD ∅).entries s.participantPoints
        battles := s.battles.insert battleId { battle with status := .finalized }
        npcPoints := s'.npcPoints
        settlements := battleId :: s.settlements } := by
  simp only [leagueSettle, bind_eq_ok, okOr_eq_ok, ensure_eq_ok, pure_eq_ok, Prod.exists] at h
  obtain ⟨_, -, battle, hbattle, _, hcompleted, _, -, diff, winner, loser, hcalc, mid, hmid, rfl⟩ := h
  refine ⟨battle, diff, winner, loser, hbattle, hcompleted, hcalc, ?_⟩
  rw [updateParticipantPoint_tally hmid]
  unfold updateNpcLeaguePoint
  split <;> rfl

theorem finalsSettle_effect {battleId : BattleId} (h : finalsSettle origin battleId s = .ok s') :
    Effect origin (.finalsSettle battleId) s s' := by
  obtain ⟨battle, diff, winner, loser, hbattle, hcompleted, hcalc, hs'⟩ := finalsSettle_eq_ok h
  exact .settle battle winner (.inl rfl) hbattle hcompleted ⟨diff, loser, hcalc⟩ hs'

theorem leagueSettle_effect {battleId : BattleId} (h : leagueSettle origin battleId s = .ok s') :
    Effect origin (.leagueSettle battleId) s s' := by
  obtain ⟨battle, diff, winner, loser, hbattle, hcompleted, hcalc, hs'⟩ := leagueSettle_eq_ok h
  exact .settle battle winner (.inr rfl) hbattle hcompleted ⟨diff, loser, hcalc⟩ (by rw [hs'])

theorem initialVote_effect {ticketsAmount : U32} {votes : List VoteSelect}
    (h : initialVote origin seasonId ticketsAmount votes s = .ok s') :
    Effect origin (.initialVote seasonId ticketsAmount votes) s s' := by
  simp only [initialVote, bind_eq_ok, ensureSigned_eq_ok, ensure_eq_ok, okOr_eq_ok, pure_eq_ok, exists_const] at h
  obtain ⟨who, rfl, hne, season, -, hticket, m, hm, hnodup, rfl⟩ := h
  obtain ⟨hcheck, hrecord⟩ := foldlM_check hm
  exact .initialVote who rfl hne hticket (fun v hv => checkInitialVote_votable (hcheck v hv))
    (duplicate_eq_false.mp hnodup) hrecord

theorem appendVote_effect {selectIndex : SelectIndex} {battleType : U8} {amount : U32} {votes : List VoteSelect}
    (h : appendVote origin seasonId selectIndex battleType amount votes s = .ok s') :
    Effect origin (.appendVote seasonId selectIndex battleType amount votes) s s' := by
  simp only [appendVote, bind_eq_ok, ensureSigned_eq_ok, ensure_eq_ok, okOr_eq_ok, exists_const] at h
  obtain ⟨who, rfl, -, season, -, -, old, hold, hamount, hduplicate, h⟩ := h
  have hnodup : (old.selects.map VoteSelect.battleId).Nodup →
      ((old.selects ++ votes).map VoteSelect.battleId).Nodup := by
    intro hnodup
    rw [List.map_append]
    exact appendVoteCheckDuplicate_eq_false hnodup hduplicate
  split at h
  · simp only [extendBallot, bind_eq_ok, pure_eq_ok] at h
    obtain ⟨m, hm, rfl⟩ := h
    obtain ⟨hcheck, hrecord⟩ := foldlM_check hm
    exact .extend who old rfl hold (fun v hv => checkAppendVote_votable (hcheck v hv)) hnodup hrecord
  · rename_i hne
    simp only [splitBallot, bind_eq_ok, pure_eq_ok] at h
    obtain ⟨_, hcheck, m, hrecord, rfl⟩ := h
    have hless : amount < old.ticketAmount := by
      have hnat : amount.toNat ≠ old.ticketAmount.toNat := fun heq => hne (BitVec.eq_of_toNat_eq heq)
      exact Nat.lt_of_le_of_ne hamount.1 hnat
    exact .split who old rfl hold ⟨hless, hamount.2⟩ (fun v hv => checkAppendVote_votable (forM_check hcheck v hv))
      hnodup hrecord

/-- What the calls do, all together. -/
theorem effect_of_perform (h : c.perform origin s = .ok s') : Effect origin c s s' := by
  cases c with
  | createSeason date battleType price =>
      simp only [SeasonCall.perform, createSeason, bind_eq_ok, pure_eq_ok] at h
      obtain ⟨_, -, _, -, _, -, rfl⟩ := h
      exact .idle ⟨rfl, rfl, rfl, fun _ _ => rfl, rfl, rfl, rfl⟩
  | updateSeason seasonId date battleType price =>
      simp only [SeasonCall.perform, updateSeason, bind_eq_ok, pure_eq_ok] at h
      obtain ⟨_, -, _, -, _, -, _, -, rfl⟩ := h
      exact .idle ⟨rfl, rfl, rfl, fun _ _ => rfl, rfl, rfl, rfl⟩
  | setDefaultSeason seasonId =>
      simp only [SeasonCall.perform, setDefaultSeason, bind_eq_ok, pure_eq_ok] at h
      obtain ⟨_, -, _, -, rfl⟩ := h
      exact .idle ⟨rfl, rfl, rfl, fun _ _ => rfl, rfl, rfl, rfl⟩
  | createBattle seasonId battleType home visiting date =>
      simp only [SeasonCall.perform, createBattle, bind_eq_ok, pure_eq_ok] at h
      obtain ⟨_, -, season, -, _, -, _, -, startTime, -, _, -, _, -, rfl⟩ := h
      exact .createBattle _ rfl
  | giveAwayTickets seasonId addrs =>
      rw [giveAwayTickets_frame h]
      exact .idle ⟨rfl, rfl, rfl, fun _ _ => rfl, rfl, rfl, rfl⟩
  | transferTicket seasonId tickets target =>
      rw [transferTicket_frame h]
      exact .idle ⟨rfl, rfl, rfl, fun _ _ => rfl, rfl, rfl, rfl⟩
  | buyTicket amount inviteCode =>
      rw [buyTicket_frame h]
      exact .idle ⟨rfl, rfl, rfl, fun _ _ => rfl, rfl, rfl, rfl⟩
  | initialVote seasonId ticketsAmount votes => exact initialVote_effect h
  | appendVote seasonId selectIndex battleType amount votes => exact appendVote_effect h
  | setResult battleId homeScore visitingScore =>
      simp only [SeasonCall.perform, setResult, bind_eq_ok, okOr_eq_ok, pure_eq_ok] at h
      obtain ⟨_, -, battle, hbattle, _, -, rfl⟩ := h
      exact .setResult battle hbattle
  | finalsSettle battleId => exact finalsSettle_effect h
  | leagueSettle battleId => exact leagueSettle_effect h
  | closeSeason seasonId =>
      simp only [SeasonCall.perform, closeSeason, bind_eq_ok, pure_eq_ok, Prod.exists] at h
      obtain ⟨_, -, season, -, _, _, -, rfl⟩ := h
      exact .idle ⟨rfl, rfl, rfl, fun _ _ => rfl, rfl, rfl, rfl⟩
  | claim seasonId =>
      simp only [SeasonCall.perform, claim, bind_eq_ok, pure_eq_ok] at h
      obtain ⟨who, -, season, -, _, -, _, -, total, -, mid, hmid, rfl⟩ := h
      have hmid := idle_payAwt hmid
      refine .idle ⟨by rw [hmid], by rw [hmid], by rw [hmid], fun who' seasonId' => ?_, by rw [hmid], by rw [hmid],
        by rw [hmid]⟩
      rw [@votesOf_insert cfg s _ who seasonId _ (by rw [hmid])]
      split
      · rename_i heq
        obtain ⟨rfl, rfl⟩ := Prod.mk.inj heq
        rfl
      · rfl

/-- Nobody else's ballots change. -/
theorem ballots_of_others (h : c.perform origin s = .ok s') (hwho : origin ≠ .signed who) (seasonId : SeasonId) :
    (votesOf who seasonId s').1 = (votesOf who seasonId s).1 := by
  have hne : ∀ signer id, origin = .signed signer → (who, seasonId) ≠ (signer, id) := by
    intro signer id horigin heq
    rw [← (Prod.mk.inj heq).1] at horigin
    exact hwho horigin
  cases effect_of_perform h with
  | idle h => exact h.ballots who seasonId
  | createBattle => rfl
  | setResult => rfl
  | settle battle winner hc hbattle hcompleted hwinner h =>
      have hinfos : s'.voteSelectInfos = s.voteSelectInfos := by rw [h]
      rw [votesOf_congr hinfos]
  | @initialVote seasonId' ticketsAmount votes s votesForCalc signer horigin =>
      rw [@votesOf_insert cfg s _ signer seasonId' _ rfl, if_neg (hne _ _ horigin)]
  | @extend seasonId' selectIndex battleType amount votes s votesForCalc signer old horigin =>
      rw [@votesOf_insert cfg s _ signer seasonId' _ rfl, if_neg (hne _ _ horigin)]
  | @split seasonId' selectIndex battleType amount votes s votesForCalc signer old horigin =>
      rw [@votesOf_insert cfg s _ signer seasonId' _ rfl, if_neg (hne _ _ horigin)]

/-! ### What a ballot votes -/

/-- What the ballot at an index votes, nothing if there is none. -/
def selectsAt (ballots : List VoteSelectInfo) (i : Nat) : List VoteSelect :=
  (ballots[i]?.map VoteSelectInfo.selects).getD []

def picksOf (who : AccountId) (seasonId : SeasonId) (i : Nat) (s : State cfg) : List VoteSelect :=
  selectsAt (votesOf who seasonId s).1 i

section Lists

variable {ballots : List VoteSelectInfo} {ballot old : VoteSelectInfo} {i : Nat}

theorem selectsAt_of_getElem? (h : ballots[i]? = some ballot) : selectsAt ballots i = ballot.selects := by
  rw [selectsAt, h]
  rfl

theorem mem_selectsAt {v : VoteSelect} :
    v ∈ selectsAt ballots i ↔ ∃ ballot, ballots[i]? = some ballot ∧ v ∈ ballot.selects := by
  unfold selectsAt
  cases ballots[i]? <;> simp

theorem selectsAt_of_length_le (h : ballots.length ≤ i) : selectsAt ballots i = [] := by
  rw [selectsAt, List.getElem?_eq_none h]
  rfl

theorem selectsAt_snoc (ballots : List VoteSelectInfo) (ballot : VoteSelectInfo) (j : Nat) :
    selectsAt (ballots ++ [ballot]) j = if j = ballots.length then ballot.selects else selectsAt ballots j := by
  split
  · rename_i heq
    rw [heq]
    exact selectsAt_of_getElem? List.getElem?_concat_length
  · rename_i hne
    rcases Nat.lt_or_gt_of_ne hne with hlt | hgt
    · rw [selectsAt, selectsAt, List.getElem?_append_left hlt]
    · rw [selectsAt_of_length_le (by simp; omega), selectsAt_of_length_le (Nat.le_of_lt hgt)]

theorem selectsAt_set (h : ballots[i]? = some old) (j : Nat) :
    selectsAt (ballots.set i ballot) j = if j = i then ballot.selects else selectsAt ballots j := by
  split
  · rename_i heq
    obtain ⟨hlt, -⟩ := List.getElem?_eq_some_iff.mp h
    rw [heq]
    exact selectsAt_of_getElem? (List.getElem?_set_self hlt)
  · rename_i hne
    rw [selectsAt, selectsAt, List.getElem?_set_ne (Ne.symm hne)]

end Lists

theorem picksOf_congr (h : ∀ who seasonId, (votesOf who seasonId s').1 = (votesOf who seasonId s).1)
    (who : AccountId) (seasonId : SeasonId) (i : Nat) : picksOf who seasonId i s' = picksOf who seasonId i s := by
  rw [picksOf, h, ← picksOf]

theorem picksOf_insert {v : List VoteSelectInfo × Bool}
    (h : s'.voteSelectInfos = s.voteSelectInfos.insert (who, seasonId) v) (who' : AccountId) (seasonId' : SeasonId)
    (i : Nat) : picksOf who' seasonId' i s' =
      if (who', seasonId') = (who, seasonId) then selectsAt v.1 i else picksOf who' seasonId' i s := by
  rw [picksOf, votesOf_insert h]
  split <;> rfl

/-! ### Both say the same -/

/-- The ballots and the votes of the battles agree. -/
structure Consistent (s : State cfg) : Prop where
  length : ∀ who seasonId, (votesOf who seasonId s).1.length ≤ 2 ^ 16
  distinct : ∀ who seasonId i, ((picksOf who seasonId i s).map VoteSelect.battleId).Nodup
  known : ∀ who seasonId i, ∀ v ∈ picksOf who seasonId i s,
    ∃ battle, s.battles v.battleId = some battle ∧ battle.season = seasonId
  recorded : ∀ who seasonId (i : SelectIndex), ∀ v ∈ picksOf who seasonId i.toNat s,
    pickOf s.votesForCalc v.battleId (who, i) = some v.npcId
  covered : ∀ who (i : SelectIndex) battleId npcId, pickOf s.votesForCalc battleId (who, i) = some npcId →
    ∃ battle, s.battles battleId = some battle ∧ ⟨battleId, npcId⟩ ∈ picksOf who battle.season i.toNat s

/-- A pick is on a battle of its season, and the battle has it. -/
theorem Consistent.pickOf_eq_some (hinv : Consistent s) {battle : Battle} {battleId : BattleId} {npcId : NpcId}
    {index : SelectIndex} (hbattle : s.battles battleId = some battle)
    (h : ⟨battleId, npcId⟩ ∈ picksOf who seasonId index.toNat s) :
    seasonId = battle.season ∧ pickOf s.votesForCalc battleId (who, index) = some npcId := by
  obtain ⟨old, hold, hseason⟩ := hinv.known who seasonId index.toNat _ h
  obtain rfl := Option.some.inj (hbattle.symm.trans hold)
  exact ⟨hseason.symm, hinv.recorded who seasonId index _ h⟩

theorem Consistent.pickOf_eq_none (hinv : Consistent s) {battle : Battle} {battleId : BattleId}
    {index : SelectIndex} (hbattle : s.battles battleId = some battle)
    (h : ∀ npcId, ⟨battleId, npcId⟩ ∉ picksOf who battle.season index.toNat s) :
    pickOf s.votesForCalc battleId (who, index) = none := by
  by_contra hpick
  obtain ⟨npcId, hpick⟩ := Option.ne_none_iff_exists'.mp hpick
  obtain ⟨old, hold, hmem⟩ := hinv.covered who index battleId npcId hpick
  obtain rfl := Option.some.inj (hbattle.symm.trans hold)
  exact h npcId hmem

/-- A battle stays in its season. -/
def KeepsSeasons (s s' : State cfg) : Prop :=
  ∀ battleId battle, s.battles battleId = some battle →
    ∃ battle', s'.battles battleId = some battle' ∧ battle'.season = battle.season

theorem KeepsSeasons.of_eq (h : s'.battles = s.battles) : KeepsSeasons s s' :=
  fun battleId battle hbattle => ⟨battle, by rw [h]; exact hbattle, rfl⟩

/-- Another battle, or the same one in the same season. -/
theorem KeepsSeasons.insert {battleId : BattleId} {battle : Battle}
    (h : s'.battles = s.battles.insert battleId battle)
    (hold : ∀ old, s.battles battleId = some old → battle.season = old.season) : KeepsSeasons s s' := by
  intro id old hid
  rw [h, StorageMap.insert_apply]
  split
  · rename_i heq
    exact ⟨battle, rfl, hold old (heq ▸ hid)⟩
  · exact ⟨old, hid, rfl⟩

theorem Consistent.of_same (hinv : Consistent s) (hvotes : s'.votesForCalc = s.votesForCalc)
    (hballots : ∀ who seasonId, (votesOf who seasonId s').1 = (votesOf who seasonId s).1)
    (hseasons : KeepsSeasons s s') : Consistent s' := by
  have hpicks := picksOf_congr hballots
  refine ⟨fun who seasonId => ?_, fun who seasonId i => ?_, fun who seasonId i v hv => ?_,
    fun who seasonId i v hv => ?_, fun who i battleId npcId h => ?_⟩
  · rw [hballots]
    exact hinv.length who seasonId
  · rw [hpicks]
    exact hinv.distinct who seasonId i
  · rw [hpicks] at hv
    obtain ⟨battle, hbattle, hseason⟩ := hinv.known who seasonId i v hv
    obtain ⟨battle', hbattle', hsame⟩ := hseasons _ _ hbattle
    exact ⟨battle', hbattle', hsame.trans hseason⟩
  · rw [hpicks] at hv
    rw [hvotes]
    exact hinv.recorded who seasonId i v hv
  · rw [hvotes] at h
    obtain ⟨battle, hbattle, hmem⟩ := hinv.covered who i battleId npcId h
    obtain ⟨battle', hbattle', hsame⟩ := hseasons _ _ hbattle
    refine ⟨battle', hbattle', ?_⟩
    rw [hpicks, hsame]
    exact hmem

/-- A ballot votes on more battles, and the battles have it. -/
structure Casts (who : AccountId) (seasonId : SeasonId) (index : SelectIndex) (votes : List VoteSelect)
    (s s' : State cfg) : Prop where
  picks : ∀ who' seasonId' j, picksOf who' seasonId' j s' =
    if (who', seasonId', j) = (who, seasonId, index.toNat) then picksOf who' seasonId' j s ++ votes
    else picksOf who' seasonId' j s
  length : ∀ who' seasonId', (votesOf who' seasonId' s').1.length ≤ 2 ^ 16
  nodup : ((picksOf who seasonId index.toNat s ++ votes).map VoteSelect.battleId).Nodup
  known : ∀ v ∈ votes, ∃ battle, s.battles v.battleId = some battle ∧ battle.season = seasonId
  record : Recorded who index votes s.votesForCalc s'.votesForCalc
  battles : s'.battles = s.battles

/-- The picks of a ballot are those before, and those it cast. -/
theorem Casts.mem_picks {index : SelectIndex} {votes : List VoteSelect} (h : Casts who seasonId index votes s s')
    {who' : AccountId} {seasonId' : SeasonId} {j : Nat} {v : VoteSelect} : v ∈ picksOf who' seasonId' j s' ↔
      v ∈ picksOf who' seasonId' j s ∨ (who', seasonId', j) = (who, seasonId, index.toNat) ∧ v ∈ votes := by
  rw [h.picks]
  split
  · rename_i heq
    simp [heq]
  · rename_i hne
    simp [hne]

/-- A battle that the ballot voted on before, or that is in another season, keeps its vote. -/
theorem Casts.kept {index : SelectIndex} {votes : List VoteSelect} (hinv : Consistent s)
    (h : Casts who seasonId index votes s s') {who' : AccountId} {seasonId' : SeasonId} {i : SelectIndex}
    {v : VoteSelect} (hv : v ∈ picksOf who' seasonId' i.toNat s) :
    pickOf s'.votesForCalc v.battleId (who', i) = pickOf s.votesForCalc v.battleId (who', i) := by
  by_cases hkey : (who', i) = (who, index)
  · obtain ⟨rfl, rfl⟩ := Prod.mk.inj hkey
    refine h.record.battles _ fun hmem => ?_
    obtain ⟨w, hw, hsame⟩ := List.mem_map.mp hmem
    obtain ⟨battle, hbattle, hseason⟩ := h.known w hw
    obtain ⟨battle', hbattle', hseason'⟩ := hinv.known _ _ _ v hv
    rw [hsame, hbattle'] at hbattle
    obtain rfl := Option.some.inj hbattle
    obtain rfl := hseason'.symm.trans hseason
    have hnodup := h.nodup
    rw [List.map_append] at hnodup
    exact (List.nodup_append.mp hnodup).2.2 _ (List.mem_map_of_mem hv) _ hmem rfl
  · exact h.record.others _ _ hkey

theorem Consistent.casts {index : SelectIndex} {votes : List VoteSelect} (hinv : Consistent s)
    (h : Casts who seasonId index votes s s') : Consistent s' := by
  refine ⟨h.length, fun who' seasonId' i => ?_, fun who' seasonId' i v hv => ?_, fun who' seasonId' i v hv => ?_,
    fun who' i battleId npcId hpick => ?_⟩
  · rw [h.picks]
    split
    · rename_i heq
      obtain ⟨rfl, rfl, rfl⟩ : who' = who ∧ seasonId' = seasonId ∧ i = index.toNat := by simpa using heq
      exact h.nodup
    · exact hinv.distinct who' seasonId' i
  · rw [h.battles]
    rcases h.mem_picks.mp hv with hold | ⟨heq, hnew⟩
    · exact hinv.known who' seasonId' i v hold
    · obtain ⟨rfl, rfl, rfl⟩ : who' = who ∧ seasonId' = seasonId ∧ i = index.toNat := by simpa using heq
      exact h.known v hnew
  · rcases h.mem_picks.mp hv with hold | ⟨heq, hnew⟩
    · rw [h.kept hinv hold]
      exact hinv.recorded who' seasonId' i v hold
    · obtain ⟨rfl, rfl, hindex⟩ : who' = who ∧ seasonId' = seasonId ∧ i.toNat = index.toNat := by
        simpa using heq
      obtain rfl := BitVec.eq_of_toNat_eq hindex
      exact h.record.written v hnew
  · rw [h.battles]
    by_cases hcast : (who', i) = (who, index) ∧ battleId ∈ votes.map VoteSelect.battleId
    · obtain ⟨hkey, hmem⟩ := hcast
      obtain ⟨rfl, rfl⟩ := Prod.mk.inj hkey
      obtain ⟨v, hv, rfl⟩ := List.mem_map.mp hmem
      obtain rfl := Option.some.inj ((h.record.written v hv).symm.trans hpick)
      obtain ⟨battle, hbattle, rfl⟩ := h.known v hv
      exact ⟨battle, hbattle, h.mem_picks.mpr (.inr ⟨rfl, hv⟩)⟩
    · have hsame : pickOf s'.votesForCalc battleId (who', i) = pickOf s.votesForCalc battleId (who', i) := by
        by_cases hkey : (who', i) = (who, index)
        · rw [hkey]
          exact h.record.battles battleId fun hmem => hcast ⟨hkey, hmem⟩
        · exact h.record.others battleId _ hkey
      rw [hsame] at hpick
      obtain ⟨battle, hbattle, hmem⟩ := hinv.covered who' i battleId npcId hpick
      exact ⟨battle, hbattle, h.mem_picks.mpr (.inl hmem)⟩

/-! ### Every call keeps them so -/

/-- A ballot gets an index that no other ballot has, and a battle an id that no other battle has. -/
def SeasonCall.Fits (s : State cfg) (origin : Origin) : SeasonCall → Prop
  | .createBattle .. => s.battles s.nextBattleId = none
  | .initialVote seasonId _ _ => ∀ who, origin = .signed who → (votesOf who seasonId s).1.length < 2 ^ 16
  | .appendVote seasonId selectIndex _ amount _ => ∀ who ballot, origin = .signed who →
      (votesOf who seasonId s).1[selectIndex.toNat]? = some ballot → amount ≠ ballot.ticketAmount →
        (votesOf who seasonId s).1.length < 2 ^ 16
  | _ => True

theorem toNat_newIndex {n : Nat} (h : n < 2 ^ 16) : (BitVec.ofNat 16 n).toNat = n := by
  rw [BitVec.toNat_ofNat, Nat.mod_eq_of_lt h]

theorem other_key {who who' : AccountId} {seasonId seasonId' : SeasonId} {i j : Nat}
    (h : (who', seasonId', j) = (who, seasonId, i)) : (who', seasonId') = (who, seasonId) := by
  simp only [Prod.mk.injEq] at h ⊢
  exact ⟨h.1, h.2.1⟩

/-- A ballot is added. -/
theorem casts_snoc (hinv : Consistent s) {ballots : List VoteSelectInfo} {ballot : VoteSelectInfo} {claimed : Bool}
    (hlt : (votesOf who seasonId s).1.length < 2 ^ 16) (hlength : ballots.length = (votesOf who seasonId s).1.length)
    (hselects : ∀ j, selectsAt ballots j = picksOf who seasonId j s)
    (hinfos : s'.voteSelectInfos = s.voteSelectInfos.insert (who, seasonId) (ballots ++ [ballot], claimed))
    (hnodup : (ballot.selects.map VoteSelect.battleId).Nodup)
    (hknown : ∀ v ∈ ballot.selects, ∃ battle, s.battles v.battleId = some battle ∧ battle.season = seasonId)
    (hrecord : ballot.selects.foldlM (recordVote cfg who (BitVec.ofNat 16 (votesOf who seasonId s).1.length))
      s.votesForCalc = .ok s'.votesForCalc) (hbattles : s'.battles = s.battles) :
    Casts who seasonId (BitVec.ofNat 16 (votesOf who seasonId s).1.length) ballot.selects s s' := by
  have hindex := toNat_newIndex hlt
  have hempty : picksOf who seasonId (votesOf who seasonId s).1.length s = [] := selectsAt_of_length_le (le_refl _)
  refine ⟨fun who' seasonId' j => ?_, fun who' seasonId' => ?_, ?_, hknown, recorded_of_foldlM hnodup hrecord, hbattles⟩
  · rw [picksOf_insert hinfos, hindex]
    by_cases hkey : (who', seasonId') = (who, seasonId)
    · obtain ⟨rfl, rfl⟩ := Prod.mk.inj hkey
      rw [if_pos rfl, selectsAt_snoc, hlength, hselects]
      by_cases hj : j = (votesOf who' seasonId' s).1.length
      · rw [if_pos hj, if_pos (by rw [hj]), hj, hempty, List.nil_append]
      · rw [if_neg hj, if_neg (by simpa using hj)]
    · rw [if_neg hkey, if_neg fun heq => hkey (other_key heq)]
  · rw [votesOf_insert hinfos]
    split
    · rw [List.length_append, hlength]
      exact hlt
    · exact hinv.length who' seasonId'
  · rw [hindex, hempty]
    exact hnodup

/-- A ballot is extended. -/
theorem casts_set (hinv : Consistent s) {selectIndex : SelectIndex} {old : VoteSelectInfo} {votes : List VoteSelect}
    {claimed : Bool} (hold : (votesOf who seasonId s).1[selectIndex.toNat]? = some old)
    (hvotable : ∀ v ∈ votes, Votable seasonId s v)
    (hnodup : (old.selects.map VoteSelect.battleId).Nodup → ((old.selects ++ votes).map VoteSelect.battleId).Nodup)
    (hinfos : s'.voteSelectInfos = s.voteSelectInfos.insert (who, seasonId) ((votesOf who seasonId s).1.set
      selectIndex.toNat { old with selects := old.selects ++ votes }, claimed))
    (hrecord : votes.foldlM (recordVote cfg who selectIndex) s.votesForCalc = .ok s'.votesForCalc)
    (hbattles : s'.battles = s.battles) : Casts who seasonId selectIndex votes s s' := by
  have hpicks : picksOf who seasonId selectIndex.toNat s = old.selects := selectsAt_of_getElem? hold
  have hall := hnodup (hpicks ▸ hinv.distinct who seasonId selectIndex.toNat)
  have hvotes : (votes.map VoteSelect.battleId).Nodup := by
    rw [List.map_append] at hall
    exact (List.nodup_append.mp hall).2.1
  refine ⟨fun who' seasonId' j => ?_, fun who' seasonId' => ?_, ?_, fun v hv => (hvotable v hv).known,
    recorded_of_foldlM hvotes hrecord, hbattles⟩
  · rw [picksOf_insert hinfos]
    by_cases hkey : (who', seasonId') = (who, seasonId)
    · obtain ⟨rfl, rfl⟩ := Prod.mk.inj hkey
      rw [if_pos rfl, selectsAt_set hold]
      by_cases hj : j = selectIndex.toNat
      · rw [if_pos hj, if_pos (by rw [hj]), hj, hpicks]
      · rw [if_neg hj, if_neg (by simpa using hj)]
        rfl
    · rw [if_neg hkey, if_neg fun heq => hkey (other_key heq)]
  · rw [votesOf_insert hinfos]
    split
    · rw [List.length_set]
      exact hinv.length who seasonId
    · exact hinv.length who' seasonId'
  · rw [hpicks]
    exact hall

/-- A ballot is split off another one, with its picks and more. -/
theorem casts_split (hinv : Consistent s) {selectIndex : SelectIndex} {old : VoteSelectInfo} {amount : U32}
    {votes : List VoteSelect} {claimed : Bool} (hlt : (votesOf who seasonId s).1.length < 2 ^ 16)
    (hold : (votesOf who seasonId s).1[selectIndex.toNat]? = some old) (hvotable : ∀ v ∈ votes, Votable seasonId s v)
    (hnodup : (old.selects.map VoteSelect.battleId).Nodup → ((old.selects ++ votes).map VoteSelect.battleId).Nodup)
    (hinfos : s'.voteSelectInfos = s.voteSelectInfos.insert (who, seasonId) ((votesOf who seasonId s).1.set
      selectIndex.toNat { old with ticketAmount := old.ticketAmount - amount } ++ [⟨amount, old.selects ++ votes⟩],
        claimed))
    (hrecord : (old.selects ++ votes).foldlM (recordVote cfg who (BitVec.ofNat 16 (votesOf who seasonId s).1.length))
      s.votesForCalc = .ok s'.votesForCalc) (hbattles : s'.battles = s.battles) :
    Casts who seasonId (BitVec.ofNat 16 (votesOf who seasonId s).1.length) (old.selects ++ votes) s s' := by
  have hpicks : picksOf who seasonId selectIndex.toNat s = old.selects := selectsAt_of_getElem? hold
  have hall := hnodup (hpicks ▸ hinv.distinct who seasonId selectIndex.toNat)
  refine casts_snoc hinv hlt (List.length_set ..) (fun j => ?_) hinfos hall (fun v hv => ?_) hrecord hbattles
  · rw [selectsAt_set hold]
    split
    · rename_i hj
      rw [hj, hpicks]
    · rfl
  · rcases List.mem_append.mp hv with hv | hv
    · exact hinv.known who seasonId selectIndex.toNat v (hpicks ▸ hv)
    · exact (hvotable v hv).known

/-- Every call keeps the ballots and the votes of the battles in agreement, and each battle in its season. -/
theorem Consistent.perform (hinv : Consistent s) (hfits : c.Fits s origin) (h : c.perform origin s = .ok s') :
    Consistent s' := by
  cases effect_of_perform h with
  | idle h => exact hinv.of_same h.votesForCalc h.ballots (.of_eq h.battles)
  | createBattle battle hstatus =>
      refine hinv.of_same rfl (fun _ _ => rfl) (.insert rfl fun old hold => ?_)
      exact absurd (hfits.symm.trans hold) (by simp)
  | setResult battle hbattle =>
      refine hinv.of_same rfl (fun _ _ => rfl) (.insert rfl fun old hold => ?_)
      rw [← Option.some.inj (hbattle.symm.trans hold)]
  | settle battle winner hc hbattle hcompleted hwinner h =>
      rw [h]
      refine hinv.of_same rfl (fun _ _ => rfl) (.insert rfl fun old hold => ?_)
      rw [← Option.some.inj (hbattle.symm.trans hold)]
  | @initialVote seasonId ticketsAmount votes s votesForCalc who horigin hne hticket hvotable hnodup hrecord =>
      exact hinv.casts (casts_snoc hinv (hfits who horigin) rfl (fun _ => rfl) rfl hnodup
        (fun v hv => (hvotable v hv).known) hrecord rfl)
  | @extend seasonId selectIndex battleType amount votes s votesForCalc who old horigin hold hvotable hnodup hrecord =>
      exact hinv.casts (casts_set hinv hold hvotable hnodup rfl hrecord rfl)
  | @split seasonId selectIndex battleType amount votes s votesForCalc who old horigin hold hamount hvotable hnodup
      hrecord =>
      have hne : amount ≠ old.ticketAmount := fun heq => absurd hamount.1 (heq ▸ BitVec.lt_irrefl _)
      exact hinv.casts (casts_split hinv (hfits who old horigin hold hne) hold hvotable hnodup rfl hrecord rfl)

theorem NoSeason.votesOf_eq_nil (h : NoSeason s) (who : AccountId) (seasonId : SeasonId) :
    (votesOf who seasonId s).1 = [] := by
  rw [votesOf, h.voteSelectInfos]
  rfl

theorem NoSeason.picksOf_eq_nil (h : NoSeason s) (who : AccountId) (seasonId : SeasonId) (i : Nat) :
    picksOf who seasonId i s = [] := by
  rw [picksOf, h.votesOf_eq_nil]
  rfl

theorem consistent_of_noSeason (h : NoSeason s) : Consistent s := by
  have hvotes := h.votesOf_eq_nil
  have hpicks := h.picksOf_eq_nil
  refine ⟨fun who seasonId => ?_, fun who seasonId i => ?_, fun who seasonId i v hv => ?_,
    fun who seasonId i v hv => ?_, fun who i battleId npcId hpick => ?_⟩
  · rw [hvotes]
    exact Nat.zero_le _
  · rw [hpicks]
    exact List.nodup_nil
  · rw [hpicks] at hv
    exact absurd hv List.not_mem_nil
  · rw [hpicks] at hv
    exact absurd hv List.not_mem_nil
  · rw [pickOf, h.votesForCalc] at hpick
    exact absurd hpick (by simp)

theorem consistent_of_reachable {allowed : State cfg → Origin → SeasonCall → Prop}
    (hallowed : ∀ s origin c, allowed s origin c → c.Fits s origin)
    (h : Transition.Reachable NoSeason (SeasonStep allowed) s) : Consistent s := by
  refine h.invariant Consistent (fun s hs => consistent_of_noSeason hs) fun s s' hinv hstep => ?_
  cases hstep with
  | call origin c hc h => exact hinv.perform (hallowed s origin c hc) h
  | outside => exact hinv.of_same rfl (fun _ _ => rfl) (.of_eq rfl)

/-- A battle of the league between the first two characters. -/
def leagueBattle : Battle := ⟨1, 1, .league, 2, .running, 1, none, none⟩

/-- In every run in which no index and no battle id is given twice, a ballot contains a pick if and only if the battle
has it under the ballot's index, and no ballot votes twice on a battle. -/
theorem votes_match_ballots (h : Transition.Reachable NoSeason (SeasonStep fun s origin c => c.Fits s origin) s) :
    (∀ who (i : SelectIndex) battleId battle npcId, s.battles battleId = some battle →
      ((∃ ballot, (votesOf who battle.season s).1[i.toNat]? = some ballot ∧ ⟨battleId, npcId⟩ ∈ ballot.selects) ↔
        pickOf s.votesForCalc battleId (who, i) = some npcId)) ∧
      ∀ who seasonId, (votesOf who seasonId s).1.length ≤ 2 ^ 16 ∧
        ∀ ballot ∈ (votesOf who seasonId s).1, (ballot.selects.map VoteSelect.battleId).Nodup := by
  have hinv := consistent_of_reachable (fun _ _ _ hc => hc) h
  refine ⟨fun who i battleId battle npcId hbattle => ?_, fun who seasonId => ⟨hinv.length who seasonId, ?_⟩⟩
  · rw [← mem_selectsAt]
    constructor
    · exact hinv.recorded who battle.season i ⟨battleId, npcId⟩
    · intro hpick
      obtain ⟨battle', hbattle', hmem⟩ := hinv.covered who i battleId npcId hpick
      obtain rfl := Option.some.inj (hbattle.symm.trans hbattle')
      exact hmem
  · intro ballot hballot
    obtain ⟨i, hi⟩ := List.mem_iff_getElem?.mp hballot
    have hdistinct := hinv.distinct who seasonId i
    rwa [picksOf, selectsAt_of_getElem? hi] at hdistinct

theorem votes_match_ballots_voted : ∃ s : State plainConfig, (votesOf Token.alice 1 s).1 = [⟨1, [⟨1, 2⟩]⟩] ∧
    s.battles 1 = some leagueBattle ∧ pickOf s.votesForCalc 1 (Token.alice, 0) = some 2 := by
  obtain ⟨⟨s₁, s₂, s₃, s₄⟩, hrun, hcheck⟩ := exists_of_succeedsWith
    (x := do
      let s₁ ← createSeason (.signed organizer) [] .league 1000000000000000001
        (emptyState plainConfig (.genesis fun _ => (0, 0)))
      let s₂ ← createBattle (.signed organizer) 1 .league 1 2 [1] s₁
      let s₃ ← giveAwayTickets (.signed organizer) 1 [1] s₂
      let s₄ ← initialVote (.signed Token.alice) 1 1 [⟨1, 2⟩] s₃
      return (s₁, s₂, s₃, s₄))
    (p := fun x => decide (x.1.battles x.1.nextBattleId = none) &&
      decide ((votesOf Token.alice 1 x.2.2.1).1.length = 0) && decide (x.2.2.2.battles 1 = some leagueBattle) &&
      decide ((votesOf Token.alice 1 x.2.2.2).1 = [⟨1, [⟨1, 2⟩]⟩])) (by decide +kernel)
  simp only [Bool.and_eq_true, decide_eq_true_eq] at hcheck
  obtain ⟨⟨⟨hnone, hlength⟩, hbattle⟩, hvotes⟩ := hcheck
  simp only [bind_eq_ok, pure_eq_ok, Prod.mk.injEq] at hrun
  obtain ⟨_, h₁, _, h₂, _, h₃, _, h₄, rfl, rfl, rfl, rfl⟩ := hrun
  have hreach : Transition.Reachable NoSeason (SeasonStep fun s origin c => c.Fits s origin) _ :=
    ⟨_, noSeason_emptyState _, (((Relation.ReflTransGen.single
      (.call _ (.createSeason [] .league 1000000000000000001) trivial h₁)).tail
      (.call _ (.createBattle 1 .league 1 2 [1]) hnone h₂)).tail
      (.call _ (.giveAwayTickets 1 [1]) trivial h₃)).tail
      (.call _ (.initialVote 1 1 [⟨1, 2⟩]) (fun who hwho => by
        cases hwho
        exact hlength ▸ Nat.two_pow_pos 16) h₄)⟩
  exact ⟨_, hvotes, hbattle, ((votes_match_ballots hreach).1 Token.alice 0 1 leagueBattle 2 hbattle).mp
    ⟨_, congrArg (·[(0 : SelectIndex).toNat]?) hvotes, List.mem_singleton_self _⟩⟩

/-! ### An index that is given twice -/

/-- The runtime of the bettings, with room for as many votes as there are on the chain. -/
def crowdedConfig : Config := { plainConfig with maxParticipantPerBattle := 10000000 }

/-- Alice has as many ballots, each of one ticket and for the first character. -/
structure Crowd (n : Nat) (s : State crowdedConfig) : Prop where
  now : s.now = 0
  season : ∃ season, s.seasons 1 = some season ∧ season.firstFinalsBattleType = .league
  battle : s.battles 1 = some leagueBattle
  tickets : (ticketsOf 1 Token.alice s).2 = 0
  ballots : votesOf Token.alice 1 s = (List.replicate n ⟨1, [⟨1, 1⟩]⟩, false)
  votes : ((s.votesForCalc 1).getD ∅).entries.length ≤ n

/-- Alice is given a ticket and votes with it. -/
theorem Crowd.vote {n : Nat} {s : State crowdedConfig} (h : Crowd n s) (hn : n < 10000000) {npcId : NpcId}
    (hnpc : npcId = 1 ∨ npcId = 2) : ∃ s', Relation.ReflTransGen (SeasonStep fun _ _ _ => True) s s' ∧
      s'.now = 0 ∧ s'.seasons = s.seasons ∧ s'.battles 1 = some leagueBattle ∧
      (ticketsOf 1 Token.alice s').2 = 0 ∧
      votesOf Token.alice 1 s' = (List.replicate n ⟨1, [⟨1, 1⟩]⟩ ++ [⟨1, [⟨1, npcId⟩]⟩], false) ∧
      recordVote crowdedConfig Token.alice (BitVec.ofNat 16 n) s.votesForCalc ⟨1, npcId⟩ = .ok s'.votesForCalc ∧
      ((s'.votesForCalc 1).getD ∅).entries.length ≤ n + 1 := by
  obtain ⟨season, hseason, htype⟩ := h.season
  let given := addTickets 1 Token.alice 1 s
  have hgive : giveAwayTickets (.signed organizer) 1 [1] s = .ok given := rfl
  have hballots : votesOf Token.alice 1 given = (List.replicate n ⟨1, [⟨1, 1⟩]⟩, false) := h.ballots
  have hticket : (ticketsOf 1 Token.alice given).2 = 1 := by
    rw [ticketsOf, show given.tickets = s.tickets.insert (1, Token.alice) _ from rfl, StorageMap.insert_self,
      Option.getD_some, h.tickets]
    rfl
  have hcheck : checkInitialVote 1 season ⟨1, npcId⟩ given = .ok () := by
    rw [checkInitialVote, show given.battles 1 = some leagueBattle from h.battle, okOr_some, ok_bind, htype,
      show given.now = 0 from h.now]
    rcases hnpc with rfl | rfl <;> rfl
  obtain ⟨m, hrecord⟩ : ∃ m, recordVote crowdedConfig Token.alice (BitVec.ofNat 16 n) s.votesForCalc ⟨1, npcId⟩ =
      .ok m := by
    rw [recordVote]
    dsimp only
    rw [ensure, if_pos (.inl (Nat.lt_of_le_of_lt h.votes hn))]
    exact ⟨_, rfl⟩
  have hvote : initialVote (.signed Token.alice) 1 1 [⟨1, npcId⟩] given = .ok { given with
      votesForCalc := m
      voteSelectInfos := given.voteSelectInfos.insert (Token.alice, 1)
        (List.replicate n ⟨1, [⟨1, 1⟩]⟩ ++ [⟨1, [⟨1, npcId⟩]⟩], false)
      tickets := given.tickets.insert (1, Token.alice) ((ticketsOf 1 Token.alice given).1, 1 - 1) } := by
    have hrecord' : recordVote crowdedConfig Token.alice (BitVec.ofNat 16 n) given.votesForCalc ⟨1, npcId⟩ = .ok m :=
      hrecord
    simp only [initialVote, ensureSigned, ok_bind, show given.seasons 1 = some season from hseason, okOr_some,
      hticket, hballots, List.length_replicate, List.foldlM_cons, List.foldlM_nil, hcheck, hrecord']
    rfl
  have hentries : ((m 1).getD ∅).entries.length ≤ n + 1 := by
    simp only [recordVote, bind_eq_ok, pure_eq_ok] at hrecord
    obtain ⟨-, -, rfl⟩ := hrecord
    rw [StorageMap.insert_self, Option.getD_some, AList.entries_insert, List.length_cons]
    exact Nat.succ_le_succ ((List.kerase_sublist _ _).length_le.trans h.votes)
  refine ⟨_, (Relation.ReflTransGen.single (.call _ (.giveAwayTickets 1 [1]) trivial hgive)).tail
    (.call _ (.initialVote 1 1 [⟨1, npcId⟩]) trivial hvote), h.now, rfl, h.battle, ?_, ?_, hrecord, hentries⟩
  · dsimp only [ticketsOf]
    rw [StorageMap.insert_self]
    rfl
  · dsimp only [votesOf]
    rw [StorageMap.insert_self]
    rfl

/-- A season of the league with its first battle. -/
theorem exists_crowd : ∀ n, n ≤ 10000000 → ∃ s : State crowdedConfig,
    Transition.Reachable NoSeason (SeasonStep fun _ _ _ => True) s ∧ Crowd n s
  | 0, _ => by
      obtain ⟨⟨s₁, s₂⟩, hrun, hcheck⟩ := exists_of_succeedsWith
        (x := do
          let s₁ ← createSeason (.signed organizer) [] .league 1000000000000000001
            (emptyState crowdedConfig (.genesis fun _ => (0, 0)))
          let s₂ ← createBattle (.signed organizer) 1 .league 1 2 [1] s₁
          return (s₁, s₂))
        (p := fun x => decide (x.2.now = 0) &&
          decide ((x.2.seasons 1).map Season.firstFinalsBattleType = some .league) &&
          decide (x.2.battles 1 = some leagueBattle) && decide ((ticketsOf 1 Token.alice x.2).2 = 0) &&
          decide (votesOf Token.alice 1 x.2 = ([], false)) &&
          decide (((x.2.votesForCalc 1).getD ∅).entries.length = 0)) (by decide +kernel)
      simp only [Bool.and_eq_true, decide_eq_true_eq] at hcheck
      obtain ⟨⟨⟨⟨⟨hnow, hseason⟩, hbattle⟩, htickets⟩, hballots⟩, hvotes⟩ := hcheck
      simp only [bind_eq_ok, pure_eq_ok, Prod.mk.injEq] at hrun
      obtain ⟨s₁', h₁, s₂', h₂, rfl, rfl⟩ := hrun
      refine ⟨s₂', ⟨_, noSeason_emptyState _, (Relation.ReflTransGen.single (.call _
        (.createSeason [] .league 1000000000000000001) trivial h₁)).tail (.call _
        (.createBattle 1 .league 1 2 [1]) trivial h₂)⟩, hnow, ?_, hbattle, htickets, hballots, hvotes.le⟩
      obtain ⟨season, hseason, htype⟩ := Option.map_eq_some_iff.mp hseason
      exact ⟨season, hseason, htype⟩
  | n + 1, hn => by
      obtain ⟨s, ⟨s₀, hinit, hrun⟩, hcrowd⟩ := exists_crowd n (Nat.le_of_succ_le hn)
      obtain ⟨s', hsteps, hnow, hseasons, hbattle, htickets, hballots, -, hvotes⟩ := hcrowd.vote hn (.inl rfl)
      refine ⟨s', ⟨s₀, hinit, hrun.trans hsteps⟩, hnow, hseasons ▸ hcrowd.season, hbattle, htickets, ?_, hvotes⟩
      rw [hballots, List.replicate_succ']

theorem getElem?_replicate_succ_append (n : Nat) (a : α) (l : List α) :
    (List.replicate (n + 1) a ++ l)[0]? = some a := by
  rw [List.replicate_succ, List.cons_append, List.getElem?_cons_zero]

/-- The ballot with index `65536` overwrites the vote of the one with index `0`. -/
theorem truncated_index_overwrites : ∃ s : State crowdedConfig,
    Transition.Reachable NoSeason (SeasonStep fun _ _ _ => True) s ∧
      s.battles 1 = some leagueBattle ∧
      (votesOf Token.alice 1 s).1[(0 : SelectIndex).toNat]? = some ⟨1, [⟨1, 1⟩]⟩ ∧
      pickOf s.votesForCalc 1 (Token.alice, 0) = some 2 := by
  obtain ⟨s, ⟨s₀, hinit, hrun⟩, hcrowd⟩ := exists_crowd 65536 (by decide)
  obtain ⟨s', hsteps, -, -, hbattle, -, hballots, hrecord, -⟩ := hcrowd.vote (by decide) (.inr rfl)
  refine ⟨s', ⟨s₀, hinit, hrun.trans hsteps⟩, hbattle, ?_, ?_⟩
  · rw [hballots]
    exact getElem?_replicate_succ_append 65535 _ _
  · rw [pickOf_recordVote hrecord]
    exact if_pos ⟨rfl, rfl⟩

end Fusotao.AbyssTournament
