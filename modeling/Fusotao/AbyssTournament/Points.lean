import Fusotao.Base.Counting
import Fusotao.AbyssTournament.Ballots

/-!
# Points

When a battle is settled, every ballot that votes on it gets its points. A ballot has as many of them as can be counted
from its picks, as long as no battle it votes on is settled twice or gets another winner once it is settled.
-/

namespace Fusotao.AbyssTournament

open Exec

variable {cfg : Config} {s s' : State cfg} {who : AccountId} {seasonId : SeasonId} {origin : Origin} {c : SeasonCall}
  {picks votes : List VoteSelect} {battleId : BattleId}

/-! ### Counting picks -/

/-- The battle was settled, at least once. -/
def settled (s : State cfg) (battleId : BattleId) : Bool := decide (battleId ∈ s.settlements)

def winnerOf (seasonId : SeasonId) (battleId : BattleId) (s : State cfg) : Option NpcId :=
  ((s.seasonWinners seasonId).getD ∅).lookup battleId

/-- The pick of a settled battle that names its winner. -/
def isRight (seasonId : SeasonId) (s : State cfg) (v : VoteSelect) : Bool :=
  settled s v.battleId && decide (winnerOf seasonId v.battleId s = some v.npcId)

def settledAmount (picks : List VoteSelect) (s : State cfg) : Nat :=
  picks.countP fun v => settled s v.battleId

def rightAmount (seasonId : SeasonId) (picks : List VoteSelect) (s : State cfg) : Nat :=
  picks.countP (isRight seasonId s)

/-- The points of a ballot with these picks, three for each that is right. -/
def pointsFor (seasonId : SeasonId) (picks : List VoteSelect) (s : State cfg) : BattleAmount × BattleAmount × U32 :=
  (BitVec.ofNat 8 (settledAmount picks s), BitVec.ofNat 8 (rightAmount seasonId picks s),
    BitVec.ofNat 32 (3 * rightAmount seasonId picks s))

theorem settled_congr (h : s'.settlements = s.settlements) (battleId : BattleId) :
    settled s' battleId = settled s battleId := by
  rw [settled, h, ← settled]

theorem settled_cons (h : s'.settlements = battleId :: s.settlements) (id : BattleId) :
    settled s' id = (decide (id = battleId) || settled s id) := by
  simp only [settled, h, List.mem_cons, Bool.decide_or]

theorem settledAmount_congr (h : ∀ v ∈ picks, settled s' v.battleId = settled s v.battleId) :
    settledAmount picks s' = settledAmount picks s :=
  List.countP_congr fun v hv => by rw [h v hv]

/-- A ballot is right about settled battles only. -/
theorem rightAmount_le (seasonId : SeasonId) (picks : List VoteSelect) (s : State cfg) :
    rightAmount seasonId picks s ≤ settledAmount picks s :=
  List.countP_mono_left fun _ _ hv => (Bool.and_eq_true_iff.mp hv).1

theorem winnerOf_congr (h : s'.seasonWinners = s.seasonWinners) (seasonId : SeasonId) (battleId : BattleId) :
    winnerOf seasonId battleId s' = winnerOf seasonId battleId s := by
  rw [winnerOf, h, ← winnerOf]

theorem pointsFor_congr (hsettled : ∀ v ∈ picks, settled s' v.battleId = settled s v.battleId)
    (hwinner : ∀ v ∈ picks, settled s v.battleId = true →
      winnerOf seasonId v.battleId s' = winnerOf seasonId v.battleId s) :
    pointsFor seasonId picks s' = pointsFor seasonId picks s := by
  have hright : rightAmount seasonId picks s' = rightAmount seasonId picks s := by
    refine List.countP_congr fun v hv => ?_
    rw [isRight, isRight, hsettled v hv]
    by_cases hset : settled s v.battleId = true
    · rw [hwinner v hv hset]
    · rw [Bool.eq_false_iff.mpr hset]
      rfl
  rw [pointsFor, pointsFor, settledAmount_congr hsettled, hright]

/-- What is voted on is not settled yet. -/
theorem settledAmount_append (h : ∀ v ∈ votes, settled s v.battleId = false) :
    settledAmount (picks ++ votes) s = settledAmount picks s := by
  have hcount : votes.countP (fun v => settled s v.battleId) = 0 :=
    List.countP_eq_zero.mpr fun v hv => by rw [h v hv]; exact Bool.false_ne_true
  rw [settledAmount, List.countP_append, hcount, add_zero, ← settledAmount]

theorem pointsFor_append (h : ∀ v ∈ votes, settled s v.battleId = false) :
    pointsFor seasonId (picks ++ votes) s = pointsFor seasonId picks s := by
  have hright : votes.countP (isRight seasonId s) = 0 :=
    List.countP_eq_zero.mpr fun v hv => by rw [isRight, h v hv]; exact Bool.false_ne_true
  rw [pointsFor, pointsFor, settledAmount_append h, rightAmount, List.countP_append, hright]
  rfl

/-- One more battle, won if the pick names the winner. -/
def scored (winner npcId : NpcId) (p : BattleAmount × BattleAmount × U32) : BattleAmount × BattleAmount × U32 :=
  if winner = npcId then (p.1 + 1, p.2.1 + 1, p.2.2 + 3) else (p.1 + 1, p.2.1, p.2.2)

/-- A battle of the picks is settled. -/
theorem settledAmount_settle {v : VoteSelect} (hnodup : (picks.map VoteSelect.battleId).Nodup) (hv : v ∈ picks)
    (hbefore : settled s v.battleId = false) (hafter : settled s' v.battleId = true)
    (hsettled : ∀ id, id ≠ v.battleId → settled s' id = settled s id) :
    settledAmount picks s' = settledAmount picks s + 1 := by
  have hone := countP_of_ne (p := fun v => settled s v.battleId) (q := fun v => settled s' v.battleId)
    (hnodup.of_map _) hv hbefore fun x hx hne => hsettled _ fun heq => hne (List.inj_on_of_nodup_map hnodup hx hv heq)
  rw [hafter, if_pos rfl] at hone
  exact hone

theorem pointsFor_settle {v : VoteSelect} {winner : NpcId} (hnodup : (picks.map VoteSelect.battleId).Nodup)
    (hv : v ∈ picks) (hbefore : settled s v.battleId = false) (hafter : settled s' v.battleId = true)
    (hwinner : winnerOf seasonId v.battleId s' = some winner)
    (hsettled : ∀ id, id ≠ v.battleId → settled s' id = settled s id)
    (hwinners : ∀ id, id ≠ v.battleId → winnerOf seasonId id s' = winnerOf seasonId id s) :
    pointsFor seasonId picks s' = scored winner v.npcId (pointsFor seasonId picks s) := by
  have hother : ∀ x ∈ picks, x ≠ v → x.battleId ≠ v.battleId := fun x hx hne heq =>
    hne (List.inj_on_of_nodup_map hnodup hx hv heq)
  have hcount := settledAmount_settle hnodup hv hbefore hafter hsettled
  have hright : rightAmount seasonId picks s' = rightAmount seasonId picks s + if winner = v.npcId then 1 else 0 := by
    have hone := countP_of_ne (p := isRight seasonId s) (q := isRight seasonId s') (hnodup.of_map _) hv
      (by rw [isRight, hbefore]; rfl) fun x hx hne => by
        rw [isRight, isRight, hsettled _ (hother x hx hne), hwinners _ (hother x hx hne)]
    rw [isRight, hafter, hwinner] at hone
    simpa [rightAmount] using hone
  rw [pointsFor, pointsFor, scored, hcount, hright]
  split
  · simp [BitVec.ofNat_add, Nat.mul_add]
  · simp [BitVec.ofNat_add]

/-! ### The tally of a battle -/

section Tally

variable {winner npcId : NpcId} {m : VoteMap}
  {points : IterMap (SeasonId × AccountId × SelectIndex) (BattleAmount × BattleAmount × U32)}

theorem tally_entries (seasonId : SeasonId) (m : VoteMap) (battleId : BattleId) :
    (((m battleId).getD ∅).entries.map fun entry => (seasonId, entry.1)).Nodup := by
  have hkeys : (((m battleId).getD ∅).entries.map Sigma.fst).Nodup := ((m battleId).getD ∅).nodupKeys
  have hnodup := hkeys.map (f := fun key : AccountId × SelectIndex => (seasonId, key)) fun _ _ h => (Prod.mk.inj h).2
  rwa [List.map_map] at hnodup

/-- A ballot that voted on the battle gets its points. -/
theorem lookup_tally (h : pickOf m battleId (who, i) = some npcId) :
    (tally seasonId winner ((m battleId).getD ∅).entries points).lookup (seasonId, who, i) =
      some (scored winner npcId ((points.lookup (seasonId, who, i)).getD (0, 0, 0))) :=
  IterMap.lookup_foldl_of_mem (fun entry : Sigma fun _ : AccountId × SelectIndex => NpcId => (seasonId, entry.1))
    (fun entry o => scored winner entry.2 (o.getD (0, 0, 0))) (tally_entries seasonId m battleId) (IterMap.mem_entries.mpr h)

/-- No other ballot does. -/
theorem lookup_tally_of_none {seasonId' : SeasonId} (h : seasonId' = seasonId → pickOf m battleId (who, i) = none) :
    (tally seasonId winner ((m battleId).getD ∅).entries points).lookup (seasonId', who, i) =
      points.lookup (seasonId', who, i) := by
  refine IterMap.lookup_foldl_of_ne
    (fun entry : Sigma fun _ : AccountId × SelectIndex => NpcId => (seasonId, entry.1))
    (fun entry o => scored winner entry.2 (o.getD (0, 0, 0))) fun entry hentry heq => ?_
  obtain ⟨key, npcId⟩ := entry
  obtain ⟨rfl, rfl⟩ := Prod.mk.inj heq
  have hpick := IterMap.mem_entries.mp hentry
  rw [← pickOf, h rfl] at hpick
  exact absurd hpick (by simp)

end Tally

/-! ### Every ballot has its points -/

/-- The result of a battle that has one, in its scores and among the winners of its season. -/
def Decided (s : State cfg) : Prop :=
  ∀ battleId battle, s.battles battleId = some battle → battle.status ≠ .running →
    ∃ home visiting, battle.homeScore = some home ∧ battle.visitingScore = some visiting ∧
      winnerOf battle.season battleId s = some (if home > visiting then battle.home else battle.visiting)

/-- A settled battle is not running any more. -/
def SettledOver (s : State cfg) : Prop :=
  ∀ battleId, settled s battleId = true → ∃ battle, s.battles battleId = some battle ∧ battle.status ≠ .running

structure Tallied (s : State cfg) : Prop where
  decided : Decided s
  ended : SettledOver s
  unused : ∀ seasonId who (i : SelectIndex), (votesOf who seasonId s).1.length ≤ i.toNat →
    s.participantPoints.lookup (seasonId, who, i) = none
  filled : ∀ who seasonId, ∀ ballot ∈ (votesOf who seasonId s).1, ballot.selects ≠ []
  short : ∀ who seasonId (i : SelectIndex), settledAmount (picksOf who seasonId i.toNat s) s < 2 ^ 8
  entered : ∀ seasonId who (i : SelectIndex), ∀ v ∈ picksOf who seasonId i.toNat s, settled s v.battleId = true →
    (s.participantPoints.lookup (seasonId, who, i)).isSome
  points : ∀ seasonId who (i : SelectIndex),
    pointsOf seasonId who i s = pointsFor seasonId (picksOf who seasonId i.toNat s) s

/-- A battle that some ballot votes on keeps its winner once it is settled. It is settled only once, and while the
battles of each such ballot can still be counted. -/
def SeasonCall.Counts (s : State cfg) : SeasonCall → Prop
  | .setResult battleId homeScore visitingScore => ∀ battle, s.battles battleId = some battle →
      ∀ who i npcId, pickOf s.votesForCalc battleId (who, i) = some npcId → settled s battleId = true →
        winnerOf battle.season battleId s =
          some (if homeScore > visitingScore then battle.home else battle.visiting)
  | .finalsSettle battleId | .leagueSettle battleId => ∀ battle, s.battles battleId = some battle →
      ∀ who i npcId, pickOf s.votesForCalc battleId (who, i) = some npcId →
        settled s battleId = false ∧ (pointsOf battle.season who i s).1 ≠ BitVec.allOnes 8
  | _ => True

theorem calc_winner {battle : Battle} {home visiting scoreDiff : Score} {winner loser : NpcId}
    (hhome : battle.homeScore = some home) (hvisiting : battle.visitingScore = some visiting)
    (h : battle.calc = .ok (scoreDiff, winner, loser)) :
    winner = if home > visiting then battle.home else battle.visiting := by
  simp only [Battle.calc, hhome, hvisiting, okOr_some, ok_bind, scoreGt, decide_eq_true_eq] at h
  split at h
  · rename_i hgt
    obtain ⟨-, rfl, -⟩ := Prod.mk.injEq .. ▸ pure_eq_ok.mp h
    rw [if_pos hgt]
  · rename_i hle
    obtain ⟨-, rfl, -⟩ := Prod.mk.injEq .. ▸ pure_eq_ok.mp h
    rw [if_neg hle]

theorem winnerOf_insert {seasonId' : SeasonId} {winner : NpcId} (h : s'.seasonWinners = s.seasonWinners.insert seasonId
    (((s.seasonWinners seasonId).getD ∅).insert battleId winner)) (id : BattleId) :
    winnerOf seasonId' id s' =
      if seasonId' = seasonId ∧ id = battleId then some winner else winnerOf seasonId' id s := by
  rw [winnerOf, h, StorageMap.insert_apply]
  by_cases hseason : seasonId' = seasonId
  · rw [if_pos hseason, Option.getD_some, IterMap.lookup_insert, hseason]
    simp only [true_and]
    rfl
  · rw [if_neg hseason, if_neg fun hboth => hseason hboth.1]
    rfl

theorem SettledOver.not_settled (hinv : SettledOver s)
    (h : ∀ battle, s.battles battleId = some battle → battle.status = .running) : settled s battleId = false := by
  rw [Bool.eq_false_iff]
  intro hsettled
  obtain ⟨battle, hbattle, hstatus⟩ := hinv battleId hsettled
  exact hstatus (h battle hbattle)

theorem SettledOver.not_votable (hinv : SettledOver s) {v : VoteSelect} (h : Votable seasonId s v) :
    settled s v.battleId = false := by
  obtain ⟨battle, hbattle, hrunning, -⟩ := h
  exact hinv.not_settled fun old hold => Option.some.inj (hbattle.symm.trans hold) ▸ hrunning

theorem SettledOver.insert {battle : Battle} (hinv : SettledOver s) (h : s'.battles = s.battles.insert battleId battle)
    (hsettled : ∀ id, id ≠ battleId → settled s' id = settled s id)
    (hbattle : settled s' battleId = true → battle.status ≠ .running) : SettledOver s' := by
  intro id hset
  rw [h, StorageMap.insert_apply]
  by_cases heq : id = battleId
  · subst heq
    exact ⟨battle, if_pos rfl, hbattle hset⟩
  · rw [if_neg heq]
    exact hinv id ((hsettled id heq).symm.trans hset)

theorem Decided.insert {battle : Battle} (hinv : Decided s) (h : s'.battles = s.battles.insert battleId battle)
    (hwinners : ∀ seasonId id, id ≠ battleId → winnerOf seasonId id s' = winnerOf seasonId id s)
    (hbattle : battle.status ≠ .running → ∃ home visiting, battle.homeScore = some home ∧
      battle.visitingScore = some visiting ∧ winnerOf battle.season battleId s' =
        some (if home > visiting then battle.home else battle.visiting)) : Decided s' := by
  intro id battle' hid hstatus
  rw [h] at hid
  rcases StorageMap.insert_eq_some hid with ⟨rfl, rfl⟩ | ⟨hne, hid⟩
  · exact hbattle hstatus
  · rw [hwinners _ _ hne]
    exact hinv id battle' hid hstatus

theorem Tallied.of_same (hinv : Tallied s)
    (hballots : ∀ who seasonId, (votesOf who seasonId s').1 = (votesOf who seasonId s).1)
    (hpoints : s'.participantPoints = s.participantPoints) (hsettled : ∀ id, settled s' id = settled s id)
    (hwinners : ∀ who seasonId (i : SelectIndex), ∀ v ∈ picksOf who seasonId i.toNat s, settled s v.battleId = true →
      winnerOf seasonId v.battleId s' = winnerOf seasonId v.battleId s)
    (hdecided : Decided s') (hended : SettledOver s') : Tallied s' := by
  have hpicks := picksOf_congr hballots
  refine ⟨hdecided, hended, fun seasonId who i hi => ?_, fun who seasonId => ?_, fun who seasonId i => ?_,
    fun seasonId who i v hv hset => ?_, fun seasonId who i => ?_⟩
  · rw [hballots] at hi
    rw [hpoints]
    exact hinv.unused seasonId who i hi
  · rw [hballots]
    exact hinv.filled who seasonId
  · rw [hpicks, settledAmount_congr fun v _ => hsettled v.battleId]
    exact hinv.short who seasonId i
  · rw [hpicks] at hv
    rw [hsettled] at hset
    rw [hpoints]
    exact hinv.entered seasonId who i v hv hset
  · rw [pointsOf, hpoints, hpicks, pointsFor_congr (fun v _ => hsettled v.battleId) (hwinners who seasonId i)]
    exact hinv.points seasonId who i

/-- A ballot votes on more battles: the points of all others stay, and its own are those of all its picks. -/
theorem Tallied.casts {index : SelectIndex} (hinv : Tallied s) (h : Casts who seasonId index votes s s')
    (hwinners : s'.seasonWinners = s.seasonWinners) (hsettlements : s'.settlements = s.settlements)
    (hunused : ∀ seasonId who (i : SelectIndex), (votesOf who seasonId s').1.length ≤ i.toNat →
      s'.participantPoints.lookup (seasonId, who, i) = none)
    (hfilled : ∀ who seasonId, ∀ ballot ∈ (votesOf who seasonId s').1, ballot.selects ≠ [])
    (hshort : settledAmount (picksOf who seasonId index.toNat s ++ votes) s < 2 ^ 8)
    (hothers : ∀ key, key ≠ (seasonId, who, index) →
      s'.participantPoints.lookup key = s.participantPoints.lookup key)
    (hentered : ∀ v ∈ picksOf who seasonId index.toNat s ++ votes, settled s v.battleId = true →
      (s'.participantPoints.lookup (seasonId, who, index)).isSome)
    (hpoints : pointsOf seasonId who index s' =
      pointsFor seasonId (picksOf who seasonId index.toNat s ++ votes) s) : Tallied s' := by
  have hsettled := settled_congr hsettlements
  have hwinner := winnerOf_congr hwinners
  have hpicks : ∀ seasonId' who' (i : SelectIndex), (seasonId', who', i) ≠ (seasonId, who, index) →
      picksOf who' seasonId' i.toNat s' = picksOf who' seasonId' i.toNat s := by
    intro seasonId' who' i hne
    rw [h.picks, if_neg]
    intro heq
    simp only [Prod.mk.injEq] at heq
    exact hne (by rw [heq.1, heq.2.1, BitVec.eq_of_toNat_eq heq.2.2])
  have hself : picksOf who seasonId index.toNat s' = picksOf who seasonId index.toNat s ++ votes := by
    rw [h.picks, if_pos rfl]
  refine ⟨fun id battle hid hstatus => ?_, fun id hset => ?_, hunused, hfilled, fun who' seasonId' i => ?_,
    fun seasonId' who' i v hv hset => ?_, fun seasonId' who' i => ?_⟩
  · rw [h.battles] at hid
    rw [hwinner]
    exact hinv.decided id battle hid hstatus
  · rw [h.battles]
    exact hinv.ended id (hsettled id ▸ hset)
  · rw [settledAmount_congr fun v _ => hsettled v.battleId]
    by_cases hkey : (seasonId', who', i) = (seasonId, who, index)
    · simp only [Prod.mk.injEq] at hkey
      obtain ⟨rfl, rfl, rfl⟩ := hkey
      rw [hself]
      exact hshort
    · rw [hpicks _ _ _ hkey]
      exact hinv.short who' seasonId' i
  · rw [hsettled] at hset
    by_cases hkey : (seasonId', who', i) = (seasonId, who, index)
    · simp only [Prod.mk.injEq] at hkey
      obtain ⟨rfl, rfl, rfl⟩ := hkey
      exact hentered v (hself ▸ hv) hset
    · rw [hothers _ hkey]
      exact hinv.entered seasonId' who' i v (hpicks _ _ _ hkey ▸ hv) hset
  · rw [pointsFor_congr (fun v _ => hsettled v.battleId) fun v _ _ => hwinner seasonId' v.battleId]
    by_cases hkey : (seasonId', who', i) = (seasonId, who, index)
    · simp only [Prod.mk.injEq] at hkey
      obtain ⟨rfl, rfl, rfl⟩ := hkey
      rw [hself]
      exact hpoints
    · rw [hpicks _ _ _ hkey, pointsOf, hothers _ hkey]
      exact hinv.points seasonId' who' i

/-- Of a ballot that does not vote on the battle, as much is settled as before. -/
theorem settled_of_not_voted (hsettlements : s'.settlements = battleId :: s.settlements)
    (hnot : ∀ npcId, ⟨battleId, npcId⟩ ∉ picks) : ∀ v ∈ picks, settled s' v.battleId = settled s v.battleId := by
  intro v hv
  have hne : v.battleId ≠ battleId := by
    rintro rfl
    exact hnot v.npcId hv
  simp [settled_cons hsettlements, hne]

/-- Who has a pick on the battle, and its season, gets an entry; all other entries stay. -/
theorem Consistent.lookup_of_not_voted {battle : Battle} {winner : NpcId} {i : SelectIndex} (hvotes : Consistent s)
    (hbattle : s.battles battleId = some battle) (hpoints : s'.participantPoints =
      tally battle.season winner ((s.votesForCalc battleId).getD ∅).entries s.participantPoints)
    (hnot : seasonId = battle.season → ∀ npcId, ⟨battleId, npcId⟩ ∉ picksOf who seasonId i.toNat s) :
    s'.participantPoints.lookup (seasonId, who, i) = s.participantPoints.lookup (seasonId, who, i) := by
  rw [hpoints]
  refine lookup_tally_of_none fun heq => ?_
  subst heq
  exact hvotes.pickOf_eq_none hbattle (hnot rfl)

/-- The counter of a ballot has room for one more battle unless it is full. -/
theorem Tallied.settledAmount_succ_lt (hinv : Tallied s) {i : SelectIndex}
    (hroom : (pointsOf seasonId who i s).1 ≠ BitVec.allOnes 8) :
    settledAmount (picksOf who seasonId i.toNat s) s + 1 < 2 ^ 8 := by
  refine Nat.lt_of_le_of_ne (hinv.short who seasonId i) fun hfull => hroom ?_
  rw [hinv.points, pointsFor, show settledAmount (picksOf who seasonId i.toNat s) s = 255 by omega]
  rfl

/-- A battle is settled: who voted on it gets its points. -/
theorem Tallied.settle {battle : Battle} {winner : NpcId} (hinv : Tallied s) (hvotes : Consistent s)
    (hbattle : s.battles battleId = some battle) (hcompleted : battle.status = .completed)
    (hwinner : ∃ scoreDiff loser, battle.calc = .ok (scoreDiff, winner, loser))
    (hcounts : ∀ who i npcId, pickOf s.votesForCalc battleId (who, i) = some npcId →
      settled s battleId = false ∧ (pointsOf battle.season who i s).1 ≠ BitVec.allOnes 8)
    (h : s' = { s with
      participantPoints := tally battle.season winner ((s.votesForCalc battleId).getD ∅).entries s.participantPoints
      battles := s.battles.insert battleId { battle with status := .finalized }
      npcPoints := s'.npcPoints
      seasons := s'.seasons
      settlements := battleId :: s.settlements }) : Tallied s' := by
  have hbattles : s'.battles = s.battles.insert battleId { battle with status := .finalized } := by rw [h]
  have hpoints : s'.participantPoints =
      tally battle.season winner ((s.votesForCalc battleId).getD ∅).entries s.participantPoints := by rw [h]
  have hballots : s'.voteSelectInfos = s.voteSelectInfos := by rw [h]
  have hseasonWinners : s'.seasonWinners = s.seasonWinners := by rw [h]
  have hsame := votesOf_congr hballots
  have hpicks := picksOf_congr fun who seasonId => congrArg Prod.fst (hsame who seasonId)
  have hwinners := winnerOf_congr hseasonWinners
  have hsettlements : s'.settlements = battleId :: s.settlements := by rw [h]
  have hafter : settled s' battleId = true := by simp [settled_cons hsettlements]
  have hothers : ∀ id, id ≠ battleId → settled s' id = settled s id := fun id hne => by
    simp [settled_cons hsettlements, hne]
  obtain ⟨home, visiting, hhome, hvisiting, hwon⟩ := hinv.decided battleId battle hbattle (by rw [hcompleted]; decide)
  obtain ⟨scoreDiff, loser, hcalc⟩ := hwinner
  obtain rfl := calc_winner hhome hvisiting hcalc
  refine ⟨?_, ?_, fun seasonId who i hi => ?_, fun who seasonId => ?_, fun who seasonId i => ?_,
    fun seasonId who i v hv hset => ?_, fun seasonId who i => ?_⟩
  · refine hinv.decided.insert hbattles (fun seasonId id _ => hwinners seasonId id) fun _ => ?_
    rw [hwinners]
    exact ⟨home, visiting, hhome, hvisiting, hwon⟩
  · exact hinv.ended.insert hbattles hothers fun _ => BattleStatus.noConfusion
  · rw [hsame] at hi
    rw [hvotes.lookup_of_not_voted hbattle hpoints, hinv.unused seasonId who i hi]
    intro _ npcId hmem
    rw [picksOf, selectsAt_of_length_le hi] at hmem
    exact absurd hmem List.not_mem_nil
  · rw [hsame]
    exact hinv.filled who seasonId
  · rw [hpicks]
    by_cases hvoted : ∃ npcId, ⟨battleId, npcId⟩ ∈ picksOf who seasonId i.toNat s
    · obtain ⟨npcId, hmem⟩ := hvoted
      obtain ⟨rfl, hpick⟩ := hvotes.pickOf_eq_some hbattle hmem
      obtain ⟨hbefore, hroom⟩ := hcounts who i npcId hpick
      rw [settledAmount_settle (hvotes.distinct who _ i.toNat) hmem hbefore hafter hothers]
      exact hinv.settledAmount_succ_lt hroom
    · rw [settledAmount_congr (settled_of_not_voted hsettlements (not_exists.mp hvoted))]
      exact hinv.short who seasonId i
  · rw [hpicks] at hv
    by_cases hvoted : ∃ npcId, ⟨battleId, npcId⟩ ∈ picksOf who seasonId i.toNat s
    · obtain ⟨npcId, hmem⟩ := hvoted
      obtain ⟨rfl, hpick⟩ := hvotes.pickOf_eq_some hbattle hmem
      rw [hpoints, lookup_tally hpick]
      rfl
    · have hnot := not_exists.mp hvoted
      rw [hvotes.lookup_of_not_voted hbattle hpoints fun _ => hnot]
      exact hinv.entered seasonId who i v hv ((settled_of_not_voted hsettlements hnot v hv).symm.trans hset)
  · rw [hpicks]
    by_cases hvoted : ∃ npcId, ⟨battleId, npcId⟩ ∈ picksOf who seasonId i.toNat s
    · obtain ⟨npcId, hmem⟩ := hvoted
      obtain ⟨rfl, hpick⟩ := hvotes.pickOf_eq_some hbattle hmem
      have hbefore := (hcounts who i npcId hpick).1
      rw [pointsOf, hpoints, lookup_tally hpick, Option.getD_some, ← pointsOf, hinv.points,
        pointsFor_settle (hvotes.distinct who _ i.toNat) hmem hbefore hafter ((hwinners _ _).trans hwon) hothers
          fun id _ => hwinners _ id]
    · have hnot := not_exists.mp hvoted
      rw [pointsOf, hvotes.lookup_of_not_voted hbattle hpoints fun _ => hnot, ← pointsOf, hinv.points,
        pointsFor_congr (settled_of_not_voted hsettlements hnot) fun v _ _ => hwinners seasonId v.battleId]

theorem pointsOf_of_none {index : SelectIndex} (h : s.participantPoints.lookup (seasonId, who, index) = none) :
    pointsOf seasonId who index s = (0, 0, 0) := by
  rw [pointsOf, h]
  rfl

theorem pointsFor_of_not_settled (h : ∀ v ∈ votes, settled s v.battleId = false) :
    pointsFor seasonId votes s = (0, 0, 0) := by
  rw [← List.nil_append votes, pointsFor_append h]
  rfl

/-- A ballot is added, with the points of its picks. -/
theorem Tallied.snoc {ballots : List VoteSelectInfo} {ballot : VoteSelectInfo} {claimed : Bool} (hinv : Tallied s)
    (hlt : (votesOf who seasonId s).1.length < 2 ^ 16) (hlength : ballots.length = (votesOf who seasonId s).1.length)
    (hfilled : ∀ b ∈ ballots ++ [ballot], b.selects ≠ []) (hshort : settledAmount ballot.selects s < 2 ^ 8)
    (hinfos : s'.voteSelectInfos = s.voteSelectInfos.insert (who, seasonId) (ballots ++ [ballot], claimed))
    (hwinners : s'.seasonWinners = s.seasonWinners) (hsettlements : s'.settlements = s.settlements)
    (hothers : ∀ key, key ≠ (seasonId, who, BitVec.ofNat 16 (votesOf who seasonId s).1.length) →
      s'.participantPoints.lookup key = s.participantPoints.lookup key)
    (hentered : ∀ v ∈ ballot.selects, settled s v.battleId = true → (s'.participantPoints.lookup
      (seasonId, who, BitVec.ofNat 16 (votesOf who seasonId s).1.length)).isSome)
    (hpoints : pointsOf seasonId who (BitVec.ofNat 16 (votesOf who seasonId s).1.length) s' =
      pointsFor seasonId ballot.selects s)
    (h : Casts who seasonId (BitVec.ofNat 16 (votesOf who seasonId s).1.length) ballot.selects s s') : Tallied s' := by
  have hempty : picksOf who seasonId (BitVec.ofNat 16 (votesOf who seasonId s).1.length).toNat s = [] :=
    selectsAt_of_length_le (toNat_newIndex hlt).ge
  refine hinv.casts h hwinners hsettlements (fun seasonId' who' i hi => ?_) (fun who' seasonId' => ?_) ?_ hothers ?_ ?_
  · rw [votesOf_insert hinfos] at hi
    split at hi
    · rename_i heq
      obtain ⟨rfl, rfl⟩ := Prod.mk.inj heq
      rw [List.length_append, hlength] at hi
      have hne : (seasonId', who', i) ≠ (seasonId', who', BitVec.ofNat 16 (votesOf who' seasonId' s).1.length) := by
        rintro heq
        rw [(Prod.mk.inj (Prod.mk.inj heq).2).2, toNat_newIndex hlt] at hi
        exact Nat.not_succ_le_self _ hi
      rw [hothers _ hne]
      exact hinv.unused seasonId' who' i (Nat.le_of_succ_le hi)
    · rename_i hkey
      rw [hothers _ fun heq => hkey (by rw [(Prod.mk.inj heq).1, (Prod.mk.inj (Prod.mk.inj heq).2).1])]
      exact hinv.unused seasonId' who' i hi
  · rw [votesOf_insert hinfos]
    split
    · exact hfilled
    · exact hinv.filled who' seasonId'
  · rw [hempty]
    exact hshort
  · rw [hempty]
    exact hentered
  · rw [hempty]
    exact hpoints

/-- A ballot is extended, by battles that are not settled. -/
theorem Tallied.set {selectIndex : SelectIndex} {old : VoteSelectInfo} {claimed : Bool} (hinv : Tallied s)
    (hold : (votesOf who seasonId s).1[selectIndex.toNat]? = some old)
    (hunsettled : ∀ v ∈ votes, settled s v.battleId = false)
    (hinfos : s'.voteSelectInfos = s.voteSelectInfos.insert (who, seasonId) ((votesOf who seasonId s).1.set
      selectIndex.toNat { old with selects := old.selects ++ votes }, claimed))
    (hwinners : s'.seasonWinners = s.seasonWinners) (hsettlements : s'.settlements = s.settlements)
    (hpoints : s'.participantPoints = s.participantPoints) (h : Casts who seasonId selectIndex votes s s') :
    Tallied s' := by
  have hshort : settledAmount (picksOf who seasonId selectIndex.toNat s ++ votes) s < 2 ^ 8 := by
    rw [settledAmount_append hunsettled]
    exact hinv.short who seasonId selectIndex
  refine hinv.casts h hwinners hsettlements (fun seasonId' who' i hi => ?_) (fun who' seasonId' => ?_) hshort
    (fun key _ => by rw [hpoints]) (fun v hv hset => ?_) ?_
  · rw [hpoints]
    refine hinv.unused seasonId' who' i (Nat.le_trans (Nat.le_of_eq ?_) hi)
    rw [votesOf_insert hinfos]
    split
    · rename_i heq
      obtain ⟨rfl, rfl⟩ := Prod.mk.inj heq
      rw [List.length_set]
    · rfl
  · rw [votesOf_insert hinfos]
    split
    · intro ballot hballot
      rcases List.mem_or_eq_of_mem_set hballot with hmem | rfl
      · exact hinv.filled who seasonId ballot hmem
      · exact fun hnil => hinv.filled who seasonId old (List.mem_of_getElem? hold) (List.append_eq_nil_iff.mp hnil).1
    · exact hinv.filled who' seasonId'
  · rw [hpoints]
    rcases List.mem_append.mp hv with hv | hv
    · exact hinv.entered seasonId who selectIndex v hv hset
    · exact absurd ((hunsettled v hv).symm.trans hset) Bool.false_ne_true
  · rw [pointsFor_append hunsettled, pointsOf, hpoints]
    exact hinv.points seasonId who selectIndex

/-- Every call keeps the points. -/
theorem Tallied.perform (hinv : Tallied s) (hvotes : Consistent s) (hfits : c.Fits s origin)
    (hcounts : c.Counts s) (h : c.perform origin s = .ok s') : Tallied s' := by
  cases effect_of_perform h with
  | idle h =>
      have hwinners := winnerOf_congr h.winners
      have hsettled := settled_congr h.settlements
      refine hinv.of_same h.ballots h.points hsettled (fun _ seasonId _ v _ _ => hwinners seasonId v.battleId)
        (fun id battle hid hstatus => ?_) fun id hset => ?_
      · rw [h.battles] at hid
        rw [hwinners]
        exact hinv.decided id battle hid hstatus
      · rw [h.battles]
        exact hinv.ended id (hsettled id ▸ hset)
  | createBattle battle hstatus =>
      have hnew : settled s s.nextBattleId = false :=
        hinv.ended.not_settled fun old hold => absurd (hfits.symm.trans hold) (by simp)
      exact hinv.of_same (fun _ _ => rfl) rfl (fun _ => rfl) (fun _ _ _ _ _ _ => rfl)
        (hinv.decided.insert rfl (fun _ _ _ => rfl) fun hne => absurd hstatus hne)
        (hinv.ended.insert rfl (fun _ _ => rfl) fun hset => absurd (hnew.symm.trans hset) Bool.false_ne_true)
  | @setResult battleId homeScore visitingScore s battle hbattle =>
      refine hinv.of_same (fun _ _ => rfl) rfl (fun _ => rfl) (fun who seasonId i v hv hset => ?_)
        (hinv.decided.insert rfl (fun seasonId id hne => ?_) fun _ => ⟨homeScore, visitingScore, rfl, rfl, ?_⟩)
        (hinv.ended.insert rfl (fun _ _ => rfl) fun _ => BattleStatus.noConfusion)
      · rw [winnerOf_insert rfl]
        split
        · rename_i heq
          obtain ⟨rfl, rfl⟩ := heq
          exact (hcounts battle hbattle who i v.npcId (hvotes.recorded who battle.season i v hv) hset).symm
        · rfl
      · rw [winnerOf_insert rfl, if_neg fun hboth => hne hboth.2]
      · rw [winnerOf_insert rfl, if_pos ⟨rfl, rfl⟩]
  | settle battle winner hc hbattle hcompleted hwinner h =>
      refine hinv.settle hvotes hbattle hcompleted hwinner ?_ h
      rcases hc with rfl | rfl
      · exact hcounts battle hbattle
      · exact hcounts battle hbattle
  | @initialVote seasonId ticketsAmount votes s votesForCalc who horigin hne hticket hvotable hnodup hrecord =>
      have hlt := hfits who horigin
      have hunsettled : ∀ v ∈ votes, settled s v.battleId = false := fun v hv => hinv.ended.not_votable (hvotable v hv)
      have hshort : settledAmount votes s < 2 ^ 8 := by
        rw [← List.nil_append votes, settledAmount_append hunsettled]
        exact Nat.two_pow_pos 8
      refine @Tallied.snoc _ s _ who seasonId _ ⟨ticketsAmount, votes⟩ _ hinv hlt rfl ?_ hshort rfl rfl rfl
        (fun _ _ => rfl)
        (fun v hv hset => absurd ((hunsettled v hv).symm.trans hset) Bool.false_ne_true) ?_
        (casts_snoc hvotes hlt rfl (fun _ => rfl) rfl hnodup (fun v hv => (hvotable v hv).known) hrecord rfl)
      · intro ballot hballot
        rcases List.mem_append.mp hballot with hold | hnew
        · exact hinv.filled who seasonId ballot hold
        · rw [List.mem_singleton.mp hnew]
          exact hne
      · rw [pointsFor_of_not_settled hunsettled]
        exact pointsOf_of_none (hinv.unused seasonId who _ (toNat_newIndex hlt).ge)
  | @extend seasonId selectIndex battleType amount votes s votesForCalc who old horigin hold hvotable hnodup hrecord =>
      exact hinv.set hold (fun v hv => hinv.ended.not_votable (hvotable v hv)) rfl rfl rfl rfl
        (casts_set hvotes hold hvotable hnodup rfl hrecord rfl)
  | @split seasonId selectIndex battleType amount votes s votesForCalc who old horigin hold hamount hvotable hnodup
      hrecord =>
      have hpicks : picksOf who seasonId selectIndex.toNat s = old.selects := selectsAt_of_getElem? hold
      have hne : amount ≠ old.ticketAmount := fun heq => absurd hamount.1 (heq ▸ BitVec.lt_irrefl _)
      have hlt := hfits who old horigin hold hne
      have hunsettled : ∀ v ∈ votes, settled s v.battleId = false := fun v hv => hinv.ended.not_votable (hvotable v hv)
      have hshort : settledAmount (old.selects ++ votes) s < 2 ^ 8 := by
        rw [settledAmount_append hunsettled, ← hpicks]
        exact hinv.short who seasonId selectIndex
      have hfilled := hinv.filled who seasonId old (List.mem_of_getElem? hold)
      refine @Tallied.snoc _ s _ who seasonId _ ⟨amount, old.selects ++ votes⟩ _ hinv hlt (List.length_set ..) ?_
        hshort rfl rfl rfl (fun key hkey => ?_) (fun v hv hset => ?_) ?_
        (casts_split hvotes hlt hold hvotable hnodup rfl hrecord rfl)
      · intro ballot hballot
        rcases List.mem_append.mp hballot with hmem | hnew
        · rcases List.mem_or_eq_of_mem_set hmem with hmem | rfl
          · exact hinv.filled who seasonId ballot hmem
          · exact hfilled
        · rw [List.mem_singleton.mp hnew]
          exact fun hnil => hfilled (List.append_eq_nil_iff.mp hnil).1
      · rw [IterMap.lookup_insert, if_neg hkey]
      · rw [IterMap.lookup_insert, if_pos rfl]
        rfl
      · rw [pointsOf, IterMap.lookup_insert, if_pos rfl, Option.getD_some, pointsFor_append hunsettled, ← hpicks]
        exact hinv.points seasonId who selectIndex

theorem tallied_of_noSeason (h : NoSeason s) : Tallied s := by
  have hvotes := h.votesOf_eq_nil
  have hpicks := h.picksOf_eq_nil
  have hpoints : ∀ key, s.participantPoints.lookup key = none := by
    intro key
    rw [h.participantPoints]
    rfl
  refine ⟨fun id battle hid => ?_, fun id hset => ?_, fun seasonId who i _ => hpoints _,
    fun who seasonId ballot hballot => ?_,
    fun who seasonId i => ?_, fun seasonId who i v hv => ?_, fun seasonId who i => ?_⟩
  · exact absurd ((h.battles id).symm.trans hid) (by simp)
  · rw [settled, h.settlements] at hset
    exact absurd hset (by simp)
  · rw [hvotes] at hballot
    exact absurd hballot List.not_mem_nil
  · rw [hpicks]
    exact Nat.two_pow_pos 8
  · rw [hpicks] at hv
    exact absurd hv List.not_mem_nil
  · rw [hpicks, pointsOf_of_none (hpoints _)]
    rfl

theorem tallied_of_reachable {allowed : State cfg → Origin → SeasonCall → Prop}
    (hfits : ∀ s origin c, allowed s origin c → c.Fits s origin)
    (hcounts : ∀ s origin c, allowed s origin c → c.Counts s)
    (h : Transition.Reachable NoSeason (SeasonStep allowed) s) : Consistent s ∧ Tallied s := by
  refine h.invariant (fun s => Consistent s ∧ Tallied s)
    (fun s hs => ⟨consistent_of_noSeason hs, tallied_of_noSeason hs⟩) fun s s' hinv hstep => ?_
  cases hstep with
  | call origin c hc h =>
      exact ⟨hinv.1.perform (hfits s origin c hc) h, hinv.2.perform hinv.1 (hfits s origin c hc) (hcounts s origin c hc) h⟩
  | outside =>
      exact ⟨hinv.1.of_same rfl (fun _ _ => rfl) (.of_eq rfl),
        hinv.2.of_same (fun _ _ => rfl) rfl (fun _ => rfl) (fun _ _ _ _ _ _ => rfl) hinv.2.decided hinv.2.ended⟩

/-- In every run in which no index and no battle id is given twice, and no battle is settled again or gets another
winner once it is settled, the points of each ballot are what its picks count, as long as they can be counted. -/
theorem points_match_picks (h : Transition.Reachable NoSeason
    (SeasonStep fun s origin c => c.Fits s origin ∧ c.Counts s) s) (seasonId : SeasonId) (who : AccountId)
    (i : SelectIndex) :
    (pointsOf seasonId who i s).1.toNat = settledAmount (picksOf who seasonId i.toNat s) s ∧
      (pointsOf seasonId who i s).2.1.toNat = rightAmount seasonId (picksOf who seasonId i.toNat s) s ∧
        (pointsOf seasonId who i s).2.2.toNat = 3 * rightAmount seasonId (picksOf who seasonId i.toNat s) s := by
  obtain ⟨-, hinv⟩ := tallied_of_reachable (fun _ _ _ hc => hc.1) (fun _ _ _ hc => hc.2) h
  have hsettled := hinv.short who seasonId i
  have hright := (rightAmount_le seasonId (picksOf who seasonId i.toNat s) s).trans_lt hsettled
  rw [hinv.points, pointsFor]
  refine ⟨?_, ?_, ?_⟩
  · exact (BitVec.toNat_ofNat ..).trans (Nat.mod_eq_of_lt hsettled)
  · exact (BitVec.toNat_ofNat ..).trans (Nat.mod_eq_of_lt hright)
  · exact (BitVec.toNat_ofNat ..).trans (Nat.mod_eq_of_lt (by omega))

/-- Before the first battle is settled, every call counts. -/
theorem counts_of_not_settled (hsettlements : s.settlements = []) (hpoints : s.participantPoints.entries = []) :
    c.Counts s := by
  have hnot : ∀ battleId, settled s battleId = false := fun battleId => by rw [settled, hsettlements]; rfl
  have hsettle : ∀ battleId battle, s.battles battleId = some battle → ∀ who i npcId,
      pickOf s.votesForCalc battleId (who, i) = some npcId →
        settled s battleId = false ∧ (pointsOf battle.season who i s).1 ≠ BitVec.allOnes 8 := by
    intro battleId battle _ who i npcId _
    have hempty : s.participantPoints = ∅ := AList.ext hpoints
    have hzero : pointsOf battle.season who i s = (0, 0, 0) := pointsOf_of_none (by rw [hempty]; rfl)
    exact ⟨hnot battleId, by rw [hzero]; decide⟩
  cases c with
  | setResult battleId => exact fun _ _ _ _ _ _ hset => absurd ((hnot battleId).symm.trans hset) Bool.false_ne_true
  | finalsSettle battleId => exact hsettle battleId
  | leagueSettle battleId => exact hsettle battleId
  | _ => trivial

/-- The first season of the league, with a battle that alice has voted on and that has a result. -/
def decidedBattle : Result (State plainConfig × State plainConfig × State plainConfig × State plainConfig ×
    State plainConfig) := do
  let s₁ ← createSeason (.signed organizer) [] .league 1000000000000000001
    (emptyState plainConfig (.genesis fun _ => (0, 0)))
  let s₂ ← createBattle (.signed organizer) 1 .league 1 2 [1] s₁
  let s₃ ← giveAwayTickets (.signed organizer) 1 [1] s₂
  let s₄ ← initialVote (.signed Token.alice) 1 1 [⟨1, 1⟩] s₃
  let s₅ ← setResult (.signed organizer) 1 3 0 s₄
  return (s₁, s₂, s₃, s₄, s₅)

/-- The battle is settled, and its result is set again. -/
theorem points_match_picks_settled : ∃ s : State plainConfig,
    picksOf Token.alice 1 0 s = [⟨1, 1⟩] ∧ settled s 1 = true ∧
      (pointsOf 1 Token.alice 0 s).1.toNat = settledAmount [⟨1, 1⟩] s := by
  obtain ⟨⟨⟨s₁, s₂, s₃, s₄, s₅⟩, s₆, s₇⟩, hrun, hcheck⟩ := exists_of_succeedsWith
    (x := do
      let x ← decidedBattle
      let s₆ ← leagueSettle (.signed organizer) 1 x.2.2.2.2
      let s₇ ← setResult (.signed organizer) 1 3 1 s₆
      return (x, s₆, s₇))
    (p := fun x => (decide (x.1.1.battles x.1.1.nextBattleId = none) &&
      decide ((votesOf Token.alice 1 x.1.2.2.1).1.length = 0) &&
      decide (x.1.2.2.2.1.settlements = []) && decide (x.1.2.2.2.1.participantPoints.entries = []) &&
      decide (x.1.2.2.2.2.settlements = []) && decide (x.1.2.2.2.2.participantPoints.entries = [])) &&
      decide ((x.2.1.battles 1).map (fun battle => (battle.season, battle.home)) = some (1, 1)) &&
      decide (winnerOf 1 1 x.2.1 = some 1) &&
      decide (picksOf Token.alice 1 0 x.2.2 = [⟨1, 1⟩]) && settled x.2.2 1) (by decide +kernel)
  simp only [Bool.and_eq_true, decide_eq_true_eq] at hcheck
  obtain ⟨⟨⟨⟨⟨⟨⟨⟨⟨hnone, hlength⟩, hfresh₄⟩, hpoints₄⟩, hfresh₅⟩, hpoints₅⟩, hbattle⟩, hwinner⟩, hpicks⟩,
    hsettled⟩ := hcheck
  simp only [decidedBattle, bind_eq_ok, pure_eq_ok, Prod.mk.injEq] at hrun
  obtain ⟨x, ⟨_, h₁, _, h₂, _, h₃, _, h₄, _, h₅, rfl⟩, _, h₆, _, h₇, ⟨rfl, rfl, rfl, rfl, rfl⟩, rfl, rfl⟩ := hrun
  have hreach : Transition.Reachable NoSeason (SeasonStep fun s origin c => c.Fits s origin ∧ c.Counts s) _ :=
    ⟨_, noSeason_emptyState _, ((((((Relation.ReflTransGen.single
      (.call _ (.createSeason [] .league 1000000000000000001) ⟨trivial, trivial⟩ h₁)).tail
      (.call _ (.createBattle 1 .league 1 2 [1]) ⟨hnone, trivial⟩ h₂)).tail
      (.call _ (.giveAwayTickets 1 [1]) ⟨trivial, trivial⟩ h₃)).tail
      (.call _ (.initialVote 1 1 [⟨1, 1⟩]) ⟨fun who hwho => by
        cases hwho
        exact hlength ▸ Nat.two_pow_pos 16, trivial⟩ h₄)).tail
      (.call _ (.setResult 1 3 0) ⟨trivial, counts_of_not_settled hfresh₄ hpoints₄⟩ h₅)).tail
      (.call _ (.leagueSettle 1) ⟨trivial, counts_of_not_settled hfresh₅ hpoints₅⟩ h₆)).tail
      (.call _ (.setResult 1 3 1) ⟨trivial, fun battle hsome _ _ _ _ _ => by
        rw [hsome, Option.map_some, Option.some.injEq, Prod.mk.injEq] at hbattle
        rw [hbattle.1, hbattle.2, if_pos (by decide)]
        exact hwinner⟩ h₇)⟩
  refine ⟨_, hpicks, hsettled, ?_⟩
  rw [← hpicks]
  exact (points_match_picks hreach 1 Token.alice 0).1

/-- A result that is set again lets the battle be settled again, and each ballot gets its points twice. -/
theorem settled_twice : ∃ s : State plainConfig,
    Transition.Reachable NoSeason (SeasonStep fun _ _ _ => True) s ∧
      picksOf Token.alice 1 0 s = [⟨1, 1⟩] ∧ pointsOf 1 Token.alice 0 s = (2, 2, 6) := by
  obtain ⟨⟨⟨s₁, s₂, s₃, s₄, s₅⟩, s₆, s₇, s₈⟩, hrun, hcheck⟩ := exists_of_succeedsWith
    (x := do
      let x ← decidedBattle
      let s₆ ← leagueSettle (.signed organizer) 1 x.2.2.2.2
      let s₇ ← setResult (.signed organizer) 1 3 0 s₆
      let s₈ ← leagueSettle (.signed organizer) 1 s₇
      return (x, s₆, s₇, s₈))
    (p := fun x => decide (picksOf Token.alice 1 0 x.2.2.2 = [⟨1, 1⟩]) &&
      decide (pointsOf 1 Token.alice 0 x.2.2.2 = (2, 2, 6))) (by decide +kernel)
  simp only [Bool.and_eq_true, decide_eq_true_eq] at hcheck
  simp only [decidedBattle, bind_eq_ok, pure_eq_ok, Prod.mk.injEq] at hrun
  obtain ⟨x, ⟨_, h₁, _, h₂, _, h₃, _, h₄, _, h₅, rfl⟩, _, h₆, _, h₇, _, h₈, ⟨rfl, rfl, rfl, rfl, rfl⟩, rfl, rfl, rfl⟩ := hrun
  exact ⟨_, ⟨_, noSeason_emptyState _, (((((((Relation.ReflTransGen.single
    (.call _ (.createSeason [] .league 1000000000000000001) trivial h₁)).tail
    (.call _ (.createBattle 1 .league 1 2 [1]) trivial h₂)).tail
    (.call _ (.giveAwayTickets 1 [1]) trivial h₃)).tail
    (.call _ (.initialVote 1 1 [⟨1, 1⟩]) trivial h₄)).tail
    (.call _ (.setResult 1 3 0) trivial h₅)).tail
    (.call _ (.leagueSettle 1) trivial h₆)).tail
    (.call _ (.setResult 1 3 0) trivial h₇)).tail
    (.call _ (.leagueSettle 1) trivial h₈)⟩, hcheck⟩

end Fusotao.AbyssTournament
