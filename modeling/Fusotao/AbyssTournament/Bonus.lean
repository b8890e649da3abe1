import Fusotao.AbyssTournament.Tickets
import Fusotao.AbyssTournament.Points

/-!
# The bonus of a season

Once a season is closed, who has ballots that won all battles, or all but one, shares what its treasury has. The shares
can be claimed in any order.
-/

namespace Fusotao.AbyssTournament

open Exec
open Token (freeBalance)

open scoped BigOperators

variable {cfg : Config} {s s' : State cfg} {who : AccountId} {seasonId : SeasonId} {origin : Origin} {c : SeasonCall}
  {season : Season}

/-! ### The tickets that won -/

/-- The tickets on the ballots that are right about so many battles. -/
def winningTickets (seasonId : SeasonId) (n : Nat) (s : State cfg) : Nat :=
  ∑ who, ((votesOf who seasonId s).1.map fun ballot =>
    if rightAmount seasonId ballot.selects s = n then ballot.ticketAmount.toNat else 0).sum

/-- Every battle that is voted on is settled. -/
def AllSettled (seasonId : SeasonId) (s : State cfg) : Prop :=
  ∀ who i, ∀ v ∈ picksOf who seasonId i s, settled s v.battleId = true

/-- The tickets of an entry, if its ballot is right about so many battles. -/
def entryTickets (seasonId : SeasonId) (n : BattleAmount) (s : State cfg) (key : SeasonId × AccountId × SelectIndex)
    (p : BattleAmount × BattleAmount × U32) : Nat :=
  if key.1 = seasonId then
    if p.2.1 = n then
      (((votesOf key.2.1 seasonId s).1[key.2.2.toNat]?).map fun ballot => ballot.ticketAmount.toNat).getD 0
    else 0
  else 0

/-- What is counted of a ballot fits a byte. -/
theorem Tallied.rightAmount_lt (hinv : Tallied s) (hvotes : Consistent s) {i : Nat} {ballot : VoteSelectInfo}
    (hballot : (votesOf who seasonId s).1[i]? = some ballot) : rightAmount seasonId ballot.selects s < 2 ^ 8 := by
  obtain ⟨hlt, -⟩ := List.getElem?_eq_some_iff.mp hballot
  have hshort := hinv.short who seasonId (BitVec.ofNat 16 i)
  rw [toNat_newIndex (hlt.trans_le (hvotes.length who seasonId)), picksOf, selectsAt_of_getElem? hballot] at hshort
  exact (rightAmount_le seasonId ballot.selects s).trans_lt hshort

/-- A ballot whose battles are settled has an entry, with the battles it is right about. -/
theorem exists_entry (hvotes : Consistent s) (hinv : Tallied s) (hsettled : AllSettled seasonId s) {i : SelectIndex}
    {ballot : VoteSelectInfo} (hballot : (votesOf who seasonId s).1[i.toNat]? = some ballot) : ∃ p,
      s.participantPoints.lookup (seasonId, who, i) = some p ∧
        p.2.1.toNat = rightAmount seasonId ballot.selects s := by
  have hpicks : picksOf who seasonId i.toNat s = ballot.selects := selectsAt_of_getElem? hballot
  obtain ⟨v, hv⟩ := List.exists_mem_of_ne_nil _ (hinv.filled who seasonId ballot (List.mem_of_getElem? hballot))
  rw [← hpicks] at hv
  obtain ⟨p, hp⟩ := Option.isSome_iff_exists.mp (hinv.entered seasonId who i v hv (hsettled who i.toNat v hv))
  refine ⟨p, hp, ?_⟩
  have hpoints := hinv.points seasonId who i
  rw [pointsOf, hp, Option.getD_some, hpicks] at hpoints
  rw [hpoints]
  exact (BitVec.toNat_ofNat ..).trans (Nat.mod_eq_of_lt (hinv.rightAmount_lt hvotes hballot))

/-- The points are those of the ballots: their entries have the tickets that won. -/
theorem sum_entryTickets (hvotes : Consistent s) (hinv : Tallied s) (hsettled : AllSettled seasonId s)
    (n : BattleAmount) : (s.participantPoints.entries.map fun entry =>
      entryTickets seasonId n s entry.1 entry.2).sum = winningTickets seasonId n.toNat s := by
  rw [IterMap.sum_entries, Fintype.sum_prod_type, Finset.sum_eq_single seasonId, Fintype.sum_prod_type, winningTickets]
  · refine Finset.sum_congr rfl fun who _ => ?_
    rw [← sum_bitVec_getElem? (hvotes.length who seasonId)]
    refine Finset.sum_congr rfl fun i _ => ?_
    cases hballot : (votesOf who seasonId s).1[i.toNat]? with
    | none =>
        rw [hinv.unused seasonId who i (List.getElem?_eq_none_iff.mp hballot)]
        rfl
    | some ballot =>
        obtain ⟨p, hp, hright⟩ := exists_entry hvotes hinv hsettled hballot
        rw [hp, Option.map_some, Option.getD_some, Option.map_some, Option.getD_some, entryTickets, if_pos rfl]
        dsimp only
        rw [hballot, ← hright]
        exact if_congr BitVec.toNat_inj.symm rfl rfl
  · intro id _ hne
    refine Finset.sum_eq_zero fun key _ => ?_
    cases s.participantPoints.lookup (id, key) with
    | none => rfl
    | some p =>
        rw [Option.map_some, Option.getD_some, entryTickets]
        exact if_neg hne
  · intro hnot
    exact absurd (Finset.mem_univ _) hnot

theorem add_ofNat_ite {w : Nat} {P : Prop} [Decidable P] (a t : BitVec w) (m : Nat) :
    (if P then a + t else a) + BitVec.ofNat w m = a + BitVec.ofNat w ((if P then t.toNat else 0) + m) := by
  split
  · rw [BitVec.ofNat_add, BitVec.ofNat_toNat, BitVec.setWidth_eq, BitVec.add_assoc]
  · rw [Nat.zero_add]

/-- Entry by entry, the tickets are added to the counts. -/
theorem countTickets_entries {l : List (Sigma fun _ : SeasonId × AccountId × SelectIndex =>
      BattleAmount × BattleAmount × U32)} (n : BattleAmount)
    (h : ∀ entry ∈ l, entry.1.1 = seasonId →
      ∃ ballot, (votesOf entry.1.2.1 seasonId s).1[entry.1.2.2.toNat]? = some ballot) (a b : U32) :
    (l.filter fun entry => entry.1.1 = seasonId).foldlM
      (fun counts entry => do
        let info ← okOr (votesOf entry.1.2.1 seasonId s).1[entry.1.2.2.toNat]? Abort.panic
        return (if entry.2.2.1 = n then counts.1 + info.ticketAmount else counts.1,
          if entry.2.2.1 + 1 = n then counts.2 + info.ticketAmount else counts.2))
      (a, b) = (.ok (a + BitVec.ofNat 32 (l.map fun entry => entryTickets seasonId n s entry.1 entry.2).sum,
        b + BitVec.ofNat 32 (l.map fun entry => entryTickets seasonId (n - 1) s entry.1 entry.2).sum) : Result _) := by
  induction l generalizing a b with
  | nil =>
      rw [List.map_nil, List.map_nil, List.sum_nil]
      exact congrArg Except.ok (Prod.ext (BitVec.add_zero a).symm (BitVec.add_zero b).symm)
  | cons entry l ih =>
      have ih := ih fun e he => h e (List.mem_cons_of_mem _ he)
      by_cases hseason : entry.1.1 = seasonId
      · obtain ⟨ballot, hballot⟩ := h entry List.mem_cons_self hseason
        have htickets : ∀ n, entryTickets seasonId n s entry.1 entry.2 =
            if entry.2.2.1 = n then ballot.ticketAmount.toNat else 0 := fun n => by
          rw [entryTickets, if_pos hseason, hballot]
          rfl
        rw [List.filter_cons_of_pos (by simpa using hseason), List.foldlM_cons, hballot, okOr_some]
        simp only [ok_bind, pure_bind, List.map_cons, List.sum_cons, htickets]
        rw [ih, add_ofNat_ite, add_ofNat_ite]
        simp only [eq_sub_iff_add_eq]
      · rw [List.filter_cons_of_neg (by simpa using hseason), ih]
        simp [entryTickets, hseason]

/-- Closing a season counts the tickets that won. -/
theorem countTickets_eq_ok (hvotes : Consistent s) (hinv : Tallied s) (hsettled : AllSettled seasonId s)
    (n : BattleAmount) : countTickets seasonId n s = .ok (BitVec.ofNat 32 (winningTickets seasonId n.toNat s),
      BitVec.ofNat 32 (winningTickets seasonId (n - 1).toNat s)) := by
  rw [countTickets, countTickets_entries n fun entry hentry hseason => ?_, zero_add, zero_add,
    sum_entryTickets hvotes hinv hsettled, sum_entryTickets hvotes hinv hsettled]
  -- An entry without a ballot is none.
  by_contra hnone
  have hlookup : s.participantPoints.lookup entry.1 = some entry.2 := IterMap.mem_entries.mp hentry
  obtain ⟨⟨id, who, i⟩, p⟩ := entry
  obtain rfl : id = seasonId := hseason
  rw [hinv.unused id who i (List.getElem?_eq_none_iff.mp (Option.not_isSome_iff_eq_none.mp fun hsome =>
    hnone (Option.isSome_iff_exists.mp hsome)))] at hlookup
  exact absurd hlookup (by simp)

/-! ### What a ticket is worth -/

/-- The bonus of those that are right about so many battles, if the treasury has `b`. -/
def bonusFor (totalBattles : BattleAmount) (b : U128) (n : Nat) : Nat :=
  if n = totalBattles.toNat then (b * 7 / 8).toNat
  else if n + 1 = totalBattles.toNat then (b - b * 7 / 8).toNat
  else 0

def shareFor (seasonId : SeasonId) (season : Season) (b : U128) (s : State cfg) (n : Nat) : Nat :=
  min (bonusFor season.totalBattles b n / winningTickets seasonId n s) (100 * season.ticketPrice.toNat)

/-- What the ballots of an account are worth. -/
def payout (seasonId : SeasonId) (season : Season) (b : U128) (s : State cfg) (who : AccountId) : Nat :=
  ((votesOf who seasonId s).1.map fun ballot =>
    shareFor seasonId season b s (rightAmount seasonId ballot.selects s) * ballot.ticketAmount.toNat).sum

/-- The season as it is closed. -/
def closed (seasonId : SeasonId) (season : Season) (b : U128) (s : State cfg) : Season :=
  { season with
    bonusStrategy :=
      [(season.totalBattles, BitVec.ofNat 32 (winningTickets seasonId season.totalBattles.toNat s), b * 7 / 8),
        (season.totalBattles - 1, BitVec.ofNat 32 (winningTickets seasonId (season.totalBattles - 1).toNat s),
          b - b * 7 / 8)]
    status := .finalized }

/-- No number of tickets that share a bonus wraps, and neither does the most that a ticket is worth. -/
structure Shareable (seasonId : SeasonId) (season : Season) (s : State cfg) : Prop where
  battles : season.totalBattles ≠ 0
  champions : winningTickets seasonId season.totalBattles.toNat s < 2 ^ 32
  runnersUp : winningTickets seasonId (season.totalBattles - 1).toNat s < 2 ^ 32
  price : 100 * season.ticketPrice.toNat < 2 ^ 128

theorem toNat_capped {x price : U128} (h : 100 * price.toNat < 2 ^ 128) :
    (if x > price * 100 then price * 100 else x).toNat = min x.toNat (100 * price.toNat) := by
  have hprice : (price * 100).toNat = 100 * price.toNat := by
    rw [BitVec.toNat_mul, Nat.mul_comm]
    exact Nat.mod_eq_of_lt h
  split
  · rename_i hgt
    have hlt : (price * 100).toNat < x.toNat := hgt
    omega
  · rename_i hle
    have hle : ¬(price * 100).toNat < x.toNat := hle
    omega

/-- A bonus is divided by the tickets that share it. -/
theorem toNat_div_tickets {x : U128} {n : Nat} (h : n < 2 ^ 32) :
    (x / (BitVec.ofNat 32 n).setWidth 128).toNat = x.toNat / n := by
  rw [BitVec.toNat_udiv, BitVec.toNat_setWidth, BitVec.toNat_ofNat, Nat.mod_eq_of_lt h,
    Nat.mod_eq_of_lt (h.trans (by decide))]

theorem toNat_bonusPerTicket_of_find? {x n : BattleAmount} {tickets : Nat} {bonus : U128} (htickets : tickets < 2 ^ 32)
    (hprice : 100 * season.ticketPrice.toNat < 2 ^ 128)
    (h : season.bonusStrategy.find? (fun b => x = b.1 ∧ b.2.1 > 0) = some (n, BitVec.ofNat 32 tickets, bonus)) :
    (bonusPerTicket season x).toNat = min (bonus.toNat / tickets) (100 * season.ticketPrice.toNat) := by
  rw [bonusPerTicket, h]
  exact (toNat_capped hprice).trans (by rw [toNat_div_tickets htickets])

theorem bonusPerTicket_of_none {x : BattleAmount}
    (h : season.bonusStrategy.find? (fun b => x = b.1 ∧ b.2.1 > 0) = none) : bonusPerTicket season x = 0 := by
  rw [bonusPerTicket, h]

theorem toNat_bonusPerTicket {b : U128} {n : Nat} (h : Shareable seasonId season s) (hn : n < 2 ^ 8) :
    (bonusPerTicket (closed seasonId season b s) (BitVec.ofNat 8 n)).toNat = shareFor seasonId season b s n := by
  have hindex : ∀ m : BattleAmount, BitVec.ofNat 8 n = m ↔ n = m.toNat := fun m => by
    rw [← BitVec.toNat_inj, BitVec.toNat_ofNat, Nat.mod_eq_of_lt hn]
  have hpos : ∀ {m : Nat}, m < 2 ^ 32 → (BitVec.ofNat 32 m > 0 ↔ 0 < m) := fun {m} hm => by
    rw [gt_iff_lt, BitVec.lt_def, BitVec.toNat_ofNat, Nat.mod_eq_of_lt hm]
    rfl
  have hlast : (season.totalBattles - 1).toNat + 1 = season.totalBattles.toNat := by
    have hne : season.totalBattles.toNat ≠ 0 := fun heq => h.battles (BitVec.eq_of_toNat_eq heq)
    have hone : (1 : BattleAmount) ≤ season.totalBattles := Nat.one_le_iff_ne_zero.mpr hne
    rw [BitVec.toNat_sub_of_le hone]
    exact Nat.sub_add_cancel hone
  rw [shareFor]
  by_cases hzero : winningTickets seasonId n s = 0
  · -- Nobody shares the bonus.
    rw [bonusPerTicket_of_none, hzero, Nat.div_zero, Nat.zero_min]
    · rfl
    · refine List.find?_eq_none.mpr fun tier htier hfound => ?_
      obtain ⟨hx, htickets⟩ := of_decide_eq_true hfound
      rcases List.mem_cons.mp htier with rfl | htier
      · rw [hpos h.champions, ← (hindex _).mp hx, hzero] at htickets
        exact Nat.lt_irrefl 0 htickets
      · obtain rfl := List.mem_singleton.mp htier
        rw [hpos h.runnersUp, ← (hindex _).mp hx, hzero] at htickets
        exact Nat.lt_irrefl 0 htickets
  by_cases hall : n = season.totalBattles.toNat
  · have hfind : (closed seasonId season b s).bonusStrategy.find?
        (fun tier => BitVec.ofNat 8 n = tier.1 ∧ tier.2.1 > 0) = some (season.totalBattles,
          BitVec.ofNat 32 (winningTickets seasonId season.totalBattles.toNat s), b * 7 / 8) :=
      List.find?_cons_of_pos (decide_eq_true ⟨(hindex _).mpr hall,
        (hpos h.champions).mpr (hall ▸ Nat.pos_of_ne_zero hzero)⟩)
    rw [@toNat_bonusPerTicket_of_find? (closed seasonId season b s) _ _ _ _ h.champions h.price hfind, bonusFor, if_pos hall, hall]
    rfl
  have hfirst : ¬(BitVec.ofNat 8 n = season.totalBattles ∧
      BitVec.ofNat 32 (winningTickets seasonId season.totalBattles.toNat s) > 0) :=
    fun hboth => hall ((hindex _).mp hboth.1)
  by_cases hbut : n + 1 = season.totalBattles.toNat
  · have hn : n = (season.totalBattles - 1).toNat := by omega
    have hfind : (closed seasonId season b s).bonusStrategy.find?
        (fun tier => BitVec.ofNat 8 n = tier.1 ∧ tier.2.1 > 0) = some (season.totalBattles - 1,
          BitVec.ofNat 32 (winningTickets seasonId (season.totalBattles - 1).toNat s), b - b * 7 / 8) :=
      (List.find?_cons_of_neg (by simpa using hfirst)).trans (List.find?_cons_of_pos (decide_eq_true
        ⟨(hindex _).mpr hn, (hpos h.runnersUp).mpr (hn ▸ Nat.pos_of_ne_zero hzero)⟩))
    rw [@toNat_bonusPerTicket_of_find? (closed seasonId season b s) _ _ _ _ h.runnersUp h.price hfind, bonusFor,
      if_neg hall, if_pos hbut, hn]
    rfl
  · rw [bonusPerTicket_of_none, bonusFor, if_neg hall, if_neg hbut, Nat.zero_div, Nat.zero_min]
    · rfl
    · refine List.find?_eq_none.mpr fun tier htier hfound => ?_
      obtain ⟨hx, -⟩ := of_decide_eq_true hfound
      rcases List.mem_cons.mp htier with rfl | htier
      · exact hall ((hindex _).mp hx)
      · obtain rfl := List.mem_singleton.mp htier
        have hn : n = (season.totalBattles - 1).toNat := (hindex _).mp hx
        omega

/-! ### The treasury covers all shares -/

theorem shareFor_mul_le (seasonId : SeasonId) (season : Season) (b : U128) (s : State cfg) (n : Nat) :
    shareFor seasonId season b s n * winningTickets seasonId n s ≤ bonusFor season.totalBattles b n :=
  (Nat.mul_le_mul_right _ (Nat.min_le_left _ _)).trans (Nat.div_mul_le_self _ _)

/-- Only two tiers have a bonus. -/
theorem shareFor_le {b : U128} {n k t : Nat} (hk : k + 1 = season.totalBattles.toNat) :
    shareFor seasonId season b s n * t ≤
      shareFor seasonId season b s (k + 1) * (if n = k + 1 then t else 0) +
        shareFor seasonId season b s k * if n = k then t else 0 := by
  by_cases hall : n = k + 1
  · rw [hall, if_pos rfl]
    exact Nat.le_add_right _ _
  by_cases hbut : n = k
  · rw [hbut, if_pos rfl]
    exact Nat.le_add_left _ _
  · have hnone : bonusFor season.totalBattles b n = 0 := by
      rw [bonusFor, if_neg (by omega), if_neg (by omega)]
    rw [shareFor, hnone, Nat.zero_div, Nat.zero_min, Nat.zero_mul]
    exact Nat.zero_le _

theorem payout_le {b : U128} {k : Nat} (hk : k + 1 = season.totalBattles.toNat) (who : AccountId) :
    payout seasonId season b s who ≤ shareFor seasonId season b s (k + 1) * ((votesOf who seasonId s).1.map fun ballot =>
        if rightAmount seasonId ballot.selects s = k + 1 then ballot.ticketAmount.toNat else 0).sum +
      shareFor seasonId season b s k * ((votesOf who seasonId s).1.map fun ballot =>
        if rightAmount seasonId ballot.selects s = k then ballot.ticketAmount.toNat else 0).sum := by
  rw [← List.sum_map_mul_left, ← List.sum_map_mul_left, ← List.sum_map_add]
  exact List.sum_le_sum fun ballot _ => shareFor_le hk

theorem bonus_add_bonus (b : U128) : (b * 7 / 8).toNat + (b - b * 7 / 8).toNat = b.toNat := by
  have hle : (b * 7 / 8).toNat ≤ b.toNat := by
    rw [BitVec.toNat_udiv, BitVec.toNat_mul, show (7 : U128).toNat = 7 from rfl, show (8 : U128).toNat = 8 from rfl]
    have hmod := Nat.mod_le (b.toNat * 7) (2 ^ 128)
    omega
  rw [BitVec.toNat_sub_of_le hle]
  exact Nat.add_sub_cancel' hle

theorem sum_payout_le (hbattles : season.totalBattles ≠ 0) (b : U128) :
    ∑ who, payout seasonId season b s who ≤ b.toNat := by
  have hne : season.totalBattles.toNat ≠ 0 := fun heq => hbattles (BitVec.eq_of_toNat_eq heq)
  obtain ⟨k, hk⟩ := Nat.exists_eq_succ_of_ne_zero hne
  have hchampions := shareFor_mul_le seasonId season b s (k + 1)
  have hrunnersUp := shareFor_mul_le seasonId season b s k
  rw [bonusFor, if_pos hk.symm] at hchampions
  rw [bonusFor, if_neg (by omega), if_pos hk.symm] at hrunnersUp
  calc ∑ who, payout seasonId season b s who
      ≤ shareFor seasonId season b s (k + 1) * winningTickets seasonId (k + 1) s +
          shareFor seasonId season b s k * winningTickets seasonId k s := by
        rw [winningTickets, winningTickets, Finset.mul_sum, Finset.mul_sum, ← Finset.sum_add_distrib]
        exact Finset.sum_le_sum fun who _ => payout_le hk.symm who
    _ ≤ (b * 7 / 8).toNat + (b - b * 7 / 8).toNat := Nat.add_le_add hchampions hrunnersUp
    _ = b.toNat := bonus_add_bonus b

/-! ### What an account claims -/

/-- Claiming counts the picks that are right anew. -/
theorem selectRightBattles_eq_ok {ballot : VoteSelectInfo}
    (h : ∀ v ∈ ballot.selects, settled s v.battleId = true ∧ ∃ winner, winnerOf seasonId v.battleId s = some winner) :
    selectRightBattles ((s.seasonWinners seasonId).getD ∅) ballot =
      .ok (BitVec.ofNat 8 (rightAmount seasonId ballot.selects s)) := by
  have hcount : ∀ (votes : List VoteSelect) (n : BattleAmount), (∀ v ∈ votes, v ∈ ballot.selects) →
      votes.foldlM (fun n v => do
        let winner ← okOr (((s.seasonWinners seasonId).getD ∅).lookup v.battleId) Abort.panic
        return if v.npcId = winner then n + 1 else n) n =
          (.ok (n + BitVec.ofNat 8 (votes.countP (isRight seasonId s))) : Result BattleAmount) := by
    intro votes
    induction votes with
    | nil => exact fun n _ => congrArg Except.ok (BitVec.add_zero n).symm
    | cons v votes ih =>
        intro n hmem
        obtain ⟨hsettled, winner, hwinner⟩ := h v (hmem v List.mem_cons_self)
        have hlookup : ((s.seasonWinners seasonId).getD ∅).lookup v.battleId = some winner := hwinner
        rw [List.foldlM_cons, hlookup, okOr_some]
        simp only [ok_bind, pure_bind]
        rw [ih _ fun w hw => hmem w (List.mem_cons_of_mem _ hw), List.countP_cons, isRight, hsettled, hwinner]
        simp only [Bool.true_and, decide_eq_true_eq, Option.some.injEq, eq_comm (a := winner)]
        split
        · rw [BitVec.ofNat_add, BitVec.add_comm (BitVec.ofNat 8 _), BitVec.add_assoc]
          rfl
        · rfl
  rw [selectRightBattles, hcount ballot.selects 0 fun _ hv => hv, zero_add]
  rfl

/-- Every ballot of the account is paid its share. -/
theorem totalClaimed_eq_ok {b : U128} (hvotes : Consistent s) (hinv : Tallied s) (hsettled : AllSettled seasonId s)
    (hshareable : Shareable seasonId season s)
    (hwinner : ∀ who i, ∀ v ∈ picksOf who seasonId i s, ∃ winner, winnerOf seasonId v.battleId s = some winner)
    (who : AccountId) :
    totalClaimed (closed seasonId season b s) ((s.seasonWinners seasonId).getD ∅) (votesOf who seasonId s).1 =
      .ok (BitVec.ofNat 128 (payout seasonId season b s who)) := by
  have hsum : ∀ (ballots : List VoteSelectInfo) (total : U128), (∀ x ∈ ballots, x ∈ (votesOf who seasonId s).1) →
      ballots.foldlM (fun total sel => do
        let rightBattles ← selectRightBattles ((s.seasonWinners seasonId).getD ∅) sel
        return total + bonusPerTicket (closed seasonId season b s) rightBattles * sel.ticketAmount.setWidth 128) total =
          (.ok (total + BitVec.ofNat 128 (ballots.map fun ballot => shareFor seasonId season b s
            (rightAmount seasonId ballot.selects s) * ballot.ticketAmount.toNat).sum) : Result U128) := by
    intro ballots
    induction ballots with
    | nil => exact fun total _ => congrArg Except.ok (BitVec.add_zero total).symm
    | cons ballot ballots ih =>
        intro total hmem
        obtain ⟨i, hi⟩ := List.mem_iff_getElem?.mp (hmem ballot List.mem_cons_self)
        have hpicks : picksOf who seasonId i s = ballot.selects := selectsAt_of_getElem? hi
        have hright := hinv.rightAmount_lt hvotes hi
        rw [List.foldlM_cons, selectRightBattles_eq_ok fun v hv =>
          ⟨hsettled who i v (hpicks ▸ hv), hwinner who i v (hpicks ▸ hv)⟩]
        simp only [ok_bind, pure_bind]
        rw [ih _ fun x hx => hmem x (List.mem_cons_of_mem _ hx), List.map_cons, List.sum_cons, BitVec.ofNat_add,
          ← toNat_bonusPerTicket hshareable hright, BitVec.add_assoc, BitVec.ofNat_mul]
        simp only [BitVec.ofNat_toNat, BitVec.setWidth_eq]
  rw [totalClaimed, hsum _ 0 fun _ hx => hx, zero_add]
  rfl

theorem exists_winner (hvotes : Consistent s) (hinv : Tallied s) (hsettled : AllSettled seasonId s) {i : Nat}
    {v : VoteSelect} (hv : v ∈ picksOf who seasonId i s) : ∃ winner, winnerOf seasonId v.battleId s = some winner := by
  obtain ⟨battle, hbattle, rfl⟩ := hvotes.known who seasonId i v hv
  obtain ⟨judged, hjudged, hstatus⟩ := hinv.ended v.battleId (hsettled who i v hv)
  obtain rfl := Option.some.inj (hbattle.symm.trans hjudged)
  obtain ⟨home, visiting, -, -, hwinner⟩ := hinv.decided v.battleId battle hbattle hstatus
  exact ⟨_, hwinner⟩

/-! ### The treasuries of the seasons -/

/-- Each season has the treasury of its id, and some battles. -/
def Listed (s : State cfg) : Prop :=
  ∀ id season, s.seasons id = some season → season.treasury = cfg.getSeasonTreasury id ∧ season.totalBattles ≠ 0

theorem totalBattles_ne_zero (battleType : BattleType) : battleType.totalBattles ≠ 0 := by
  cases battleType <;> decide

theorem Listed.insert (hinv : Listed s) {id : SeasonId} (h : s'.seasons = s.seasons.insert id season)
    (hseason : season.treasury = cfg.getSeasonTreasury id ∧ season.totalBattles ≠ 0) : Listed s' := by
  intro id' season' hid
  rw [h] at hid
  rcases StorageMap.insert_eq_some hid with ⟨rfl, rfl⟩ | ⟨-, hid⟩
  · exact hseason
  · exact hinv id' season' hid

theorem Listed.perform (hinv : Listed s) (h : c.perform origin s = .ok s') : Listed s' := by
  cases c with
  | createSeason date battleType price =>
      simp only [SeasonCall.perform, createSeason, bind_eq_ok, pure_eq_ok] at h
      obtain ⟨_, -, _, -, _, -, rfl⟩ := h
      exact hinv.insert rfl ⟨rfl, totalBattles_ne_zero battleType⟩
  | updateSeason seasonId date battleType price =>
      simp only [SeasonCall.perform, updateSeason, bind_eq_ok, okOr_eq_ok, pure_eq_ok] at h
      obtain ⟨_, -, _, -, _, -, season, hseason, rfl⟩ := h
      exact hinv.insert rfl ⟨(hinv seasonId season hseason).1, totalBattles_ne_zero battleType⟩
  | setDefaultSeason seasonId =>
      simp only [SeasonCall.perform, setDefaultSeason, bind_eq_ok, pure_eq_ok] at h
      obtain ⟨_, -, _, -, rfl⟩ := h
      exact hinv
  | createBattle seasonId battleType home visiting date =>
      simp only [SeasonCall.perform, createBattle, bind_eq_ok, pure_eq_ok] at h
      obtain ⟨_, -, season, -, _, -, _, -, startTime, -, _, -, _, -, rfl⟩ := h
      exact hinv
  | giveAwayTickets seasonId addrs =>
      rw [giveAwayTickets_frame h]
      exact hinv
  | transferTicket seasonId tickets target =>
      rw [transferTicket_frame h]
      exact hinv
  | buyTicket amount inviteCode =>
      simp only [SeasonCall.perform, buyTicket, bind_eq_ok, okOr_eq_ok, pure_eq_ok, Prod.exists] at h
      obtain ⟨who, -, season, hseason, _, -, _, -, _, -, first, hfirst, part, second, hsecond, third, hthird, rfl⟩ := h
      rw [idle_payAwt hthird, payInvitor_frame hsecond, idle_payAwt hfirst]
      exact hinv.insert rfl (hinv s.defaultSeason season hseason)
  | initialVote seasonId ticketsAmount votes =>
      simp only [SeasonCall.perform, initialVote, bind_eq_ok, pure_eq_ok] at h
      obtain ⟨who, -, _, -, season, -, _, -, m, -, _, -, rfl⟩ := h
      exact hinv
  | appendVote seasonId selectIndex battleType amount votes =>
      simp only [SeasonCall.perform, appendVote, bind_eq_ok] at h
      obtain ⟨who, -, _, -, season, -, _, -, old, -, _, -, _, -, h⟩ := h
      split at h
      · simp only [extendBallot, bind_eq_ok, pure_eq_ok] at h
        obtain ⟨m, -, rfl⟩ := h
        exact hinv
      · simp only [splitBallot, bind_eq_ok, pure_eq_ok] at h
        obtain ⟨_, -, m, -, rfl⟩ := h
        exact hinv
  | setResult battleId homeScore visitingScore =>
      simp only [SeasonCall.perform, setResult, bind_eq_ok, pure_eq_ok] at h
      obtain ⟨_, -, battle, -, _, -, rfl⟩ := h
      exact hinv
  | finalsSettle battleId =>
      simp only [SeasonCall.perform, finalsSettle, bind_eq_ok, okOr_eq_ok, Prod.exists] at h
      obtain ⟨_, -, battle, -, _, -, _, -, _, _, _, -, mid, hmid, h⟩ := h
      have hmid := updateParticipantPoint_tally hmid
      split at h
      · obtain ⟨season, hseason, h⟩ := bind_eq_ok.mp h
        rw [← pure_eq_ok.mp h, hmid]
        rw [hmid] at hseason
        exact hinv.insert rfl (hinv battle.season season (okOr_eq_ok.mp hseason))
      · rw [← pure_eq_ok.mp h, hmid]
        exact hinv
  | leagueSettle battleId =>
      simp only [SeasonCall.perform, leagueSettle, bind_eq_ok, pure_eq_ok, Prod.exists] at h
      obtain ⟨_, -, battle, -, _, -, _, -, diff, winner, loser, -, mid, hmid, rfl⟩ := h
      rw [updateParticipantPoint_tally hmid]
      unfold updateNpcLeaguePoint
      split <;> exact hinv
  | closeSeason seasonId =>
      simp only [SeasonCall.perform, closeSeason, bind_eq_ok, okOr_eq_ok, pure_eq_ok, Prod.exists] at h
      obtain ⟨_, -, season, hseason, _, _, -, rfl⟩ := h
      exact hinv.insert rfl (hinv seasonId season hseason)
  | claim seasonId =>
      simp only [SeasonCall.perform, claim, bind_eq_ok, pure_eq_ok] at h
      obtain ⟨who, -, season, -, _, -, _, -, total, -, mid, hmid, rfl⟩ := h
      rw [idle_payAwt hmid]
      exact hinv

theorem listed_of_reachable {allowed : State cfg → Origin → SeasonCall → Prop}
    (h : Transition.Reachable NoSeason (SeasonStep allowed) s) : Listed s := by
  refine h.invariant Listed (fun s hs id season hid => ?_) fun s s' hinv hstep => ?_
  · exact absurd ((hs.seasons id).symm.trans hid) (by simp)
  · cases hstep with
    | call origin c hc h => exact hinv.perform h
    | outside => exact hinv

/-! ### Claims in any order -/

/-- A claim that succeeds. Nobody signs for a treasury. -/
inductive ClaimStep : State cfg → State cfg → Prop
  | claim {s s' : State cfg} (who : AccountId) (seasonId : SeasonId) (hwho : ∀ id, who ≠ cfg.getSeasonTreasury id)
      (h : claim (.signed who) seasonId s = .ok s') : ClaimStep s s'

theorem claim_eq_ok (h : claim (.signed who) seasonId s = .ok s') : ∃ season total paid,
    s.seasons seasonId = some season ∧ (votesOf who seasonId s).2 = false ∧
      totalClaimed season ((s.seasonWinners seasonId).getD ∅) (votesOf who seasonId s).1 = .ok total ∧
      payAwt season.treasury who total s = .ok paid ∧ s' = { paid with
        voteSelectInfos := paid.voteSelectInfos.insert (who, seasonId) ((votesOf who seasonId s).1, true) } := by
  simp only [claim, bind_eq_ok, ensureSigned_eq_ok, okOr_eq_ok, ensure_eq_ok, pure_eq_ok, exists_const] at h
  obtain ⟨_, hwho, season, hseason, -, ⟨-, hflag⟩, total, htotal, paid, hpaid, rfl⟩ := h
  obtain rfl := Origin.signed.inj hwho
  exact ⟨season, total, paid, hseason, hflag, htotal, hpaid, rfl⟩

/-- What an account can still claim. -/
def unpaid (seasonId : SeasonId) (season : Season) (b : U128) (s₀ s : State cfg) (who : AccountId) : Nat :=
  if (votesOf who seasonId s).2 = true then 0 else payout seasonId season b s₀ who

/-- The season was closed, and all that was not claimed since is in its treasury. -/
structure Claimed (seasonId : SeasonId) (season : Season) (b : U128) (s₀ s : State cfg) : Prop where
  seasons : s.seasons = s₀.seasons.insert seasonId (closed seasonId season b s₀)
  winners : s.seasonWinners = s₀.seasonWinners
  ballots : ∀ who id, (votesOf who id s).1 = (votesOf who id s₀).1
  issued : Token.totalBalance cfg.awtTokenId s.asset < 2 ^ 128
  covered : ∑ who, unpaid seasonId season b s₀ s who ≤ (freeBalance cfg.awtTokenId season.treasury s.asset).toNat

section Claims

variable {b : U128} {s₀ : State cfg}

theorem Claimed.payout_le (hinv : Claimed seasonId season b s₀ s) (hflag : (votesOf who seasonId s).2 = false) :
    payout seasonId season b s₀ who ≤ (freeBalance cfg.awtTokenId season.treasury s.asset).toNat := by
  have hunpaid : unpaid seasonId season b s₀ s who = payout seasonId season b s₀ who := by
    rw [unpaid, hflag]
    rfl
  rw [← hunpaid]
  exact (le_sum_univ (unpaid seasonId season b s₀ s) who).trans hinv.covered

theorem Claimed.toNat_payout (hinv : Claimed seasonId season b s₀ s) (hflag : (votesOf who seasonId s).2 = false) :
    (BitVec.ofNat 128 (payout seasonId season b s₀ who)).toNat = payout seasonId season b s₀ who :=
  (BitVec.toNat_ofNat ..).trans (Nat.mod_eq_of_lt ((hinv.payout_le hflag).trans_lt (BitVec.isLt _)))

/-- One account less has something to claim. -/
theorem sum_unpaid (hflag : (votesOf who seasonId s).2 = false) {ballots : List VoteSelectInfo}
    (h : s'.voteSelectInfos = s.voteSelectInfos.insert (who, seasonId) (ballots, true)) :
    ∑ a, unpaid seasonId season b s₀ s' a + payout seasonId season b s₀ who = ∑ a, unpaid seasonId season b s₀ s a := by
  have hunpaid : unpaid seasonId season b s₀ s who = payout seasonId season b s₀ who := by
    rw [unpaid, hflag]
    rfl
  have hupdate : unpaid seasonId season b s₀ s' = Function.update (unpaid seasonId season b s₀ s) who 0 := by
    funext a
    rw [unpaid, votesOf_insert h, Function.update_apply]
    by_cases ha : a = who
    · have hkey : (a, seasonId) = (who, seasonId) := by rw [ha]
      rw [if_pos hkey, if_pos rfl, if_pos ha]
    · have hkey : (a, seasonId) ≠ (who, seasonId) := fun heq => ha (Prod.mk.inj heq).1
      rw [if_neg hkey, if_neg ha]
      rfl
  have hsum := sum_update_add (unpaid seasonId season b s₀ s) who 0
  rw [hunpaid, ← hupdate, Nat.add_zero] at hsum
  exact hsum

/-- Every claim keeps what is left covered. -/
theorem Claimed.step (hexact : cfg.token.balances.Exact) (hinjective : Function.Injective cfg.getSeasonTreasury)
    (hlisted : Listed s₀) (hseason : s₀.seasons seasonId = some season)
    (htotal : ∀ who, totalClaimed (closed seasonId season b s₀) ((s₀.seasonWinners seasonId).getD ∅)
      (votesOf who seasonId s₀).1 = .ok (BitVec.ofNat 128 (payout seasonId season b s₀ who)))
    (hinv : Claimed seasonId season b s₀ s) (h : ClaimStep s s') : Claimed seasonId season b s₀ s' := by
  obtain ⟨who, id, hwho, h⟩ := h
  obtain ⟨season', total, paid, hseason', hflag, hclaimed, hpaid, rfl⟩ := claim_eq_ok h
  have hframe := idle_payAwt hpaid
  have hfree := payAwt_free hexact hpaid season.treasury
  have htreasury := (hlisted seasonId season hseason).1
  have hne : season.treasury ≠ who := htreasury.trans_ne (hwho seasonId).symm
  rw [if_neg hne, Nat.add_zero] at hfree
  have hvotes : paid.voteSelectInfos = s.voteSelectInfos := by rw [hframe]
  rw [hvotes]
  refine ⟨?_, ?_, fun who' id' => ?_, ?_, ?_⟩
  · rw [hframe]
    exact hinv.seasons
  · rw [hframe]
    exact hinv.winners
  · rw [@votesOf_insert cfg s _ who id _ rfl]
    split
    · rename_i heq
      obtain ⟨rfl, rfl⟩ := Prod.mk.inj heq
      exact hinv.ballots who' id'
    · exact hinv.ballots who' id'
  · simp only [payAwt, bind_eq_ok, pure_eq_ok, Prod.exists] at hpaid
    obtain ⟨amount, asset, htransfer, rfl⟩ := hpaid
    exact (Token.transferToken_totalBalance hexact htransfer _).trans_lt hinv.issued
  · by_cases hid : id = seasonId
    · subst hid
      rw [hinv.seasons, StorageMap.insert_self] at hseason'
      obtain rfl := Option.some.inj hseason'
      rw [hinv.winners, hinv.ballots, htotal] at hclaimed
      obtain rfl := Except.ok.inj hclaimed
      have hsum := @sum_unpaid cfg s { paid with
        voteSelectInfos := s.voteSelectInfos.insert (who, id) ((votesOf who id s).1, true) } who id season b s₀ hflag
          (votesOf who id s).1 rfl
      have hself : season.treasury = (closed id season b s₀).treasury := rfl
      rw [hinv.toNat_payout hflag, if_pos hself] at hfree
      refine Nat.le_of_add_le_add_right (b := payout id season b s₀ who) ?_
      calc _ = ∑ a, unpaid id season b s₀ s a := hsum
        _ ≤ (freeBalance cfg.awtTokenId season.treasury s.asset).toNat := hinv.covered
        _ = _ := hfree.symm
    · have hother : season.treasury ≠ season'.treasury := by
        rw [hinv.seasons, StorageMap.insert_of_ne _ _ hid] at hseason'
        rw [htreasury, (hlisted id season' hseason').1]
        exact fun heq => hid (hinjective heq).symm
      rw [if_neg hother, Nat.add_zero] at hfree
      refine le_of_le_of_eq (le_of_eq_of_le (Finset.sum_congr rfl fun a _ => ?_) hinv.covered) hfree.symm
      rw [unpaid, @votesOf_insert cfg s _ who id _ rfl, if_neg fun heq => hid (Prod.mk.inj heq).2.symm]
      rfl

theorem closeSeason_eq_ok (hvotes : Consistent s) (hinv : Tallied s) (hsettled : AllSettled seasonId s)
    (hseason : s.seasons seasonId = some season) (h : closeSeason origin seasonId s = .ok s') : s' = { s with
      seasons := s.seasons.insert seasonId
        (closed seasonId season (freeBalance cfg.awtTokenId season.treasury s.asset) s) } := by
  simp only [closeSeason, bind_eq_ok, okOr_eq_ok, pure_eq_ok, Prod.exists] at h
  obtain ⟨_, -, _, hseason', champions, runnersUp, hcount, rfl⟩ := h
  obtain rfl := Option.some.inj (hseason.symm.trans hseason')
  rw [countTickets_eq_ok hvotes hinv hsettled] at hcount
  obtain ⟨rfl, rfl⟩ := Prod.mk.inj (Except.ok.inj hcount)
  rfl

theorem claimed_of_close (hbattles : season.totalBattles ≠ 0)
    (hissued : Token.totalBalance cfg.awtTokenId s.asset < 2 ^ 128)
    (h : b = freeBalance cfg.awtTokenId season.treasury s.asset) : Claimed seasonId season b s { s with
      seasons := s.seasons.insert seasonId (closed seasonId season b s) } := by
  refine ⟨rfl, rfl, fun _ _ => rfl, hissued, ?_⟩
  have hle : ∀ who, unpaid seasonId season b s { s with
      seasons := s.seasons.insert seasonId (closed seasonId season b s) } who ≤
        payout seasonId season b s who := fun who => by
    rw [unpaid]
    split
    · exact Nat.zero_le _
    · exact Nat.le_refl _
  exact (Finset.sum_le_sum fun who _ => hle who).trans (h ▸ sum_payout_le hbattles b)

/-- Who has ballots and was not paid can claim what they are worth. -/
theorem Claimed.claim_ok (hunlocked : cfg.token.balances.Unlocked (cfg.getSeasonTreasury seasonId)) (hlisted : Listed s₀)
    (hseason : s₀.seasons seasonId = some season)
    (htotal : ∀ who, totalClaimed (closed seasonId season b s₀) ((s₀.seasonWinners seasonId).getD ∅)
      (votesOf who seasonId s₀).1 = .ok (BitVec.ofNat 128 (payout seasonId season b s₀ who)))
    (hinv : Claimed seasonId season b s₀ s) (hwho : ∀ id, who ≠ cfg.getSeasonTreasury id)
    (hne : (votesOf who seasonId s).1 ≠ []) (hflag : (votesOf who seasonId s).2 = false) :
    ∃ s', claim (.signed who) seasonId s = .ok s' ∧ (freeBalance cfg.awtTokenId who s'.asset).toNat =
      (freeBalance cfg.awtTokenId who s.asset).toNat + payout seasonId season b s₀ who := by
  have htreasury := (hlisted seasonId season hseason).1
  have hother : season.treasury ≠ who := htreasury.trans_ne (hwho seasonId).symm
  have hclosed : s.seasons seasonId = some (closed seasonId season b s₀) := by
    rw [hinv.seasons, StorageMap.insert_self]
  have hclaimed : totalClaimed (closed seasonId season b s₀) ((s.seasonWinners seasonId).getD ∅)
      (votesOf who seasonId s).1 = .ok (BitVec.ofNat 128 (payout seasonId season b s₀ who)) := by
    rw [hinv.winners, hinv.ballots, htotal]
  have hvalue : (BitVec.ofNat 128 (payout seasonId season b s₀ who)).toNat ≤
      (Token.balancesOf cfg.awtTokenId season.treasury s.asset).1.toNat := by
    rw [hinv.toNat_payout hflag]
    exact hinv.payout_le hflag
  obtain ⟨asset, hasset⟩ := Token.transferToken_ok_of_total (htreasury.symm ▸ hunlocked) hother hvalue hinv.issued
  have hpaid : payAwt season.treasury who (BitVec.ofNat 128 (payout seasonId season b s₀ who)) s =
      .ok { s with asset } := by
    rw [payAwt, hasset]
    rfl
  have hfree := payAwt_free hunlocked.toExact hpaid who
  rw [if_neg hother.symm, if_pos rfl, hinv.toNat_payout hflag, Nat.add_zero] at hfree
  refine ⟨{ s with
    asset
    voteSelectInfos := s.voteSelectInfos.insert (who, seasonId) ((votesOf who seasonId s).1, true) }, ?_, hfree⟩
  have hstatus : (closed seasonId season b s₀).status = .finalized := rfl
  simp only [claim, ensureSigned, ok_bind, hclosed, okOr_some, ensure, if_pos hstatus, if_pos (And.intro hne hflag),
    hclaimed]
  rw [show (closed seasonId season b s₀).treasury = season.treasury from rfl, hpaid]
  rfl

/-- Who was paid is refused. -/
theorem Claimed.refused (hinv : Claimed seasonId season b s₀ s) (hflag : (votesOf who seasonId s).2 = true) :
    claim (.signed who) seasonId s = .error TournamentError.haveNoBonus := by
  have hclosed : s.seasons seasonId = some (closed seasonId season b s₀) := by
    rw [hinv.seasons, StorageMap.insert_self]
  have hstatus : (closed seasonId season b s₀).status = .finalized := rfl
  have hpaid : ¬((votesOf who seasonId s).1 ≠ [] ∧ (votesOf who seasonId s).2 = false) := fun hboth =>
    Bool.false_ne_true (hboth.2.symm.trans hflag)
  simp only [claim, ensureSigned, ok_bind, hclosed, okOr_some, ensure, if_pos hstatus, if_neg hpaid, error_bind]

/-- A claim that was paid stays so. -/
theorem ClaimStep.flag (h : ClaimStep s s') (hflag : (votesOf who seasonId s).2 = true) :
    (votesOf who seasonId s').2 = true := by
  obtain ⟨who', id, -, h⟩ := h
  obtain ⟨season', total, paid, -, -, -, hpaid, rfl⟩ := claim_eq_ok h
  rw [idle_payAwt hpaid, @votesOf_insert cfg s _ who' id _ rfl]
  split
  · rfl
  · exact hflag

end Claims

/-- In every run in which no index and no battle id is given twice, and no battle is settled again or gets another
winner once it is settled, a season that is closed when all its battles are settled pays every account the worth of its
ballots once, in any order of claims, and all of that was in its treasury. -/
theorem bonuses_payable {s₀ s₁ : State cfg}
    (hunlocked : cfg.token.balances.Unlocked (cfg.getSeasonTreasury seasonId))
    (hinjective : Function.Injective cfg.getSeasonTreasury)
    (hreach : Transition.Reachable NoSeason (SeasonStep fun s origin c => c.Fits s origin ∧ c.Counts s) s₀)
    (hseason : s₀.seasons seasonId = some season) (hsettled : AllSettled seasonId s₀)
    (hchampions : winningTickets seasonId season.totalBattles.toNat s₀ < 2 ^ 32)
    (hrunnersUp : winningTickets seasonId (season.totalBattles - 1).toNat s₀ < 2 ^ 32)
    (hprice : 100 * season.ticketPrice.toNat < 2 ^ 128)
    (hissued : Token.totalBalance cfg.awtTokenId s₀.asset < 2 ^ 128)
    (hclose : closeSeason origin seasonId s₀ = .ok s₁) (hrun : Relation.ReflTransGen ClaimStep s₁ s) :
    (∀ who, (∀ id, who ≠ cfg.getSeasonTreasury id) → (votesOf who seasonId s).1 ≠ [] →
      (votesOf who seasonId s).2 = false → ∃ s', claim (.signed who) seasonId s = .ok s' ∧
        (freeBalance cfg.awtTokenId who s'.asset).toNat = (freeBalance cfg.awtTokenId who s.asset).toNat +
          payout seasonId season (freeBalance cfg.awtTokenId season.treasury s₀.asset) s₀ who) ∧
    (∀ who s' s'', (∀ id, who ≠ cfg.getSeasonTreasury id) → claim (.signed who) seasonId s = .ok s' →
      Relation.ReflTransGen ClaimStep s' s'' →
        claim (.signed who) seasonId s'' = .error TournamentError.haveNoBonus) ∧
    ∑ who, payout seasonId season (freeBalance cfg.awtTokenId season.treasury s₀.asset) s₀ who ≤
      (freeBalance cfg.awtTokenId season.treasury s₀.asset).toNat := by
  obtain ⟨hvotes, hinv⟩ := tallied_of_reachable (fun _ _ _ hc => hc.1) (fun _ _ _ hc => hc.2) hreach
  have hlisted := listed_of_reachable hreach
  have hbattles := (hlisted seasonId season hseason).2
  have htotal := @totalClaimed_eq_ok cfg s₀ seasonId season (freeBalance cfg.awtTokenId season.treasury s₀.asset) hvotes
    hinv hsettled ⟨hbattles, hchampions, hrunnersUp, hprice⟩ fun who i v hv => exists_winner hvotes hinv hsettled hv
  have hclaimed : ∀ t, Relation.ReflTransGen ClaimStep s₁ t →
      Claimed seasonId season (freeBalance cfg.awtTokenId season.treasury s₀.asset) s₀ t := by
    intro t ht
    induction ht with
    | refl =>
        rw [closeSeason_eq_ok hvotes hinv hsettled hseason hclose]
        exact claimed_of_close hbattles hissued rfl
    | tail _ hstep ih => exact ih.step hunlocked.toExact hinjective hlisted hseason htotal hstep
  refine ⟨fun who hwho hne hflag => ?_, fun who s' s'' hwho h hlater => ?_, sum_payout_le hbattles _⟩
  · exact (hclaimed s hrun).claim_ok hunlocked hlisted hseason htotal hwho hne hflag
  · have hstep : ClaimStep s s' := .claim who seasonId hwho h
    refine (hclaimed s'' ((hrun.tail hstep).trans hlater)).refused ?_
    obtain ⟨season', total, paid, -, -, -, -, rfl⟩ := claim_eq_ok h
    induction hlater with
    | refl => rw [@votesOf_insert cfg paid _ who seasonId _ rfl, if_pos rfl]
    | tail _ hlast ih => exact hlast.flag ih

/-- A season with one battle, which alice is right about. -/
def wonSeason (price : U128) : Result (State plainConfig × State plainConfig × State plainConfig × State plainConfig ×
    State plainConfig × State plainConfig) := do
  let s₁ ← createSeason (.signed organizer) [] .finals price (emptyState plainConfig (.genesis fun _ => (0, 0)))
  let s₂ ← createBattle (.signed organizer) 1 .finals 1 2 [1] s₁
  let s₃ ← giveAwayTickets (.signed organizer) 1 [1] s₂
  let s₄ ← initialVote (.signed Token.alice) 1 1 [⟨1, 1⟩] s₃
  let s₅ ← setResult (.signed organizer) 1 3 0 s₄
  let s₆ ← finalsSettle (.signed organizer) 1 s₅
  return (s₁, s₂, s₃, s₄, s₅, s₆)

/-- The treasury of the first season has 800 of the native token. -/
def funded (s : State plainConfig) : State plainConfig :=
  { s with asset := .genesis fun a => if a = plainConfig.getSeasonTreasury 1 then (800, 0) else (0, 0) }

theorem totalBalance_funded (s : State plainConfig) : Token.totalBalance 0 (funded s).asset = 800 := by
  have hheld : ∀ a, (Token.balancesOf 0 a (funded s).asset).1.toNat + (Token.balancesOf 0 a (funded s).asset).2.toNat =
      if a = plainConfig.getSeasonTreasury 1 then 800 else 0 := fun a => by
    change (ite _ _ _ : U128 × U128).1.toNat + (ite _ _ _ : U128 × U128).2.toNat = _
    split <;> rfl
  rw [Token.totalBalance, Finset.sum_congr rfl fun a _ => hheld a, Finset.sum_ite_eq' Finset.univ,
    if_pos (Finset.mem_univ _)]

theorem reachable_wonSeason {price : U128} {s₁ s₂ s₃ s₄ s₅ s₆ : State plainConfig}
    (h : wonSeason price = .ok (s₁, s₂, s₃, s₄, s₅, s₆)) (hnone : s₁.battles s₁.nextBattleId = none)
    (hlength : (votesOf Token.alice 1 s₃).1.length = 0)
    (hfresh₄ : s₄.settlements = [] ∧ s₄.participantPoints.entries = [])
    (hfresh₅ : s₅.settlements = [] ∧ s₅.participantPoints.entries = [])
    (hballots : (votesOf Token.alice 1 s₆).1 = [⟨1, [⟨1, 1⟩]⟩]) (horganizer : (votesOf organizer 1 s₆).1 = [])
    (hsettled : settled s₆ 1 = true) :
    Transition.Reachable NoSeason (SeasonStep fun s origin c => c.Fits s origin ∧ c.Counts s) (funded s₆) ∧
      AllSettled 1 (funded s₆) := by
  simp only [wonSeason, bind_eq_ok, pure_eq_ok, Prod.mk.injEq] at h
  obtain ⟨t₁, h₁, t₂, h₂, t₃, h₃, t₄, h₄, t₅, h₅, t₆, h₆, rfl, rfl, rfl, rfl, rfl, rfl⟩ := h
  refine ⟨⟨_, noSeason_emptyState _, ((((((Relation.ReflTransGen.single
    (.call _ (.createSeason [] .finals price) ⟨trivial, trivial⟩ h₁)).tail
    (.call _ (.createBattle 1 .finals 1 2 [1]) ⟨hnone, trivial⟩ h₂)).tail
    (.call _ (.giveAwayTickets 1 [1]) ⟨trivial, trivial⟩ h₃)).tail
    (.call _ (.initialVote 1 1 [⟨1, 1⟩]) ⟨fun who hwho => by
      cases hwho
      exact hlength ▸ Nat.two_pow_pos 16, trivial⟩ h₄)).tail
    (.call _ (.setResult 1 3 0) ⟨trivial, counts_of_not_settled hfresh₄.1 hfresh₄.2⟩ h₅)).tail
    (.call _ (.finalsSettle 1) ⟨trivial, counts_of_not_settled hfresh₅.1 hfresh₅.2⟩ h₆)).tail
    (.outside _ _ _ _ _ _ _ _ _ _ _)⟩,
    fun who i v hv => ?_⟩
  obtain ⟨ballot, hballot, hmem⟩ := mem_selectsAt.mp hv
  change (votesOf who 1 t₆).1[i]? = some ballot at hballot
  by_cases halice : who = Token.alice
  · rw [halice, hballots] at hballot
    obtain rfl := List.mem_singleton.mp (List.mem_of_getElem? hballot)
    obtain rfl := List.mem_singleton.mp hmem
    exact hsettled
  by_cases hwho : who = organizer
  · rw [hwho, horganizer] at hballot
    exact absurd hballot (by simp)
  · have ha : Origin.signed Token.alice ≠ .signed who := fun heq => halice (Origin.signed.inj heq).symm
    have ho : Origin.signed organizer ≠ .signed who := fun heq => hwho (Origin.signed.inj heq).symm
    rw [@ballots_of_others _ _ _ _ _ (.finalsSettle 1) h₆ ho, @ballots_of_others _ _ _ _ _ (.setResult 1 3 0) h₅ ho,
      @ballots_of_others _ _ _ _ _ (.initialVote 1 1 [⟨1, 1⟩]) h₄ ha,
      @ballots_of_others _ _ _ _ _ (.giveAwayTickets 1 [1]) h₃ ho,
      @ballots_of_others _ _ _ _ _ (.createBattle 1 .finals 1 2 [1]) h₂ ho,
      @ballots_of_others _ _ _ _ _ (.createSeason [] .finals price) h₁ ho] at hballot
    exact absurd hballot (by simp [votesOf, emptyState])

theorem bonuses_payable_alice : ∃ s₁ s' : State plainConfig, (∃ s₀, closeSeason (.signed organizer) 1 s₀ = .ok s₁) ∧
    claim (.signed Token.alice) 1 s₁ = .ok s' ∧
      claim (.signed Token.alice) 1 s' = .error TournamentError.haveNoBonus := by
  obtain ⟨⟨⟨t₁, t₂, t₃, t₄, t₅, t₆⟩, t₇⟩, hrun, hcheck⟩ := exists_of_succeedsWith
    (x := do
      let x ← wonSeason 1000000000000000001
      let s ← closeSeason (.signed organizer) 1 (funded x.2.2.2.2.2)
      return (x, s))
    (p := fun x => (decide (x.1.1.battles x.1.1.nextBattleId = none) &&
      decide ((votesOf Token.alice 1 x.1.2.2.1).1.length = 0) &&
      decide (x.1.2.2.2.1.settlements = [] ∧ x.1.2.2.2.1.participantPoints.entries = []) &&
      decide (x.1.2.2.2.2.1.settlements = [] ∧ x.1.2.2.2.2.1.participantPoints.entries = []) &&
      decide ((votesOf Token.alice 1 x.1.2.2.2.2.2).1 = [⟨1, [⟨1, 1⟩]⟩]) &&
      decide ((votesOf organizer 1 x.1.2.2.2.2.2).1 = []) && settled x.1.2.2.2.2.2 1) &&
      (decide ((x.1.2.2.2.2.2.seasons 1).map Season.totalBattles = some 1) &&
      decide ((x.1.2.2.2.2.2.seasons 1).map Season.ticketPrice = some 1000000000000000001) &&
      decide ((x.1.2.2.2.2.2.participantPoints.entries.map fun e =>
        entryTickets 1 1 x.1.2.2.2.2.2 e.1 e.2).sum = 1) &&
      decide ((x.1.2.2.2.2.2.participantPoints.entries.map fun e =>
        entryTickets 1 0 x.1.2.2.2.2.2 e.1 e.2).sum = 0)) &&
      decide (votesOf Token.alice 1 x.2 = ([⟨1, [⟨1, 1⟩]⟩], false))) (by decide +kernel)
  simp only [Bool.and_eq_true, decide_eq_true_eq] at hcheck
  obtain ⟨⟨⟨⟨⟨⟨⟨⟨hnone, hlength⟩, hfresh₄⟩, hfresh₅⟩, hballots⟩, horganizer⟩, hsettled⟩,
    ⟨⟨hbattles, hprice⟩, hchampions⟩, hrunnersUp⟩, hvotes⟩ := hcheck
  simp only [bind_eq_ok, pure_eq_ok, Prod.mk.injEq] at hrun
  obtain ⟨x, hwon, s₁, hclose, rfl, rfl⟩ := hrun
  obtain ⟨hreach, hall⟩ := reachable_wonSeason hwon hnone hlength hfresh₄ hfresh₅ hballots horganizer hsettled
  obtain ⟨season, hseason, hbattles⟩ := Option.map_eq_some_iff.mp hbattles
  rw [hseason, Option.map_some, Option.some.injEq] at hprice
  obtain ⟨hconsistent, htallied⟩ := tallied_of_reachable (fun _ _ _ hc => hc.1) (fun _ _ _ hc => hc.2) hreach
  have hmany := fun n => sum_entryTickets hconsistent htallied hall n
  have hwho : ∀ id, Token.alice ≠ plainConfig.getSeasonTreasury id := fun id h =>
    absurd (congrArg (fun a : AccountId => a.toList.getLast?) h) (by simp [plainConfig, Token.alice])
  have hpayable := fun s hrun => @bonuses_payable _ s 1 (.signed organizer) season _ s₁ (Balances.plain_unlocked _)
    plainSeasonTreasury_injective hreach hseason hall
    (by rw [hbattles]; exact (hmany 1).symm.trans_lt (hchampions.trans_lt (by decide)))
    (by rw [hbattles]; exact (hmany 0).symm.trans_lt (hrunnersUp.trans_lt (by decide))) (by rw [hprice]; decide)
    ((totalBalance_funded t₆).trans_lt (by decide)) hclose hrun
  obtain ⟨s', hclaim, -⟩ := (hpayable s₁ .refl).1 Token.alice hwho (by rw [hvotes]; simp) (by rw [hvotes])
  exact ⟨s₁, s', ⟨_, hclose⟩, hclaim, (hpayable s₁ .refl).2.1 Token.alice s' s' hwho hclaim .refl⟩

/-- A hundred times this price is 44: alice has the only ticket that won, is owed the bonus of 700, and gets as much. -/
theorem wrapped_price_pays_less : ∃ s₀ s₁ s' : State plainConfig,
    (Transition.Reachable NoSeason (SeasonStep fun s origin c => c.Fits s origin ∧ c.Counts s) s₀ ∧
      AllSettled 1 s₀ ∧ closeSeason (.signed organizer) 1 s₀ = .ok s₁) ∧
      (s₁.seasons 1).map (fun season => (season.bonusStrategy, season.ticketPrice)) =
        some ([(1, 1, 700), (0, 0, 100)], 3402823669209384634633746074317682115) ∧
      (votesOf Token.alice 1 s₁).1 = [⟨1, [⟨1, 1⟩]⟩] ∧ rightAmount 1 [⟨1, 1⟩] s₁ = 1 ∧
      claim (.signed Token.alice) 1 s₁ = .ok s' ∧ freeBalance 0 Token.alice s₁.asset = 0 ∧
      freeBalance 0 Token.alice s'.asset = 44 := by
  obtain ⟨⟨⟨t₁, t₂, t₃, t₄, t₅, t₆⟩, t₇, t₈⟩, hrun, hcheck⟩ := exists_of_succeedsWith
    (x := do
      let x ← wonSeason 3402823669209384634633746074317682115
      let s ← closeSeason (.signed organizer) 1 (funded x.2.2.2.2.2)
      let s' ← claim (.signed Token.alice) 1 s
      return (x, s, s'))
    (p := fun x => (decide (x.1.1.battles x.1.1.nextBattleId = none) &&
      decide ((votesOf Token.alice 1 x.1.2.2.1).1.length = 0) &&
      decide (x.1.2.2.2.1.settlements = [] ∧ x.1.2.2.2.1.participantPoints.entries = []) &&
      decide (x.1.2.2.2.2.1.settlements = [] ∧ x.1.2.2.2.2.1.participantPoints.entries = []) &&
      decide ((votesOf Token.alice 1 x.1.2.2.2.2.2).1 = [⟨1, [⟨1, 1⟩]⟩]) &&
      decide ((votesOf organizer 1 x.1.2.2.2.2.2).1 = []) && settled x.1.2.2.2.2.2 1) &&
      (decide ((x.2.1.seasons 1).map (fun season => (season.bonusStrategy, season.ticketPrice)) =
        some ([(1, 1, 700), (0, 0, 100)], 3402823669209384634633746074317682115)) &&
      decide ((votesOf Token.alice 1 x.2.1).1 = [⟨1, [⟨1, 1⟩]⟩]) &&
      decide (rightAmount 1 [⟨1, 1⟩] x.2.1 = 1)) &&
      (decide (freeBalance 0 Token.alice x.2.1.asset = 0) &&
        decide (freeBalance 0 Token.alice x.2.2.asset = 44))) (by decide +kernel)
  simp only [Bool.and_eq_true, decide_eq_true_eq] at hcheck
  obtain ⟨⟨⟨⟨⟨⟨⟨⟨hnone, hlength⟩, hfresh₄⟩, hfresh₅⟩, hballots⟩, horganizer⟩, hsettled⟩, ⟨hseason, hvotes⟩, hright⟩,
    hbefore, hafter⟩ := hcheck
  simp only [bind_eq_ok, pure_eq_ok, Prod.mk.injEq] at hrun
  obtain ⟨x, hwon, s₁, hclose, s', hclaim, rfl, rfl, rfl⟩ := hrun
  obtain ⟨hreach, hall⟩ := reachable_wonSeason hwon hnone hlength hfresh₄ hfresh₅ hballots horganizer hsettled
  exact ⟨funded t₆, s₁, s', ⟨hreach, hall, hclose⟩, hseason, hvotes, hright, hclaim, hbefore, hafter⟩

end Fusotao.AbyssTournament
