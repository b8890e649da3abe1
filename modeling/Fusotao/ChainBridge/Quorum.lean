import Fusotao.ChainBridge.Moves
import Mathlib.Tactic.NormNum
import Mathlib.Data.List.Nodup

/-!
# The quorum of a proposal

The invariant of the votes: nobody has voted twice, every vote for a proposal is in the history as
that of a relayer, and a proposal was dispatched once if it is approved and never if it is not. The
history then shows the quorum behind each dispatch.
-/

namespace Fusotao.ChainBridge

open Exec Relation Transition

variable {cfg : Config} {s s' : State cfg} {key : Key cfg.Effect}

/-! ### What is asked of the bridge -/

/-- The entry is a dispatch of the proposal `key`. -/
def Entry.executes (key : Key cfg.Effect) : Entry cfg.Effect → Bool
  | .executed k _ => k = key
  | .vote .. => false

/-- How often a proposal was dispatched. -/
def executions (key : Key cfg.Effect) (s : State cfg) : Nat := s.history.countP (Entry.executes key)

/-- At least `threshold` distinct accounts voted for the proposal as relayers, before it expired. -/
def QuorumIn (key : Key cfg.Effect) (threshold : U32) (earlier : List (Entry cfg.Effect)) : Prop :=
  ∃ voters : List AccountId, voters.Nodup ∧ threshold.toNat ≤ voters.length ∧
    ∀ who ∈ voters, ∃ now expiry, now < expiry ∧ .vote key who true true now expiry ∈ earlier

/-- Behind every dispatch in the history there is a quorum, for the threshold of that moment. -/
def QuorumBehind (s : State cfg) : Prop :=
  ∀ key threshold later earlier,
    s.history = later ++ .executed key threshold :: earlier → QuorumIn key threshold earlier

/-- The accounts whose entry among the relayers is true. -/
def relayerSet (s : State cfg) : Finset AccountId := flagged fun a => isRelayer a s

/-! ### Votes before and after a move -/

/-- What a move does to the votes and the history. -/
theorem Move.votes_cases (h : Move s s') :
    (s'.votes = s.votes ∧ s'.history = s.history) ∨
    (∃ key who inFavour, isRelayer who s = true ∧ (votesOrNew key s).Open s.now ∧
      who ∉ (votesOrNew key s).votesFor ++ (votesOrNew key s).votesAgainst ∧
      s' = s.voted key who inFavour) ∨
    (∃ key votes, s.votes key = some votes ∧ votes.Open s.now ∧ s' = s.resolved key votes) := by
  cases h with
  | vote key who inFavour hrelayer hopen hnew =>
      exact .inr (.inl ⟨key, who, inFavour, hrelayer, hopen, hnew, rfl⟩)
  | resolve key votes hvotes hopen => exact .inr (.inr ⟨key, votes, hvotes, hopen, rfl⟩)
  | _ => exact .inl ⟨rfl, rfl⟩

theorem votesOrNew_of_none (h : s.votes key = none) :
    ∃ expiry, votesOrNew key s = .empty expiry := by
  simp only [votesOrNew, h]
  exact ⟨_, rfl⟩

theorem votesOrNew_cases (key : Key cfg.Effect) (s : State cfg) :
    s.votes key = some (votesOrNew key s) ∨
      s.votes key = none ∧ ∃ expiry, votesOrNew key s = .empty expiry := by
  cases hvotes : s.votes key with
  | some votes => exact .inl (by simp [votesOrNew, hvotes])
  | none => exact .inr ⟨rfl, votesOrNew_of_none hvotes⟩

@[simp] theorem ProposalVotes.add_status (votes : ProposalVotes) (who : AccountId) (b : Bool) :
    (votes.add who b).status = votes.status := by
  cases b <;> rfl

@[simp] theorem ProposalVotes.add_expiry (votes : ProposalVotes) (who : AccountId) (b : Bool) :
    (votes.add who b).expiry = votes.expiry := by
  cases b <;> rfl

theorem ProposalVotes.mem_add_votesFor {votes : ProposalVotes} {who a : AccountId} {b : Bool} :
    a ∈ (votes.add who b).votesFor ↔ a ∈ votes.votesFor ∨ b = true ∧ a = who := by
  cases b <;> simp [ProposalVotes.add]

theorem ProposalVotes.add_nodup {votes : ProposalVotes} {who : AccountId} (b : Bool)
    (h : (votes.votesFor ++ votes.votesAgainst).Nodup)
    (hnew : who ∉ votes.votesFor ++ votes.votesAgainst) :
    ((votes.add who b).votesFor ++ (votes.add who b).votesAgainst).Nodup := by
  have hall : (who :: (votes.votesFor ++ votes.votesAgainst)).Nodup := List.nodup_cons.mpr ⟨hnew, h⟩
  refine (List.Perm.nodup_iff ?_).mp hall
  cases b with
  | true =>
      simp only [ProposalVotes.add, if_true, List.append_assoc, List.singleton_append]
      exact List.perm_middle.symm
  | false =>
      simp only [ProposalVotes.add, Bool.false_eq_true, if_false, ← List.append_assoc]
      exact (List.perm_append_singleton _ _).symm

@[simp] theorem ProposalVotes.tryToComplete_votesFor (votes : ProposalVotes) (threshold total : U32) :
    (votes.tryToComplete threshold total).1.votesFor = votes.votesFor := by
  unfold tryToComplete
  split_ifs <;> rfl

@[simp] theorem ProposalVotes.tryToComplete_votesAgainst (votes : ProposalVotes)
    (threshold total : U32) :
    (votes.tryToComplete threshold total).1.votesAgainst = votes.votesAgainst := by
  unfold tryToComplete
  split_ifs <;> rfl

@[simp] theorem ProposalVotes.tryToComplete_expiry (votes : ProposalVotes) (threshold total : U32) :
    (votes.tryToComplete threshold total).1.expiry = votes.expiry := by
  unfold tryToComplete
  split_ifs <;> rfl

/-- A proposal is approved in a count exactly when its votes reach the threshold. -/
theorem ProposalVotes.tryToComplete_approved {votes : ProposalVotes} {now : BlockNumber}
    (hopen : votes.Open now) (threshold total : U32) :
    (votes.tryToComplete threshold total).1.status = .approved ↔
      threshold.toNat ≤ votes.votesFor.length := by
  unfold tryToComplete
  split_ifs with happroved hrejected
  · exact iff_of_true rfl happroved
  · exact iff_of_false (by simp) happroved
  · exact iff_of_false (by simp [hopen.1]) happroved

/-! ### Nobody votes twice -/

def VotesNodup (s : State cfg) : Prop :=
  ∀ key votes, s.votes key = some votes → (votes.votesFor ++ votes.votesAgainst).Nodup

theorem Move.votesNodup (hs : VotesNodup s) (h : Move s s') : VotesNodup s' := by
  rcases h.votes_cases with ⟨hvotes, -⟩ | ⟨key, who, inFavour, -, -, hnew, rfl⟩ |
    ⟨key, votes, hvotes, -, rfl⟩
  · unfold VotesNodup
    rwa [hvotes]
  · intro key' votes' h'
    rcases StorageMap.insert_eq_some h' with ⟨rfl, rfl⟩ | ⟨-, h'⟩
    · refine ProposalVotes.add_nodup inFavour ?_ hnew
      rcases votesOrNew_cases key' s with hold | ⟨-, expiry, hfresh⟩
      · exact hs key' _ hold
      · simp [hfresh, ProposalVotes.empty]
    · exact hs key' votes' h'
  · intro key' votes' h'
    rcases StorageMap.insert_eq_some h' with ⟨rfl, rfl⟩ | ⟨-, h'⟩
    · simpa using hs key' _ hvotes
    · exact hs key' votes' h'

/-! ### Every vote is in the history -/

def VotesLogged (s : State cfg) : Prop :=
  ∀ key votes, s.votes key = some votes → ∀ who ∈ votes.votesFor,
    ∃ now, now < votes.expiry ∧ .vote key who true true now votes.expiry ∈ s.history

theorem Move.votesLogged (hs : VotesLogged s) (h : Move s s') : VotesLogged s' := by
  rcases h.votes_cases with ⟨hvotes, hhistory⟩ | ⟨key, who, inFavour, hrelayer, hopen, -, rfl⟩ |
    ⟨key, votes, hvotes, -, rfl⟩
  · unfold VotesLogged
    rwa [hvotes, hhistory]
  · intro key' votes' h' a ha
    simp only [State.voted, StorageMap.insert_apply] at h' ⊢
    split at h'
    · rename_i hkey
      obtain rfl := Option.some.inj h'
      rw [ProposalVotes.add_expiry, hkey]
      rcases ProposalVotes.mem_add_votesFor.mp ha with hold | ⟨rfl, rfl⟩
      · rcases votesOrNew_cases key s with hentry | ⟨-, expiry, hfresh⟩
        · obtain ⟨now, hnow, hlogged⟩ := hs key _ hentry a hold
          exact ⟨now, hnow, List.mem_cons_of_mem _ hlogged⟩
        · rw [hfresh] at hold
          exact absurd hold List.not_mem_nil
      · exact ⟨s.now, hopen.2, by simp [hrelayer]⟩
    · obtain ⟨now, hnow, hlogged⟩ := hs key' votes' h' a ha
      exact ⟨now, hnow, List.mem_cons_of_mem _ hlogged⟩
  · have hmono : ∀ entry ∈ s.history, entry ∈ (s.resolved key votes).history := by
      intro entry hentry
      simp only [State.resolved]
      split
      · exact List.mem_cons_of_mem _ hentry
      · exact hentry
    intro key' votes' h' a ha
    rcases StorageMap.insert_eq_some h' with ⟨rfl, rfl⟩ | ⟨-, h'⟩
    · rw [ProposalVotes.tryToComplete_votesFor] at ha
      rw [ProposalVotes.tryToComplete_expiry]
      obtain ⟨now, hnow, hlogged⟩ := hs key' _ hvotes a ha
      exact ⟨now, hnow, hmono _ hlogged⟩
    · obtain ⟨now, hnow, hlogged⟩ := hs key' votes' h' a ha
      exact ⟨now, hnow, hmono _ hlogged⟩

/-! ### A proposal was dispatched once if it is approved, and never otherwise -/

def isApproved (key : Key cfg.Effect) (s : State cfg) : Bool :=
  match s.votes key with
  | some votes => votes.status = .approved
  | none => false

def ExecutedIfApproved (s : State cfg) : Prop :=
  ∀ key, executions key s = if isApproved key s then 1 else 0

theorem isApproved_votesOrNew (key : Key cfg.Effect) (s : State cfg) :
    isApproved key s = decide ((votesOrNew key s).status = .approved) := by
  unfold isApproved votesOrNew
  cases s.votes key <;> simp [ProposalVotes.empty]

theorem Move.executedIfApproved (hs : ExecutedIfApproved s) (h : Move s s') :
    ExecutedIfApproved s' := by
  rcases h.votes_cases with ⟨hvotes, hhistory⟩ | ⟨key, who, inFavour, -, hopen, -, rfl⟩ |
    ⟨key, votes, hvotes, hopen, rfl⟩
  · unfold ExecutedIfApproved executions isApproved
    rwa [hvotes, hhistory]
  · intro key'
    have hsame : isApproved key' (s.voted key who inFavour) = isApproved key' s := by
      rcases eq_or_ne key' key with rfl | hne
      · rw [isApproved_votesOrNew key' s]
        simp [isApproved, State.voted]
      · simp [isApproved, State.voted, hne]
    rw [hsame, ← hs key']
    simp [executions, State.voted, Entry.executes]
  · intro key'
    rcases eq_or_ne key' key with rfl | hne
    · have hzero : executions key' s = 0 := by
        rw [hs key']
        simp [isApproved, hvotes, hopen.1]
      have happroved : isApproved key' (s.resolved key' votes) =
          decide (s.relayerThreshold.toNat ≤ votes.votesFor.length) := by
        simp [isApproved, State.resolved, ProposalVotes.tryToComplete_approved hopen]
      rw [happroved]
      unfold executions at hzero ⊢
      simp only [State.resolved, decide_eq_true_eq]
      split
      · simp [Entry.executes, hzero]
      · exact hzero
    · have hsame : isApproved key' (s.resolved key votes) = isApproved key' s := by
        simp [isApproved, State.resolved, hne]
      rw [hsame, ← hs key']
      unfold executions
      simp only [State.resolved]
      split
      · simp [Entry.executes, hne.symm]
      · rfl

/-! ### There is a quorum behind every dispatch -/

theorem Move.quorumBehind (hs : QuorumBehind s) (hnodup : VotesNodup s) (hlogged : VotesLogged s)
    (h : Move s s') : QuorumBehind s' := by
  rcases h.votes_cases with ⟨-, hhistory⟩ | ⟨key, who, inFavour, -, -, -, rfl⟩ |
    ⟨key, votes, hvotes, -, rfl⟩
  · unfold QuorumBehind
    rwa [hhistory]
  · intro key' threshold later earlier hsplit
    cases later with
    | nil => simp [State.voted] at hsplit
    | cons entry later => exact hs key' threshold later earlier (List.cons.inj hsplit).2
  · intro key' threshold later earlier hsplit
    simp only [State.resolved] at hsplit
    split at hsplit
    · rename_i hreached
      cases later with
      | nil =>
          simp only [List.nil_append, List.cons.injEq, Entry.executed.injEq] at hsplit
          obtain ⟨⟨rfl, rfl⟩, rfl⟩ := hsplit
          refine ⟨votes.votesFor, (List.nodup_append.mp (hnodup key votes hvotes)).1, hreached, ?_⟩
          intro a ha
          obtain ⟨now, hnow, hmem⟩ := hlogged key votes hvotes a ha
          exact ⟨now, votes.expiry, hnow, hmem⟩
      | cons entry later => exact hs key' threshold later earlier (List.cons.inj hsplit).2
    · exact hs key' threshold later earlier hsplit

/-! ### The count of relayers -/

def RelayersCounted (s : State cfg) : Prop := s.relayerCount = BitVec.ofNat 32 (relayerSet s).card

theorem isRelayer_insert (s : State cfg) (v : AccountId) (count : U32) :
    (fun a => isRelayer a { s with relayers := s.relayers.insert v true, relayerCount := count }) =
      Function.update (fun a => isRelayer a s) v true := by
  funext a
  simp only [isRelayer, StorageMap.insert_apply, Function.update_apply]
  split <;> rfl

theorem isRelayer_remove (s : State cfg) (v : AccountId) (count : U32) :
    (fun a => isRelayer a { s with relayers := s.relayers.remove v, relayerCount := count }) =
      Function.update (fun a => isRelayer a s) v false := by
  funext a
  simp only [isRelayer, StorageMap.remove_apply, Function.update_apply]
  split <;> rfl

theorem Move.relayersCounted (hs : RelayersCounted s) (h : Move s s') : RelayersCounted s' := by
  cases h with
  | addRelayer v hv =>
      unfold RelayersCounted relayerSet at hs ⊢
      rw [isRelayer_insert, card_flagged_set (f := fun a => isRelayer a s) hv, BitVec.ofNat_add, ← hs]
      rfl
  | removeRelayer v hv =>
      unfold RelayersCounted relayerSet at hs ⊢
      rw [← card_flagged_clear (f := fun a => isRelayer a s) hv, BitVec.ofNat_add] at hs
      rw [isRelayer_remove]
      change s.relayerCount - 1#32 = _
      rw [hs]
      exact BitVec.add_sub_cancel _ _
  | _ => exact hs

/-! ### Completed proposals -/

/-- A completed proposal keeps its votes, and is not dispatched any more. -/
theorem Move.completed (h : Move s s') {votes : ProposalVotes} (hvotes : s.votes key = some votes)
    (hdone : votes.status ≠ .initiated) :
    s'.votes key = some votes ∧ executions key s' = executions key s := by
  rcases h.votes_cases with ⟨hsame, hhistory⟩ | ⟨key', who, inFavour, -, hopen, -, rfl⟩ |
    ⟨key', votes', hvotes', hopen, rfl⟩
  · unfold executions
    rw [hsame, hhistory]
    exact ⟨hvotes, rfl⟩
  · have hne : key ≠ key' := by
      rintro rfl
      rw [votesOrNew, hvotes] at hopen
      exact hdone hopen.1
    exact ⟨by simpa [State.voted, hne] using hvotes, by simp [executions, State.voted, Entry.executes]⟩
  · have hne : key ≠ key' := by
      rintro rfl
      rw [hvotes] at hvotes'
      obtain rfl := Option.some.inj hvotes'
      exact hdone hopen.1
    refine ⟨by simpa [State.resolved, hne] using hvotes, ?_⟩
    unfold executions
    simp only [State.resolved]
    split
    · simp [Entry.executes, hne.symm]
    · rfl

theorem moves_completed (h : ReflTransGen Move s s') {votes : ProposalVotes}
    (hvotes : s.votes key = some votes) (hdone : votes.status ≠ .initiated) :
    s'.votes key = some votes ∧ executions key s' = executions key s := by
  induction h with
  | refl => exact ⟨hvotes, rfl⟩
  | tail _ hlast ih =>
      obtain ⟨hkept, hcount⟩ := hlast.completed ih.1 hdone
      exact ⟨hkept, hcount.trans ih.2⟩

/-! ### In every reachable state -/

theorem relayerSet_eq_empty (h : s.relayers = fun _ => none) : relayerSet s = ∅ := by
  ext a
  simp [relayerSet, mem_flagged, isRelayer, h]

private def Inv (s : State cfg) : Prop :=
  VotesNodup s ∧ VotesLogged s ∧ ExecutedIfApproved s ∧ QuorumBehind s ∧ RelayersCounted s

private theorem inv_genesis (external : cfg.External) : Inv (State.genesis external) := by
  refine ⟨nofun, nofun, fun _ => rfl, ?_, ?_⟩
  · intro key threshold later earlier hsplit
    cases later <;> simp [State.genesis] at hsplit
  · rw [RelayersCounted, relayerSet_eq_empty rfl]
    rfl

theorem reachable_inv (hs : Reachable Init Step s) : Inv s :=
  reachable_invariant hs Inv inv_genesis fun _ _ ⟨hnodup, hlogged, honce, hquorum, hcount⟩ h =>
    ⟨h.votesNodup hnodup, h.votesLogged hlogged, h.executedIfApproved honce,
      h.quorumBehind hquorum hnodup hlogged, h.relayersCounted hcount⟩

/-! ### The quorum -/

/-- A proposal is dispatched at most once and with a quorum behind it, nobody votes twice, the count
of relayers is right modulo `2^32`, and a completed proposal never changes. -/
theorem bridge_quorum (hs : Reachable Init Step s) :
    (∀ key, executions key s ≤ 1) ∧ QuorumBehind s ∧
    (∀ key votes, s.votes key = some votes → (votes.votesFor ++ votes.votesAgainst).Nodup) ∧
    s.relayerCount.toNat = (relayerSet s).card % 2 ^ 32 ∧
    ∀ s', ReflTransGen Step s s' → ∀ key votes, s.votes key = some votes →
      votes.status ≠ .initiated → s'.votes key = some votes := by
  obtain ⟨hnodup, -, honce, hquorum, hcount⟩ := reachable_inv hs
  refine ⟨fun key => ?_, hquorum, hnodup, ?_, fun s' hrun key votes hvotes hdone => ?_⟩
  · rw [honce key]
    split <;> omega
  · rw [hcount, BitVec.toNat_ofNat]
  · exact (moves_completed (steps_moves hrun) hvotes hdone).1

/-- A bridge that root administers, whose other pallets keep nothing. -/
def plainConfig : Config where
  External := Unit
  Effect := Unit
  perform _ _ _ := .ok ()
  isAdmin origin := origin = .root
  chainId := 42
  proposalLifetime := 100
  nativeResourceId := List.Vector.replicate 32 0
  tryGetAssetId _ _ _ := none
  accountId := List.Vector.replicate 32 0

/-- Two relayers vote for a proposal that needs two votes. -/
def approvingRun : List (Call plainConfig.Effect × Origin) :=
  [(.whitelistChain 5, .root), (.setResource plainConfig.nativeResourceId [], .root),
    (.addRelayer (List.Vector.replicate 32 1), .root), (.addRelayer (List.Vector.replicate 32 2), .root),
    (.setThreshold 2, .root),
    (.acknowledgeProposal 0 5 plainConfig.nativeResourceId (List.Vector.replicate 32 0) (.other ()),
      .signed (List.Vector.replicate 32 1)),
    (.acknowledgeProposal 0 5 plainConfig.nativeResourceId (List.Vector.replicate 32 0) (.other ()),
      .signed (List.Vector.replicate 32 2))]

theorem bridge_quorum_approvingRun : ∃ s : State plainConfig,
    run approvingRun (.genesis ()) = .ok s ∧ executions (5, 0, .other ()) s = 1 ∧
    (∀ key, executions key s ≤ 1) ∧ QuorumBehind s := by
  have hdone : (run approvingRun (.genesis ())).map (executions (5, 0, .other ())) = .ok 1 := by
    decide +kernel
  cases hrun : run approvingRun (.genesis ()) with
  | error e => simp [hrun, Except.map] at hdone
  | ok s =>
      have hreach : Reachable Init Step s := ⟨_, ⟨(), rfl⟩, run_steps hrun⟩
      have h := bridge_quorum hreach
      exact ⟨s, rfl, by simpa [hrun, Except.map] using hdone, h.1, h.2.1⟩

/-! ### Runs that only enlist relayers -/

/-- As many new relayers can be added as there are accounts left. -/
theorem enlist {admin : Origin} (hadmin : cfg.isAdmin admin = true) (n : Nat) :
    ∀ s : State cfg, (relayerSet s).card + n ≤ 256 ^ 32 → ∃ relayers relayerCount,
      ReflTransGen Step s { s with relayers, relayerCount } ∧
      (relayerSet { s with relayers, relayerCount }).card = (relayerSet s).card + n := by
  induction n with
  | zero => exact fun s _ => ⟨s.relayers, s.relayerCount, .refl, rfl⟩
  | succ n ih =>
      intro s hroom
      obtain ⟨v, hv⟩ : ∃ v, isRelayer v s = false := by
        refine exists_not_flagged (f := fun a => isRelayer a s) ?_
        rw [Bytes.card_bytes]
        change (relayerSet s).card < _
        omega
      have hadd : dispatch (.addRelayer v) admin s = .ok { s with
          relayers := s.relayers.insert v true
          relayerCount := s.relayerCount + 1 } := by
        simp [dispatch, ensureAdmin, registerRelayer, ensure, hadmin, hv]
      have hcard : (relayerSet { s with
          relayers := s.relayers.insert v true
          relayerCount := s.relayerCount + 1 }).card = (relayerSet s).card + 1 := by
        unfold relayerSet
        rw [isRelayer_insert, card_flagged_set (f := fun a => isRelayer a s) hv]
      obtain ⟨relayers, relayerCount, hrun, hmore⟩ := ih _ (by rw [hcard]; omega)
      refine ⟨relayers, relayerCount, .head (.call _ admin hadd) hrun, ?_⟩
      rw [hmore, hcard]
      omega

/-- With `2^32` relayers the count is back at zero. -/
theorem relayerCount_wraps : ∃ s : State plainConfig, Reachable Init Step s ∧
    (relayerSet s).card = 2 ^ 32 ∧ s.relayerCount.toNat ≠ (relayerSet s).card := by
  have hnone : (relayerSet (State.genesis () : State plainConfig)).card = 0 :=
    Finset.card_eq_zero.mpr (relayerSet_eq_empty rfl)
  obtain ⟨relayers, relayerCount, hrun, hcard⟩ :=
    enlist (show plainConfig.isAdmin .root = true by decide) (2 ^ 32) (.genesis ())
      (by rw [hnone]; norm_num)
  rw [hnone, Nat.zero_add] at hcard
  refine ⟨_, ⟨_, ⟨(), rfl⟩, hrun⟩, hcard, ?_⟩
  have hlt := BitVec.isLt relayerCount
  change relayerCount.toNat ≠ _
  omega

end Fusotao.ChainBridge
