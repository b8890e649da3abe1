import Fusotao.Base.Transition
import Fusotao.ChainBridge.Pallet

/-!
# The moves of the bridge

However calls nest, what they do to the storage is a sequence of a few moves. A proposal that is
approved inside a call is dispatched after the move that approves it, so its own moves come next.
-/

namespace Fusotao.ChainBridge

open Exec Relation

variable {cfg : Config}

/-- The votes once `who` has added one. -/
def ProposalVotes.add (votes : ProposalVotes) (who : AccountId) (inFavour : Bool) : ProposalVotes :=
  if inFavour then { votes with votesFor := votes.votesFor ++ [who] }
  else { votes with votesAgainst := votes.votesAgainst ++ [who] }

/-- A proposal that may still be voted on. -/
def ProposalVotes.Open (votes : ProposalVotes) (now : BlockNumber) : Prop :=
  votes.status = .initiated ∧ now < votes.expiry

/-- The storage once `who` has voted. -/
def State.voted (s : State cfg) (key : Key cfg.Effect) (who : AccountId) (inFavour : Bool) :
    State cfg :=
  { s with
    votes := s.votes.insert key ((votesOrNew key s).add who inFavour)
    history := .vote key who inFavour (isRelayer who s) s.now (votesOrNew key s).expiry :: s.history }

/-- The storage once the votes of a proposal are counted. -/
def State.resolved (s : State cfg) (key : Key cfg.Effect) (votes : ProposalVotes) : State cfg :=
  { s with
    votes := s.votes.insert key (votes.tryToComplete s.relayerThreshold s.relayerCount).1
    history :=
      if s.relayerThreshold.toNat ≤ votes.votesFor.length then
        .executed key s.relayerThreshold :: s.history
      else s.history }

/-- A move, with what is checked before it. -/
inductive Move : State cfg → State cfg → Prop
  | threshold (s : State cfg) (threshold : U32) : Move s { s with relayerThreshold := threshold }
  | resources (s : State cfg) (resources : StorageMap ResourceId (List UInt8)) :
      Move s { s with resources }
  | chains (s : State cfg) (chains : StorageMap ChainId DepositNonce) : Move s { s with chains }
  | outside (s : State cfg) (now : BlockNumber) (external : cfg.External) :
      Move s { s with now, external }
  | addRelayer (s : State cfg) (v : AccountId) (h : isRelayer v s = false) :
      Move s { s with
        relayers := s.relayers.insert v true
        relayerCount := s.relayerCount + 1 }
  | removeRelayer (s : State cfg) (v : AccountId) (h : isRelayer v s = true) :
      Move s { s with
        relayers := s.relayers.remove v
        relayerCount := s.relayerCount - 1 }
  | vote (s : State cfg) (key : Key cfg.Effect) (who : AccountId) (inFavour : Bool)
      (hrelayer : isRelayer who s = true) (hopen : (votesOrNew key s).Open s.now)
      (hnew : who ∉ (votesOrNew key s).votesFor ++ (votesOrNew key s).votesAgainst) :
      Move s (s.voted key who inFavour)
  | resolve (s : State cfg) (key : Key cfg.Effect) (votes : ProposalVotes)
      (hvotes : s.votes key = some votes) (hopen : votes.Open s.now) :
      Move s (s.resolved key votes)

/-! ### What a call does -/

/-- A vote is one move, and the three checks hold before it. -/
theorem commitVote_eq_ok {who : AccountId} {nonce : DepositNonce} {srcId : ChainId}
    {prop : Call cfg.Effect} {inFavour : Bool} {s s' : State cfg} :
    commitVote who nonce srcId prop inFavour s = .ok s' ↔
      (votesOrNew (srcId, nonce, prop) s).Open s.now ∧
      who ∉ (votesOrNew (srcId, nonce, prop) s).votesFor ++
        (votesOrNew (srcId, nonce, prop) s).votesAgainst ∧
      s' = s.voted (srcId, nonce, prop) who inFavour := by
  simp only [commitVote, bind_eq_ok, ensure_eq_ok, pure_eq_ok, exists_const, ProposalVotes.isComplete,
    ProposalVotes.isExpired, ProposalVotes.hashVoted, ProposalVotes.Open, decide_eq_true_eq,
    not_not, Nat.not_le, List.mem_append, and_assoc]
  refine and_congr_right fun _ => and_congr_right fun _ => and_congr_right fun _ => ?_
  cases inFavour <;> exact eq_comm

/-- Counting the votes is one move, and an approved proposal is dispatched after it. -/
theorem tryResolveProposal_eq_ok {dispatch : State cfg → Result (State cfg)} {nonce : DepositNonce}
    {srcId : ChainId} {prop : Call cfg.Effect} {s s' : State cfg} :
    tryResolveProposal dispatch nonce srcId prop s = .ok s' ↔
      ∃ votes, s.votes (srcId, nonce, prop) = some votes ∧ votes.Open s.now ∧
        if s.relayerThreshold.toNat ≤ votes.votesFor.length then
          dispatch (s.resolved (srcId, nonce, prop) votes) = .ok s'
        else s' = s.resolved (srcId, nonce, prop) votes := by
  simp only [tryResolveProposal]
  cases hvotes : s.votes (srcId, nonce, prop) with
  | none => simp
  | some votes =>
      simp only [bind_eq_ok, ensure_eq_ok, exists_const, ProposalVotes.isComplete,
        ProposalVotes.isExpired, ProposalVotes.Open, decide_eq_true_eq, not_not, Nat.not_le,
        Option.some.injEq, exists_eq_left', and_assoc]
      refine and_congr_right fun _ => and_congr_right fun _ => ?_
      unfold ProposalVotes.tryToComplete State.resolved finalizeExecution
      split_ifs with happroved hrejected
      · simp [ProposalVotes.tryToComplete, happroved]
      · simp only [ProposalVotes.tryToComplete, if_neg happroved, if_pos hrejected, pure_eq_ok]
        exact eq_comm
      · simp only [ProposalVotes.tryToComplete, if_neg happroved, if_neg hrejected, pure_eq_ok]
        exact eq_comm

theorem ensureMayVote_eq_ok {who : AccountId} {srcId : ChainId} {rId : ResourceId} {s : State cfg}
    {u : Unit} : ensureMayVote who srcId rId s = .ok u ↔
      isRelayer who s = true ∧ chainWhitelisted srcId s = true ∧ resourceExists rId s = true := by
  simp [ensureMayVote]

section Votes

variable {dispatch : State cfg → Result (State cfg)} {nonce : DepositNonce} {srcId : ChainId}
  {prop : Call cfg.Effect} {who : AccountId} {s s' : State cfg}

private theorem tryResolveProposal_moves
    (hdispatch : ∀ s s', dispatch s = .ok s' → ReflTransGen Move s s')
    (h : tryResolveProposal dispatch nonce srcId prop s = .ok s') : ReflTransGen Move s s' := by
  obtain ⟨votes, hvotes, hopen, hrest⟩ := tryResolveProposal_eq_ok.mp h
  have hmove := Move.resolve s (srcId, nonce, prop) votes hvotes hopen
  split at hrest
  · exact .head hmove (hdispatch _ _ hrest)
  · exact hrest ▸ .single hmove

private theorem commitVote_moves {inFavour : Bool} (hrelayer : isRelayer who s = true)
    (h : commitVote who nonce srcId prop inFavour s = .ok s') : ReflTransGen Move s s' := by
  obtain ⟨hopen, hnew, rfl⟩ := commitVote_eq_ok.mp h
  exact .single (.vote s _ who inFavour hrelayer hopen hnew)

end Votes

/-- A call that succeeds is a sequence of moves. -/
theorem dispatch_moves (c : Call cfg.Effect) :
    ∀ {origin : Origin} {s s' : State cfg}, dispatch c origin s = .ok s' →
      ReflTransGen Move s s' := by
  induction c with
  | setThreshold threshold =>
      intro origin s s' h
      simp only [dispatch, setRelayerThreshold, bind_eq_ok, ensure_eq_ok, pure_eq_ok] at h
      obtain ⟨-, -, -, -, rfl⟩ := h
      exact .single (.threshold s threshold)
  | setResource id method =>
      intro origin s s' h
      simp only [dispatch, setResource, bind_eq_ok] at h
      obtain ⟨-, -, h⟩ := h
      obtain rfl : registerResource id method s = s' := by
        split at h
        · simp only [bind_eq_ok, pure_eq_ok] at h
          obtain ⟨-, -, -, -, h⟩ := h
          exact h
        · simpa using h
      exact .single (.resources s _)
  | removeResource id =>
      intro origin s s' h
      simp only [dispatch, bind_eq_ok, pure_eq_ok] at h
      obtain ⟨-, -, rfl⟩ := h
      exact .single (.resources s _)
  | whitelistChain id =>
      intro origin s s' h
      simp only [dispatch, whitelist, bind_eq_ok, pure_eq_ok] at h
      obtain ⟨-, -, -, -, -, -, rfl⟩ := h
      exact .single (.chains s _)
  | addRelayer v =>
      intro origin s s' h
      simp only [dispatch, registerRelayer, bind_eq_ok, ensure_eq_ok, pure_eq_ok] at h
      obtain ⟨-, -, -, hv, rfl⟩ := h
      exact .single (.addRelayer s v (by simpa using hv))
  | removeRelayer v =>
      intro origin s s' h
      simp only [dispatch, unregisterRelayer, bind_eq_ok, ensure_eq_ok, pure_eq_ok] at h
      obtain ⟨-, -, -, hv, rfl⟩ := h
      exact .single (.removeRelayer s v hv)
  | acknowledgeProposal nonce srcId rId evmHash call ih =>
      intro origin s s' h
      simp only [dispatch, voteFor, bind_eq_ok, ensureMayVote_eq_ok] at h
      obtain ⟨who, -, -, ⟨hrelayer, -⟩, mid, hcommit, hresolve⟩ := h
      exact (commitVote_moves hrelayer hcommit).trans (tryResolveProposal_moves (fun _ _ => ih) hresolve)
  | rejectProposal nonce srcId rId call ih =>
      intro origin s s' h
      simp only [dispatch, voteAgainst, bind_eq_ok, ensureMayVote_eq_ok] at h
      obtain ⟨who, -, -, ⟨hrelayer, -⟩, mid, hcommit, hresolve⟩ := h
      exact (commitVote_moves hrelayer hcommit).trans (tryResolveProposal_moves (fun _ _ => ih) hresolve)
  | evalVoteState nonce srcId prop ih =>
      intro origin s s' h
      simp only [dispatch, bind_eq_ok] at h
      obtain ⟨-, -, hresolve⟩ := h
      exact tryResolveProposal_moves (fun _ _ => ih) hresolve
  | transferOut destId =>
      intro origin s s' h
      simp only [dispatch, bind_eq_ok, pure_eq_ok] at h
      obtain ⟨-, -, rfl⟩ := h
      exact .single (.chains s _)
  | other effect =>
      intro origin s s' h
      simp only [dispatch, bind_eq_ok, pure_eq_ok] at h
      obtain ⟨external, -, rfl⟩ := h
      exact .single (.outside s s.now external)
  | both first second ihfirst ihsecond =>
      intro origin s s' h
      simp only [dispatch, bind_eq_ok] at h
      obtain ⟨mid, hfirst, hsecond⟩ := h
      exact (ihfirst hfirst).trans (ihsecond hsecond)
  | dispatchAs as call ih =>
      intro origin s s' h
      exact ih h
  | attempt as call ih =>
      intro origin s s' h
      simp only [dispatch] at h
      split at h
      · rename_i mid hmid
        obtain rfl : mid = s' := by simpa using h
        exact ih hmid
      · obtain rfl : s = s' := by simpa using h
        exact .refl
      · simp at h

/-- A run is a sequence of moves. -/
theorem steps_moves {s s' : State cfg} (h : ReflTransGen Step s s') : ReflTransGen Move s s' := by
  induction h with
  | refl => exact .refl
  | tail _ hlast ih =>
      cases hlast with
      | call c origin h => exact ih.trans (dispatch_moves c h)
      | block external => exact ih.tail (.outside _ _ external)

/-- Calls one after the other, all of which have to succeed. -/
def run (calls : List (Call cfg.Effect × Origin)) (s : State cfg) : Result (State cfg) :=
  calls.foldlM (fun s c => dispatch c.1 c.2 s) s

theorem run_steps {calls : List (Call cfg.Effect × Origin)} {s s' : State cfg}
    (h : run calls s = .ok s') : ReflTransGen Step s s' := by
  induction calls generalizing s with
  | nil =>
      obtain rfl : s = s' := by simpa [run] using h
      exact .refl
  | cons c calls ih =>
      rw [run, List.foldlM_cons, bind_eq_ok] at h
      obtain ⟨mid, hmid, hrest⟩ := h
      exact .head (.call c.1 c.2 hmid) (ih hrest)

/-- What holds at genesis and survives a move holds in every reachable state. -/
theorem reachable_invariant {s : State cfg} (hs : Transition.Reachable Init Step s)
    (P : State cfg → Prop) (hinit : ∀ external, P (.genesis external))
    (hmove : ∀ s s', P s → Move s s' → P s') : P s := by
  obtain ⟨s₀, ⟨external, rfl⟩, hrun⟩ := hs
  exact Transition.Reachable.invariant ⟨_, rfl, steps_moves hrun⟩ P
    (fun _ h => h ▸ hinit external) hmove

end Fusotao.ChainBridge
