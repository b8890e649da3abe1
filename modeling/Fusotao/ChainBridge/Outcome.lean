import Fusotao.ChainBridge.Quorum

/-!
# The outcome of a vote

A fixed set of relayers votes on one proposal, everybody once, and anybody may have the votes counted
in between. While neither side has enough votes, the votes that are stored are those cast so far; the
vote that tips the scales completes the proposal for good. So the outcome is a matter of how many
relayers are for the proposal, not of the order they come in.
-/

namespace Fusotao.ChainBridge

open Exec Relation Transition

variable {cfg : Config}

/-! ### A vote -/

/-- What is voted on, and what everybody thinks of it. -/
structure Ballot (cfg : Config) where
  nonce : DepositNonce
  srcId : ChainId
  prop : Call cfg.Effect
  opinion : AccountId → Bool

abbrev Ballot.key (b : Ballot cfg) : Key cfg.Effect := (b.srcId, b.nonce, b.prop)

inductive Action
  | vote (who : AccountId) (rId : ResourceId) (evmHash : EvmHash)
  | eval (who : AccountId)
  | block

/-- The outcome of an action. A voter calls according to its opinion. -/
def Ballot.attempt (b : Ballot cfg) (s : State cfg) : Action → Result (State cfg)
  | .vote who rId evmHash =>
      if b.opinion who then
        dispatch (.acknowledgeProposal b.nonce b.srcId rId evmHash b.prop) (.signed who) s
      else dispatch (.rejectProposal b.nonce b.srcId rId b.prop) (.signed who) s
  | .eval who => dispatch (.evalVoteState b.nonce b.srcId b.prop) (.signed who) s
  | .block => .ok { s with now := (s.now + 1) % 2 ^ 32 }

/-- An action that fails changes nothing. -/
def Ballot.act (b : Ballot cfg) (s : State cfg) (action : Action) : State cfg :=
  match b.attempt s action with
  | .ok s' => s'
  | .error _ => s

def Ballot.actAll (b : Ballot cfg) (s : State cfg) (actions : List Action) : State cfg :=
  actions.foldl b.act s

/-- The storage once `action` has had the votes counted, before a proposal it approves is dispatched. -/
def Ballot.counted (b : Ballot cfg) (s : State cfg) : Action → State cfg
  | .vote who _ _ =>
      (s.voted b.key who (b.opinion who)).resolved b.key
        ((votesOrNew b.key s).add who (b.opinion who))
  | .eval _ => s.resolved b.key (votesOrNew b.key s)
  | .block => s

def Action.voter? : Action → Option AccountId
  | .vote who _ _ => some who
  | _ => none

def voters (actions : List Action) : List AccountId := actions.filterMap Action.voter?

/-- The vote as a whole: every relayer of `s` votes once, on a new proposal that does not expire
meanwhile and whose dispatch succeeds when an action approves it. -/
structure Ballot.Held (b : Ballot cfg) (s : State cfg) (actions : List Action) : Prop where
  once : (voters actions).Nodup
  everybody : ∀ a, a ∈ voters actions ↔ isRelayer a s = true
  fresh : s.votes b.key = none
  whitelisted : chainWhitelisted b.srcId s = true
  resources : ∀ who rId evmHash, .vote who rId evmHash ∈ actions → resourceExists rId s = true
  unexpired : ∀ pre, pre <+: actions →
    (b.actAll s pre).now < (votesOrNew b.key (b.actAll s pre)).expiry
  succeeds : ∀ pre action, pre ++ [action] <+: actions → isApproved b.key (b.actAll s pre) = false →
    isApproved b.key (b.counted (b.actAll s pre) action) = true →
    ∃ s', dispatch b.prop (.signed cfg.accountId) (b.counted (b.actAll s pre) action) = .ok s'

/-! ### Counting the votes -/

section Resolve

variable {dispatch : State cfg → Result (State cfg)} {b : Ballot cfg} {s : State cfg}
  {votes : ProposalVotes}

/-- The votes against decide once they and the threshold exceed the number of relayers. Their sum does
not wrap as long as it is at most one too many. -/
theorem rejects_iff {threshold total : U32} {against : Nat} (hthreshold : threshold ≤ total)
    (hagainst : against + threshold.toNat ≤ total.toNat + 1) (htotal : total.toNat + 1 < 2 ^ 32) :
    (threshold ≤ total ∧ total < BitVec.ofNat 32 against + threshold) ↔
      total.toNat < against + threshold.toNat := by
  rw [and_iff_right hthreshold, BitVec.lt_def, BitVec.toNat_add, BitVec.toNat_ofNat]
  omega

/-- The three outcomes of counting. -/
theorem tryResolveProposal_cases
    (hdispatch : isApproved b.key (s.resolved b.key votes) = true →
      ∃ s', dispatch (s.resolved b.key votes) = .ok s')
    (hmoves : ∀ s s', dispatch s = .ok s' → ReflTransGen Move s s')
    (hvotes : s.votes b.key = some votes) (hopen : votes.Open s.now)
    (hthreshold : s.relayerThreshold ≤ s.relayerCount)
    (hagainst : votes.votesAgainst.length + s.relayerThreshold.toNat ≤ s.relayerCount.toNat + 1)
    (htotal : s.relayerCount.toNat + 1 < 2 ^ 32) :
    ∃ s', tryResolveProposal dispatch b.nonce b.srcId b.prop s = .ok s' ∧
      ((s.relayerThreshold.toNat ≤ votes.votesFor.length ∧
          s'.votes b.key = some { votes with status := .approved } ∧
          executions b.key s' = executions b.key s + 1) ∨
        (votes.votesFor.length < s.relayerThreshold.toNat ∧
          s.relayerCount.toNat < votes.votesAgainst.length + s.relayerThreshold.toNat ∧
          s'.votes b.key = some { votes with status := .rejected } ∧
          executions b.key s' = executions b.key s) ∨
        (votes.votesFor.length < s.relayerThreshold.toNat ∧
          votes.votesAgainst.length + s.relayerThreshold.toNat ≤ s.relayerCount.toNat ∧
          s' = { s with votes := s.votes.insert b.key votes })) := by
  by_cases happroved : s.relayerThreshold.toNat ≤ votes.votesFor.length
  · have hresolved : (s.resolved b.key votes).votes b.key =
        some { votes with status := .approved } := by
      simp [State.resolved, ProposalVotes.tryToComplete, happroved]
    have hcount : executions b.key (s.resolved b.key votes) = executions b.key s + 1 := by
      simp [executions, State.resolved, happroved, Entry.executes]
    obtain ⟨s', hs'⟩ := hdispatch (by simp [isApproved, hresolved])
    obtain ⟨hkept, hsame⟩ := moves_completed (hmoves _ _ hs') hresolved (by simp)
    refine ⟨s', tryResolveProposal_eq_ok.mpr ⟨votes, hvotes, hopen, ?_⟩, .inl ⟨happroved, hkept, ?_⟩⟩
    · rw [if_pos happroved]
      exact hs'
    · rw [hsame, hcount]
  · refine ⟨s.resolved b.key votes, tryResolveProposal_eq_ok.mpr ⟨votes, hvotes, hopen, ?_⟩, .inr ?_⟩
    · rw [if_neg happroved]
    · have hfor := Nat.lt_of_not_le happroved
      have hcount : executions b.key (s.resolved b.key votes) = executions b.key s := by
        simp [executions, State.resolved, happroved]
      by_cases hrejected : s.relayerCount.toNat < votes.votesAgainst.length + s.relayerThreshold.toNat
      · refine .inl ⟨hfor, hrejected, ?_, hcount⟩
        simp [State.resolved, ProposalVotes.tryToComplete, happroved,
          (rejects_iff hthreshold hagainst htotal).mpr hrejected]
      · refine .inr ⟨hfor, Nat.le_of_not_lt hrejected, ?_⟩
        rw [← rejects_iff hthreshold hagainst htotal] at hrejected
        simp only [State.resolved, ProposalVotes.tryToComplete, if_neg happroved, if_neg hrejected]

end Resolve

/-! ### The votes so far -/

/-- The relayers, their threshold and what may be voted on are those of `start`. -/
structure SameSetting (start s : State cfg) : Prop where
  relayers : s.relayers = start.relayers
  relayerCount : s.relayerCount = start.relayerCount
  relayerThreshold : s.relayerThreshold = start.relayerThreshold
  chains : s.chains = start.chains
  resources : s.resources = start.resources

/-- `votes` are those of `cast`, and there are at most enough of them against. -/
structure Ballot.Tally (b : Ballot cfg) (start : State cfg) (cast : List AccountId)
    (votes : ProposalVotes) : Prop where
  status : votes.status = .initiated
  votesFor : votes.votesFor = cast.filter b.opinion
  votesAgainst : votes.votesAgainst = cast.filter fun a => !b.opinion a
  room : votes.votesAgainst.length + start.relayerThreshold.toNat ≤ start.relayerCount.toNat + 1

/-- Neither side has enough votes, and the votes stored are those that were cast. -/
structure Ballot.Undecided (b : Ballot cfg) (start : State cfg) (cast : List AccountId)
    (s : State cfg) : Prop where
  setting : SameSetting start s
  tally : b.Tally start cast (votesOrNew b.key s)
  fewFor : (cast.filter b.opinion).length < start.relayerThreshold.toNat
  fewAgainst : (cast.filter fun a => !b.opinion a).length + start.relayerThreshold.toNat ≤
    start.relayerCount.toNat
  undispatched : executions b.key s = 0

/-- One side has enough votes, and the proposal is completed accordingly. -/
def Ballot.Decided (b : Ballot cfg) (start : State cfg) (cast : List AccountId) (s : State cfg) :
    Prop :=
  ∃ votes, s.votes b.key = some votes ∧
    ((votes.status = .approved ∧ executions b.key s = 1 ∧
        start.relayerThreshold.toNat ≤ (cast.filter b.opinion).length) ∨
      (votes.status = .rejected ∧ executions b.key s = 0 ∧
        start.relayerCount.toNat <
          (cast.filter fun a => !b.opinion a).length + start.relayerThreshold.toNat))

variable {b : Ballot cfg} {start s s' : State cfg} {cast : List AccountId} {action : Action}

theorem Ballot.attempt_eq_ok_open (h : b.attempt s action = .ok s') (haction : action ≠ .block) :
    ∀ votes, s.votes b.key = some votes → votes.status = .initiated := by
  intro votes hvotes
  have hold : votesOrNew b.key s = votes := by simp [votesOrNew, hvotes]
  cases action with
  | vote who rId evmHash =>
      simp only [Ballot.attempt] at h
      split at h
      · simp only [dispatch, voteFor, bind_eq_ok] at h
        obtain ⟨voter, -, -, -, mid, hcommit, -⟩ := h
        exact hold ▸ (commitVote_eq_ok.mp hcommit).1.1
      · simp only [dispatch, voteAgainst, bind_eq_ok] at h
        obtain ⟨voter, -, -, -, mid, hcommit, -⟩ := h
        exact hold ▸ (commitVote_eq_ok.mp hcommit).1.1
  | eval who =>
      simp only [Ballot.attempt, dispatch, bind_eq_ok] at h
      obtain ⟨-, -, hresolve⟩ := h
      obtain ⟨votes', hvotes', hopen, -⟩ := tryResolveProposal_eq_ok.mp hresolve
      rw [hvotes] at hvotes'
      exact Option.some.inj hvotes' ▸ hopen.1
  | block => exact absurd rfl haction

/-- Nothing but the end of a block succeeds once the proposal is completed. -/
theorem Ballot.attempt_completed (haction : action ≠ .block) {votes : ProposalVotes}
    (hvotes : s.votes b.key = some votes) (hdone : votes.status ≠ .initiated) :
    (∃ e, b.attempt s action = .error e) ∧ b.act s action = s := by
  unfold Ballot.act
  cases h : b.attempt s action with
  | ok s' => exact absurd (b.attempt_eq_ok_open h haction votes hvotes) hdone
  | error e => exact ⟨⟨e, rfl⟩, rfl⟩

/-- A decision stands, whoever tries to vote afterwards. -/
theorem Ballot.Decided.act (hs : b.Decided start cast s) (late : List AccountId) :
    b.Decided start (cast ++ late) (b.act s action) := by
  obtain ⟨votes, hvotes, hside⟩ := hs
  have hdone : votes.status ≠ .initiated := by
    rcases hside with ⟨hstatus, -⟩ | ⟨hstatus, -⟩ <;> simp [hstatus]
  have hsame : (b.act s action).votes b.key = s.votes b.key ∧
      executions b.key (b.act s action) = executions b.key s := by
    by_cases haction : action = .block
    · subst haction
      exact ⟨rfl, rfl⟩
    · rw [(b.attempt_completed haction hvotes hdone).2]
      exact ⟨rfl, rfl⟩
  refine ⟨votes, hsame.1.trans hvotes, ?_⟩
  simp only [List.filter_append, List.length_append]
  rw [hsame.2]
  rcases hside with ⟨hstatus, hcount, hfor⟩ | ⟨hstatus, hcount, hagainst⟩
  · exact .inl ⟨hstatus, hcount, by omega⟩
  · exact .inr ⟨hstatus, hcount, by omega⟩

/-! ### One more action -/

section Step

variable (hthreshold : start.relayerThreshold ≤ start.relayerCount)
  (htotal : start.relayerCount.toNat + 1 < 2 ^ 32)
include hthreshold htotal

/-- Counting the votes of a proposal decides it, or leaves it undecided. -/
theorem Ballot.resolve_tally {votes : ProposalVotes} (hsetting : SameSetting start s)
    (hvotes : s.votes b.key = some votes) (htally : b.Tally start cast votes)
    (hlive : s.now < votes.expiry) (hcount : executions b.key s = 0)
    (hsucceeds : isApproved b.key (s.resolved b.key votes) = true →
      ∃ s', dispatch b.prop (.signed cfg.accountId) (s.resolved b.key votes) = .ok s') :
    ∃ s', tryResolveProposal (dispatch b.prop (.signed cfg.accountId)) b.nonce b.srcId b.prop s
        = .ok s' ∧ (b.Undecided start cast s' ∨ b.Decided start cast s') := by
  have hthreshold' := hsetting.relayerThreshold
  have hcount' := hsetting.relayerCount
  obtain ⟨s', hok, hcases⟩ := tryResolveProposal_cases hsucceeds (fun _ _ => dispatch_moves b.prop)
    hvotes ⟨htally.status, hlive⟩ (by rwa [hthreshold', hcount'])
    (by rw [hthreshold', hcount']; exact htally.room) (by rwa [hcount'])
  rw [hthreshold', hcount', hcount, htally.votesFor, htally.votesAgainst] at hcases
  refine ⟨s', hok, ?_⟩
  rcases hcases with ⟨hfor, hkept, hdone⟩ | ⟨-, hagainst, hkept, hdone⟩ | ⟨hfor, hagainst, rfl⟩
  · exact .inr ⟨_, hkept, .inl ⟨rfl, hdone, hfor⟩⟩
  · exact .inr ⟨_, hkept, .inr ⟨rfl, hdone, hagainst⟩⟩
  · refine .inl ⟨?_, ?_, hfor, hagainst, hcount⟩
    · exact ⟨hsetting.relayers, rfl, rfl, hsetting.chains, hsetting.resources⟩
    · simpa [votesOrNew] using htally

theorem Ballot.Undecided.eval (hs : b.Undecided start cast s)
    (hlive : s.now < (votesOrNew b.key s).expiry) (who : AccountId)
    (hsucceeds : isApproved b.key (b.counted s (.eval who)) = true →
      ∃ s', dispatch b.prop (.signed cfg.accountId) (b.counted s (.eval who)) = .ok s') :
    b.Undecided start cast (b.act s (.eval who)) ∨ b.Decided start cast (b.act s (.eval who)) := by
  unfold Ballot.act
  simp only [Ballot.attempt, dispatch, ensureSigned, ok_bind]
  cases hvotes : s.votes b.key with
  | none =>
      -- There is nothing to count, so the call fails.
      have hfail : tryResolveProposal (dispatch b.prop (.signed cfg.accountId)) b.nonce b.srcId
          b.prop s = .error BridgeError.proposalDoesNotExist := by
        simp [tryResolveProposal, hvotes]
      rw [hfail]
      exact .inl hs
  | some votes =>
      have hstored : votesOrNew b.key s = votes := by simp [votesOrNew, hvotes]
      have htally := hs.tally
      rw [Ballot.counted, hstored] at hsucceeds
      rw [hstored] at htally hlive
      obtain ⟨s', hok, hside⟩ := b.resolve_tally hthreshold htotal hs.setting hvotes htally hlive
        hs.undispatched hsucceeds
      rw [hok]
      exact hside

theorem Ballot.Undecided.vote (hs : b.Undecided start cast s)
    (hlive : s.now < (votesOrNew b.key s).expiry) {who : AccountId} {rId : ResourceId}
    (evmHash : EvmHash) (hrelayer : isRelayer who start = true) (hnew : who ∉ cast)
    (hwhitelisted : chainWhitelisted b.srcId start = true)
    (hresource : resourceExists rId start = true)
    (hsucceeds : isApproved b.key (b.counted s (.vote who rId evmHash)) = true →
      ∃ s', dispatch b.prop (.signed cfg.accountId) (b.counted s (.vote who rId evmHash)) = .ok s') :
    b.Undecided start (cast ++ [who]) (b.act s (.vote who rId evmHash)) ∨
      b.Decided start (cast ++ [who]) (b.act s (.vote who rId evmHash)) := by
  have htally := hs.tally
  have hmay : ensureMayVote who b.srcId rId s = .ok () := by
    rw [ensureMayVote_eq_ok]
    simp only [isRelayer, chainWhitelisted, resourceExists, hs.setting.relayers, hs.setting.chains,
      hs.setting.resources]
    exact ⟨hrelayer, hwhitelisted, hresource⟩
  have hcommit : commitVote who b.nonce b.srcId b.prop (b.opinion who) s =
      .ok (s.voted b.key who (b.opinion who)) := by
    refine commitVote_eq_ok.mpr ⟨⟨htally.status, hlive⟩, ?_, rfl⟩
    rw [htally.votesFor, htally.votesAgainst]
    simp [hnew]
  have htally' : b.Tally start (cast ++ [who]) ((votesOrNew b.key s).add who (b.opinion who)) := by
    have hroom := hs.fewAgainst
    rw [← htally.votesAgainst] at hroom
    refine ⟨by simpa using htally.status, ?_, ?_, ?_⟩
    · cases hopinion : b.opinion who <;>
        simp [ProposalVotes.add, htally.votesFor, List.filter_append, hopinion]
    · cases hopinion : b.opinion who <;>
        simp [ProposalVotes.add, htally.votesAgainst, List.filter_append, hopinion]
    · cases b.opinion who with
      | true => exact Nat.le_succ_of_le hroom
      | false =>
          simp only [ProposalVotes.add, Bool.false_eq_true, if_false, List.length_append,
            List.length_singleton]
          omega
  have hsetting : SameSetting start (s.voted b.key who (b.opinion who)) :=
    ⟨hs.setting.relayers, hs.setting.relayerCount, hs.setting.relayerThreshold, hs.setting.chains,
      hs.setting.resources⟩
  obtain ⟨s', hok, hside⟩ := b.resolve_tally hthreshold htotal hsetting (StorageMap.insert_self ..)
    htally' (by simpa [State.voted] using hlive)
    (by simpa [executions, State.voted, Entry.executes] using hs.undispatched) hsucceeds
  have hact : b.act s (.vote who rId evmHash) = s' := by
    unfold Ballot.act
    simp only [Ballot.attempt]
    cases hopinion : b.opinion who <;> rw [hopinion] at hcommit hok <;>
      simp [dispatch, ensureSigned, hmay, voteFor, voteAgainst, hcommit, hok]
  rw [hact]
  exact hside

end Step

theorem Ballot.Undecided.block (hs : b.Undecided start cast s) :
    b.Undecided start cast (b.act s .block) := by
  refine ⟨⟨hs.setting.relayers, hs.setting.relayerCount, hs.setting.relayerThreshold,
    hs.setting.chains, hs.setting.resources⟩, ?_, hs.fewFor, hs.fewAgainst, hs.undispatched⟩
  have htally := hs.tally
  cases hvotes : s.votes b.key with
  | some votes =>
      have hbefore : votesOrNew b.key s = votes := by simp [votesOrNew, hvotes]
      have hafter : votesOrNew b.key (b.act s .block) = votes := by
        simp [votesOrNew, Ballot.act, Ballot.attempt, hvotes]
      rwa [hafter, ← hbefore]
  | none =>
      obtain ⟨expiry, hbefore⟩ := votesOrNew_of_none hvotes
      obtain ⟨expiry', hafter⟩ :=
        votesOrNew_of_none (show (b.act s .block).votes b.key = none from hvotes)
      rw [hbefore] at htally
      rw [hafter]
      exact ⟨htally.status, htally.votesFor, htally.votesAgainst, htally.room⟩

/-! ### The vote as a whole -/

theorem voters_append (pre : List Action) (action : Action) :
    voters (pre ++ [action]) = voters pre ++ action.voter?.toList := by
  cases h : action.voter? <;> simp [voters, h]

theorem Ballot.actAll_append (s : State cfg) (pre : List Action) (action : Action) :
    b.actAll s (pre ++ [action]) = b.act (b.actAll s pre) action := by
  simp [Ballot.actAll]

/-- The number of relayers that are for the proposal. -/
def Ballot.support (b : Ballot cfg) (s : State cfg) : Nat :=
  ((relayerSet s).filter fun a => b.opinion a = true).card

variable {actions : List Action}

theorem Ballot.Held.voters_toFinset (h : b.Held s actions) :
    (voters actions).toFinset = relayerSet s := by
  ext a
  rw [List.mem_toFinset, h.everybody a, relayerSet, mem_flagged]

theorem Ballot.Held.length_voters (h : b.Held s actions) :
    (voters actions).length = (relayerSet s).card := by
  rw [← h.voters_toFinset, List.toFinset_card_of_nodup h.once]

theorem Ballot.Held.length_for (h : b.Held s actions) :
    ((voters actions).filter b.opinion).length = b.support s := by
  rw [Ballot.support, ← h.voters_toFinset, ← List.toFinset_filter,
    List.toFinset_card_of_nodup (h.once.filter _)]

theorem Ballot.Held.length_against (h : b.Held s actions) :
    ((voters actions).filter fun a => !b.opinion a).length + b.support s = (relayerSet s).card := by
  rw [← h.length_for, ← h.length_voters, Nat.add_comm]
  exact (List.length_eq_length_filter_add b.opinion).symm

/-- After any part of the vote, the proposal is undecided or decided by the votes cast so far. -/
theorem Ballot.Held.progress (h : b.Held s actions) (hundispatched : executions b.key s = 0)
    (hpositive : 0 < s.relayerThreshold.toNat) (hthreshold : s.relayerThreshold ≤ s.relayerCount)
    (htotal : s.relayerCount.toNat + 1 < 2 ^ 32) (pre : List Action) (hpre : pre <+: actions) :
    b.Undecided s (voters pre) (b.actAll s pre) ∨ b.Decided s (voters pre) (b.actAll s pre) := by
  induction pre using List.reverseRecOn with
  | nil =>
      refine .inl ⟨⟨rfl, rfl, rfl, rfl, rfl⟩, ?_, hpositive, ?_, hundispatched⟩
      · simp only [Ballot.actAll, List.foldl_nil, votesOrNew, h.fresh]
        refine ⟨rfl, rfl, rfl, ?_⟩
        simpa [ProposalVotes.empty] using Nat.le_succ_of_le hthreshold
      · simpa [voters] using BitVec.le_def.mp hthreshold
  | append_singleton pre action ih =>
      have hpart : pre <+: actions := (List.prefix_append pre [action]).trans hpre
      have hmem : action ∈ actions := hpre.subset (by simp)
      rw [b.actAll_append, voters_append]
      rcases ih hpart with hundecided | hdecided
      · have hlive := h.unexpired pre hpart
        have hunapproved : isApproved b.key (b.actAll s pre) = false := by
          simp [isApproved_votesOrNew, hundecided.tally.status]
        have hsucceeds := h.succeeds pre action hpre hunapproved
        cases action with
        | vote who rId evmHash =>
            have hcast : (voters pre ++ [who]).Nodup := by
              have hnodup : (voters (pre ++ [.vote who rId evmHash])).Nodup :=
                h.once.sublist (hpre.sublist.filterMap _)
              rwa [voters_append] at hnodup
            have hrelayer : isRelayer who s = true :=
              (h.everybody who).mp (List.mem_filterMap.mpr ⟨_, hmem, rfl⟩)
            have hnew : who ∉ voters pre := fun hin =>
              (List.nodup_append.mp hcast).2.2 who hin who (List.mem_singleton_self who) rfl
            exact hundecided.vote hthreshold htotal hlive evmHash hrelayer hnew h.whitelisted
              (h.resources _ _ _ hmem) hsucceeds
        | eval who =>
            simpa [Action.voter?] using hundecided.eval hthreshold htotal hlive who hsucceeds
        | block => exact .inl (by simpa [Action.voter?] using hundecided.block)
      · exact .inr (hdecided.act _)

/-- The proposal ends approved, and dispatched once, if as many relayers as the threshold are for it,
and rejected otherwise. Whoever comes after the decision gets an error. -/
theorem outcome_order_independent (hs : Reachable Init Step s) (h : b.Held s actions)
    (hroom : (relayerSet s).card + 1 < 2 ^ 32) (hpositive : 0 < s.relayerThreshold.toNat)
    (hthreshold : s.relayerThreshold.toNat ≤ (relayerSet s).card) :
    (∃ votes, (b.actAll s actions).votes b.key = some votes ∧
      if s.relayerThreshold.toNat ≤ b.support s then
        votes.status = .approved ∧ executions b.key (b.actAll s actions) = 1
      else votes.status = .rejected ∧ executions b.key (b.actAll s actions) = 0) ∧
    ∀ pre action, pre ++ [action] <+: actions → action ≠ .block → ∀ votes,
      (b.actAll s pre).votes b.key = some votes → votes.status ≠ .initiated →
      (∃ e, b.attempt (b.actAll s pre) action = .error e) ∧
        b.actAll s (pre ++ [action]) = b.actAll s pre := by
  obtain ⟨-, -, honce, -, hcount⟩ := reachable_inv hs
  have htotal : s.relayerCount.toNat = (relayerSet s).card := by
    rw [hcount, BitVec.toNat_ofNat, Nat.mod_eq_of_lt (by omega)]
  have hundispatched : executions b.key s = 0 := by
    rw [honce]
    simp [isApproved, h.fresh]
  have hfor := h.length_for
  have hagainst := h.length_against
  constructor
  · rcases h.progress hundispatched hpositive (by rwa [BitVec.le_def, htotal]) (by omega) actions
      List.prefix_rfl with hundecided | ⟨votes, hvotes, hside⟩
    · -- Everybody has voted, so one side has enough votes.
      have hfewFor := hundecided.fewFor
      have hfewAgainst := hundecided.fewAgainst
      omega
    · refine ⟨votes, hvotes, ?_⟩
      rcases hside with ⟨hstatus, hexecuted, hmany⟩ | ⟨hstatus, hexecuted, hmany⟩
      · rw [if_pos (by omega)]
        exact ⟨hstatus, hexecuted⟩
      · rw [if_neg (by omega)]
        exact ⟨hstatus, hexecuted⟩
  · intro pre action _ haction votes hvotes hdone
    rw [b.actAll_append]
    exact b.attempt_completed haction hvotes hdone

/-! ### A vote of two -/

def firstRelayer : AccountId := List.Vector.replicate 32 1

def secondRelayer : AccountId := List.Vector.replicate 32 2

/-- A bridge with two relayers, both of whom are needed. -/
def pairState : State plainConfig :=
  { State.genesis () with
    chains := StorageMap.insert (fun _ => none) 5 0
    resources := StorageMap.insert (fun _ => none) plainConfig.nativeResourceId []
    relayers := StorageMap.insert (StorageMap.insert (fun _ => none) firstRelayer true)
      secondRelayer true
    relayerCount := 2
    relayerThreshold := 2 }

theorem pairState_reachable : Reachable Init Step pairState := by
  have hrun : run [(.whitelistChain 5, .root), (.setResource plainConfig.nativeResourceId [], .root),
      (.addRelayer firstRelayer, .root), (.addRelayer secondRelayer, .root),
      (.setThreshold 2, .root)] (.genesis ()) = .ok pairState := rfl
  exact ⟨_, ⟨(), rfl⟩, run_steps hrun⟩

/-- The two disagree. -/
def splitBallot : Ballot plainConfig where
  nonce := 0
  srcId := 5
  prop := .other ()
  opinion a := a = firstRelayer

def splitVote : List Action :=
  [.eval firstRelayer, .vote secondRelayer plainConfig.nativeResourceId plainConfig.nativeResourceId,
    .block, .vote firstRelayer plainConfig.nativeResourceId plainConfig.nativeResourceId]

theorem splitBallot_held : splitBallot.Held pairState splitVote where
  once := by decide
  everybody a := by
    have hrelayer : isRelayer a pairState = true ↔ a = secondRelayer ∨ a = firstRelayer := by
      simp only [isRelayer, pairState, StorageMap.insert_apply]
      split_ifs <;> simp [*]
    rw [hrelayer]
    simp [voters, splitVote, Action.voter?, @eq_comm _ a]
  fresh := rfl
  whitelisted := rfl
  resources who rId evmHash hmem := by
    simp only [splitVote, List.mem_cons, reduceCtorEq, Action.vote.injEq, List.not_mem_nil,
      or_false, false_or] at hmem
    rcases hmem with ⟨-, rfl, -⟩ | ⟨-, rfl, -⟩ <;> decide
  unexpired := by
    simp only [← List.mem_inits]
    decide +kernel
  succeeds _ _ _ _ _ := ⟨_, rfl⟩

theorem outcome_order_independent_splitVote :
    ∃ votes, (splitBallot.actAll pairState splitVote).votes splitBallot.key = some votes ∧
      votes.status = .rejected := by
  have hcard := splitBallot_held.length_voters
  have hsupport : splitBallot.support pairState = 1 := by
    rw [← splitBallot_held.length_for]
    decide
  have hthreshold : pairState.relayerThreshold.toNat = 2 := rfl
  obtain ⟨⟨votes, hvotes, hside⟩, -⟩ := outcome_order_independent pairState_reachable
    splitBallot_held (by rw [← hcard]; decide) (by decide) (by rw [← hcard]; decide)
  rw [hsupport, hthreshold, if_neg (by decide)] at hside
  exact ⟨votes, hvotes, hside.1⟩

/-! ### Too many relayers -/

/-- A proposal nobody is for. -/
def unwantedBallot : Ballot plainConfig where
  nonce := 0
  srcId := 5
  prop := .other ()
  opinion _ := false

/-- The proposal is open, with no votes for it and the greatest number of relayers there can be. -/
private structure Stuck (s : State plainConfig) : Prop where
  now : s.now = 0
  expiry : (votesOrNew unwantedBallot.key s).expiry = 100
  status : (votesOrNew unwantedBallot.key s).status = .initiated
  votesFor : (votesOrNew unwantedBallot.key s).votesFor = []
  relayerCount : s.relayerCount = BitVec.allOnes 32
  relayerThreshold : s.relayerThreshold = 1

private theorem Stuck.vote {s : State plainConfig} (hs : Stuck s) (who : AccountId) (rId : ResourceId)
    (evmHash : EvmHash) : Stuck (unwantedBallot.act s (.vote who rId evmHash)) := by
  unfold Ballot.act
  cases h : unwantedBallot.attempt s (.vote who rId evmHash) with
  | error e => exact hs
  | ok s' =>
      simp only [Ballot.attempt, unwantedBallot, Bool.false_eq_true, if_false, dispatch, voteAgainst,
        bind_eq_ok] at h
      obtain ⟨voter, -, -, -, mid, hcommit, hresolve⟩ := h
      obtain ⟨-, -, rfl⟩ := commitVote_eq_ok.mp hcommit
      obtain ⟨votes, hvotes, -, hrest⟩ := tryResolveProposal_eq_ok.mp hresolve
      obtain rfl : (votesOrNew unwantedBallot.key s).add voter false = votes := by
        simpa [State.voted, unwantedBallot] using hvotes
      have hfor : ((votesOrNew unwantedBallot.key s).add voter false).votesFor = [] := hs.votesFor
      have hcounted : ((votesOrNew unwantedBallot.key s).add voter false).tryToComplete
          s.relayerThreshold s.relayerCount =
            ((votesOrNew unwantedBallot.key s).add voter false, .initiated) := by
        unfold ProposalVotes.tryToComplete
        rw [hs.relayerThreshold, hs.relayerCount, hfor, if_neg (by decide), if_neg]
        rintro ⟨-, hlt⟩
        have hbound := BitVec.isLt (BitVec.ofNat 32
          ((votesOrNew unwantedBallot.key s).add voter false).votesAgainst.length + 1)
        rw [BitVec.lt_def, BitVec.toNat_allOnes] at hlt
        omega
      rw [if_neg (by rw [hfor]; simp [State.voted, hs.relayerThreshold])] at hrest
      have hstored : votesOrNew unwantedBallot.key s' =
          (votesOrNew unwantedBallot.key s).add voter false := by
        rw [hrest]
        simpa [votesOrNew, State.resolved, State.voted, unwantedBallot] using
          congrArg Prod.fst hcounted
      refine ⟨by rw [hrest]; exact hs.now, ?_, ?_, by rw [hstored, hfor], ?_, ?_⟩
      · rw [hstored, ProposalVotes.add_expiry, hs.expiry]
      · rw [hstored, ProposalVotes.add_status, hs.status]
      · rw [hrest]
        exact hs.relayerCount
      · rw [hrest]
        exact hs.relayerThreshold

private theorem stuck_actAll {s : State plainConfig} (hs : Stuck s) (who : List AccountId) :
    Stuck (unwantedBallot.actAll s
      (who.map fun a => .vote a plainConfig.nativeResourceId plainConfig.nativeResourceId)) := by
  induction who generalizing s with
  | nil => exact hs
  | cons a who ih => exact ih (hs.vote a _ _)

/-- A bridge on which one vote suffices, before its relayers are added. -/
def soleState : State plainConfig :=
  { State.genesis () with
    chains := StorageMap.insert (fun _ => none) 5 0
    resources := StorageMap.insert (fun _ => none) plainConfig.nativeResourceId [] }

/-- With `2^32 - 1` relayers, all of them against a proposal that needs one vote, it is never
rejected. -/
theorem unanimous_rejection_missed : ∃ (s : State plainConfig) (actions : List Action),
    Reachable Init Step s ∧ unwantedBallot.Held s actions ∧ (relayerSet s).card = 2 ^ 32 - 1 ∧
    s.relayerThreshold = 1 ∧ unwantedBallot.support s = 0 ∧
    ∀ votes, (unwantedBallot.actAll s actions).votes unwantedBallot.key = some votes →
      votes.status = .initiated := by
  have hsole : Reachable Init Step soleState :=
    ⟨_, ⟨(), rfl⟩, run_steps (show run [(.whitelistChain 5, .root),
      (.setResource plainConfig.nativeResourceId [], .root)] (.genesis ()) = .ok soleState from rfl)⟩
  have hnone : (relayerSet soleState).card = 0 := Finset.card_eq_zero.mpr (relayerSet_eq_empty rfl)
  obtain ⟨relayers, relayerCount, hrun, hcard⟩ :=
    enlist (show plainConfig.isAdmin .root = true by decide) (2 ^ 32 - 1) soleState
      (by rw [hnone]; norm_num)
  rw [hnone, Nat.zero_add] at hcard
  generalize hs : ({ soleState with relayers, relayerCount } : State plainConfig) = s at hrun hcard
  have hreach : Reachable Init Step s := by
    obtain ⟨s₀, hinit, hsteps⟩ := hsole
    exact ⟨s₀, hinit, hsteps.trans hrun⟩
  have hcount : s.relayerCount = BitVec.allOnes 32 := by
    rw [(reachable_inv hreach).2.2.2.2, hcard]
    rfl
  have hstuck : Stuck s := by
    subst hs
    exact ⟨rfl, rfl, rfl, rfl, hcount, rfl⟩
  set actions : List Action := (relayerSet s).toList.map fun a =>
    .vote a plainConfig.nativeResourceId plainConfig.nativeResourceId with hactions
  have hvoters : voters actions = (relayerSet s).toList := by
    simp [hactions, voters, List.filterMap_map, Function.comp_def, Action.voter?]
  have hpart : ∀ pre, pre <+: actions → Stuck (unwantedBallot.actAll s pre) := by
    intro pre hpre
    rw [hactions, List.prefix_map_iff] at hpre
    obtain ⟨who, -, rfl⟩ := hpre
    exact stuck_actAll hstuck who
  refine ⟨s, actions, hreach, ?_, hcard, hstuck.relayerThreshold, ?_, fun votes hvotes => ?_⟩
  · refine ⟨?_, fun a => ?_, ?_, ?_, ?_, fun pre hpre => ?_, fun _ _ _ _ _ => ⟨_, rfl⟩⟩
    · rw [hvoters]
      exact Finset.nodup_toList _
    · rw [hvoters, Finset.mem_toList, relayerSet, mem_flagged]
    · subst hs
      rfl
    · subst hs
      rfl
    · intro who rId evmHash hmem
      simp only [hactions, List.mem_map, Action.vote.injEq] at hmem
      obtain ⟨a, -, -, rfl, -⟩ := hmem
      subst hs
      rfl
    · rw [(hpart pre hpre).now, (hpart pre hpre).expiry]
      decide
  · simp [Ballot.support, unwantedBallot]
  · have hstatus := (hpart actions List.prefix_rfl).status
    simpa [votesOrNew, hvotes] using hstatus

end Fusotao.ChainBridge
