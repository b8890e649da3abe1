import Fusotao.ChainBridge.Quorum
import Mathlib.Algebra.Order.Monoid.Defs
import Mathlib.Algebra.BigOperators.Group.List.Basic

/-!
# What is done in the name of the bridge

Some effects are reserved for the account of the bridge. It signs nothing itself: it dispatches the proposals that are
approved. So what the reserved effects add up to is at most what is written in the proposals that were dispatched,
however calls nest and whatever else is called.
-/

namespace Fusotao.ChainBridge

open Exec Relation

variable {cfg : Config} {s s' : State cfg} {M : Type}

/-! ### What is written in a call -/

/-- What the effects written in a call come to, those of proposals apart. -/
def Call.cost {Effect : Type} [AddMonoid M] (cost : Effect → M) : Call Effect → M
  | .other effect => cost effect
  | .both first second => first.cost cost + second.cost cost
  | .dispatchAs _ call => call.cost cost
  | .attempt _ call => call.cost cost
  | _ => 0

/-- The call dispatches a call of `who` on its own, proposals apart. -/
def Call.actsAs {Effect : Type} (who : AccountId) : Call Effect → Bool
  | .both first second => first.actsAs who || second.actsAs who
  | .dispatchAs origin call => origin = .signed who || call.actsAs who
  | .attempt origin call => origin = .signed who || call.actsAs who
  | _ => false

/-- What the effects written in a proposal come to, if it was dispatched. -/
def Entry.cost {Effect : Type} [AddMonoid M] (cost : Effect → M) : Entry Effect → M
  | .executed key _ => key.2.2.cost cost
  | .vote .. => 0

/-- What the effects written in the proposals that were dispatched come to. -/
def approved {Effect : Type} [AddMonoid M] (cost : Effect → M) (history : List (Entry Effect)) : M :=
  (history.map (Entry.cost cost)).sum

section Approved

variable [AddCommMonoid M] [PartialOrder M] [IsOrderedCancelAddMonoid M] {weight : cfg.External → M}
  {cost : cfg.Effect → M} {budget budget' : M}

/-- Only the account of the bridge adds to the weight, by the cost of the effect at most. -/
structure ReservedForBridge (cfg : Config) (weight : cfg.External → M) (cost : cfg.Effect → M) : Prop where
  nonneg : ∀ effect, 0 ≤ cost effect
  others : ∀ effect origin x x', cfg.perform effect origin x = .ok x' → origin ≠ .signed cfg.accountId →
    weight x' ≤ weight x
  bridge : ∀ effect origin x x', cfg.perform effect origin x = .ok x' → weight x' ≤ weight x + cost effect

theorem Call.cost_nonneg (hnonneg : ∀ effect, 0 ≤ cost effect) (c : Call cfg.Effect) : 0 ≤ c.cost cost := by
  induction c with
  | other effect => exact hnonneg effect
  | both first second ihfirst ihsecond => exact add_nonneg ihfirst ihsecond
  | dispatchAs origin call ih => exact ih
  | attempt origin call ih => exact ih
  | _ => exact le_refl _

/-- The weight grows by what is approved meanwhile and by the budget at most. -/
def Within (weight : cfg.External → M) (cost : cfg.Effect → M) (budget : M) (s s' : State cfg) : Prop :=
  weight s'.external + approved cost s.history ≤ weight s.external + approved cost s'.history + budget

theorem Within.of_same (hweight : weight s'.external ≤ weight s.external)
    (happroved : approved cost s'.history = approved cost s.history) (hbudget : 0 ≤ budget) :
    Within weight cost budget s s' := by
  rw [Within, happroved]
  exact (add_le_add_left hweight _).trans (le_add_of_nonneg_right hbudget)

theorem Within.trans {mid : State cfg} (h : Within weight cost budget s mid)
    (h' : Within weight cost budget' mid s') : Within weight cost (budget + budget') s s' := by
  have hsum := add_le_add h h'
  have hleft : weight mid.external + approved cost s.history + (weight s'.external + approved cost mid.history) =
      weight s'.external + approved cost s.history + (weight mid.external + approved cost mid.history) := by
    ac_rfl
  have hright : weight s.external + approved cost mid.history + budget +
      (weight mid.external + approved cost s'.history + budget') =
      weight s.external + approved cost s'.history + (budget + budget') +
        (weight mid.external + approved cost mid.history) := by
    ac_rfl
  rw [hleft, hright] at hsum
  exact le_of_add_le_add_right hsum

theorem Within.trans_zero {mid : State cfg} (h : Within weight cost 0 s mid)
    (h' : Within weight cost budget mid s') : Within weight cost budget s s' := by
  have htrans := h.trans h'
  rwa [zero_add] at htrans

/-! ### What a call does -/

theorem commitVote_within {who : AccountId} {nonce : DepositNonce} {srcId : ChainId} {prop : Call cfg.Effect}
    {inFavour : Bool} (h : commitVote who nonce srcId prop inFavour s = .ok s') : Within weight cost 0 s s' := by
  obtain ⟨-, -, rfl⟩ := commitVote_eq_ok.mp h
  refine .of_same (le_refl _) ?_ (le_refl _)
  exact zero_add (approved cost s.history)

/-- A proposal that is dispatched has been approved with what is written in it. -/
theorem tryResolveProposal_within {dispatch : State cfg → Result (State cfg)} {nonce : DepositNonce}
    {srcId : ChainId} {prop : Call cfg.Effect}
    (hdispatch : ∀ s s', dispatch s = .ok s' → Within weight cost (prop.cost cost) s s')
    (h : tryResolveProposal dispatch nonce srcId prop s = .ok s') : Within weight cost 0 s s' := by
  obtain ⟨votes, -, -, hrest⟩ := tryResolveProposal_eq_ok.mp h
  split at hrest
  · rename_i hreached
    have hwithin := hdispatch _ _ hrest
    have hhistory : approved cost (s.resolved (srcId, nonce, prop) votes).history =
        prop.cost cost + approved cost s.history := by
      rw [State.resolved, if_pos hreached]
      rfl
    rw [Within, hhistory] at hwithin
    have hleft : weight s'.external + (prop.cost cost + approved cost s.history) =
        weight s'.external + approved cost s.history + prop.cost cost := by
      ac_rfl
    rw [hleft] at hwithin
    rw [Within, add_zero]
    exact le_of_add_le_add_right hwithin
  · rename_i hnot
    refine .of_same ?_ ?_ (le_refl _)
    · rw [hrest, State.resolved]
    · rw [hrest, State.resolved, if_neg hnot]

/-- A call adds to the weight what is written in it and what is approved meanwhile. -/
theorem dispatch_within (hr : ReservedForBridge cfg weight cost) (c : Call cfg.Effect) :
    ∀ {origin : Origin} {s s' : State cfg}, dispatch c origin s = .ok s' →
      Within weight cost (c.cost cost) s s' := by
  induction c with
  | setThreshold threshold =>
      intro origin s s' h
      simp only [dispatch, setRelayerThreshold, bind_eq_ok, pure_eq_ok] at h
      obtain ⟨-, -, -, -, rfl⟩ := h
      exact .of_same (le_refl _) rfl (le_refl _)
  | setResource id method =>
      intro origin s s' h
      simp only [dispatch, setResource, bind_eq_ok] at h
      obtain ⟨-, -, h⟩ := h
      obtain rfl : registerResource id method s = s' := by
        split at h
        · simp only [bind_eq_ok, pure_eq_ok] at h
          obtain ⟨-, -, -, -, h⟩ := h
          exact h
        · simpa using h
      exact .of_same (le_refl _) rfl (le_refl _)
  | removeResource id =>
      intro origin s s' h
      simp only [dispatch, bind_eq_ok, pure_eq_ok] at h
      obtain ⟨-, -, rfl⟩ := h
      exact .of_same (le_refl _) rfl (le_refl _)
  | whitelistChain id =>
      intro origin s s' h
      simp only [dispatch, whitelist, bind_eq_ok, pure_eq_ok] at h
      obtain ⟨-, -, -, -, -, -, rfl⟩ := h
      exact .of_same (le_refl _) rfl (le_refl _)
  | addRelayer v =>
      intro origin s s' h
      simp only [dispatch, registerRelayer, bind_eq_ok, pure_eq_ok] at h
      obtain ⟨-, -, -, -, rfl⟩ := h
      exact .of_same (le_refl _) rfl (le_refl _)
  | removeRelayer v =>
      intro origin s s' h
      simp only [dispatch, unregisterRelayer, bind_eq_ok, pure_eq_ok] at h
      obtain ⟨-, -, -, -, rfl⟩ := h
      exact .of_same (le_refl _) rfl (le_refl _)
  | acknowledgeProposal nonce srcId rId evmHash call ih =>
      intro origin s s' h
      simp only [dispatch, voteFor, bind_eq_ok] at h
      obtain ⟨who, -, -, -, mid, hcommit, hresolve⟩ := h
      exact (commitVote_within hcommit).trans_zero (tryResolveProposal_within (fun _ _ => ih) hresolve)
  | rejectProposal nonce srcId rId call ih =>
      intro origin s s' h
      simp only [dispatch, voteAgainst, bind_eq_ok] at h
      obtain ⟨who, -, -, -, mid, hcommit, hresolve⟩ := h
      exact (commitVote_within hcommit).trans_zero (tryResolveProposal_within (fun _ _ => ih) hresolve)
  | evalVoteState nonce srcId prop ih =>
      intro origin s s' h
      simp only [dispatch, bind_eq_ok] at h
      obtain ⟨-, -, hresolve⟩ := h
      exact tryResolveProposal_within (fun _ _ => ih) hresolve
  | transferOut destId =>
      intro origin s s' h
      simp only [dispatch, bind_eq_ok, pure_eq_ok] at h
      obtain ⟨-, -, rfl⟩ := h
      exact .of_same (le_refl _) rfl (le_refl _)
  | other effect =>
      intro origin s s' h
      simp only [dispatch, bind_eq_ok, pure_eq_ok] at h
      obtain ⟨external, hperform, rfl⟩ := h
      have hweight := add_le_add_left (hr.bridge _ _ _ _ hperform) (approved cost s.history)
      rwa [add_right_comm] at hweight
  | both first second ihfirst ihsecond =>
      intro origin s s' h
      simp only [dispatch, bind_eq_ok] at h
      obtain ⟨mid, hfirst, hsecond⟩ := h
      exact (ihfirst hfirst).trans (ihsecond hsecond)
  | dispatchAs as call ih =>
      intro origin s s' h
      exact ih h
  | attempt as call ih =>
      intro origin s s' h
      simp only [dispatch] at h
      split at h
      · rename_i mid hmid
        obtain rfl := Except.ok.inj h
        exact ih hmid
      · obtain rfl := Except.ok.inj h
        exact .of_same (le_refl _) rfl (call.cost_nonneg hr.nonneg)
      · simp at h

/-- A call that is not one of the bridge adds to the weight what is approved meanwhile. -/
theorem dispatch_within_approved (hr : ReservedForBridge cfg weight cost) (c : Call cfg.Effect) :
    ∀ {origin : Origin} {s s' : State cfg}, origin ≠ .signed cfg.accountId → c.actsAs cfg.accountId = false →
      dispatch c origin s = .ok s' → Within weight cost 0 s s' := by
  induction c with
  | other effect =>
      intro origin s s' horigin hacts h
      simp only [dispatch, bind_eq_ok, pure_eq_ok] at h
      obtain ⟨external, hperform, rfl⟩ := h
      exact .of_same (hr.others _ _ _ _ hperform horigin) rfl (le_refl _)
  | both first second ihfirst ihsecond =>
      intro origin s s' horigin hacts h
      simp only [dispatch, bind_eq_ok] at h
      obtain ⟨mid, hfirst, hsecond⟩ := h
      simp only [Call.actsAs, Bool.or_eq_false_iff] at hacts
      exact (ihfirst horigin hacts.1 hfirst).trans_zero (ihsecond horigin hacts.2 hsecond)
  | dispatchAs as call ih =>
      intro origin s s' horigin hacts h
      simp only [Call.actsAs, Bool.or_eq_false_iff, decide_eq_false_iff_not] at hacts
      exact ih hacts.1 hacts.2 h
  | attempt as call ih =>
      intro origin s s' horigin hacts h
      simp only [Call.actsAs, Bool.or_eq_false_iff, decide_eq_false_iff_not] at hacts
      simp only [dispatch] at h
      split at h
      · rename_i mid hmid
        obtain rfl := Except.ok.inj h
        exact ih hacts.1 hacts.2 hmid
      · obtain rfl := Except.ok.inj h
        exact .of_same (le_refl _) rfl (le_refl _)
      · simp at h
  | _ =>
      -- Nothing is written in any other call.
      intro origin s s' horigin hacts h
      exact dispatch_within hr _ h

end Approved

/-! ### Runs -/

section Runs

variable [PartialOrder M] {weight : cfg.External → M}

/-- A step of the chain in which the account of the bridge signs nothing, and nothing is dispatched as it. -/
inductive PublicStep (weight : cfg.External → M) : State cfg → State cfg → Prop
  | call {s s' : State cfg} (c : Call cfg.Effect) (origin : Origin) (horigin : origin ≠ .signed cfg.accountId)
      (hacts : c.actsAs cfg.accountId = false) (h : dispatch c origin s = .ok s') : PublicStep weight s s'
  | block (s : State cfg) (external : cfg.External) (h : weight external ≤ weight s.external) :
      PublicStep weight s { s with now := (s.now + 1) % 2 ^ 32, external }

theorem PublicStep.step (h : PublicStep weight s s') : Step s s' := by
  cases h with
  | call c origin horigin hacts h => exact .call c origin h
  | block external h => exact .block s external

theorem run_publicSteps {calls : List (Call cfg.Effect × Origin)}
    (hcalls : ∀ c ∈ calls, c.2 ≠ .signed cfg.accountId ∧ c.1.actsAs cfg.accountId = false)
    (h : run calls s = .ok s') : ReflTransGen (PublicStep weight) s s' := by
  refine foldlM_invariant_mem (ReflTransGen (PublicStep weight) s) (fun c hc mid mid' hmid hnext => ?_) .refl h
  obtain ⟨horigin, hacts⟩ := hcalls c hc
  exact hmid.tail (.call c.1 c.2 horigin hacts hnext)

/-- What the bridge has added to the weight was approved. -/
theorem publicSteps_within [AddCommMonoid M] [IsOrderedCancelAddMonoid M] {cost : cfg.Effect → M}
    (hr : ReservedForBridge cfg weight cost) (h : ReflTransGen (PublicStep weight) s s') :
    Within weight cost 0 s s' := by
  induction h with
  | refl => exact .of_same (le_refl _) rfl (le_refl _)
  | tail _ hlast ih =>
      refine ih.trans_zero ?_
      cases hlast with
      | call c origin horigin hacts h => exact dispatch_within_approved hr c horigin hacts h
      | block external h => exact .of_same h rfl (le_refl _)

end Runs

end Fusotao.ChainBridge
