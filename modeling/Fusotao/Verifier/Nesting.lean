import Fusotao.Base.Bounded
import Fusotao.Verifier.Calls
import Fusotao.Verifier.History
import Mathlib.Algebra.BigOperators.Finprod

/-!
# Nested callbacks end

The callback of a receipt is dispatched in the middle of a proof. It may be a batch of proofs itself, and these find
receipts with callbacks of their own. A receipt is dropped before its callback is dispatched, so every callback runs
once at most, and the calls that are stored with the receipts bound how deep calls nest.
-/

namespace Fusotao.Verifier

open Exec MerkleLeaf Token

open scoped BigOperators

variable {cfg : Config} {s s' : State cfg}

/-! ### The calls that are stored -/

/-- How many calls are stored with a receipt. -/
def Receipt.size (r : Receipt cfg.Call) : Nat := r.callback?.elim 0 Call.size

/-- How many calls are stored with the receipts. The sum over all keys is only reasoned about. -/
noncomputable def callbacksSize (receipts : StorageMap (AccountId × AccountId) (Receipt cfg.Call)) : Nat :=
  ∑ᶠ key, (receipts key).elim 0 Receipt.size

theorem callbacksSize_put (receipts : StorageMap (AccountId × AccountId) (Receipt cfg.Call))
    (key : AccountId × AccountId) (o : Option (Receipt cfg.Call)) :
    callbacksSize (receipts.put key o) + (receipts key).elim 0 Receipt.size =
      callbacksSize receipts + o.elim 0 Receipt.size := by
  have hput : (fun key' => (receipts.put key o key').elim 0 Receipt.size) =
      Function.update (fun key' => (receipts key').elim 0 Receipt.size) key (o.elim 0 Receipt.size) := by
    funext key'
    rw [StorageMap.put_apply, Function.update_apply]
    split <;> rfl
  rw [callbacksSize, callbacksSize, finsum_eq_sum_of_fintype, finsum_eq_sum_of_fintype, hput]
  exact sum_update_add (fun key' => (receipts key').elim 0 Receipt.size) key _

theorem callbacksSize_insert_le (receipts : StorageMap (AccountId × AccountId) (Receipt cfg.Call))
    (key : AccountId × AccountId) (r : Receipt cfg.Call) :
    callbacksSize (receipts.insert key r) ≤ callbacksSize receipts + r.size :=
  (Nat.le_add_right _ _).trans (callbacksSize_put receipts key (some r)).le

theorem callbacksSize_remove_le (receipts : StorageMap (AccountId × AccountId) (Receipt cfg.Call))
    (key : AccountId × AccountId) : callbacksSize (receipts.remove key) ≤ callbacksSize receipts :=
  (Nat.le_add_right _ _).trans (callbacksSize_put receipts key none).le

theorem callbacksSize_remove {receipts : StorageMap (AccountId × AccountId) (Receipt cfg.Call)}
    {key : AccountId × AccountId} {r : Receipt cfg.Call} (h : receipts key = some r) :
    callbacksSize (receipts.remove key) + r.size = callbacksSize receipts := by
  have hput := callbacksSize_put receipts key none
  rw [h] at hput
  exact hput

/-! ### What a call stores -/

section Receipts

variable {owner d : AccountId} {token : TokenId} {amount : U128}

theorem authorizeTo_callbacks (h : authorizeTo owner d token amount s = .ok s') :
    callbacksSize s'.receipts ≤ callbacksSize s.receipts := by
  obtain ⟨-, -, mid, -, rfl⟩ := authorizeTo_eq_ok h
  exact callbacksSize_insert_le _ _ _

/-- A withdrawal stores its callback at most. -/
theorem revokeFrom_callbacks {wanted : Option U128} {callback : Option cfg.Call}
    (h : revokeFrom owner d token wanted callback s = .ok s') :
    callbacksSize s'.receipts ≤ callbacksSize s.receipts + callback.elim 0 Call.size := by
  rcases revokeFrom_receipts h with hs' | hs' | ⟨r, rfl, hs'⟩
  · rw [hs']
    exact Nat.le_add_right _ _
  · rw [hs']
    exact (callbacksSize_remove_le _ _).trans (Nat.le_add_right _ _)
  · rw [hs']
    exact callbacksSize_insert_le _ _ _

end Receipts

section Proofs

variable {d beneficiary : AccountId} {season : Season} {claimAt : BlockNumber} {knownRoot : MerkleHash}
  {proof : ProofV2} {trade : Trade} {callback : Option cfg.Call}

/-- A receipt is dropped before its callback is dispatched. -/
theorem applyTransferOut_callbacks {currency : U32} {amount : U128}
    (h : applyTransferOut currency amount d proof s = .ok (callback, s')) :
    callbacksSize s'.receipts + callback.elim 0 Call.size = callbacksSize s.receipts := by
  simp only [applyTransferOut, bind_eq_ok, pure_eq_ok, Prod.mk.injEq] at h
  obtain ⟨r, hr, -, -, mid, hmid, rfl, rfl⟩ := h
  have hreceipts : mid.receipts = s.receipts := by
    rw [(unreserve_eq_ok hmid).1]
  change callbacksSize (mid.receipts.remove _) + r.size = _
  rw [hreceipts]
  exact callbacksSize_remove (receiptFor_eq_ok hr).1

theorem applyCommand_forward_callbacks
    (h : applyCommand d beneficiary season proof s = .ok (.forward trade callback s')) :
    callbacksSize s'.receipts + callback.elim 0 Call.size ≤ callbacksSize s.receipts := by
  unfold applyCommand at h
  cases hcmd : proof.cmd <;> simp only [hcmd, bind_eq_ok, pure_eq_ok, Prod.exists] at h
  case askLimit price amount makerFee takerFee base quote broker =>
    obtain ⟨trade', mid, hlimit, hforward⟩ := h
    obtain ⟨-, rfl, rfl⟩ := Outcome.forward.inj hforward
    rw [applyLimit_frame hlimit]
    exact Nat.le_refl _
  case bidLimit price amount makerFee takerFee base quote broker =>
    obtain ⟨trade', mid, hlimit, hforward⟩ := h
    obtain ⟨-, rfl, rfl⟩ := Outcome.forward.inj hforward
    rw [applyLimit_frame hlimit]
    exact Nat.le_refl _
  case cancel base quote =>
    obtain ⟨unfilled, -, hforward⟩ := h
    obtain ⟨-, rfl, rfl⟩ := Outcome.forward.inj hforward
    exact Nat.le_refl _
  case transferOut currency amount =>
    obtain ⟨callback', mid, hout, hforward⟩ := h
    obtain ⟨-, rfl, rfl⟩ := Outcome.forward.inj hforward
    exact (applyTransferOut_callbacks hout).le
  case transferIn currency amount =>
    obtain ⟨mid, hin, hforward⟩ := h
    obtain ⟨-, rfl, rfl⟩ := Outcome.forward.inj hforward
    rw [(applyTransferIn_eq_ok hin).2.2.1]
    exact callbacksSize_remove_le _ _
  all_goals simp at h

theorem applyCommand_stay_callbacks (h : applyCommand d beneficiary season proof s = .ok (.stay s')) :
    callbacksSize s'.receipts ≤ callbacksSize s.receipts := by
  rcases applyCommand_stay h with rfl | ⟨r, -, -, rfl⟩
  · exact Nat.le_refl _
  · exact callbacksSize_remove_le _ _

variable {call : cfg.Call → Origin → State cfg → Result (State cfg)}

theorem storeRoot_receipts (h : storeRoot d proof s = .ok s') : s'.receipts = s.receipts := by
  obtain ⟨dominator, -, rfl⟩ := storeRoot_eq_ok h
  rfl

/-- What the callback stores, it was itself stored as. -/
theorem dispatchCallback_callbacks
    (hcall : ∀ c origin s s', call c origin s = .ok s' →
      callbacksSize s'.receipts ≤ c.size + callbacksSize s.receipts)
    {user : AccountId} (h : dispatchCallback call user callback s = .ok s') :
    callbacksSize s'.receipts ≤ callbacksSize s.receipts + callback.elim 0 Call.size := by
  unfold dispatchCallback at h
  split at h
  · exact Except.ok.inj h ▸ Nat.le_refl _
  · split at h
    · rename_i hs
      rw [Nat.add_comm]
      exact Except.ok.inj h ▸ hcall _ _ _ _ hs
    · exact Except.ok.inj h ▸ Nat.le_add_right _ _
    · exact absurd h (by simp)

theorem verifyAndUpdate_callbacks
    (hcall : ∀ c origin s s', call c origin s = .ok s' →
      callbacksSize s'.receipts ≤ c.size + callbacksSize s.receipts)
    (h : verifyAndUpdate call d beneficiary knownRoot claimAt proof s = .ok (trade, s')) :
    callbacksSize s'.receipts ≤ callbacksSize s.receipts := by
  simp only [verifyAndUpdate, bind_eq_ok] at h
  obtain ⟨-, -, outcome, houtcome, h⟩ := h
  cases outcome with
  | stay last =>
      obtain ⟨-, rfl⟩ := Prod.mk.inj (pure_eq_ok.mp h)
      exact applyCommand_stay_callbacks houtcome
  | forward trade' callback mid =>
      simp only [bind_eq_ok, pure_eq_ok, Prod.mk.injEq] at h
      obtain ⟨last, hlast, last', hstore, -, rfl⟩ := h
      rw [storeRoot_receipts hstore]
      have hmid : (recordApplied d knownRoot proof mid).receipts = mid.receipts := rfl
      refine (dispatchCallback_callbacks hcall hlast).trans ?_
      rw [hmid]
      exact applyCommand_forward_callbacks houtcome

theorem verifyV2_callbacks
    (hcall : ∀ c origin s s', call c origin s = .ok s' →
      callbacksSize s'.receipts ≤ c.size + callbacksSize s.receipts)
    {proofs : List ProofV2} (h : verifyV2 call d proofs s = .ok s') :
    callbacksSize s'.receipts ≤ callbacksSize s.receipts := by
  simp only [verifyV2, verifyBatch, bind_eq_ok, okOr_eq_ok, pure_eq_ok] at h
  obtain ⟨dominator, -, -, -, batch, hbatch, rfl⟩ := h
  refine foldlM_invariant (fun batch : Batch cfg =>
    callbacksSize batch.state.receipts ≤ callbacksSize s.receipts) (fun batch proof batch' hmid hnext => ?_)
    (Nat.le_refl _) hbatch
  simp only [verifyNext, bind_eq_ok, pure_eq_ok, Prod.exists] at hnext
  obtain ⟨trade, mid, hverify, rfl⟩ := hnext
  exact (verifyAndUpdate_callbacks hcall hverify).trans hmid

end Proofs

theorem SingleEffect.callbacks {c : cfg.Call} {origin : Origin} (h : SingleEffect c origin s s') :
    callbacksSize s'.receipts ≤ c.size + callbacksSize s.receipts := by
  cases h with
  | other hfunds hproof hnow hout =>
      rw [hfunds.receipts]
      exact Nat.le_add_left _ _
  | authorize owner d token amount hacts h => exact (authorizeTo_callbacks h).trans (Nat.le_add_left _ _)
  | revoke owner d token wanted callback hacts hsize hcallback h =>
      have hstored := revokeFrom_callbacks h
      omega

/-- A call stores the calls that are written in it at most. -/
theorem dispatch_callbacks {depth : Nat} {c : cfg.Call} {origin : Origin} (h : dispatch depth c origin s = .ok s') :
    callbacksSize s'.receipts ≤ c.size + callbacksSize s.receipts := by
  induction depth generalizing c origin s s' with
  | zero => exact absurd h (by simp [dispatch])
  | succ depth ih =>
      by_cases hsingle : c.isSingle = true
      · exact (dispatch_single hsingle h).callbacks
      cases c <;> simp only [dispatch, bind_eq_ok] at h
      case verifyV2 proofs =>
        obtain ⟨d, -, h⟩ := h
        exact (verifyV2_callbacks (fun _ _ _ _ hcall => ih hcall) h).trans (Nat.le_add_left _ _)
      case both first second =>
        obtain ⟨mid, hfirst, hsecond⟩ := h
        have hmid := ih hfirst
        have hlast := ih hsecond
        simp only [Call.size]
        omega
      case dispatchAs origin' c =>
        have hcall := ih h
        simp only [Call.size]
        omega
      case attempt origin' c =>
        split at h
        · rename_i last hlast
          obtain rfl := Except.ok.inj h
          have hcall := ih hlast
          simp only [Call.size]
          omega
        · obtain rfl := Except.ok.inj h
          exact Nat.le_add_left _ _
        · exact absurd h (by simp)
      all_goals exact absurd rfl hsingle

/-! ### How deep a call goes -/

section Depth

variable {call call' : cfg.Call → Origin → State cfg → Result (State cfg)} {n : Nat}

/-- Two ways to dispatch come to the same, unless the first one gives up at a call that is larger than `n`, what is
stored included. -/
def AgreeUpTo (n : Nat) (call call' : cfg.Call → Origin → State cfg → Result (State cfg)) : Prop :=
  ∀ c origin s, SameUnless .panic (n < c.size + callbacksSize s.receipts) (call c origin s) (call' c origin s)

theorem AgreeUpTo.dispatchCallback (h : AgreeUpTo n call call') (user : AccountId)
    (callback : Option cfg.Call) (s : State cfg) :
    SameUnless .panic (n < callbacksSize s.receipts + callback.elim 0 Call.size)
      (dispatchCallback call user callback s) (dispatchCallback call' user callback s) := by
  cases callback with
  | none => exact .refl _
  | some c =>
      rcases h c (.signed user) s with hsame | ⟨hpanic, hlarge⟩
      · left
        rw [Verifier.dispatchCallback, Verifier.dispatchCallback, hsame]
      · right
        rw [Verifier.dispatchCallback, hpanic]
        exact ⟨rfl, Nat.add_comm _ _ ▸ hlarge⟩

theorem AgreeUpTo.verifyAndUpdate (h : AgreeUpTo n call call') (d beneficiary : AccountId)
    (knownRoot : MerkleHash) (claimAt : BlockNumber) (proof : ProofV2) (s : State cfg) :
    SameUnless .panic (n < callbacksSize s.receipts) (verifyAndUpdate call d beneficiary knownRoot claimAt proof s)
      (verifyAndUpdate call' d beneficiary knownRoot claimAt proof s) := by
  refine (SameUnless.refl _).bind fun u hopenings => (SameUnless.refl _).bind fun outcome houtcome => ?_
  cases outcome with
  | stay last => exact .refl _
  | forward trade callback mid =>
      refine ((h.dispatchCallback proof.userId callback _).mono fun hlarge => ?_).bind fun last hlast => .refl _
      have hstored := applyCommand_forward_callbacks houtcome
      exact hlarge.trans_le hstored

theorem AgreeUpTo.verifyV2 (h : AgreeUpTo n call call')
    (hcall : ∀ c origin s s', call c origin s = .ok s' →
      callbacksSize s'.receipts ≤ c.size + callbacksSize s.receipts)
    (d : AccountId) (proofs : List ProofV2) (s : State cfg) :
    SameUnless .panic (n < callbacksSize s.receipts) (verifyV2 call d proofs s) (verifyV2 call' d proofs s) := by
  refine (SameUnless.refl _).bind fun dominator hdominator => (SameUnless.refl _).bind fun u hactive => ?_
  refine SameUnless.bind ?_ fun batch hbatch => .refl _
  refine SameUnless.foldlM (c := fun batch : Batch cfg => n < callbacksSize batch.state.receipts)
    (fun batch proof => ?_) (fun batch proof batch' hnext hlarge => ?_) proofs _
  · exact (h.verifyAndUpdate ..).bind fun verified hverified => .refl _
  · simp only [verifyNext, bind_eq_ok, pure_eq_ok, Prod.exists] at hnext
    obtain ⟨trade, mid, hverify, rfl⟩ := hnext
    exact hlarge.trans_le (verifyAndUpdate_callbacks hcall hverify)

/-- A larger bound comes to the same, unless the smaller one is less than the calls that are written in the call and
stored with the receipts. -/
theorem dispatch_agree {n m : Nat} (hle : n ≤ m) : AgreeUpTo n (@dispatch cfg n) (dispatch m) := by
  induction n generalizing m with
  | zero =>
      intro c origin s
      right
      exact ⟨rfl, c.size_pos.trans_le (Nat.le_add_right _ _)⟩
  | succ n ih =>
      obtain ⟨m, rfl⟩ := Nat.exists_eq_succ_of_ne_zero (Nat.ne_zero_of_lt hle)
      have ih := ih (Nat.le_of_succ_le_succ hle)
      intro c origin s
      cases c
      case verifyV2 proofs =>
        refine (SameUnless.refl _).bind fun d hd => ?_
        refine (ih.verifyV2 (fun _ _ _ _ hcall => dispatch_callbacks hcall) d proofs s).mono fun hlarge => ?_
        simp only [Call.size]
        omega
      case both first second =>
        refine ((ih first origin s).mono fun hlarge => ?_).bind fun mid hmid =>
          (ih second origin mid).mono fun hlarge => ?_
        · simp only [Call.size]
          omega
        · have hstored := dispatch_callbacks hmid
          simp only [Call.size]
          omega
      case dispatchAs origin' call =>
        refine (ih call origin' s).mono fun hlarge => ?_
        simp only [Call.size]
        omega
      case attempt origin' call =>
        rcases ih call origin' s with hsame | ⟨hpanic, hlarge⟩
        · left
          simp only [dispatch, hsame]
        · right
          simp only [dispatch, hpanic, Call.size, true_and]
          omega
      all_goals exact .refl _

end Depth

/-! ### Runs -/

/-- How many calls are written in the calls of a run. -/
def callsSize (calls : List (cfg.Call × Origin)) : Nat := (calls.map fun call => call.1.size).sum

theorem callsSize_snoc (calls : List (cfg.Call × Origin)) (c : cfg.Call) (origin : Origin) :
    callsSize (calls ++ [(c, origin)]) = callsSize calls + c.size := by
  simp [callsSize]

/-- What is stored was written in the calls of the run. -/
theorem Included.callbacks {s₀ : State cfg} {calls : List (cfg.Call × Origin)} (hinit : Init s₀)
    (h : Included s₀ calls s) :
    callbacksSize s.receipts ≤ callsSize calls := by
  induction h with
  | start =>
      obtain ⟨asset, external, rfl⟩ := hinit
      simp [callbacksSize, State.genesis]
  | call hrun h ih =>
      have hstored := dispatch_callbacks h
      rw [callsSize_snoc]
      omega
  | block hrun external h ih =>
      rw [onInitialize_frame]
      exact ih

/-- Nested calls end. In every run, a call comes to one result for all bounds on the nesting from a number on: the
calls that are written in it and in all the calls of the run. With a smaller bound it gives up at most. -/
theorem nesting_ends {s₀ : State cfg} {calls : List (cfg.Call × Origin)} (hinit : Init s₀)
    (h : Included s₀ calls s)
    (c : cfg.Call) (origin : Origin) (depth : Nat) :
    SameUnless .panic (depth < c.size + callsSize calls) (dispatch depth c origin s)
      (dispatch (c.size + callsSize calls) c origin s) := by
  have hstored := h.callbacks hinit
  rcases Nat.le_total depth (c.size + callsSize calls) with hle | hle
  · apply (dispatch_agree hle c origin s).mono
    intro hlarge
    omega
  · have hsame := (dispatch_agree hle c origin s).eq (by omega)
    exact .inl hsame.symm

/-- Before the withdrawal whose callback brings in a deposit, the calls so far bound the nesting by nine. -/
theorem nesting_ends_reentry : ∃ (s₀ s : State reentryConfig) (calls : List (reentryConfig.Call × Origin)),
    Init s₀ ∧ Included s₀ calls s ∧ ∀ depth, SameUnless .panic (depth < 9)
      (dispatch depth (.verifyV2 [withdrawalProof]) (.signed operator) s)
      (dispatch 9 (.verifyV2 [withdrawalProof]) (.signed operator) s) := by
  obtain ⟨s, hs⟩ := exists_of_isOk
    (x := play reentryRun.dropLast (.genesis (plainAssets 100) ())) (by decide +kernel)
  have hinit : Init (.genesis (plainAssets 100) () : State reentryConfig) := ⟨_, _, rfl⟩
  have hrun := included_of_play hs
  exact ⟨_, s, _, hinit, hrun, nesting_ends hinit hrun (.verifyV2 [withdrawalProof]) (.signed operator)⟩

end Fusotao.Verifier
