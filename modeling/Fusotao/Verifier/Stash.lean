import Fusotao.Verifier.Moves
import Fusotao.Verifier.Plain

/-!
# Deposits on their way in

While a deposit waits for its proof, its amount is in the stash and its receipt says how much that is. Only
the proof that rejects a deposit drops the receipt alone.
-/

namespace Fusotao.Verifier

open Exec Word MerkleLeaf
open Token (alice)

variable {cfg : Config} {s s' : State cfg} {d : AccountId}

/-! ### Evictions -/

def isEvicted (d : AccountId) (s : State cfg) : Prop :=
  ∃ dominator, s.dominators.lookup d = some dominator ∧ dominator.status = .evicted

theorem not_isEvicted_of_status {dominator : Dominator}
    (hlookup : s.dominators.lookup d = some dominator) (hstatus : dominator.status ≠ .evicted) :
    ¬ isEvicted d s := by
  rintro ⟨old, hold, hevicted⟩
  obtain rfl := Option.some.inj (hlookup.symm.trans hold)
  exact hstatus hevicted

/-- An eviction is for ever. -/
theorem Move.isEvicted (h : Move s s') (hevicted : isEvicted d s) : isEvicted d s' := by
  obtain ⟨dominator, hlookup, hstatus⟩ := hevicted
  obtain ⟨dominator', hlookup', -, hevicted⟩ := h.lookup hlookup
  exact ⟨dominator', hlookup', hevicted hstatus⟩

/-! ### Stashes and receipts -/

/-- A deposit was rejected, and its amount stays in the stash. -/
def Entry.dropsDeposit {Callback : Type} (d : AccountId) : Entry Callback → Bool
  | .rejected d' _ (.authorize _ amount _) => d' = d ∧ amount ≠ 0
  | _ => false

def NoDroppedDeposit {Callback : Type} (d : AccountId) (history : List (Entry Callback)) : Prop :=
  ∀ entry ∈ history, entry.dropsDeposit d = false

theorem NoDroppedDeposit.of_prefix {Callback : Type} {l l' : List (Entry Callback)}
    (h : NoDroppedDeposit d l') (hpart : l <+: l') : NoDroppedDeposit d l :=
  fun entry hmem => h entry (hpart.subset hmem)

/-- The amount of a token that is on its way in. -/
def depositOf {Callback : Type} (receipt : Option (Receipt Callback)) (token : TokenId) : Nat :=
  match receipt with
  | some (.authorize t amount _) => if t = token then amount.toNat else 0
  | _ => 0

theorem depositOf_revoke {token t : TokenId} {amount : U128} {r : Receipt cfg.Call}
    (h : IsRevokeReceipt token amount r) : depositOf (some r) t = 0 := by
  cases r with
  | authorize => exact h.elim
  | _ => rfl

def stashOf (d owner : AccountId) (token : TokenId) (s : State cfg) : Nat :=
  amounts s.reserves ((.authorizingStash, owner, token), d)

/-- The stash of an owner at `d` is what the receipt says. -/
def StashExact (d : AccountId) (s : State cfg) : Prop :=
  ∀ owner token, stashOf d owner token s = depositOf (s.receipts (d, owner)) token

/-- Neither a stash nor the deposit of a receipt changes. -/
theorem StashExact.of_same (hinv : StashExact d s)
    (hstash : ∀ owner token, stashOf d owner token s' = stashOf d owner token s)
    (hreceipts : ∀ owner token,
      depositOf (s'.receipts (d, owner)) token = depositOf (s.receipts (d, owner)) token) :
    StashExact d s' := by
  intro owner token
  rw [hstash, hreceipts]
  exact hinv owner token

/-- A record of another kind is written. -/
theorem stashOf_update {kind : ReserveId} {who other : AccountId} {token : TokenId} {v : Nat}
    (hkind : kind ≠ .authorizingStash)
    (h : amounts s'.reserves = Function.update (amounts s.reserves) ((kind, who, token), other) v)
    (owner : AccountId) (t : TokenId) : stashOf d owner t s' = stashOf d owner t s := by
  rw [stashOf, h, Function.update_of_ne (by simp [hkind.symm])]
  rfl

/-- A receipt that is no deposit goes, or comes. -/
theorem depositOf_update {receipts receipts' : StorageMap (AccountId × AccountId) (Receipt cfg.Call)}
    {d' user : AccountId} {r : Option (Receipt cfg.Call)}
    (h : receipts' = Function.update receipts (d', user) r)
    (hsame : ∀ token, depositOf r token = depositOf (receipts (d', user)) token) (owner : AccountId)
    (token : TokenId) : depositOf (receipts' (d, owner)) token = depositOf (receipts (d, owner)) token := by
  rw [h, Function.update_apply]
  split
  · rename_i heq
    rw [hsame, heq]
  · rfl

theorem StashExact.authorizeTo (hinv : StashExact d s) {owner d' : AccountId} {token : TokenId}
    {amount : U128} (h : authorizeTo owner d' token amount s = .ok s') : StashExact d s' := by
  obtain ⟨-, hnone, mid, hmid, rfl⟩ := authorizeTo_eq_ok h
  obtain ⟨-, hreserves, -⟩ := reserve_eq_ok hmid
  intro owner' t
  have hold := hinv owner' t
  simp only [stashOf, hreserves, StorageMap.insert_apply, Function.update_apply] at hold ⊢
  by_cases hkey : (d, owner') = (d', owner)
  · obtain ⟨rfl, rfl⟩ := Prod.mk.inj hkey
    rw [hnone] at hold
    have hzero := hinv owner' token
    rw [hnone] at hzero
    simp only [stashOf, depositOf] at hzero hold
    by_cases ht : t = token
    · subst ht
      simp [depositOf, hzero]
    · simp [depositOf, hold, ht, Ne.symm ht]
  · rw [if_neg hkey, if_neg]
    · exact hold
    · intro heq
      exact hkey (Prod.ext (congrArg Prod.snd heq) (congrArg (fun key => key.1.2.1) heq))

/-- Only an evicted dominator gives a stash back with what is authorised. -/
theorem StashExact.revokeFrom (hinv : StashExact d s) (hnot : ¬ isEvicted d s) {owner d' : AccountId}
    {token : TokenId} {wanted : Option U128} {callback : Option cfg.Call}
    (h : revokeFrom owner d' token wanted callback s = .ok s') : StashExact d s' := by
  obtain rfl | ⟨dominator, amount, hlookup, -, -, ⟨hevicted, mid, last, hmid, hlast, rfl⟩ |
    ⟨-, hnone, receipt, hreceipt, rfl⟩⟩ := revokeFrom_eq_ok h
  · exact hinv
  · have hd : d ≠ d' := by
      rintro rfl
      exact hnot ⟨dominator, hlookup, hevicted⟩
    obtain ⟨-, hreserves⟩ := mergeStash_eq_ok hmid
    obtain ⟨-, -, hreserves', -⟩ := unreserve_eq_ok hlast
    refine hinv.of_same (fun owner' t => ?_) fun owner' t => ?_
    · rw [stashOf, hreserves', hreserves, Function.update_of_ne (by simp),
        Function.update_of_ne (by simp), Function.update_of_ne (by simp [hd])]
      rfl
    · dsimp only
      rw [StorageMap.remove_of_ne s.receipts (show (d, owner') ≠ (d', owner) by simp [hd])]
  · refine hinv.of_same (fun _ _ => rfl) (depositOf_update rfl fun t => ?_)
    rw [hnone, depositOf_revoke hreceipt]
    rfl

/-- A proved deposit takes the stash and the receipt with it. -/
theorem StashExact.applied (hinv : StashExact d s) {d' : AccountId} {proof : ProofV2}
    (h : Applied d' proof s s') : StashExact d s' := by
  cases h with
  | limit side price amount makerFee takerFee base quote broker beneficiary season trade hcmd h =>
      refine hinv.of_same (fun owner t => ?_) fun owner t => by rw [applyLimit_frame h]
      rw [stashOf, amounts, applyLimit_elsewhere h (.inl (by simp))]
      rfl
  | cancel base quote unfilled external hcmd h hs' =>
      subst hs'
      exact hinv
  | transferOut currency amount callback hcmd h =>
      obtain ⟨r, hr, hrevoke, -, mid, hmid, rfl⟩ := applyTransferOut_eq_ok h
      obtain ⟨-, -, hreserves, -⟩ := unreserve_eq_ok hmid
      refine hinv.of_same (fun owner t => ?_) (depositOf_update rfl fun t => ?_)
      · have hmid : stashOf d owner t mid = _ := stashOf_update (by decide) hreserves owner t
        exact hmid
      · rw [hr, depositOf_revoke hrevoke]
        rfl
  | transferIn currency amount hcmd h =>
      obtain ⟨⟨block, hr⟩, -, hframe, hreserves⟩ := applyTransferIn_eq_ok h
      have hreceipts : s'.receipts = s.receipts.remove (d', proof.userId) := by rw [hframe]
      intro owner t
      have hold := hinv owner t
      rw [stashOf] at hold ⊢
      rw [hreserves, Function.update_of_ne (by simp), hreceipts, StorageMap.remove_apply,
        Function.update_apply]
      by_cases hkey : (d, owner) = (d', proof.userId)
      · obtain ⟨rfl, rfl⟩ := Prod.mk.inj hkey
        rw [hr] at hold
        rw [if_pos rfl]
        by_cases ht : t = currency
        · subst ht
          simp [depositOf]
        · rw [if_neg (by simp [ht]), hold]
          simp [depositOf, Ne.symm ht]
      · rw [if_neg hkey, if_neg]
        · exact hold
        · intro heq
          exact hkey (Prod.ext (congrArg Prod.snd heq) (congrArg (fun key => key.1.2.1) heq))

/-- Every move keeps the stashes of a dominator exact, until it is evicted or rejects a deposit. -/
theorem StashExact.move (hinv : StashExact d s) (h : Move s s') (hnot : ¬ isEvicted d s)
    (hdropped : NoDroppedDeposit d s'.history) : StashExact d s' := by
  cases h.funds with
  | same h => exact hinv.of_same (fun _ _ => h.records (.inr rfl)) fun owner t => by rw [h.receipts]
  | authorize owner d' token amount h => exact hinv.authorizeTo h
  | revoke owner d' token wanted callback h => exact hinv.revokeFrom hnot h
  | apply d' dominator proof mid hlookup hopenings h hs' =>
      rw [hs']
      exact (hinv.applied h).of_same (fun _ _ => rfl) fun _ _ => rfl
  | reject d' proof r hr hs' =>
      rw [hs'] at hdropped ⊢
      refine hinv.of_same (fun _ _ => rfl) fun owner t => ?_
      by_cases hd : d = d'
      · subst hd
        refine depositOf_update rfl (fun t => ?_) owner t
        rw [hr]
        cases r with
        | authorize token amount block =>
            have hentry := hdropped _ (List.mem_append_right _ (List.mem_singleton_self _))
            have hzero : amount = 0 := by simpa [Entry.dropsDeposit] using hentry
            simp [depositOf, hzero]
        | _ => rfl
      · simp only [dropReceipt]
        rw [StorageMap.remove_of_ne s.receipts (show (d, owner) ≠ (d', proof.userId) by simp [hd])]

theorem stashExact_of_visited (h : Visited s) (hdropped : NoDroppedDeposit d s.history)
    (hnot : ¬ isEvicted d s) : StashExact d s := by
  refine h.invariant (fun s => NoDroppedDeposit d s.history → ¬ isEvicted d s → StashExact d s) ?_ ?_
    hdropped hnot
  · rintro s ⟨asset, external, rfl⟩ - - owner token
    rfl
  · intro s s' ih hmove hdropped hnot
    have hnot' : ¬ isEvicted d s := fun h => hnot (hmove.isEvicted h)
    exact (ih (hdropped.of_prefix hmove.history) hnot').move hmove hnot' hdropped

/-- In every run in which a dominator rejects no deposit, the stash of an owner is the amount in the receipt
of the deposit, and nothing without one. -/
theorem stash_exact {dominator : Dominator} (h : Transition.Reachable Init Step s)
    (hdropped : NoDroppedDeposit d s.history) (hd : s.dominators.lookup d = some dominator)
    (hnot : dominator.status ≠ .evicted) (owner : AccountId) :
    (∀ token amount block, s.receipts (d, owner) = some (.authorize token amount block) →
      reserveOf s.reserves .authorizingStash owner token d = amount ∧
        ∀ t, t ≠ token → reserveOf s.reserves .authorizingStash owner t d = 0) ∧
    ((∀ token amount block, s.receipts (d, owner) ≠ some (.authorize token amount block)) →
      ∀ t, reserveOf s.reserves .authorizingStash owner t d = 0) := by
  have hexact : ∀ t, (reserveOf s.reserves .authorizingStash owner t d).toNat =
      depositOf (s.receipts (d, owner)) t :=
    stashExact_of_visited (visited_of_reachable h) hdropped (not_isEvicted_of_status hd hnot) owner
  constructor
  · intro token amount block hreceipt
    rw [hreceipt] at hexact
    refine ⟨BitVec.eq_of_toNat_eq ?_, fun t ht => BitVec.eq_of_toNat_eq ?_⟩
    · simpa [depositOf] using hexact token
    · simpa [depositOf, Ne.symm ht] using hexact t
  · intro hnone t
    apply BitVec.eq_of_toNat_eq
    rw [hexact t]
    cases hreceipt : s.receipts (d, owner) with
    | none => rfl
    | some r =>
        cases r with
        | authorize token amount block => exact absurd hreceipt (hnone token amount block)
        | _ => rfl

/-! ### A deposit that is rejected -/

/-- A deposit of `10` waits for its proof. -/
def authorizeRun : List (Action (plainConfig [])) :=
  onlineRun _ ++ [.call 1 (.authorize operator 0 10) (.signed alice)]

def rejectRun : List (Action (plainConfig [])) := authorizeRun ++ [
  .call 1 (.verifyV2 [proofOf [] emptyRoot emptyRoot alice .rejectTransferIn
    [leafFrom (keyOfAccount 0 alice) (0, 0) (0, 0)]]) (.signed operator)]

theorem stash_exact_authorize : ∃ s : State (plainConfig []), Transition.Reachable Init Step s ∧
    reserveOf s.reserves .authorizingStash alice 0 operator = 10 := by
  obtain ⟨s, hs, hcheck⟩ := exists_of_succeedsWith
    (x := play authorizeRun (.genesis (plainAssets 100) ()))
    (p := fun s => decide ((s.dominators.lookup operator).map Dominator.status = some .active) &&
      (s.history.all fun entry => !entry.dropsDeposit operator) &&
      (s.receipts (operator, alice)).any (Receipt.isAuthorize 0 10)) (by decide +kernel)
  simp only [Bool.and_eq_true, decide_eq_true_eq, List.all_eq_true, Bool.not_eq_true'] at hcheck
  obtain ⟨⟨hstatus, hdropped⟩, hreceipt⟩ := hcheck
  obtain ⟨dominator, hd, hstatus⟩ := Option.map_eq_some_iff.mp hstatus
  have hreach := reachable_of_play hs
  refine ⟨s, hreach, ?_⟩
  cases hr : s.receipts (operator, alice) with
  | none => exact absurd hreceipt (by simp [hr])
  | some r =>
      rw [hr, Option.any_some] at hreceipt
      cases r with
      | authorize token amount block =>
          obtain ⟨rfl, rfl⟩ : token = 0 ∧ amount = 10 := by
            simpa [Receipt.isAuthorize] using hreceipt
          exact ((stash_exact hreach hdropped hd (by simp [hstatus]) alice).1 0 10 block hr).1
      | _ => exact absurd hreceipt (by simp [Receipt.isAuthorize])

/-- The receipt is gone, and the stash is not. -/
theorem rejection_strands_stash : ∃ (s : State (plainConfig [])) (dominator : Dominator),
    Transition.Reachable Init Step s ∧ s.dominators.lookup operator = some dominator ∧
    dominator.status = .active ∧ s.receipts (operator, alice) = none ∧
    reserveOf s.reserves .authorizingStash alice 0 operator = 10 := by
  obtain ⟨s, hs, hcheck⟩ := exists_of_succeedsWith
    (x := play rejectRun (.genesis (plainAssets 100) ()))
    (p := fun s => decide ((s.dominators.lookup operator).map Dominator.status = some .active) &&
      (s.receipts (operator, alice)).isNone &&
      decide (reserveOf s.reserves .authorizingStash alice 0 operator = 10)) (by decide +kernel)
  simp only [Bool.and_eq_true, decide_eq_true_eq, Option.isNone_iff_eq_none] at hcheck
  obtain ⟨⟨hstatus, hnone⟩, hstash⟩ := hcheck
  obtain ⟨dominator, hd, hstatus⟩ := Option.map_eq_some_iff.mp hstatus
  exact ⟨s, dominator, reachable_of_play hs, hd, hstatus, hnone, hstash⟩

end Fusotao.Verifier
