import Fusotao.Verifier.Moves

/-!
# What single calls do

A call is made of further calls, or is a batch of proofs, or does one thing only. What single calls do to what owners
have with dominators is said once; a rule carries what they and the proofs keep over to all calls, however they nest.
-/

namespace Fusotao.Verifier

open Exec

variable {cfg : Config} {s s' : State cfg}

/-! ### Calls -/

/-- How many calls are written in a call, itself included. -/
def Call.size {Effect Op : Type} : Call Effect Op → Nat
  | .revokeWithCallback _ _ _ callback => callback.size + 1
  | .revokeFrom _ _ _ _ (some callback) => callback.size + 1
  | .both first second => first.size + second.size + 1
  | .dispatchAs _ call => call.size + 1
  | .attempt _ call => call.size + 1
  | _ => 1

theorem Call.size_pos {Effect Op : Type} (c : Call Effect Op) : 0 < c.size := by
  unfold Call.size
  split <;> exact Nat.succ_pos _

/-- A call deposits or withdraws for the owner, now or by the callback that is stored with it: because the owner has
signed it, or because another pallet does so for the owner. -/
def Call.actsFor {Effect Op : Type} (owner : AccountId) : Origin → Call Effect Op → Bool
  | origin, .authorize _ _ _ => origin = .signed owner
  | origin, .revoke _ _ _ => origin = .signed owner
  | origin, .revokeWithCallback _ _ _ callback => origin = .signed owner || callback.actsFor owner origin
  | _, .authorizeTo fundOwner _ _ _ => fundOwner = owner
  | _, .revokeFrom fundOwner _ _ _ (some callback) =>
      fundOwner = owner || callback.actsFor owner (.signed fundOwner)
  | _, .revokeFrom fundOwner _ _ _ none => fundOwner = owner
  | origin, .both first second => first.actsFor owner origin || second.actsFor owner origin
  | _, .dispatchAs origin call => call.actsFor owner origin
  | _, .attempt origin call => call.actsFor owner origin
  | _, _ => false

/-- A call that dispatches no other call. -/
def Call.isSingle {Effect Op : Type} : Call Effect Op → Bool
  | .verifyV2 _ | .both _ _ | .dispatchAs _ _ | .attempt _ _ => false
  | _ => true

/-! ### What single calls do -/

def Entry.isApplied {Callback : Type} : Entry Callback → Bool
  | .applied _ _ _ _ => true
  | _ => false

/-- What is written down on the way from one state to the other. -/
def Wrote (entries : List (Entry cfg.Call)) (s s' : State cfg) : Prop := s'.history = s.history ++ entries

/-- No proof is applied. -/
def NoProof (s s' : State cfg) : Prop := ∃ entries, Wrote entries s s' ∧ ∀ e ∈ entries, e.isApplied = false

theorem NoProof.of_same (h : s'.history = s.history) : NoProof s s' :=
  ⟨[], h.trans (List.append_nil _).symm, by simp⟩

theorem NoProof.of_append {entries : List (Entry cfg.Call)} {last : Entry cfg.Call}
    (h : s'.history = s.history ++ entries ++ [last]) (hentries : ∀ e ∈ entries, e.isApplied = false)
    (hlast : last.isApplied = false) : NoProof s s' := by
  refine ⟨entries ++ [last], h.trans (List.append_assoc ..), fun e he => ?_⟩
  rcases List.mem_append.mp he with he | he
  · exact hentries e he
  · rw [List.mem_singleton.mp he]
    exact hlast

theorem isApplied_settledEntries {staker d : AccountId} {dist : Distribution} {e : Entry cfg.Call}
    (he : e ∈ settledEntries staker d dist) : e.isApplied = false := by
  obtain ⟨season, -, rfl⟩ := List.mem_map.mp he
  rfl

theorem isApplied_stakedEntries {staker d : AccountId} {dist : Distribution} {e : Entry cfg.Call}
    (he : e ∈ stakedEntries staker d dist) : e.isApplied = false := by
  unfold stakedEntries at he
  split at he
  · exact isApplied_settledEntries he
  · exact absurd he List.not_mem_nil

/-- What a single call does to the storage of other pallets. -/
inductive Outward (e e' : cfg.External) : Prop
  | same (h : e' = e)
  | perform (effect : cfg.Effect) (origin : Origin) (h : cfg.perform effect origin e = .ok e')
  | beneficiary (who : AccountId) (proof : List UInt8) (beneficiary : AccountId)
      (h : cfg.validateBeneficiary who proof beneficiary e = .ok e')

/-- How a single call concerns what owners have with dominators. -/
inductive SingleEffect (c : cfg.Call) (origin : Origin) (s s' : State cfg) : Prop
  | other (hfunds : SameFunds s s') (hproof : NoProof s s') (hnow : s'.now = s.now)
      (hout : Outward s.external s'.external)
  | authorize (owner d : AccountId) (token : TokenId) (amount : U128) (hacts : c.actsFor owner origin = true)
      (h : authorizeTo owner d token amount s = .ok s')
  /-- The callback is a part of the call, and acts for nobody the call does not act for. -/
  | revoke (owner d : AccountId) (token : TokenId) (wanted : Option U128) (callback : Option cfg.Call)
      (hacts : c.actsFor owner origin = true) (hsize : callback.elim 0 Call.size < c.size)
      (hcallback : ∀ cb, callback = some cb → ∀ other, cb.actsFor other (.signed owner) = true →
        c.actsFor other origin = true)
      (h : revokeFrom owner d token wanted callback s = .ok s')

theorem ensureSigned_eq_ok {origin : Origin} {who : AccountId} (h : ensureSigned origin = .ok who) :
    origin = .signed who := by
  cases origin with
  | root => exact absurd h (by simp [ensureSigned])
  | signed signer => exact congrArg _ (Except.ok.inj h)

/-- The signature of the old beneficiary is checked if there is one. -/
theorem dominatorSetBeneficiary_outward {d beneficiary : AccountId} {proof : List UInt8}
    (h : dominatorSetBeneficiary d beneficiary proof s = .ok s') : Outward s.external s'.external := by
  simp only [dominatorSetBeneficiary, bind_eq_ok, ensure_eq_ok, exists_const] at h
  obtain ⟨-, h⟩ := h
  split at h
  · obtain ⟨external, hvalidate, hs'⟩ := bind_eq_ok.mp h
    rw [← pure_eq_ok.mp hs']
    exact .beneficiary _ _ _ hvalidate
  · obtain ⟨external, hexternal, hs'⟩ := bind_eq_ok.mp h
    rw [← pure_eq_ok.mp hs', ← pure_eq_ok.mp hexternal]
    exact .same rfl

theorem dispatch_single {depth : Nat} {c : cfg.Call} {origin : Origin} (hsingle : c.isSingle = true)
    (h : dispatch depth c origin s = .ok s') : SingleEffect c origin s s' := by
  cases depth with
  | zero => exact absurd h (by simp [dispatch])
  | succ depth =>
  cases c <;> simp only [dispatch, bind_eq_ok, pure_eq_ok, Prod.exists] at h
  case register identifier =>
    obtain ⟨d, -, h⟩ := h
    obtain ⟨-, dominator, -, -, -, -, rfl⟩ := register_eq_ok h
    exact .other ⟨fun _ => rfl, rfl⟩ (.of_same rfl) rfl (.same rfl)
  case evict dominatorId =>
    obtain ⟨-, -, h⟩ := h
    obtain ⟨dominator, -, rfl⟩ := evict_eq_ok h
    exact .other ⟨fun _ => rfl, rfl⟩ (.of_same rfl) rfl (.same rfl)
  case launch dominatorId =>
    obtain ⟨-, -, h⟩ := h
    obtain ⟨dominator, -, -, rfl⟩ := launch_eq_ok h
    exact .other ⟨fun _ => rfl, rfl⟩ (.of_same rfl) rfl (.same rfl)
  case dominatorSetBeneficiary beneficiary proof =>
    obtain ⟨d, -, h⟩ := h
    have hout := dominatorSetBeneficiary_outward h
    rw [dominatorSetBeneficiary_eq_ok h]
    exact .other ⟨fun _ => rfl, rfl⟩ (.of_same rfl) rfl hout
  case stake dominator amount =>
    obtain ⟨staker, -, h⟩ := h
    obtain ⟨dominator, -, -, hs', hreserves⟩ := stakeOn_effects h
    refine .other (.of_update (by decide) (by decide) hreserves (by rw [hs'])) ?_ (by rw [hs']) (.same (by rw [hs']))
    exact .of_append (by rw [hs']) (fun _ he => isApplied_stakedEntries he) rfl
  case unstake dominator amount =>
    obtain ⟨staker, -, h⟩ := h
    obtain ⟨dominator, -, -, staked, -, staking, -, remain, -, pending, -, hs', -, hreserves⟩ :=
      unstakeFrom_effects h
    refine .other ⟨fun {key} hkey => ?_, by rw [hs']⟩
      (.of_append (by rw [hs']) (fun _ he => isApplied_settledEntries he) rfl) (by rw [hs']) (.same (by rw [hs']))
    rw [hreserves, Function.update_of_ne, Function.update_of_ne]
    · rintro rfl
      simp at hkey
    · rintro rfl
      simp at hkey
  case claimShares dominator =>
    obtain ⟨staker, -, h⟩ := h
    obtain ⟨dominator, -, staking, -, hs'⟩ := claimShares_effects h
    rw [hs']
    exact .other ⟨fun _ => rfl, rfl⟩ ⟨_, rfl, fun _ he => isApplied_settledEntries he⟩ rfl (.same rfl)
  case authorize dominator tokenId amount =>
    obtain ⟨owner, hsigned, h⟩ := h
    obtain rfl := ensureSigned_eq_ok hsigned
    exact .authorize owner _ _ _ (by simp [Call.actsFor]) h
  case authorizeTo owner dex tokenId amount => exact .authorize owner _ _ _ (by simp [Call.actsFor]) h
  case revoke dominator tokenId amount =>
    obtain ⟨owner, hsigned, h⟩ := h
    obtain rfl := ensureSigned_eq_ok hsigned
    exact .revoke owner _ _ _ none (by simp [Call.actsFor]) (Call.size_pos _) (by simp) h
  case revokeWithCallback dominator tokenId amount callback =>
    obtain ⟨owner, hsigned, h⟩ := h
    obtain rfl := ensureSigned_eq_ok hsigned
    refine .revoke owner _ _ _ (some callback) (by simp [Call.actsFor]) (by simp [Call.size]) ?_ h
    intro cb hcb other hother
    obtain rfl := Option.some.inj hcb
    simp [Call.actsFor, hother]
  case revokeFrom owner dominatorId tokenId amount callback =>
    cases callback with
    | none => exact .revoke owner _ _ _ none (by simp [Call.actsFor]) (Call.size_pos _) (by simp) h
    | some callback =>
        refine .revoke owner _ _ _ (some callback) (by simp [Call.actsFor]) (by simp [Call.size]) ?_ h
        intro cb hcb other hother
        obtain rfl := Option.some.inj hcb
        simp [Call.actsFor, hother]
  case transfer token target amount =>
    obtain ⟨sender, -, paid, asset, -, rfl⟩ := h
    exact .other ⟨fun _ => rfl, rfl⟩ (.of_same rfl) rfl (.same rfl)
  case transferToken sender token amount target =>
    obtain ⟨paid, asset, -, rfl⟩ := h
    exact .other ⟨fun _ => rfl, rfl⟩ (.of_same rfl) rfl (.same rfl)
  case create tokenInfo =>
    obtain ⟨id, asset, -, rfl⟩ := h
    exact .other ⟨fun _ => rfl, rfl⟩ (.of_same rfl) rfl (.same rfl)
  case markStable id =>
    obtain ⟨asset, -, rfl⟩ := h
    exact .other ⟨fun _ => rfl, rfl⟩ (.of_same rfl) rfl (.same rfl)
  case doMint token beneficiary amount =>
    obtain ⟨asset, -, rfl⟩ := h
    exact .other ⟨fun _ => rfl, rfl⟩ (.of_same rfl) rfl (.same rfl)
  case doBurn token target amount =>
    obtain ⟨paid, asset, -, rfl⟩ := h
    exact .other ⟨fun _ => rfl, rfl⟩ (.of_same rfl) rfl (.same rfl)
  case native op =>
    obtain ⟨native, -, rfl⟩ := h
    exact .other ⟨fun _ => rfl, rfl⟩ (.of_same rfl) rfl (.same rfl)
  case other effect =>
    obtain ⟨external, hperform, rfl⟩ := h
    exact .other ⟨fun _ => rfl, rfl⟩ (.of_same rfl) rfl (.perform effect _ hperform)
  all_goals exact absurd hsingle (by simp [Call.isSingle])

/-- No proof is applied by a call that is not a batch. -/
theorem SingleEffect.noProof {c : cfg.Call} {origin : Origin} (h : SingleEffect c origin s s') : NoProof s s' := by
  cases h with
  | other hfunds hproof hnow hout => exact hproof
  | authorize owner d token amount hacts h =>
      apply NoProof.of_same
      rw [authorizeTo_frame h]
  | revoke owner d token wanted callback hacts hsize hcallback h =>
      apply NoProof.of_same
      rw [revokeFrom_frame h]

theorem SingleEffect.now {c : cfg.Call} {origin : Origin} (h : SingleEffect c origin s s') : s'.now = s.now := by
  cases h with
  | other hfunds hproof hnow hout => exact hnow
  | authorize owner d token amount hacts h => rw [authorizeTo_frame h]
  | revoke owner d token wanted callback hacts hsize hcallback h => rw [revokeFrom_frame h]

theorem SingleEffect.outward {c : cfg.Call} {origin : Origin} (h : SingleEffect c origin s s') :
    Outward s.external s'.external := by
  cases h with
  | other hfunds hproof hnow hout => exact hout
  | authorize owner d token amount hacts h =>
      rw [authorizeTo_frame h]
      exact .same rfl
  | revoke owner d token wanted callback hacts hsize hcallback h =>
      rw [revokeFrom_frame h]
      exact .same rfl

/-- The receipt a withdrawal leaves, if any, has its callback. -/
theorem revokeFrom_receipts {owner d : AccountId} {token : TokenId} {wanted : Option U128}
    {callback : Option cfg.Call} (h : revokeFrom owner d token wanted callback s = .ok s') :
    s'.receipts = s.receipts ∨ s'.receipts = s.receipts.remove (d, owner) ∨
      ∃ r : Receipt cfg.Call, r.callback? = callback ∧ s'.receipts = s.receipts.insert (d, owner) r := by
  simp only [revokeFrom] at h
  split at h
  · obtain rfl := pure_eq_ok.mp h
    exact .inl rfl
  simp only [bind_eq_ok] at h
  obtain ⟨-, -, dominator, -, -, -, h⟩ := h
  split at h
  · simp only [bind_eq_ok, pure_eq_ok] at h
    obtain ⟨mid, hmid, last, hlast, rfl⟩ := h
    right; left
    rw [(unreserve_eq_ok hlast).1, (mergeStash_eq_ok hmid).1]
  · simp only [bind_eq_ok, pure_eq_ok] at h
    obtain ⟨-, -, rfl⟩ := h
    refine .inr (.inr ⟨_, ?_, rfl⟩)
    cases callback <;> rfl

/-! ### Nested calls -/

/-- What happens to the storage while a batch of a dominator is checked, callbacks apart. -/
inductive BatchStep (d : AccountId) (s s' : State cfg) : Prop
  | apply (beneficiary : AccountId) (season : Season) (knownRoot : MerkleHash) (proof : ProofV2) (trade : Trade)
      (callback : Option cfg.Call) (mid : State cfg)
      (h : applyCommand d beneficiary season proof s = .ok (.forward trade callback mid))
      (hs' : s' = recordApplied d knownRoot proof mid)
  | reject (proof : ProofV2) (r : Receipt cfg.Call) (h : s.receipts (d, proof.userId) = some r)
      (hcloses : proof.Closes r) (hs' : s' = dropReceipt d proof r s)
  | store (proof : ProofV2) (h : storeRoot d proof s = .ok s')
  | prices (incr : List (Sigma fun _ : TokenId => U128 × U128)) (hs' : s' = { s with
      external := incr.foldl (fun e sums => cfg.setPrice sums.1 sums.2.1 sums.2.2 s.now e) s.external })

/-- A kind of calls, with their origins, that keeps `I` and moves the storage along `R`. A batch may only be one of a
dominator in `B`, which the active dominators are while `I` holds. -/
structure Kept (A : cfg.Call → Origin → Prop) (B : AccountId → Prop) (I : State cfg → Prop)
    (R : State cfg → State cfg → Prop) : Prop where
  refl : ∀ s, R s s
  trans : ∀ s mid s', R s mid → R mid s' → R s s'
  both : ∀ first second origin, A (.both first second) origin → A first origin ∧ A second origin
  dispatchAs : ∀ origin origin' c, A (.dispatchAs origin' c) origin → A c origin'
  attempt : ∀ origin origin' c, A (.attempt origin' c) origin → A c origin'
  callback : ∀ s d user r c, I s → s.receipts (d, user) = some r → r.callback? = some c → A c (.signed user)
  active : ∀ s d, I s → isActive d s → B d
  single : ∀ s s' c origin, I s → A c origin → Moves s s' → SingleEffect c origin s s' → I s' ∧ R s s'
  batch : ∀ s s' d, I s → B d → BatchStep d s s' → I s' ∧ R s s'

section Kept

variable {A : cfg.Call → Origin → Prop} {B : AccountId → Prop} {I : State cfg → Prop}
  {R : State cfg → State cfg → Prop} {call : cfg.Call → Origin → State cfg → Result (State cfg)}
  {d beneficiary : AccountId} {knownRoot : MerkleHash} {claimAt : BlockNumber} {proof : ProofV2} {trade : Trade}

/-- One after the other. -/
theorem Kept.next {mid : State cfg} (hk : Kept A B I R) (h : I mid ∧ R s mid) (h' : I mid → I s' ∧ R mid s') :
    I s' ∧ R s s' :=
  ⟨(h' h.1).1, hk.trans _ _ _ h.2 (h' h.1).2⟩

theorem Kept.dispatchCallback (hk : Kept A B I R)
    (hcall : ∀ c origin s s', I s → A c origin → call c origin s = .ok s' → I s' ∧ R s s') {user : AccountId}
    {callback : Option cfg.Call} (hA : ∀ c, callback = some c → A c (.signed user)) (hs : I s)
    (h : dispatchCallback call user callback s = .ok s') : I s' ∧ R s s' := by
  unfold Verifier.dispatchCallback at h
  split at h
  · obtain rfl := Except.ok.inj h
    exact ⟨hs, hk.refl s⟩
  · rename_i c
    split at h
    · rename_i hcb
      obtain rfl := Except.ok.inj h
      exact hcall _ _ _ _ hs (hA c rfl) hcb
    · obtain rfl := Except.ok.inj h
      exact ⟨hs, hk.refl s⟩
    · exact absurd h (by simp)

/-- The callback of a proof is that of the receipt of its user. -/
theorem applyCommand_callback {season : Season} {callback : Option cfg.Call}
    (h : applyCommand d beneficiary season proof s = .ok (.forward trade callback s')) {c : cfg.Call}
    (hc : callback = some c) : ∃ r, s.receipts (d, proof.userId) = some r ∧ r.callback? = some c := by
  unfold applyCommand at h
  cases hcmd : proof.cmd <;> simp only [hcmd, bind_eq_ok, pure_eq_ok, Prod.exists] at h
  case transferOut currency amount =>
    obtain ⟨callback', mid, hout, hforward⟩ := h
    obtain ⟨-, rfl, rfl⟩ := Outcome.forward.inj hforward
    simp only [applyTransferOut, bind_eq_ok, pure_eq_ok, Prod.mk.injEq] at hout
    obtain ⟨r, hr, -, -, last, -, hcallback, -⟩ := hout
    exact ⟨r, (receiptFor_eq_ok hr).1, hcallback.trans hc⟩
  case askLimit =>
    obtain ⟨trade', mid, -, hforward⟩ := h
    obtain ⟨-, rfl, -⟩ := Outcome.forward.inj hforward
    exact absurd hc (by simp)
  case bidLimit =>
    obtain ⟨trade', mid, -, hforward⟩ := h
    obtain ⟨-, rfl, -⟩ := Outcome.forward.inj hforward
    exact absurd hc (by simp)
  case cancel =>
    obtain ⟨unfilled, -, hforward⟩ := h
    obtain ⟨-, rfl, -⟩ := Outcome.forward.inj hforward
    exact absurd hc (by simp)
  case transferIn =>
    obtain ⟨mid, -, hforward⟩ := h
    obtain ⟨-, rfl, -⟩ := Outcome.forward.inj hforward
    exact absurd hc (by simp)
  all_goals simp at h

theorem Kept.verifyAndUpdate (hk : Kept A B I R)
    (hcall : ∀ c origin s s', I s → A c origin → call c origin s = .ok s' → I s' ∧ R s s') (hB : B d) (hs : I s)
    (h : verifyAndUpdate call d beneficiary knownRoot claimAt proof s = .ok (trade, s')) : I s' ∧ R s s' := by
  simp only [Verifier.verifyAndUpdate, bind_eq_ok] at h
  obtain ⟨-, -, outcome, houtcome, h⟩ := h
  cases outcome with
  | stay last =>
      obtain ⟨-, rfl⟩ := Prod.mk.inj (pure_eq_ok.mp h)
      rcases applyCommand_stay houtcome with rfl | ⟨r, hr, hcloses, rfl⟩
      · exact ⟨hs, hk.refl _⟩
      · exact hk.batch _ _ _ hs hB (.reject _ r hr hcloses rfl)
  | forward trade' callback mid =>
      simp only [bind_eq_ok, pure_eq_ok, Prod.mk.injEq] at h
      obtain ⟨last, hlast, last', hstore, -, rfl⟩ := h
      have hA : ∀ c, callback = some c → A c (.signed proof.userId) := by
        intro c hc
        obtain ⟨r, hr, hcallback⟩ := applyCommand_callback houtcome hc
        exact hk.callback _ _ _ _ _ hs hr hcallback
      have hmid := hk.batch _ _ _ hs hB (.apply _ _ knownRoot proof _ _ mid houtcome rfl)
      have hlast := hk.next hmid fun hmid => hk.dispatchCallback hcall hA hmid hlast
      exact hk.next hlast fun hlast => hk.batch _ _ _ hlast hB (.store proof hstore)

theorem Kept.verifyV2 (hk : Kept A B I R)
    (hcall : ∀ c origin s s', I s → A c origin → call c origin s = .ok s' → I s' ∧ R s s') (hs : I s)
    {proofs : List ProofV2} (h : verifyV2 call d proofs s = .ok s') : I s' ∧ R s s' := by
  simp only [Verifier.verifyV2, verifyBatch, bind_eq_ok, okOr_eq_ok, ensure_eq_ok, pure_eq_ok, exists_const] at h
  obtain ⟨dominator, hdominator, hactive, batch, hbatch, rfl⟩ := h
  have hB := hk.active s d hs ⟨dominator, hdominator, hactive⟩
  have hlast : I batch.state ∧ R s batch.state := by
    refine foldlM_invariant (fun batch : Batch cfg => I batch.state ∧ R s batch.state)
      (fun batch proof batch' hmid hnext => ?_) ⟨hs, hk.refl s⟩ hbatch
    simp only [verifyNext, bind_eq_ok, pure_eq_ok, Prod.exists] at hnext
    obtain ⟨trade, mid, hverify, rfl⟩ := hnext
    exact hk.next hmid fun hmid => hk.verifyAndUpdate hcall hB hmid hverify
  exact hk.next hlast fun hlast => hk.batch _ _ _ hlast hB (.prices _ rfl)

/-- What single calls and the steps of a batch keep, every call keeps. -/
theorem Kept.dispatch (hk : Kept A B I R) {depth : Nat} {c : cfg.Call} {origin : Origin} (hs : I s)
    (hA : A c origin) (h : dispatch depth c origin s = .ok s') : I s' ∧ R s s' := by
  induction depth generalizing c origin s s' with
  | zero => exact absurd h (by simp [Verifier.dispatch])
  | succ depth ih =>
      by_cases hsingle : c.isSingle = true
      · exact hk.single _ _ _ _ hs hA (dispatch_moves h) (dispatch_single hsingle h)
      cases c <;> simp only [Verifier.dispatch, bind_eq_ok] at h
      case verifyV2 proofs =>
        obtain ⟨d, -, h⟩ := h
        exact hk.verifyV2 (fun _ _ _ _ hs hA hcall => ih hs hA hcall) hs h
      case both first second =>
        obtain ⟨mid, hfirst, hsecond⟩ := h
        obtain ⟨hA, hA'⟩ := hk.both _ _ _ hA
        exact hk.next (ih hs hA hfirst) fun hmid => ih hmid hA' hsecond
      case dispatchAs origin' c => exact ih hs (hk.dispatchAs _ _ _ hA) h
      case attempt origin' c =>
        split at h
        · rename_i hcall
          obtain rfl := Except.ok.inj h
          exact ih hs (hk.attempt _ _ _ hA) hcall
        · obtain rfl := Except.ok.inj h
          exact ⟨hs, hk.refl s⟩
        · exact absurd h (by simp)
      all_goals exact absurd rfl hsingle

end Kept

/-! ### Runs -/

/-- A run, with the calls that are included on its way. -/
inductive Included (s₀ : State cfg) : List (cfg.Call × Origin) → State cfg → Prop
  | start : Included s₀ [] s₀
  | call {calls : List (cfg.Call × Origin)} {mid s : State cfg} {depth : Nat} {c : cfg.Call} {origin : Origin}
      (hrun : Included s₀ calls mid) (h : dispatch depth c origin mid = .ok s) :
      Included s₀ (calls ++ [(c, origin)]) s
  | block {calls : List (cfg.Call × Origin)} {mid : State cfg} (hrun : Included s₀ calls mid)
      (external : cfg.External) (h : mid.now + 1 < 2 ^ 32) :
      Included s₀ calls (onInitialize (mid.now + 1) { mid with now := mid.now + 1, external := external })

theorem Kept.included {A : cfg.Call → Origin → Prop} {B : AccountId → Prop} {I : State cfg → Prop}
    {R : State cfg → State cfg → Prop} (hk : Kept A B I R)
    (hblock : ∀ s s', I s → Moves s s' → SameFunds s s' → s'.history = s.history → I s' ∧ R s s')
    {s₀ : State cfg} {calls : List (cfg.Call × Origin)} (hs : I s₀) (hA : ∀ call ∈ calls, A call.1 call.2)
    (h : Included s₀ calls s) : I s ∧ R s₀ s := by
  induction h with
  | start => exact ⟨hs, hk.refl _⟩
  | call hrun h ih =>
      rw [List.forall_mem_append, List.forall_mem_singleton] at hA
      exact hk.next (ih hA.1) fun hmid => hk.dispatch hmid hA.2 h
  | @block calls mid hrun external hnow ih =>
      refine hk.next (ih hA) fun hmid => hblock _ _ hmid (Step.block mid external hnow).moves ?_ ?_
      · obtain ⟨hrecords, hreceipts⟩ :=
          onInitialize_sameFunds (mid.now + 1) { mid with now := mid.now + 1, external := external }
        exact ⟨hrecords, hreceipts⟩
      · rw [onInitialize_frame]

def Action.call? : Action cfg → Option (cfg.Call × Origin)
  | .call _ c origin => some (c, origin)
  | .block => none

theorem included_of_play {actions : List (Action cfg)} (h : play actions s = .ok s') :
    Included s (actions.filterMap Action.call?) s' := by
  induction actions using List.reverseRecOn generalizing s' with
  | nil => exact pure_eq_ok.mp h ▸ .start
  | append_singleton actions action ih =>
      simp only [play, List.foldlM_append, List.foldlM_cons, List.foldlM_nil, bind_eq_ok, pure_eq_ok,
        exists_eq_right] at h
      obtain ⟨mid, hmid, hlast⟩ := h
      have hrun := ih hmid
      cases action with
      | call depth c origin =>
          rw [List.filterMap_append]
          exact hrun.call hlast
      | block =>
          rw [List.filterMap_append, List.filterMap_cons_none rfl, List.filterMap_nil, List.append_nil]
          simp only [Action.perform] at hlast
          split at hlast
          · rename_i hlt
            exact Except.ok.inj hlast ▸ hrun.block mid.external hlt
          · exact absurd hlast (by simp)

end Fusotao.Verifier
