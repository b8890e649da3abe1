import Fusotao.Base.Transition
import Fusotao.Verifier.Commands
import Fusotao.Verifier.Runtime

/-!
# The moves of a run

A call may dispatch further calls while it runs, so its effects are not one step but a sequence of moves:
an operation of the pallet, the effects of one proof, or the storing of its root. What every move keeps holds
in every state of every run, also in the middle of a call.
-/

namespace Fusotao.Verifier

open Exec Relation

variable {cfg : Config} {s s' : State cfg}

inductive Move : State cfg → State cfg → Prop
  | register {s s' : State cfg} {d : AccountId} {name : List UInt8} (h : register d name s = .ok s') :
      Move s s'
  | evict {s s' : State cfg} {d : AccountId} (h : evict d s = .ok s') : Move s s'
  | launch {s s' : State cfg} {d : AccountId} (h : launch d s = .ok s') : Move s s'
  | outside (s : State cfg) (external : cfg.External) (beneficiaries : StorageMap AccountId AccountId) :
      Move s { s with external := external, beneficiaries := beneficiaries }
  | assets (s : State cfg) (asset : Token.State cfg.token)
      (h : cfg.token.balances.Lawful → Token.SameReserved s.asset asset) :
      Move s { s with asset := asset }
  | authorize {s s' : State cfg} {owner d : AccountId} {token : TokenId} {amount : U128}
      (h : authorizeTo owner d token amount s = .ok s') : Move s s'
  | revoke {s s' : State cfg} {owner d : AccountId} {token : TokenId} {wanted : Option U128}
      {callback : Option cfg.Call} (h : revokeFrom owner d token wanted callback s = .ok s') : Move s s'
  | stake {s s' : State cfg} {staker d : AccountId} {amount : U128}
      (h : stakeOn staker d amount s = .ok s') : Move s s'
  | unstake {s s' : State cfg} {staker d : AccountId} {amount : U128}
      (h : unstakeFrom staker d amount s = .ok s') : Move s s'
  | claim {s s' : State cfg} {staker d : AccountId} (h : claimShares staker d s = .ok s') : Move s s'
  /-- A proof is checked against the root that is stored, and its effects are applied; profits are those of the
  current season. -/
  | apply {s mid : State cfg} {d : AccountId} {dominator : Dominator} {proof : ProofV2}
      (hdominator : s.dominators.lookup d = some dominator)
      (hopenings : checkOpenings cfg dominator.merkleRoot proof = .ok ())
      (hbonuses : ∀ key, key ≠ (d, currentSeason cfg s.now dominator.startFrom) → mid.bonuses key = s.bonuses key)
      (h : Applied d proof s mid) : Move s (recordApplied d dominator.merkleRoot proof mid)
  /-- A transfer is rejected. -/
  | reject {s : State cfg} {d : AccountId} {proof : ProofV2} {r : Receipt cfg.Call}
      (h : s.receipts (d, proof.userId) = some r) : Move s (dropReceipt d proof r s)
  /-- The root of the proof applied last is stored. -/
  | store {s s' : State cfg} {d : AccountId} {proof : ProofV2} {rest : List (AccountId × MerkleHash)}
      (hpending : s.pending = (d, proof.root) :: rest) (h : storeRoot d proof s = .ok s') : Move s s'
  | block (s : State cfg) (external : cfg.External) (h : s.now + 1 < 2 ^ 32) :
      Move s (onInitialize (s.now + 1) { s with now := s.now + 1, external := external })

/-! ### What a call does -/

/-- A sequence of moves that leaves no root behind that is not stored. -/
def Moves (s s' : State cfg) : Prop := ReflTransGen Move s s' ∧ s'.pending = s.pending

theorem Moves.refl (s : State cfg) : Moves s s := ⟨.refl, rfl⟩

theorem Moves.single (h : Move s s') (hpending : s'.pending = s.pending) : Moves s s' :=
  ⟨.single h, hpending⟩

/-- What may be written of a dominator: it registers, or it keeps its first season and stays evicted if it is. -/
inductive DominatorMoved (old? : Option Dominator) (new : Dominator) : Prop
  | registered (hnone : old? = none)
  | written (old : Dominator) (hold : old? = some old) (hstart : new.startFrom = old.startFrom)
      (hevicted : old.status = .evicted → new.status = .evicted)

/-- A move writes one dominator at most. -/
theorem Move.dominators (h : Move s s') : s'.dominators = s.dominators ∨
    ∃ d new, s'.dominators = s.dominators.insert d new ∧ DominatorMoved (s.dominators.lookup d) new := by
  cases h with
  | register h =>
      obtain ⟨hnone, dominator, -, -, -, -, rfl⟩ := register_eq_ok h
      exact .inr ⟨_, dominator, rfl, .registered hnone⟩
  | evict h =>
      obtain ⟨old, hold, rfl⟩ := evict_eq_ok h
      exact .inr ⟨_, _, rfl, .written old hold rfl fun _ => rfl⟩
  | launch h =>
      obtain ⟨old, hold, hstatus, rfl⟩ := launch_eq_ok h
      exact .inr ⟨_, _, rfl, .written old hold rfl fun hevicted => absurd (hstatus.symm.trans hevicted) (by decide)⟩
  | outside | assets | reject => exact .inl rfl
  | authorize h =>
      rw [authorizeTo_frame h]
      exact .inl rfl
  | revoke h =>
      rw [revokeFrom_frame h]
      exact .inl rfl
  | stake h =>
      obtain ⟨old, hold, hstatus, hs', -⟩ := stakeOn_effects h
      rw [hs']
      refine .inr ⟨_, _, rfl, .written old hold rfl fun hevicted => ?_⟩
      rcases hstatus with hstatus | hstatus <;> exact absurd (hstatus.symm.trans hevicted) (by decide)
  | unstake h =>
      obtain ⟨old, hold, -, staked, -, staking, -, remain, -, pending, -, hs', -, -⟩ := unstakeFrom_effects h
      rw [hs']
      refine .inr ⟨_, _, rfl, .written old hold rfl fun hevicted => ?_⟩
      simp [hevicted]
  | claim h =>
      obtain ⟨old, -, staking, -, hs'⟩ := claimShares_effects h
      rw [hs']
      exact .inl rfl
  | apply hdominator hopenings hbonuses h =>
      rw [recordApplied, h.frame]
      exact .inl rfl
  | store hpending h =>
      obtain ⟨old, hold, rfl⟩ := storeRoot_eq_ok h
      exact .inr ⟨_, _, rfl, .written old hold rfl id⟩
  | block external h =>
      rw [onInitialize_frame]
      exact .inl rfl

/-- Once it is registered, the first season of a dominator is fixed, and an eviction is for ever. -/
theorem Move.lookup (h : Move s s') {d : AccountId} {dominator : Dominator}
    (hlookup : s.dominators.lookup d = some dominator) :
    ∃ dominator', s'.dominators.lookup d = some dominator' ∧ dominator'.startFrom = dominator.startFrom ∧
      (dominator.status = .evicted → dominator'.status = .evicted) := by
  rcases h.dominators with hsame | ⟨d', new, hs', hmoved⟩
  · exact ⟨dominator, by rw [hsame, hlookup], rfl, id⟩
  · rw [hs', IterMap.lookup_insert]
    by_cases hd : d = d'
    · subst hd
      rw [if_pos rfl]
      cases hmoved with
      | registered hnone => exact absurd (hnone.symm.trans hlookup) (by simp)
      | written old hold hstart hevicted =>
          obtain rfl := Option.some.inj (hold.symm.trans hlookup)
          exact ⟨new, rfl, hstart, hevicted⟩
    · rw [if_neg hd]
      exact ⟨dominator, hlookup, rfl, id⟩

theorem Moves.startFrom (h : Moves s s') {d : AccountId} {dominator : Dominator}
    (hlookup : s.dominators.lookup d = some dominator) :
    ∃ dominator', s'.dominators.lookup d = some dominator' ∧ dominator'.startFrom = dominator.startFrom := by
  obtain ⟨hrun, -⟩ := h
  induction hrun with
  | refl => exact ⟨dominator, hlookup, rfl⟩
  | tail _ hlast ih =>
      obtain ⟨mid, hmid, hstart⟩ := ih
      obtain ⟨dominator', hlookup', hstart', -⟩ := hlast.lookup hmid
      exact ⟨dominator', hlookup', hstart'.trans hstart⟩

theorem Moves.trans {s'' : State cfg} (h : Moves s s') (h' : Moves s' s'') : Moves s s'' :=
  ⟨h.1.trans h'.1, h'.2.trans h.2⟩

section Proofs

variable {call : cfg.Call → Origin → State cfg → Result (State cfg)} {d beneficiary : AccountId}
  {knownRoot : MerkleHash} {claimAt : BlockNumber} {proof : ProofV2} {trade : Trade}

/-- The callback may fail, and then nothing has happened. -/
theorem dispatchCallback_moves (hcall : ∀ c origin s s', call c origin s = .ok s' → Moves s s')
    {user : AccountId} {callback : Option cfg.Call}
    (h : dispatchCallback call user callback s = .ok s') : Moves s s' := by
  unfold dispatchCallback at h
  split at h
  · exact Except.ok.inj h ▸ .refl s
  · split at h
    · rename_i hs
      exact Except.ok.inj h ▸ hcall _ _ _ _ hs
    · exact Except.ok.inj h ▸ .refl s
    · exact absurd h (by simp)

/-- A proof is checked against the root that is stored, and leaves its own root stored. -/
theorem verifyAndUpdate_moves (hcall : ∀ c origin s s', call c origin s = .ok s' → Moves s s')
    {dominator : Dominator} (hdominator : s.dominators.lookup d = some dominator)
    (hroot : dominator.merkleRoot = knownRoot) (hstart : dominator.startFrom = claimAt)
    (h : verifyAndUpdate call d beneficiary knownRoot claimAt proof s = .ok (trade, s')) :
    Moves s s' ∧ ∃ dominator', s'.dominators.lookup d = some dominator' ∧
      dominator'.merkleRoot = trade.root ∧ dominator'.startFrom = claimAt := by
  simp only [verifyAndUpdate, bind_eq_ok] at h
  obtain ⟨u, hopenings, outcome, houtcome, h⟩ := h
  cases outcome with
  | stay last =>
      obtain ⟨rfl, rfl⟩ := Prod.mk.inj (pure_eq_ok.mp h)
      obtain rfl | ⟨r, hr, -, rfl⟩ := applyCommand_stay houtcome
      · exact ⟨.refl _, dominator, hdominator, hroot, hstart⟩
      · exact ⟨.single (.reject hr) rfl, dominator, hdominator, hroot, hstart⟩
  | forward trade' callback mid =>
      simp only [bind_eq_ok, pure_eq_ok, Prod.mk.injEq] at h
      obtain ⟨last, hlast, last', hstore, rfl, rfl⟩ := h
      obtain ⟨htrade, happlied⟩ := applyCommand_forward houtcome
      subst hroot
      have hbonuses : ∀ key, key ≠ (d, currentSeason cfg s.now dominator.startFrom) →
          mid.bonuses key = s.bonuses key := by
        intro key hkey
        rw [hstart] at hkey
        exact applyCommand_bonuses houtcome hkey
      have happly := Move.apply hdominator hopenings hbonuses happlied
      obtain ⟨hmoves, hpending⟩ := dispatchCallback_moves hcall hlast
      have hmoves' : Moves s last' := by
        refine ⟨(ReflTransGen.single happly).trans (hmoves.tail (.store hpending hstore)), ?_⟩
        obtain ⟨stored, -, rfl⟩ := storeRoot_eq_ok hstore
        rw [hpending, happlied.frame]
        rfl
      obtain ⟨dominator', hlookup', hstart'⟩ := hmoves'.startFrom hdominator
      obtain ⟨stored, hstored, rfl⟩ := storeRoot_eq_ok hstore
      obtain rfl := Option.some.inj ((AList.lookup_insert _).symm.trans hlookup')
      exact ⟨hmoves', _, AList.lookup_insert _, htrade.symm, hstart'.trans hstart⟩

theorem verifyV2_moves (hcall : ∀ c origin s s', call c origin s = .ok s' → Moves s s')
    {proofs : List ProofV2} (h : verifyV2 call d proofs s = .ok s') : Moves s s' := by
  simp only [verifyV2, verifyBatch, bind_eq_ok, okOr_eq_ok, ensure_eq_ok, pure_eq_ok, exists_const] at h
  obtain ⟨dominator, hdominator, -, batch, hbatch, rfl⟩ := h
  -- The known root of the batch stays the one that is stored, and the seasons are counted from the same block.
  have hinv := foldlM_invariant (fun batch : Batch cfg => Moves s batch.state ∧
    ∃ dominator', batch.state.dominators.lookup d = some dominator' ∧
      dominator'.merkleRoot = batch.knownRoot ∧ dominator'.startFrom = dominator.startFrom)
    (fun batch proof batch' hmid hnext => ?_) ⟨Moves.refl s, dominator, hdominator, rfl, rfl⟩ hbatch
  · exact hinv.1.trans (.single (.outside _ _ batch.state.beneficiaries) rfl)
  · obtain ⟨hmoves, dominator', hdominator', hroot, hstart⟩ := hmid
    simp only [verifyNext, bind_eq_ok, pure_eq_ok, Prod.exists] at hnext
    obtain ⟨trade, mid, hverify, rfl⟩ := hnext
    obtain ⟨hmoves', hstored⟩ := verifyAndUpdate_moves hcall hdominator' hroot hstart hverify
    exact ⟨hmoves.trans hmoves', hstored⟩

end Proofs

/-- Every call that succeeds is a sequence of moves. -/
theorem dispatch_moves {depth : Nat} {call : cfg.Call} {origin : Origin}
    (h : dispatch depth call origin s = .ok s') : Moves s s' := by
  induction depth generalizing call origin s s' with
  | zero => exact absurd h (by simp [dispatch])
  | succ depth ih =>
      cases call <;> simp only [dispatch, bind_eq_ok, pure_eq_ok, Prod.exists] at h
      case register identifier =>
        obtain ⟨d, -, h⟩ := h
        obtain ⟨-, dominator, -, -, -, -, hs'⟩ := register_eq_ok h
        exact .single (.register h) (hs' ▸ rfl)
      case evict dominatorId =>
        obtain ⟨-, -, h⟩ := h
        obtain ⟨dominator, -, hs'⟩ := evict_eq_ok h
        exact .single (.evict h) (hs' ▸ rfl)
      case launch dominatorId =>
        obtain ⟨-, -, h⟩ := h
        obtain ⟨dominator, -, -, hs'⟩ := launch_eq_ok h
        exact .single (.launch h) (hs' ▸ rfl)
      case dominatorSetBeneficiary beneficiary proof =>
        obtain ⟨d, -, h⟩ := h
        rw [dominatorSetBeneficiary_eq_ok h]
        exact .single (.outside s _ _) rfl
      case verifyV2 proofs =>
        obtain ⟨d, -, h⟩ := h
        exact verifyV2_moves (fun _ _ _ _ hcall => ih hcall) h
      case stake dominator amount =>
        obtain ⟨staker, -, h⟩ := h
        obtain ⟨dominator, -, -, hs', -⟩ := stakeOn_effects h
        exact .single (.stake h) (by rw [hs'])
      case unstake dominator amount =>
        obtain ⟨staker, -, h⟩ := h
        obtain ⟨dominator, -, -, staked, -, staking, -, remain, -, pending, -, hs', -, -⟩ :=
        unstakeFrom_effects h
        exact .single (.unstake h) (by rw [hs'])
      case claimShares dominator =>
        obtain ⟨staker, -, h⟩ := h
        obtain ⟨dominator, -, staking, -, hs'⟩ := claimShares_effects h
        exact .single (.claim h) (by rw [hs'])
      case authorize dominator tokenId amount =>
        obtain ⟨owner, -, h⟩ := h
        exact .single (.authorize h) (by rw [authorizeTo_frame h])
      case revoke dominator tokenId amount =>
        obtain ⟨owner, -, h⟩ := h
        exact .single (.revoke h) (by rw [revokeFrom_frame h])
      case revokeWithCallback dominator tokenId amount callback =>
        obtain ⟨owner, -, h⟩ := h
        exact .single (.revoke h) (by rw [revokeFrom_frame h])
      case transfer token target amount =>
        obtain ⟨sender, -, paid, asset, h, rfl⟩ := h
        exact .single (.assets s asset fun hlaw => Token.transferToken_sameReserved hlaw h) rfl
      case authorizeTo owner dex tokenId amount =>
        exact .single (.authorize h) (by rw [authorizeTo_frame h])
      case revokeFrom owner dominatorId tokenId amount callback =>
        exact .single (.revoke h) (by rw [revokeFrom_frame h])
      case transferToken sender token amount target =>
        obtain ⟨paid, asset, h, rfl⟩ := h
        exact .single (.assets s asset fun hlaw => Token.transferToken_sameReserved hlaw h) rfl
      case create tokenInfo =>
        obtain ⟨id, asset, h, rfl⟩ := h
        exact .single (.assets s asset fun _ => Token.create_sameReserved h) rfl
      case markStable id =>
        obtain ⟨asset, h, rfl⟩ := h
        exact .single (.assets s asset fun _ => Token.markStable_sameReserved h) rfl
      case doMint token beneficiary amount =>
        obtain ⟨asset, h, rfl⟩ := h
        exact .single (.assets s asset fun _ => Token.doMint_sameReserved h) rfl
      case doBurn token target amount =>
        obtain ⟨paid, asset, h, rfl⟩ := h
        exact .single (.assets s asset fun _ => Token.doBurn_sameReserved h) rfl
      case native op =>
        obtain ⟨native, h, rfl⟩ := h
        refine .single (.assets s { s.asset with native := native } fun hlaw t a => ?_) rfl
        simp only [Token.reservedBalance, hlaw.perform_reserved _ _ _ h]
      case other effect =>
        obtain ⟨external, -, rfl⟩ := h
        exact .single (.outside s external s.beneficiaries) rfl
      case both first second =>
        obtain ⟨mid, hfirst, hsecond⟩ := h
        exact (ih hfirst).trans (ih hsecond)
      case dispatchAs origin' call => exact ih h
      case attempt origin' call =>
        split at h
        · rename_i hcall
          exact Except.ok.inj h ▸ ih hcall
        · exact Except.ok.inj h ▸ .refl s
        · exact absurd h (by simp)

theorem Step.moves (h : Step s s') : Moves s s' := by
  cases h with
  | call depth call origin h => exact dispatch_moves h
  | block external h =>
      refine .single (.block s external h) ?_
      rw [onInitialize_frame]

/-! ### What is written down -/

/-- The entries a move writes down come after those of before. -/
theorem Move.history (h : Move s s') : s.history <+: s'.history := by
  cases h with
  | register h =>
      obtain ⟨-, dominator, -, -, -, -, rfl⟩ := register_eq_ok h
      exact List.prefix_rfl
  | evict h =>
      obtain ⟨dominator, -, rfl⟩ := evict_eq_ok h
      exact List.prefix_rfl
  | launch h =>
      obtain ⟨dominator, -, -, rfl⟩ := launch_eq_ok h
      exact List.prefix_rfl
  | outside | assets => exact List.prefix_rfl
  | authorize h =>
      rw [authorizeTo_frame h]
  | revoke h =>
      rw [revokeFrom_frame h]
  | stake h =>
      obtain ⟨dominator, -, -, hs', -⟩ := stakeOn_effects h
      rw [hs']
      exact (List.prefix_append _ _).trans (List.prefix_append _ _)
  | unstake h =>
      obtain ⟨dominator, -, -, staked, -, staking, -, remain, -, pending, -, hs', -, -⟩ :=
        unstakeFrom_effects h
      rw [hs']
      exact (List.prefix_append _ _).trans (List.prefix_append _ _)
  | claim h =>
      obtain ⟨dominator, -, staking, -, hs'⟩ := claimShares_effects h
      rw [hs']
      exact List.prefix_append _ _
  | apply hdominator hopenings hbonuses h =>
      rw [h.frame]
      exact List.prefix_append _ _
  | reject => exact List.prefix_append _ _
  | store hpending h =>
      obtain ⟨dominator, -, rfl⟩ := storeRoot_eq_ok h
      exact List.prefix_rfl
  | block =>
      rw [onInitialize_frame]

/-! ### What owners have with dominators -/

/-- What is authorised or stashed, and the receipts, are as before. -/
structure SameFunds (s s' : State cfg) : Prop where
  records : ∀ {key : ReserveKey}, key.1.1 = .authorizing ∨ key.1.1 = .authorizingStash →
    amounts s'.reserves key = amounts s.reserves key
  receipts : s'.receipts = s.receipts

/-- How a move concerns what owners have with dominators. -/
inductive FundsMove (s s' : State cfg) : Prop
  | same (h : SameFunds s s')
  | authorize (owner d : AccountId) (token : TokenId) (amount : U128)
      (h : authorizeTo owner d token amount s = .ok s')
  | revoke (owner d : AccountId) (token : TokenId) (wanted : Option U128) (callback : Option cfg.Call)
      (h : revokeFrom owner d token wanted callback s = .ok s')
  | apply (d : AccountId) (dominator : Dominator) (proof : ProofV2) (mid : State cfg)
      (hdominator : s.dominators.lookup d = some dominator)
      (hopenings : checkOpenings cfg dominator.merkleRoot proof = .ok ()) (h : Applied d proof s mid)
      (hs' : s' = recordApplied d dominator.merkleRoot proof mid)
  | reject (d : AccountId) (proof : ProofV2) (r : Receipt cfg.Call) (h : s.receipts (d, proof.userId) = some r)
      (hs' : s' = dropReceipt d proof r s)

/-- A record of another kind is written. -/
theorem SameFunds.of_update {kind : ReserveId} {who other : AccountId} {token : TokenId} {v : Nat}
    (hkind : kind ≠ .authorizing) (hstash : kind ≠ .authorizingStash)
    (h : amounts s'.reserves = Function.update (amounts s.reserves) ((kind, who, token), other) v)
    (hreceipts : s'.receipts = s.receipts) : SameFunds s s' := by
  refine ⟨fun {key} hkey => ?_, hreceipts⟩
  rw [h, Function.update_of_ne]
  rintro rfl
  exact hkey.elim hkind hstash

theorem SameFunds.trans {s'' : State cfg} (h : SameFunds s s') (h' : SameFunds s' s'') : SameFunds s s'' :=
  ⟨fun hkey => (h'.records hkey).trans (h.records hkey), h'.receipts.trans h.receipts⟩

/-- The stakes that are due are unlocked. -/
theorem onInitialize_sameFunds (now : BlockNumber) (s : State cfg) : SameFunds s (onInitialize now s) := by
  refine onInitialize_invariant (SameFunds s) (fun _ => ?_) (fun _ => ⟨fun _ => rfl, rfl⟩)
    (fun mid pendingUnstakings hmid => ⟨hmid.records, hmid.receipts⟩) fun who amount mid mid' hmid hunlock => ?_
  · rw [snapshots_frame]
    exact ⟨fun _ => rfl, rfl⟩
  · obtain ⟨hframe, -, hreserves, -⟩ := unreserve_eq_ok hunlock
    exact hmid.trans (.of_update (by decide) (by decide) hreserves (by rw [hframe]))

theorem Move.funds (h : Move s s') : FundsMove s s' := by
  cases h with
  | register h =>
      obtain ⟨-, dominator, -, -, -, -, rfl⟩ := register_eq_ok h
      exact .same ⟨fun _ => rfl, rfl⟩
  | evict h =>
      obtain ⟨dominator, -, rfl⟩ := evict_eq_ok h
      exact .same ⟨fun _ => rfl, rfl⟩
  | launch h =>
      obtain ⟨dominator, -, -, rfl⟩ := launch_eq_ok h
      exact .same ⟨fun _ => rfl, rfl⟩
  | outside | assets => exact .same ⟨fun _ => rfl, rfl⟩
  | authorize h => exact .authorize _ _ _ _ h
  | revoke h => exact .revoke _ _ _ _ _ h
  | stake h =>
      obtain ⟨dominator, -, -, hs', hreserves⟩ := stakeOn_effects h
      exact .same (.of_update (by decide) (by decide) hreserves (by rw [hs']))
  | unstake h =>
      obtain ⟨dominator, -, -, staked, -, staking, -, remain, -, pending, -, hs', -, hreserves⟩ :=
        unstakeFrom_effects h
      refine .same ⟨fun {key} hkey => ?_, by rw [hs']⟩
      rw [hreserves, Function.update_of_ne, Function.update_of_ne]
      · rintro rfl
        simp at hkey
      · rintro rfl
        simp at hkey
  | claim h =>
      obtain ⟨dominator, -, staking, -, hs'⟩ := claimShares_effects h
      rw [hs']
      exact .same ⟨fun _ => rfl, rfl⟩
  | apply hdominator hopenings hbonuses h => exact .apply _ _ _ _ hdominator hopenings h rfl
  | reject h => exact .reject _ _ _ h rfl
  | store hpending h =>
      obtain ⟨dominator, -, rfl⟩ := storeRoot_eq_ok h
      exact .same ⟨fun _ => rfl, rfl⟩
  | block external h =>
      obtain ⟨hrecords, hreceipts⟩ :=
        onInitialize_sameFunds (s.now + 1) { s with now := s.now + 1, external := external }
      exact .same ⟨hrecords, hreceipts⟩

/-! ### Runs -/

/-- A state of a run, in the middle of a call or after it. -/
def Visited (s : State cfg) : Prop := Transition.Reachable Init Move s

theorem Visited.move (h : Visited s) (hmove : Move s s') : Visited s' := by
  obtain ⟨s₀, hinit, hrun⟩ := h
  exact ⟨s₀, hinit, hrun.tail hmove⟩

theorem visited_of_reachable (h : Transition.Reachable Init Step s) : Visited s := by
  refine h.invariant Visited (fun s hs => ⟨s, hs, .refl⟩) fun s s' hs hstep => ?_
  obtain ⟨s₀, hinit, hrun⟩ := hs
  exact ⟨s₀, hinit, hrun.trans hstep.moves.1⟩

theorem pending_of_reachable (h : Transition.Reachable Init Step s) : s.pending = [] := by
  refine h.invariant (fun s => s.pending = []) ?_ fun s s' hs hstep => hstep.moves.2.trans hs
  rintro s ⟨asset, external, rfl⟩
  rfl

end Fusotao.Verifier
