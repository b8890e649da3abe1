import Fusotao.Base.Transition
import Fusotao.Verifier.Batch

/-!
# Dispatch

A call either fails, and then the storage is what it was, or leaves a new storage. The callback of a
receipt is read from the storage, so how deep calls nest is bounded by what the chain has room for: the
bound is a parameter, and a call that exceeds it is no call at all.
-/

namespace Fusotao.Verifier

open Exec

variable {cfg : Config}

def dispatch : Nat → cfg.Call → Origin → State cfg → Result (State cfg)
  | 0, _, _, _ => .error .panic
  | depth + 1, call, origin, s =>
      match call with
      | .register identifier => do
          let dominator ← ensureSigned origin
          register dominator identifier s
      | .evict dominatorId => do
          ensureRoot origin
          evict dominatorId s
      | .launch dominatorId => do
          ensureRoot origin
          launch dominatorId s
      | .dominatorSetBeneficiary beneficiary proof => do
          let dominator ← ensureSigned origin
          dominatorSetBeneficiary dominator beneficiary proof s
      | .verifyV2 proofs => do
          let dominatorId ← ensureSigned origin
          verifyV2 (dispatch depth) dominatorId proofs s
      | .stake dominator amount => do
          let staker ← ensureSigned origin
          stakeOn staker dominator amount s
      | .unstake dominator amount => do
          let staker ← ensureSigned origin
          unstakeFrom staker dominator amount s
      | .claimShares dominator => do
          let signer ← ensureSigned origin
          claimShares signer dominator s
      | .authorize dominator tokenId amount => do
          let fundOwner ← ensureSigned origin
          authorizeTo fundOwner dominator tokenId amount s
      | .revoke dominator tokenId amount => do
          let fundOwner ← ensureSigned origin
          revokeFrom fundOwner dominator tokenId (some amount) none s
      | .revokeWithCallback dominator tokenId amount callback => do
          let fundOwner ← ensureSigned origin
          revokeFrom fundOwner dominator tokenId (some amount) (some callback) s
      | .transfer token target amount => do
          let sender ← ensureSigned origin
          let (_, asset) ← Token.transferToken sender token amount target s.asset
          return { s with asset }
      | .authorizeTo fundOwner dex tokenId amount => authorizeTo fundOwner dex tokenId amount s
      | .revokeFrom fundOwner dominatorId tokenId amount callback =>
          revokeFrom fundOwner dominatorId tokenId amount callback s
      | .transferToken sender token amount target => do
          let (_, asset) ← Token.transferToken sender token amount target s.asset
          return { s with asset }
      | .create tokenInfo => do
          let (_, asset) ← Token.create tokenInfo s.asset
          return { s with asset }
      | .markStable id => do
          let asset ← Token.markStable id s.asset
          return { s with asset }
      | .doMint token beneficiary amount => do
          let asset ← Token.doMint token beneficiary amount s.asset
          return { s with asset }
      | .doBurn token target amount => do
          let (_, asset) ← Token.doBurn token target amount s.asset
          return { s with asset }
      | .native op => do
          let native ← cfg.token.balances.perform op s.asset.native
          return { s with asset := { s.asset with native } }
      | .other effect => do
          let external ← cfg.perform effect origin s.external
          return { s with external }
      | .both first second => do
          let s ← dispatch depth first origin s
          dispatch depth second origin s
      | .dispatchAs origin call => dispatch depth call origin s
      | .attempt origin call =>
          match dispatch depth call origin s with
          | .ok s' => .ok s'
          | .error (.err _) => .ok s
          | .error .panic => .error .panic

/-- A step of the chain: a call is included in the block, or the next block begins. -/
inductive Step : State cfg → State cfg → Prop
  | call {s s' : State cfg} (depth : Nat) (call : cfg.Call) (origin : Origin)
      (h : dispatch depth call origin s = .ok s') : Step s s'
  | block (s : State cfg) (external : cfg.External) (h : s.now + 1 < 2 ^ 32) :
      Step s (onInitialize (s.now + 1) { s with now := s.now + 1, external })

/-- The storage of the pallet starts empty. -/
def Init (s : State cfg) : Prop := ∃ asset external, s = .genesis asset external

/-! ### Runs that are given -/

inductive Action (cfg : Config)
  | call (depth : Nat) (call : cfg.Call) (origin : Origin)
  | block

def Action.perform : Action cfg → State cfg → Result (State cfg)
  | .call depth c origin, s => dispatch depth c origin s
  | .block, s =>
      if s.now + 1 < 2 ^ 32 then .ok (onInitialize (s.now + 1) { s with now := s.now + 1 })
      else .error .panic

def play (actions : List (Action cfg)) (s : State cfg) : Result (State cfg) :=
  actions.foldlM (fun s action => action.perform s) s

theorem Action.step {action : Action cfg} {s s' : State cfg} (h : action.perform s = .ok s') :
    Step s s' := by
  cases action with
  | call depth c origin => exact .call depth c origin h
  | block =>
      simp only [Action.perform] at h
      split at h
      · rename_i hlt
        exact Except.ok.inj h ▸ .block s s.external hlt
      · exact absurd h (by simp)

theorem play_steps {actions : List (Action cfg)} {s s' : State cfg} (h : play actions s = .ok s') :
    Relation.ReflTransGen Step s s' :=
  foldlM_invariant (Relation.ReflTransGen Step s)
    (fun _ _ _ hmid hnext => hmid.tail (Action.step hnext)) .refl h

theorem reachable_of_play {actions : List (Action cfg)} {asset : Token.State cfg.token}
    {external : cfg.External} {s : State cfg} (h : play actions (.genesis asset external) = .ok s) :
    Transition.Reachable Init Step s :=
  ⟨_, ⟨asset, external, rfl⟩, play_steps h⟩

/-- Blocks without calls lead to any block number. -/
theorem reachable_genesis_at (asset : Token.State cfg.token) (external : cfg.External) {now : Nat}
    (h : now < 2 ^ 32) :
    Transition.Reachable Init Step { State.genesis asset external with now := now } := by
  induction now with
  | zero => exact ⟨_, ⟨asset, external, rfl⟩, .refl⟩
  | succ now ih =>
      obtain ⟨s₀, hinit, hrun⟩ := ih (Nat.lt_of_succ_lt h)
      have hblock := Step.block { State.genesis asset external with now := now } external h
      have hempty : onInitialize (now + 1) { State.genesis asset external with now := now + 1 } =
          { State.genesis asset external with now := now + 1 } := by
        unfold onInitialize
        split <;> rfl
      dsimp only at hblock
      exact ⟨s₀, hinit, hrun.tail (hempty ▸ hblock)⟩

end Fusotao.Verifier
