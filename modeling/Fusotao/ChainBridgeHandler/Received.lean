import Fusotao.ChainBridge.Approved
import Fusotao.ChainBridge.Outcome
import Fusotao.ChainBridgeHandler.TransferIn
import Mathlib.Algebra.Order.Group.Multiset

/-!
# What is received was approved

Both pallets of the bridge in one runtime: relayers vote on transfers of the other chains, and an approved transfer
brings tokens in. Beside the storage it is written down which transfers came in.
-/

namespace Fusotao.ChainBridgeHandler

open Exec Relation
open ChainBridge (ResourceId approved executions QuorumBehind PublicStep ReservedForBridge run)

/-- The runtime around the two pallets. -/
structure BridgeConfig extends Config where
  /-- The calls of the other pallets, and what they do to the storage. -/
  Other : Type
  [decEqOther : DecidableEq Other]
  performOther : Other → Origin → State toConfig → Result (State toConfig)
  isAdmin : Origin → Bool
  chainId : ChainId
  proposalLifetime : BlockNumber

instance (cfg : BridgeConfig) : DecidableEq cfg.Other := cfg.decEqOther

/-- The calls of the other pallets, as the bridge pallet sees them. -/
inductive Effect (Other : Type)
  | transferIn (target : AccountId) (amount : U128) (rId : ResourceId)
  | other (call : Other)
  deriving DecidableEq

/-- A transfer from another chain. -/
structure Incoming where
  target : AccountId
  amount : U128
  rId : ResourceId
  deriving DecidableEq

structure Ledger (cfg : BridgeConfig) where
  state : State cfg.toConfig
  /-- The transfers that came in so far. The pallets have no such item and never read it. -/
  received : Multiset Incoming

variable {cfg : BridgeConfig}

def Effect.perform (effect : Effect cfg.Other) (origin : Origin) (x : Ledger cfg) : Result (Ledger cfg) :=
  match effect with
  | .transferIn target amount rId => do
      let state ← ChainBridgeHandler.transferIn origin target amount rId x.state
      return { state, received := x.received + {⟨target, amount, rId⟩} }
  | .other call => do
      let state ← cfg.performOther call origin x.state
      return { x with state }

/-- The bridge pallet in this runtime. -/
def bridge (cfg : BridgeConfig) : ChainBridge.Config where
  External := Ledger cfg
  Effect := Effect cfg.Other
  perform := Effect.perform
  isAdmin := cfg.isAdmin
  chainId := cfg.chainId
  proposalLifetime := cfg.proposalLifetime
  nativeResourceId := cfg.nativeResourceId
  tryGetAssetId chainId contract x := x.state.verifier.asset.tokenByContract (chainId, contract)
  accountId := cfg.bridgeAccount

/-- Before any proposal, with nothing received. -/
def genesis (state : State cfg.toConfig) : ChainBridge.State (bridge cfg) :=
  let ledger : Ledger cfg := ⟨state, 0⟩
  ChainBridge.State.genesis ledger

/-- The transfers written in an effect. -/
def Effect.incoming {Other : Type} : Effect Other → Multiset Incoming
  | .transferIn target amount rId => {⟨target, amount, rId⟩}
  | .other _ => 0

theorem ensureBridge_of_ne {origin : Origin} (h : origin ≠ .signed cfg.bridgeAccount) :
    ensureBridge cfg.toConfig origin = .error DispatchError.badOrigin := by
  cases origin with
  | root => rfl
  | signed who =>
      rw [ensureBridge, if_neg]
      exact fun hwho => h (congrArg Origin.signed hwho)

theorem Effect.perform_eq_ok {effect : Effect cfg.Other} {origin : Origin} {x x' : Ledger cfg}
    (h : effect.perform origin x = .ok x') :
    x'.received = x.received + effect.incoming ∧
      (origin ≠ .signed cfg.bridgeAccount → effect.incoming = 0) := by
  cases effect with
  | transferIn target amount rId =>
      simp only [Effect.perform, bind_eq_ok, pure_eq_ok] at h
      obtain ⟨state, hstate, rfl⟩ := h
      refine ⟨rfl, fun horigin => ?_⟩
      rw [ChainBridgeHandler.transferIn, ensureBridge_of_ne horigin] at hstate
      exact absurd hstate (by simp)
  | other call =>
      simp only [Effect.perform, bind_eq_ok, pure_eq_ok] at h
      obtain ⟨state, -, rfl⟩ := h
      exact ⟨(add_zero _).symm, fun _ => rfl⟩

/-- Only the account of the bridge brings tokens in. -/
theorem bridge_reserved (cfg : BridgeConfig) :
    ReservedForBridge (bridge cfg) Ledger.received Effect.incoming where
  nonneg effect := Multiset.zero_le _
  others effect origin x x' h horigin := by
    obtain ⟨hreceived, hnone⟩ := Effect.perform_eq_ok h
    rw [hreceived, hnone horigin, add_zero]
  bridge effect origin x x' h := (Effect.perform_eq_ok h).1.le

/-- Every transfer that came in was approved, and for itself. In every run in which the account of the bridge signs
nothing and nothing is dispatched as it, the transfers that came in are among those written in the proposals that were
dispatched; each of these was dispatched once, with a quorum of relayers behind it. -/
theorem received_was_approved {state : State cfg.toConfig} {s : ChainBridge.State (bridge cfg)}
    (h : ReflTransGen (PublicStep Ledger.received) (genesis state) s) :
    s.external.received ≤ approved Effect.incoming s.history ∧
      (∀ key, executions key s ≤ 1) ∧ QuorumBehind s := by
  have hwithin : s.external.received + 0 ≤ 0 + approved Effect.incoming s.history + 0 :=
    ChainBridge.publicSteps_within (bridge_reserved cfg) h
  rw [add_zero, add_zero, zero_add] at hwithin
  have hreach : Transition.Reachable ChainBridge.Init ChainBridge.Step s :=
    ⟨_, ⟨_, rfl⟩, ReflTransGen.mono (fun _ _ hstep => hstep.step) _ _ h⟩
  obtain ⟨-, -, honce, hquorum, -⟩ := ChainBridge.reachable_inv hreach
  refine ⟨hwithin, fun key => ?_, hquorum⟩
  rw [honce key]
  split <;> omega

/-- The plain configuration, with two relayers who are both needed. -/
def plainBridgeConfig : BridgeConfig where
  toConfig := plainConfig
  Other := Empty
  performOther call := call.elim
  isAdmin origin := origin = .root
  chainId := 42
  proposalLifetime := 100

/-- The native token, five units of it, comes in for alice. -/
def incomingFive : ChainBridge.Call (Effect Empty) := .other (.transferIn Token.alice 5 plainConfig.nativeResourceId)

def approvingRun : List (ChainBridge.Call (bridge plainBridgeConfig).Effect × Origin) :=
  [(.whitelistChain 5, .root), (.setResource plainConfig.nativeResourceId [], .root),
    (.addRelayer ChainBridge.firstRelayer, .root), (.addRelayer ChainBridge.secondRelayer, .root),
    (.setThreshold 2, .root),
    (.acknowledgeProposal 0 5 plainConfig.nativeResourceId (List.Vector.replicate 32 0) incomingFive,
      .signed ChainBridge.firstRelayer),
    (.acknowledgeProposal 0 5 plainConfig.nativeResourceId (List.Vector.replicate 32 0) incomingFive,
      .signed ChainBridge.secondRelayer)]

def plainGenesis : ChainBridge.State (bridge plainBridgeConfig) := genesis (stateOf (Verifier.plainAssets 100))

theorem received_was_approved_five : ∃ s : ChainBridge.State (bridge plainBridgeConfig),
    executions (5, 0, incomingFive) s = 1 ∧ s.external.received = {⟨Token.alice, 5, plainConfig.nativeResourceId⟩} ∧
    s.external.received ≤ approved Effect.incoming s.history ∧
    (∀ key, executions key s ≤ 1) ∧ QuorumBehind s := by
  obtain ⟨s, hrun, hdone⟩ := exists_of_succeedsWith (x := run approvingRun plainGenesis)
    (p := fun s => executions (5, 0, incomingFive) s = 1 ∧
      s.external.received = {⟨Token.alice, 5, plainConfig.nativeResourceId⟩}) (by decide +kernel)
  obtain ⟨honce, hreceived⟩ := of_decide_eq_true hdone
  have hpublic : ∀ c ∈ approvingRun, c.2 ≠ .signed plainBridgeConfig.bridgeAccount ∧
      c.1.actsAs plainBridgeConfig.bridgeAccount = false := by
    decide +kernel
  have h := received_was_approved (ChainBridge.run_publicSteps hpublic hrun)
  exact ⟨s, honce, hreceived, h⟩

end Fusotao.ChainBridgeHandler
