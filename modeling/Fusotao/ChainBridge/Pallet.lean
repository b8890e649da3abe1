import Fusotao.Support

/-!
# The bridge pallet

Relayers vote on proposals, which are calls of the runtime. A proposal with enough votes is dispatched
inside the call that brought the last vote, so a dispatch may vote, evaluate or change the relayers in
turn. The calls of the other pallets enter as a parameter: what they do to the storage of the bridge is
only to send transfers, to administer it, or to dispatch further calls.
-/

namespace Fusotao.ChainBridge

open Exec

abbrev DepositNonce := BitVec 64
abbrev ResourceId := Bytes 32
abbrev EvmHash := Bytes 32

def defaultRelayerThreshold : U32 := 1

/-- What the runtime configures, and its other pallets. -/
structure Config where
  /-- The storage of the other pallets. -/
  External : Type
  /-- The calls of the other pallets that leave the bridge alone. -/
  Effect : Type
  [decEqEffect : DecidableEq Effect]
  perform : Effect → Origin → External → Result External
  isAdmin : Origin → Bool
  chainId : ChainId
  proposalLifetime : BlockNumber
  nativeResourceId : ResourceId
  tryGetAssetId : ChainId → List UInt8 → External → Option TokenId
  /-- The account that dispatches approved proposals. -/
  accountId : AccountId

instance (cfg : Config) : DecidableEq cfg.Effect := cfg.decEqEffect

/-- A call of the runtime. -/
inductive Call (Effect : Type)
  | setThreshold (threshold : U32)
  | setResource (id : ResourceId) (method : List UInt8)
  | removeResource (id : ResourceId)
  | whitelistChain (id : ChainId)
  | addRelayer (v : AccountId)
  | removeRelayer (v : AccountId)
  | acknowledgeProposal (nonce : DepositNonce) (srcId : ChainId) (rId : ResourceId)
      (evmHash : EvmHash) (call : Call Effect)
  | rejectProposal (nonce : DepositNonce) (srcId : ChainId) (rId : ResourceId) (call : Call Effect)
  | evalVoteState (nonce : DepositNonce) (srcId : ChainId) (prop : Call Effect)
  /-- A call of another pallet that sends a transfer to `destId`. -/
  | transferOut (destId : ChainId)
  /-- A call of another pallet that leaves the bridge alone. -/
  | other (effect : Effect)
  /-- Two calls, one after the other. -/
  | both (first second : Call Effect)
  /-- A call of another pallet that dispatches `call` as `origin` and fails if `call` does. -/
  | dispatchAs (origin : Origin) (call : Call Effect)
  /-- A call of another pallet that dispatches `call` as `origin` and succeeds even if `call` fails. -/
  | attempt (origin : Origin) (call : Call Effect)
  deriving DecidableEq

inductive ProposalStatus
  | initiated
  | approved
  | rejected
  deriving DecidableEq

structure ProposalVotes where
  votesFor : List AccountId
  votesAgainst : List AccountId
  status : ProposalStatus
  expiry : BlockNumber
  deriving DecidableEq

namespace ProposalVotes

def empty (expiry : BlockNumber) : ProposalVotes := ⟨[], [], .initiated, expiry⟩

/-- The votes with their new status, and the status. -/
def tryToComplete (votes : ProposalVotes) (threshold total : U32) :
    ProposalVotes × ProposalStatus :=
  if threshold.toNat ≤ votes.votesFor.length then
    ({ votes with status := .approved }, .approved)
  else if threshold ≤ total ∧ total < BitVec.ofNat 32 votes.votesAgainst.length + threshold then
    ({ votes with status := .rejected }, .rejected)
  else
    (votes, .initiated)

def isComplete (votes : ProposalVotes) : Bool := votes.status ≠ .initiated

def hashVoted (votes : ProposalVotes) (who : AccountId) : Bool :=
  who ∈ votes.votesFor ∨ who ∈ votes.votesAgainst

def isExpired (votes : ProposalVotes) (now : BlockNumber) : Bool := votes.expiry ≤ now

end ProposalVotes

/-- What a proposal is identified by. -/
abbrev Key (Effect : Type) := ChainId × DepositNonce × Call Effect

/-- What is written down of a run: the votes that were cast and the proposals that were dispatched. -/
inductive Entry (Effect : Type)
  /-- `who` voted at block `now`, before the proposal's `expiry`; `relayer` is the entry of `who` among
  the relayers then. -/
  | vote (key : Key Effect) (who : AccountId) (inFavour relayer : Bool) (now expiry : BlockNumber)
  /-- The proposal was dispatched, with `threshold` stored as the relayer threshold. -/
  | executed (key : Key Effect) (threshold : U32)
  deriving DecidableEq

structure State (cfg : Config) where
  now : BlockNumber
  chains : StorageMap ChainId DepositNonce
  relayerThreshold : U32
  relayers : StorageMap AccountId Bool
  relayerCount : U32
  votes : StorageMap (Key cfg.Effect) ProposalVotes
  resources : StorageMap ResourceId (List UInt8)
  external : cfg.External
  /-- The entries so far, the last one first. The pallet has no such item and never reads it. -/
  history : List (Entry cfg.Effect)

variable {cfg : Config}

def State.genesis (external : cfg.External) : State cfg where
  now := 0
  chains := fun _ => none
  relayerThreshold := defaultRelayerThreshold
  relayers := fun _ => none
  relayerCount := 0
  votes := fun _ => none
  resources := fun _ => none
  external := external
  history := []

def isRelayer (who : AccountId) (s : State cfg) : Bool := (s.relayers who).getD false

def resourceExists (id : ResourceId) (s : State cfg) : Bool := (s.resources id).isSome

def chainWhitelisted (id : ChainId) (s : State cfg) : Bool := (s.chains id).isSome

def bumpNonce (id : ChainId) (s : State cfg) : State cfg :=
  { s with chains := s.chains.insert id ((s.chains id).getD 0 + 1) }

/-! ### Administration -/

def ensureAdmin (cfg : Config) (origin : Origin) : Result Unit :=
  ensure (cfg.isAdmin origin) DispatchError.badOrigin

def setRelayerThreshold (threshold : U32) (s : State cfg) : Result (State cfg) := do
  ensure (threshold > 0) BridgeError.invalidThreshold
  return { s with relayerThreshold := threshold }

def registerResource (id : ResourceId) (method : List UInt8) (s : State cfg) : State cfg :=
  { s with resources := s.resources.insert id method }

def unregisterResource (id : ResourceId) (s : State cfg) : State cfg :=
  { s with resources := s.resources.remove id }

def whitelist (id : ChainId) (s : State cfg) : Result (State cfg) := do
  ensure (id ≠ cfg.chainId) BridgeError.invalidChainId
  ensure (¬ chainWhitelisted id s) BridgeError.chainAlreadyWhitelisted
  return { s with chains := s.chains.insert id 0 }

def registerRelayer (relayer : AccountId) (s : State cfg) : Result (State cfg) := do
  ensure (¬ isRelayer relayer s) BridgeError.relayerAlreadyExists
  return { s with
    relayers := s.relayers.insert relayer true
    relayerCount := s.relayerCount + 1 }

def unregisterRelayer (relayer : AccountId) (s : State cfg) : Result (State cfg) := do
  ensure (isRelayer relayer s) BridgeError.relayerInvalid
  return { s with
    relayers := s.relayers.remove relayer
    relayerCount := s.relayerCount - 1 }

/-- The chain, the exchange and the contract a resource id stands for. -/
def decodeResourceId (rId : ResourceId) : Option (ChainId × UInt8 × List UInt8) :=
  let chainId := BitVec.ofNat 16 (Bytes.leNat (rId.toList.drop 30))
  let dex := rId.get 29
  let idLen := (rId.get 0).toNat
  if idLen > 28 ∨ idLen < 1 then none
  else some (chainId, dex, (rId.toList.drop (29 - idLen)).take idLen)

def setResource (id : ResourceId) (method : List UInt8) (s : State cfg) : Result (State cfg) := do
  if id ≠ cfg.nativeResourceId then
    let (chainId, _, contract) ← okOr (decodeResourceId id) BridgeError.invalidResourceId
    let _ ← okOr (cfg.tryGetAssetId chainId contract s.external) BridgeError.resourceIdNotMapToToken
  return registerResource id method s

/-! ### Voting -/

/-- The votes of a proposal, or those of one that starts now. -/
def votesOrNew (key : Key cfg.Effect) (s : State cfg) : ProposalVotes :=
  match s.votes key with
  | some votes => votes
  | none => .empty ((s.now + cfg.proposalLifetime) % 2 ^ 32)

def commitVote (who : AccountId) (nonce : DepositNonce) (srcId : ChainId) (prop : Call cfg.Effect)
    (inFavour : Bool) (s : State cfg) : Result (State cfg) := do
  let key := (srcId, nonce, prop)
  let votes := votesOrNew key s
  ensure (¬ votes.isComplete) BridgeError.proposalAlreadyComplete
  ensure (¬ votes.isExpired s.now) BridgeError.proposalExpired
  ensure (¬ votes.hashVoted who) BridgeError.relayerAlreadyVoted
  let votes :=
    if inFavour then { votes with votesFor := votes.votesFor ++ [who] }
    else { votes with votesAgainst := votes.votesAgainst ++ [who] }
  return { s with
    votes := s.votes.insert key votes
    history := .vote key who inFavour (isRelayer who s) s.now votes.expiry :: s.history }

/-- `dispatch` is the dispatch of the proposal by the pallet's account. -/
def finalizeExecution (dispatch : State cfg → Result (State cfg)) (srcId : ChainId)
    (nonce : DepositNonce) (call : Call cfg.Effect) (s : State cfg) : Result (State cfg) :=
  dispatch { s with history := .executed (srcId, nonce, call) s.relayerThreshold :: s.history }

def tryResolveProposal (dispatch : State cfg → Result (State cfg)) (nonce : DepositNonce)
    (srcId : ChainId) (prop : Call cfg.Effect) (s : State cfg) : Result (State cfg) := do
  let key := (srcId, nonce, prop)
  match s.votes key with
  | some votes =>
      ensure (¬ votes.isComplete) BridgeError.proposalAlreadyComplete
      ensure (¬ votes.isExpired s.now) BridgeError.proposalExpired
      let (votes, status) := votes.tryToComplete s.relayerThreshold s.relayerCount
      let s := { s with votes := s.votes.insert key votes }
      match status with
      | .approved => finalizeExecution dispatch srcId nonce prop s
      | _ => return s
  | none => .error BridgeError.proposalDoesNotExist

def voteFor (dispatch : State cfg → Result (State cfg)) (who : AccountId) (nonce : DepositNonce)
    (srcId : ChainId) (prop : Call cfg.Effect) (s : State cfg) : Result (State cfg) := do
  let s ← commitVote who nonce srcId prop true s
  tryResolveProposal dispatch nonce srcId prop s

def voteAgainst (dispatch : State cfg → Result (State cfg)) (who : AccountId) (nonce : DepositNonce)
    (srcId : ChainId) (prop : Call cfg.Effect) (s : State cfg) : Result (State cfg) := do
  let s ← commitVote who nonce srcId prop false s
  tryResolveProposal dispatch nonce srcId prop s

/-- The checks made of a voter and of what is voted on. -/
def ensureMayVote (who : AccountId) (srcId : ChainId) (rId : ResourceId) (s : State cfg) :
    Result Unit := do
  ensure (isRelayer who s) BridgeError.mustBeRelayer
  ensure (chainWhitelisted srcId s) BridgeError.chainNotWhitelisted
  ensure (resourceExists rId s) BridgeError.resourceDoesNotExist

/-! ### Dispatch -/

/-- A call either fails, and then the storage is what it was, or leaves a new storage. -/
def dispatch : Call cfg.Effect → Origin → State cfg → Result (State cfg)
  | .setThreshold threshold, origin, s => do
      ensureAdmin cfg origin
      setRelayerThreshold threshold s
  | .setResource id method, origin, s => do
      ensureAdmin cfg origin
      setResource id method s
  | .removeResource id, origin, s => do
      ensureAdmin cfg origin
      return unregisterResource id s
  | .whitelistChain id, origin, s => do
      ensureAdmin cfg origin
      whitelist id s
  | .addRelayer v, origin, s => do
      ensureAdmin cfg origin
      registerRelayer v s
  | .removeRelayer v, origin, s => do
      ensureAdmin cfg origin
      unregisterRelayer v s
  | .acknowledgeProposal nonce srcId rId _ call, origin, s => do
      let who ← ensureSigned origin
      ensureMayVote who srcId rId s
      voteFor (dispatch call (.signed cfg.accountId)) who nonce srcId call s
  | .rejectProposal nonce srcId rId call, origin, s => do
      let who ← ensureSigned origin
      ensureMayVote who srcId rId s
      voteAgainst (dispatch call (.signed cfg.accountId)) who nonce srcId call s
  | .evalVoteState nonce srcId prop, origin, s => do
      let _ ← ensureSigned origin
      tryResolveProposal (dispatch prop (.signed cfg.accountId)) nonce srcId prop s
  | .transferOut destId, _, s => do
      ensure (chainWhitelisted destId s) BridgeError.chainNotWhitelisted
      return bumpNonce destId s
  | .other effect, origin, s => do
      let external ← cfg.perform effect origin s.external
      return { s with external }
  | .both first second, origin, s => do
      let s ← dispatch first origin s
      dispatch second origin s
  | .dispatchAs origin call, _, s => dispatch call origin s
  | .attempt origin call, _, s =>
      match dispatch call origin s with
      | .ok s' => .ok s'
      | .error (.err _) => .ok s
      | .error .panic => .error .panic

/-- A step of the chain: a call is included in the block, or a block ends. -/
inductive Step : State cfg → State cfg → Prop
  | call {s s' : State cfg} (c : Call cfg.Effect) (origin : Origin) (h : dispatch c origin s = .ok s') :
      Step s s'
  | block (s : State cfg) (external : cfg.External) :
      Step s { s with now := (s.now + 1) % 2 ^ 32, external }

/-- The storage of the bridge starts empty. -/
def Init (s : State cfg) : Prop := ∃ external, s = .genesis external

end Fusotao.ChainBridge
