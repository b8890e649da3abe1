import Fusotao.Base.Exec
import Fusotao.Base.Word
import Fusotao.Base.Bytes
import Fusotao.Base.StorageMap
import Mathlib.Data.Fintype.Basic

/-!
# Types and constants shared by the pallets

The types of the runtime configuration, the constants of `fuso-support`, and the ways a call ends
without a result. An error rolls the call back; a panic is kept apart, since no caller can handle it.
-/

namespace Fusotao

abbrev U8 := BitVec 8
abbrev U32 := BitVec 32
abbrev U128 := BitVec 128
abbrev AccountId := Bytes 32
abbrev TokenId := U32
abbrev MerkleHash := Bytes 32
abbrev ChainId := BitVec 16
abbrev BlockNumber := Nat
abbrev Season := Nat
/-- A trading pair, the base token and the quote token. -/
abbrev Symbol := TokenId × TokenId

instance : LawfulBEq AccountId := inferInstance

def standardDecimals : Nat := 18
def maxDecimals : Nat := 24

/-- The constants `RESERVE_FOR_…`: what a reserve is held for. -/
inductive ReserveId
  | staking
  | authorizing
  | authorizingStash
  | pendingUnstake
  deriving DecidableEq

instance : Fintype ReserveId where
  elems := {.staking, .authorizing, .authorizingStash, .pendingUnstake}
  complete kind := by cases kind <;> decide

/-- The constants `DOMINATOR_…`. -/
inductive DominatorStatus
  | registered
  | inactive
  | active
  | evicted
  deriving DecidableEq

/-- A token of another chain, or (`fnd10`) of this one. -/
inductive XToken
  | nep141 (symbol contract : List UInt8) (total : U128) (stable : Bool) (decimals : Nat)
  | erc20 (symbol contract : List UInt8) (total : U128) (stable : Bool) (decimals : Nat)
  | bep20 (symbol contract : List UInt8) (total : U128) (stable : Bool) (decimals : Nat)
  | fnd10 (symbol : List UInt8) (total : U128)
  | polygon (symbol contract : List UInt8) (total : U128) (stable : Bool) (decimals : Nat)
  deriving DecidableEq

namespace XToken

def isStable : XToken → Bool
  | nep141 _ _ _ stable _ | erc20 _ _ _ stable _ | polygon _ _ _ stable _ | bep20 _ _ _ stable _ => stable
  | fnd10 _ _ => false

/-- The issued amount. -/
def total : XToken → U128
  | nep141 _ _ total _ _ | erc20 _ _ total _ _ | polygon _ _ total _ _ | bep20 _ _ total _ _ => total
  | fnd10 _ total => total

/-- The decimals on the other chain; a token of this chain has none. -/
def decimals? : XToken → Option Nat
  | nep141 _ _ _ _ decimals | erc20 _ _ _ _ decimals | polygon _ _ _ _ decimals
  | bep20 _ _ _ _ decimals => some decimals
  | fnd10 _ _ => none

def setTotal (total : U128) : XToken → XToken
  | nep141 symbol contract _ stable decimals => nep141 symbol contract total stable decimals
  | erc20 symbol contract _ stable decimals => erc20 symbol contract total stable decimals
  | bep20 symbol contract _ stable decimals => bep20 symbol contract total stable decimals
  | fnd10 symbol _ => fnd10 symbol total
  | polygon symbol contract _ stable decimals => polygon symbol contract total stable decimals

def setStable (stable : Bool) : XToken → XToken
  | nep141 symbol contract total _ decimals => nep141 symbol contract total stable decimals
  | erc20 symbol contract total _ decimals => erc20 symbol contract total stable decimals
  | bep20 symbol contract total _ decimals => bep20 symbol contract total stable decimals
  | fnd10 symbol total => fnd10 symbol total
  | polygon symbol contract total _ decimals => polygon symbol contract total stable decimals

@[simp] theorem total_setTotal (token : XToken) (t : U128) : (token.setTotal t).total = t := by
  cases token <;> rfl

@[simp] theorem decimals?_setTotal (token : XToken) (t : U128) :
    (token.setTotal t).decimals? = token.decimals? := by
  cases token <;> rfl

@[simp] theorem total_setStable (token : XToken) (b : Bool) : (token.setStable b).total = token.total := by
  cases token <;> rfl

@[simp] theorem decimals?_setStable (token : XToken) (b : Bool) :
    (token.setStable b).decimals? = token.decimals? := by
  cases token <;> rfl

end XToken

/-! ### Errors -/

inductive TokenError
  | amountZero
  | balanceLow
  | balanceZero
  | invalidTokenName
  | tokenNotFound
  | insufficientBalance
  | overflow
  | tooManyReserves
  | invalidDecimals
  | contractError
  deriving DecidableEq

inductive VerifierError
  | dominatorNotFound
  | proofsUnsatisfied
  | illegalParameters
  | receiptNotExists
  | chainNotSupport
  | receiptAlreadyExists
  | dominatorAlreadyExists
  | tooEarlyToRegister
  | dominatorInactive
  | insufficientBalance
  | overflow
  | insufficientStakingAmount
  | invalidName
  | invalidStatus
  | invalidStaking
  | stakingNotExists
  | distributionOngoing
  | littleStakingAmount
  | unsupportedQuoteCurrency
  | dominatorEvicted
  | dominatorStatusInvalid
  | feesTooHigh
  | proofDecompressError
  | proofFormatError
  | proofTooLarge
  | invalidBeneficiaryProof
  deriving DecidableEq

inductive BridgeError
  | thresholdNotSet
  | invalidChainId
  | invalidThreshold
  | chainNotWhitelisted
  | chainAlreadyWhitelisted
  | resourceDoesNotExist
  | relayerAlreadyExists
  | relayerInvalid
  | mustBeRelayer
  | relayerAlreadyVoted
  | proposalAlreadyExists
  | proposalDoesNotExist
  | proposalNotComplete
  | proposalAlreadyComplete
  | proposalExpired
  | resourceIdNotMapToToken
  | invalidResourceId
  deriving DecidableEq

inductive HandlerError
  | invalidTransfer
  | invalidTokenId
  | invalidResourceId
  | wrongAssetId
  | invalidTokenName
  | overTransferLimit
  | assetAlreadyExists
  | invalidCallMessage
  | registerAgentFailed
  | depositerNotFound
  | priceOverflow
  | lessThanBridgingThreshold
  | resourceIdInvalid
  | feeZero
  deriving DecidableEq

inductive FoundationError
  | alreadyExists
  | epochNotReached
  | invalidApprover
  deriving DecidableEq

inductive RewardError
  | overflow
  | divideByZero
  | rewardNotFound
  | insufficientLiquidity
  | liquidityNotFound
  deriving DecidableEq

inductive AgentError
  | invalidSignature
  deriving DecidableEq

inductive TournamentError
  | seasonNotFound
  | npcNotFound
  | battleNotFound
  | npcNotInBattle
  | battleTimeError
  | battleStatusError
  | duplicateBetting
  | battleNpcCantSame
  | bettingOverTime
  | timeFormatError
  | invalidResourceId
  | seasonStatusError
  | defaultSeasonNotFound
  | ticketAmountError
  | ticketPriceTooSmall
  | participantOverflow
  | haveNoBonus
  | insufficientBalance
  | buyTicketOverTime
  | battleNotInSeason
  | voteSelectZero
  | selectIndexOverflow
  | battleTypeError
  | addrListInputError
  | bettingParamsError
  | pledgeAmountZero
  | bettingNotFound
  | bettingAmountOverflow
  | bettingError
  | bettingAmountTooSmall
  | permissonDeny
  deriving DecidableEq

inductive BotError
  | botAlreadyExist
  | botNotFound
  | invalidSymbol
  | invalidCurrency
  | beyondMaxInstance
  | minimalAmountRequired
  deriving DecidableEq

inductive MarketError
  | unsupportedQuoteCurrency
  | tokenNotFound
  | marketNotRegistered
  | marketCouldntUpdate
  | marketNotExists
  | marketScaleOverflow
  deriving DecidableEq

inductive DispatchError
  | badOrigin
  | token (e : TokenError)
  | verifier (e : VerifierError)
  | bridge (e : BridgeError)
  | handler (e : HandlerError)
  | foundation (e : FoundationError)
  | reward (e : RewardError)
  | agent (e : AgentError)
  | tournament (e : TournamentError)
  | bot (e : BotError)
  | market (e : MarketError)
  /-- An error of a pallet outside this repository. -/
  | other
  deriving DecidableEq

/-- How a call ends without a result. -/
inductive Abort
  | err (e : DispatchError)
  | panic
  deriving DecidableEq

instance : Coe DispatchError Abort := ⟨.err⟩
instance : Coe TokenError Abort := ⟨fun e => .err (.token e)⟩
instance : Coe VerifierError Abort := ⟨fun e => .err (.verifier e)⟩
instance : Coe BridgeError Abort := ⟨fun e => .err (.bridge e)⟩
instance : Coe HandlerError Abort := ⟨fun e => .err (.handler e)⟩
instance : Coe FoundationError Abort := ⟨fun e => .err (.foundation e)⟩
instance : Coe RewardError Abort := ⟨fun e => .err (.reward e)⟩
instance : Coe AgentError Abort := ⟨fun e => .err (.agent e)⟩
instance : Coe TournamentError Abort := ⟨fun e => .err (.tournament e)⟩
instance : Coe BotError Abort := ⟨fun e => .err (.bot e)⟩
instance : Coe MarketError Abort := ⟨fun e => .err (.market e)⟩

abbrev Result (α : Type) := Except Abort α

/-- A call inside another one whose error is ignored: the storage is then what it was. -/
def ignoreError {σ : Type} (s : σ) : Result σ → Result σ
  | .ok s' => .ok s'
  | .error (.err _) => .ok s
  | .error .panic => .error .panic

theorem ignoreError_eq_ok {σ : Type} {s s' : σ} {r : Result σ} (h : ignoreError s r = .ok s') :
    r = .ok s' ∨ s' = s := by
  cases r with
  | ok a => exact .inl h
  | error abort =>
      cases abort with
      | err e => exact .inr (Except.ok.inj h).symm
      | panic => exact absurd h (by simp [ignoreError])

def panics {α : Type} : Result α → Bool
  | .error .panic => true
  | _ => false

theorem panics_iff {α : Type} {r : Result α} : panics r = true ↔ r = .error .panic := by
  cases r with
  | ok a => simp [panics]
  | error abort => cases abort <;> simp [panics]

/-- A result whose error is replaced. -/
def mapErr {α : Type} (e : DispatchError) : Result α → Result α
  | .error (.err _) => .error e
  | r => r

@[simp] theorem mapErr_eq_ok {α : Type} {e : DispatchError} {r : Result α} {a : α} :
    mapErr e r = .ok a ↔ r = .ok a := by
  cases r with
  | ok b => rfl
  | error abort => cases abort <;> simp [mapErr]

/-- Who dispatches a call. -/
inductive Origin
  | root
  | signed (who : AccountId)
  deriving DecidableEq

def ensureSigned : Origin → Result AccountId
  | .signed who => .ok who
  | .root => .error DispatchError.badOrigin

def ensureRoot : Origin → Result Unit
  | .root => .ok ()
  | .signed _ => .error DispatchError.badOrigin

@[simp] theorem ensureSigned_eq_ok {origin : Origin} {who : AccountId} :
    ensureSigned origin = .ok who ↔ origin = .signed who := by
  cases origin <;> simp [ensureSigned]

@[simp] theorem ensureRoot_eq_ok {origin : Origin} {u : Unit} :
    ensureRoot origin = .ok u ↔ origin = .root := by
  cases origin <;> simp [ensureRoot]

end Fusotao
