import Fusotao.Agent.Payload
import Fusotao.Base.Transition

/-!
# Transactions signed by other keys

An Ethereum key signs a transaction and a nonce, and anyone may submit them. Before the transaction is dispatched its
nonce is compared with the one in the account record of `frame_system`, and the one in the record goes on. The record
is there as long as something refers to it. The rest of the runtime is a parameter: what a call does to the other
storage, and to the records.
-/

namespace Fusotao.Agent

open Exec Word

abbrev Index := U32

/-! ### Weights -/

structure Weight where
  refTime : BitVec 64
  proofSize : BitVec 64

namespace Weight

def min (w w' : Weight) : Weight where
  refTime := if w.refTime ≤ w'.refTime then w.refTime else w'.refTime
  proofSize := if w.proofSize ≤ w'.proofSize then w.proofSize else w'.proofSize

def saturatingDiv (w : Weight) (scalar : BitVec 64) : Weight := ⟨w.refTime / scalar, w.proofSize / scalar⟩

/-- One of the two is less. -/
def anyLt (w w' : Weight) : Prop := w.refTime < w'.refTime ∨ w.proofSize < w'.proofSize

instance (w w' : Weight) : Decidable (w.anyLt w') := inferInstanceAs (Decidable (_ ∨ _))

end Weight

inductive DispatchClass
  | normal
  | operational
  | mandatory

structure DispatchInfo where
  weight : Weight
  dispatchClass : DispatchClass

/-! ### The runtime -/

inductive ExternalVerifiable (Tx : Type)
  | ed25519 (publicKey : Bytes 32) (tx : Tx) (nonce : Index) (signature : Bytes 64)
  | ecdsa (tx : Tx) (nonce : Index) (signature : Bytes 65)

namespace ExternalVerifiable

variable {Tx : Type}

def tx : ExternalVerifiable Tx → Tx
  | ed25519 _ tx _ _ | ecdsa tx _ _ => tx

def nonce : ExternalVerifiable Tx → Index
  | ed25519 _ _ nonce _ | ecdsa _ nonce _ => nonce

end ExternalVerifiable

/-- An `AccountInfo`: the nonce, and the references (providers and sufficients) that keep the record. -/
structure AccountInfo where
  nonce : Index
  references : Nat
  deriving DecidableEq

instance : Inhabited AccountInfo := ⟨⟨0, 0⟩⟩

/-- What a call does to the account records. -/
inductive AccountOp
  | reference (who : AccountId)
  | release (who : AccountId)
  | incNonce (who : AccountId)

/-- The runtime around the pallet, and the functions of the host. -/
structure Config where
  Tx : Type
  /-- The storage apart from the account records. -/
  Store : Type
  encode : Index × Tx → List UInt8
  keccak256 : List UInt8 → Bytes 32
  secp256k1EcdsaRecover : Bytes 65 → Bytes 32 → Option (Bytes 64)
  blake2_256 : List UInt8 → Bytes 32
  mainOrTestnet : BitVec 16
  getDispatchInfo : Tx → DispatchInfo
  encodedSize : ExternalVerifiable Tx → Nat
  /-- The length limit of a block for normal extrinsics. -/
  maxLength : U32
  maxBlock : Weight
  baseExtrinsic : DispatchClass → Weight
  weightToFee : Weight → U128
  transactionByteFee : U128
  /-- `Currency::withdraw` with `KeepAlive`, `none` being an error. -/
  withdraw : AccountId → U128 → Store → Option Store
  /-- Dispatch a transaction as signed by an account, `none` being an error. -/
  dispatch : Tx → AccountId → StorageMap AccountId AccountInfo → Store → Option (Store × List AccountOp)

/-- What is written down of a run. -/
inductive Entry (Tx : Type)
  /-- A transaction was executed for its account. -/
  | executed (account : AccountId) (nonce : Index) (tx : Tx)
  /-- The last reference to a record went, and the record with it. -/
  | dropped (who : AccountId)
  /-- A nonce went back to zero. -/
  | wrapped (who : AccountId)
  deriving DecidableEq

structure State (cfg : Config) where
  accounts : StorageMap AccountId AccountInfo
  store : cfg.Store
  /-- The entries so far, the last one last. The runtime has no such item and never reads it. -/
  history : List (Entry cfg.Tx)

variable {cfg : Config}

/-! ### The account records -/

def accountNonce (who : AccountId) (s : State cfg) : Index := ((s.accounts who).getD default).nonce

def incAccountNonce (who : AccountId) (s : State cfg) : State cfg :=
  let info := (s.accounts who).getD default
  { s with
    accounts := s.accounts.insert who { info with nonce := info.nonce + 1 }
    history := if info.nonce + 1 = 0 then s.history ++ [.wrapped who] else s.history }

def applyOp (s : State cfg) : AccountOp → State cfg
  | .reference who =>
      let info := (s.accounts who).getD default
      { s with accounts := s.accounts.insert who { info with references := info.references + 1 } }
  | .release who =>
      match s.accounts who with
      | none => s
      | some info =>
          if info.references ≤ 1 then
            { s with accounts := s.accounts.remove who, history := s.history ++ [.dropped who] }
          else
            { s with accounts := s.accounts.insert who { info with references := info.references - 1 } }
  | .incNonce who => incAccountNonce who s

/-- The effects of a call, or none if it fails. -/
def applyEffects (s : State cfg) : Option (cfg.Store × List AccountOp) → State cfg
  | some (store, ops) => ops.foldl applyOp { s with store := store }
  | none => s

/-! ### The pallet -/

def accountPrefix : List UInt8 := "-*-#fusotao#-*-".toUTF8.toList

/-- The account of an Ethereum address of 20 bytes; its length is encoded in one byte. -/
def accountOf (cfg : Config) (address : List UInt8) : AccountId :=
  cfg.blake2_256 (accountPrefix ++ Bytes.leBytes 2 cfg.mainOrTestnet.toNat ++
    UInt8.ofNat (address.length * 4) :: address)

def extract (cfg : Config) : ExternalVerifiable cfg.Tx → Result AccountId
  | .ed25519 .. => .error AgentError.invalidSignature
  | .ecdsa tx nonce signature => do
      let msg := extendPayload cfg.encode nonce tx
      let digest := cfg.keccak256 msg
      let pubkey ← okOr (cfg.secp256k1EcdsaRecover signature digest) AgentError.invalidSignature
      let address := (cfg.keccak256 pubkey.toList).toList.drop 12
      return accountOf cfg address

inductive InvalidTransaction
  | payment
  | badProof
  | exhaustsResources
  deriving DecidableEq

def withdrawFee (who : AccountId) (fee : U128) (s : State cfg) : Except InvalidTransaction (State cfg) := do
  if fee = 0 then
    return s
  let store ← okOr (cfg.withdraw who fee s.store) .payment
  return { s with store }

/-- `Self::weight_to_fee`, which caps the weight. -/
def cappedWeightToFee (cfg : Config) (weight : Weight) : U128 := cfg.weightToFee (weight.min cfg.maxBlock)

def computeFee (cfg : Config) (len : U32) (weight : Weight) (dispatchClass : DispatchClass) : U128 :=
  let lenFee := saturatingMul cfg.transactionByteFee (len.setWidth 128)
  let weightFee := cappedWeightToFee cfg weight
  let baseFee := cappedWeightToFee cfg (cfg.baseExtrinsic dispatchClass)
  saturatingAdd (saturatingAdd baseFee lenFee) weightFee

structure ValidTransaction where
  priority : BitVec 64
  /-- What `and_provides` is given, behind the prefix `"FusoAgent"`. -/
  provides : AccountId
  longevity : BitVec 64
  propagate : Bool

def validateUnsigned (tx : ExternalVerifiable cfg.Tx) (s : State cfg) :
    Except InvalidTransaction (ValidTransaction × State cfg) := do
  let account ← (extract cfg tx).mapError fun _ => .badProof
  let index := accountNonce account s
  ensure (index = tx.nonce) .badProof
  let s := incAccountNonce account s
  let info := cfg.getDispatchInfo tx.tx
  ensure (cfg.encodedSize tx < 2 ^ 32) .exhaustsResources
  let len : U32 := BitVec.ofNat 32 (cfg.encodedSize tx)
  ensure (len < cfg.maxLength) .exhaustsResources
  ensure (info.weight.anyLt (cfg.maxBlock.saturatingDiv 5)) .exhaustsResources
  let fee := computeFee cfg len info.weight info.dispatchClass
  let s ← withdrawFee account fee s
  return ({ priority := info.weight.refTime, provides := account, longevity := 5, propagate := true }, s)

inductive RawOrigin
  | none
  | other (origin : Origin)

/-- The result of the transaction only goes into an event. -/
def submitExternalTx (origin : RawOrigin) (tx : ExternalVerifiable cfg.Tx) (s : State cfg) : Result (State cfg) := do
  match origin with
  | .other _ => .error DispatchError.badOrigin
  | .none => do
      let account ← extract cfg tx
      match tx with
      | .ed25519 .. => .error AgentError.invalidSignature
      | .ecdsa tx nonce _ =>
          return applyEffects { s with history := s.history ++ [.executed account nonce tx] }
            (cfg.dispatch tx account s.accounts s.store)

/-! ### Extrinsics -/

/-- An unsigned extrinsic in a block: what its validation does stays even if the call fails. -/
def applyUnsigned (tx : ExternalVerifiable cfg.Tx) (s : State cfg) : Except InvalidTransaction (State cfg) := do
  let (_, mid) ← validateUnsigned tx s
  match submitExternalTx .none tx mid with
  | .ok last => return last
  | .error _ => return mid

/-- A signed extrinsic, whose nonce `CheckNonce` compares; `store` is what the payment of its fee leaves. -/
def applySigned (who : AccountId) (nonce : Index) (store : cfg.Store) (tx : cfg.Tx) (s : State cfg) :
    Except InvalidTransaction (State cfg) := do
  ensure (accountNonce who s = nonce) .badProof
  let s := { incAccountNonce who s with store := store }
  return applyEffects s (cfg.dispatch tx who s.accounts s.store)

/-- One step of a chain: an extrinsic, or whatever else happens to the storage and to the records, such as a hook or an
inherent. -/
inductive Step : State cfg → State cfg → Prop
  | external {s s' : State cfg} {tx : ExternalVerifiable cfg.Tx} (h : applyUnsigned tx s = .ok s') : Step s s'
  | signed {s s' : State cfg} {who : AccountId} {nonce : Index} {store : cfg.Store} {tx : cfg.Tx}
      (h : applySigned who nonce store tx s = .ok s') : Step s s'
  | other (s : State cfg) (store : cfg.Store) (ops : List AccountOp) : Step s (applyEffects s (some (store, ops)))

def Init (s : State cfg) : Prop := s.history = []

end Fusotao.Agent
