import Fusotao.ChainBridge.Pallet
import Fusotao.Verifier.Pallet

/-!
# Bringing tokens in over the bridge

The bridge dispatches `transferIn` for a transfer on another chain. The recipient gets the amount, and if the
resource names a dominator, the amount is authorised to it at once.
-/

namespace Fusotao.ChainBridgeHandler

open Exec
open ChainBridge (ResourceId)

/-- What the runtime configures. -/
structure Config where
  verifier : Verifier.Config
  /-- The account that dispatches approved proposals. -/
  bridgeAccount : AccountId
  nativeResourceId : ResourceId
  donorAccount : AccountId
  donationForAgent : U128

structure State (cfg : Config) where
  associatedDominator : StorageMap U8 AccountId
  /-- The nonces in `frame_system`. -/
  accountNonce : AccountId → U32
  verifier : Verifier.State cfg.verifier

variable {cfg : Config}

/-- The chain, the dominator's number and the contract that a resource stands for. -/
def decodeResourceId (rId : ResourceId) : Option (ChainId × U8 × List UInt8) :=
  let chainId := BitVec.ofNat 16 (Bytes.leNat (rId.toList.drop 30))
  let dex := (rId.get ⟨29, by decide⟩).toBitVec
  let idLen := rId.head.toNat
  if idLen > 28 ∨ idLen < 1 then none
  else some (chainId, dex, (rId.toList.drop (29 - idLen)).take idLen)

def isNativeResource (cfg : Config) (rId : ResourceId) : Bool :=
  match decodeResourceId rId, decodeResourceId cfg.nativeResourceId with
  | some (origin, _, p), some (native, _, p0) => native = origin ∧ p = p0
  | _, _ => false

def ensureBridge (cfg : Config) : Origin → Result AccountId
  | .signed who =>
      if who = cfg.bridgeAccount then .ok cfg.bridgeAccount else .error DispatchError.badOrigin
  | .root => .error DispatchError.badOrigin

def doUnlock (sender target : AccountId) (amount : U128) (s : State cfg) : Result (State cfg) := do
  let (_, asset) ← Token.transferToken sender cfg.verifier.token.nativeTokenId amount target
    s.verifier.asset
  return { s with verifier := { s.verifier with asset } }

def doMintAssets (who : AccountId) (amount : U128) (rId : ResourceId) (s : State cfg) :
    Result (State cfg) := do
  let (chainId, _, contract) ← okOr (decodeResourceId rId) HandlerError.invalidResourceId
  let tokenId ← okOr (s.verifier.asset.tokenByContract (chainId, contract)) HandlerError.invalidResourceId
  let asset ← Token.doMint tokenId who amount s.verifier.asset
  return { s with verifier := { s.verifier with asset } }

/-- What came in is authorised to the dominator, if that can be done. -/
def host (target dominator : AccountId) (token : TokenId) (amount : U128) (s : State cfg) :
    Result (State cfg) := do
  let b ← mapErr (.handler .invalidResourceId) (Token.toAssetBalance amount token s.verifier.asset)
  let verifier ← ignoreError s.verifier (Verifier.authorizeTo target dominator token b s.verifier)
  return { s with verifier }

/-- Unlock or mint, and host. -/
def bringIn (source target : AccountId) (amount : U128) (rId : ResourceId) (s : State cfg) :
    Result (State cfg) :=
  if isNativeResource cfg rId then do
    let s ← doUnlock source target amount s
    let (_, associated, _) ← okOr (decodeResourceId rId) HandlerError.invalidResourceId
    match s.associatedDominator associated with
    | some dominator => host target dominator cfg.verifier.token.nativeTokenId amount s
    | none => return s
  else do
    let s ← doMintAssets target amount rId s
    let (chainId, associated, contract) ← okOr (decodeResourceId rId) HandlerError.invalidResourceId
    match s.associatedDominator associated with
    | some dominator => do
        let token ← okOr (s.verifier.asset.tokenByContract (chainId, contract))
          HandlerError.invalidResourceId
        host target dominator token amount s
    | none => return s

/-- An account that has not sent a transaction yet is given something to pay fees with. -/
def donate (target : AccountId) (s : State cfg) : Result (State cfg) :=
  if s.accountNonce target = 0 then
    ignoreError s (do
      let (_, asset) ← Token.transferToken cfg.donorAccount cfg.verifier.token.nativeTokenId
        cfg.donationForAgent target s.verifier.asset
      return { s with verifier := { s.verifier with asset } })
  else
    return s

def transferIn (origin : Origin) (target : AccountId) (amount : U128) (rId : ResourceId) (s : State cfg) :
    Result (State cfg) := do
  let source ← ensureBridge cfg origin
  let s ← bringIn source target amount rId s
  donate target s

/-- The administrator names the dominator of a number. -/
def associateDominator (associateId : U8) (dominatorAccount : AccountId) (s : State cfg) : State cfg :=
  { s with associatedDominator := s.associatedDominator.insert associateId dominatorAccount }

end Fusotao.ChainBridgeHandler
