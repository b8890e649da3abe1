import Fusotao.ChainBridgeHandler.Pallet
import Fusotao.Indicator.Pallet

/-!
# Sending tokens out over the bridge

The sender of a transfer pays a fee to the treasury, in tokens for so many dollars as the destination is configured
to cost. What is left is locked on the bridge's account if the token is the native one, and burnt if it is not; then
it is in units of the other chain, and the sender pays what is lost in rounding to them with the fee.
-/

namespace Fusotao.ChainBridgeHandler

open Exec
open ChainBridge (ResourceId DepositNonce)
open Indicator (quintill Perquintill Prices)

structure OutConfig extends Config where
  treasuryAccount : AccountId
  nativeTokenMaxValue : U128
  perquintill : Perquintill

/-- The event of a transfer to another chain. -/
structure FungibleTransfer where
  destId : ChainId
  nonce : DepositNonce
  resourceId : ResourceId
  amount : BitVec 256
  recipient : List UInt8
  deriving DecidableEq

structure OutState (cfg : OutConfig) extends State cfg.toConfig where
  nativeCheck : Bool
  bridgingFeeInUsd : StorageMap ChainId U128
  /-- The nonces of the bridge, for each chain that is whitelisted. -/
  chains : StorageMap ChainId DepositNonce
  prices : Prices
  /-- The events, the last one first. -/
  transfers : List FungibleTransfer

variable {cfg : OutConfig}

def OutState.asset (s : OutState cfg) : Token.State cfg.verifier.token := s.verifier.asset

def OutState.setAsset (asset : Token.State cfg.verifier.token) (s : OutState cfg) : OutState cfg :=
  { s with verifier := { s.verifier with asset } }

@[simp] theorem OutState.asset_setAsset (asset : Token.State cfg.verifier.token) (s : OutState cfg) :
    (s.setAsset asset).asset = asset := rfl

@[simp] theorem OutState.chains_setAsset (asset : Token.State cfg.verifier.token) (s : OutState cfg) :
    (s.setAsset asset).chains = s.chains := rfl

/-- `bridge::chain_whitelisted`. -/
def chainWhitelisted (destId : ChainId) (s : OutState cfg) : Bool := (s.chains destId).isSome

/-- `bridge::transfer_fungible`. -/
def transferFungible (destId : ChainId) (rId : ResourceId) (recipient : List UInt8) (amount : U128)
    (s : OutState cfg) : Result (OutState cfg) := do
  ensure (chainWhitelisted destId s) BridgeError.chainNotWhitelisted
  let nonce := (s.chains destId).getD 0 + 1
  return { s with
    chains := s.chains.insert destId nonce
    transfers :=
      { destId, nonce, resourceId := rId, amount := amount.setWidth 256, recipient } :: s.transfers }

def bridgingFee (destChainId : ChainId) (s : OutState cfg) : U128 :=
  (s.bridgingFeeInUsd destChainId).getD (quintill * 2)

/-- There is no fee if the oracle does not work. -/
def calculateBridgingFee (destChainId : ChainId) (tokenId : TokenId) (s : OutState cfg) : U128 :=
  let price := Indicator.getPrice tokenId s.asset s.prices
  let usd := bridgingFee destChainId s
  if price = 0 ∨ usd = 0 then 0 else cfg.perquintill.quotient usd price

def transferToken (origin : AccountId) (token : TokenId) (amount : U128) (target : AccountId)
    (s : OutState cfg) : Result (OutState cfg) := do
  let (_, asset) ← Token.transferToken origin token amount target s.asset
  return s.setAsset asset

def doLock (sender : AccountId) (amount : U128) (rId : ResourceId) (recipient : List UInt8) (destId : ChainId)
    (s : OutState cfg) : Result (OutState cfg) := do
  let nativeTokenId := cfg.verifier.token.nativeTokenId
  ensure (s.nativeCheck → ¬ Token.freeBalance nativeTokenId cfg.bridgeAccount s.asset + amount >
    cfg.nativeTokenMaxValue / 3) HandlerError.overTransferLimit
  let fee := calculateBridgingFee destId nativeTokenId s
  ensure (amount > fee + fee) HandlerError.lessThanBridgingThreshold
  let s ← transferToken sender nativeTokenId fee cfg.treasuryAccount s
  let s ← transferToken sender nativeTokenId (amount - fee) cfg.bridgeAccount s
  transferFungible destId rId recipient (amount - fee) s

def doBurnAssets (who : AccountId) (amount : U128) (rId : ResourceId) (recipient : List UInt8) (destId : ChainId)
    (s : OutState cfg) : Result (OutState cfg) := do
  let (chainId, _, contract) ← okOr (decodeResourceId rId) HandlerError.invalidResourceId
  let tokenId ← okOr (s.asset.tokenByContract (chainId, contract)) HandlerError.invalidResourceId
  let externalDecimals ← Token.tokenExternalDecimals tokenId s.asset
  let standardAmount := Token.transformDecimalsToStandard amount externalDecimals
  let fee := calculateBridgingFee destId tokenId s
  ensure (standardAmount > fee + fee) HandlerError.lessThanBridgingThreshold
  let externalBridgeAmount := Token.transformDecimalsToExternal (standardAmount - fee) externalDecimals
  let standardBridgeAmount := Token.transformDecimalsToStandard externalBridgeAmount externalDecimals
  let actualFee := standardAmount - standardBridgeAmount
  let s ← transferToken who tokenId actualFee cfg.treasuryAccount s
  let (_, asset) ← Token.doBurn tokenId who externalBridgeAmount s.asset
  transferFungible destId rId recipient externalBridgeAmount (s.setAsset asset)

def transferOut (origin : Origin) (amount : U128) (rId : ResourceId) (recipient : List UInt8) (destId : ChainId)
    (s : OutState cfg) : Result (OutState cfg) := do
  let source ← ensureSigned origin
  ensure (chainWhitelisted destId s) HandlerError.invalidTransfer
  if isNativeResource cfg.toConfig rId then doLock source amount rId recipient destId s
  else doBurnAssets source amount rId recipient destId s

end Fusotao.ChainBridgeHandler
