import Fusotao.AbyssTournament.Voting
import Fusotao.ChainBridge.Pallet
import Fusotao.Indicator.Pallet

/-!
# Swapping what comes in over the bridge

A stable token that comes in over the bridge is exchanged for the award token at the price of the oracle, as long as
the pool has enough of it. Other tokens are left to the recipient.
-/

namespace Fusotao.AbyssTournament

open Exec
open ChainBridge (ResourceId decodeResourceId)
open Indicator (Perquintill Prices)

structure SwapConfig extends Config where
  /-- The account that dispatches approved proposals. -/
  bridgeAccount : AccountId
  swapPoolAccount : AccountId
  perquintill : Perquintill

variable {cfg : SwapConfig}

def ensureBridge (cfg : SwapConfig) (origin : Origin) : Result Unit :=
  ensure (origin = .signed cfg.bridgeAccount) DispatchError.badOrigin

/-- The token that a contract of another chain stands for. -/
def resourceToken (rId : ResourceId) (s : State cfg.toConfig) : Result TokenId := do
  let (chainId, _, contract) ← okOr (decodeResourceId rId) TournamentError.invalidResourceId
  okOr (s.asset.tokenByContract (chainId, contract)) TournamentError.invalidResourceId

/-- What comes in is minted. -/
def mintTo (target : AccountId) (tokenId : TokenId) (amount : U128) (s : State cfg.toConfig) :
    Result (State cfg.toConfig) := do
  let asset ← Token.doMint tokenId target amount s.asset
  donate target { s with asset }

def deposit (origin : Origin) (target : AccountId) (awt : U128) (rId : ResourceId) (s : State cfg.toConfig) :
    Result (State cfg.toConfig) := do
  ensureBridge cfg origin
  let tokenId ← resourceToken rId s
  mintTo target tokenId awt s

/-- What an amount in standard units is worth in the award token. -/
def awtAmount (cfg : SwapConfig) (unifiedAmount price : U128) : U128 :=
  cfg.perquintill.quotient unifiedAmount price

/-- The exchange with the pool, if it has enough. -/
def exchange (who : AccountId) (tokenId : TokenId) (unifiedAmount price : U128) (s : State cfg.toConfig) :
    Result (State cfg.toConfig) := do
  let awt := awtAmount cfg unifiedAmount price
  if Token.freeBalance cfg.awtTokenId cfg.swapPoolAccount s.asset < awt then
    return s
  let (_, asset) ← Token.transferToken cfg.swapPoolAccount cfg.awtTokenId awt who s.asset
  let (_, asset) ← Token.transferToken who tokenId unifiedAmount cfg.swapPoolAccount asset
  return { s with asset }

def swap (origin : Origin) (target : AccountId) (amt : U128) (rId : ResourceId) (prices : Prices)
    (s : State cfg.toConfig) : Result (State cfg.toConfig) := do
  ensureBridge cfg origin
  let tokenId ← resourceToken rId s
  let s ← mintTo target tokenId amt s
  if tokenId = cfg.awtTokenId then
    return s
  if Token.isStable tokenId s.asset = false then
    return s
  let externalDecimals ← Token.tokenExternalDecimals tokenId s.asset
  let unifiedAmount := Token.transformDecimalsToStandard amt externalDecimals
  let price := Indicator.getPrice cfg.awtTokenId s.asset prices
  if price = 0 then
    return s
  exchange target tokenId unifiedAmount price s

end Fusotao.AbyssTournament
