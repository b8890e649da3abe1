import Fusotao.Verifier.Pallet

/-!
# The market pallet

Anybody may register a market of a dominator, over and over, as long as it has not been opened. The dominator opens it
through the verifier.
-/

namespace Fusotao

namespace Markets

open Exec

/-- What the runtime configures. -/
structure Config where
  verifier : Verifier.Config
  marketCloseGracePeriod : BlockNumber

inductive MarketStatus
  | registered
  | opened
  | closed
  deriving DecidableEq

structure Market where
  minBase : U128
  baseScale : U8
  quoteScale : U8
  status : MarketStatus
  tradingRewards : Bool
  liquidityRewards : Bool
  unavailableAfter : Option BlockNumber
  deriving DecidableEq

structure State (cfg : Config) where
  /-- The markets of a dominator by base and quote. -/
  markets : StorageMap (AccountId × Symbol) Market
  verifier : Verifier.State cfg.verifier

variable {cfg : Config}

/-- A market as it is written by registering or opening it. -/
def listedMarket (minBase : U128) (baseScale quoteScale : U8) (status : MarketStatus) : Market where
  minBase := minBase
  baseScale := baseScale
  quoteScale := quoteScale
  status := status
  liquidityRewards := true
  tradingRewards := true
  unavailableAfter := none

def registerMarket (dominator : AccountId) (base quote : TokenId) (baseScale quoteScale : U8) (minBase : U128)
    (s : State cfg) : Result (State cfg) := do
  ensure (Token.isStable quote s.verifier.asset = true) MarketError.unsupportedQuoteCurrency
  ensure (Token.existsToken base s.verifier.asset = true) MarketError.tokenNotFound
  ensure (baseScale ≤ 7 ∧ quoteScale ≤ 7) MarketError.marketScaleOverflow
  let replaced := { s with
    markets := s.markets.insert (dominator, base, quote) (listedMarket minBase baseScale quoteScale .registered) }
  -- what was opened once is not written any more
  match s.markets (dominator, base, quote) with
  | none => return replaced
  | some pair =>
      if pair.status = .registered then return replaced
      else .error MarketError.marketCouldntUpdate

def applyForTokenListing (origin : Origin) (dominator : AccountId) (base quote : TokenId)
    (baseScale quoteScale : U8) (minBase : U128) (s : State cfg) : Result (State cfg) := do
  let _ ← ensureSigned origin
  registerMarket dominator base quote baseScale quoteScale minBase s

/-- The market has to be there. Neither its status nor what was registered is compared. -/
def openMarket (dominator : AccountId) (base quote : TokenId) (baseScale quoteScale : U8) (minBase : U128)
    (s : State cfg) : Result (State cfg) := do
  ensure ((s.markets (dominator, base, quote)).isSome = true) MarketError.marketNotRegistered
  ensure (baseScale ≤ 7 ∧ quoteScale ≤ 7) MarketError.marketScaleOverflow
  return { s with
    markets := s.markets.insert (dominator, base, quote) (listedMarket minBase baseScale quoteScale .opened) }

/-- Block numbers are 32 bits wide, and their sum saturates. -/
def closeMarket (dominator : AccountId) (base quote : TokenId) (now : BlockNumber) (s : State cfg) :
    Result (State cfg) := do
  let pair ← okOr (s.markets (dominator, base, quote)) MarketError.marketNotExists
  return { s with
    markets := s.markets.insert (dominator, base, quote)
      { pair with
        status := .closed
        unavailableAfter := some (min (now + cfg.marketCloseGracePeriod) (2 ^ 32 - 1)) } }

end Markets

/-- The call of the verifier. -/
def Verifier.openMarket {cfg : Markets.Config} (origin : Origin) (base quote : TokenId) (baseScale quoteScale : U8)
    (minBase : U128) (s : Markets.State cfg) : Result (Markets.State cfg) := do
  let dominator ← ensureSigned origin
  Exec.ensure ((s.verifier.dominators.lookup dominator).isSome = true) VerifierError.dominatorNotFound
  Markets.openMarket dominator base quote baseScale quoteScale minBase s

end Fusotao
