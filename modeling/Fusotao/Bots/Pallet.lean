import Fusotao.Verifier.Runtime

/-!
# The bot pallet

A user of a bot deposits into two accounts of its own, one for each currency of the bot. Their addresses are
hashes: nobody signs for them, and only the calls of this pallet move what they have.
-/

namespace Fusotao.Bots

open Exec
open Token (freeBalance)

/-- `Bot`. -/
structure Bot where
  staked : U128
  symbol : TokenId × TokenId
  name : List UInt8
  maxInstance : U32
  currentInstance : U32
  minBase : U128
  minQuote : U128
  users : List AccountId
  desc : List UInt8
  deriving DecidableEq

/-- What the runtime configures. -/
structure Config where
  /-- The pallet that has custody of what is deposited. -/
  custody : Verifier.Config
  botStakingThreshold : U128
  systemAccount : AccountId
  /-- The account that a hash of a currency, a user and a bot is the address of. -/
  subAccount : TokenId × AccountId × AccountId → AccountId

structure State (cfg : Config) where
  bots : StorageMap AccountId Bot
  custody : Verifier.State cfg.custody

variable {cfg : Config}

def deriveSubAccount (cfg : Config) (user botId : AccountId) (currency : TokenId) : AccountId :=
  cfg.subAccount (currency, user, botId)

/-- A transfer, with everything else of the storage as it was. -/
def transfer (origin : AccountId) (token : TokenId) (amount : U128) (target : AccountId) (s : State cfg) :
    Result (State cfg) := do
  let (_, asset) ← Token.transferToken origin token amount target s.custody.asset
  return { s with custody := { s.custody with asset } }

/-- `Custody::authorize_to`. -/
def authorizeTo (fundOwner dex : AccountId) (tokenId : TokenId) (amount : U128) (s : State cfg) :
    Result (State cfg) := do
  let custody ← Verifier.authorizeTo fundOwner dex tokenId amount s.custody
  return { s with custody }

/-- `Custody::revoke_from` of everything. -/
def revokeFrom (fundOwner dominator : AccountId) (tokenId : TokenId) (s : State cfg) : Result (State cfg) := do
  let custody ← Verifier.revokeFrom fundOwner dominator tokenId none none s.custody
  return { s with custody }

def registerBot (creator : AccountId) (symbol : TokenId × TokenId) (name : List UInt8) (maxInstance : U32)
    (minBase minQuote : U128) (desc : List UInt8) (s : State cfg) : Result (State cfg) := do
  ensure ((s.bots creator).isNone) BotError.botAlreadyExist
  ensure (symbol.1 ≠ symbol.2) BotError.invalidSymbol
  ensure (Token.isStable symbol.2 s.custody.asset = true) BotError.invalidSymbol
  let s ← transfer creator cfg.custody.token.nativeTokenId cfg.botStakingThreshold cfg.systemAccount s
  return { s with
    bots := s.bots.insert creator
      { staked := cfg.botStakingThreshold
        symbol, name, maxInstance
        currentInstance := 0
        minBase, minQuote
        users := []
        desc } }

/-- The bot with one more user, unless it was one before. -/
def Bot.join (bot : Bot) (user : AccountId) : Bot :=
  if user ∈ bot.users then bot
  else { bot with users := bot.users ++ [user], currentInstance := bot.currentInstance + 1 }

def depositIntoSub (user botId dominator : AccountId) (baseAmount quoteAmount : U128) (s : State cfg) :
    Result (State cfg) := do
  let bot ← okOr (s.bots botId) BotError.botNotFound
  ensure (bot.currentInstance + 1 ≤ bot.maxInstance) BotError.beyondMaxInstance
  ensure (bot.minBase ≤ baseAmount) BotError.minimalAmountRequired
  ensure (bot.minQuote ≤ quoteAmount) BotError.minimalAmountRequired
  let sub0 := deriveSubAccount cfg user botId bot.symbol.1
  let sub1 := deriveSubAccount cfg user botId bot.symbol.2
  let s ← transfer user bot.symbol.1 baseAmount sub0 s
  let s ← transfer user bot.symbol.2 quoteAmount sub1 s
  let s ← authorizeTo sub0 dominator bot.symbol.1 baseAmount s
  let s ← authorizeTo sub1 dominator bot.symbol.2 quoteAmount s
  return { s with bots := s.bots.insert botId (bot.join user) }

def withdrawFromSub (user botId : AccountId) (currency : TokenId) (s : State cfg) : Result (State cfg) := do
  let bot ← okOr (s.bots botId) BotError.botNotFound
  let sub0 := deriveSubAccount cfg user botId bot.symbol.1
  let sub1 := deriveSubAccount cfg user botId bot.symbol.2
  let balance0 := freeBalance currency sub0 s.custody.asset
  let balance1 := freeBalance currency sub1 s.custody.asset
  let s ← transfer sub0 currency balance0 user s
  transfer sub1 currency balance1 user s

def revokeToSub (user botId dominator : AccountId) (currency : TokenId) (s : State cfg) :
    Result (State cfg) := do
  let bot ← okOr (s.bots botId) BotError.botNotFound
  let sub0 := deriveSubAccount cfg user botId bot.symbol.1
  let sub1 := deriveSubAccount cfg user botId bot.symbol.2
  let s ← revokeFrom sub0 dominator currency s
  revokeFrom sub1 dominator currency s

/-! ### Calls -/

inductive Call
  | register (symbol : TokenId × TokenId) (name : List UInt8) (maxInstance : U32) (minBase minQuote : U128)
      (desc : List UInt8)
  | deposit (botId dominator : AccountId) (baseAmount quoteAmount : U128)
  | revoke (botId dominator : AccountId) (currency : TokenId)
  | withdraw (botId : AccountId) (currency : TokenId)

def dispatch (call : Call) (origin : Origin) (s : State cfg) : Result (State cfg) := do
  let user ← ensureSigned origin
  match call with
  | .register symbol name maxInstance minBase minQuote desc =>
      registerBot user symbol name maxInstance minBase minQuote desc s
  | .deposit botId dominator baseAmount quoteAmount =>
      depositIntoSub user botId dominator baseAmount quoteAmount s
  | .revoke botId dominator currency => revokeToSub user botId dominator currency s
  | .withdraw botId currency => withdrawFromSub user botId currency s

/-- A call of this pallet, or a step of the chain besides. -/
inductive Step : State cfg → State cfg → Prop
  | call {s s' : State cfg} (call : Call) (origin : Origin) (h : dispatch call origin s = .ok s') : Step s s'
  | chain {s : State cfg} {custody : Verifier.State cfg.custody} (h : Verifier.Step s.custody custody) :
      Step s { s with custody }

/-- No bot is registered, and nothing is in custody. -/
def Init (s : State cfg) : Prop := (∀ botId, s.bots botId = none) ∧ Verifier.Init s.custody

/-- Calls of one user, one after the other. -/
def dispatchAll (calls : List Call) (user : AccountId) (s : State cfg) : Result (State cfg) :=
  calls.foldlM (fun s call => dispatch call (.signed user) s) s

end Fusotao.Bots
