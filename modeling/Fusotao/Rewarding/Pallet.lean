import Fusotao.Indicator.Pallet

/-!
# The reward pallet

Makers of orders provide liquidity. When some of it is taken, the maker contributes to the era, by the volume and
by how long the order has stood, and its part of all contributions to an era is its part of the rewards. What an
account contributed to its last era is turned into a reward when the account is next visited in a later one.
-/

namespace Fusotao.Rewarding

open Exec

open Indicator (Perquintill quintill)
open Word (checkedAdd checkedSub)

/-- The block an era begins with. -/
abbrev Era := U32

structure Reward where
  confirmed : U128
  pendingVol : U128
  lastModify : Era
  deriving DecidableEq

instance : Inhabited Reward := ⟨⟨0, 0, 0⟩⟩

structure LiquidityProvider where
  volume : U128
  startFrom : U32
  deriving DecidableEq

/-- A contribution, which the pallet does not keep. -/
structure Contribution where
  who : AccountId
  era : Era
  vol : U128
  deriving DecidableEq

/-- What an account contributed to an era has become a reward, which the pallet does not keep. -/
structure Settlement where
  who : AccountId
  era : Era
  vol : U128
  /-- The contributions of all accounts. -/
  totalVol : U128
  /-- The part of the rewards of the era, in units of `10^-18`. -/
  fraction : U128
  /-- The era in which it was settled. -/
  settledIn : Era
  deriving DecidableEq

/-- `MarketingRewards` and `TakenLiquidity`; or the deprecated `Rewards` and `Volumes`. -/
structure Book where
  rewards : StorageMap AccountId Reward
  volumes : StorageMap Era U128
  contributions : List Contribution
  settlements : List Settlement

/-- The parts of `Perquintill` that the pallet uses. -/
structure Fractions extends Perquintill where
  partsFit : FixedPoint.PartsFit quintill fromRational
  /-- The product of a fraction and an amount. -/
  mul : U128 → U128 → U128

structure Config where
  token : Token.Config
  eraDuration : U32
  timeCoefficientZoom : U32
  rewardTerminateAt : U32
  fractions : Fractions
  treasuryOrigin : Origin → Bool

structure State (cfg : Config) where
  /-- The current block. -/
  now : U32
  liquidityPool : StorageMap (AccountId × Symbol) LiquidityProvider
  eraRewards : U128
  legacy : Book
  marketing : Book
  tradingVolumes : StorageMap Era U128
  /-- The total issuance of the native token. -/
  issuance : U128
  asset : Token.State cfg.token

variable {cfg : Config}

def Book.rewardOf (book : Book) (who : AccountId) : Reward := (book.rewards who).getD default

def Book.volumeOf (book : Book) (era : Era) : U128 := (book.volumes era).getD 0

/-- An era of no blocks is divided by. -/
def beginOfEra (cfg : Config) (block : U32) : Result Era := do
  ensure (cfg.eraDuration ≠ 0) Abort.panic
  return block - block % cfg.eraDuration

/-- `rotate_reward`, or `rotate_legacy_reward`: what was pending for another era becomes a confirmed reward. -/
def rotate (cfg : Config) (eraRewards : U128) (now : U32) (era : Era) (contribution : U128) (account : AccountId)
    (book : Book) : Result (U128 × Book) := do
  let r := book.rewardOf account
  if era = r.lastModify then
    let pendingVol ← okOr (checkedAdd r.pendingVol contribution) RewardError.overflow
    return (r.confirmed, { book with rewards := book.rewards.insert account { r with pendingVol } })
  else if r.pendingVol = 0 then
    return (r.confirmed, { book with
      rewards := book.rewards.insert account { r with pendingVol := contribution, lastModify := era } })
  else
    let totalVol := book.volumeOf r.lastModify
    ensure (totalVol > 0) RewardError.divideByZero
    let p := cfg.fractions.fromRational r.pendingVol totalVol
    let eraReward := if now > cfg.rewardTerminateAt then 0 else eraRewards
    let confirmed ← okOr (checkedAdd r.confirmed (cfg.fractions.mul p eraReward)) RewardError.overflow
    return (confirmed, { book with
      rewards := book.rewards.insert account ⟨confirmed, contribution, era⟩
      settlements := ⟨account, r.lastModify, r.pendingVol, totalVol, p, era⟩ :: book.settlements })

/-- A contribution to an era, of which the account will get its part. -/
def Book.addVolume (book : Book) (account : AccountId) (era : Era) (vol : U128) : Result Book := do
  let total ← okOr (checkedAdd (book.volumeOf era) vol) RewardError.overflow
  return { book with
    volumes := book.volumes.insert era total
    contributions := ⟨account, era, vol⟩ :: book.contributions }

/-- The confirmed reward is minted, and a record with nothing pending is removed. -/
def mintConfirmed (who : AccountId) (book : Book) (s : State cfg) : Result (U128 × Book × State cfg) := do
  let reward ← okOr (book.rewards who) RewardError.rewardNotFound
  let book := { book with
    rewards := if reward.pendingVol > 0 then book.rewards.insert who { reward with confirmed := 0 }
      else book.rewards.remove who }
  if reward.confirmed > 0 then
    let issuance ← okOr (checkedAdd s.issuance reward.confirmed) RewardError.overflow
    let asset ← Token.tryMutateAccount cfg.token.nativeTokenId who
      (fun b => .ok (b.1 + reward.confirmed, b.2)) s.asset
    return (reward.confirmed, book, { s with issuance, asset })
  else
    return (reward.confirmed, book, s)

/-- `claim_reward`, or `claim_legacy_reward`. -/
def claim (who : AccountId) (block : U32) (book : Book) (s : State cfg) : Result (U128 × Book × State cfg) := do
  let era ← beginOfEra cfg block
  let (confirmed, book) ← rotate cfg s.eraRewards s.now era 0 who book
  if confirmed = 0 then
    return (0, book, s)
  else
    mintConfirmed who book s

def claimLegacyReward (who : AccountId) (block : U32) (s : State cfg) : Result (U128 × State cfg) := do
  let (confirmed, legacy, s) ← claim who block s.legacy s
  return (confirmed, { s with legacy })

def claimReward (who : AccountId) (block : U32) (s : State cfg) : Result (U128 × State cfg) := do
  let (confirmed, marketing, s) ← claim who block s.marketing s
  return (confirmed, { s with marketing })

/-! ### Calls -/

def takeReward (origin : Origin) (s : State cfg) : Result (State cfg) := do
  let who ← ensureSigned origin
  let (legacyReward, s) ← claimLegacyReward who s.now s
  let (reward, s) ← claimReward who s.now s
  let _reward ← okOr (checkedAdd reward legacyReward) RewardError.overflow
  return s

def setEraRewards (origin : Origin) (eraRewards : U128) (s : State cfg) : Result (State cfg) := do
  ensure (cfg.treasuryOrigin origin = true) DispatchError.badOrigin
  return { s with eraRewards }

/-- Deprecated: it contributed to the legacy rewards. -/
def saveTrading (trader : AccountId) (vol : U128) (block : U32) (s : State cfg) : Result (State cfg) := do
  if vol = 0 then
    return s
  else
    let era ← beginOfEra cfg block
    let legacy ← s.legacy.addVolume trader era vol
    let (_, legacy) ← rotate cfg s.eraRewards s.now era vol trader legacy
    return { s with legacy }

/-- What was put before is overridden. -/
def putLiquidity (maker : AccountId) (symbol : Symbol) (vol : U128) (block : U32) (s : State cfg) : State cfg :=
  if vol = 0 then s
  else { s with liquidityPool := s.liquidityPool.insert (maker, symbol) ⟨vol, block⟩ }

/-- The block in which the liquidity was put. -/
def removeLiquidity (maker : AccountId) (symbol : Symbol) (vol : U128) (s : State cfg) :
    Result (U32 × State cfg) := do
  if vol = 0 then
    return (0, s)
  else
    let liquidity ← okOr (s.liquidityPool (maker, symbol)) RewardError.liquidityNotFound
    let volume ← okOr (checkedSub liquidity.volume vol) RewardError.insufficientLiquidity
    return (liquidity.startFrom, { s with
      liquidityPool := if volume > 0 then s.liquidityPool.insert (maker, symbol) { liquidity with volume }
        else s.liquidityPool.remove (maker, symbol) })

/-- The volume, times the part of an era for which it was provided, in units that make it a whole number. -/
def contributionOf (cfg : Config) (vol : U128) (startFrom current : U32) : Result U128 := do
  ensure (cfg.timeCoefficientZoom ≠ 0) Abort.panic
  let duration := (current - startFrom).setWidth 128
  let era := cfg.eraDuration.setWidth 128
  let coefficient := (if duration ≤ era then duration else era) / cfg.timeCoefficientZoom.setWidth 128
  return (if coefficient ≤ 1 then 1 else coefficient) * vol

/-- Orders that were placed before there were rewards for them have no liquidity, and get none. -/
def consumeLiquidity (maker : AccountId) (symbol : Symbol) (vol : U128) (current : U32) (s : State cfg) :
    Result (State cfg) :=
  match removeLiquidity maker symbol vol s with
  | .ok (startFrom, s) => do
      let era ← beginOfEra cfg current
      let contribution ← contributionOf cfg vol startFrom current
      let marketing ← s.marketing.addVolume maker era contribution
      let trading ← okOr (checkedAdd ((s.tradingVolumes era).getD 0) vol) RewardError.overflow
      let (_, marketing) ← rotate cfg s.eraRewards s.now era contribution maker marketing
      return { s with marketing, tradingVolumes := s.tradingVolumes.insert era trading }
  | .error (.err _) => .ok s
  | .error .panic => .error .panic

/-! ### Runs -/

inductive Call
  | putLiquidity (maker : AccountId) (symbol : Symbol) (vol : U128)
  | removeLiquidity (maker : AccountId) (symbol : Symbol) (vol : U128)
  | consumeLiquidity (maker : AccountId) (symbol : Symbol) (vol : U128)
  | takeReward (origin : Origin)
  | setEraRewards (origin : Origin) (eraRewards : U128)
  | saveTrading (trader : AccountId) (vol : U128)

/-- A call in the current block. -/
def Call.perform (s : State cfg) : Call → Result (State cfg)
  | .putLiquidity maker symbol vol => .ok (Rewarding.putLiquidity maker symbol vol s.now s)
  | .removeLiquidity maker symbol vol => do
      let (_, s) ← Rewarding.removeLiquidity maker symbol vol s
      return s
  | .consumeLiquidity maker symbol vol => Rewarding.consumeLiquidity maker symbol vol s.now s
  | .takeReward origin => Rewarding.takeReward origin s
  | .setEraRewards origin eraRewards => Rewarding.setEraRewards origin eraRewards s
  | .saveTrading trader vol => Rewarding.saveTrading trader vol s.now s

/-- A call succeeds, or blocks go by and native tokens are issued and move. -/
inductive Step : State cfg → State cfg → Prop
  | call {s s' : State cfg} (c : Call) (h : c.perform s = .ok s') : Step s s'
  | outside (s : State cfg) (now : U32) (issuance : U128) (asset : Token.State cfg.token) (hnow : s.now ≤ now) :
      Step s { s with now, issuance, asset }

def Book.empty : Book := ⟨fun _ => none, fun _ => none, [], []⟩

/-- Nobody has contributed yet. -/
structure Genesis (s : State cfg) : Prop where
  legacy : s.legacy = .empty
  marketing : s.marketing = .empty

end Fusotao.Rewarding
