import Fusotao.Substrate

/-!
# Funds that are unlocked step by step

A beneficiary's fund is reserved and unlocked by the hook of the first block of an epoch: an initial amount after a
delay, then one instalment after each interval. An instalment that nobody approved goes back to the seller.
-/

namespace Fusotao.Foundation

open Exec Word

/-- What the runtime configures. -/
structure Config where
  balances : Balances
  /-- The length of an epoch in blocks. -/
  duration : U32
  duration_pos : duration ≠ 0

structure FoundationData where
  delayDurations : U32
  intervalDurations : U32
  times : U32
  amount : U128
  firstAmount : U128
  deriving DecidableEq

structure State (cfg : Config) where
  blockNumber : U32
  foundation : IterMap AccountId FoundationData
  /-- Who takes an instalment of a beneficiary back in an epoch. -/
  approvals : StorageMap (AccountId × U32) AccountId
  native : cfg.balances.Store

variable {cfg : Config}

def FoundationData.totalAmount (fund : FoundationData) : U128 :=
  fund.amount * fund.times.setWidth 128 + fund.firstAmount

/-! ### Genesis -/

/-- The failure of an `unwrap` is not an error that can be handled. -/
def unwrap {α : Type} : Result α → Result α
  | .ok a => .ok a
  | .error _ => .error .panic

def buildEntry (s : State cfg) (data : AccountId × FoundationData) : Result (State cfg) := do
  let (account, fund) := data
  let native := cfg.balances.depositCreating s.native account fund.totalAmount
  let native ← unwrap (cfg.balances.reserve native account fund.totalAmount)
  return { s with native, foundation := s.foundation.insert account fund }

def build (funds : List (AccountId × FoundationData)) (native : cfg.balances.Store) : Result (State cfg) :=
  funds.foldlM buildEntry ⟨0, ∅, fun _ => none, native⟩

/-! ### Calls -/

def currentEpoch (cfg : Config) (blockNumber : U32) : U32 := blockNumber / cfg.duration

/-- The epochs of the instalments can be refused by the seller. -/
def needApproval (seller beneficiary : AccountId) (fund : FoundationData)
    (approvals : StorageMap (AccountId × U32) AccountId) : StorageMap (AccountId × U32) AccountId :=
  (List.range fund.times.toNat).foldl (fun approvals i =>
    approvals.insert (beneficiary, fund.delayDurations + BitVec.ofNat 32 i * fund.intervalDurations) seller)
    approvals

def putIntoVault (origin : Origin) (beneficiary : AccountId) (fund : FoundationData) (needToApprove : Bool)
    (s : State cfg) : Result (State cfg) := do
  let seller ← ensureSigned origin
  ensure ((s.foundation.lookup beneficiary).isNone) FoundationError.alreadyExists
  ensure (currentEpoch cfg s.blockNumber < fund.delayDurations) FoundationError.epochNotReached
  let native ← cfg.balances.transfer s.native seller beneficiary fund.totalAmount
  let native ← cfg.balances.reserve native beneficiary fund.totalAmount
  return { s with
    native
    approvals := if needToApprove then needApproval seller beneficiary fund s.approvals else s.approvals
    foundation := s.foundation.insert beneficiary fund }

def approve (origin : Origin) (beneficiary : AccountId) (epoch : U32) (s : State cfg) :
    Result (State cfg) := do
  let approver ← ensureSigned origin
  match s.approvals (beneficiary, epoch) with
  | some a => do
      ensure (a = approver) FoundationError.invalidApprover
      return { s with approvals := s.approvals.remove (beneficiary, epoch) }
  | none => return s

/-! ### The hook -/

/-- Whether a whole number of intervals has passed since the delay. -/
def intervalPassed (now : U32) (fund : FoundationData) : Result Bool := do
  let passed ← okOr (checkedRem (saturatingSub now fund.delayDurations) fund.intervalDurations) Abort.panic
  return passed = 0

def instalmentDue (now : U32) (fund : FoundationData) : Result Bool :=
  if now > fund.delayDurations then intervalPassed now fund else return false

def initialDue (now : U32) (fund : FoundationData) : Result Bool :=
  if now = fund.delayDurations then intervalPassed now fund else return false

/-- The amount goes to the approver that is still named for this epoch, or else to the beneficiary. -/
def release (now : U32) (account : AccountId) (amount : U128) (s : State cfg) : Result (State cfg) :=
  match s.approvals (account, now) with
  | some approver => do
      let native ← ignoreError s.native
        (cfg.balances.repatriateReserved s.native account approver amount .free)
      return { s with native, approvals := s.approvals.remove (account, now) }
  | none => return { s with native := cfg.balances.unreserve s.native account amount }

/-- One instalment less, by a subtraction that wraps around. -/
def countDown (account : AccountId) (fund : FoundationData) (s : State cfg) : State cfg :=
  let times := fund.times - 1
  { s with foundation :=
      if times = 0 then s.foundation.erase account else s.foundation.insert account { fund with times } }

def unlockEntry (now : U32) (s : State cfg) (entry : Sigma fun _ : AccountId => FoundationData) :
    Result (State cfg) := do
  let ⟨account, fund⟩ := entry
  if ← instalmentDue now fund then
    let s ← release now account fund.amount s
    return countDown account fund s
  else if ← initialDue now fund then
    release now account fund.firstAmount s
  else
    return s

def unlockFund (now : U32) (s : State cfg) : Result (State cfg) :=
  s.foundation.entries.foldlM (unlockEntry now) s

/-- The hook of the block `now`. -/
def onInitialize (now : U32) (s : State cfg) : Result (State cfg) :=
  if now % cfg.duration ≠ 0 then return s else unlockFund (now / cfg.duration) s

/-- The next block. -/
def block (s : State cfg) : Result (State cfg) :=
  let blockNumber := s.blockNumber + 1
  onInitialize blockNumber { s with blockNumber }

end Fusotao.Foundation
