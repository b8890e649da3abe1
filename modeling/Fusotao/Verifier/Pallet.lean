import Fusotao.Verifier.Orders

/-!
# The verifier pallet

Every function takes the storage it reads and returns the storage it leaves. Dispatching the callback of
a receipt is a parameter of the functions that come to it.
-/

namespace Fusotao.Verifier

open Exec Word MerkleLeaf

variable {cfg : Config}

/-! ### Reserves -/

def reserve (reserveId : ReserveId) (fundOwner : AccountId) (token : TokenId) (value : U128)
    (target : AccountId) (s : State cfg) : Result (State cfg) := do
  if value = 0 then
    return s
  let asset ← Token.reserve token fundOwner value s.asset
  let reserve ← okOr (checkedAdd (reserveOf s.reserves reserveId fundOwner token target) value)
    VerifierError.overflow
  return { s with asset, reserves := s.reserves.insert ((reserveId, fundOwner, token), target) reserve }

def unreserve (reserveId : ReserveId) (fundOwner : AccountId) (token : TokenId) (value : U128)
    (source : AccountId) (s : State cfg) : Result (State cfg) := do
  if value = 0 then
    return s
  let asset ← Token.unreserve token fundOwner value s.asset
  let reserve ← okOr (s.reserves ((reserveId, fundOwner, token), source)) VerifierError.insufficientBalance
  let reserve ← okOr (checkedSub reserve value) VerifierError.insufficientBalance
  return { s with
    asset
    reserves := s.reserves.put ((reserveId, fundOwner, token), source)
      (if reserve > 0 then some reserve else none) }

/-- The recorded amount and the reserved balance become those of a leaf. -/
def clear (who dominator : AccountId) (tokenId : TokenId) (balance : U128) (s : State cfg) :
    Result (State cfg) := do
  let reserved := reserveOf s.reserves .authorizing who tokenId dominator
  let asset ← Token.tryMutateAccount tokenId who
    (fun b => do
      let kept := (checkedSub b.2 reserved).getD 0
      let total ← okOr (checkedAdd kept balance) VerifierError.overflow
      return (b.1, total))
    s.asset
  return { s with
    asset, reserves := s.reserves.insert ((.authorizing, who, tokenId), dominator) balance }

/-! ### Authorizing and revoking -/

def authorizeTo (fundOwner dex : AccountId) (tokenId : TokenId) (amount : U128) (s : State cfg) :
    Result (State cfg) := do
  let dominator ← okOr (s.dominators.lookup dex) VerifierError.dominatorNotFound
  ensure (dominator.status = .active) VerifierError.dominatorInactive
  ensure ((s.receipts (dex, fundOwner)).isNone) VerifierError.receiptAlreadyExists
  ensure (Token.canReserve tokenId fundOwner amount s.asset) VerifierError.insufficientBalance
  let s ← reserve .authorizingStash fundOwner tokenId amount dex s
  return { s with receipts := s.receipts.insert (dex, fundOwner) (.authorize tokenId amount s.now) }

/-- What is stashed with an evicted dominator joins what is authorised to it. -/
def mergeStash (fundOwner dominatorId : AccountId) (tokenId : TokenId) (s : State cfg) :
    Result (State cfg) := do
  let av := reserveOf s.reserves .authorizingStash fundOwner tokenId dominatorId
  let reserves := s.reserves.remove ((.authorizingStash, fundOwner, tokenId), dominatorId)
  if av > 0 then
    let total ← okOr (checkedAdd (reserveOf reserves .authorizing fundOwner tokenId dominatorId) av)
      VerifierError.overflow
    return { s with
      reserves := reserves.insert ((.authorizing, fundOwner, tokenId), dominatorId) total }
  else
    return { s with reserves }

def revokeFrom (fundOwner dominatorId : AccountId) (tokenId : TokenId) (amount : Option U128)
    (callback : Option cfg.Call) (s : State cfg) : Result (State cfg) := do
  let amount := amount.getD (reserveOf s.reserves .authorizing fundOwner tokenId dominatorId)
  if amount = 0 then
    return s
  ensure (hasAuthorizedMorethan fundOwner tokenId amount dominatorId s.reserves)
    VerifierError.insufficientBalance
  let dominator ← okOr (s.dominators.lookup dominatorId) VerifierError.dominatorNotFound
  ensure (dominator.status ≠ .registered) VerifierError.dominatorStatusInvalid
  if dominator.status = .evicted then
    let s ← mergeStash fundOwner dominatorId tokenId s
    let s ← unreserve .authorizing fundOwner tokenId amount dominatorId s
    return { s with receipts := s.receipts.remove (dominatorId, fundOwner) }
  else
    ensure ((s.receipts (dominatorId, fundOwner)).isNone) VerifierError.receiptAlreadyExists
    let receipt := match callback with
      | some callback => .revokeWithCallback tokenId amount s.now callback
      | none => .revoke tokenId amount s.now
    return { s with receipts := s.receipts.insert (dominatorId, fundOwner) receipt }

/-! ### Seasons -/

def currentSeason (cfg : Config) (now claimAt : Nat) : Nat :=
  if now ≤ claimAt then 0 else (now - claimAt) / cfg.seasonDuration

def bonusOf (dominator : AccountId) (season : Season) (s : State cfg) : Bonus :=
  (s.bonuses (dominator, season)).getD default

def putProfit (dominator : AccountId) (season : Season) (currency : TokenId) (balance : U128)
    (s : State cfg) : State cfg :=
  if balance = 0 then s
  else
    let b := bonusOf dominator season s
    let profit := b.profit.insert currency
      (match b.profit.lookup currency with
        | some p => p + balance
        | none => balance)
    { s with bonuses := s.bonuses.insert (dominator, season) { b with profit } }

/-- The shares so far, and those of one more season. -/
def addShares (cfg : Config) (staking : U128) (bonus : Bonus) (shares : IterMap TokenId U128) :
    IterMap TokenId U128 :=
  if bonus.staked = 0 ∨ bonus.profit.entries = [] then shares
  else bonus.profit.inOrder.foldl
    (fun shares entry =>
      let r := cfg.perquintillMul staking bonus.staked entry.2
      shares.insert entry.1
        (match shares.lookup entry.1 with
          | some share => share + r
          | none => r))
    shares

def takeShares (staker dominator : AccountId) (distributions : Distribution) (s : State cfg) :
    Result (Nat × State cfg) := do
  if distributions.toSeason = distributions.fromSeason then
    return (distributions.fromSeason, s)
  let seasons := List.range' distributions.fromSeason (distributions.toSeason - distributions.fromSeason)
  let shares := seasons.foldl
    (fun shares season => addShares cfg distributions.staking (bonusOf dominator season s) shares) ∅
  let asset ← shares.inOrder.foldlM
    (fun asset share =>
      Token.tryMutateAccount share.1 staker (fun b => .ok (b.1 + share.2, b.2)) asset)
    s.asset
  return (distributions.toSeason, { s with
    asset
    history := s.history ++
      seasons.map fun season => .settled staker dominator season distributions.staking })

/-- The shares of a staker, if it is not the first staking. -/
def takeStakedShares (staker dominator : AccountId) (distribution : Distribution) (s : State cfg) :
    Result (State cfg) := do
  if distribution.staking ≠ 0 then
    let (_, s) ← takeShares staker dominator distribution s
    return s
  else
    return s

def onlineStatus (cfg : Config) (staked : U128) : DominatorStatus :=
  if staked ≥ cfg.dominatorOnlineThreshold then .active else .inactive

def stakeOn (staker dominatorId : AccountId) (amount : U128) (s : State cfg) : Result (State cfg) := do
  ensure (amount ≥ cfg.minimalStakingAmount) VerifierError.littleStakingAmount
  let dominator ← okOr (s.dominators.lookup dominatorId) VerifierError.dominatorNotFound
  ensure (dominator.status = .active ∨ dominator.status = .inactive) VerifierError.dominatorStatusInvalid
  let staking := (s.stakings (dominatorId, staker)).getD default
  let s ← reserve .staking staker cfg.token.nativeTokenId amount dominatorId s
  let currentSeason := currentSeason cfg s.now dominator.startFrom
  let s ← takeStakedShares staker dominatorId ⟨staking.fromSeason, currentSeason, staking.amount⟩ s
  let staked := dominator.staked + amount
  return { s with
    stakings := s.stakings.insert (dominatorId, staker) ⟨currentSeason, staking.amount + amount⟩
    dominators := s.dominators.insert dominatorId
      { dominator with staked, status := onlineStatus cfg staked }
    history := s.history ++ [.staked dominatorId dominator.staked amount] }

/-- The block at which what is unstaked is unlocked. -/
def unlockAt (cfg : Config) (now : BlockNumber) : BlockNumber :=
  (now - now % cfg.dominatorCheckGracePeriod + unstakeDelayBlocks) % 2 ^ 32

def unstakeFrom (staker dominatorId : AccountId) (amount : U128) (s : State cfg) :
    Result (State cfg) := do
  let dominator ← okOr (s.dominators.lookup dominatorId) VerifierError.dominatorNotFound
  ensure (dominator.status ≠ .registered) VerifierError.dominatorStatusInvalid
  let staked ← okOr (checkedSub dominator.staked amount) VerifierError.insufficientBalance
  let staking ← okOr (s.stakings (dominatorId, staker)) VerifierError.invalidStaking
  let remain ← okOr (checkedSub staking.amount amount) VerifierError.insufficientBalance
  ensure (remain = 0 ∨ remain ≥ cfg.minimalStakingAmount) VerifierError.littleStakingAmount
  let s ← unreserve .staking staker cfg.token.nativeTokenId amount dominatorId s
  let s ← reserve .pendingUnstake staker cfg.token.nativeTokenId amount cfg.systemAccount s
  let currentSeason := currentSeason cfg s.now dominator.startFrom
  let unlockAt := unlockAt cfg s.now
  let pending ← okOr (checkedAdd ((s.pendingUnstakings.lookup (unlockAt, staker)).getD 0) amount)
    VerifierError.overflow
  let s := { s with pendingUnstakings := s.pendingUnstakings.insert (unlockAt, staker) pending }
  let (_, s) ← takeShares staker dominatorId ⟨staking.fromSeason, currentSeason, staking.amount⟩ s
  return { s with
    stakings := s.stakings.put (dominatorId, staker)
      (if remain ≠ 0 then some ⟨currentSeason, remain⟩ else none)
    dominators := s.dominators.insert dominatorId
      { dominator with
        staked
        status := if dominator.status ≠ .evicted then onlineStatus cfg staked else dominator.status }
    history := s.history ++ [.unstaked staker s.now amount] }

def claimShares (signer dex : AccountId) (s : State cfg) : Result (State cfg) := do
  let dominator ← okOr (s.dominators.lookup dex) VerifierError.dominatorNotFound
  ensure (dominator.status ≠ .registered) VerifierError.dominatorStatusInvalid
  let staking ← okOr (s.stakings (dex, signer)) VerifierError.invalidStaking
  let currentSeason := currentSeason cfg s.now dominator.startFrom
  let (season, s) ← takeShares signer dex ⟨staking.fromSeason, currentSeason, staking.amount⟩ s
  return { s with
    stakings := s.stakings.insert (dex, signer) { staking with fromSeason := season } }

/-! ### Dominators -/

def register (dominator : AccountId) (identifier : List UInt8) (s : State cfg) : Result (State cfg) := do
  ensure (∀ b ∈ identifier, b < 128) VerifierError.invalidName
  ensure (identifier.length ≥ 2 ∧ identifier.length ≤ 32) VerifierError.invalidName
  ensure (s.now ≥ cfg.dominatorCheckGracePeriod) VerifierError.tooEarlyToRegister
  ensure ((s.dominators.lookup dominator).isNone) VerifierError.dominatorAlreadyExists
  ensure (∀ d ∈ s.dominators.entries, d.2.name ≠ identifier) VerifierError.invalidName
  return { s with
    dominators := s.dominators.insert dominator
      { name := identifier
        staked := 0
        startFrom := s.now - s.now % cfg.dominatorCheckGracePeriod
        sequence := (0, s.now)
        merkleRoot := List.Vector.replicate 32 0
        status := .registered } }

def evict (dominatorId : AccountId) (s : State cfg) : Result (State cfg) := do
  let dominator ← okOr (s.dominators.lookup dominatorId) VerifierError.dominatorNotFound
  return { s with dominators := s.dominators.insert dominatorId { dominator with status := .evicted } }

def launch (dominatorId : AccountId) (s : State cfg) : Result (State cfg) := do
  let dominator ← okOr (s.dominators.lookup dominatorId) VerifierError.dominatorNotFound
  ensure (dominator.status = .registered) VerifierError.dominatorStatusInvalid
  return { s with dominators := s.dominators.insert dominatorId { dominator with status := .inactive } }

/-- A beneficiary that is set already has to sign its replacement. -/
def dominatorSetBeneficiary (dominator beneficiary : AccountId) (proof : List UInt8) (s : State cfg) :
    Result (State cfg) := do
  ensure ((s.dominators.lookup dominator).isSome) VerifierError.dominatorNotFound
  let external ← match s.beneficiaries dominator with
    | some old => cfg.validateBeneficiary old proof beneficiary s.external
    | none => pure s.external
  return { s with external, beneficiaries := s.beneficiaries.insert dominator beneficiary }

/-- Save the total staking of the season that ends with this block. -/
def snapshot (now : BlockNumber) (id : AccountId) (dominator : Dominator) (s : State cfg) : State cfg :=
  if now = dominator.startFrom then s
  else if (now - dominator.startFrom) % cfg.seasonDuration = 0 then
    let prvSeason := (now - dominator.startFrom) / cfg.seasonDuration - 1
    { s with
      bonuses := s.bonuses.insert (id, prvSeason)
        { bonusOf id prvSeason s with staked := dominator.staked } }
  else s

/-- Unlock what was unstaked, even if an earlier entry could not be unlocked. -/
def unlock (staker : AccountId) (amount : U128) (s : State cfg) : State cfg :=
  match unreserve .pendingUnstake staker cfg.token.nativeTokenId amount cfg.systemAccount s with
  | .ok s' => s'
  | .error _ => s

def onInitialize (now : BlockNumber) (s : State cfg) : State cfg :=
  if now % cfg.dominatorCheckGracePeriod ≠ 0 then s
  else
    let s := s.dominators.entries.foldl (fun s entry => snapshot now entry.1 entry.2 s) s
    let due := s.pendingUnstakings.entries.filter fun entry => entry.1.1 = now
    due.foldl
      (fun s entry =>
        unlock entry.1.2 entry.2 { s with pendingUnstakings := s.pendingUnstakings.erase entry.1 })
      s

end Fusotao.Verifier
