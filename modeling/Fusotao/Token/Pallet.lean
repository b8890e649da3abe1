import Fusotao.Substrate
import Mathlib.Logic.Function.Iterate

/-!
# The token pallet

Every function takes the storage it reads and returns the storage it leaves. Amounts of a token are
kept in units of `10^-18` whatever its decimals on the other chain are. The native token is kept by
`pallet_balances`, every other one in the map `balances`.
-/

namespace Fusotao.Token

open Exec Word

structure TokenAccountData where
  free : U128
  reserved : U128
  deriving DecidableEq

instance : Inhabited TokenAccountData := ⟨⟨0, 0⟩⟩

/-- What the runtime configures. -/
structure Config where
  balances : Balances
  nativeTokenId : TokenId

structure State (cfg : Config) where
  balances : StorageMap (TokenId × AccountId) TokenAccountData
  tokens : StorageMap TokenId XToken
  nextTokenId : TokenId
  tokenByName : StorageMap (List UInt8) TokenId
  tokenByContract : StorageMap (ChainId × List UInt8) TokenId
  native : cfg.balances.Store

variable {cfg : Config}

/-- The storage at genesis. -/
def State.genesis (native : cfg.balances.Store) : State cfg where
  balances := fun _ => none
  tokens := fun _ => none
  nextTokenId := 1
  tokenByName := fun _ => none
  tokenByContract := fun _ => none
  native := native

/-- The entry to leave for an account: none if nothing is left in it. -/
def TokenAccountData.unlessDead (account : TokenAccountData) : Option TokenAccountData :=
  if account.free = 0 ∧ account.reserved = 0 then none else some account

@[simp] theorem getD_unlessDead (account : TokenAccountData) :
    account.unlessDead.getD default = account := by
  unfold TokenAccountData.unlessDead
  split
  · rename_i h
    cases account
    obtain ⟨rfl, rfl⟩ := h
    rfl
  · rfl

/-! ### Decimals -/

def transformDecimalsToStandard (amount : U128) (externalDecimals : Nat) : U128 :=
  if externalDecimals > standardDecimals then
    (fun amount => amount / 10)^[externalDecimals - standardDecimals] amount
  else
    (fun amount => amount * 10)^[standardDecimals - externalDecimals] amount

def transformDecimalsToExternal (amount : U128) (externalDecimals : Nat) : U128 :=
  if externalDecimals > standardDecimals then
    (fun amount => amount * 10)^[externalDecimals - standardDecimals] amount
  else
    (fun amount => amount / 10)^[standardDecimals - externalDecimals] amount

def tokenExternalDecimals (token : TokenId) (s : State cfg) : Result Nat := do
  if token = cfg.nativeTokenId then
    return standardDecimals
  let info ← okOr (s.tokens token) TokenError.tokenNotFound
  okOr info.decimals? TokenError.tokenNotFound

/-! ### Issuing -/

/-- The check each kind of token makes of its symbol. -/
def ensureSymbol (symbol : List UInt8) : Result Unit := do
  ensure (∀ b ∈ symbol, b < 128) TokenError.invalidTokenName
  ensure (symbol.length ≥ 2 ∧ symbol.length ≤ 8) TokenError.invalidTokenName

def create (tokenInfo : XToken) (s : State cfg) : Result (TokenId × State cfg) := do
  let id := s.nextTokenId
  let tokenByName ← match tokenInfo with
    | .nep141 symbol contract _ _ decimals => do
        ensure (decimals ≤ maxDecimals) TokenError.invalidDecimals
        ensureSymbol symbol
        ensure (contract.length < 120 ∧ contract.length > 2) TokenError.contractError
        ensure ((s.tokenByName contract).isNone) TokenError.contractError
        pure (s.tokenByName.insert contract id)
    | .erc20 symbol contract _ _ decimals | .polygon symbol contract _ _ decimals
    | .bep20 symbol contract _ _ decimals => do
        ensure (decimals ≤ maxDecimals) TokenError.invalidDecimals
        ensureSymbol symbol
        ensure (contract.length = 20) TokenError.contractError
        pure s.tokenByName
    | .fnd10 symbol _ => do
        ensureSymbol symbol
        pure s.tokenByName
  return (id, { s with
    tokenByName
    nextTokenId := s.nextTokenId + 1
    tokens := s.tokens.insert id ((tokenInfo.setTotal 0).setStable false) })

def markStable (id : TokenId) (s : State cfg) : Result (State cfg) := do
  let info ← okOr (s.tokens id) TokenError.tokenNotFound
  match info with
  | .fnd10 .. => .error TokenError.tokenNotFound
  | info => return { s with tokens := s.tokens.insert id (info.setStable true) }

def doMint (token : TokenId) (beneficiary : AccountId) (amount : U128) (s : State cfg) :
    Result (State cfg) := do
  if amount = 0 then
    return s
  let info ← okOr (s.tokens token) TokenError.tokenNotFound
  let (info, unifiedAmount) ← match info.decimals? with
    | some decimals => do
        let unifiedAmount := transformDecimalsToStandard amount decimals
        let total ← okOr (checkedAdd info.total unifiedAmount) TokenError.insufficientBalance
        pure (info.setTotal total, unifiedAmount)
    | none => pure (info, info.total)
  ensure (unifiedAmount ≠ 0) TokenError.amountZero
  let account := (s.balances (token, beneficiary)).getD default
  let free ← okOr (checkedAdd account.free unifiedAmount) TokenError.overflow
  return { s with
    balances := s.balances.insert (token, beneficiary) { account with free }
    tokens := s.tokens.insert token info }

def doBurn (token : TokenId) (target : AccountId) (amount : U128) (s : State cfg) :
    Result (U128 × State cfg) := do
  ensure (amount ≠ 0) TokenError.amountZero
  let info ← okOr (s.tokens token) TokenError.balanceZero
  let (info, unifiedAmount) ← match info.decimals? with
    | some decimals => do
        let unifiedAmount := transformDecimalsToStandard amount decimals
        let total ← okOr (checkedSub info.total unifiedAmount) TokenError.insufficientBalance
        pure (info.setTotal total, unifiedAmount)
    | none => pure (info, info.total)
  ensure (unifiedAmount ≠ 0) TokenError.amountZero
  let account ← okOr (s.balances (token, target)) TokenError.balanceZero
  let free ← okOr (checkedSub account.free unifiedAmount) TokenError.insufficientBalance
  return (amount, { s with
    balances := s.balances.put (token, target) { account with free }.unlessDead
    tokens := s.tokens.insert token info })

/-- The amount in units of `10^-18`, as `BalanceConversion` computes it. -/
def toAssetBalance (balance : U128) (tokenId : TokenId) (s : State cfg) : Result U128 := do
  if tokenId = cfg.nativeTokenId then
    return balance
  let info ← okOr (s.tokens tokenId) TokenError.tokenNotFound
  match info.decimals? with
  | some decimals => return transformDecimalsToStandard balance decimals
  | none => return balance

/-- The administrator names the token that a contract of another chain stands for. -/
def associateToken (chainId : ChainId) (contractId : List UInt8) (tokenId : TokenId) (s : State cfg) :
    State cfg :=
  { s with tokenByContract := s.tokenByContract.insert (chainId, contractId) tokenId }

/-! ### Balances -/

def isStable (token : TokenId) (s : State cfg) : Bool :=
  if token = cfg.nativeTokenId then false
  else ((s.tokens token).map XToken.isStable).getD false

/-- The function `exists` of the pallet. -/
def existsToken (token : TokenId) (s : State cfg) : Bool :=
  token = cfg.nativeTokenId ∨ (s.tokens token).isSome

def freeBalance (token : TokenId) (who : AccountId) (s : State cfg) : U128 :=
  if token = cfg.nativeTokenId then cfg.balances.free s.native who
  else ((s.balances (token, who)).getD default).free

def reservedBalance (token : TokenId) (who : AccountId) (s : State cfg) : U128 :=
  if token = cfg.nativeTokenId then cfg.balances.reserved s.native who
  else ((s.balances (token, who)).getD default).reserved

/-- What `fungibles::Inspect` reports as the balance of an account. -/
def balance (asset : TokenId) (who : AccountId) (s : State cfg) : U128 :=
  let balance := (s.balances (asset, who)).getD default
  balance.free + balance.reserved

def transferToken (origin : AccountId) (token : TokenId) (amount : U128) (target : AccountId)
    (s : State cfg) : Result (U128 × State cfg) := do
  if amount = 0 then
    return (amount, s)
  if origin = target then
    return (amount, s)
  if token = cfg.nativeTokenId then
    let native ← cfg.balances.transfer s.native origin target amount
    return (amount, { s with native })
  let account ← okOr (s.balances (token, origin)) TokenError.balanceZero
  let free ← okOr (checkedSub account.free amount) TokenError.insufficientBalance
  let balances := s.balances.put (token, origin) { account with free }.unlessDead
  let account := (balances (token, target)).getD default
  let free ← okOr (checkedAdd account.free amount) TokenError.overflow
  return (amount, { s with balances := balances.insert (token, target) { account with free } })

/-- `f` is given the free and the reserved balance, and returns those to leave. -/
def tryMutateAccount (token : TokenId) (who : AccountId)
    (f : U128 × U128 → Result (U128 × U128)) (s : State cfg) : Result (State cfg) := do
  if token = cfg.nativeTokenId then
    let v ← f (cfg.balances.free s.native who, cfg.balances.reserved s.native who)
    let native ← cfg.balances.mutateAccount s.native who v
    return { s with native }
  else
    let b := (s.balances (token, who)).getD default
    let v ← f (b.free, b.reserved)
    return { s with balances := s.balances.put (token, who) (TokenAccountData.mk v.1 v.2).unlessDead }

/-! ### Reserving -/

def canReserve (token : TokenId) (who : AccountId) (value : U128) (s : State cfg) : Bool :=
  if value = 0 then true
  else if token = cfg.nativeTokenId then cfg.balances.canReserve s.native who value
  else freeBalance token who s ≥ value

def reserve (token : TokenId) (who : AccountId) (value : U128) (s : State cfg) :
    Result (State cfg) := do
  if value = 0 then
    return s
  if token = cfg.nativeTokenId then
    let native ← cfg.balances.reserve s.native who value
    return { s with native }
  let account ← okOr (s.balances (token, who)) TokenError.balanceZero
  let free ← okOr (checkedSub account.free value) TokenError.insufficientBalance
  let reserved ← okOr (checkedAdd account.reserved value) TokenError.overflow
  return { s with balances := s.balances.insert (token, who) { free, reserved } }

def unreserve (token : TokenId) (who : AccountId) (value : U128) (s : State cfg) :
    Result (State cfg) := do
  if value = 0 then
    return s
  if token = cfg.nativeTokenId then
    ensure (cfg.balances.reserved s.native who ≥ value) TokenError.insufficientBalance
    return { s with native := cfg.balances.unreserve s.native who value }
  let account ← okOr (s.balances (token, who)) TokenError.balanceZero
  let reserved ← okOr (checkedSub account.reserved value) TokenError.insufficientBalance
  let free ← okOr (checkedAdd account.free value) TokenError.overflow
  return { s with balances := s.balances.insert (token, who) { free, reserved } }

def repatriateReserved (token : TokenId) (slashed beneficiary : AccountId) (value : U128)
    (status : BalanceStatus) (s : State cfg) : Result (State cfg) := do
  if token = cfg.nativeTokenId then
    ensure (cfg.balances.reserved s.native slashed ≥ value) TokenError.insufficientBalance
    let native ← cfg.balances.repatriateReserved s.native slashed beneficiary value status
    return { s with native }
  if slashed = beneficiary then
    match status with
    | .free => unreserve token slashed value s
    | .reserved => reserve token slashed value s
  else
    let account ← okOr (s.balances (token, slashed)) TokenError.balanceZero
    let reserved ← okOr (checkedSub account.reserved value) TokenError.insufficientBalance
    let balances := s.balances.put (token, slashed) { account with reserved }.unlessDead
    let account := (balances (token, beneficiary)).getD default
    match status with
    | .free => do
        let free ← okOr (checkedAdd account.free value) TokenError.overflow
        return { s with balances := balances.insert (token, beneficiary) { account with free } }
    | .reserved => do
        let reserved ← okOr (checkedAdd account.reserved value) TokenError.overflow
        return { s with balances := balances.insert (token, beneficiary) { account with reserved } }

end Fusotao.Token
