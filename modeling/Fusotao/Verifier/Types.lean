import Fusotao.Token.Pallet
import Fusotao.Verifier.Leaf

/-!
# The data of the verifier pallet

Dominators run order books off-chain and prove to the pallet how their merkle trees move from one root
to the next. The pallet keeps what every owner has authorised to a dominator, the receipts of what is
on its way in or out, and the stakes behind each dominator.
-/

namespace Fusotao.Verifier

def unstakeDelayBlocks : Nat := 14400 * 4

/-! ### Proofs -/

/-- `CommandV2`. -/
inductive CommandV2
  | askLimit (price amount : U128) (makerFee takerFee base quote : U32) (broker : Option AccountId)
  | bidLimit (price amount : U128) (makerFee takerFee base quote : U32) (broker : Option AccountId)
  | cancel (base quote : U32)
  | transferOut (currency : U32) (amount : U128)
  | transferIn (currency : U32) (amount : U128)
  | rejectTransferOut (currency : U32) (amount : U128)
  | rejectTransferIn
  deriving DecidableEq

/-- `ProofV2`. -/
structure ProofV2 where
  eventId : BitVec 64
  userId : AccountId
  cmd : CommandV2
  leaves : List MerkleLeaf
  makerPageDelta : U8
  makerAccountDelta : U8
  merkleProof : List UInt8
  root : MerkleHash
  deriving DecidableEq

structure Trade where
  tokenId : TokenId
  root : MerkleHash
  amount : U128
  vol : U128

/-! ### Storage -/

inductive Receipt (Callback : Type)
  | authorize (token : TokenId) (amount : U128) (block : BlockNumber)
  | revoke (token : TokenId) (amount : U128) (block : BlockNumber)
  | revokeWithCallback (token : TokenId) (amount : U128) (block : BlockNumber) (callback : Callback)

/-- The root of the empty tree. -/
def emptyRoot : MerkleHash := List.Vector.replicate 32 0

structure Dominator where
  name : List UInt8
  staked : U128
  merkleRoot : MerkleHash
  startFrom : BlockNumber
  sequence : BitVec 64 × BlockNumber
  status : DominatorStatus
  deriving DecidableEq

structure Staking where
  fromSeason : Nat
  amount : U128
  deriving DecidableEq

instance : Inhabited Staking := ⟨⟨0, 0⟩⟩

structure Bonus where
  staked : U128
  profit : IterMap TokenId U128

instance : Inhabited Bonus := ⟨⟨0, ∅⟩⟩

structure Distribution where
  fromSeason : Nat
  toSeason : Nat
  staking : U128

abbrev Reserves := StorageMap ((ReserveId × AccountId × TokenId) × AccountId) U128

/-! ### The runtime around the pallet -/

/-- What the runtime configures, its other pallets, and the libraries the pallet calls. -/
structure Config where
  token : Token.Config
  /-- The storage of the other pallets. -/
  External : Type
  /-- The calls of the other pallets that leave the verifier and the assets alone. -/
  Effect : Type
  perform : Effect → Origin → External → Result External
  consumeLiquidity : AccountId → Symbol → U128 → BlockNumber → External → Result External
  putLiquidity : AccountId → Symbol → U128 → BlockNumber → External → External
  /-- `remove_liquidity`, whose result is not looked at. -/
  removeLiquidity : AccountId → Symbol → U128 → External → External
  setPrice : TokenId → U128 → U128 → BlockNumber → External → External
  brokerBeneficiary : AccountId → External → AccountId
  /-- The check of a change of beneficiary, by the signature of the old one. -/
  validateBeneficiary : AccountId → List UInt8 → AccountId → External → Result External
  dominatorOnlineThreshold : U128
  seasonDuration : BlockNumber
  dominatorCheckGracePeriod : BlockNumber
  seasonDuration_pos : 0 < seasonDuration
  dominatorCheckGracePeriod_pos : 0 < dominatorCheckGracePeriod
  minimalStakingAmount : U128
  maxMakerFee : U32
  maxTakerFee : U32
  systemAccount : AccountId
  /-- `Permill::from_parts(parts).mul_ceil(amount)`. -/
  permillMulCeil : U32 → U128 → U128
  /-- `Perquintill::from_rational(p, q) * amount`. -/
  perquintillMul : U128 → U128 → U128 → U128
  /-- Hashed keys. No hash into 32 bytes tells all keys apart, so the type is left open. -/
  KeyHash : Type
  hashing : List UInt8 → KeyHash
  /-- `CompiledMerkleProof::verify` of the keys and values under a root, `none` being its error. -/
  smtVerify : List UInt8 → MerkleHash → List (KeyHash × MerkleHash) → Option Bool

/-- A call of the runtime. -/
inductive Call (Effect Op : Type)
  | register (identifier : List UInt8)
  | evict (dominatorId : AccountId)
  | launch (dominatorId : AccountId)
  | dominatorSetBeneficiary (beneficiary : AccountId) (proof : List UInt8)
  | verifyV2 (proofs : List ProofV2)
  | stake (dominator : AccountId) (amount : U128)
  | unstake (dominator : AccountId) (amount : U128)
  | claimShares (dominator : AccountId)
  | authorize (dominator : AccountId) (tokenId : TokenId) (amount : U128)
  | revoke (dominator : AccountId) (tokenId : TokenId) (amount : U128)
  | revokeWithCallback (dominator : AccountId) (tokenId : TokenId) (amount : U128)
      (callback : Call Effect Op)
  | transfer (token : TokenId) (target : AccountId) (amount : U128)
  /-- Other pallets host and take back funds, transfer, create, mint and burn tokens. -/
  | authorizeTo (fundOwner dex : AccountId) (tokenId : TokenId) (amount : U128)
  | revokeFrom (fundOwner dominatorId : AccountId) (tokenId : TokenId) (amount : Option U128)
      (callback : Option (Call Effect Op))
  | transferToken (origin : AccountId) (token : TokenId) (amount : U128) (target : AccountId)
  | create (tokenInfo : XToken)
  | markStable (id : TokenId)
  | doMint (token : TokenId) (beneficiary : AccountId) (amount : U128)
  | doBurn (token : TokenId) (target : AccountId) (amount : U128)
  | native (op : Op)
  /-- A call of another pallet that leaves the verifier and the assets alone. -/
  | other (effect : Effect)
  /-- Two calls, one after the other. -/
  | both (first second : Call Effect Op)
  /-- A call of another pallet that dispatches `call` as `origin` and fails if `call` does. -/
  | dispatchAs (origin : Origin) (call : Call Effect Op)
  /-- A call of another pallet that dispatches `call` as `origin` and succeeds even if `call` fails. -/
  | attempt (origin : Origin) (call : Call Effect Op)

abbrev Config.Call (cfg : Config) := Verifier.Call cfg.Effect cfg.token.balances.Op

/-- What is written down of a run. -/
inductive Entry (Callback : Type)
  /-- The effects of a proof were applied, the tree moving on from `knownRoot` to the proof's root;
  `reentrant` if the root of an earlier proof of the dominator is not stored yet. -/
  | applied (dominator : AccountId) (knownRoot : MerkleHash) (proof : ProofV2) (reentrant : Bool)
  /-- A proof rejected a transfer, and a receipt was dropped. -/
  | rejected (dominator : AccountId) (proof : ProofV2) (receipt : Receipt Callback)
  /-- The staker was paid for a season, for the given stake. -/
  | settled (staker dominator : AccountId) (season : Nat) (staking : U128)
  /-- `amount` was staked on a dominator with `staked` behind it. -/
  | staked (dominator : AccountId) (staked amount : U128)
  /-- `amount` was unstaked in a block. -/
  | unstaked (staker : AccountId) (block : BlockNumber) (amount : U128)

structure State (cfg : Config) where
  now : BlockNumber
  receipts : StorageMap (AccountId × AccountId) (Receipt cfg.Call)
  dominators : IterMap AccountId Dominator
  /-- The beneficiaries in `DominatorSettings`. -/
  beneficiaries : StorageMap AccountId AccountId
  reserves : Reserves
  bonuses : StorageMap (AccountId × Season) Bonus
  stakings : StorageMap (AccountId × AccountId) Staking
  pendingUnstakings : IterMap (BlockNumber × AccountId) U128
  asset : Token.State cfg.token
  external : cfg.External
  /-- The entries so far, the last one last. The pallet has no such item and never reads it. -/
  history : List (Entry cfg.Call)
  /-- The dominators, with a root to store, whose proofs have been applied while their root is still the
  old one. The pallet has no such item and never reads it. -/
  pending : List (AccountId × MerkleHash)

variable {cfg : Config}

def State.genesis (asset : Token.State cfg.token) (external : cfg.External) : State cfg where
  now := 0
  receipts := fun _ => none
  dominators := ∅
  beneficiaries := fun _ => none
  reserves := fun _ => none
  bonuses := fun _ => none
  stakings := fun _ => none
  pendingUnstakings := ∅
  asset := asset
  external := external
  history := []
  pending := []

/-- The amount recorded under a key, nothing if there is no entry. -/
def reserveOf (reserves : Reserves) (kind : ReserveId) (who : AccountId) (token : TokenId)
    (other : AccountId) : U128 :=
  (reserves ((kind, who, token), other)).getD 0

def isActive (d : AccountId) (s : State cfg) : Prop :=
  ∃ dominator, s.dominators.lookup d = some dominator ∧ dominator.status = .active

end Fusotao.Verifier
