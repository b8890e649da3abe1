import Fusotao.Base.Commitment
import Fusotao.Token.Decimals
import Fusotao.Verifier.Runtime

/-!
# A runtime to run the pallet in

The smallest surroundings the pallet can live in: the plain ledger for the native token, no other pallets
that keep storage, short seasons, and roots whose trees are listed. Runs on given inputs take place here.
-/

namespace Fusotao.Verifier

open MerkleLeaf

/-! ### Leaves -/

/-- A value from its two halves. -/
def halves (first second : Nat) : MerkleHash :=
  ⟨Bytes.leBytes 16 first ++ Bytes.leBytes 16 second, by simp⟩

def symbolBytes (symbol : Symbol) : List UInt8 :=
  Bytes.leBytes 4 symbol.1.toNat ++ Bytes.leBytes 4 symbol.2.toNat

def keyOfOrderbook (symbol : Symbol) : List UInt8 := orderbookKey :: symbolBytes symbol

def keyOfBestprice (symbol : Symbol) : List UInt8 := bestpriceKey :: symbolBytes symbol

def keyOfOrderpage (symbol : Symbol) (price : Nat) : List UInt8 :=
  orderpageKey :: (symbolBytes symbol ++ Bytes.leBytes 16 price)

/-- The leaf at a key whose value moves from `old` to `new`. -/
def leafFrom (key : List UInt8) (old new : Nat × Nat) : MerkleLeaf :=
  ⟨key, halves old.1 old.2, halves new.1 new.2⟩

/-! ### Trees -/

/-- Values one after the other. -/
def joinValues (values : List MerkleHash) : List UInt8 := values.flatMap List.Vector.toList

theorem joinValues_inj : ∀ {values values' : List MerkleHash}, values.length = values'.length →
    joinValues values = joinValues values' → values = values'
  | [], [], _, _ => rfl
  | v :: values, v' :: values', hlength, h => by
      obtain ⟨hhead, htail⟩ := List.append_inj (show v.toList ++ joinValues values =
        v'.toList ++ joinValues values' from h) (v.2.trans v'.2.symm)
      rw [List.Vector.eq v v' hhead, joinValues_inj (Nat.succ.inj hlength) htail]

/-- A tree with the values after the proof: its root is not that of the empty tree. -/
structure Listing where
  root : MerkleHash
  entries : List (List UInt8 × MerkleHash)

/-- The value of a key in the tree of a root, zero where nothing is listed. -/
def treeOf (listings : List Listing) (root : MerkleHash) (key : List UInt8) : MerkleHash :=
  match listings.find? fun l => l.root = root with
  | some l => (l.entries.lookup key).getD emptyRoot
  | none => emptyRoot

/-- The keys that are listed in some tree. -/
def listedKeys (listings : List Listing) : List (List UInt8) :=
  listings.flatMap fun l => l.entries.map Prod.fst

theorem treeOf_of_not_listed {listings : List Listing} {key : List UInt8}
    (h : key ∉ listedKeys listings) (root : MerkleHash) : treeOf listings root key = emptyRoot := by
  unfold treeOf
  split
  · rename_i l hl
    have hlookup : l.entries.lookup key = none := by
      rw [List.lookup_eq_none_iff]
      intro entry hentry
      rw [bne_iff_ne]
      rintro rfl
      exact h (List.mem_flatMap.mpr
        ⟨l, List.mem_of_find?_eq_some hl, List.mem_map_of_mem hentry⟩)
    rw [hlookup]
    rfl
  · rfl

/-! ### The runtime -/

def plainConfig (listings : List Listing) : Config where
  token := Token.plainConfig
  External := Unit
  Effect := Empty
  perform effect _ _ := effect.elim
  consumeLiquidity _ _ _ _ _ := .ok ()
  putLiquidity _ _ _ _ _ := ()
  removeLiquidity _ _ _ _ := ()
  setPrice _ _ _ _ _ := ()
  brokerBeneficiary broker _ := broker
  validateBeneficiary _ _ _ _ := .ok ()
  dominatorOnlineThreshold := 1
  seasonDuration := 1
  dominatorCheckGracePeriod := 1
  seasonDuration_pos := Nat.one_pos
  dominatorCheckGracePeriod_pos := Nat.one_pos
  minimalStakingAmount := 1
  maxMakerFee := 10000
  maxTakerFee := 10000
  systemAccount := List.Vector.replicate 32 109
  permillMulCeil parts x := BitVec.ofNat 128 ((min parts.toNat 1000000 * x.toNat + 999999) / 1000000)
  perquintillMul p q amount :=
    BitVec.ofNat 128 ((min (p.toNat * 10 ^ 18 / q.toNat) (10 ^ 18) * amount.toNat + (5 * 10 ^ 17 - 1)) /
      10 ^ 18)
  KeyHash := List UInt8
  hashing := id
  smtVerify := Commitment.tableVerify (listedKeys listings) (treeOf listings) joinValues

/-- The assets at genesis: every account has the same amount of the native token. -/
def plainAssets (free : U128) : Token.State Token.plainConfig := .genesis fun _ => (free, 0)

def bob : AccountId := List.Vector.replicate 32 2

def operator : AccountId := List.Vector.replicate 32 3

def carol : AccountId := List.Vector.replicate 32 4

/-- The proof that the tree moves from one listed root to another at the leaves. -/
def proofOf (listings : List Listing) (knownRoot root : MerkleHash) (user : AccountId) (cmd : CommandV2)
    (leaves : List MerkleLeaf) : ProofV2 where
  eventId := 1
  userId := user
  cmd := cmd
  leaves := leaves
  makerPageDelta := 0
  makerAccountDelta := 0
  merkleProof := joinValues
    (Commitment.siblings (listedKeys listings) (treeOf listings) knownRoot (leaves.map MerkleLeaf.key))
  root := root

/-- The operator comes online. -/
def onlineRun (cfg : Config) : List (Action cfg) := [
  .block, .call 1 (.register [100, 101, 120]) (.signed operator), .call 1 (.launch operator) .root,
  .call 1 (.stake operator 1) (.signed operator)]

theorem plainConfig_sound (listings : List Listing) :
    Commitment.Sound (plainConfig listings).smtVerify (treeOf listings) :=
  Commitment.tableVerify_sound (κ := List UInt8)
    (fun r r' _ hk => (treeOf_of_not_listed hk r').trans (treeOf_of_not_listed hk r).symm)
    fun _ _ => joinValues_inj

end Fusotao.Verifier
