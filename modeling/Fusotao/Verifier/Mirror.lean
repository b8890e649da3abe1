import Fusotao.Verifier.Entitled
import Fusotao.Verifier.History
import Fusotao.Verifier.Settlement
import Fusotao.Verifier.Stash

/-!
# Two ledgers

What is authorised to a dominator is on record, and its tree says what each account has, the available and the
frozen half together. Every proof should move the two ledgers alike. It does if it lists no account that its command
does not look at, and if no two halves add up to more than a word.
-/

namespace Fusotao.Verifier

open Exec Word MerkleLeaf

variable {cfg : Config} {s s' : State cfg} {d : AccountId}

/-! ### The ledgers -/

/-- What each account has of each token. -/
abbrev Ledger := AccountId → TokenId → Nat

/-- What is authorised to a dominator. -/
def custodyOf (d : AccountId) (s : State cfg) : Ledger :=
  fun who token => amounts s.reserves (authorizingKey d who token)

/-- What the tree of a root says. -/
def ledgerOf (cfg : Config) (tree : MerkleHash → cfg.KeyHash → MerkleHash) (root : MerkleHash) : Ledger :=
  fun who token => volume (tree root (cfg.hashing (keyOfAccount token who)))

theorem custodyOf_lt (d : AccountId) (s : State cfg) (who : AccountId) (token : TokenId) :
    custodyOf d s who token < 2 ^ 128 := BitVec.isLt _

theorem custodyOf_congr (h : s'.reserves = s.reserves) (d : AccountId) : custodyOf d s' = custodyOf d s := by
  funext who token
  rw [custodyOf, custodyOf, h]

/-- A record of another kind or of another dominator is written. -/
theorem custodyOf_update {kind : ReserveId} {who other : AccountId} {token : TokenId} {v : Nat}
    (h : amounts s'.reserves = Function.update (amounts s.reserves) ((kind, who, token), other) v)
    (hkey : kind ≠ .authorizing ∨ other ≠ d) : custodyOf d s' = custodyOf d s := by
  funext owner t
  rw [custodyOf, custodyOf, h, Function.update_of_ne]
  intro heq
  rcases hkey with hkind | hother
  · exact hkind (congrArg (fun key => key.1.1) heq).symm
  · exact hother (congrArg Prod.snd heq).symm

/-! ### The accounts of a proof -/

/-- The leaf is one of an account. -/
def isAccount (leaf : MerkleLeaf) : Bool := leaf.tryGetAccount.isOk

theorem isAccount_of_key {leaf : MerkleLeaf} {token : TokenId} {who : AccountId}
    (h : leaf.key = keyOfAccount token who) : isAccount leaf = true := by
  rw [isAccount, tryGetAccount_eq_ok.mpr h]
  rfl

theorem key_of_isAccount {leaf : MerkleLeaf} (h : isAccount leaf = true) :
    ∃ token who, leaf.key = keyOfAccount token who := by
  obtain ⟨⟨token, who⟩, haccount⟩ := exists_of_isOk h
  exact ⟨token, who, tryGetAccount_eq_ok.mp haccount⟩

/-- The places that a command takes for accounts. -/
def accountPlaces (proof : ProofV2) : List Nat :=
  match proof.cmd with
  | .askLimit .. | .bidLimit .. => List.range' 1 (proof.makerAccountDelta.toNat + 2)
  | .cancel .. => [1, 2]
  | _ => [0]

/-- What has to hold of the accounts of a proof beyond the checks. -/
structure AccountsKept (proof : ProofV2) : Prop where
  /-- The sums of the halves wrap around. -/
  fits : ∀ leaf ∈ proof.leaves, isAccount leaf → volume leaf.newV < 2 ^ 128
  /-- A leaf whose key is not looked at may be one of an account. -/
  others : ∀ i, i < proof.leaves.length → i ∉ accountPlaces proof → isAccount (nth proof.leaves i) →
    volume (nth proof.leaves i).newV = volume (nth proof.leaves i).oldV

instance (proof : ProofV2) : Decidable (AccountsKept proof) :=
  decidable_of_iff ((∀ leaf ∈ proof.leaves, isAccount leaf → volume leaf.newV < 2 ^ 128) ∧
      ∀ i, i < proof.leaves.length → i ∉ accountPlaces proof → isAccount (nth proof.leaves i) →
        volume (nth proof.leaves i).newV = volume (nth proof.leaves i).oldV)
    ⟨fun h => ⟨h.1, h.2⟩, fun h => ⟨h.fits, h.others⟩⟩

theorem accountPlaces_limit {proof : ProofV2} {side : Side} {price amount : U128}
    {makerFee takerFee base quote : U32} {broker : Option AccountId}
    (h : proof.cmd = side.limit price amount makerFee takerFee base quote broker) {i : Nat} :
    i ∈ accountPlaces proof ↔ i ≠ 0 ∧ i < proof.makerAccountDelta.toNat + 3 := by
  have hplaces : accountPlaces proof = List.range' 1 (proof.makerAccountDelta.toNat + 2) := by
    rw [accountPlaces, h]
    cases side <;> rfl
  rw [hplaces, List.mem_range'_1]
  omega

/-! ### The openings -/

/-- What the two openings of a proof say of the ledgers of its tree. -/
structure Opened (cfg : Config) (tree : MerkleHash → cfg.KeyHash → MerkleHash) (knownRoot : MerkleHash)
    (proof : ProofV2) : Prop where
  nodup : (proof.leaves.map MerkleLeaf.key).Nodup
  before : ∀ leaf ∈ proof.leaves, ∀ {token who}, leaf.key = keyOfAccount token who →
    ledgerOf cfg tree knownRoot who token = volume leaf.oldV
  after : ∀ leaf ∈ proof.leaves, ∀ {token who}, leaf.key = keyOfAccount token who →
    ledgerOf cfg tree proof.root who token = volume leaf.newV
  elsewhere : ∀ {token who}, (∀ leaf ∈ proof.leaves, leaf.key ≠ keyOfAccount token who) →
    ledgerOf cfg tree proof.root who token = ledgerOf cfg tree knownRoot who token

theorem opened_of_checkOpenings {tree : MerkleHash → cfg.KeyHash → MerkleHash} {knownRoot : MerkleHash}
    {proof : ProofV2} {u : Unit} (hsound : Commitment.Sound cfg.smtVerify tree)
    (hinjective : Function.Injective cfg.hashing) (h : checkOpenings cfg knownRoot proof = .ok u) :
    Opened cfg tree knownRoot proof := by
  obtain ⟨hold, hnew⟩ := checkOpenings_eq_ok h
  have hmoved := hsound proof.merkleProof knownRoot proof.root
    (proof.leaves.map fun leaf => (cfg.hashing leaf.key, leaf.oldV, leaf.newV))
    (by rw [List.map_map]; exact hold) (by rw [List.map_map]; exact hnew)
  refine ⟨?_, fun leaf hleaf token who hkey => ?_, fun leaf hleaf token who hkey => ?_,
    fun hother => ?_⟩
  · have hnodup := hmoved.nodup
    rw [List.map_map] at hnodup
    apply List.Nodup.of_map cfg.hashing
    rw [List.map_map]
    exact hnodup
  · rw [ledgerOf, ← hkey]
    exact congrArg volume (hmoved.before _ (List.mem_map_of_mem hleaf))
  · rw [ledgerOf, ← hkey]
    exact congrArg volume (hmoved.after _ (List.mem_map_of_mem hleaf))
  · apply congrArg volume
    apply hmoved.elsewhere
    intro entry hentry heq
    obtain ⟨leaf, hleaf, rfl⟩ := List.mem_map.mp hentry
    exact hother leaf hleaf (hinjective heq)

/-! ### What the commands do to the records -/

/-- The accounts of a proof are on record with the balances of their new leaves, and nothing else changes. -/
structure Recorded (d : AccountId) (proof : ProofV2) (s s' : State cfg) : Prop where
  listed : ∀ i, i ∈ accountPlaces proof → i < proof.leaves.length → ∀ {token who},
    (nth proof.leaves i).key = keyOfAccount token who →
      custodyOf d s' who token = (nth proof.leaves i).splitNewToSum.toNat
  elsewhere : ∀ {token who}, (∀ i, i ∈ accountPlaces proof → i < proof.leaves.length →
    (nth proof.leaves i).key ≠ keyOfAccount token who) → custodyOf d s' who token = custodyOf d s who token

/-- The two ledgers agree. -/
def Mirrors (tree : MerkleHash → cfg.KeyHash → MerkleHash) (root : MerkleHash) (d : AccountId) (s : State cfg) :
    Prop := custodyOf d s = ledgerOf cfg tree root

section Commands

variable {tree : MerkleHash → cfg.KeyHash → MerkleHash} {knownRoot : MerkleHash} {proof : ProofV2}
  {base quote currency : U32} {amount : U128}

/-- Where the ledgers agree, what is on record is the wrapped sum of the old halves. -/
theorem Mirrors.listed (hagree : Mirrors tree knownRoot d s) (ho : Opened cfg tree knownRoot proof) {i : Nat}
    (hi : i < proof.leaves.length) {token : TokenId} {who : AccountId}
    (hkey : (nth proof.leaves i).key = keyOfAccount token who) :
    custodyOf d s who token = (nth proof.leaves i).splitOldToSum.toNat := by
  have hvolume : custodyOf d s who token = volume (nth proof.leaves i).oldV := by
    rw [hagree]
    exact ho.before _ (nth_mem hi) hkey
  rw [splitOldToSum_toNat, ← hvolume, Nat.mod_eq_of_lt (custodyOf_lt d s who token)]

theorem verifyTransferIn_eq_ok {who : AccountId} {leaves : List MerkleLeaf} {u : Unit}
    (h : verifyTransferIn currency amount who leaves = .ok u) :
    leaves.length = 1 ∧ (nth leaves 0).key = keyOfAccount currency who ∧
      (nth leaves 0).splitNewToSum = (nth leaves 0).splitOldToSum + amount := by
  simp only [verifyTransferIn, bind_eq_ok, ensureProof_eq_ok, leafAt_eq_ok, exists_const, Prod.exists] at h
  obtain ⟨hlength, leaf, ⟨-, rfl⟩, hfirst, hsecond, token, id, hkey, rfl, rfl⟩ := h
  have hfrozen : (nth leaves 0).splitNewToU128.2 = (nth leaves 0).splitOldToU128.2 := hsecond
  have havailable : (nth leaves 0).splitNewToU128.1 - (nth leaves 0).splitOldToU128.1 = amount := hfirst
  refine ⟨hlength, tryGetAccount_eq_ok.mp hkey, ?_⟩
  rw [splitNewToSum, splitOldToSum, hfrozen, ← havailable]
  ring

theorem verifyTransferOut_eq_ok {who : AccountId} {leaves : List MerkleLeaf} {u : Unit}
    (h : verifyTransferOut currency amount who leaves = .ok u) :
    leaves.length = 1 ∧ (nth leaves 0).key = keyOfAccount currency who ∧
      (nth leaves 0).splitNewToSum = (nth leaves 0).splitOldToSum - amount := by
  simp only [verifyTransferOut, bind_eq_ok, ensureProof_eq_ok, leafAt_eq_ok, exists_const, Prod.exists] at h
  obtain ⟨hlength, leaf, ⟨-, rfl⟩, hfirst, hsecond, token, id, hkey, rfl, rfl⟩ := h
  have hfrozen : (nth leaves 0).splitNewToU128.2 = (nth leaves 0).splitOldToU128.2 := hsecond
  have havailable : (nth leaves 0).splitOldToU128.1 - (nth leaves 0).splitNewToU128.1 = amount := hfirst
  refine ⟨hlength, tryGetAccount_eq_ok.mp hkey, ?_⟩
  rw [splitNewToSum, splitOldToSum, hfrozen, ← havailable]
  ring

/-- A transfer writes the record of its only leaf. -/
theorem recorded_of_transfer (hplaces : accountPlaces proof = [0]) {who : AccountId}
    (hkey : (nth proof.leaves 0).key = keyOfAccount currency who) (hlength : proof.leaves.length = 1)
    (hrecord : custodyOf d s' who currency = (nth proof.leaves 0).splitNewToSum.toNat)
    (hother : ∀ {owner token}, (owner, token) ≠ (who, currency) →
      custodyOf d s' owner token = custodyOf d s owner token) : Recorded d proof s s' := by
  constructor
  · intro i hi _ token owner howner
    rw [hplaces, List.mem_singleton] at hi
    subst hi
    obtain ⟨rfl, rfl⟩ := keyOfAccount_injective (howner.symm.trans hkey)
    exact hrecord
  · intro token owner hnone
    apply hother
    intro heq
    obtain ⟨rfl, rfl⟩ := Prod.mk.inj heq
    exact hnone 0 (by rw [hplaces]; exact List.mem_singleton_self 0) (by omega) hkey

/-- The record of one account is written. -/
theorem custodyOf_write {who : AccountId} {token : TokenId} {v : Nat}
    (h : amounts s'.reserves = Function.update (amounts s.reserves) ((.authorizing, who, token), d) v) :
    custodyOf d s' who token = v ∧ ∀ {owner t}, (owner, t) ≠ (who, token) →
      custodyOf d s' owner t = custodyOf d s owner t := by
  constructor
  · rw [custodyOf, h, authorizingKey, Function.update_self]
  · intro owner t hne
    rw [custodyOf, h, authorizingKey, Function.update_of_ne]
    · rfl
    · intro heq
      exact hne (congrArg (fun key => (key.1.2.1, key.1.2.2)) heq)

theorem recorded_of_transferOut {callback : Option cfg.Call} (ho : Opened cfg tree knownRoot proof)
    (hagree : Mirrors tree knownRoot d s) (hcmd : proof.cmd = .transferOut currency amount)
    (h : applyTransferOut currency amount d proof s = .ok (callback, s')) : Recorded d proof s s' := by
  obtain ⟨-, -, -, hleaves, mid, hmid, rfl⟩ := applyTransferOut_eq_ok h
  obtain ⟨hlength, hkey, hsum⟩ := verifyTransferOut_eq_ok hleaves
  obtain ⟨-, hle, hreserves, -⟩ := unreserve_eq_ok hmid
  have hold : amounts s.reserves ((.authorizing, proof.userId, currency), d) =
      (nth proof.leaves 0).splitOldToSum.toNat := hagree.listed ho (by omega) hkey
  obtain ⟨hself, hother⟩ := custodyOf_write hreserves
  refine recorded_of_transfer (by rw [accountPlaces, hcmd]) hkey hlength ?_ hother
  rw [hold] at hle hself
  rw [hsum, toNat_sub_of_le hle]
  exact hself

theorem recorded_of_transferIn (ho : Opened cfg tree knownRoot proof) (hagree : Mirrors tree knownRoot d s)
    (hcmd : proof.cmd = .transferIn currency amount)
    (h : applyTransferIn currency amount d proof s = .ok s') : Recorded d proof s s' := by
  obtain ⟨-, hleaves, -, hreserves⟩ := applyTransferIn_eq_ok h
  obtain ⟨hlength, hkey, hsum⟩ := verifyTransferIn_eq_ok hleaves
  have hold : amounts s.reserves ((.authorizing, proof.userId, currency), d) =
      (nth proof.leaves 0).splitOldToSum.toNat := hagree.listed ho (by omega) hkey
  -- The stash goes, and the amount is authorised.
  have hstash := amounts_remove s.reserves ((.authorizingStash, proof.userId, currency), d)
  have hmid := @custodyOf_update cfg s
    { s with reserves := s.reserves.remove ((.authorizingStash, proof.userId, currency), d) } d _ _ _ _ _ hstash
    (.inl (by simp))
  rw [← hstash] at hreserves
  obtain ⟨hself, hother⟩ := @custodyOf_write cfg
    { s with reserves := s.reserves.remove ((.authorizingStash, proof.userId, currency), d) } s' d _ _ _ hreserves
  have hfits := custodyOf_lt d s' proof.userId currency
  refine recorded_of_transfer (by rw [accountPlaces, hcmd]) hkey hlength ?_ fun {owner token} hne => ?_
  · rw [hold] at hself
    rw [hself] at hfits
    rw [hself, hsum, BitVec.toNat_add, Nat.mod_eq_of_lt hfits]
  · rw [hother hne, hmid]

theorem recorded_of_cancel {unfilled : U128} (ho : Opened cfg tree knownRoot proof)
    (hagree : Mirrors tree knownRoot d s) (hcmd : proof.cmd = .cancel base quote)
    (h : verifyCancel base quote proof.userId proof.leaves = .ok unfilled)
    (hsame : s'.reserves = s.reserves) : Recorded d proof s s' := by
  have hc := verifyCancel_eq_ok h
  have hcustody := custodyOf_congr hsame d
  refine ⟨fun i hi hlength token who hkey => ?_, fun {token who} _ => by rw [hcustody]⟩
  have hsums : (nth proof.leaves i).splitOldToSum = (nth proof.leaves i).splitNewToSum := by
    rw [accountPlaces, hcmd] at hi
    rcases List.mem_pair.mp hi with rfl | rfl
    · exact hc.base
    · exact hc.quote
  rw [hcustody, hagree.listed ho hlength hkey, hsums]

theorem recorded_of_limit {side : Side} {price : U128} {makerFee takerFee : U32} {broker : Option AccountId}
    {beneficiary : AccountId} {season : Season} {trade : Trade} (ho : Opened cfg tree knownRoot proof)
    (hcmd : proof.cmd = side.limit price amount makerFee takerFee base quote broker)
    (h : applyLimit side price amount makerFee takerFee base quote broker d beneficiary season proof s =
      .ok (trade, s')) : Recorded d proof s s' := by
  obtain ⟨-, cr, hcr, -⟩ := applyLimit_steps h
  obtain ⟨hb, -⟩ := verifyLimit_checked hcr
  have heven := hb.even
  have hlength := hb.length
  have hcleared := applyLimit_cleared ho.nodup h
  constructor
  · intro i hi _ token who hkey
    obtain ⟨hpos, hend⟩ := (accountPlaces_limit hcmd).mp hi
    obtain ⟨k, hk, rfl | rfl⟩ := @account_place (proof.makerAccountDelta.toNat / 2) i hpos (by omega)
    · obtain ⟨rfl, rfl⟩ := keyOfAccount_injective (hkey.symm.trans (hb.backed k hk).baseKey)
      rw [custodyOf, amounts, hcleared.baseRecord k (by omega)]
      rfl
    · obtain ⟨rfl, rfl⟩ := keyOfAccount_injective (hkey.symm.trans (hb.backed k hk).quoteKey)
      rw [custodyOf, amounts, hcleared.quoteRecord k (by omega)]
      rfl
  · intro token who hnone
    rw [custodyOf, amounts, hcleared.elsewhere]
    · rfl
    · intro k hk
      constructor
      · intro heq
        obtain ⟨rfl, rfl⟩ : who = party proof.leaves k ∧ token = base := by simpa [authorizingKey] using heq
        exact hnone _ ((accountPlaces_limit hcmd).mpr ⟨by omega, by omega⟩) (by omega)
          (hb.backed k (by omega)).baseKey
      · intro heq
        obtain ⟨rfl, rfl⟩ : who = party proof.leaves k ∧ token = quote := by simpa [authorizingKey] using heq
        exact hnone _ ((accountPlaces_limit hcmd).mpr ⟨by omega, by omega⟩) (by omega)
          (hb.backed k (by omega)).quoteKey

theorem Applied.recorded (h : Applied d proof s s') (ho : Opened cfg tree knownRoot proof)
    (hagree : Mirrors tree knownRoot d s) : Recorded d proof s s' := by
  cases h with
  | limit side price amount makerFee takerFee base quote broker beneficiary season trade hcmd h =>
      exact recorded_of_limit ho hcmd h
  | cancel base quote unfilled external hcmd h hs' =>
      exact recorded_of_cancel ho hagree hcmd h (by rw [hs'])
  | transferOut currency amount callback hcmd h => exact recorded_of_transferOut ho hagree hcmd h
  | transferIn currency amount hcmd h => exact recorded_of_transferIn ho hagree hcmd h

/-- Where the ledgers agree, a proof moves both alike exactly if it keeps the accounts that are not looked at, and no
balance leaves the range of a word. -/
theorem Applied.mirrors_iff (h : Applied d proof s s') (ho : Opened cfg tree knownRoot proof)
    (hagree : Mirrors tree knownRoot d s) : Mirrors tree proof.root d s' ↔ AccountsKept proof := by
  have hr := h.recorded ho hagree
  -- A leaf at another place is none of those that are recorded.
  have hothers : ∀ i, i < proof.leaves.length → i ∉ accountPlaces proof → ∀ {token who},
      (nth proof.leaves i).key = keyOfAccount token who →
        custodyOf d s' who token = volume (nth proof.leaves i).oldV := by
    intro i hi hplace token who hkey
    rw [hr.elsewhere, hagree]
    · exact ho.before _ (nth_mem hi) hkey
    · intro j hj hlength heq
      obtain rfl := nth_key_inj ho.nodup hlength hi (heq.trans hkey.symm)
      exact hplace hj
  constructor
  · intro hmirrors
    constructor
    · intro leaf hleaf haccount
      obtain ⟨token, who, hkey⟩ := key_of_isAccount haccount
      rw [← ho.after leaf hleaf hkey, ← hmirrors]
      exact custodyOf_lt d s' who token
    · intro i hi hplace haccount
      obtain ⟨token, who, hkey⟩ := key_of_isAccount haccount
      rw [← ho.after _ (nth_mem hi) hkey, ← hmirrors]
      exact hothers i hi hplace hkey
  · intro hkept
    funext who token
    by_cases hlisted : ∃ i, i < proof.leaves.length ∧ (nth proof.leaves i).key = keyOfAccount token who
    · obtain ⟨i, hi, hkey⟩ := hlisted
      rw [ho.after _ (nth_mem hi) hkey]
      by_cases hplace : i ∈ accountPlaces proof
      · rw [hr.listed i hplace hi hkey, splitNewToSum_toNat]
        exact Nat.mod_eq_of_lt (hkept.fits _ (nth_mem hi) (isAccount_of_key hkey))
      · rw [hothers i hi hplace hkey]
        exact (hkept.others i hi hplace (isAccount_of_key hkey)).symm
    · have hnone : ∀ i, i < proof.leaves.length → (nth proof.leaves i).key ≠ keyOfAccount token who :=
        fun i hi hkey => hlisted ⟨i, hi, hkey⟩
      rw [hr.elsewhere fun i _ hi => hnone i hi, hagree, ho.elsewhere]
      intro leaf hleaf
      obtain ⟨i, hi, rfl⟩ := mem_iff_nth.mp hleaf
      exact hnone i hi

end Commands

/-! ### What the moves do to the records -/

/-- As long as a dominator is not evicted, only its own proofs write what is authorised to it. -/
theorem Move.custodyOf_eq (h : Move s s') (hnot : ¬ Verifier.isEvicted d s) (happly : ¬ AppliesAt d s s') :
    custodyOf d s' = custodyOf d s := by
  funext who token
  cases h.funds with
  | same h => exact h.records (.inl rfl)
  | authorize owner d' t amount h => exact authorizeTo_records h (by simp [authorizingKey])
  | revoke owner d' t wanted callback h =>
      obtain rfl | ⟨dominator, amount, hlookup, -, -, ⟨hevicted, -⟩ | ⟨-, -, receipt, -, rfl⟩⟩ :=
        revokeFrom_eq_ok h
      · rfl
      · have hd : d ≠ d' := by
          rintro rfl
          exact hnot ⟨dominator, hlookup, hevicted⟩
        exact revokeFrom_records h (by simp [authorizingKey, hd]) (by simp [authorizingKey])
      · rfl
  | apply d' dominator proof mid hlookup hopenings h hs' =>
      have hd : d ≠ d' := by
        rintro rfl
        exact happly ⟨dominator, proof, mid, hlookup, hopenings, h, hs'⟩
      rw [hs']
      exact h.records (.inr hd) (.inr hd)
  | reject d' proof r h hs' =>
      rw [hs']
      rfl

/-! ### Runs -/

/-- The proof keeps its accounts, if it is one of the dominator. -/
def Entry.keepsAccounts {Callback : Type} (d : AccountId) : Entry Callback → Prop
  | .applied d' _ proof _ => d' = d → AccountsKept proof
  | _ => True

instance {Callback : Type} (d : AccountId) : ∀ entry : Entry Callback, Decidable (entry.keepsAccounts d)
  | .applied d' _ proof _ => inferInstanceAs (Decidable (d' = d → AccountsKept proof))
  | .rejected .. | .settled .. | .staked .. | .unstaked .. => .isTrue trivial

def ProofsKept {Callback : Type} (d : AccountId) (history : List (Entry Callback)) : Prop :=
  ∀ entry ∈ history, entry.keepsAccounts d

section Runs

variable {tree : MerkleHash → cfg.KeyHash → MerkleHash} (hsound : Commitment.Sound cfg.smtVerify tree)
  (hinjective : Function.Injective cfg.hashing)

include hsound hinjective

/-- One move keeps the ledgers alike. -/
theorem Mirrors.move (hagree : Mirrors tree (tipOf d s) d s) (hinv : LinearTree d s) (h : Move s s')
    (hre : NoReentry d s'.history) (hkept : ProofsKept d s'.history) (hnot : ¬ isEvicted d s) :
    Mirrors tree (tipOf d s') d s' := by
  by_cases happly : AppliesAt d s s'
  · obtain ⟨dominator, proof, mid, -, hopenings, happlied, rfl, hroot, htip, -, -⟩ := happly.advance hre
    rw [hroot] at hopenings
    have hproof : AccountsKept proof :=
      hkept _ (List.mem_append_right _ (List.mem_singleton_self _)) rfl
    rw [htip]
    exact (happlied.mirrors_iff (opened_of_checkOpenings hsound hinjective hopenings) hagree).mpr hproof
  · obtain ⟨htip, -, -⟩ := h.tree_eq hinv.one happly
    rw [Mirrors, htip, h.custodyOf_eq hnot happly]
    exact hagree

theorem mirrors_of_visited (hempty : ∀ key, volume (tree emptyRoot key) = 0) (h : Visited s)
    (hre : NoReentry d s.history) (hkept : ProofsKept d s.history) (hnot : ¬ isEvicted d s) :
    Mirrors tree (tipOf d s) d s := by
  refine (h.invariant (fun s => Visited s ∧ (NoReentry d s.history → ProofsKept d s.history →
    ¬ isEvicted d s → Mirrors tree (tipOf d s) d s)) ?_ ?_).2 hre hkept hnot
  · intro s hinit
    refine ⟨⟨s, hinit, .refl⟩, fun _ _ _ => ?_⟩
    obtain ⟨asset, external, rfl⟩ := hinit
    funext who token
    exact (hempty _).symm
  · intro s s' ⟨hvisited, ih⟩ hmove
    refine ⟨hvisited.move hmove, fun hre hkept hnot => ?_⟩
    have hbefore := hre.of_prefix hmove.history
    have hnot' : ¬ isEvicted d s := fun h => hnot (hmove.isEvicted h)
    have hagree := ih hbefore (fun entry hmem => hkept entry (hmove.history.subset hmem)) hnot'
    exact hagree.move hsound hinjective (linearTree_of_visited hvisited hbefore) hmove hre hkept hnot'

/-- In every run without re-entry whose proofs keep their accounts, what is authorised to a dominator that is not
evicted is what its tree says. -/
theorem custody_refines_ledger (hempty : ∀ key, volume (tree emptyRoot key) = 0) {dominator : Dominator}
    (h : Transition.Reachable Init Step s) (hre : NoReentry d s.history) (hkept : ProofsKept d s.history)
    (hd : s.dominators.lookup d = some dominator) (hnot : dominator.status ≠ .evicted) (who : AccountId)
    (token : TokenId) :
    (reserveOf s.reserves .authorizing who token d).toNat =
      volume (tree dominator.merkleRoot (cfg.hashing (keyOfAccount token who))) := by
  have hmirrors := mirrors_of_visited hsound hinjective hempty (visited_of_reachable h) hre hkept
    (not_isEvicted_of_status hd hnot)
  rw [tipOf, pendingOf, pending_of_reachable h, List.filterMap_nil, List.head?_nil, Option.getD_none,
    rootOf_of_lookup hd] at hmirrors
  exact congrFun (congrFun hmirrors who) token

end Runs

/-! ### An account in place of an order page

An ask of nothing, the first proof of a dominator. The leaf after the best prices should be an order page, and is the
account of someone else. -/

theorem treeOf_emptyRoot {listings : List Listing} (h : ∀ l ∈ listings, l.root ≠ emptyRoot)
    (key : List UInt8) : treeOf listings emptyRoot key = emptyRoot := by
  have hnone : listings.find? (fun l => l.root = emptyRoot) = none :=
    List.find?_eq_none.mpr fun l hl heq => h l hl (by simpa using heq)
  rw [treeOf, hnone]

theorem volume_treeOf_emptyRoot {listings : List Listing} (h : ∀ l ∈ listings, l.root ≠ emptyRoot)
    (key : List UInt8) : volume (treeOf listings emptyRoot key) = 0 := by
  rw [treeOf_emptyRoot h]
  decide

def paidRoot : MerkleHash := List.Vector.replicate 32 9

def paidListings : List Listing := [⟨paidRoot, [(keyOfAccount 1 bob, halves 7 0)]⟩]

def paidProof : ProofV2 :=
  { proofOf paidListings emptyRoot paidRoot Token.alice (.askLimit 10 1 0 0 0 1 none) [
      leafFrom (keyOfOrderbook (0, 1)) (0, 0) (0, 0),
      leafFrom (keyOfAccount 0 Token.alice) (0, 0) (0, 0),
      leafFrom (keyOfAccount 1 Token.alice) (0, 0) (0, 0),
      leafFrom (keyOfBestprice (0, 1)) (0, 0) (0, 0),
      leafFrom (keyOfAccount 1 bob) (0, 0) (7, 0)] with
    makerPageDelta := 1 }

def paidRun : List (Action (plainConfig paidListings)) := onlineRun _ ++ [
  .call 1 (.create Token.unitToken) .root, .call 1 (.markStable 1) .root,
  .call 1 (.verifyV2 [paidProof]) (.signed operator)]

theorem custody_refines_ledger_deposit : ∃ (s : State reentryConfig) (dominator : Dominator),
    Transition.Reachable Init Step s ∧ s.dominators.lookup operator = some dominator ∧
    dominator.merkleRoot = depositRoot ∧
    (reserveOf s.reserves .authorizing operator 0 operator).toNat =
      volume (treeOf reentryListings dominator.merkleRoot (keyOfAccount 0 operator)) := by
  obtain ⟨s, hs, hcheck⟩ := exists_of_succeedsWith
    (x := play depositRun (.genesis (plainAssets 100) ()))
    (p := fun s => (s.dominators.lookup operator).any (fun dominator =>
        dominator.status = .active ∧ dominator.merkleRoot = depositRoot) &&
      (s.history.all fun entry => !entry.reentrantAt operator) &&
      s.history.all fun entry => entry.keepsAccounts operator) (by decide +kernel)
  simp only [Bool.and_eq_true, Option.any_eq_true, List.all_eq_true, decide_eq_true_eq,
    Bool.not_eq_true'] at hcheck
  obtain ⟨⟨⟨dominator, hd, hactive, hroot⟩, hre⟩, hkept⟩ := hcheck
  have hreach := reachable_of_play hs
  have hempty := @volume_treeOf_emptyRoot reentryListings (by decide)
  exact ⟨s, dominator, hreach, hd, hroot, custody_refines_ledger (plainConfig_sound reentryListings)
    Function.injective_id hempty hreach hre hkept hd (by rw [hactive]; decide) operator 0⟩

/-- The proof is accepted, and an account has seven units in the tree that nobody has authorised. -/
theorem ask_pays_unauthorised :
    Commitment.Sound (plainConfig paidListings).smtVerify (treeOf paidListings) ∧
    (∀ key, volume (treeOf paidListings emptyRoot key) = 0) ∧
    ∃ (s : State (plainConfig paidListings)) (dominator : Dominator),
      Transition.Reachable Init Step s ∧ NoReentry operator s.history ∧
      s.dominators.lookup operator = some dominator ∧ dominator.status = .active ∧
      (reserveOf s.reserves .authorizing bob 1 operator).toNat = 0 ∧
      volume (treeOf paidListings dominator.merkleRoot (keyOfAccount 1 bob)) = 7 := by
  refine ⟨plainConfig_sound paidListings, @volume_treeOf_emptyRoot paidListings (by decide), ?_⟩
  obtain ⟨s, hs, hcheck⟩ := exists_of_succeedsWith
    (x := play paidRun (.genesis (plainAssets 100) ()))
    (p := fun s => (s.dominators.lookup operator).any (fun dominator =>
        dominator.status = .active ∧ dominator.merkleRoot = paidRoot) &&
      (s.history.all fun entry => !entry.reentrantAt operator) &&
      decide ((reserveOf s.reserves .authorizing bob 1 operator).toNat = 0)) (by decide +kernel)
  simp only [Bool.and_eq_true, Option.any_eq_true, List.all_eq_true, decide_eq_true_eq,
    Bool.not_eq_true'] at hcheck
  obtain ⟨⟨⟨dominator, hd, hactive, hroot⟩, hre⟩, hzero⟩ := hcheck
  refine ⟨s, dominator, reachable_of_play hs, hre, hd, hactive, hzero, ?_⟩
  rw [hroot]
  decide +kernel

end Fusotao.Verifier
