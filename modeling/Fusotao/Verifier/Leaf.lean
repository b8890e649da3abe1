import Fusotao.Support

/-!
# Merkle leaves

A leaf of the merkle tree of a dominator has a key, whose first byte says what the leaf is about, and
a value of two 16-byte halves. The leaf of an account holds what the account has available and what
is frozen in its orders; the sum of the halves wraps modulo `2^128`.
-/

namespace Fusotao.Verifier

open Exec

structure MerkleLeaf where
  key : List UInt8
  oldV : MerkleHash
  newV : MerkleHash
  deriving DecidableEq

instance : Inhabited MerkleLeaf :=
  ⟨⟨[], List.Vector.replicate 32 0, List.Vector.replicate 32 0⟩⟩

namespace MerkleLeaf

def accountKey : UInt8 := 0x00
def bestpriceKey : UInt8 := 0x02
def orderbookKey : UInt8 := 0x01
def orderpageKey : UInt8 := 0x03

/-- The word of `w` bits in little-endian bytes. -/
def fromLeBytes (w : Nat) (bytes : List UInt8) : BitVec w := BitVec.ofNat w (Bytes.leNat bytes)

/-- The token and the owner of an account leaf. -/
def tryGetAccount (leaf : MerkleLeaf) : Result (U32 × AccountId) :=
  if h : leaf.key.length = 37 then
    if leaf.key.head? = some accountKey then
      .ok (fromLeBytes 32 (leaf.key.drop 33), ⟨(leaf.key.drop 1).take 32, by simp [h]⟩)
    else .error VerifierError.proofsUnsatisfied
  else .error VerifierError.proofsUnsatisfied

/-- The pair of an order book leaf or of a best price leaf. -/
def tryGetSymbol (leaf : MerkleLeaf) : Result (U32 × U32) :=
  if leaf.key.length = 9 then
    if leaf.key.head? = some orderbookKey ∨ leaf.key.head? = some bestpriceKey then
      .ok (fromLeBytes 32 ((leaf.key.drop 1).take 4), fromLeBytes 32 (leaf.key.drop 5))
    else .error VerifierError.proofsUnsatisfied
  else .error VerifierError.proofsUnsatisfied

/-- The pair and the price of an order page leaf. -/
def tryGetOrderpage (leaf : MerkleLeaf) : Result (U32 × U32 × U128) :=
  if leaf.key.length = 25 then
    if leaf.key.head? = some orderpageKey then
      .ok (fromLeBytes 32 ((leaf.key.drop 1).take 4), fromLeBytes 32 ((leaf.key.drop 5).take 4),
        fromLeBytes 128 (leaf.key.drop 9))
    else .error VerifierError.proofsUnsatisfied
  else .error VerifierError.proofsUnsatisfied

/-- The two halves of a value. -/
abbrev splitToU128 (v : MerkleHash) : U128 × U128 :=
  (fromLeBytes 128 (v.toList.take 16), fromLeBytes 128 (v.toList.drop 16))

abbrev splitOldToU128 (leaf : MerkleLeaf) : U128 × U128 := splitToU128 leaf.oldV

def splitOldToSum (leaf : MerkleLeaf) : U128 := leaf.splitOldToU128.1 + leaf.splitOldToU128.2

abbrev splitNewToU128 (leaf : MerkleLeaf) : U128 × U128 := splitToU128 leaf.newV

def splitNewToSum (leaf : MerkleLeaf) : U128 := leaf.splitNewToU128.1 + leaf.splitNewToU128.2

/-! ### Keys -/

/-- The key of the leaf of an account. -/
def keyOfAccount (token : U32) (who : AccountId) : List UInt8 :=
  accountKey :: (who.toList ++ Bytes.leBytes 4 token.toNat)

/-- A word that takes all bits of `n` bytes is read back from its bytes. -/
theorem fromLeBytes_word {w n : Nat} (hw : 2 ^ w = 256 ^ n) (x : BitVec w) :
    fromLeBytes w (Bytes.leBytes n x.toNat) = x := by
  have hx : x.toNat < 256 ^ n := hw ▸ x.isLt
  rw [fromLeBytes, Bytes.leNat_leBytes, Nat.mod_eq_of_lt hx, BitVec.ofNat_toNat, BitVec.setWidth_eq]

theorem leBytes_word {w n : Nat} (hw : 2 ^ w = 256 ^ n) {bytes : List UInt8} (h : bytes.length = n) :
    Bytes.leBytes n (fromLeBytes w bytes).toNat = bytes := by
  have hlt : Bytes.leNat bytes < 2 ^ w := by
    have hbound := Bytes.leNat_lt bytes
    rwa [h, ← hw] at hbound
  rw [fromLeBytes, BitVec.toNat_ofNat, Nat.mod_eq_of_lt hlt, ← h]
  exact Bytes.leBytes_leNat bytes

theorem fromLeBytes_leBytes (x : U32) : fromLeBytes 32 (Bytes.leBytes 4 x.toNat) = x :=
  fromLeBytes_word (by decide) x

theorem leBytes_fromLeBytes {bytes : List UInt8} (h : bytes.length = 4) :
    Bytes.leBytes 4 (fromLeBytes 32 bytes).toNat = bytes := leBytes_word (by decide) h

/-- An account leaf is one with the key of the account. -/
theorem tryGetAccount_eq_ok {leaf : MerkleLeaf} {token : U32} {who : AccountId} :
    leaf.tryGetAccount = .ok (token, who) ↔ leaf.key = keyOfAccount token who := by
  have hwho : who.toList.length = 32 := who.2
  constructor
  · intro h
    unfold tryGetAccount at h
    split_ifs at h with hlength hhead
    obtain ⟨htoken, hid⟩ := Prod.mk.inj (Except.ok.inj h)
    obtain ⟨rest, hkey⟩ : ∃ rest, leaf.key = accountKey :: rest := by
      cases hk : leaf.key with
      | nil => simp [hk] at hhead
      | cons b rest => exact ⟨rest, by simp_all⟩
    have hrest : rest.length = 36 := by simpa [hkey] using hlength
    have hfirst : rest.take 32 = who.toList := by
      simpa [hkey] using congrArg List.Vector.toList hid
    have hlast : Bytes.leBytes 4 token.toNat = rest.drop 32 := by
      rw [← htoken, hkey]
      exact leBytes_fromLeBytes (by simp [hrest])
    rw [hkey, keyOfAccount, ← hfirst, hlast, List.take_append_drop]
  · intro h
    have hlength : leaf.key.length = 37 := by simp [h, keyOfAccount, hwho]
    have hhead : leaf.key.head? = some accountKey := by simp [h, keyOfAccount]
    have hdrop : leaf.key.drop 33 = Bytes.leBytes 4 token.toNat := by
      simp [h, keyOfAccount, hwho]
    have htake : (leaf.key.drop 1).take 32 = who.toList := by
      simp [h, keyOfAccount, hwho]
    simp only [tryGetAccount, hlength, hhead, dif_pos, if_true, hdrop, fromLeBytes_leBytes]
    exact congrArg Except.ok (Prod.ext rfl (Subtype.ext htake))

theorem keyOfAccount_injective {token token' : U32} {who who' : AccountId}
    (h : keyOfAccount token who = keyOfAccount token' who') : token = token' ∧ who = who' := by
  have hleaf : tryGetAccount ⟨keyOfAccount token who, default, default⟩ = .ok (token', who') :=
    tryGetAccount_eq_ok.mpr h
  rw [tryGetAccount_eq_ok.mpr rfl] at hleaf
  exact Prod.mk.inj (Except.ok.inj hleaf)

theorem length_keyOfAccount (token : U32) (who : AccountId) : (keyOfAccount token who).length = 37 := by
  have hwho : who.toList.length = 32 := who.2
  simp [keyOfAccount, hwho]

/-- A leaf about an order page is not one of an account. -/
theorem key_ne_of_tryGetOrderpage {leaf : MerkleLeaf} {page : U32 × U32 × U128}
    (h : leaf.tryGetOrderpage = .ok page) (token : U32) (who : AccountId) :
    leaf.key ≠ keyOfAccount token who := by
  intro hkey
  have hlength : leaf.key.length = 25 := by
    unfold tryGetOrderpage at h
    split_ifs at h with hlength
    exact hlength
  rw [hkey, length_keyOfAccount] at hlength
  exact absurd hlength (by decide)

/-! ### Volumes over the naturals -/

/-- What the two halves of a value add up to. -/
def volume (v : MerkleHash) : Nat := (splitToU128 v).1.toNat + (splitToU128 v).2.toNat

theorem splitOldToSum_toNat (leaf : MerkleLeaf) :
    leaf.splitOldToSum.toNat = volume leaf.oldV % 2 ^ 128 := BitVec.toNat_add ..

theorem splitNewToSum_toNat (leaf : MerkleLeaf) :
    leaf.splitNewToSum.toNat = volume leaf.newV % 2 ^ 128 := BitVec.toNat_add ..

end MerkleLeaf

end Fusotao.Verifier
