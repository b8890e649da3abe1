import Mathlib.Data.Nat.PSub
import Fusotao.Base.Slice
import Fusotao.ChainBridgeHandler.Pallet

/-!
# Resource ids

A resource id is a contract id, to the right, behind its length, and followed by a number of a dominator and a chain id
in little-endian order. The bytes between the length and the contract are zero in what is derived, and are not read.
-/

namespace Fusotao.ExternalChain

open Exec
open ChainBridge (ResourceId)

/-- How reading or writing a resource id ends without a result. -/
inductive ResourceFault
  | err (message : String)
  | panic
  deriving DecidableEq

def contractLengthError : String := "contract length error"

/-- The length and the number of the dominator stand at these places. -/
theorem lengthIndex_lt : 0 < 32 := by decide

theorem dexIndex_lt : 29 < 32 := by decide

def deriveResourceId (chain : ChainId) (dex : UInt8) (id : List UInt8) : Except ResourceFault ResourceId := do
  let rId : ResourceId := List.Vector.replicate 32 0
  let idLen := id.length
  ensure (¬ (idLen > 28 ∨ idLen < 1)) (.err contractLengthError)
  let rId ← okOr (Slice.copyFrom rId 30 32 (Bytes.leBytes 2 chain.toNat)) .panic
  let rId : ResourceId := rId.set ⟨29, dexIndex_lt⟩ dex
  let start ← okOr (Nat.psub 29 idLen) .panic
  let rId ← okOr (Slice.copyFrom rId start 29 id) .panic
  return rId.set ⟨0, lengthIndex_lt⟩ (UInt8.ofNat idLen)

def decodeResourceId (rId : ResourceId) : Except ResourceFault (ChainId × UInt8 × List UInt8) := do
  let tail ← okOr (Slice.range rId 30 32) .panic
  ensure (tail.length = 2) .panic
  let chainid := BitVec.ofNat 16 (Bytes.leNat tail)
  let dex := rId.get ⟨29, dexIndex_lt⟩
  let idLen := (rId.get ⟨0, lengthIndex_lt⟩).toNat
  ensure (¬ (idLen > 28 ∨ idLen < 1)) (.err contractLengthError)
  let start ← okOr (Nat.psub 29 idLen) .panic
  let v ← okOr (Slice.range rId start 29) .panic
  return (chainid, dex, v)

variable {r r' : ResourceId} {chain : ChainId} {dex : UInt8} {id : List UInt8}

/-! ### The layout -/

/-- The fields of a resource id; nothing is said of the padding. -/
structure Layout (r : ResourceId) (chain : ChainId) (dex : UInt8) (id : List UInt8) : Prop where
  length : r.toList[0]? = some (UInt8.ofNat id.length)
  contract : ∀ i, i < id.length → r.toList[29 - id.length + i]? = id[i]?
  dex : r.toList[29]? = some dex
  chain : ∀ i, i < 2 → r.toList[30 + i]? = (Bytes.leBytes 2 chain.toNat)[i]?

theorem deriveResourceId_isOk : (∃ r, deriveResourceId chain dex id = .ok r) ↔ 1 ≤ id.length ∧ id.length ≤ 28 := by
  simp only [deriveResourceId, bind_eq_ok, ensure_eq_ok, okOr_eq_ok, pure_eq_ok, exists_const]
  constructor
  · rintro ⟨r, hlength, -⟩
    omega
  · rintro ⟨hpos, hle⟩
    obtain ⟨first, hfirst⟩ := Slice.exists_copyFrom (List.Vector.replicate 32 0 : ResourceId)
      (show 30 ≤ 32 by decide) (le_refl 32) (Bytes.length_leBytes 2 chain.toNat)
    obtain ⟨second, hsecond⟩ := Slice.exists_copyFrom (first.set ⟨29, by decide⟩ dex)
      (show 29 - id.length ≤ 29 by omega) (by decide) (show id.length = 29 - (29 - id.length) by omega)
    exact ⟨_, by omega, first, hfirst, 29 - id.length, Nat.psub_eq_sub (by omega), second, hsecond, rfl⟩

theorem layout_of_derive (h : deriveResourceId chain dex id = .ok r) :
    1 ≤ id.length ∧ id.length ≤ 28 ∧ Layout r chain dex id := by
  simp only [deriveResourceId, bind_eq_ok, ensure_eq_ok, okOr_eq_ok, pure_eq_ok, exists_const] at h
  obtain ⟨hlength, first, hfirst, start, hstart, second, hsecond, rfl⟩ := h
  have hstart := Nat.psub_eq_some.mp hstart
  obtain ⟨-, -, -, hchain⟩ := Slice.copyFrom_eq_some hfirst
  obtain ⟨-, -, -, hid⟩ := Slice.copyFrom_eq_some hsecond
  -- no later write reaches a field that an earlier one wrote
  refine ⟨by omega, by omega, ?_, ?_, ?_, ?_⟩
  · rw [Slice.getElem?_set, if_pos rfl]
  · intro i hi
    rw [Slice.getElem?_set, if_neg (show ¬ 0 = 29 - id.length + i by omega), hid, if_pos (by omega)]
    congr 1
    omega
  · rw [Slice.getElem?_set, if_neg (show ¬ 0 = 29 by decide), hid, if_neg (by omega), Slice.getElem?_set, if_pos rfl]
  · intro i hi
    rw [Slice.getElem?_set, if_neg (show ¬ 0 = 30 + i by omega), hid, if_neg (by omega), Slice.getElem?_set,
      if_neg (show ¬ 29 = 30 + i by omega), hchain, if_pos (by omega), Nat.add_sub_cancel_left]

/-- Decoding reads the fields, and nothing else. -/
theorem decodeResourceId_eq_ok : decodeResourceId r = .ok (chain, dex, id) ↔
    1 ≤ id.length ∧ id.length ≤ 28 ∧ Layout r chain dex id := by
  simp only [decodeResourceId, bind_eq_ok, ensure_eq_ok, okOr_eq_ok, pure_eq_ok, exists_const, Prod.mk.injEq]
  constructor
  · rintro ⟨tail, htail, htwo, hbounds, start, hstart, v, hv, rfl, rfl, rfl⟩
    have hstart := Nat.psub_eq_some.mp hstart
    obtain ⟨-, -, -, htail⟩ := Slice.range_eq_some.mp htail
    obtain ⟨-, -, hlength, hv⟩ := Slice.range_eq_some.mp hv
    have hlen : (r.get ⟨0, by decide⟩).toNat = v.length := by omega
    refine ⟨by omega, by omega, ?_, ?_, ?_, ?_⟩
    · rw [← hlen, UInt8.ofNat_toNat]
      exact Slice.getElem?_toList r (by decide)
    · intro i hi
      rw [show 29 - v.length = start by omega]
      exact hv i (by omega)
    · exact Slice.getElem?_toList r (by decide)
    · intro i hi
      have hlt : Bytes.leNat tail < 2 ^ 16 := by
        have hlt := Bytes.leNat_lt tail
        rwa [htwo] at hlt
      rw [htail i hi, BitVec.toNat_ofNat, Nat.mod_eq_of_lt hlt, ← htwo, Bytes.leBytes_leNat]
  · rintro ⟨hpos, hle, hlayout⟩
    have hlen : (r.get ⟨0, by decide⟩).toNat = id.length := by
      have hzero := hlayout.length
      rw [Slice.getElem?_toList r (by decide)] at hzero
      rw [show r.get ⟨0, by decide⟩ = UInt8.ofNat id.length from Option.some.inj hzero, UInt8.toNat_ofNat']
      omega
    have hdex : r.get ⟨29, by decide⟩ = dex := by
      have hdex := hlayout.dex
      rw [Slice.getElem?_toList r (by decide)] at hdex
      exact Option.some.inj hdex
    have hchain : BitVec.ofNat 16 (Bytes.leNat (Bytes.leBytes 2 chain.toNat)) = chain := by
      apply BitVec.eq_of_toNat_eq
      rw [Bytes.leNat_leBytes, BitVec.toNat_ofNat]
      omega
    refine ⟨Bytes.leBytes 2 chain.toNat, ?_, Bytes.length_leBytes 2 _, by omega, 29 - id.length,
      ?_, id, ?_, hchain, by rw [hdex], rfl⟩
    · exact Slice.range_eq_some.mpr ⟨by decide, by decide, Bytes.length_leBytes 2 _, hlayout.chain⟩
    · rw [hlen]
      exact Nat.psub_eq_sub (by omega)
    · apply Slice.range_eq_some.mpr
      refine ⟨by omega, by decide, by omega, ?_⟩
      intro i hi
      exact hlayout.contract i (by omega)

theorem deriveResourceId_ne_panic : deriveResourceId chain dex id ≠ .error .panic := by
  intro h
  simp only [deriveResourceId, bind_eq_error, ensure_eq_error, ensure_eq_ok, okOr_eq_error, okOr_eq_ok, pure,
    Except.pure, reduceCtorEq, and_false, false_or, or_false, and_true, exists_const] at h
  obtain ⟨hlength, hfirst | ⟨first, -, hstart | ⟨start, hstart, hsecond⟩⟩⟩ := h
  · obtain ⟨zs, hzs⟩ := Slice.exists_copyFrom (List.Vector.replicate 32 0 : ResourceId)
      (show 30 ≤ 32 by decide) (le_refl 32) (Bytes.length_leBytes 2 chain.toNat)
    exact absurd (hzs.symm.trans hfirst) (by simp)
  · have hlt := Nat.psub_eq_none.mp hstart
    omega
  · have hstart := Nat.psub_eq_some.mp hstart
    obtain ⟨zs, hzs⟩ := Slice.exists_copyFrom (first.set ⟨29, by decide⟩ dex) (show start ≤ 29 by omega)
      (by decide) (show id.length = 29 - start by omega)
    exact absurd (hzs.symm.trans hsecond) (by simp)

/-- Decoding errs at the length alone: every slice is in range. -/
theorem decodeResourceId_eq : decodeResourceId r =
    if (r.get ⟨0, by decide⟩).toNat > 28 ∨ (r.get ⟨0, by decide⟩).toNat < 1 then
      .error (.err contractLengthError)
    else .ok (BitVec.ofNat 16 (Bytes.leNat (r.toList.drop 30)), r.get ⟨29, by decide⟩,
      (r.toList.drop (29 - (r.get ⟨0, by decide⟩).toNat)).take (r.get ⟨0, by decide⟩).toNat) := by
  have hdrop : (r.toList.drop 30).length = 2 := by
    rw [List.length_drop, r.toList_length]
  have htail : Slice.range r 30 32 = some (r.toList.drop 30) := by
    rw [Slice.range_of_le (by decide) (by decide), List.take_of_length_le (by omega)]
  unfold decodeResourceId
  rw [htail, okOr_some, ok_bind]
  dsimp only
  rw [hdrop, show ensure (2 = 2) ResourceFault.panic = .ok () from ensure_eq_ok.mpr rfl, ok_bind]
  split
  · rename_i hlength
    have hcheck := (@ensure_eq_error _ _ _ (ResourceFault.err contractLengthError) _).mpr ⟨not_not.mpr hlength, rfl⟩
    rw [hcheck, error_bind]
  · rename_i hlength
    have hcheck := (@ensure_eq_ok _ _ _ (ResourceFault.err contractLengthError) ()).mpr hlength
    have hv := @Slice.range_of_le _ _ r (29 - (r.get ⟨0, by decide⟩).toNat) 29 (by omega) (by decide)
    rw [hcheck, ok_bind, Nat.psub_eq_sub (by omega), okOr_some, ok_bind, hv, okOr_some, ok_bind,
      show 29 - (29 - (r.get ⟨0, by decide⟩).toNat) = (r.get ⟨0, by decide⟩).toNat by omega]
    rfl

theorem decodeResourceId_eq_error {fault : ResourceFault} : decodeResourceId r = .error fault ↔
    fault = .err contractLengthError ∧
      ((r.get ⟨0, by decide⟩).toNat = 0 ∨ 28 < (r.get ⟨0, by decide⟩).toNat) := by
  rw [decodeResourceId_eq]
  split
  · rename_i hlength
    constructor
    · intro h
      exact ⟨(Except.error.inj h).symm, by omega⟩
    · rintro ⟨rfl, -⟩
      rfl
  · rename_i hlength
    constructor
    · intro h
      cases h
    · rintro ⟨-, hbad⟩
      omega

/-! ### The bridge and its handler -/

/-- What the bridge reads a resource id as. -/
theorem chainBridge_decodeResourceId (r : ResourceId) :
    ChainBridge.decodeResourceId r = (decodeResourceId r).toOption := by
  rw [decodeResourceId_eq]
  by_cases hlength : (r.get ⟨0, by decide⟩).toNat > 28 ∨ (r.get ⟨0, by decide⟩).toNat < 1
  · rw [if_pos hlength]
    exact if_pos hlength
  · rw [if_neg hlength]
    exact if_neg hlength

/-- What its handler reads a resource id as. -/
theorem handler_decodeResourceId (r : ResourceId) : ChainBridgeHandler.decodeResourceId r =
    (decodeResourceId r).toOption.map fun t => (t.1, t.2.1.toBitVec, t.2.2) := by
  have hhead : r.head = r.get ⟨0, by decide⟩ := (List.Vector.get_zero r).symm
  rw [decodeResourceId_eq, ← hhead]
  by_cases hlength : r.head.toNat > 28 ∨ r.head.toNat < 1
  · rw [if_pos hlength]
    exact if_pos hlength
  · rw [if_neg hlength]
    exact if_neg hlength

/-! ### Round trips -/

theorem decode_derive (h : deriveResourceId chain dex id = .ok r) : decodeResourceId r = .ok (chain, dex, id) :=
  decodeResourceId_eq_ok.mpr (layout_of_derive h)

/-- The bytes between the length and the contract. -/
def Padding (id : List UInt8) (i : Nat) : Prop := 1 ≤ i ∧ i + id.length < 29

theorem Layout.get_eq (hle : id.length ≤ 28) (hlayout : Layout r chain dex id) (hlayout' : Layout r' chain dex id)
    {i : Nat} (hi : i < 32) (hpadding : ¬ Padding id i) : r.get ⟨i, hi⟩ = r'.get ⟨i, hi⟩ := by
  apply Option.some.inj
  rw [← Slice.getElem?_toList r hi, ← Slice.getElem?_toList r' hi]
  by_cases hzero : i = 0
  · rw [hzero, hlayout.length, hlayout'.length]
  · by_cases hcontract : i < 29
    · have hwithin : 29 ≤ i + id.length := by
        by_contra hlt
        exact hpadding ⟨by omega, by omega⟩
      have hindex : 29 - id.length + (i + id.length - 29) = i := by omega
      have hleft := hlayout.contract (i + id.length - 29) (by omega)
      have hright := hlayout'.contract (i + id.length - 29) (by omega)
      rw [hindex] at hleft hright
      rw [hleft, hright]
    · by_cases hdex : i = 29
      · rw [hdex, hlayout.dex, hlayout'.dex]
      · have hleft := hlayout.chain (i - 30) (by omega)
        have hright := hlayout'.chain (i - 30) (by omega)
        rw [show 30 + (i - 30) = i by omega] at hleft hright
        rw [hleft, hright]

theorem Layout.of_get_eq (hle : id.length ≤ 28) (hlayout : Layout r chain dex id)
    (hagree : ∀ i (hi : i < 32), ¬ Padding id i → r.get ⟨i, hi⟩ = r'.get ⟨i, hi⟩) : Layout r' chain dex id := by
  have hcopy : ∀ i, i < 32 → ¬ Padding id i → r'.toList[i]? = r.toList[i]? := by
    intro i hi hpadding
    rw [Slice.getElem?_toList r hi, Slice.getElem?_toList r' hi, hagree i hi hpadding]
  constructor
  · rw [hcopy 0 (by decide) fun hpadding => by cases hpadding.1]
    exact hlayout.length
  · intro i hi
    rw [hcopy _ (by omega) fun hpadding => by have := hpadding.2; omega]
    exact hlayout.contract i hi
  · rw [hcopy 29 (by decide) fun hpadding => by have := hpadding.2; omega]
    exact hlayout.dex
  · intro i hi
    rw [hcopy _ (by omega) fun hpadding => by have := hpadding.2; omega]
    exact hlayout.chain i hi

/-- Deriving succeeds for contracts of 1 to 28 bytes, and decoding gives back what was derived; it errs at the length
byte alone. Two ids stand for the same if and only if they agree everywhere but in the padding. -/
theorem resourceId_faithful :
    (∀ chain dex id, (∃ r, deriveResourceId chain dex id = .ok r) ↔ 1 ≤ id.length ∧ id.length ≤ 28) ∧
    (∀ chain dex id r, deriveResourceId chain dex id = .ok r → decodeResourceId r = .ok (chain, dex, id)) ∧
    (∀ chain dex id chain' dex' id' r, deriveResourceId chain dex id = .ok r →
      deriveResourceId chain' dex' id' = .ok r → (chain, dex, id) = (chain', dex', id')) ∧
    (∀ r, (∃ message, decodeResourceId r = .error (.err message)) ↔
      (r.get ⟨0, by decide⟩).toNat = 0 ∨ 28 < (r.get ⟨0, by decide⟩).toNat) ∧
    (∀ chain dex id, deriveResourceId chain dex id ≠ .error .panic) ∧
    (∀ r, decodeResourceId r ≠ .error .panic) ∧
    ∀ r r' chain dex id, decodeResourceId r = .ok (chain, dex, id) → (decodeResourceId r' = .ok (chain, dex, id) ↔
      ∀ i (hi : i < 32), ¬ Padding id i → r.get ⟨i, hi⟩ = r'.get ⟨i, hi⟩) := by
  refine ⟨fun _ _ _ => deriveResourceId_isOk, fun _ _ _ _ => decode_derive, ?_, ?_,
    fun _ _ _ => deriveResourceId_ne_panic, ?_, ?_⟩
  · intro chain dex id chain' dex' id' r h h'
    exact Except.ok.inj ((decode_derive h).symm.trans (decode_derive h'))
  · intro r
    simp only [decodeResourceId_eq_error, ResourceFault.err.injEq, exists_eq_left]
  · intro r h
    exact absurd (decodeResourceId_eq_error.mp h).1 (by simp)
  · intro r r' chain dex id h
    obtain ⟨hpos, hle, hlayout⟩ := decodeResourceId_eq_ok.mp h
    rw [decodeResourceId_eq_ok]
    constructor
    · rintro ⟨-, -, hlayout'⟩ i hi hpadding
      exact hlayout.get_eq hle hlayout' hi hpadding
    · intro hagree
      exact ⟨hpos, hle, hlayout.of_get_eq hle hagree⟩

/-- The resource that the native token has on the chain 42. -/
theorem resourceId_faithful_native : ∃ r, deriveResourceId 42 0 [84, 65, 79] = .ok r ∧
    decodeResourceId r = .ok (42, 0, [84, 65, 79]) := by
  obtain ⟨r, hr⟩ := (resourceId_faithful.1 42 0 [84, 65, 79]).mpr (by decide)
  exact ⟨r, hr, resourceId_faithful.2.1 42 0 [84, 65, 79] r hr⟩

end Fusotao.ExternalChain
