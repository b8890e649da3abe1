import Fusotao.Verifier.LimitPrice

/-!
# Cancellations

An accepted cancellation shows the order book, the two accounts of the user, the best prices and one order page. The
order should leave one side of the book, the one its page is on. The check lets the size of the other side change as
well, as long as no bit is set in both of the differences.
-/

namespace Fusotao.Verifier

open Exec Word MerkleLeaf

/-! ### Volumes over the naturals -/

theorem splitOldToSum_eq (leaf : MerkleLeaf) : leaf.splitOldToSum = BitVec.ofNat 128 (volume leaf.oldV) := by
  apply BitVec.eq_of_toNat_eq
  rw [splitOldToSum_toNat, BitVec.toNat_ofNat]

theorem splitNewToSum_eq (leaf : MerkleLeaf) : leaf.splitNewToSum = BitVec.ofNat 128 (volume leaf.newV) := by
  apply BitVec.eq_of_toNat_eq
  rw [splitNewToSum_toNat, BitVec.toNat_ofNat]

theorem decr_eq (leaf : MerkleLeaf) :
    decr leaf = BitVec.ofNat 128 (volume leaf.oldV) - BitVec.ofNat 128 (volume leaf.newV) := by
  rw [decr, splitOldToSum_eq, splitNewToSum_eq]

theorem incr_eq (leaf : MerkleLeaf) :
    incr leaf = BitVec.ofNat 128 (volume leaf.newV) - BitVec.ofNat 128 (volume leaf.oldV) := by
  rw [incr, splitOldToSum_eq, splitNewToSum_eq]

/-- A wrapping difference of two volumes is the difference of the naturals if that is one of words. -/
theorem volume_decr_iff {leaf : MerkleLeaf} :
    volume leaf.oldV = volume leaf.newV + (decr leaf).toNat ↔
      volume leaf.newV ≤ volume leaf.oldV ∧ volume leaf.oldV < volume leaf.newV + 2 ^ 128 :=
  eq_add_toNat_iff (decr_eq leaf)

theorem volume_incr_iff {leaf : MerkleLeaf} :
    volume leaf.newV = volume leaf.oldV + (incr leaf).toNat ↔
      volume leaf.oldV ≤ volume leaf.newV ∧ volume leaf.newV < volume leaf.oldV + 2 ^ 128 :=
  eq_add_toNat_iff (incr_eq leaf)

theorem volume_lt (v : MerkleHash) : volume v < 2 ^ 129 := by
  have hfirst := (splitToU128 v).1.isLt
  have hsecond := (splitToU128 v).2.isLt
  unfold volume
  omega

/-- Two volumes with the same wrapped sum are the same if both fit a word or neither does. -/
theorem volume_eq_iff {leaf : MerkleLeaf} (h : leaf.splitOldToSum = leaf.splitNewToSum) :
    volume leaf.newV = volume leaf.oldV ↔ (volume leaf.oldV < 2 ^ 128 ↔ volume leaf.newV < 2 ^ 128) := by
  have hsum : volume leaf.oldV % 2 ^ 128 = volume leaf.newV % 2 ^ 128 := by
    rw [← splitOldToSum_toNat, ← splitNewToSum_toNat, h]
  have hold := volume_lt leaf.oldV
  have hnew := volume_lt leaf.newV
  omega

/-! ### What a cancellation should be -/

/-- An order page at `price` is on this side of the book. -/
def Side.Lists : Side → U128 × U128 → U128 → Prop
  | .ask, best, price => best.1 ≠ 0 ∧ best.1 ≤ price
  | .bid, best, price => price ≤ best.2

instance : ∀ (side : Side) (best : U128 × U128) (price : U128), Decidable (side.Lists best price)
  | .ask, best, price => inferInstanceAs (Decidable (best.1 ≠ 0 ∧ best.1 ≤ price))
  | .bid, best, price => inferInstanceAs (Decidable (price ≤ best.2))

/-- One order of volume `delta` leaves one side of the book, and nothing else changes. -/
structure Cancels (side : Side) (leaves : List MerkleLeaf) (delta : U128) : Prop where
  falls : (side.own (nth leaves 0).splitOldToU128).toNat =
    (side.own (nth leaves 0).splitNewToU128).toNat + delta.toNat
  nonzero : 0 < delta.toNat
  other : side.opposite (nth leaves 0).splitNewToU128 = side.opposite (nth leaves 0).splitOldToU128
  page : volume (nth leaves 4).oldV = volume (nth leaves 4).newV + delta.toNat
  listed : side.Lists (nth leaves 3).splitOldToU128 (priceOf (nth leaves 4))
  base : volume (nth leaves 1).newV = volume (nth leaves 1).oldV
  quote : volume (nth leaves 2).newV = volume (nth leaves 2).oldV

/-- The side whose size is compared with the page. -/
def cancelSide (leaves : List MerkleLeaf) : Side :=
  if Side.ask.Lists (nth leaves 3).splitOldToU128 (priceOf (nth leaves 4)) then .ask else .bid

/-- What has to hold of the leaves beyond the checks. -/
structure CancelKept (leaves : List MerkleLeaf) : Prop where
  /-- The differences of the sizes are only checked to share no bit. -/
  other : (cancelSide leaves).opposite (nth leaves 0).splitNewToU128 =
    (cancelSide leaves).opposite (nth leaves 0).splitOldToU128
  /-- The differences wrap around. -/
  size : (cancelSide leaves).own (nth leaves 0).splitNewToU128 ≤
    (cancelSide leaves).own (nth leaves 0).splitOldToU128
  page : volume (nth leaves 4).newV ≤ volume (nth leaves 4).oldV ∧
    volume (nth leaves 4).oldV < volume (nth leaves 4).newV + 2 ^ 128
  /-- Where there are no asks, a page above the best bid is taken for one of the bids. -/
  listed : (nth leaves 3).splitOldToU128.1 = 0 →
    Side.bid.Lists (nth leaves 3).splitOldToU128 (priceOf (nth leaves 4))
  /-- The sums of the halves wrap around. -/
  base : volume (nth leaves 1).oldV < 2 ^ 128 ↔ volume (nth leaves 1).newV < 2 ^ 128
  quote : volume (nth leaves 2).oldV < 2 ^ 128 ↔ volume (nth leaves 2).newV < 2 ^ 128

variable {base quote : U32} {account : AccountId} {leaves : List MerkleLeaf} {delta : U128}

/-- What the checks of an accepted cancellation come to. -/
structure CancelChecked (base quote : U32) (account : AccountId) (leaves : List MerkleLeaf) (delta : U128) :
    Prop where
  length : leaves.length = 5
  book : (nth leaves 0).tryGetSymbol = .ok (base, quote)
  baseOwner : (nth leaves 1).tryGetAccount = .ok (base, account)
  quoteOwner : (nth leaves 2).tryGetAccount = .ok (quote, account)
  isPage : IsPage base quote (nth leaves 4)
  price : (nth leaves 3).splitOldToU128.1 ≤ priceOf (nth leaves 4) ∨
    priceOf (nth leaves 4) ≤ (nth leaves 3).splitOldToU128.2
  changes : ((nth leaves 0).splitOldToU128.1 - (nth leaves 0).splitNewToU128.1) +
    ((nth leaves 0).splitOldToU128.2 - (nth leaves 0).splitNewToU128.2) ≠ 0
  base : (nth leaves 1).splitOldToSum = (nth leaves 1).splitNewToSum
  quote : (nth leaves 2).splitOldToSum = (nth leaves 2).splitNewToSum
  page : decr (nth leaves 4) = delta
  size : (cancelSide leaves).own (nth leaves 0).splitOldToU128 -
    (cancelSide leaves).own (nth leaves 0).splitNewToU128 = delta

theorem verifyCancel_eq_ok (h : verifyCancel base quote account leaves = .ok delta) :
    CancelChecked base quote account leaves delta := by
  simp only [verifyCancel, bind_eq_ok, ensureProof_eq_ok, leafAt_eq_ok, Prod.exists, exists_const] at h
  obtain ⟨hlength, leaf0, ⟨-, rfl⟩, b, q, hbook, ⟨rfl, rfl⟩, hchanges, -, leaf1, ⟨-, rfl⟩, b1, id1, howner, rfl,
    rfl, hbase, leaf2, ⟨-, rfl⟩, q2, id2, howner', rfl, rfl, hquote, leaf3, ⟨-, rfl⟩, leaf4, ⟨-, rfl⟩, pb, pq, p,
    hpage, ⟨rfl, rfl, hprice⟩, h⟩ := h
  obtain rfl := priceOf_eq hpage
  have hsize : decr (nth leaves 4) = delta ∧ (cancelSide leaves).own (nth leaves 0).splitOldToU128 -
      (cancelSide leaves).own (nth leaves 0).splitNewToU128 = decr (nth leaves 4) := by
    unfold cancelSide
    by_cases hask : Side.ask.Lists (nth leaves 3).splitOldToU128 (priceOf (nth leaves 4))
    · rw [if_pos (And.symm hask)] at h
      simp only [bind_eq_ok, ensureProof_eq_ok, pure_eq_ok, exists_const] at h
      exact ⟨h.2, if_pos hask ▸ h.1⟩
    · rw [if_neg fun hask' => hask (And.symm hask')] at h
      simp only [bind_eq_ok, ensureProof_eq_ok, pure_eq_ok, exists_const] at h
      exact ⟨h.2, if_neg hask ▸ h.1⟩
  exact ⟨hlength, hbook, howner, howner', hpage, hprice, hchanges, hbase, hquote, hsize.1,
    hsize.2.trans hsize.1⟩

theorem cancelSide_eq_ask :
    cancelSide leaves = .ask ↔ Side.ask.Lists (nth leaves 3).splitOldToU128 (priceOf (nth leaves 4)) := by
  unfold cancelSide
  split <;> simp [*]

/-- A page that is taken for one of the bids is listed there, unless there are no asks. -/
theorem CancelChecked.listed (hc : CancelChecked base quote account leaves delta)
    (hnone : (nth leaves 3).splitOldToU128.1 = 0 →
      Side.bid.Lists (nth leaves 3).splitOldToU128 (priceOf (nth leaves 4))) :
    (cancelSide leaves).Lists (nth leaves 3).splitOldToU128 (priceOf (nth leaves 4)) := by
  cases hside : cancelSide leaves with
  | ask => exact cancelSide_eq_ask.mp hside
  | bid =>
      by_cases hasks : (nth leaves 3).splitOldToU128.1 = 0
      · exact hnone hasks
      · refine hc.price.resolve_left fun hle => ?_
        exact absurd (cancelSide_eq_ask.mpr ⟨hasks, hle⟩) (by simp [hside])

/-- The side that is not compared with the page does not change alone. -/
theorem CancelChecked.nonzero (hc : CancelChecked base quote account leaves delta)
    (hother : (cancelSide leaves).opposite (nth leaves 0).splitNewToU128 =
      (cancelSide leaves).opposite (nth leaves 0).splitOldToU128) : delta ≠ 0 := by
  intro hzero
  apply hc.changes
  have hsize := hc.size.trans hzero
  cases hside : cancelSide leaves with
  | ask =>
      rw [hside] at hsize hother
      exact (congrArg₂ (· + ·) hsize (sub_eq_zero.mpr hother.symm)).trans (add_zero 0)
  | bid =>
      rw [hside] at hsize hother
      exact (congrArg₂ (· + ·) (sub_eq_zero.mpr hother.symm) hsize).trans (add_zero 0)

/-- An accepted cancellation takes one order from one side exactly if what the check leaves open is as it should
be. -/
theorem accepted_cancels_iff (h : verifyCancel base quote account leaves = .ok delta) :
    (∃ side, Cancels side leaves delta) ↔ CancelKept leaves := by
  have hc := verifyCancel_eq_ok h
  have hpage := @volume_decr_iff (nth leaves 4)
  rw [hc.page] at hpage
  constructor
  · rintro ⟨side, hs⟩
    obtain rfl : side = cancelSide leaves := by
      cases side with
      | ask => exact (cancelSide_eq_ask.mpr hs.listed).symm
      | bid =>
          by_contra hne
          have hask : cancelSide leaves = .ask := by
            cases hside : cancelSide leaves with
            | ask => rfl
            | bid => exact absurd hside.symm hne
          -- The asks are compared with the page, but they do not change.
          have hsize := hc.size
          rw [hask] at hsize
          have hzero : delta = 0 := hsize.symm.trans (sub_eq_zero.mpr hs.other.symm)
          exact absurd hs.nonzero (by simp [hzero])
    refine ⟨hs.other, ?_, hpage.mp hs.page, fun hnone => ?_, (volume_eq_iff hc.base).mp hs.base,
      (volume_eq_iff hc.quote).mp hs.quote⟩
    · exact BitVec.le_def.mpr (by have := hs.falls; omega)
    · have hlisted := hs.listed
      cases hside : cancelSide leaves with
      | ask => exact absurd hnone (cancelSide_eq_ask.mp hside).1
      | bid => rwa [hside] at hlisted
  · intro hk
    refine ⟨cancelSide leaves, ?_, ?_, hk.other, hpage.mpr hk.page, hc.listed hk.listed,
      (volume_eq_iff hc.base).mpr hk.base, (volume_eq_iff hc.quote).mpr hk.quote⟩
    · rw [← hc.size, toNat_sub_of_le hk.size]
      exact (Nat.add_sub_cancel' hk.size).symm
    · exact Nat.pos_of_ne_zero fun hzero => hc.nonzero hk.other (BitVec.eq_of_toNat_eq hzero)

/-! ### Cancellations of an order of one unit -/

/-- The user has one order of one unit at price `10`; the sizes of the book fall by `1` and by `bids`. -/
def cancelLeaves (bids : Nat) : List MerkleLeaf := [
  leafFrom (keyOfOrderbook (1, 2)) (1, bids) (0, 0),
  leafFrom (keyOfAccount 1 bob) (0, 1) (1, 0),
  leafFrom (keyOfAccount 2 bob) (0, 0) (0, 0),
  leafFrom (keyOfBestprice (1, 2)) (10, 5) (0, 5),
  leafFrom (keyOfOrderpage (1, 2) 10) (1, 0) (0, 0)]

theorem verifyCancel_unit (bids : Nat) (h : bids = 0 ∨ bids = 2) :
    verifyCancel 1 2 bob (cancelLeaves bids) = .ok 1 := by
  rcases h with rfl | rfl <;> decide +kernel

theorem accepted_cancels_iff_unit :
    verifyCancel 1 2 bob (cancelLeaves 0) = .ok 1 ∧
      ((∃ side, Cancels side (cancelLeaves 0) 1) ↔ CancelKept (cancelLeaves 0)) :=
  ⟨verifyCancel_unit 0 (.inl rfl), accepted_cancels_iff (verifyCancel_unit 0 (.inl rfl))⟩

/-- Two units leave the bids along with the order, which is one of the asks. -/
theorem cancel_takes_both_sides :
    verifyCancel 1 2 bob (cancelLeaves 2) = .ok 1 ∧ ¬ ∃ side, Cancels side (cancelLeaves 2) 1 := by
  refine ⟨verifyCancel_unit 2 (.inr rfl), ?_⟩
  rintro ⟨side, hs⟩
  cases side with
  | ask => exact absurd hs.other (by decide +kernel)
  | bid => exact absurd hs.other (by decide +kernel)

end Fusotao.Verifier
