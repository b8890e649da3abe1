import Fusotao.Verifier.Cancelled

/-!
# The depth of the book

What an order trades leaves the other side of the book, and what rests of it joins its own side. Four numbers say how
much: the sizes in the first leaf, the accounts, the order pages, and the amount of the order. The checks compare
them in words that wrap, and some of them only by way of others or not at all.
-/

namespace Fusotao.Verifier

open Exec Word MerkleLeaf

open scoped BigOperators

/-- A volume that does not grow goes down by the word of the difference. -/
theorem ofNat_removed {leaf : MerkleLeaf} (h : volume leaf.newV ≤ volume leaf.oldV) :
    BitVec.ofNat 128 (volume leaf.oldV - volume leaf.newV) = decr leaf := by
  rw [ofNat_sub_of_le h, decr_eq]

/-! ### What the pages of an accepted order add up to -/

instance (side : Side) (leaves : List MerkleLeaf) : Decidable (Trades side leaves) :=
  inferInstanceAs (Decidable (_ ≠ _))

instance (side : Side) (leaves : List MerkleLeaf) : Decidable (Rests side leaves) :=
  inferInstanceAs (Decidable (_ ≠ _))

/-- What the other side of the book loses. -/
def tradedSize (side : Side) (leaves : List MerkleLeaf) : U128 :=
  side.opposite (nth leaves 0).splitOldToU128 - side.opposite (nth leaves 0).splitNewToU128

/-- What the order's own side of the book gains. -/
def restSize (side : Side) (leaves : List MerkleLeaf) : U128 :=
  side.own (nth leaves 0).splitNewToU128 - side.own (nth leaves 0).splitOldToU128

theorem trades_iff {side : Side} {leaves : List MerkleLeaf} : Trades side leaves ↔ tradedSize side leaves ≠ 0 :=
  sub_ne_zero.symm

theorem rests_iff {side : Side} {leaves : List MerkleLeaf} : Rests side leaves ↔ restSize side leaves ≠ 0 :=
  ne_comm.trans sub_ne_zero.symm

/-- The page an order may rest on. -/
def lastPage (makerAccounts pages : U8) (leaves : List MerkleLeaf) : MerkleLeaf :=
  pageLeaf makerAccounts leaves (pages.toNat - 1)

/-- The checks of the volumes of the order pages. -/
structure PagesSummed (side : Side) (amount : U128) (makerAccounts pages : U8) (leaves : List MerkleLeaf) :
    Prop where
  positive : Trades side leaves ∨ Rests side leaves → 0 < pages.toNat
  emptied : Trades side leaves → ∀ j, j < pages.toNat - 1 →
    (pageLeaf makerAccounts leaves j).splitNewToSum = 0
  partlyFilled : Trades side leaves → Rests side leaves →
    ∑ j ∈ Finset.range (pages.toNat - 1), (pageLeaf makerAccounts leaves j).splitOldToSum +
      (lastPage makerAccounts pages leaves).splitOldToSum +
      (lastPage makerAccounts pages leaves).splitNewToSum = amount
  filled : Trades side leaves → ¬ Rests side leaves → tradedSize side leaves =
    ∑ j ∈ Finset.range (pages.toNat - 1), (pageLeaf makerAccounts leaves j).splitOldToSum +
      (lastPage makerAccounts pages leaves).splitOldToSum -
      (lastPage makerAccounts pages leaves).splitNewToSum
  placed : ¬ Trades side leaves → Rests side leaves →
    amount = (lastPage makerAccounts pages leaves).splitNewToSum -
      (lastPage makerAccounts pages leaves).splitOldToSum

section Pages

variable {price amount : U128} {base quote : U32} {makerAccounts pages : U8} {leaves : List MerkleLeaf}
  {sums sums' first : PageSums} {j n : Nat} {askDelta bidDelta tbDelta baseCharged : U128}

theorem askPage_sum (h : askPage base quote makerAccounts leaves sums j = .ok sums') :
    (pageLeaf makerAccounts leaves j).splitNewToSum = 0 ∧
      sums'.taken = sums.taken + (pageLeaf makerAccounts leaves j).splitOldToSum := by
  simp only [askPage, bind_eq_ok, ensureProof_eq_ok, pure_eq_ok, leafAt_eq_ok, Prod.exists,
    exists_const] at h
  obtain ⟨leaf, ⟨-, rfl⟩, b, q, p, -, -, -, hempty, rfl⟩ := h
  exact ⟨hempty, rfl⟩

theorem bidPage_sum (h : bidPage base quote makerAccounts leaves sums j = .ok sums') :
    (pageLeaf makerAccounts leaves j).splitNewToSum = 0 ∧
      sums'.taken = sums.taken + (pageLeaf makerAccounts leaves j).splitOldToSum := by
  simp only [bidPage, bind_eq_ok, ensureProof_eq_ok, pure_eq_ok, leafAt_eq_ok, Prod.exists,
    exists_const] at h
  obtain ⟨leaf, ⟨-, rfl⟩, b, q, p, -, -, -, hempty, rfl⟩ := h
  exact ⟨hempty, rfl⟩

/-- A loop over the pages empties them and adds up what was there. -/
theorem pages_sum {body : PageSums → Nat → Result PageSums}
    (hbody : ∀ sums sums' j, body sums j = .ok sums' → (pageLeaf makerAccounts leaves j).splitNewToSum = 0 ∧
      sums'.taken = sums.taken + (pageLeaf makerAccounts leaves j).splitOldToSum)
    (hfirst : first.taken = 0) (h : (List.range n).foldlM body first = .ok sums) :
    (∀ j, j < n → (pageLeaf makerAccounts leaves j).splitNewToSum = 0) ∧
      sums.taken = ∑ j ∈ Finset.range n, (pageLeaf makerAccounts leaves j).splitOldToSum := by
  refine ⟨foldlM_range_round h fun _ _ j hs => (hbody _ _ j hs).1, ?_⟩
  refine foldlM_range_invariant (fun k sums =>
    sums.taken = ∑ j ∈ Finset.range k, (pageLeaf makerAccounts leaves j).splitOldToSum) hfirst ?_ h
  intro k _ s s' ih hs
  rw [(hbody _ _ k hs).2, ih, Finset.sum_range_succ]

theorem askPages_summed (hlength : leaves.length = 4 + makerAccounts.toNat + pages.toNat)
    (htraded : tbDelta = tradedSize .ask leaves)
    (h : askPages price amount base quote makerAccounts pages leaves (restSize .ask leaves)
      (tradedSize .ask leaves) tbDelta = .ok ()) :
    PagesSummed .ask amount makerAccounts pages leaves := by
  simp only [askPages, bind_eq_ok, ensureProof_eq_ok, leafAt_eq_ok, Prod.exists, exists_const] at h
  obtain ⟨best, ⟨-, rfl⟩, b, q, hbest, ⟨rfl, rfl⟩, h⟩ := h
  by_cases htrade : Trades .ask leaves
  · rw [if_pos (trades_iff.mp htrade)] at h
    simp only [bind_eq_ok, ensureProof_eq_ok, exists_const] at h
    obtain ⟨⟨hpos, -⟩, sums, hsums, h⟩ := h
    have hpos : 0 < pages.toNat := hpos
    obtain ⟨hempty, htaken⟩ := pages_sum (fun _ _ _ => askPage_sum) rfl hsums
    by_cases hrest : Rests .ask leaves
    · rw [if_pos (rests_iff.mp hrest)] at h
      simp only [bind_eq_ok, ensureProof_eq_ok, Prod.exists, exists_const] at h
      obtain ⟨leaf, hleaf, b', q', p, -, -, -, -, hsum⟩ := h
      obtain rfl := lastLeaf_page hlength hpos hleaf
      exact ⟨fun _ => hpos, fun _ => hempty, fun _ _ => htaken ▸ hsum, fun _ hnot => absurd hrest hnot,
        fun hnot => absurd htrade hnot⟩
    · rw [if_neg (rests_iff.not.mp hrest)] at h
      simp only [bind_eq_ok, ensureProof_eq_ok, Prod.exists, exists_const] at h
      obtain ⟨leaf, hleaf, b', q', p, -, -, -, -, hsum⟩ := h
      obtain rfl := lastLeaf_page hlength hpos hleaf
      exact ⟨fun _ => hpos, fun _ => hempty, fun _ hrest' => absurd hrest' hrest,
        fun _ _ => htaken ▸ htraded ▸ hsum, fun hnot => absurd htrade hnot⟩
  · rw [if_neg (trades_iff.not.mp htrade)] at h
    simp only [bind_eq_ok, ensureProof_eq_ok, exists_const] at h
    obtain ⟨-, h⟩ := h
    have hplaced : Rests .ask leaves → 0 < pages.toNat ∧
        amount = (lastPage makerAccounts pages leaves).splitNewToSum -
          (lastPage makerAccounts pages leaves).splitOldToSum := by
      intro hrest
      rw [if_pos (rests_iff.mp hrest)] at h
      simp only [bind_eq_ok, ensureProof_eq_ok, Prod.exists, exists_const] at h
      obtain ⟨leaf, hleaf, b', q', p, hpage, -, hsum⟩ := h
      have hpos := pages_pos hlength hbest hleaf hpage
      obtain rfl := lastLeaf_page hlength hpos hleaf
      exact ⟨hpos, hsum⟩
    exact ⟨fun hany => (hplaced (hany.resolve_left htrade)).1, fun ht => absurd ht htrade,
      fun ht => absurd ht htrade, fun ht => absurd ht htrade, fun _ hrest => (hplaced hrest).2⟩

theorem bidPages_summed (hlength : leaves.length = 4 + makerAccounts.toNat + pages.toNat)
    (htraded : tbDelta.toNat + baseCharged.toNat = (tradedSize .bid leaves).toNat)
    (h : bidPages price amount base quote makerAccounts pages leaves (tradedSize .bid leaves)
      (restSize .bid leaves) tbDelta baseCharged = .ok ()) :
    PagesSummed .bid amount makerAccounts pages leaves := by
  simp only [bidPages, bind_eq_ok, ensureProof_eq_ok, leafAt_eq_ok, Prod.exists, exists_const] at h
  obtain ⟨best, ⟨-, rfl⟩, b, q, hbest, ⟨rfl, rfl⟩, h⟩ := h
  by_cases htrade : Trades .bid leaves
  · rw [if_pos (trades_iff.mp htrade)] at h
    simp only [bind_eq_ok, ensureProof_eq_ok, exists_const] at h
    obtain ⟨⟨hpos, -⟩, sums, hsums, h⟩ := h
    have hpos : 0 < pages.toNat := hpos
    obtain ⟨hempty, htaken⟩ := pages_sum (fun _ _ _ => bidPage_sum) rfl hsums
    by_cases hrest : Rests .bid leaves
    · rw [if_pos (rests_iff.mp hrest)] at h
      simp only [bind_eq_ok, ensureProof_eq_ok, Prod.exists, exists_const] at h
      obtain ⟨leaf, hleaf, b', q', p, -, -, -, hsum⟩ := h
      obtain rfl := lastLeaf_page hlength hpos hleaf
      exact ⟨fun _ => hpos, fun _ => hempty, fun _ _ => htaken ▸ hsum, fun _ hnot => absurd hrest hnot,
        fun hnot => absurd htrade hnot⟩
    · rw [if_neg (rests_iff.not.mp hrest)] at h
      simp only [bind_eq_ok, ensureProof_eq_ok, Prod.exists, exists_const, okOr_eq_ok, checkedAdd_eq_some,
        checkedSub_eq_some] at h
      obtain ⟨leaf, hleaf, b', q', p, -, -, -, bought, hbought, taken, htaken', left, hleft, rfl⟩ := h
      obtain rfl := lastLeaf_page hlength hpos hleaf
      obtain rfl := eq_add_of_toNat_eq htaken'
      obtain rfl : bought = tradedSize .bid leaves := BitVec.eq_of_toNat_eq (hbought.trans htraded)
      exact ⟨fun _ => hpos, fun _ => hempty, fun _ hrest' => absurd hrest' hrest,
        fun _ _ => htaken ▸ eq_sub_of_toNat_eq hleft, fun hnot => absurd htrade hnot⟩
  · rw [if_neg (trades_iff.not.mp htrade)] at h
    simp only [bind_eq_ok, ensureProof_eq_ok, exists_const] at h
    obtain ⟨-, h⟩ := h
    have hplaced : Rests .bid leaves → 0 < pages.toNat ∧
        amount = (lastPage makerAccounts pages leaves).splitNewToSum -
          (lastPage makerAccounts pages leaves).splitOldToSum := by
      intro hrest
      rw [if_pos (rests_iff.mp hrest)] at h
      simp only [bind_eq_ok, ensureProof_eq_ok, Prod.exists, exists_const] at h
      obtain ⟨leaf, hleaf, b', q', p, hpage, -, hsum⟩ := h
      have hpos := pages_pos hlength hbest hleaf hpage
      obtain rfl := lastLeaf_page hlength hpos hleaf
      exact ⟨hpos, hsum⟩
    exact ⟨fun hany => (hplaced (hany.resolve_left htrade)).1, fun ht => absurd ht htrade,
      fun ht => absurd ht htrade, fun ht => absurd ht htrade, fun _ hrest => (hplaced hrest).2⟩

end Pages

/-! ### What an order should do to the pages -/

section Moves

variable {side : Side} {amount : U128} {makerAccounts pages : U8} {leaves : List MerkleLeaf}

/-- How many of the pages are not the one the order rests on. -/
def otherPages (side : Side) (pages : U8) (leaves : List MerkleLeaf) : Nat :=
  if Rests side leaves then pages.toNat - 1 else pages.toNat

/-- What is taken from the pages. The page that an order rests on was one of the other side if it trades. -/
def removed (side : Side) (makerAccounts pages : U8) (leaves : List MerkleLeaf) : Nat :=
  ∑ j ∈ Finset.range (otherPages side pages leaves),
      (volume (pageLeaf makerAccounts leaves j).oldV - volume (pageLeaf makerAccounts leaves j).newV) +
    if Trades side leaves ∧ Rests side leaves then volume (lastPage makerAccounts pages leaves).oldV else 0

/-- The pages lose what is traded and gain what rests, the latter on the page of the order only. -/
structure PagesMove (side : Side) (makerAccounts pages : U8) (leaves : List MerkleLeaf) (traded rest : Nat) :
    Prop where
  kept : ∀ j, j < otherPages side pages leaves →
    volume (pageLeaf makerAccounts leaves j).newV ≤ volume (pageLeaf makerAccounts leaves j).oldV
  taken : traded = removed side makerAccounts pages leaves
  resting : Rests side leaves → volume (lastPage makerAccounts pages leaves).newV =
    rest + if Trades side leaves then 0 else volume (lastPage makerAccounts pages leaves).oldV

/-- What has to hold of the pages beyond the checks. -/
structure PagesKept (side : Side) (makerAccounts pages : U8) (leaves : List MerkleLeaf) : Prop where
  /-- An emptied page has a volume of nothing or of `2 ^ 128`. -/
  kept : Trades side leaves → ∀ j, j < otherPages side pages leaves →
    volume (pageLeaf makerAccounts leaves j).newV ≤ volume (pageLeaf makerAccounts leaves j).oldV
  /-- The sum over the pages wraps around. -/
  fits : Trades side leaves → removed side makerAccounts pages leaves < 2 ^ 128
  /-- What rests of an order that trades is compared with the amount only. -/
  resting : Trades side leaves → Rests side leaves →
    volume (lastPage makerAccounts pages leaves).newV = (restSize side leaves).toNat
  placed : ¬ Trades side leaves → Rests side leaves →
    volume (lastPage makerAccounts pages leaves).oldV ≤ volume (lastPage makerAccounts pages leaves).newV ∧
      volume (lastPage makerAccounts pages leaves).newV <
        volume (lastPage makerAccounts pages leaves).oldV + 2 ^ 128
  /-- The other pages of an order that does not trade are not looked at. -/
  untouched : ¬ Trades side leaves → ∀ j, j < otherPages side pages leaves →
    volume (pageLeaf makerAccounts leaves j).newV = volume (pageLeaf makerAccounts leaves j).oldV

/-- The word of what is taken from the pages is what the other side of the book loses. -/
theorem PagesSummed.ofNat_removed (hs : PagesSummed side amount makerAccounts pages leaves)
    (hamount : Rests side leaves → amount = tradedSize side leaves + restSize side leaves)
    (htrade : Trades side leaves)
    (hkept : ∀ j, j < otherPages side pages leaves →
      volume (pageLeaf makerAccounts leaves j).newV ≤ volume (pageLeaf makerAccounts leaves j).oldV)
    (hresting : Rests side leaves →
      volume (lastPage makerAccounts pages leaves).newV = (restSize side leaves).toNat) :
    BitVec.ofNat 128 (removed side makerAccounts pages leaves) = tradedSize side leaves := by
  have hpos := hs.positive (.inl htrade)
  have hemptied : ∀ j ∈ Finset.range (pages.toNat - 1), BitVec.ofNat 128
      (volume (pageLeaf makerAccounts leaves j).oldV - volume (pageLeaf makerAccounts leaves j).newV) =
      (pageLeaf makerAccounts leaves j).splitOldToSum := by
    intro j hj
    have hj := Finset.mem_range.mp hj
    have hother : j < otherPages side pages leaves := by
      unfold otherPages
      split <;> omega
    rw [Verifier.ofNat_removed (hkept j hother), decr, hs.emptied htrade j hj, sub_zero]
  by_cases hrest : Rests side leaves
  · have hother : otherPages side pages leaves = pages.toNat - 1 := if_pos hrest
    have hsum := hs.partlyFilled htrade hrest
    have hnew : (lastPage makerAccounts pages leaves).splitNewToSum = restSize side leaves := by
      rw [splitNewToSum_eq, hresting hrest, BitVec.ofNat_toNat, BitVec.setWidth_eq]
    rw [hnew, hamount hrest] at hsum
    rw [removed, hother, if_pos ⟨htrade, hrest⟩, BitVec.ofNat_add, ofNat_sum, Finset.sum_congr rfl hemptied,
      ← splitOldToSum_eq]
    exact add_right_cancel hsum
  · have hother : otherPages side pages leaves = pages.toNat - 1 + 1 := by
      rw [otherPages, if_neg hrest]
      omega
    rw [removed, hother, if_neg fun h => hrest h.2, Nat.add_zero, ofNat_sum, Finset.sum_range_succ,
      Finset.sum_congr rfl hemptied, Verifier.ofNat_removed (hkept _ (by omega)), hs.filled htrade hrest, decr,
      add_sub_assoc]
    rfl

theorem PagesSummed.move_iff (hs : PagesSummed side amount makerAccounts pages leaves)
    (hamount : Rests side leaves → amount = tradedSize side leaves + restSize side leaves) :
    PagesMove side makerAccounts pages leaves (tradedSize side leaves).toNat (restSize side leaves).toNat ↔
      PagesKept side makerAccounts pages leaves := by
  by_cases htrade : Trades side leaves
  · constructor
    · intro hm
      refine ⟨fun _ => hm.kept, fun _ => hm.taken ▸ BitVec.isLt _, fun _ hrest => ?_,
        fun hnot => absurd htrade hnot, fun hnot => absurd htrade hnot⟩
      rw [hm.resting hrest, if_pos htrade, Nat.add_zero]
    · intro hk
      have hword := hs.ofNat_removed hamount htrade (hk.kept htrade) (hk.resting htrade)
      refine ⟨hk.kept htrade, ?_, fun hrest => ?_⟩
      · rw [← hword, toNat_ofNat_iff.mpr (hk.fits htrade)]
      · rw [hk.resting htrade hrest, if_pos htrade, Nat.add_zero]
  · have hzero : tradedSize side leaves = 0 := of_not_not (trades_iff.not.mp htrade)
    have hnothing : (tradedSize side leaves).toNat = 0 := congrArg BitVec.toNat hzero
    have hplaced (hrest : Rests side leaves) :
        restSize side leaves = incr (lastPage makerAccounts pages leaves) := by
      have hsum := (hamount hrest).symm.trans (hs.placed htrade hrest)
      rwa [hzero, zero_add] at hsum
    have hremoved : removed side makerAccounts pages leaves = ∑ j ∈ Finset.range (otherPages side pages leaves),
        (volume (pageLeaf makerAccounts leaves j).oldV - volume (pageLeaf makerAccounts leaves j).newV) := by
      rw [removed, if_neg fun h => htrade h.1, Nat.add_zero]
    constructor
    · intro hm
      refine ⟨fun ht => absurd ht htrade, fun ht => absurd ht htrade, fun ht => absurd ht htrade,
        fun _ hrest => ?_, fun _ j hj => ?_⟩
      · have hresting := hm.resting hrest
        rw [if_neg htrade, hplaced hrest, Nat.add_comm] at hresting
        exact volume_incr_iff.mp hresting
      · have hnone := hm.taken
        rw [hremoved, hnothing, eq_comm, Finset.sum_eq_zero_iff] at hnone
        exact Nat.le_antisymm (hm.kept j hj) (Nat.sub_eq_zero_iff_le.mp (hnone j (Finset.mem_range.mpr hj)))
    · intro hk
      have hsame := hk.untouched htrade
      refine ⟨fun j hj => (hsame j hj).le, ?_, fun hrest => ?_⟩
      · rw [hremoved, hnothing, eq_comm, Finset.sum_eq_zero_iff]
        exact fun j hj => Nat.sub_eq_zero_of_le (hsame j (Finset.mem_range.mp hj)).ge
      · rw [if_neg htrade, hplaced hrest, Nat.add_comm]
        exact volume_incr_iff.mpr (hk.placed htrade hrest)

end Moves

/-! ### What an order should do to the book -/

/-- The taker's base leaf. -/
def takerLeaf (makerAccounts : U8) (leaves : List MerkleLeaf) : MerkleLeaf :=
  baseLeaf leaves (makerAccounts.toNat / 2)

/-- The base that is traded: an ask is given it by its taker, a bid by the makers. -/
def Given (side : Side) (makerAccounts : U8) (leaves : List MerkleLeaf) (traded : Nat) : Prop :=
  match side with
  | .ask => volume (takerLeaf makerAccounts leaves).oldV = volume (takerLeaf makerAccounts leaves).newV + traded
  | .bid => ∑ i ∈ Finset.range (makerAccounts.toNat / 2), volume (baseLeaf leaves i).oldV =
      ∑ i ∈ Finset.range (makerAccounts.toNat / 2), volume (baseLeaf leaves i).newV + traded

/-- The rest of an ask is frozen, and it is traded and rests within its amount; what rests of a bid is what is not
traded of it. -/
def Bound (side : Side) (amount : U128) (makerAccounts : U8) (leaves : List MerkleLeaf) (traded rest : Nat) :
    Prop :=
  match side with
  | .ask => (takerLeaf makerAccounts leaves).splitNewToU128.2.toNat =
        (takerLeaf makerAccounts leaves).splitOldToU128.2.toNat + rest ∧ traded + rest ≤ amount.toNat
  | .bid => rest ≠ 0 → amount.toNat = traded + rest

/-- Over the naturals, `traded` leaves the other side of the book and `rest` joins the order's own. -/
structure Depth (side : Side) (amount : U128) (makerAccounts pages : U8) (leaves : List MerkleLeaf)
    (traded rest : Nat) : Prop where
  opposite : (side.opposite (nth leaves 0).splitOldToU128).toNat =
    (side.opposite (nth leaves 0).splitNewToU128).toNat + traded
  own : (side.own (nth leaves 0).splitNewToU128).toNat =
    (side.own (nth leaves 0).splitOldToU128).toNat + rest
  given : Given side makerAccounts leaves traded
  bound : Bound side amount makerAccounts leaves traded rest
  pages : PagesMove side makerAccounts pages leaves traded rest

/-- The balances that give the base do not rise, and fall by less than `2 ^ 128`. -/
def GivenKept (side : Side) (makerAccounts : U8) (leaves : List MerkleLeaf) : Prop :=
  match side with
  | .ask => volume (takerLeaf makerAccounts leaves).newV ≤ volume (takerLeaf makerAccounts leaves).oldV
  | .bid => ∑ i ∈ Finset.range (makerAccounts.toNat / 2), volume (baseLeaf leaves i).newV ≤
        ∑ i ∈ Finset.range (makerAccounts.toNat / 2), volume (baseLeaf leaves i).oldV ∧
      ∑ i ∈ Finset.range (makerAccounts.toNat / 2), volume (baseLeaf leaves i).oldV <
        ∑ i ∈ Finset.range (makerAccounts.toNat / 2), volume (baseLeaf leaves i).newV + 2 ^ 128

/-- The rise of an ask's own side is compared with nothing, and the fall of the other side not with its amount. -/
def BoundKept (side : Side) (amount : U128) (makerAccounts : U8) (leaves : List MerkleLeaf) : Prop :=
  match side with
  | .ask => (Rests .ask leaves →
        (tradedSize .ask leaves).toNat + (restSize .ask leaves).toNat = amount.toNat ∧
        (takerLeaf makerAccounts leaves).splitOldToU128.2 ≤ (takerLeaf makerAccounts leaves).splitNewToU128.2) ∧
      (¬ Rests .ask leaves → tradedSize .ask leaves ≤ amount)
  | .bid => Rests .bid leaves → tradedSize .bid leaves ≤ amount

/-- What has to hold of the leaves beyond the checks. -/
structure DepthKept (side : Side) (amount : U128) (makerAccounts pages : U8) (leaves : List MerkleLeaf) :
    Prop where
  /-- The differences of the sizes wrap around. -/
  opposite : side.opposite (nth leaves 0).splitNewToU128 ≤ side.opposite (nth leaves 0).splitOldToU128
  own : side.own (nth leaves 0).splitOldToU128 ≤ side.own (nth leaves 0).splitNewToU128
  given : GivenKept side makerAccounts leaves
  bound : BoundKept side amount makerAccounts leaves
  pages : PagesKept side makerAccounts pages leaves

section Accepted

variable {cfg : Config} {side : Side} {price amount : U128} {makerFee takerFee base quote : U32}
  {makerAccounts pages : U8} {dominator : AccountId} {leaves : List MerkleLeaf} {reserves : Reserves}
  {cr : ClearingResult}

theorem verifyLimit_summed
    (h : verifyLimit cfg price amount makerFee takerFee base quote makerAccounts pages dominator leaves
      reserves side = .ok cr) :
    PagesSummed side amount makerAccounts pages leaves := by
  cases side with
  | ask =>
      obtain ⟨hbacked, -, -, hpages⟩ := verifyAskLimit_eq_ok h
      exact askPages_summed hbacked.length (verifyAskLimit_booked h).traded.symm hpages
  | bid =>
      obtain ⟨hbacked, hamounts, hpages⟩ := verifyBidLimit_eq_ok h
      exact bidPages_summed hbacked.length
        (hamounts.base.trans (congrArg BitVec.toNat (verifyBidLimit_booked h).traded.symm)) hpages

/-- The sizes of the two sides move by what is traded and what rests, if they do not wrap around. -/
theorem sizes_eq {traded rest : Nat}
    (hopposite : (side.opposite (nth leaves 0).splitOldToU128).toNat =
      (side.opposite (nth leaves 0).splitNewToU128).toNat + traded)
    (hown : (side.own (nth leaves 0).splitNewToU128).toNat =
      (side.own (nth leaves 0).splitOldToU128).toNat + rest) :
    traded = (tradedSize side leaves).toNat ∧ rest = (restSize side leaves).toNat := by
  unfold tradedSize restSize
  rw [toNat_sub_of_le (by omega), toNat_sub_of_le (by omega)]
  omega

theorem AskBooked.bound_iff (hb : AskBooked amount (makerAccounts.toNat / 2) leaves) :
    Bound .ask amount makerAccounts leaves (tradedSize .ask leaves).toNat (restSize .ask leaves).toNat ↔
      BoundKept .ask amount makerAccounts leaves := by
  unfold Bound BoundKept
  have hbook : if restSize .ask leaves ≠ 0 then amount =
      (takerLeaf makerAccounts leaves).splitOldToU128.1 - (takerLeaf makerAccounts leaves).splitNewToU128.1
    else (takerLeaf makerAccounts leaves).splitOldToU128.2 = (takerLeaf makerAccounts leaves).splitNewToU128.2 :=
    hb.rests
  have htraded : tradedSize .ask leaves = decr (takerLeaf makerAccounts leaves) := hb.traded
  by_cases hrest : Rests .ask leaves
  · rw [if_pos (rests_iff.mp hrest)] at hbook
    -- What is neither traded nor left available is frozen.
    have hfrozen : amount = tradedSize .ask leaves + ((takerLeaf makerAccounts leaves).splitNewToU128.2 -
        (takerLeaf makerAccounts leaves).splitOldToU128.2) := by
      rw [hbook, htraded, decr, splitOldToSum, splitNewToSum]
      ring
    constructor
    · rintro ⟨hrise, hle⟩
      have hword := eq_sub_of_toNat_eq (hrise.trans (Nat.add_comm _ _))
      rw [← hword] at hfrozen
      refine ⟨fun _ => ⟨?_, BitVec.le_def.mpr (by omega)⟩, fun hnot => absurd hrest hnot⟩
      rw [hfrozen, toNat_add_of_lt (by omega)]
    · rintro ⟨hsum, -⟩
      obtain ⟨hsum, hle⟩ := hsum hrest
      have hword := add_left_cancel ((eq_add_of_toNat_eq hsum.symm).symm.trans hfrozen)
      refine ⟨?_, hsum.le⟩
      rw [hword, toNat_sub_of_le hle]
      exact (Nat.add_sub_cancel' hle).symm
  · have hnone : (restSize .ask leaves).toNat = 0 :=
      congrArg BitVec.toNat (of_not_not (rests_iff.not.mp hrest))
    rw [if_neg (rests_iff.not.mp hrest)] at hbook
    rw [hbook, hnone]
    exact ⟨fun h => ⟨fun hr => absurd hr hrest, fun _ => h.2⟩, fun h => ⟨rfl, h.2 hrest⟩⟩

/-- What a bid trades and what rests of it make up its amount, in words. -/
theorem BidBooked.amount_eq (hb : BidBooked amount (makerAccounts.toNat / 2) leaves)
    (hrest : Rests .bid leaves) : amount = tradedSize .bid leaves + restSize .bid leaves := by
  have htraded : tradedSize .bid leaves =
      ∑ i ∈ Finset.range (makerAccounts.toNat / 2), decr (baseLeaf leaves i) := hb.traded
  have hrests : restSize .bid leaves =
      amount - ∑ i ∈ Finset.range (makerAccounts.toNat / 2), decr (baseLeaf leaves i) :=
    hb.rests (rests_iff.mp hrest)
  rw [hrests, htraded]
  ring

theorem BidBooked.given_iff (hb : BidBooked amount (makerAccounts.toNat / 2) leaves) :
    Given .bid makerAccounts leaves (tradedSize .bid leaves).toNat ↔ GivenKept .bid makerAccounts leaves := by
  apply eq_add_toNat_iff
  have htraded : tradedSize .bid leaves =
      ∑ i ∈ Finset.range (makerAccounts.toNat / 2), decr (baseLeaf leaves i) := hb.traded
  rw [htraded, ofNat_sum, ofNat_sum, ← Finset.sum_sub_distrib]
  exact Finset.sum_congr rfl fun i _ => decr_eq _

theorem BidBooked.bound_iff (hb : BidBooked amount (makerAccounts.toNat / 2) leaves) :
    Bound .bid amount makerAccounts leaves (tradedSize .bid leaves).toNat (restSize .bid leaves).toNat ↔
      BoundKept .bid amount makerAccounts leaves := by
  unfold Bound BoundKept
  have hrests : Rests .bid leaves ↔ (restSize .bid leaves).toNat ≠ 0 :=
    rests_iff.trans (not_congr ⟨fun h => congrArg BitVec.toNat h, fun h => BitVec.eq_of_toNat_eq h⟩)
  rw [hrests]
  refine forall_congr' fun hrest => ⟨fun h => BitVec.le_def.mpr (by omega), fun hle => ?_⟩
  have hword := hb.amount_eq (hrests.mpr hrest)
  have hrest : restSize .bid leaves = amount - tradedSize .bid leaves := by
    rw [hword]
    ring
  rw [hrest, toNat_sub_of_le hle]
  exact (Nat.add_sub_cancel' hle).symm

/-- What an accepted order trades and what rests of it make up its amount in words, those of an ask if they do so
over the naturals. -/
theorem amount_eq
    (h : verifyLimit cfg price amount makerFee takerFee base quote makerAccounts pages dominator leaves
      reserves side = .ok cr)
    (hask : side = .ask → Rests .ask leaves →
      (tradedSize .ask leaves).toNat + (restSize .ask leaves).toNat = amount.toNat)
    (hrest : Rests side leaves) : amount = tradedSize side leaves + restSize side leaves := by
  cases side with
  | ask => exact eq_add_of_toNat_eq (hask rfl hrest).symm
  | bid => exact (verifyBidLimit_booked h).amount_eq hrest

/-- An accepted order moves the depth of the book consistently exactly if what the checks leave open is as it should
be. -/
theorem accepted_depth_iff
    (h : verifyLimit cfg price amount makerFee takerFee base quote makerAccounts pages dominator leaves
      reserves side = .ok cr) :
    (∃ traded rest, Depth side amount makerAccounts pages leaves traded rest) ↔
      DepthKept side amount makerAccounts pages leaves := by
  have hsummed := verifyLimit_summed h
  constructor
  · rintro ⟨traded, rest, hd⟩
    obtain ⟨rfl, rfl⟩ := sizes_eq hd.opposite hd.own
    have hopposite := BitVec.le_def.mpr (hd.opposite.ge.trans' (Nat.le_add_right _ _))
    have hown := BitVec.le_def.mpr (hd.own.ge.trans' (Nat.le_add_right _ _))
    cases side with
    | ask =>
        have hbound := (verifyAskLimit_booked h).bound_iff.mp hd.bound
        exact ⟨hopposite, hown, hd.given.ge.trans' (Nat.le_add_right _ _), hbound,
          (hsummed.move_iff (amount_eq h fun _ hrest => (hbound.1 hrest).1)).mp hd.pages⟩
    | bid =>
        exact ⟨hopposite, hown, (verifyBidLimit_booked h).given_iff.mp hd.given,
          (verifyBidLimit_booked h).bound_iff.mp hd.bound,
          (hsummed.move_iff (amount_eq h fun h => absurd h (by decide))).mp hd.pages⟩
  · intro hk
    have hopposite : (side.opposite (nth leaves 0).splitOldToU128).toNat =
        (side.opposite (nth leaves 0).splitNewToU128).toNat + (tradedSize side leaves).toNat := by
      rw [tradedSize, toNat_sub_of_le hk.opposite]
      exact (Nat.add_sub_cancel' hk.opposite).symm
    have hown : (side.own (nth leaves 0).splitNewToU128).toNat =
        (side.own (nth leaves 0).splitOldToU128).toNat + (restSize side leaves).toNat := by
      rw [restSize, toNat_sub_of_le hk.own]
      exact (Nat.add_sub_cancel' hk.own).symm
    refine ⟨_, _, hopposite, hown, ?_, ?_, ?_⟩
    · cases side with
      | ask =>
          have htraded : tradedSize .ask leaves = decr (takerLeaf makerAccounts leaves) :=
            (verifyAskLimit_booked h).traded
          have hold := (verifyAskLimit_eq_ok h).2.1.takerBaseOld
          rw [htraded]
          exact volume_decr_iff.mpr ⟨hk.given, Nat.lt_add_left _ hold⟩
      | bid => exact (verifyBidLimit_booked h).given_iff.mpr hk.given
    · cases side with
      | ask => exact (verifyAskLimit_booked h).bound_iff.mpr hk.bound
      | bid => exact (verifyBidLimit_booked h).bound_iff.mpr hk.bound
    · refine (hsummed.move_iff (amount_eq h fun hside hrest => ?_)).mpr hk.pages
      subst hside
      exact (hk.bound.1 hrest).1

end Accepted

/-! ### An ask that is placed

An ask of one unit at price `10` meets no bid and rests on a new page. -/

/-- The leaves of the ask; the asks of the book go up by `rise`. -/
def placedLeaves (rise : Nat) : List MerkleLeaf := [
  leafFrom (keyOfOrderbook (1, 2)) (0, 0) (rise, 0),
  leafFrom (keyOfAccount 1 Token.alice) (1, 0) (0, 1),
  leafFrom (keyOfAccount 2 Token.alice) (0, 0) (0, 0),
  leafFrom (keyOfBestprice (1, 2)) (0, 0) (10, 0),
  leafFrom (keyOfOrderpage (1, 2) 10) (0, 0) (1, 0)]

def placedResult : ClearingResult where
  makers := []
  taker := { who := Token.alice, unfilledVolume := 0, filledVolume := 0, filledAmount := 0,
             baseBalance := 1, quoteBalance := 0 }
  baseFee := 0
  quoteFee := 0

theorem verifyLimit_placed (rise : Nat) (h : rise = 1 ∨ rise = 5) :
    verifyLimit (plainConfig []) 10 1 0 0 1 2 0 1 operator (placedLeaves rise) tradeReserves .ask =
      .ok placedResult := by
  rcases h with rfl | rfl <;> decide +kernel

theorem accepted_depth_iff_placed :
    verifyLimit (plainConfig []) 10 1 0 0 1 2 0 1 operator (placedLeaves 1) tradeReserves .ask =
      .ok placedResult ∧
    ((∃ traded rest, Depth .ask 1 0 1 (placedLeaves 1) traded rest) ↔ DepthKept .ask 1 0 1 (placedLeaves 1)) :=
  ⟨verifyLimit_placed 1 (.inl rfl), accepted_depth_iff (verifyLimit_placed 1 (.inl rfl))⟩

/-- The asks of the book go up by five for an ask of one. -/
theorem placed_ask_inflates_book :
    verifyLimit (plainConfig []) 10 1 0 0 1 2 0 1 operator (placedLeaves 5) tradeReserves .ask =
      .ok placedResult ∧
    ¬ ∃ traded rest, Depth .ask 1 0 1 (placedLeaves 5) traded rest := by
  refine ⟨verifyLimit_placed 5 (.inr rfl), ?_⟩
  rintro ⟨traded, rest, hd⟩
  have hown : 5 = 0 + rest := hd.own
  have hwithin : traded + rest ≤ 1 := hd.bound.2
  omega

end Fusotao.Verifier
