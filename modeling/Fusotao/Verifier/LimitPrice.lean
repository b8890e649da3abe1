import Fusotao.Verifier.Accepted
import Fusotao.Verifier.Plain

/-!
# Limit prices

An order that trades takes the order pages of the other side from the best price on, and what is left of
it rests on a page of its own side. The pages come after the accounts, the last one being either the
page that is taken in part or the page the order rests on.
-/

namespace Fusotao.Verifier

open Exec Word MerkleLeaf

/-! ### Order pages -/

/-- The `j`-th order page of an order. -/
def pageLeaf (makerAccounts : U8) (leaves : List MerkleLeaf) (j : Nat) : MerkleLeaf :=
  nth leaves (makerAccounts.toNat + 4 + j)

/-- The price of an order page. -/
def priceOf (leaf : MerkleLeaf) : U128 :=
  match leaf.tryGetOrderpage with
  | .ok (_, _, price) => price
  | .error _ => 0

theorem priceOf_eq {leaf : MerkleLeaf} {b q : U32} {p : U128}
    (h : leaf.tryGetOrderpage = .ok (b, q, p)) : priceOf leaf = p := by
  rw [priceOf, h]

/-- The leaf is an order page of the pair. -/
def IsPage (base quote : U32) (leaf : MerkleLeaf) : Prop :=
  leaf.tryGetOrderpage = .ok (base, quote, priceOf leaf)

theorem IsPage.intro {base quote : U32} {leaf : MerkleLeaf} {p : U128}
    (h : leaf.tryGetOrderpage = .ok (base, quote, p)) : IsPage base quote leaf := by
  rw [IsPage, priceOf_eq h, h]

section Pages

variable {price amount : U128} {base quote : U32} {makerAccounts pages : U8} {leaves : List MerkleLeaf}
  {sums sums' : PageSums} {j n : Nat} {askDelta bidDelta tbDelta baseCharged : U128}

theorem askPage_eq_ok (h : askPage base quote makerAccounts leaves sums j = .ok sums') :
    IsPage base quote (pageLeaf makerAccounts leaves j) ∧
      priceOf (pageLeaf makerAccounts leaves j) < sums.preBest ∧
      sums'.preBest = priceOf (pageLeaf makerAccounts leaves j) := by
  simp only [askPage, bind_eq_ok, ensureProof_eq_ok, pure_eq_ok, leafAt_eq_ok, Prod.exists,
    exists_const] at h
  obtain ⟨leaf, ⟨-, rfl⟩, b, q, p, hpage, ⟨rfl, rfl⟩, hlt, -, rfl⟩ := h
  obtain rfl := priceOf_eq hpage
  exact ⟨hpage, hlt, rfl⟩

theorem bidPage_eq_ok (h : bidPage base quote makerAccounts leaves sums j = .ok sums') :
    IsPage base quote (pageLeaf makerAccounts leaves j) ∧
      sums.preBest ≤ priceOf (pageLeaf makerAccounts leaves j) ∧
      sums'.preBest = priceOf (pageLeaf makerAccounts leaves j) := by
  simp only [bidPage, bind_eq_ok, ensureProof_eq_ok, pure_eq_ok, leafAt_eq_ok, Prod.exists,
    exists_const] at h
  obtain ⟨leaf, ⟨-, rfl⟩, b, q, p, hpage, ⟨rfl, rfl⟩, hle, -, rfl⟩ := h
  obtain rfl := priceOf_eq hpage
  exact ⟨hpage, hle, rfl⟩

/-- The emptied pages of an ask are at falling prices. -/
theorem askPages_descending {first : PageSums}
    (h : (List.range n).foldlM (askPage base quote makerAccounts leaves) first = .ok sums) :
    (∀ j, j < n → IsPage base quote (pageLeaf makerAccounts leaves j) ∧
      sums.preBest ≤ priceOf (pageLeaf makerAccounts leaves j)) ∧
      ∀ i j, i < j → j < n →
        priceOf (pageLeaf makerAccounts leaves j) < priceOf (pageLeaf makerAccounts leaves i) := by
  obtain ⟨hfalling, hlast⟩ := foldlM_range_pairwise (fun p p' => p' < p) PageSums.preBest
    (fun j => priceOf (pageLeaf makerAccounts leaves j)) (fun _ _ _ hab hbc => BitVec.lt_trans hbc hab)
    (fun _ _ _ hs => (askPage_eq_ok hs).2) h
  refine ⟨fun j hj => ⟨foldlM_range_round h (fun _ _ _ hs => (askPage_eq_ok hs).1) j hj, ?_⟩, hfalling⟩
  rcases hlast j hj with heq | hlt
  · exact heq ▸ BitVec.le_refl _
  · exact BitVec.le_of_lt hlt

/-- The emptied pages of a bid are at prices that do not fall. -/
theorem bidPages_ascending {first : PageSums}
    (h : (List.range n).foldlM (bidPage base quote makerAccounts leaves) first = .ok sums) :
    (∀ j, j < n → IsPage base quote (pageLeaf makerAccounts leaves j)) ∧
      ∀ i j, i < j → j < n →
        priceOf (pageLeaf makerAccounts leaves i) ≤ priceOf (pageLeaf makerAccounts leaves j) := by
  refine ⟨foldlM_range_round h fun _ _ j hs => (bidPage_eq_ok hs).1, ?_⟩
  exact (foldlM_range_pairwise (fun p p' => p ≤ p') PageSums.preBest
    (fun j => priceOf (pageLeaf makerAccounts leaves j)) (fun _ _ _ hab hbc => BitVec.le_trans hab hbc)
    (fun _ _ _ hs => (bidPage_eq_ok hs).2) h).1

end Pages

/-! ### The book of an order -/

/-- The side of a pair of sizes or prices that an order is on. -/
def Side.own : Side → U128 × U128 → U128
  | .ask, sizes => sizes.1
  | .bid, sizes => sizes.2

/-- The side an order trades with. -/
def Side.opposite : Side → U128 × U128 → U128
  | .ask, sizes => sizes.2
  | .bid, sizes => sizes.1

/-- For the one who placed an order at `price`, `p` is no worse. -/
def Side.NoWorse : Side → U128 → U128 → Prop
  | .ask, price, p => price ≤ p
  | .bid, price, p => p ≤ price

instance : ∀ (side : Side) (price p : U128), Decidable (side.NoWorse price p)
  | .ask, price, p => inferInstanceAs (Decidable (price ≤ p))
  | .bid, price, p => inferInstanceAs (Decidable (p ≤ price))

theorem Side.NoWorse.refl (side : Side) (p : U128) : side.NoWorse p p := by
  cases side <;> exact BitVec.le_refl p

theorem Side.NoWorse.trans {side : Side} {p q r : U128} (hpq : side.NoWorse p q)
    (hqr : side.NoWorse q r) : side.NoWorse p r := by
  cases side with
  | ask => exact BitVec.le_trans hpq hqr
  | bid => exact BitVec.le_trans hqr hpq

/-- The other side of the book changes in size. -/
def Trades (side : Side) (leaves : List MerkleLeaf) : Prop :=
  side.opposite (nth leaves 0).splitOldToU128 ≠ side.opposite (nth leaves 0).splitNewToU128

/-- The order's own side of the book changes in size. -/
def Rests (side : Side) (leaves : List MerkleLeaf) : Prop :=
  side.own (nth leaves 0).splitOldToU128 ≠ side.own (nth leaves 0).splitNewToU128

/-- The checks of the prices of the order pages. -/
structure PagesChecked (side : Side) (price : U128) (base quote : U32) (makerAccounts pages : U8)
    (leaves : List MerkleLeaf) : Prop where
  isPage : Trades side leaves → ∀ j, j < pages.toNat → IsPage base quote (pageLeaf makerAccounts leaves j)
  ordered : Trades side leaves → ∀ i j, i < j → j + 1 < pages.toNat →
    side.NoWorse (priceOf (pageLeaf makerAccounts leaves j)) (priceOf (pageLeaf makerAccounts leaves i))
  /-- A bid does not compare the last page with the ones before it. -/
  last : side = .ask → Trades side leaves → ∀ i, i + 1 < pages.toNat →
    side.NoWorse (priceOf (pageLeaf makerAccounts leaves (pages.toNat - 1)))
      (priceOf (pageLeaf makerAccounts leaves i))
  isPage_last : Rests side leaves → 0 < pages.toNat ∧
    IsPage base quote (pageLeaf makerAccounts leaves (pages.toNat - 1))
  /-- An ask that does not trade does not compare the page it rests on with its price. -/
  limit : Rests side leaves → Trades side leaves ∨ side = .bid →
    priceOf (pageLeaf makerAccounts leaves (pages.toNat - 1)) = price

section Book

variable {price amount : U128} {base quote : U32} {makerAccounts pages : U8} {leaves : List MerkleLeaf}
  {askDelta bidDelta tbDelta baseCharged : U128}

/-- The last leaf is the last order page. -/
theorem lastLeaf_page (hlength : leaves.length = 4 + makerAccounts.toNat + pages.toNat)
    (hpages : 0 < pages.toNat) {leaf : MerkleLeaf} (h : lastLeaf leaves = .ok leaf) :
    leaf = pageLeaf makerAccounts leaves (pages.toNat - 1) := by
  obtain ⟨-, rfl⟩ := lastLeaf_eq_ok.mp h
  rw [pageLeaf]
  congr 1
  omega

/-- If the last leaf is an order page, there is an order page after the leaf of the best prices. -/
theorem pages_pos (hlength : leaves.length = 4 + makerAccounts.toNat + pages.toNat)
    (hbest : (nth leaves (makerAccounts.toNat + 3)).tryGetSymbol = .ok (base, quote))
    {leaf : MerkleLeaf} {page : U32 × U32 × U128} (h : lastLeaf leaves = .ok leaf)
    (hpage : leaf.tryGetOrderpage = .ok page) : 0 < pages.toNat := by
  by_contra hzero
  obtain ⟨-, rfl⟩ := lastLeaf_eq_ok.mp h
  rw [hlength, show 4 + makerAccounts.toNat + pages.toNat - 1 = makerAccounts.toNat + 3 by omega] at hpage
  unfold tryGetSymbol at hbest
  unfold tryGetOrderpage at hpage
  split_ifs at hbest hpage with hnine hhead htwentyfive
  omega

theorem askPages_checked (hlength : leaves.length = 4 + makerAccounts.toNat + pages.toNat)
    (htrades : Trades .ask leaves ↔ bidDelta ≠ 0) (hrests : Rests .ask leaves ↔ askDelta ≠ 0)
    (h : askPages price amount base quote makerAccounts pages leaves askDelta bidDelta tbDelta =
      .ok ()) :
    PagesChecked .ask price base quote makerAccounts pages leaves := by
  simp only [askPages, bind_eq_ok, ensureProof_eq_ok, leafAt_eq_ok, Prod.exists, exists_const] at h
  obtain ⟨best, ⟨-, rfl⟩, b, q, hbest, ⟨rfl, rfl⟩, h⟩ := h
  by_cases htrade : Trades .ask leaves
  · rw [if_pos (htrades.mp htrade)] at h
    simp only [bind_eq_ok, ensureProof_eq_ok, exists_const] at h
    obtain ⟨⟨hpos, -⟩, sums, hsums, h⟩ := h
    obtain ⟨hearly, hdescending⟩ := askPages_descending hsums
    have hpos : 0 < pages.toNat := hpos
    obtain ⟨leaf, hleaf, p, hpage, hlt, hlimit⟩ : ∃ leaf, lastLeaf leaves = .ok leaf ∧
        ∃ p, leaf.tryGetOrderpage = .ok (b, q, p) ∧ p < sums.preBest ∧ (askDelta ≠ 0 → p = price) := by
      split_ifs at h with hrest <;>
        simp only [bind_eq_ok, ensureProof_eq_ok, Prod.exists, exists_const] at h
      · obtain ⟨leaf, hleaf, b', q', p, hpage, ⟨rfl, rfl⟩, ⟨hlt, -⟩, ⟨-, hlimit⟩, -⟩ := h
        exact ⟨leaf, hleaf, p, hpage, hlt, fun _ => hlimit⟩
      · obtain ⟨leaf, hleaf, b', q', p, hpage, ⟨rfl, rfl⟩, ⟨hlt, -⟩, -, -⟩ := h
        exact ⟨leaf, hleaf, p, hpage, hlt, fun hne => absurd hne hrest⟩
    obtain rfl := lastLeaf_page hlength hpos hleaf
    obtain rfl := priceOf_eq hpage
    refine ⟨fun _ j hj => ?_, fun _ i j hij hj => ?_, fun _ _ i hi => ?_, fun _ => ⟨hpos, hpage⟩,
      fun hrest _ => hlimit (hrests.mp hrest)⟩
    · rcases Nat.lt_or_ge j (pages.toNat - 1) with hj' | hj'
      · exact (hearly j hj').1
      · obtain rfl : j = pages.toNat - 1 := by omega
        exact hpage
    · exact BitVec.le_of_lt (hdescending i j hij (by omega))
    · exact BitVec.le_trans (BitVec.le_of_lt hlt) (hearly i (by omega)).2
  · rw [if_neg (htrades.not.mp htrade)] at h
    simp only [bind_eq_ok, ensureProof_eq_ok, exists_const] at h
    obtain ⟨-, h⟩ := h
    refine ⟨fun ht => absurd ht htrade, fun ht => absurd ht htrade, fun _ ht => absurd ht htrade,
      fun hrest => ?_, fun _ ht => ht.elim (fun ht => absurd ht htrade) fun h => absurd h (by decide)⟩
    rw [if_pos (hrests.mp hrest)] at h
    simp only [bind_eq_ok, ensureProof_eq_ok, Prod.exists, exists_const] at h
    obtain ⟨leaf, hleaf, b', q', p, hpage, ⟨rfl, rfl, -⟩, -⟩ := h
    have hpos := pages_pos hlength hbest hleaf hpage
    obtain rfl := lastLeaf_page hlength hpos hleaf
    exact ⟨hpos, .intro hpage⟩

theorem bidPages_checked (hlength : leaves.length = 4 + makerAccounts.toNat + pages.toNat)
    (htrades : Trades .bid leaves ↔ askDelta ≠ 0) (hrests : Rests .bid leaves ↔ bidDelta ≠ 0)
    (h : bidPages price amount base quote makerAccounts pages leaves askDelta bidDelta tbDelta
      baseCharged = .ok ()) :
    PagesChecked .bid price base quote makerAccounts pages leaves := by
  simp only [bidPages, bind_eq_ok, ensureProof_eq_ok, leafAt_eq_ok, Prod.exists, exists_const] at h
  obtain ⟨best, ⟨-, rfl⟩, b, q, hbest, ⟨rfl, rfl⟩, h⟩ := h
  by_cases htrade : Trades .bid leaves
  · rw [if_pos (htrades.mp htrade)] at h
    simp only [bind_eq_ok, ensureProof_eq_ok, exists_const] at h
    obtain ⟨⟨hpos, -⟩, sums, hsums, h⟩ := h
    obtain ⟨hearly, hascending⟩ := bidPages_ascending hsums
    have hpos : 0 < pages.toNat := hpos
    obtain ⟨leaf, hleaf, p, hpage, hlimit⟩ : ∃ leaf, lastLeaf leaves = .ok leaf ∧
        ∃ p, leaf.tryGetOrderpage = .ok (b, q, p) ∧ (bidDelta ≠ 0 → p = price) := by
      split_ifs at h with hrest <;>
        simp only [bind_eq_ok, ensureProof_eq_ok, Prod.exists, exists_const] at h
      · obtain ⟨leaf, hleaf, b', q', p, hpage, ⟨rfl, rfl, hlimit⟩, -⟩ := h
        exact ⟨leaf, hleaf, p, hpage, fun _ => hlimit⟩
      · obtain ⟨leaf, hleaf, b', q', p, hpage, ⟨rfl, rfl⟩, -⟩ := h
        exact ⟨leaf, hleaf, p, hpage, fun hne => absurd hne hrest⟩
    obtain rfl := lastLeaf_page hlength hpos hleaf
    obtain rfl := priceOf_eq hpage
    refine ⟨fun _ j hj => ?_, fun _ i j hij hj => ?_, fun h => absurd h (by decide),
      fun _ => ⟨hpos, hpage⟩,
      fun hrest _ => hlimit (hrests.mp hrest)⟩
    · rcases Nat.lt_or_ge j (pages.toNat - 1) with hj' | hj'
      · exact hearly j hj'
      · obtain rfl : j = pages.toNat - 1 := by omega
        exact hpage
    · exact hascending i j hij (by omega)
  · rw [if_neg (htrades.not.mp htrade)] at h
    simp only [bind_eq_ok, ensureProof_eq_ok, exists_const] at h
    obtain ⟨-, h⟩ := h
    have hrested : Rests .bid leaves → 0 < pages.toNat ∧
        (pageLeaf makerAccounts leaves (pages.toNat - 1)).tryGetOrderpage = .ok (b, q, price) := by
      intro hrest
      rw [if_pos (hrests.mp hrest)] at h
      simp only [bind_eq_ok, ensureProof_eq_ok, Prod.exists, exists_const] at h
      obtain ⟨leaf, hleaf, b', q', p, hpage, ⟨rfl, rfl, rfl⟩, -⟩ := h
      have hpos := pages_pos hlength hbest hleaf hpage
      exact ⟨hpos, lastLeaf_page hlength hpos hleaf ▸ hpage⟩
    exact ⟨fun ht => absurd ht htrade, fun ht => absurd ht htrade,
      fun h => absurd h (by decide),
      fun hrest => ⟨(hrested hrest).1, .intro (hrested hrest).2⟩,
      fun hrest _ => priceOf_eq (hrested hrest).2⟩

end Book

/-! ### Accepted orders -/

section Accepted

variable {cfg : Config} {side : Side} {price amount : U128} {makerFee takerFee base quote : U32}
  {makerAccounts pages : U8} {dominator : AccountId} {leaves : List MerkleLeaf} {reserves : Reserves}
  {cr : ClearingResult}

theorem verifyLimit_checked
    (h : verifyLimit cfg price amount makerFee takerFee base quote makerAccounts pages dominator leaves
      reserves side = .ok cr) :
    OrderBacked base quote makerAccounts pages dominator leaves reserves cr ∧
      PagesChecked side price base quote makerAccounts pages leaves := by
  cases side with
  | ask =>
      obtain ⟨hbacked, -, -, hpages⟩ := verifyAskLimit_eq_ok h
      exact ⟨hbacked, askPages_checked hbacked.length sub_ne_zero.symm
        (ne_comm.trans sub_ne_zero.symm) hpages⟩
  | bid =>
      obtain ⟨hbacked, -, hpages⟩ := verifyBidLimit_eq_ok h
      exact ⟨hbacked, bidPages_checked hbacked.length sub_ne_zero.symm
        (ne_comm.trans sub_ne_zero.symm) hpages⟩

/-- The volume of an order page falls. -/
def Reduced (leaf : MerkleLeaf) : Prop := volume leaf.newV < volume leaf.oldV

instance (leaf : MerkleLeaf) : Decidable (Reduced leaf) :=
  inferInstanceAs (Decidable (volume leaf.newV < volume leaf.oldV))

/-- The pages that are emptied or reduced are at no worse a price than the order's, and what is left of
the order rests at its price. -/
structure WithinLimit (side : Side) (price : U128) (base quote : U32) (leaves : List MerkleLeaf) :
    Prop where
  reduced : ∀ leaf ∈ leaves, ∀ b q p, leaf.tryGetOrderpage = .ok (b, q, p) → Reduced leaf →
    side.NoWorse price p
  rests : Rests side leaves → ∃ leaf, leaves.getLast? = some leaf ∧
    leaf.tryGetOrderpage = .ok (base, quote, price)

/-- What has to hold of the leaves beyond the checks. -/
structure LimitKept (side : Side) (price : U128) (makerAccounts pages : U8) (leaves : List MerkleLeaf) :
    Prop where
  /-- A bid does not look at the key of the first leaf. -/
  first : ∀ b q p, (nth leaves 0).tryGetOrderpage = .ok (b, q, p) → Reduced (nth leaves 0) →
    side.NoWorse price p
  /-- An order that trades compares its price with the best one only. -/
  lastReduced : Trades side leaves → ∀ j, j < pages.toNat → Reduced (pageLeaf makerAccounts leaves j) →
    (∀ k, j < k → k + 1 < pages.toNat → ¬ Reduced (pageLeaf makerAccounts leaves k)) →
    side.NoWorse price (priceOf (pageLeaf makerAccounts leaves j))
  /-- An order that does not trade does not look at the pages but for the one it rests on. -/
  untraded : ¬ Trades side leaves → ∀ j, j < pages.toNat → ∀ b q p,
    (pageLeaf makerAccounts leaves j).tryGetOrderpage = .ok (b, q, p) →
    Reduced (pageLeaf makerAccounts leaves j) → side.NoWorse price p
  /-- An ask that does not trade may rest on any page above the best bid. -/
  placed : side = .ask → ¬ Trades side leaves → Rests side leaves →
    priceOf (pageLeaf makerAccounts leaves (pages.toNat - 1)) = price

/-- An order page is the first leaf or one of those at the end. -/
theorem OrderBacked.orderpage_place
    (hb : OrderBacked base quote makerAccounts pages dominator leaves reserves cr) {leaf : MerkleLeaf}
    (hleaf : leaf ∈ leaves) {page : U32 × U32 × U128} (hpage : leaf.tryGetOrderpage = .ok page) :
    leaf = nth leaves 0 ∨ ∃ j, j < pages.toNat ∧ leaf = pageLeaf makerAccounts leaves j := by
  rcases hb.place hleaf with hzero | ⟨i, hi, haccount⟩ | rfl | hlast
  · exact .inl hzero
  · have hkey : ∃ token who, leaf.key = keyOfAccount token who := by
      rcases haccount with rfl | rfl
      · exact ⟨_, _, (hb.backed i hi).baseKey⟩
      · exact ⟨_, _, (hb.backed i hi).quoteKey⟩
    obtain ⟨token, who, hkey⟩ := hkey
    exact absurd hkey (key_ne_of_tryGetOrderpage hpage token who)
  · have hsymbol := hb.bestPrice
    unfold tryGetSymbol at hsymbol
    unfold tryGetOrderpage at hpage
    split_ifs at hsymbol hpage with hnine hhead htwentyfive
    omega
  · exact .inr hlast

/-- If the last reduced page before the final one is at no worse a price, every reduced page is. -/
private theorem noWorse_of_last
    (hordered : ∀ i j, i < j → j + 1 < pages.toNat →
      side.NoWorse (priceOf (pageLeaf makerAccounts leaves j)) (priceOf (pageLeaf makerAccounts leaves i)))
    (hlast : ∀ j, j < pages.toNat → Reduced (pageLeaf makerAccounts leaves j) →
      (∀ k, j < k → k + 1 < pages.toNat → ¬ Reduced (pageLeaf makerAccounts leaves k)) →
      side.NoWorse price (priceOf (pageLeaf makerAccounts leaves j))) :
    ∀ n j, pages.toNat - j = n → j < pages.toNat → Reduced (pageLeaf makerAccounts leaves j) →
      side.NoWorse price (priceOf (pageLeaf makerAccounts leaves j)) := by
  intro n
  -- The induction is on how many pages follow.
  induction n using Nat.strong_induction_on with
  | _ n ih =>
      intro j hn hj hreduced
      by_cases hmore : ∃ k, j < k ∧ k + 1 < pages.toNat ∧ Reduced (pageLeaf makerAccounts leaves k)
      · obtain ⟨k, hjk, hk, hkreduced⟩ := hmore
        exact (ih (pages.toNat - k) (by omega) k rfl (by omega) hkreduced).trans (hordered j k hjk hk)
      · exact hlast j hj hreduced fun k hjk hk hkreduced => hmore ⟨k, hjk, hk, hkreduced⟩

/-- An accepted order respects its limit price exactly if what the checks leave open is as it should
be. -/
theorem accepted_withinLimit_iff
    (h : verifyLimit cfg price amount makerFee takerFee base quote makerAccounts pages dominator leaves
      reserves side = .ok cr) :
    WithinLimit side price base quote leaves ↔ LimitKept side price makerAccounts pages leaves := by
  obtain ⟨hb, hchecked⟩ := verifyLimit_checked h
  have hlength := hb.length
  have hzero : nth leaves 0 ∈ leaves := nth_mem (by omega)
  have hpageMem : ∀ j, j < pages.toNat → pageLeaf makerAccounts leaves j ∈ leaves :=
    fun j hj => nth_mem (by omega)
  have hfinal : 0 < pages.toNat →
      leaves.getLast? = some (pageLeaf makerAccounts leaves (pages.toNat - 1)) := by
    intro hpos
    have hlast : lastLeaf leaves = .ok (nth leaves (leaves.length - 1)) :=
      lastLeaf_eq_ok.mpr ⟨by omega, rfl⟩
    rw [lastLeaf_page hlength hpos hlast, lastLeaf, okOr_eq_ok] at hlast
    exact hlast
  constructor
  · intro hwithin
    refine ⟨fun b q p => hwithin.reduced _ hzero b q p, fun ht j hj hreduced _ => ?_,
      fun _ j hj b q p => hwithin.reduced _ (hpageMem j hj) b q p, fun _ _ hrest => ?_⟩
    · exact hwithin.reduced _ (hpageMem j hj) _ _ _ (hchecked.isPage ht j hj) hreduced
    · obtain ⟨leaf, hlast, hpage⟩ := hwithin.rests hrest
      rw [hfinal (hchecked.isPage_last hrest).1] at hlast
      obtain rfl := Option.some.inj hlast
      exact priceOf_eq hpage
  · intro hkept
    refine ⟨fun leaf hleaf b q p hpage hreduced => ?_, fun hrest => ?_⟩
    · rcases hb.orderpage_place hleaf hpage with rfl | ⟨j, hj, rfl⟩
      · exact hkept.first b q p hpage hreduced
      · by_cases ht : Trades side leaves
        · exact priceOf_eq hpage ▸
            noWorse_of_last (hchecked.ordered ht) (hkept.lastReduced ht) _ j rfl hj hreduced
        · exact hkept.untraded ht j hj b q p hpage hreduced
    · obtain ⟨hpos, hpage⟩ := hchecked.isPage_last hrest
      refine ⟨_, hfinal hpos, ?_⟩
      have hprice : priceOf (pageLeaf makerAccounts leaves (pages.toNat - 1)) = price := by
        by_cases hlimit : Trades side leaves ∨ side = .bid
        · exact hchecked.limit hrest hlimit
        · have hask : side = .ask := by
            cases side with
            | ask => rfl
            | bid => exact absurd (.inr rfl) hlimit
          exact hkept.placed hask (fun ht => hlimit (.inl ht)) hrest
      exact hprice ▸ hpage

/-- An ask that trades and leaves a remainder is compared with every page it takes. -/
theorem ask_partiallyFilled_withinLimit
    (h : verifyLimit cfg price amount makerFee takerFee base quote makerAccounts pages dominator leaves
      reserves .ask = .ok cr)
    (htrades : Trades .ask leaves) (hrests : Rests .ask leaves) :
    WithinLimit .ask price base quote leaves := by
  have hchecked := (verifyLimit_checked h).2
  have hlimit := hchecked.limit hrests (.inl htrades)
  refine (accepted_withinLimit_iff h).mpr ⟨fun b q p hpage _ => ?_, fun _ j hj _ _ => ?_,
    fun hnot => absurd htrades hnot, fun _ hnot => absurd htrades hnot⟩
  · have hsymbol := (verifyAskLimit_eq_ok h).2.2.1
    unfold tryGetSymbol at hsymbol
    unfold tryGetOrderpage at hpage
    split_ifs at hsymbol hpage with hnine hhead htwentyfive
    omega
  · rcases Nat.lt_or_ge (j + 1) pages.toNat with hearly | hfinal
    · exact hlimit ▸ hchecked.last rfl htrades j hearly
    · obtain rfl : j = pages.toNat - 1 := by omega
      exact hlimit ▸ Side.NoWorse.refl .ask _

end Accepted

/-! ### An ask below its limit

An ask of one unit at price `10` empties the only page that is opened, at price `5`. -/

/-- The amounts authorised to `operator`: a unit of token `1` of the taker, five of token `2` of the
maker. -/
def tradeReserves : Reserves :=
  StorageMap.insert (StorageMap.insert (fun _ => none) ((.authorizing, Token.alice, 1), operator) 1)
    ((.authorizing, bob, 2), operator) 5

def tradeLeaves (pagePrice : Nat) : List MerkleLeaf := [
  leafFrom (keyOfOrderbook (1, 2)) (0, 1) (0, 0),
  leafFrom (keyOfAccount 1 bob) (0, 0) (1, 0),
  leafFrom (keyOfAccount 2 bob) (0, 5) (0, 0),
  leafFrom (keyOfAccount 1 Token.alice) (1, 0) (0, 0),
  leafFrom (keyOfAccount 2 Token.alice) (0, 0) (5, 0),
  leafFrom (keyOfBestprice (1, 2)) (0, 10) (0, 0),
  leafFrom (keyOfOrderpage (1, 2) pagePrice) (1, 0) (0, 0)]

def tradeResult : ClearingResult where
  makers := [{ who := bob, filledVolume := 5, baseBalance := 1, quoteBalance := 0 }]
  taker := { who := Token.alice, unfilledVolume := 0, filledVolume := 5, filledAmount := 1,
             baseBalance := 0, quoteBalance := 5 }
  baseFee := 0
  quoteFee := 0

theorem verifyLimit_trade (pagePrice : Nat) (h : pagePrice = 5 ∨ pagePrice = 10) :
    verifyLimit (plainConfig []) 10 1 0 0 1 2 2 1 operator (tradeLeaves pagePrice) tradeReserves .ask =
      .ok tradeResult := by
  rcases h with rfl | rfl <;> decide +kernel

theorem accepted_withinLimit_iff_trade :
    verifyLimit (plainConfig []) 10 1 0 0 1 2 2 1 operator (tradeLeaves 10) tradeReserves .ask =
      .ok tradeResult ∧
    (WithinLimit .ask 10 1 2 (tradeLeaves 10) ↔ LimitKept .ask 10 2 1 (tradeLeaves 10)) :=
  ⟨verifyLimit_trade 10 (.inr rfl), accepted_withinLimit_iff (verifyLimit_trade 10 (.inr rfl))⟩

/-- The page is emptied at half the price the ask is for. -/
theorem ask_filled_below_limit :
    verifyLimit (plainConfig []) 10 1 0 0 1 2 2 1 operator (tradeLeaves 5) tradeReserves .ask =
      .ok tradeResult ∧
    ¬ WithinLimit .ask 10 1 2 (tradeLeaves 5) := by
  refine ⟨verifyLimit_trade 5 (.inl rfl), fun h => ?_⟩
  have hpage := h.reduced (leafFrom (keyOfOrderpage (1, 2) 5) (1, 0) (0, 0)) (by simp [tradeLeaves]) 1 2 5
    (by decide +kernel) (by decide +kernel)
  exact absurd hpage (by decide)

end Fusotao.Verifier
