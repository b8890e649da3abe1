import Fusotao.Verifier.Orders

/-!
# What an accepted order says

The leaves of an accepted order, at the places the pallet looks at them: one of the order book, the
accounts of the makers in pairs, the accounts of the taker, one of the best prices, and the order pages.
Both kinds of order settle the accounts in the same way; they differ in how the amounts have to add up.
-/

namespace Fusotao.Verifier

open Exec Word MerkleLeaf

/-! ### Leaves by their place -/

def nth (leaves : List MerkleLeaf) (i : Nat) : MerkleLeaf := leaves.getD i default

theorem leafAt_eq_ok {leaves : List MerkleLeaf} {i : Nat} {leaf : MerkleLeaf} :
    leafAt leaves i = .ok leaf ↔ i < leaves.length ∧ nth leaves i = leaf := by
  rw [leafAt, okOr_eq_ok, nth]
  constructor
  · intro h
    obtain ⟨hi, rfl⟩ := List.getElem?_eq_some_iff.mp h
    exact ⟨hi, by simp [hi]⟩
  · rintro ⟨hi, rfl⟩
    simp [hi]

theorem nth_mem {leaves : List MerkleLeaf} {i : Nat} (hi : i < leaves.length) :
    nth leaves i ∈ leaves := by
  simp [nth, hi]

theorem mem_iff_nth {leaves : List MerkleLeaf} {leaf : MerkleLeaf} :
    leaf ∈ leaves ↔ ∃ i, i < leaves.length ∧ nth leaves i = leaf := by
  constructor
  · intro h
    obtain ⟨i, hi, rfl⟩ := List.mem_iff_getElem.mp h
    exact ⟨i, hi, by simp [nth, hi]⟩
  · rintro ⟨i, hi, rfl⟩
    exact nth_mem hi

theorem lastLeaf_eq_ok {leaves : List MerkleLeaf} {leaf : MerkleLeaf} :
    lastLeaf leaves = .ok leaf ↔ 0 < leaves.length ∧ nth leaves (leaves.length - 1) = leaf := by
  rw [lastLeaf, okOr_eq_ok, List.getLast?_eq_getElem?, ← okOr_eq_ok, ← leafAt, leafAt_eq_ok]
  refine and_congr_left fun _ => ?_
  omega

/-- Distinct keys are at distinct places. -/
theorem nth_key_inj {leaves : List MerkleLeaf} (hkeys : (leaves.map MerkleLeaf.key).Nodup) {i j : Nat}
    (hi : i < leaves.length) (hj : j < leaves.length)
    (h : (nth leaves i).key = (nth leaves j).key) : i = j := by
  have hi' : i < (leaves.map MerkleLeaf.key).length := by simpa using hi
  have hj' : j < (leaves.map MerkleLeaf.key).length := by simpa using hj
  refine (@List.Nodup.getElem_inj_iff _ _ hkeys i hi' j hj').mp ?_
  simpa [nth, hi, hj] using h

/-! ### The accounts of an order

The `i`-th party of an order has its base account at `2 * i + 1` and its quote account at `2 * i + 2`. The
makers come first; the taker is the last party. -/

/-- The owner of an account leaf. -/
def ownerOf (leaf : MerkleLeaf) : AccountId :=
  match leaf.tryGetAccount with
  | .ok (_, who) => who
  | .error _ => default

theorem ownerOf_eq {leaf : MerkleLeaf} {token : TokenId} {who : AccountId}
    (h : leaf.tryGetAccount = .ok (token, who)) : ownerOf leaf = who := by
  rw [ownerOf, h]

/-- The leaf is one of an account of `token`, whose amount on record is as in the leaf. -/
structure Backed (reserves : Reserves) (dominator : AccountId) (token : TokenId)
    (leaf : MerkleLeaf) : Prop where
  key : leaf.tryGetAccount = .ok (token, ownerOf leaf)
  onRecord : hasAuthorizedExactlyOn (ownerOf leaf) token leaf.splitOldToSum dominator reserves = true

theorem Backed.intro {reserves : Reserves} {dominator : AccountId} {token : TokenId} {leaf : MerkleLeaf}
    {who : AccountId} (hkey : leaf.tryGetAccount = .ok (token, who))
    (hrecord : hasAuthorizedExactlyOn who token leaf.splitOldToSum dominator reserves = true) :
    Backed reserves dominator token leaf := by
  obtain rfl := ownerOf_eq hkey
  exact ⟨hkey, hrecord⟩

def baseLeaf (leaves : List MerkleLeaf) (i : Nat) : MerkleLeaf := nth leaves (2 * i + 1)

def quoteLeaf (leaves : List MerkleLeaf) (i : Nat) : MerkleLeaf := nth leaves (2 * i + 2)

/-- The account of the `i`-th party. -/
def party (leaves : List MerkleLeaf) (i : Nat) : AccountId := ownerOf (baseLeaf leaves i)

/-- The leaves of the `i`-th party are two accounts of one owner. -/
structure PartyBacked (base quote : TokenId) (dominator : AccountId) (leaves : List MerkleLeaf)
    (reserves : Reserves) (i : Nat) : Prop where
  base : Backed reserves dominator base (baseLeaf leaves i)
  quote : Backed reserves dominator quote (quoteLeaf leaves i)
  owner : ownerOf (quoteLeaf leaves i) = party leaves i

theorem PartyBacked.baseKey {base quote : TokenId} {dominator : AccountId} {leaves : List MerkleLeaf}
    {reserves : Reserves} {i : Nat} (h : PartyBacked base quote dominator leaves reserves i) :
    (nth leaves (2 * i + 1)).key = keyOfAccount base (party leaves i) := tryGetAccount_eq_ok.mp h.base.key

theorem PartyBacked.quoteKey {base quote : TokenId} {dominator : AccountId} {leaves : List MerkleLeaf}
    {reserves : Reserves} {i : Nat} (h : PartyBacked base quote dominator leaves reserves i) :
    (nth leaves (2 * i + 2)).key = keyOfAccount quote (party leaves i) := by
  rw [← h.owner]
  exact tryGetAccount_eq_ok.mp h.quote.key

/-- The mutation recorded of the `i`-th maker, whose quote balance moves by `filled`. -/
def makerMutation (leaves : List MerkleLeaf) (filled : U128) (i : Nat) : MakerMutation where
  who := party leaves i
  filledVolume := filled
  baseBalance := (baseLeaf leaves i).splitNewToSum
  quoteBalance := (quoteLeaf leaves i).splitNewToSum

/-- What the balance in a leaf goes up by. -/
def incr (leaf : MerkleLeaf) : U128 := leaf.splitNewToSum - leaf.splitOldToSum

/-- What the balance in a leaf goes down by. -/
def decr (leaf : MerkleLeaf) : U128 := leaf.splitOldToSum - leaf.splitNewToSum

section Makers

variable {base quote : U32} {makerAccounts : U8} {dominator : AccountId} {leaves : List MerkleLeaf}
  {reserves : Reserves} {sums sums' : MakerSums} {i : Nat}

theorem askMaker_eq_ok (h : askMaker base quote dominator leaves reserves sums i = .ok sums') :
    PartyBacked base quote dominator leaves reserves i ∧
      sums' = {
        mbDelta := sums.mbDelta + incr (baseLeaf leaves i)
        mqDelta := sums.mqDelta + decr (quoteLeaf leaves i)
        mutations := sums.mutations ++
          [makerMutation leaves (decr (quoteLeaf leaves i)) i] } := by
  simp only [askMaker, bind_eq_ok, ensureProof_eq_ok, pure_eq_ok, leafAt_eq_ok, Prod.exists,
    exists_const, Nat.mul_comm i 2] at h
  obtain ⟨leaf, ⟨-, rfl⟩, bk, b, hb, honBase, leaf', ⟨-, rfl⟩, qk, q, hq, ⟨rfl, rfl⟩, honQuote, rfl,
    rfl⟩ := h
  have howner : ownerOf (quoteLeaf leaves i) = party leaves i := (ownerOf_eq hq).trans (ownerOf_eq hb).symm
  refine ⟨⟨.intro hb honBase, .intro hq honQuote, howner⟩, ?_⟩
  rw [makerMutation, party, baseLeaf, ownerOf_eq hb]
  rfl

theorem bidMaker_eq_ok (h : bidMaker base quote dominator leaves reserves sums i = .ok sums') :
    PartyBacked base quote dominator leaves reserves i ∧
      (quoteLeaf leaves i).splitOldToSum.toNat ≤ (quoteLeaf leaves i).splitNewToSum.toNat ∧
      sums'.mqDelta.toNat = sums.mqDelta.toNat + (incr (quoteLeaf leaves i)).toNat ∧
      sums'.mbDelta = sums.mbDelta + decr (baseLeaf leaves i) ∧
      sums'.mutations = sums.mutations ++ [makerMutation leaves (incr (quoteLeaf leaves i)) i] := by
  simp only [bidMaker, bind_eq_ok, ensureProof_eq_ok, pure_eq_ok, leafAt_eq_ok, Prod.exists,
    exists_const, okOr_eq_ok, checkedSub_eq_some, checkedAdd_eq_some, Nat.mul_comm i 2] at h
  obtain ⟨leaf, ⟨-, rfl⟩, bk, b, hb, honBase, leaf', ⟨-, rfl⟩, qk, q, hq, ⟨rfl, rfl⟩, rfl, honQuote,
    quoteIncr, hincr, mqDelta, hsum, rfl⟩ := h
  have hle : (quoteLeaf leaves i).splitOldToSum.toNat ≤ (quoteLeaf leaves i).splitNewToSum.toNat := by
    have := hincr
    unfold quoteLeaf
    omega
  obtain rfl : quoteIncr = incr (quoteLeaf leaves i) := by
    apply BitVec.eq_of_toNat_eq
    rw [incr, toNat_sub_of_le hle]
    unfold quoteLeaf
    omega
  have howner : ownerOf (quoteLeaf leaves i) = party leaves i := (ownerOf_eq hq).trans (ownerOf_eq hb).symm
  refine ⟨⟨.intro hb honBase, .intro hq honQuote, howner⟩, hle, hsum, rfl, ?_⟩
  rw [makerMutation, party, baseLeaf, ownerOf_eq hb]
  rfl

/-! The loops over the makers -/

theorem askMakers_eq_ok (h : askMakers base quote makerAccounts dominator leaves reserves = .ok sums) :
    (∀ i, i < makerAccounts.toNat / 2 → PartyBacked base quote dominator leaves reserves i) ∧
      sums = {
        mbDelta := ∑ i ∈ Finset.range (makerAccounts.toNat / 2), incr (baseLeaf leaves i)
        mqDelta := ∑ i ∈ Finset.range (makerAccounts.toNat / 2), decr (quoteLeaf leaves i)
        mutations := (List.range (makerAccounts.toNat / 2)).map fun i =>
          makerMutation leaves (decr (quoteLeaf leaves i)) i } := by
  refine ⟨foldlM_range_round h fun _ _ i hs => (askMaker_eq_ok hs).1, ?_⟩
  refine foldlM_range_invariant (fun k sums => sums = {
      mbDelta := ∑ i ∈ Finset.range k, incr (baseLeaf leaves i)
      mqDelta := ∑ i ∈ Finset.range k, decr (quoteLeaf leaves i)
      mutations := (List.range k).map fun i => makerMutation leaves (decr (quoteLeaf leaves i)) i }) rfl ?_ h
  intro k _ s s' ih hs
  rw [(askMaker_eq_ok hs).2, ih, List.range_succ, List.map_append]
  simp only [Finset.sum_range_succ, List.map_cons, List.map_nil]

theorem bidMakers_eq_ok (h : bidMakers base quote makerAccounts dominator leaves reserves = .ok sums) :
    (∀ i, i < makerAccounts.toNat / 2 → PartyBacked base quote dominator leaves reserves i) ∧
      (∀ i, i < makerAccounts.toNat / 2 →
        (quoteLeaf leaves i).splitOldToSum.toNat ≤ (quoteLeaf leaves i).splitNewToSum.toNat) ∧
      sums.mbDelta = ∑ i ∈ Finset.range (makerAccounts.toNat / 2), decr (baseLeaf leaves i) ∧
      sums.mqDelta.toNat =
        ∑ i ∈ Finset.range (makerAccounts.toNat / 2), (incr (quoteLeaf leaves i)).toNat ∧
      sums.mutations = (List.range (makerAccounts.toNat / 2)).map fun i =>
        makerMutation leaves (incr (quoteLeaf leaves i)) i := by
  refine ⟨foldlM_range_round h fun _ _ i hs => (bidMaker_eq_ok hs).1,
    foldlM_range_round h fun _ _ i hs => (bidMaker_eq_ok hs).2.1, ?_⟩
  refine foldlM_range_invariant (fun k sums =>
    sums.mbDelta = ∑ i ∈ Finset.range k, decr (baseLeaf leaves i) ∧
      sums.mqDelta.toNat = ∑ i ∈ Finset.range k, (incr (quoteLeaf leaves i)).toNat ∧
      sums.mutations = (List.range k).map fun i => makerMutation leaves (incr (quoteLeaf leaves i)) i)
    ⟨rfl, rfl, rfl⟩ ?_ h
  rintro k - s s' ⟨ihBase, ihQuote, ihMutations⟩ hs
  obtain ⟨-, -, hquote, hbase, hmutations⟩ := bidMaker_eq_ok hs
  rw [hquote, hbase, hmutations, ihBase, ihQuote, ihMutations, List.range_succ, List.map_append]
  simp only [Finset.sum_range_succ, List.map_cons, List.map_nil, and_self]

end Makers

/-! ### Orders -/

section Orders

variable {cfg : Config} {price amount : U128} {makerFee takerFee base quote : U32}
  {makerAccounts pages : U8} {dominator : AccountId} {leaves : List MerkleLeaf} {reserves : Reserves}
  {cr : ClearingResult}

/-- What an accepted order of either kind finds in its leaves, and what it has cleared. -/
structure OrderBacked (base quote : U32) (makerAccounts pages : U8) (dominator : AccountId)
    (leaves : List MerkleLeaf) (reserves : Reserves) (cr : ClearingResult) : Prop where
  length : leaves.length = 4 + makerAccounts.toNat + pages.toNat
  even : makerAccounts.toNat = 2 * (makerAccounts.toNat / 2)
  backed : ∀ i, i ≤ makerAccounts.toNat / 2 → PartyBacked base quote dominator leaves reserves i
  makers : ∃ filled : Nat → U128, cr.makers =
    (List.range (makerAccounts.toNat / 2)).map fun i => makerMutation leaves (filled i) i
  taker : cr.taker.who = party leaves (makerAccounts.toNat / 2)
  takerBase : cr.taker.baseBalance = (baseLeaf leaves (makerAccounts.toNat / 2)).splitNewToSum
  takerQuote : cr.taker.quoteBalance = (quoteLeaf leaves (makerAccounts.toNat / 2)).splitNewToSum
  bestPrice : (nth leaves (makerAccounts.toNat + 3)).tryGetSymbol = .ok (base, quote)

/-- The number of leaves is that of the formula, no wrap-around, if the leaf of the best prices is
there. -/
theorem length_eq (hlength : leaves.length = (4 + makerAccounts + pages).toNat)
    (hbest : makerAccounts.toNat + 3 < leaves.length) :
    leaves.length = 4 + makerAccounts.toNat + pages.toNat := by
  have hm := makerAccounts.isLt
  have hp := pages.isLt
  have hsum : (4 + makerAccounts + pages).toNat = (4 + makerAccounts.toNat + pages.toNat) % 256 := by
    simp [BitVec.toNat_add]
  omega

theorem even_eq (h : makerAccounts % 2 = 0) :
    makerAccounts.toNat = 2 * (makerAccounts.toNat / 2) := by
  have hmod : makerAccounts.toNat % 2 = 0 := by
    simpa using congrArg BitVec.toNat h
  omega

/-- How the amounts of an accepted ask add up. -/
structure AskAmounts (cfg : Config) (makerFee takerFee : U32) (makers : Nat) (leaves : List MerkleLeaf)
    (cr : ClearingResult) : Prop where
  takerBaseOld : volume (baseLeaf leaves makers).oldV < 2 ^ 128
  takerQuoteOld : volume (quoteLeaf leaves makers).oldV < 2 ^ 128
  takerQuoteNew : volume (quoteLeaf leaves makers).newV < 2 ^ 128
  takerQuoteLe : (quoteLeaf leaves makers).splitOldToSum.toNat ≤
    (quoteLeaf leaves makers).splitNewToSum.toNat
  base : ∑ i ∈ Finset.range makers, incr (baseLeaf leaves i) + cr.baseFee =
    decr (baseLeaf leaves makers)
  baseFee : cr.baseFee = cfg.permillMulCeil makerFee (decr (baseLeaf leaves makers))
  quote : incr (quoteLeaf leaves makers) + cr.quoteFee =
    ∑ i ∈ Finset.range makers, decr (quoteLeaf leaves i)
  quoteFee : cr.quoteFee =
    cfg.permillMulCeil takerFee (∑ i ∈ Finset.range makers, decr (quoteLeaf leaves i))

/-- How the amounts of an accepted bid add up. -/
structure BidAmounts (cfg : Config) (makerFee takerFee : U32) (makers : Nat) (leaves : List MerkleLeaf)
    (cr : ClearingResult) : Prop where
  takerBaseNew : volume (baseLeaf leaves makers).newV < 2 ^ 128
  takerQuoteOld : volume (quoteLeaf leaves makers).oldV < 2 ^ 128
  takerQuoteNew : volume (quoteLeaf leaves makers).newV < 2 ^ 128
  takerQuoteLe : (quoteLeaf leaves makers).splitNewToSum.toNat ≤
    (quoteLeaf leaves makers).splitOldToSum.toNat
  makerQuoteLe : ∀ i, i < makers →
    (quoteLeaf leaves i).splitOldToSum.toNat ≤ (quoteLeaf leaves i).splitNewToSum.toNat
  quote : ∑ i ∈ Finset.range makers, (incr (quoteLeaf leaves i)).toNat + cr.quoteFee.toNat =
    (decr (quoteLeaf leaves makers)).toNat
  quoteFee : cr.quoteFee = cfg.permillMulCeil makerFee (decr (quoteLeaf leaves makers))
  base : (incr (baseLeaf leaves makers)).toNat + cr.baseFee.toNat =
    (∑ i ∈ Finset.range makers, decr (baseLeaf leaves i)).toNat
  baseFee : cr.baseFee =
    cfg.permillMulCeil takerFee (∑ i ∈ Finset.range makers, decr (baseLeaf leaves i))

/-- How an ask moves the sizes in the first leaf. -/
structure AskBooked (amount : U128) (makers : Nat) (leaves : List MerkleLeaf) : Prop where
  rests : if (nth leaves 0).splitNewToU128.1 - (nth leaves 0).splitOldToU128.1 ≠ 0 then
      amount = (baseLeaf leaves makers).splitOldToU128.1 - (baseLeaf leaves makers).splitNewToU128.1
    else (baseLeaf leaves makers).splitOldToU128.2 = (baseLeaf leaves makers).splitNewToU128.2
  traded : (nth leaves 0).splitOldToU128.2 - (nth leaves 0).splitNewToU128.2 =
    decr (baseLeaf leaves makers)

/-- How a bid moves the sizes in the first leaf. -/
structure BidBooked (amount : U128) (makers : Nat) (leaves : List MerkleLeaf) : Prop where
  traded : (nth leaves 0).splitOldToU128.1 - (nth leaves 0).splitNewToU128.1 =
    ∑ i ∈ Finset.range makers, decr (baseLeaf leaves i)
  rests : (nth leaves 0).splitNewToU128.2 - (nth leaves 0).splitOldToU128.2 ≠ 0 →
    (nth leaves 0).splitNewToU128.2 - (nth leaves 0).splitOldToU128.2 =
      amount - ∑ i ∈ Finset.range makers, decr (baseLeaf leaves i)

/-- The first leaf of the taker is where the base account of the last party is. -/
theorem nth_takerBase (heven : makerAccounts.toNat = 2 * (makerAccounts.toNat / 2)) :
    nth leaves (makerAccounts.toNat + 1) = baseLeaf leaves (makerAccounts.toNat / 2) := by
  rw [baseLeaf, ← heven]

theorem nth_takerQuote (heven : makerAccounts.toNat = 2 * (makerAccounts.toNat / 2)) :
    nth leaves (makerAccounts.toNat + 2) = quoteLeaf leaves (makerAccounts.toNat / 2) := by
  rw [quoteLeaf, ← heven]

private theorem askPages_bestPrice {askDelta bidDelta tbDelta : U128}
    (h : askPages price amount base quote makerAccounts pages leaves askDelta bidDelta tbDelta =
      .ok ()) :
    makerAccounts.toNat + 3 < leaves.length ∧
      (nth leaves (makerAccounts.toNat + 3)).tryGetSymbol = .ok (base, quote) := by
  unfold askPages at h
  obtain ⟨leaf, hleaf, h⟩ := bind_eq_ok.mp h
  obtain ⟨⟨b, q⟩, hsymbol, h⟩ := bind_eq_ok.mp h
  obtain ⟨u, hpair, -⟩ := bind_eq_ok.mp h
  obtain ⟨rfl, rfl⟩ := ensureProof_eq_ok.mp hpair
  obtain ⟨hlt, rfl⟩ := leafAt_eq_ok.mp hleaf
  exact ⟨hlt, hsymbol⟩

private theorem bidPages_bestPrice {askDelta bidDelta tbDelta baseCharged : U128}
    (h : bidPages price amount base quote makerAccounts pages leaves askDelta bidDelta tbDelta
      baseCharged = .ok ()) :
    makerAccounts.toNat + 3 < leaves.length ∧
      (nth leaves (makerAccounts.toNat + 3)).tryGetSymbol = .ok (base, quote) := by
  unfold bidPages at h
  obtain ⟨leaf, hleaf, h⟩ := bind_eq_ok.mp h
  obtain ⟨⟨b, q⟩, hsymbol, h⟩ := bind_eq_ok.mp h
  obtain ⟨u, hpair, -⟩ := bind_eq_ok.mp h
  obtain ⟨rfl, rfl⟩ := ensureProof_eq_ok.mp hpair
  obtain ⟨hlt, rfl⟩ := leafAt_eq_ok.mp hleaf
  exact ⟨hlt, hsymbol⟩

theorem taker_backed {i : Nat} {who : AccountId}
    (hbase : (baseLeaf leaves i).tryGetAccount = .ok (base, who))
    (hquote : (quoteLeaf leaves i).tryGetAccount = .ok (quote, who))
    (honBase : hasAuthorizedExactlyOn who base (baseLeaf leaves i).splitOldToSum dominator reserves = true)
    (honQuote : hasAuthorizedExactlyOn who quote (quoteLeaf leaves i).splitOldToSum dominator reserves =
      true) : PartyBacked base quote dominator leaves reserves i :=
  ⟨.intro hbase honBase, .intro hquote honQuote, (ownerOf_eq hquote).trans (ownerOf_eq hbase).symm⟩

theorem verifyAskLimit_eq_ok
    (h : verifyAskLimit cfg price amount makerFee takerFee base quote makerAccounts pages dominator
      leaves reserves = .ok cr) :
    OrderBacked base quote makerAccounts pages dominator leaves reserves cr ∧
      AskAmounts cfg makerFee takerFee (makerAccounts.toNat / 2) leaves cr ∧
      (nth leaves 0).tryGetSymbol = .ok (base, quote) ∧
      askPages price amount base quote makerAccounts pages leaves
        ((nth leaves 0).splitNewToU128.1 - (nth leaves 0).splitOldToU128.1)
        ((nth leaves 0).splitOldToU128.2 - (nth leaves 0).splitNewToU128.2)
        (decr (baseLeaf leaves (makerAccounts.toNat / 2))) = .ok () := by
  simp only [verifyAskLimit, bind_eq_ok, ensureProof_eq_ok, pure_eq_ok, leafAt_eq_ok, Prod.exists,
    exists_const, okOr_eq_ok, checkedSub_eq_some, checkedAdd_eq_some] at h
  obtain ⟨hlength, heven, leaf0, ⟨-, rfl⟩, b, q, hsymbol, ⟨rfl, rfl⟩, tb, ⟨htb, rfl⟩, bk, who, hbase,
    tb0, htb0, honBase, tq, ⟨htq, rfl⟩, qk, whoQ, hquote, honQuote, tq1, htq1, tq0, htq0, tqDelta,
    htqDelta, ⟨rfl, rfl⟩, rfl, -, -, sums, hsums, hbaseSum, hquoteSum, u, hpages, rfl⟩ := h
  have heven := even_eq heven
  obtain ⟨hbest, hbestSymbol⟩ := askPages_bestPrice hpages
  obtain ⟨hmakers, rfl⟩ := askMakers_eq_ok hsums
  rw [nth_takerBase heven] at hbase htb0 hpages hbaseSum ⊢
  rw [nth_takerQuote heven] at hquote honQuote htq0 htq1 ⊢
  obtain rfl : tb0 = (baseLeaf leaves (makerAccounts.toNat / 2)).splitOldToSum := eq_add_of_toNat_eq htb0
  obtain rfl : tq0 = (quoteLeaf leaves (makerAccounts.toNat / 2)).splitOldToSum := eq_add_of_toNat_eq htq0
  obtain rfl : tq1 = (quoteLeaf leaves (makerAccounts.toNat / 2)).splitNewToSum := eq_add_of_toNat_eq htq1
  obtain rfl : tqDelta = incr (quoteLeaf leaves (makerAccounts.toNat / 2)) := eq_sub_of_toNat_eq htqDelta
  have htaker := taker_backed hbase hquote honBase honQuote
  refine ⟨⟨length_eq hlength hbest, heven, fun i hi => ?_, ⟨_, rfl⟩, (ownerOf_eq hbase).symm, rfl, rfl,
    hbestSymbol⟩, ⟨?_, ?_, ?_, ?_, hbaseSum, rfl, hquoteSum, rfl⟩, hsymbol, hpages⟩
  · rcases Nat.lt_or_eq_of_le hi with hlt | rfl
    · exact hmakers i hlt
    · exact htaker
  · exact htb0.symm.trans_lt (BitVec.isLt _)
  · exact htq0.symm.trans_lt (BitVec.isLt _)
  · exact htq1.symm.trans_lt (BitVec.isLt _)
  · omega

theorem verifyBidLimit_eq_ok
    (h : verifyBidLimit cfg price amount makerFee takerFee base quote makerAccounts pages dominator
      leaves reserves = .ok cr) :
    OrderBacked base quote makerAccounts pages dominator leaves reserves cr ∧
      BidAmounts cfg makerFee takerFee (makerAccounts.toNat / 2) leaves cr ∧
      bidPages price amount base quote makerAccounts pages leaves
        ((nth leaves 0).splitOldToU128.1 - (nth leaves 0).splitNewToU128.1)
        ((nth leaves 0).splitNewToU128.2 - (nth leaves 0).splitOldToU128.2)
        (incr (baseLeaf leaves (makerAccounts.toNat / 2))) cr.baseFee = .ok () := by
  simp only [verifyBidLimit, bind_eq_ok, ensureProof_eq_ok, pure_eq_ok, leafAt_eq_ok, Prod.exists,
    exists_const, okOr_eq_ok, checkedSub_eq_some, checkedAdd_eq_some] at h
  obtain ⟨hlength, heven, leaf0, ⟨-, rfl⟩, tb, ⟨htb, rfl⟩, bk, who, hbase, honBase, tq, ⟨htq, rfl⟩, qk,
    whoQ, hquote, honQuote, tq0, htq0, tq1, htq1, tqDelta, htqDelta, ⟨rfl, rfl⟩, rfl, sums, hsums,
    quoteSum, hquoteSum, rfl, baseSum, hbaseSum, rfl, -, -, tb1, htb1, tq1', htq1', u, hpages,
    rfl⟩ := h
  have heven := even_eq heven
  obtain ⟨hbest, hbestSymbol⟩ := bidPages_bestPrice hpages
  obtain ⟨hmakers, hmakerLe, hmbDelta, hmqDelta, hmutations⟩ := bidMakers_eq_ok hsums
  rw [nth_takerBase heven] at hbase honBase hbaseSum hpages htb1
  rw [nth_takerQuote heven] at hquote honQuote htq0 htq1 htq1' ⊢
  obtain rfl : tb1 = (baseLeaf leaves (makerAccounts.toNat / 2)).splitNewToSum := eq_add_of_toNat_eq htb1
  obtain rfl : tq0 = (quoteLeaf leaves (makerAccounts.toNat / 2)).splitOldToSum := eq_add_of_toNat_eq htq0
  obtain rfl : tq1 = (quoteLeaf leaves (makerAccounts.toNat / 2)).splitNewToSum := eq_add_of_toNat_eq htq1
  obtain rfl : tq1' = (quoteLeaf leaves (makerAccounts.toNat / 2)).splitNewToSum :=
    eq_add_of_toNat_eq htq1'
  obtain rfl : quoteSum = decr (quoteLeaf leaves (makerAccounts.toNat / 2)) := eq_sub_of_toNat_eq htqDelta
  have htaker := taker_backed hbase hquote honBase honQuote
  refine ⟨⟨length_eq hlength hbest, heven, fun i hi => ?_, ⟨_, hmutations⟩, (ownerOf_eq hbase).symm, rfl,
    rfl, hbestSymbol⟩, ⟨?_, ?_, ?_, ?_, hmakerLe, ?_, rfl, ?_, ?_⟩, hpages⟩
  · rcases Nat.lt_or_eq_of_le hi with hlt | rfl
    · exact hmakers i hlt
    · exact htaker
  · exact htb1.symm.trans_lt (BitVec.isLt _)
  · exact htq0.symm.trans_lt (BitVec.isLt _)
  · exact htq1.symm.trans_lt (BitVec.isLt _)
  · omega
  · rw [← hmqDelta]
    exact hquoteSum.symm
  · rw [← hmbDelta]
    exact hbaseSum.symm
  · rw [← hmbDelta]

/-! The sizes of the order book -/

theorem verifyAskLimit_booked
    (h : verifyAskLimit cfg price amount makerFee takerFee base quote makerAccounts pages dominator
      leaves reserves = .ok cr) : AskBooked amount (makerAccounts.toNat / 2) leaves := by
  simp only [verifyAskLimit, bind_eq_ok, ensureProof_eq_ok, pure_eq_ok, leafAt_eq_ok, Prod.exists,
    exists_const] at h
  obtain ⟨-, heven, leaf0, ⟨-, rfl⟩, b, q, -, -, tb, ⟨-, rfl⟩, bk, who, -, tb0, -, -, tq, -, qk, whoQ, -, -,
    tq1, -, tq0, -, tqDelta, -, -, -, hrests, htraded, -⟩ := h
  rw [nth_takerBase (even_eq heven)] at hrests htraded
  exact ⟨hrests, htraded⟩

theorem verifyBidLimit_booked
    (h : verifyBidLimit cfg price amount makerFee takerFee base quote makerAccounts pages dominator
      leaves reserves = .ok cr) : BidBooked amount (makerAccounts.toNat / 2) leaves := by
  simp only [verifyBidLimit, bind_eq_ok, ensureProof_eq_ok, pure_eq_ok, leafAt_eq_ok, Prod.exists,
    exists_const] at h
  obtain ⟨-, heven, leaf0, ⟨-, rfl⟩, tb, -, bk, who, -, -, tq, -, qk, whoQ, -, -, tq0, -, tq1, -, tqDelta, -,
    -, -, sums, hsums, quoteSum, -, -, baseSum, -, -, htraded, hrests, -⟩ := h
  obtain ⟨-, -, hmbDelta, -⟩ := bidMakers_eq_ok hsums
  rw [hmbDelta] at htraded hrests
  exact ⟨htraded, hrests⟩

/-- Every leaf of an accepted order is of the order book, of an account, of the best prices, or after
these. -/
theorem OrderBacked.place (hb : OrderBacked base quote makerAccounts pages dominator leaves reserves cr)
    {leaf : MerkleLeaf} (hleaf : leaf ∈ leaves) :
    leaf = nth leaves 0 ∨
      (∃ i, i ≤ makerAccounts.toNat / 2 ∧ (leaf = baseLeaf leaves i ∨ leaf = quoteLeaf leaves i)) ∨
      leaf = nth leaves (makerAccounts.toNat + 3) ∨
      ∃ j, j < pages.toNat ∧ leaf = nth leaves (makerAccounts.toNat + 4 + j) := by
  obtain ⟨i, hi, rfl⟩ := mem_iff_nth.mp hleaf
  have hlength := hb.length
  have heven := hb.even
  rcases Nat.eq_zero_or_pos i with rfl | hpos
  · exact .inl rfl
  · rcases Nat.lt_or_ge i (makerAccounts.toNat + 3) with haccount | hafter
    · refine .inr (.inl ⟨(i - 1) / 2, by omega, ?_⟩)
      rcases Nat.mod_two_eq_zero_or_one i with h | h
      · exact .inr (by rw [quoteLeaf, show 2 * ((i - 1) / 2) + 2 = i by omega])
      · exact .inl (by rw [baseLeaf, show 2 * ((i - 1) / 2) + 1 = i by omega])
    · refine .inr (.inr ?_)
      rcases Nat.eq_or_lt_of_le hafter with rfl | hpage
      · exact .inl rfl
      · refine .inr ⟨i - (makerAccounts.toNat + 4), by omega, ?_⟩
        rw [show makerAccounts.toNat + 4 + (i - (makerAccounts.toNat + 4)) = i by omega]

end Orders

end Fusotao.Verifier
