import Fusotao.Verifier.Cancelled
import Fusotao.Verifier.Panic

/-!
# The keys of a proof

A proof should name, in this order, the leaf of the order book, the accounts of the makers and of the taker in pairs,
the leaf of the best prices, and order pages, all of them of its pair and no leaf twice. Not every key is looked at:
a leaf of the order book may stand for one of the best prices and the other way around, a bid does not look at its
first leaf and a cancellation not at its fourth, and some order pages are not looked at either.
-/

namespace Fusotao.Verifier

open Exec Word MerkleLeaf

/-! ### Keys of a pair -/

theorem symbolBytes_split {bytes : List UInt8} (h : bytes.length = 8) :
    symbolBytes (fromLeBytes 32 (bytes.take 4), fromLeBytes 32 (bytes.drop 4)) = bytes := by
  rw [symbolBytes, leBytes_fromLeBytes (by simp [h]), leBytes_fromLeBytes (by simp [h]),
    List.take_append_drop]

theorem length_symbolBytes (symbol : Symbol) : (symbolBytes symbol).length = 8 := by
  simp [symbolBytes]

theorem tryGetSymbol_eq_ok {leaf : MerkleLeaf} {symbol : Symbol} :
    leaf.tryGetSymbol = .ok symbol ↔
      leaf.key = keyOfOrderbook symbol ∨ leaf.key = keyOfBestprice symbol := by
  have hbytes := length_symbolBytes symbol
  constructor
  · intro h
    unfold tryGetSymbol at h
    split_ifs at h with hlength hhead
    obtain rfl := Except.ok.inj h
    obtain ⟨tag, rest, hkey⟩ : ∃ tag rest, leaf.key = tag :: rest := by
      cases hk : leaf.key with
      | nil => simp [hk] at hhead
      | cons tag rest => exact ⟨tag, rest, rfl⟩
    have hrest : rest.length = 8 := by simpa [hkey] using hlength
    have hsymbol := symbolBytes_split hrest
    simp only [hkey, List.head?_cons, Option.some.injEq] at hhead
    simp only [keyOfOrderbook, keyOfBestprice, hkey, List.drop_succ_cons, List.drop_zero, hsymbol,
      List.cons.injEq, and_true]
    exact hhead
  · intro h
    obtain ⟨tag, hkey, htag⟩ : ∃ tag, leaf.key = tag :: symbolBytes symbol ∧
        (tag = orderbookKey ∨ tag = bestpriceKey) := by
      rcases h with h | h
      · exact ⟨_, h, .inl rfl⟩
      · exact ⟨_, h, .inr rfl⟩
    have htake : (symbolBytes symbol).take 4 = Bytes.leBytes 4 symbol.1.toNat := by simp [symbolBytes]
    have hdrop : (symbolBytes symbol).drop 4 = Bytes.leBytes 4 symbol.2.toNat := by simp [symbolBytes]
    simp only [tryGetSymbol, hkey, List.length_cons, hbytes, List.head?_cons, Option.some.injEq, htag,
      if_true, List.drop_succ_cons, List.drop_zero, htake, hdrop, fromLeBytes_leBytes]

/-- An order page leaf is one with the key of the page. -/
theorem tryGetOrderpage_eq_ok {leaf : MerkleLeaf} {symbol : Symbol} {price : U128} :
    leaf.tryGetOrderpage = .ok (symbol.1, symbol.2, price) ↔
      leaf.key = keyOfOrderpage symbol price.toNat := by
  have hbytes := length_symbolBytes symbol
  constructor
  · intro h
    unfold tryGetOrderpage at h
    split_ifs at h with hlength hhead
    obtain ⟨hbase, hrest⟩ := Prod.mk.inj (Except.ok.inj h)
    obtain ⟨hquote, hprice⟩ := Prod.mk.inj hrest
    obtain ⟨rest, hkey⟩ : ∃ rest, leaf.key = orderpageKey :: rest := by
      cases hk : leaf.key with
      | nil => simp [hk] at hhead
      | cons tag rest => exact ⟨rest, by simp_all⟩
    have hlength : rest.length = 24 := by simpa [hkey] using hlength
    simp only [hkey, List.drop_succ_cons, List.drop_zero] at hbase hquote hprice
    have hfirst : Bytes.leBytes 4 symbol.1.toNat = rest.take 4 := by
      rw [← hbase, leBytes_fromLeBytes (by simp [hlength])]
    have hsecond : Bytes.leBytes 4 symbol.2.toNat = (rest.drop 4).take 4 := by
      rw [← hquote, leBytes_fromLeBytes (by simp [hlength])]
    have hthird : Bytes.leBytes 16 price.toNat = rest.drop 8 := by
      rw [← hprice, leBytes_word (by decide) (by simp [hlength])]
    rw [hkey, keyOfOrderpage, symbolBytes, hfirst, hsecond, hthird, List.append_assoc,
      show rest.drop 8 = (rest.drop 4).drop 4 by simp, List.take_append_drop, List.take_append_drop]
  · intro h
    have hdrop : (symbolBytes symbol ++ Bytes.leBytes 16 price.toNat).drop 4 =
        Bytes.leBytes 4 symbol.2.toNat ++ Bytes.leBytes 16 price.toNat := by simp [symbolBytes]
    have hprice : (symbolBytes symbol ++ Bytes.leBytes 16 price.toNat).drop 8 =
        Bytes.leBytes 16 price.toNat := by simp [hbytes]
    have htake : (symbolBytes symbol ++ Bytes.leBytes 16 price.toNat).take 4 =
        Bytes.leBytes 4 symbol.1.toNat := by simp [symbolBytes]
    have hsecond : (Bytes.leBytes 4 symbol.2.toNat ++ Bytes.leBytes 16 price.toNat).take 4 =
        Bytes.leBytes 4 symbol.2.toNat := by simp
    simp only [tryGetOrderpage, h, keyOfOrderpage, List.length_cons, List.length_append, hbytes,
      Bytes.length_leBytes, List.head?_cons, if_true, List.drop_succ_cons, List.drop_zero, hdrop, hprice, htake,
      hsecond, fromLeBytes_leBytes, fromLeBytes_word (show 2 ^ 128 = 256 ^ 16 by decide)]

theorem keyOfOrderbook_ne (symbol symbol' : Symbol) : keyOfOrderbook symbol ≠ keyOfBestprice symbol' := by
  intro h
  exact absurd (List.cons.inj h).1 (by decide)

theorem isPage_iff {base quote : U32} {leaf : MerkleLeaf} :
    IsPage base quote leaf ↔ leaf.key = keyOfOrderpage (base, quote) (priceOf leaf).toNat :=
  @tryGetOrderpage_eq_ok leaf (base, quote) (priceOf leaf)

/-- A leaf with the key of an order page is one, at the price in the key. -/
theorem priceOf_of_key {symbol : Symbol} {leaf : MerkleLeaf} {price : U128}
    (h : leaf.key = keyOfOrderpage symbol price.toNat) : priceOf leaf = price :=
  priceOf_eq (tryGetOrderpage_eq_ok.mpr h)

theorem ownerOf_of_key {token : TokenId} {leaf : MerkleLeaf} {who : AccountId}
    (h : leaf.key = keyOfAccount token who) : ownerOf leaf = who :=
  ownerOf_eq (tryGetAccount_eq_ok.mpr h)

/-! ### The layout -/

/-- The leaves are those of the pair, in order, with the accounts of `makers` makers and of a taker. -/
structure InPlace (base quote : U32) (makers : Nat) (leaves : List MerkleLeaf) : Prop where
  length : 2 * makers + 4 ≤ leaves.length
  book : (nth leaves 0).key = keyOfOrderbook (base, quote)
  accounts : ∀ i, i ≤ makers → ∃ who, (baseLeaf leaves i).key = keyOfAccount base who ∧
    (quoteLeaf leaves i).key = keyOfAccount quote who
  bestPrice : (nth leaves (2 * makers + 3)).key = keyOfBestprice (base, quote)
  pages : ∀ j, 2 * makers + 4 + j < leaves.length → ∃ price : U128,
    (nth leaves (2 * makers + 4 + j)).key = keyOfOrderpage (base, quote) price.toNat

/-- And no leaf occurs twice. -/
structure Entitled (base quote : U32) (makers : Nat) (leaves : List MerkleLeaf) : Prop extends
    InPlace base quote makers leaves where
  distinct : (leaves.map MerkleLeaf.key).Nodup

/-- The first byte of the key at a place. -/
def tagAt (makers i : Nat) : UInt8 :=
  if i = 0 then orderbookKey
  else if i < 2 * makers + 3 then accountKey
  else if i = 2 * makers + 3 then bestpriceKey
  else orderpageKey

section Layout

variable {base quote : U32} {makers : Nat} {leaves : List MerkleLeaf}

/-- An account leaf is the first or the second one of a party. -/
theorem account_place {i : Nat} (hpos : i ≠ 0) (hi : i < 2 * makers + 3) :
    ∃ k, k ≤ makers ∧ (i = 2 * k + 1 ∨ i = 2 * k + 2) :=
  ⟨(i - 1) / 2, by omega, by omega⟩

theorem InPlace.account (hl : InPlace base quote makers leaves) {i : Nat} (hpos : i ≠ 0)
    (hi : i < 2 * makers + 3) :
    ∃ k who token, k ≤ makers ∧ party leaves k = who ∧ (nth leaves i).key = keyOfAccount token who ∧
      (token = base ∧ i = 2 * k + 1 ∨ token = quote ∧ i = 2 * k + 2) := by
  obtain ⟨k, hk, hplace⟩ := account_place hpos hi
  obtain ⟨who, hbase, hquote⟩ := hl.accounts k hk
  rcases hplace with rfl | rfl
  · exact ⟨k, who, base, hk, ownerOf_of_key hbase, hbase, .inl ⟨rfl, rfl⟩⟩
  · exact ⟨k, who, quote, hk, ownerOf_of_key hbase, hquote, .inr ⟨rfl, rfl⟩⟩

theorem InPlace.tag (hl : InPlace base quote makers leaves) {i : Nat} (hi : i < leaves.length) :
    (nth leaves i).key.head? = some (tagAt makers i) := by
  unfold tagAt
  split_ifs with hzero haccount hbest
  · subst hzero
    rw [hl.book]
    rfl
  · obtain ⟨k, who, token, -, -, hkey, -⟩ := hl.account hzero haccount
    rw [hkey]
    rfl
  · subst hbest
    rw [hl.bestPrice]
    rfl
  · obtain ⟨j, rfl⟩ : ∃ j, i = 2 * makers + 4 + j := ⟨i - (2 * makers + 4), by omega⟩
    obtain ⟨price, hpage⟩ := hl.pages j hi
    rw [hpage]
    rfl

/-- Two places with the same tag are both of accounts or both of order pages. -/
theorem tagAt_eq {i j : Nat} (hij : i < j) (h : tagAt makers i = tagAt makers j) :
    (i ≠ 0 ∧ j < 2 * makers + 3) ∨ 2 * makers + 4 ≤ i := by
  unfold tagAt at h
  split_ifs at h <;> first | omega | exact absurd h (by decide)

theorem nodup_keys_iff : (leaves.map MerkleLeaf.key).Nodup ↔
    ∀ i j, i < j → j < leaves.length → (nth leaves i).key ≠ (nth leaves j).key := by
  constructor
  · intro h i j hij hj heq
    exact absurd (nth_key_inj h (by omega) hj heq) (by omega)
  · intro h
    rw [List.Nodup, List.pairwise_iff_getElem]
    intro i j hi hj hij
    have hne := h i j hij (by simpa using hj)
    rw [List.length_map] at hi hj
    simpa [nth, hi, hj] using hne

/-- No leaf occurs twice if the two tokens, the parties and the prices of the pages are distinct. -/
theorem InPlace.nodup_iff (hl : InPlace base quote makers leaves) :
    (leaves.map MerkleLeaf.key).Nodup ↔
      base ≠ quote ∧ (∀ i j, i < j → j ≤ makers → party leaves i ≠ party leaves j) ∧
        ∀ i j, i < j → 2 * makers + 4 + j < leaves.length →
          priceOf (nth leaves (2 * makers + 4 + i)) ≠ priceOf (nth leaves (2 * makers + 4 + j)) := by
  have hlength := hl.length
  rw [nodup_keys_iff]
  constructor
  · intro h
    refine ⟨?_, fun i j hij hj heq => ?_, fun i j hij hj heq => ?_⟩
    · rintro rfl
      obtain ⟨who, hbase, hquote⟩ := hl.accounts 0 (Nat.zero_le _)
      exact h 1 2 (by omega) (by omega) (hbase.trans hquote.symm)
    · obtain ⟨who, hbase, -⟩ := hl.accounts i (by omega)
      obtain ⟨who', hbase', -⟩ := hl.accounts j hj
      rw [party, party, ownerOf_of_key hbase, ownerOf_of_key hbase'] at heq
      subst heq
      exact h (2 * i + 1) (2 * j + 1) (by omega) (by omega) (hbase.trans hbase'.symm)
    · obtain ⟨price, hpage⟩ := hl.pages i (by omega)
      obtain ⟨price', hpage'⟩ := hl.pages j hj
      rw [priceOf_of_key hpage, priceOf_of_key hpage'] at heq
      subst heq
      exact h _ _ (by omega) hj (hpage.trans hpage'.symm)
  · rintro ⟨htokens, hparties, hprices⟩ i j hij hj heq
    have htag : tagAt makers i = tagAt makers j := by
      have hi := hl.tag (show i < leaves.length by omega)
      rw [heq, hl.tag hj] at hi
      exact (Option.some.inj hi).symm
    rcases tagAt_eq hij htag with ⟨hpos, hend⟩ | hpages
    · obtain ⟨k, who, token, hk, hwho, hi, htoken⟩ := hl.account hpos (by omega)
      obtain ⟨k', who', token', hk', hwho', hj', htoken'⟩ := hl.account (i := j) (by omega) hend
      obtain ⟨rfl, rfl⟩ := keyOfAccount_injective (hi.symm.trans (heq.trans hj'))
      by_cases hkk : k < k'
      · exact hparties k k' hkk hk' (hwho.trans hwho'.symm)
      · rcases htoken with ⟨hbase, rfl⟩ | ⟨hquote, rfl⟩ <;> rcases htoken' with ⟨hbase', rfl⟩ | ⟨hquote', rfl⟩
        · omega
        · exact htokens (hbase.symm.trans hquote')
        · exact htokens (hbase'.symm.trans hquote)
        · omega
    · obtain ⟨a, rfl⟩ : ∃ a, i = 2 * makers + 4 + a := ⟨i - (2 * makers + 4), by omega⟩
      obtain ⟨b, rfl⟩ : ∃ b, j = 2 * makers + 4 + b := ⟨j - (2 * makers + 4), by omega⟩
      refine hprices a b (by omega) hj ?_
      unfold priceOf tryGetOrderpage
      rw [heq]

end Layout

/-! ### Orders -/

/-- What has to hold of the keys of an order beyond the checks. -/
structure OrderKeysKept (side : Side) (base quote : U32) (makerAccounts pages : U8)
    (leaves : List MerkleLeaf) : Prop where
  /-- An ask takes a leaf of the best prices for one of the order book; a bid takes any leaf. -/
  book : match side with
    | .ask => (nth leaves 0).key ≠ keyOfBestprice (base, quote)
    | .bid => (nth leaves 0).key = keyOfOrderbook (base, quote)
  bestPrice : (nth leaves (makerAccounts.toNat + 3)).key ≠ keyOfOrderbook (base, quote)
  /-- An order that does not trade looks at the last page only, and only if it rests there. -/
  isPage : ¬ Trades side leaves → ∀ j, j < pages.toNat → (Rests side leaves → j + 1 ≠ pages.toNat) →
    IsPage base quote (pageLeaf makerAccounts leaves j)
  tokens : base ≠ quote
  owners : ∀ i j, i < j → j ≤ makerAccounts.toNat / 2 → party leaves i ≠ party leaves j
  /-- The pages of an ask that trades are at falling prices. -/
  prices : (side = .ask → ¬ Trades side leaves) → ∀ i j, i < j → j < pages.toNat →
    priceOf (pageLeaf makerAccounts leaves i) ≠ priceOf (pageLeaf makerAccounts leaves j)

section Orders

variable {cfg : Config} {side : Side} {price amount : U128} {makerFee takerFee base quote : U32}
  {makerAccounts pages : U8} {dominator : AccountId} {leaves : List MerkleLeaf} {reserves : Reserves}
  {cr : ClearingResult} {askDelta bidDelta tbDelta : U128}

/-- The pages of an ask that trades are at falling prices, the last one included. -/
theorem askPages_strict (hlength : leaves.length = 4 + makerAccounts.toNat + pages.toNat)
    (htrades : bidDelta ≠ 0)
    (h : askPages price amount base quote makerAccounts pages leaves askDelta bidDelta tbDelta = .ok ()) :
    ∀ i j, i < j → j < pages.toNat →
      priceOf (pageLeaf makerAccounts leaves j) < priceOf (pageLeaf makerAccounts leaves i) := by
  simp only [askPages, bind_eq_ok, ensureProof_eq_ok, leafAt_eq_ok, Prod.exists, exists_const] at h
  obtain ⟨best, ⟨-, rfl⟩, b, q, hbest, ⟨rfl, rfl⟩, h⟩ := h
  rw [if_pos htrades] at h
  simp only [bind_eq_ok, ensureProof_eq_ok, exists_const] at h
  obtain ⟨⟨hpos, -⟩, sums, hsums, h⟩ := h
  obtain ⟨hearly, hdescending⟩ := askPages_descending hsums
  have hpos : 0 < pages.toNat := hpos
  obtain ⟨leaf, hleaf, p, hpage, hlt⟩ : ∃ leaf, lastLeaf leaves = .ok leaf ∧
      ∃ p, leaf.tryGetOrderpage = .ok (b, q, p) ∧ p < sums.preBest := by
    split_ifs at h <;> simp only [bind_eq_ok, ensureProof_eq_ok, Prod.exists, exists_const] at h
    · obtain ⟨leaf, hleaf, b', q', p, hpage, ⟨rfl, rfl⟩, ⟨hlt, -⟩, -⟩ := h
      exact ⟨leaf, hleaf, p, hpage, hlt⟩
    · obtain ⟨leaf, hleaf, b', q', p, hpage, ⟨rfl, rfl⟩, ⟨hlt, -⟩, -⟩ := h
      exact ⟨leaf, hleaf, p, hpage, hlt⟩
  obtain rfl := lastLeaf_page hlength hpos hleaf
  obtain rfl := priceOf_eq hpage
  intro i j hij hj
  rcases Nat.lt_or_ge j (pages.toNat - 1) with hearlier | hlast
  · exact hdescending i j hij hearlier
  · obtain rfl : j = pages.toNat - 1 := by omega
    exact BitVec.lt_def.mpr (lt_of_lt_of_le (BitVec.lt_def.mp hlt) (BitVec.le_def.mp (hearly i (by omega)).2))

theorem order_distinct_prices
    (h : verifyLimit cfg price amount makerFee takerFee base quote makerAccounts pages dominator leaves
      reserves side = .ok cr)
    (hprices : (side = .ask → ¬ Trades side leaves) → ∀ i j, i < j → j < pages.toNat →
      priceOf (pageLeaf makerAccounts leaves i) ≠ priceOf (pageLeaf makerAccounts leaves j)) :
    ∀ i j, i < j → j < pages.toNat →
      priceOf (pageLeaf makerAccounts leaves i) ≠ priceOf (pageLeaf makerAccounts leaves j) := by
  by_cases hchecked : side = .ask ∧ Trades side leaves
  · obtain ⟨rfl, htrades⟩ := hchecked
    obtain ⟨hbacked, -, -, hpages⟩ := verifyAskLimit_eq_ok h
    have hstrict := askPages_strict hbacked.length (sub_ne_zero.mpr htrades) hpages
    intro i j hij hj heq
    exact absurd (BitVec.lt_def.mp (hstrict i j hij hj)) (heq ▸ Nat.lt_irrefl _)
  · exact hprices fun hask htrades => hchecked ⟨hask, htrades⟩

/-- An accepted order touches the leaves it is entitled to exactly if the keys the checks leave open are as they
should be. -/
theorem order_entitled_iff
    (h : verifyLimit cfg price amount makerFee takerFee base quote makerAccounts pages dominator leaves
      reserves side = .ok cr) :
    Entitled base quote (makerAccounts.toNat / 2) leaves ↔
      OrderKeysKept side base quote makerAccounts pages leaves := by
  obtain ⟨hb, hchecked⟩ := verifyLimit_checked h
  have hlength := hb.length
  have heven := hb.even
  have hpage (j : Nat) : nth leaves (2 * (makerAccounts.toNat / 2) + 4 + j) = pageLeaf makerAccounts leaves j := by
    rw [← heven, pageLeaf]
  have hbest : nth leaves (2 * (makerAccounts.toNat / 2) + 3) = nth leaves (makerAccounts.toNat + 3) := by
    rw [← heven]
  constructor
  · intro he
    obtain ⟨htokens, howners, hprices⟩ := he.nodup_iff.mp he.distinct
    refine ⟨?_, ?_, fun _ j hj _ => ?_, htokens, howners, fun _ i j hij hj => ?_⟩
    · cases side with
      | ask => exact he.book ▸ keyOfOrderbook_ne _ _
      | bid => exact he.book
    · rw [← hbest, he.bestPrice]
      exact (keyOfOrderbook_ne _ _).symm
    · obtain ⟨p, hkey⟩ := he.pages j (by omega)
      rw [hpage] at hkey
      exact isPage_iff.mpr (priceOf_of_key hkey ▸ hkey)
    · rw [← hpage, ← hpage]
      exact hprices i j hij (by omega)
  · intro hk
    have hplace : InPlace base quote (makerAccounts.toNat / 2) leaves := by
      refine ⟨by omega, ?_, fun i hi => ?_, ?_, fun j hj => ?_⟩
      · cases side with
        | ask => exact (tryGetSymbol_eq_ok.mp (verifyAskLimit_eq_ok h).2.2.1).resolve_right hk.book
        | bid => exact hk.book
      · have hparty := hb.backed i hi
        exact ⟨party leaves i, hparty.baseKey, hparty.quoteKey⟩
      · rw [hbest]
        exact (tryGetSymbol_eq_ok.mp hb.bestPrice).resolve_left hk.bestPrice
      · rw [hpage]
        have hj : j < pages.toNat := by omega
        refine ⟨_, isPage_iff.mp ?_⟩
        by_cases ht : Trades side leaves
        · exact hchecked.isPage ht j hj
        · by_cases hlast : Rests side leaves ∧ j + 1 = pages.toNat
          · obtain ⟨hrest, hlast⟩ := hlast
            obtain rfl : j = pages.toNat - 1 := by omega
            exact (hchecked.isPage_last hrest).2
          · exact hk.isPage ht j hj fun hrest hend => hlast ⟨hrest, hend⟩
    refine ⟨hplace, hplace.nodup_iff.mpr ⟨hk.tokens, hk.owners, fun i j hij hj => ?_⟩⟩
    rw [hpage, hpage]
    exact order_distinct_prices h hk.prices i j hij (by omega)

end Orders

/-! ### Cancellations -/

/-- What has to hold of the keys of a cancellation beyond the checks. -/
structure CancelKeysKept (base quote : U32) (leaves : List MerkleLeaf) : Prop where
  book : (nth leaves 0).key ≠ keyOfBestprice (base, quote)
  /-- The key of the leaf of the best prices is not looked at. -/
  bestPrice : (nth leaves 3).key = keyOfBestprice (base, quote)
  tokens : base ≠ quote

theorem cancel_entitled_iff {base quote : U32} {account : AccountId} {leaves : List MerkleLeaf} {delta : U128}
    (h : verifyCancel base quote account leaves = .ok delta) :
    (Entitled base quote 0 leaves ∧ party leaves 0 = account) ↔ CancelKeysKept base quote leaves := by
  have hc := verifyCancel_eq_ok h
  have hlength := hc.length
  constructor
  · rintro ⟨he, -⟩
    exact ⟨he.book ▸ keyOfOrderbook_ne _ _, he.bestPrice, (he.nodup_iff.mp he.distinct).1⟩
  · intro hk
    have hplace : InPlace base quote 0 leaves := by
      refine ⟨by omega, (tryGetSymbol_eq_ok.mp hc.book).resolve_right hk.book, fun i hi => ?_, hk.bestPrice,
        fun j hj => ?_⟩
      · obtain rfl : i = 0 := Nat.le_zero.mp hi
        exact ⟨account, tryGetAccount_eq_ok.mp hc.baseOwner, tryGetAccount_eq_ok.mp hc.quoteOwner⟩
      · obtain rfl : j = 0 := by omega
        exact ⟨_, isPage_iff.mp hc.isPage⟩
    refine ⟨⟨hplace, hplace.nodup_iff.mpr ⟨hk.tokens, fun i j hij hj => ?_, fun i j hij hj => ?_⟩⟩,
      ownerOf_eq hc.baseOwner⟩
    · omega
    · omega

/-! ### Proofs -/

/-- The leaves of an order or a cancellation are those it is entitled to. -/
def ProofEntitled (proof : ProofV2) : Prop :=
  match proof.cmd with
  | .askLimit _ _ _ _ base quote _ | .bidLimit _ _ _ _ base quote _ =>
      Entitled base quote (proof.makerAccountDelta.toNat / 2) proof.leaves
  | .cancel base quote => Entitled base quote 0 proof.leaves ∧ party proof.leaves 0 = proof.userId
  | _ => True

/-- The keys that the checks leave open are as they should be. -/
def ProofKeysKept (proof : ProofV2) : Prop :=
  match proof.cmd with
  | .askLimit _ _ _ _ base quote _ =>
      OrderKeysKept .ask base quote proof.makerAccountDelta proof.makerPageDelta proof.leaves
  | .bidLimit _ _ _ _ base quote _ =>
      OrderKeysKept .bid base quote proof.makerAccountDelta proof.makerPageDelta proof.leaves
  | .cancel base quote => CancelKeysKept base quote proof.leaves
  | _ => True

/-- An accepted proof touches the leaves it is entitled to exactly if the keys that the checks leave open are as
they should be. -/
theorem accepted_entitled_iff {cfg : Config} {dominator : AccountId} {reserves : Reserves} {proof : ProofV2}
    (h : verifyLeaves cfg dominator reserves proof = .ok ()) :
    ProofEntitled proof ↔ ProofKeysKept proof := by
  unfold verifyLeaves at h
  unfold ProofEntitled ProofKeysKept
  cases hcmd : proof.cmd <;> simp only [hcmd, bind_eq_ok, pure_eq_ok, and_true] at h ⊢
  case askLimit =>
    obtain ⟨cr, h⟩ := h
    exact order_entitled_iff h
  case bidLimit =>
    obtain ⟨cr, h⟩ := h
    exact order_entitled_iff h
  case cancel =>
    obtain ⟨delta, h⟩ := h
    exact cancel_entitled_iff h

/-! ### An order with a page too many

An ask that neither trades nor rests, with one more leaf than it needs. -/

/-- A proof of an ask with the accounts of its taker, the best prices and one more leaf at `key`. -/
def idleProof (key : List UInt8) : ProofV2 where
  eventId := 1
  userId := Token.alice
  cmd := .askLimit 10 1 0 0 1 2 none
  leaves := [
    leafFrom (keyOfOrderbook (1, 2)) (0, 0) (0, 0),
    leafFrom (keyOfAccount 1 Token.alice) (1, 0) (1, 0),
    leafFrom (keyOfAccount 2 Token.alice) (0, 0) (0, 0),
    leafFrom (keyOfBestprice (1, 2)) (0, 0) (0, 0),
    leafFrom key (0, 0) (7, 0)]
  makerPageDelta := 1
  makerAccountDelta := 0
  merkleProof := []
  root := emptyRoot

theorem idleProof_accepted (key : List UInt8)
    (h : key = keyOfOrderpage (1, 2) 10 ∨ key = keyOfAccount 2 bob) :
    verifyLeaves (plainConfig []) operator (fun _ => none) (idleProof key) = .ok () := by
  rcases h with rfl | rfl <;> decide +kernel

theorem accepted_entitled_iff_idle :
    verifyLeaves (plainConfig []) operator (fun _ => none) (idleProof (keyOfOrderpage (1, 2) 10)) = .ok () ∧
      (ProofEntitled (idleProof (keyOfOrderpage (1, 2) 10)) ↔
        ProofKeysKept (idleProof (keyOfOrderpage (1, 2) 10))) :=
  ⟨idleProof_accepted _ (.inl rfl), accepted_entitled_iff (idleProof_accepted _ (.inl rfl))⟩

/-- The last leaf is the account of someone else, who gets seven units. -/
theorem idle_ask_pays_anyone :
    verifyLeaves (plainConfig []) operator (fun _ => none) (idleProof (keyOfAccount 2 bob)) = .ok () ∧
      ¬ ProofEntitled (idleProof (keyOfAccount 2 bob)) := by
  refine ⟨idleProof_accepted _ (.inr rfl), fun h => ?_⟩
  obtain ⟨price, hkey⟩ := h.pages 0 (by decide)
  exact absurd (List.cons.inj hkey).1 (by decide)

end Fusotao.Verifier
