import Fusotao.Verifier.Accepted
import Fusotao.Verifier.Plain

/-!
# Proofs that make the pallet panic

The number of leaves is compared with a sum of two counts that wraps around at 256, and the leaves are then looked
up by the counts themselves. Where the sum does not wrap around every leaf is there. Where it does, the call ends
at the first place past the last leaf, unless a check before it fails.
-/

namespace Fusotao.Verifier

open Exec Word MerkleLeaf

/-! ### Steps that do not panic -/

theorem leafAt_eq_panic {leaves : List MerkleLeaf} {i : Nat} :
    leafAt leaves i = .error .panic ↔ leaves.length ≤ i := by
  simp [leafAt]

theorem lastLeaf_eq_panic {leaves : List MerkleLeaf} :
    lastLeaf leaves = .error .panic ↔ leaves.length = 0 := by
  simp [lastLeaf]

@[simp] theorem ensureProof_ne_panic {c : Prop} [Decidable c] : ensureProof c ≠ .error .panic := by
  simp [ensureProof]

@[simp] theorem okOr_ne_panic {α : Type} {o : Option α} {e : VerifierError} :
    okOr o (e : Abort) ≠ .error .panic := by
  simp

@[simp] theorem tryGetAccount_ne_panic {leaf : MerkleLeaf} : leaf.tryGetAccount ≠ .error .panic := by
  unfold tryGetAccount
  split_ifs <;> simp

@[simp] theorem tryGetSymbol_ne_panic {leaf : MerkleLeaf} : leaf.tryGetSymbol ≠ .error .panic := by
  unfold tryGetSymbol
  split_ifs <;> simp

@[simp] theorem tryGetOrderpage_ne_panic {leaf : MerkleLeaf} : leaf.tryGetOrderpage ≠ .error .panic := by
  unfold tryGetOrderpage
  split_ifs <;> simp

@[simp] theorem pure_ne_panic {α : Type} {a : α} : (pure a : Result α) ≠ .error .panic := by
  simp [pure, Except.pure]

section Loops

variable {base quote : U32} {makerAccounts pages : U8} {dominator : AccountId} {leaves : List MerkleLeaf}
  {reserves : Reserves} {n : Nat}

/-- The makers of an ask are all there if the leaves of the last one are. -/
theorem askMakers_ne_panic (h : makerAccounts.toNat + 2 < leaves.length) :
    askMakers base quote makerAccounts dominator leaves reserves ≠ .error .panic := by
  apply foldlM_ne_error
  intro i hi sums
  have hi := List.mem_range.mp hi
  simp only [askMaker, ne_eq, bind_eq_error, leafAt_eq_panic, ensureProof_ne_panic, tryGetAccount_ne_panic,
    pure_ne_panic, false_or, and_false, exists_false, or_false, not_or, not_exists, not_and]
  refine ⟨by omega, fun leaf _ account _ _ _ => by omega⟩

theorem bidMakers_ne_panic (h : makerAccounts.toNat + 2 < leaves.length) :
    bidMakers base quote makerAccounts dominator leaves reserves ≠ .error .panic := by
  apply foldlM_ne_error
  intro i hi sums
  have hi := List.mem_range.mp hi
  simp only [bidMaker, ne_eq, bind_eq_error, leafAt_eq_panic, ensureProof_ne_panic, tryGetAccount_ne_panic,
    okOr_ne_panic, pure_ne_panic, false_or, and_false, exists_false, or_false, not_or, not_exists, not_and]
  refine ⟨by omega, fun leaf _ account _ _ _ => by omega⟩

variable {price amount askDelta bidDelta tbDelta baseCharged : U128}

theorem askPage_panics {sums : PageSums} {i : Nat}
    (h : askPage base quote makerAccounts leaves sums i = .error .panic) :
    leaves.length ≤ makerAccounts.toNat + 4 + i := by
  simpa only [askPage, bind_eq_error, leafAt_eq_panic, ensureProof_ne_panic, tryGetOrderpage_ne_panic,
    pure_ne_panic, and_false, exists_false, or_false] using h

theorem bidPage_panics {sums : PageSums} {i : Nat}
    (h : bidPage base quote makerAccounts leaves sums i = .error .panic) :
    leaves.length ≤ makerAccounts.toNat + 4 + i := by
  simpa only [bidPage, bind_eq_error, leafAt_eq_panic, ensureProof_ne_panic, tryGetOrderpage_ne_panic,
    pure_ne_panic, and_false, exists_false, or_false] using h

/-- The loop over the pages finds all of them if the number of leaves is as it should be. -/
theorem pages_ne_panic {body : PageSums → Nat → Result PageSums} {first : PageSums}
    (hbody : ∀ sums i, body sums i = .error .panic → leaves.length ≤ makerAccounts.toNat + 4 + i)
    (hlength : leaves.length = 4 + makerAccounts.toNat + pages.toNat) :
    (List.range (pages.toNat - 1)).foldlM body first ≠ .error .panic := by
  apply foldlM_ne_error
  intro i hi sums hpanic
  have hi := List.mem_range.mp hi
  have hmissing := hbody sums i hpanic
  omega

theorem lastLeaf_ne_panic (hlength : leaves.length = 4 + makerAccounts.toNat + pages.toNat) :
    lastLeaf leaves ≠ .error .panic := by
  intro hpanic
  have hnone := lastLeaf_eq_panic.mp hpanic
  omega

/-- The check of the pages panics only if the leaf of the best prices is not there. -/
theorem askPages_eq_panic (h : makerAccounts.toNat + 3 < leaves.length →
      leaves.length = 4 + makerAccounts.toNat + pages.toNat) :
    askPages price amount base quote makerAccounts pages leaves askDelta bidDelta tbDelta = .error .panic ↔
      leaves.length ≤ makerAccounts.toNat + 3 := by
  unfold askPages
  rw [bind_eq_error, leafAt_eq_panic]
  refine or_iff_left ?_
  rintro ⟨leaf, hleaf, hrest⟩
  have hlength := h (leafAt_eq_ok.mp hleaf).1
  have hlast := lastLeaf_ne_panic hlength
  have hloop (first : PageSums) :
      (List.range (pages.toNat - 1)).foldlM (askPage base quote makerAccounts leaves) first ≠ .error .panic :=
    pages_ne_panic (fun _ _ => askPage_panics) hlength
  split_ifs at hrest <;> simp [bind_eq_error, hlast, hloop] at hrest

theorem bidPages_eq_panic (h : makerAccounts.toNat + 3 < leaves.length →
      leaves.length = 4 + makerAccounts.toNat + pages.toNat) :
    bidPages price amount base quote makerAccounts pages leaves askDelta bidDelta tbDelta baseCharged =
        .error .panic ↔
      leaves.length ≤ makerAccounts.toNat + 3 := by
  unfold bidPages
  rw [bind_eq_error, leafAt_eq_panic]
  refine or_iff_left ?_
  rintro ⟨leaf, hleaf, hrest⟩
  have hlength := h (leafAt_eq_ok.mp hleaf).1
  have hlast := lastLeaf_ne_panic hlength
  have hloop (first : PageSums) :
      (List.range (pages.toNat - 1)).foldlM (bidPage base quote makerAccounts leaves) first ≠ .error .panic :=
    pages_ne_panic (fun _ _ => bidPage_panics) hlength
  split_ifs at hrest <;> simp [bind_eq_error, hlast, hloop] at hrest

/-! Makers that are there and backed -/

theorem askMakers_ok (hlength : makerAccounts.toNat + 2 < leaves.length)
    (hbacked : ∀ i, i < makerAccounts.toNat / 2 → PartyBacked base quote dominator leaves reserves i) :
    ∃ sums, askMakers base quote makerAccounts dominator leaves reserves = .ok sums := by
  apply foldlM_total
  intro i hi sums
  have hi := List.mem_range.mp hi
  have hb := hbacked i hi
  simp only [askMaker, bind_eq_ok, ensureProof_eq_ok, pure_eq_ok, leafAt_eq_ok, Prod.exists, exists_const,
    Nat.mul_comm i 2]
  exact ⟨_, _, ⟨by omega, rfl⟩, _, _, hb.base.key, hb.base.onRecord, _, ⟨by omega, rfl⟩, _, _, hb.quote.key,
    ⟨rfl, rfl⟩, hb.quote.onRecord, hb.owner.symm, rfl⟩

/-- The makers of a bid also need the sum of what they get to fit. -/
theorem bidMakers_ok (hlength : makerAccounts.toNat + 2 < leaves.length)
    (hbacked : ∀ i, i < makerAccounts.toNat / 2 → PartyBacked base quote dominator leaves reserves i)
    (hle : ∀ i, i < makerAccounts.toNat / 2 →
      (quoteLeaf leaves i).splitOldToSum.toNat ≤ (quoteLeaf leaves i).splitNewToSum.toNat)
    (hfits : ∑ i ∈ Finset.range (makerAccounts.toNat / 2), (incr (quoteLeaf leaves i)).toNat < 2 ^ 128) :
    ∃ sums, bidMakers base quote makerAccounts dominator leaves reserves = .ok sums := by
  have hmaker (k : Nat) (hk : k < makerAccounts.toNat / 2) (sums : MakerSums)
      (hsums : sums.mqDelta.toNat = ∑ i ∈ Finset.range k, (incr (quoteLeaf leaves i)).toNat) :
      ∃ sums', bidMaker base quote dominator leaves reserves sums k = .ok sums' := by
    have hb := hbacked k hk
    have hincr : (quoteLeaf leaves k).splitNewToSum.toNat =
        (incr (quoteLeaf leaves k)).toNat + (quoteLeaf leaves k).splitOldToSum.toNat := by
      rw [incr, toNat_sub_of_le (hle k hk), Nat.sub_add_cancel (hle k hk)]
    have hsum := Finset.sum_le_sum_of_subset (f := fun i => (incr (quoteLeaf leaves i)).toNat)
      (Finset.range_mono hk)
    rw [Finset.sum_range_succ, ← hsums] at hsum
    simp only [bidMaker, bind_eq_ok, ensureProof_eq_ok, pure_eq_ok, leafAt_eq_ok, Prod.exists,
      exists_const, okOr_eq_ok, checkedSub_eq_some, checkedAdd_eq_some, Nat.mul_comm k 2]
    exact ⟨_, _, ⟨by omega, rfl⟩, _, _, hb.base.key, hb.base.onRecord, _, ⟨by omega, rfl⟩, _, _,
      hb.quote.key, ⟨rfl, rfl⟩, hb.owner.symm, hb.quote.onRecord, incr (quoteLeaf leaves k), hincr,
      sums.mqDelta + incr (quoteLeaf leaves k), toNat_add_of_lt (by omega), rfl⟩
  have hloop : ∃ sums, bidMakers base quote makerAccounts dominator leaves reserves = .ok sums ∧
      sums.mqDelta.toNat = ∑ i ∈ Finset.range (makerAccounts.toNat / 2), (incr (quoteLeaf leaves i)).toNat := by
    unfold bidMakers
    apply foldlM_range_total fun k (sums : MakerSums) =>
      sums.mqDelta.toNat = ∑ i ∈ Finset.range k, (incr (quoteLeaf leaves i)).toNat
    · rfl
    · intro k hk sums hsums
      obtain ⟨sums', hsums'⟩ := hmaker k hk sums hsums
      refine ⟨sums', hsums', ?_⟩
      rw [(bidMaker_eq_ok hsums').2.2.1, hsums, Finset.sum_range_succ]
  obtain ⟨sums, hsums, -⟩ := hloop
  exact ⟨sums, hsums⟩

end Loops

/-! ### Orders -/

/-- The first leaf passes the check on it. A bid has none. -/
def BookFound (side : Side) (base quote : U32) (leaves : List MerkleLeaf) : Prop :=
  side = .ask → (nth leaves 0).tryGetSymbol = .ok (base, quote)

/-- The first leaf of the taker passes the checks made before the second one is looked at. -/
structure TakerFound (side : Side) (base : U32) (makers : Nat) (dominator : AccountId)
    (leaves : List MerkleLeaf) (reserves : Reserves) : Prop where
  isAccount : ∃ account, (baseLeaf leaves makers).tryGetAccount = .ok account
  onRecord : hasAuthorizedExactlyOn (party leaves makers) base (baseLeaf leaves makers).splitOldToSum
    dominator reserves = true
  fits : side = .ask → volume (baseLeaf leaves makers).oldV < 2 ^ 128

/-- What has been cleared, as far as the fees go. -/
def feesOnly (baseFee quoteFee : U128) : ClearingResult where
  makers := []
  taker := ⟨default, 0, 0, 0, 0, 0⟩
  baseFee := baseFee
  quoteFee := quoteFee

/-- The accounts of an order, its fees and its sizes pass their checks. -/
def AccountsPass (side : Side) (cfg : Config) (amount : U128) (makerFee takerFee base quote : U32)
    (makers : Nat) (dominator : AccountId) (leaves : List MerkleLeaf) (reserves : Reserves) : Prop :=
  (∀ i, i ≤ makers → PartyBacked base quote dominator leaves reserves i) ∧
    match side with
    | .ask => (∃ cr, AskAmounts cfg makerFee takerFee makers leaves cr) ∧ AskBooked amount makers leaves
    | .bid => (∃ cr, BidAmounts cfg makerFee takerFee makers leaves cr) ∧ BidBooked amount makers leaves

/-- The two counts of an order make it look past its last leaf, and no check fails before it does. -/
structure Overruns (side : Side) (cfg : Config) (amount : U128) (makerFee takerFee base quote : U32)
    (makerAccounts pages : U8) (dominator : AccountId) (leaves : List MerkleLeaf) (reserves : Reserves) :
    Prop where
  length : leaves.length = (4 + makerAccounts + pages).toNat
  even : makerAccounts % 2 = 0
  wraps : 256 ≤ 4 + makerAccounts.toNat + pages.toNat
  reached : leaves.length = 0 ∨ BookFound side base quote leaves ∧
    (leaves.length ≤ makerAccounts.toNat + 1 ∨
      TakerFound side base (makerAccounts.toNat / 2) dominator leaves reserves ∧
        (leaves.length ≤ makerAccounts.toNat + 2 ∨
          AccountsPass side cfg amount makerFee takerFee base quote (makerAccounts.toNat / 2) dominator
            leaves reserves))

section Orders

variable {cfg : Config} {price amount : U128} {makerFee takerFee base quote : U32}
  {makerAccounts pages : U8} {dominator : AccountId} {leaves : List MerkleLeaf} {reserves : Reserves}

/-- The leaf of the best prices is missing exactly if the sum of the counts wraps around. -/
theorem wraps_iff (hlength : leaves.length = (4 + makerAccounts + pages).toNat) :
    256 ≤ 4 + makerAccounts.toNat + pages.toNat ↔ leaves.length ≤ makerAccounts.toNat + 3 := by
  have hm := makerAccounts.isLt
  have hp := pages.isLt
  have hsum : (4 + makerAccounts + pages).toNat = (4 + makerAccounts.toNat + pages.toNat) % 256 := by
    simp [BitVec.toNat_add]
  omega

theorem verifyAskLimit_eq_panic :
    verifyAskLimit cfg price amount makerFee takerFee base quote makerAccounts pages dominator leaves
      reserves = .error .panic ↔
    Overruns .ask cfg amount makerFee takerFee base quote makerAccounts pages dominator leaves reserves := by
  simp only [verifyAskLimit, bind_eq_error, ensureProof_ne_panic, leafAt_eq_panic, leafAt_eq_ok,
    tryGetAccount_ne_panic, tryGetSymbol_ne_panic, okOr_ne_panic, pure_ne_panic, false_or, Prod.exists,
    exists_const, ensureProof_eq_ok, okOr_eq_ok, checkedAdd_eq_some, checkedSub_eq_some, exists_and_left,
    and_assoc, exists_eq_left', and_false, or_false]
  constructor
  · rintro ⟨hlength, heven, h⟩
    refine ⟨hlength, heven, (wraps_iff hlength).mpr ?_, ?_⟩
    · rcases h with hzero | ⟨-, b, q, -, -, -, h⟩
      · omega
      rcases h with hfirst | ⟨-, bk, who, -, tb0, -, -, h⟩
      · omega
      rcases h with hsecond | ⟨hthere, qk, whoQ, -, -, tq1, -, tq0, -, tqDelta, -, -, -, -, -, -, h⟩
      · omega
      rcases h with hmakers | ⟨sums, -, -, -, hpages⟩
      · exact absurd hmakers (askMakers_ne_panic hthere)
      · exact (askPages_eq_panic fun hbest => length_eq hlength hbest).mp hpages
    · rw [nth_takerBase (even_eq heven), nth_takerQuote (even_eq heven)] at h
      rcases h with hzero | ⟨-, b, q, hsymbol, rfl, rfl, h⟩
      · exact .inl (Nat.le_zero.mp hzero)
      refine .inr ⟨fun _ => hsymbol, ?_⟩
      rcases h with hfirst | ⟨-, bk, who, hbase, tb0, htb0, honBase, h⟩
      · exact .inl hfirst
      obtain rfl : tb0 = (baseLeaf leaves (makerAccounts.toNat / 2)).splitOldToSum := eq_add_of_toNat_eq htb0
      obtain rfl := ownerOf_eq hbase
      refine .inr ⟨⟨⟨_, hbase⟩, honBase, fun _ => htb0.symm.trans_lt (BitVec.isLt _)⟩, ?_⟩
      rcases h with hsecond | ⟨hthere, qk, whoQ, hquote, honQuote, tq1, htq1, tq0, htq0, tqDelta, htqDelta,
        rfl, rfl, rfl, hrests, htraded, h⟩
      · exact .inl hsecond
      rcases h with hmakers | ⟨sums, hsums, hbaseSum, hquoteSum, -⟩
      · exact absurd hmakers (askMakers_ne_panic hthere)
      obtain ⟨hmakers, rfl⟩ := askMakers_eq_ok hsums
      obtain rfl : tq0 = (quoteLeaf leaves (makerAccounts.toNat / 2)).splitOldToSum := eq_add_of_toNat_eq htq0
      obtain rfl : tq1 = (quoteLeaf leaves (makerAccounts.toNat / 2)).splitNewToSum := eq_add_of_toNat_eq htq1
      obtain rfl : tqDelta = incr (quoteLeaf leaves (makerAccounts.toNat / 2)) := eq_sub_of_toNat_eq htqDelta
      refine .inr ⟨fun i hi => ?_, ⟨feesOnly
        (cfg.permillMulCeil makerFee (decr (baseLeaf leaves (makerAccounts.toNat / 2))))
        (cfg.permillMulCeil takerFee
          (∑ i ∈ Finset.range (makerAccounts.toNat / 2), decr (quoteLeaf leaves i))), ?_⟩, hrests, htraded⟩
      · rcases Nat.lt_or_eq_of_le hi with hlt | rfl
        · exact hmakers i hlt
        · exact taker_backed hbase hquote honBase honQuote
      · exact ⟨htb0.symm.trans_lt (BitVec.isLt _), htq0.symm.trans_lt (BitVec.isLt _),
          htq1.symm.trans_lt (BitVec.isLt _), by omega, hbaseSum, rfl, hquoteSum, rfl⟩
  · rintro ⟨hlength, heven, hwraps, h⟩
    have hmissing := (wraps_iff hlength).mp hwraps
    refine ⟨hlength, heven, ?_⟩
    rw [nth_takerBase (even_eq heven), nth_takerQuote (even_eq heven)]
    rcases h with hzero | ⟨hbook, h⟩
    · exact .inl (Nat.le_zero.mpr hzero)
    by_cases hpos : leaves.length ≤ 0
    · exact .inl hpos
    refine .inr ⟨Nat.lt_of_not_le hpos, _, _, hbook rfl, rfl, rfl, ?_⟩
    by_cases hfirst : leaves.length ≤ makerAccounts.toNat + 1
    · exact .inl hfirst
    obtain ⟨⟨⟨bk, who⟩, hbase⟩, honBase, hfits⟩ := (h.resolve_left hfirst).1
    refine .inr ⟨Nat.lt_of_not_le hfirst, bk, who, hbase, _, toNat_add_of_lt (hfits rfl),
      ownerOf_eq hbase ▸ honBase, ?_⟩
    by_cases hsecond : leaves.length ≤ makerAccounts.toNat + 2
    · exact .inl hsecond
    obtain ⟨hbacked, ⟨cr, hamounts⟩, hrests, htraded⟩ := (h.resolve_left hfirst).2.resolve_left hsecond
    have htaker := hbacked _ (Nat.le_refl _)
    obtain ⟨rfl, rfl⟩ := Prod.mk.inj (Except.ok.inj (htaker.base.key.symm.trans hbase))
    refine .inr ⟨Nat.lt_of_not_le hsecond, _, _, htaker.quote.key, htaker.quote.onRecord, _,
      toNat_add_of_lt hamounts.takerQuoteNew, _, toNat_add_of_lt hamounts.takerQuoteOld,
      incr (quoteLeaf leaves (makerAccounts.toNat / 2)), ?_, rfl, rfl, htaker.owner.symm, hrests, htraded, .inr ?_⟩
    · exact (congrArg (· + _) (toNat_sub_of_le hamounts.takerQuoteLe)).trans
        (Nat.sub_add_cancel hamounts.takerQuoteLe) |>.symm
    · obtain ⟨sums, hsums⟩ := askMakers_ok (Nat.lt_of_not_le hsecond) fun i hi => hbacked i (Nat.le_of_lt hi)
      refine ⟨sums, hsums, ?_⟩
      obtain ⟨-, rfl⟩ := askMakers_eq_ok hsums
      refine ⟨?_, ?_, (askPages_eq_panic fun hbest => length_eq hlength hbest).mpr hmissing⟩
      · exact hamounts.baseFee ▸ hamounts.base
      · exact hamounts.quoteFee ▸ hamounts.quote

theorem verifyBidLimit_eq_panic :
    verifyBidLimit cfg price amount makerFee takerFee base quote makerAccounts pages dominator leaves
      reserves = .error .panic ↔
    Overruns .bid cfg amount makerFee takerFee base quote makerAccounts pages dominator leaves reserves := by
  simp only [verifyBidLimit, bind_eq_error, ensureProof_ne_panic, leafAt_eq_panic, leafAt_eq_ok,
    tryGetAccount_ne_panic, okOr_ne_panic, pure_ne_panic, false_or, Prod.exists,
    exists_const, ensureProof_eq_ok, okOr_eq_ok, checkedAdd_eq_some, checkedSub_eq_some, exists_and_left,
    and_assoc, exists_eq_left', and_false, or_false]
  constructor
  · rintro ⟨hlength, heven, h⟩
    refine ⟨hlength, heven, (wraps_iff hlength).mpr ?_, ?_⟩
    · rcases h with hzero | ⟨-, h⟩
      · omega
      rcases h with hfirst | ⟨-, bk, who, -, -, h⟩
      · omega
      rcases h with hsecond | ⟨hthere, qk, whoQ, -, -, tq0, -, tq1, -, tqDelta, -, -, -, -, h⟩
      · omega
      rcases h with hmakers | ⟨sums, -, quoteSum, -, -, baseSum, -, -, -, -, tb1, -, tq1, -, hpages⟩
      · exact absurd hmakers (bidMakers_ne_panic hthere)
      · exact (bidPages_eq_panic fun hbest => length_eq hlength hbest).mp hpages
    · rw [nth_takerBase (even_eq heven), nth_takerQuote (even_eq heven)] at h
      rcases h with hzero | ⟨-, h⟩
      · exact .inl (Nat.le_zero.mp hzero)
      refine .inr ⟨fun h => absurd h (by decide), ?_⟩
      rcases h with hfirst | ⟨-, bk, who, hbase, honBase, h⟩
      · exact .inl hfirst
      obtain rfl := ownerOf_eq hbase
      refine .inr ⟨⟨⟨_, hbase⟩, honBase, fun h => absurd h (by decide)⟩, ?_⟩
      rcases h with hsecond | ⟨hthere, qk, whoQ, hquote, honQuote, tq0, htq0, tq1, htq1, tqDelta, htqDelta,
        rfl, rfl, rfl, h⟩
      · exact .inl hsecond
      rcases h with hmakers | ⟨sums, hsums, quoteSum, hquoteSum, rfl, baseSum, hbaseSum, hbase', htraded,
        hrests, tb1, htb1, tq1', -, -⟩
      · exact absurd hmakers (bidMakers_ne_panic hthere)
      obtain ⟨hmakers, hmakerLe, hmbDelta, hmqDelta, -⟩ := bidMakers_eq_ok hsums
      obtain rfl : tb1 = (baseLeaf leaves (makerAccounts.toNat / 2)).splitNewToSum := eq_add_of_toNat_eq htb1
      obtain rfl : tq0 = (quoteLeaf leaves (makerAccounts.toNat / 2)).splitOldToSum := eq_add_of_toNat_eq htq0
      obtain rfl : tq1 = (quoteLeaf leaves (makerAccounts.toNat / 2)).splitNewToSum := eq_add_of_toNat_eq htq1
      obtain rfl : quoteSum = decr (quoteLeaf leaves (makerAccounts.toNat / 2)) := eq_sub_of_toNat_eq htqDelta
      refine .inr ⟨fun i hi => ?_, ⟨feesOnly
        (cfg.permillMulCeil takerFee
          (∑ i ∈ Finset.range (makerAccounts.toNat / 2), decr (baseLeaf leaves i)))
        (cfg.permillMulCeil makerFee (decr (quoteLeaf leaves (makerAccounts.toNat / 2)))), ?_⟩, ?_⟩
      · rcases Nat.lt_or_eq_of_le hi with hlt | rfl
        · exact hmakers i hlt
        · exact taker_backed hbase hquote honBase honQuote
      · rw [hmbDelta] at hbaseSum
        rw [hmqDelta] at hquoteSum
        exact ⟨htb1.symm.trans_lt (BitVec.isLt _), htq0.symm.trans_lt (BitVec.isLt _),
          htq1.symm.trans_lt (BitVec.isLt _), by omega, hmakerLe, hquoteSum.symm, rfl,
          hbaseSum.symm.trans (congrArg BitVec.toNat (hbase'.trans hmbDelta)), rfl⟩
      · rw [hmbDelta] at htraded hrests
        exact ⟨htraded, hrests⟩
  · rintro ⟨hlength, heven, hwraps, h⟩
    have hmissing := (wraps_iff hlength).mp hwraps
    refine ⟨hlength, heven, ?_⟩
    rw [nth_takerBase (even_eq heven), nth_takerQuote (even_eq heven)]
    rcases h with hzero | ⟨-, h⟩
    · exact .inl (Nat.le_zero.mpr hzero)
    by_cases hpos : leaves.length ≤ 0
    · exact .inl hpos
    refine .inr ⟨Nat.lt_of_not_le hpos, ?_⟩
    by_cases hfirst : leaves.length ≤ makerAccounts.toNat + 1
    · exact .inl hfirst
    obtain ⟨⟨⟨bk, who⟩, hbase⟩, honBase, -⟩ := (h.resolve_left hfirst).1
    refine .inr ⟨Nat.lt_of_not_le hfirst, bk, who, hbase, ownerOf_eq hbase ▸ honBase, ?_⟩
    by_cases hsecond : leaves.length ≤ makerAccounts.toNat + 2
    · exact .inl hsecond
    obtain ⟨hbacked, ⟨cr, hamounts⟩, htraded, hrests⟩ := (h.resolve_left hfirst).2.resolve_left hsecond
    have htaker := hbacked _ (Nat.le_refl _)
    obtain ⟨rfl, rfl⟩ := Prod.mk.inj (Except.ok.inj (htaker.base.key.symm.trans hbase))
    refine .inr ⟨Nat.lt_of_not_le hsecond, _, _, htaker.quote.key, htaker.quote.onRecord, _,
      toNat_add_of_lt hamounts.takerQuoteOld, _, toNat_add_of_lt hamounts.takerQuoteNew,
      decr (quoteLeaf leaves (makerAccounts.toNat / 2)), ?_, rfl, rfl, htaker.owner.symm, .inr ?_⟩
    · exact (congrArg (· + _) (toNat_sub_of_le hamounts.takerQuoteLe)).trans
        (Nat.sub_add_cancel hamounts.takerQuoteLe) |>.symm
    · have hquote := hamounts.quote
      have hlt := (decr (quoteLeaf leaves (makerAccounts.toNat / 2))).isLt
      obtain ⟨sums, hsums⟩ := bidMakers_ok (Nat.lt_of_not_le hsecond)
        (fun i hi => hbacked i (Nat.le_of_lt hi)) hamounts.makerQuoteLe (by omega)
      obtain ⟨-, -, hmbDelta, hmqDelta, -⟩ := bidMakers_eq_ok hsums
      refine ⟨sums, hsums, _, ?_, rfl, _, ?_, rfl, ?_, ?_, _, toNat_add_of_lt hamounts.takerBaseNew, _,
        toNat_add_of_lt hamounts.takerQuoteNew, (bidPages_eq_panic fun hbest => length_eq hlength hbest).mpr hmissing⟩
      · rw [hmqDelta]
        exact (hamounts.quoteFee ▸ hquote).symm
      · rw [hmbDelta]
        exact (hamounts.baseFee ▸ hamounts.base).symm
      · exact hmbDelta ▸ htraded
      · exact hmbDelta ▸ hrests

theorem verifyLimit_eq_panic {side : Side} :
    verifyLimit cfg price amount makerFee takerFee base quote makerAccounts pages dominator leaves reserves
      side = .error .panic ↔
    Overruns side cfg amount makerFee takerFee base quote makerAccounts pages dominator leaves reserves := by
  cases side with
  | ask => exact verifyAskLimit_eq_panic
  | bid => exact verifyBidLimit_eq_panic

end Orders

/-! ### Cancellations and transfers -/

section Others

variable {base quote currency : U32} {amount : U128} {account : AccountId} {leaves : List MerkleLeaf}

theorem verifyCancel_ne_panic : verifyCancel base quote account leaves ≠ .error .panic := by
  intro h
  simp only [verifyCancel, bind_eq_error, ensureProof_ne_panic, leafAt_eq_panic, tryGetAccount_ne_panic,
    tryGetSymbol_ne_panic, tryGetOrderpage_ne_panic, false_or, exists_const, ensureProof_eq_ok] at h
  obtain ⟨hlength, h⟩ := h
  simp only [hlength, Nat.reduceLeDiff, false_or] at h
  obtain ⟨_, -, _, -, -, -, -, _, -, _, -, -, -, -, _, -, _, -, -, -, -, best, -, page, -, at_, -, -, h⟩ := h
  split at h <;>
    simp only [bind_eq_error, ensureProof_ne_panic, pure_ne_panic, and_false, exists_false, or_false] at h

theorem verifyTransferIn_ne_panic : verifyTransferIn currency amount account leaves ≠ .error .panic := by
  intro h
  simp only [verifyTransferIn, bind_eq_error, ensureProof_ne_panic, leafAt_eq_panic, tryGetAccount_ne_panic,
    false_or, exists_const, ensureProof_eq_ok] at h
  obtain ⟨hlength, h⟩ := h
  simp [hlength] at h

theorem verifyTransferOut_ne_panic : verifyTransferOut currency amount account leaves ≠ .error .panic := by
  intro h
  simp only [verifyTransferOut, bind_eq_error, ensureProof_ne_panic, leafAt_eq_panic, tryGetAccount_ne_panic,
    false_or, exists_const, ensureProof_eq_ok] at h
  obtain ⟨hlength, h⟩ := h
  simp [hlength] at h

theorem verifyRejectTransferOut_ne_panic :
    verifyRejectTransferOut currency amount account leaves ≠ .error .panic := by
  intro h
  simp only [verifyRejectTransferOut, bind_eq_error, ensureProof_ne_panic, leafAt_eq_panic,
    tryGetAccount_ne_panic, false_or, exists_const, ensureProof_eq_ok] at h
  obtain ⟨hlength, h⟩ := h
  simp [hlength] at h

end Others

/-! ### Proofs -/

/-- What the leaves of a proof have to pass. -/
def verifyLeaves (cfg : Config) (dominator : AccountId) (reserves : Reserves) (proof : ProofV2) :
    Result Unit :=
  match proof.cmd with
  | .askLimit price amount makerFee takerFee base quote _ => do
      let _ ← verifyLimit cfg price amount makerFee takerFee base quote proof.makerAccountDelta
        proof.makerPageDelta dominator proof.leaves reserves .ask
      return ()
  | .bidLimit price amount makerFee takerFee base quote _ => do
      let _ ← verifyLimit cfg price amount makerFee takerFee base quote proof.makerAccountDelta
        proof.makerPageDelta dominator proof.leaves reserves .bid
      return ()
  | .cancel base quote => do
      let _ ← verifyCancel base quote proof.userId proof.leaves
      return ()
  | .transferOut currency amount => verifyTransferOut currency amount proof.userId proof.leaves
  | .transferIn currency amount => verifyTransferIn currency amount proof.userId proof.leaves
  | .rejectTransferOut currency amount =>
      verifyRejectTransferOut currency amount proof.userId proof.leaves
  | .rejectTransferIn => .ok ()

/-- The counts of a proof of an order make it look past its last leaf. -/
def ProofOverruns (cfg : Config) (dominator : AccountId) (reserves : Reserves) (proof : ProofV2) : Prop :=
  match proof.cmd with
  | .askLimit _ amount makerFee takerFee base quote _ =>
      Overruns .ask cfg amount makerFee takerFee base quote proof.makerAccountDelta proof.makerPageDelta
        dominator proof.leaves reserves
  | .bidLimit _ amount makerFee takerFee base quote _ =>
      Overruns .bid cfg amount makerFee takerFee base quote proof.makerAccountDelta proof.makerPageDelta
        dominator proof.leaves reserves
  | _ => False

/-- No proof makes the pallet panic but one whose counts overrun its leaves. -/
theorem verifyLeaves_defined_iff (cfg : Config) (dominator : AccountId) (reserves : Reserves)
    (proof : ProofV2) :
    verifyLeaves cfg dominator reserves proof ≠ .error .panic ↔
      ¬ ProofOverruns cfg dominator reserves proof := by
  apply not_congr
  unfold verifyLeaves ProofOverruns
  cases proof.cmd <;>
    simp only [bind_eq_error, verifyLimit_eq_panic, verifyCancel_ne_panic, verifyTransferOut_ne_panic,
      verifyTransferIn_ne_panic, verifyRejectTransferOut_ne_panic, pure_ne_panic, and_false, exists_false, or_false,
      reduceCtorEq]

/-- An ask with the leaf of its order book and counts of `250` and `3`. -/
def overrunProof : ProofV2 where
  eventId := 1
  userId := Token.alice
  cmd := .askLimit 10 1 0 0 1 2 none
  leaves := [leafFrom (keyOfOrderbook (1, 2)) (0, 0) (0, 0)]
  makerPageDelta := 3
  makerAccountDelta := 250
  merkleProof := []
  root := emptyRoot

theorem overrun_panics :
    verifyLeaves (plainConfig []) operator (fun _ => none) overrunProof = .error .panic := by
  decide +kernel

end Fusotao.Verifier
