import Fusotao.Base.Totals
import Fusotao.Verifier.Cancelled
import Fusotao.Verifier.Conservation

/-!
# What an order takes from whom

Whoever takes part in a trade should give of one token and get of the other. The checks add up what the makers gain
and give in words, one wrapping subtraction for each, and compare the totals. One maker's loss hides behind another's
gain, and a loss of all of them behind a total that wraps.
-/

namespace Fusotao.Verifier

open Exec Word MerkleLeaf

open scoped BigOperators

/-! ### Who gives and who gets -/

/-- The owner of the two leaves gives of the one token, if anything, and gets of the other. -/
structure Exchanges (gives gets : MerkleLeaf) : Prop where
  gives : volume gives.newV ≤ volume gives.oldV
  gets : volume gets.oldV ≤ volume gets.newV

/-- Every party of an order gives of the token it sells and gets of the one it buys. -/
def FairTrade (side : Side) (makers : Nat) (leaves : List MerkleLeaf) : Prop :=
  match side with
  | .ask => (∀ i, i < makers → Exchanges (quoteLeaf leaves i) (baseLeaf leaves i)) ∧
      Exchanges (baseLeaf leaves makers) (quoteLeaf leaves makers)
  | .bid => (∀ i, i < makers → Exchanges (baseLeaf leaves i) (quoteLeaf leaves i)) ∧
      Exchanges (quoteLeaf leaves makers) (baseLeaf leaves makers)

/-! ### Totals and signs

The checks know a total up to a multiple of `2 ^ 128`, and nothing of how it is made up. -/

def volumeBefore (leaf : Nat → MerkleLeaf) (n : Nat) : Nat := ∑ i ∈ Finset.range n, volume (leaf i).oldV

def volumeAfter (leaf : Nat → MerkleLeaf) (n : Nat) : Nat := ∑ i ∈ Finset.range n, volume (leaf i).newV

/-- The makers either all give of a token or all get of it. -/
def OneWay (leaf : Nat → MerkleLeaf) (makers : Nat) : Prop :=
  Totals.Aligned (Finset.range makers) (fun i => volume (leaf i).oldV) fun i => volume (leaf i).newV

/-- No maker moves against the others, and what the makers and the taker have together stays in range. -/
structure InRange (gives gets : Nat → MerkleLeaf) (makers : Nat) : Prop where
  givesOneWay : OneWay gives makers
  getsOneWay : OneWay gets makers
  /-- Of what the taker gives, less is lost than a word holds. -/
  givesTotal : volumeBefore gives (makers + 1) < volumeAfter gives (makers + 1) + 2 ^ 128
  /-- Of what the taker gets, nothing is gained. -/
  getsTotal : volumeAfter gets (makers + 1) ≤ volumeBefore gets (makers + 1)

/-- What the bids of the order book fall by, and the asks, each as a word. -/
def bidsTaken (leaves : List MerkleLeaf) : U128 :=
  (nth leaves 0).splitOldToU128.2 - (nth leaves 0).splitNewToU128.2

def asksTaken (leaves : List MerkleLeaf) : U128 :=
  (nth leaves 0).splitOldToU128.1 - (nth leaves 0).splitNewToU128.1

/-- The totals of an order stay in range, and the book takes no more from the taker of an ask than it has of the base
token, and gives no more to the taker of a bid than it has afterwards, the fee apart. -/
def TradeInRange (cfg : Config) (takerFee : U32) (side : Side) (makers : Nat) (leaves : List MerkleLeaf) : Prop :=
  match side with
  | .ask => InRange (baseLeaf leaves) (quoteLeaf leaves) makers ∧ volume (baseLeaf leaves makers).newV < 2 ^ 128 ∧
      (bidsTaken leaves).toNat ≤ volume (baseLeaf leaves makers).oldV
  | .bid => InRange (quoteLeaf leaves) (baseLeaf leaves) makers ∧ volume (baseLeaf leaves makers).oldV < 2 ^ 128 ∧
      (asksTaken leaves).toNat ≤
        volume (baseLeaf leaves makers).newV + (cfg.permillMulCeil takerFee (asksTaken leaves)).toNat

theorem volumeBefore_succ (leaf : Nat → MerkleLeaf) (n : Nat) :
    volumeBefore leaf (n + 1) = volumeBefore leaf n + volume (leaf n).oldV := Finset.sum_range_succ ..

theorem volumeAfter_succ (leaf : Nat → MerkleLeaf) (n : Nat) :
    volumeAfter leaf (n + 1) = volumeAfter leaf n + volume (leaf n).newV := Finset.sum_range_succ ..

theorem oneWay_and_le_iff {leaf : Nat → MerkleLeaf} {n : Nat} :
    OneWay leaf n ∧ volumeBefore leaf n ≤ volumeAfter leaf n ↔
      ∀ i, i < n → volume (leaf i).oldV ≤ volume (leaf i).newV := by
  simpa only [Finset.mem_range, OneWay, volumeBefore, volumeAfter] using
    Totals.aligned_and_sum_le_iff (s := Finset.range n) (f := fun i => volume (leaf i).oldV)
      (g := fun i => volume (leaf i).newV)

theorem oneWay_and_ge_iff {leaf : Nat → MerkleLeaf} {n : Nat} :
    OneWay leaf n ∧ volumeAfter leaf n ≤ volumeBefore leaf n ↔
      ∀ i, i < n → volume (leaf i).newV ≤ volume (leaf i).oldV := by
  have hcomm : OneWay leaf n ↔ Totals.Aligned (Finset.range n) (fun i => volume (leaf i).newV)
      fun i => volume (leaf i).oldV := ⟨Totals.Aligned.symm, Totals.Aligned.symm⟩
  simpa only [Finset.mem_range, hcomm, volumeBefore, volumeAfter] using
    Totals.aligned_and_sum_le_iff (s := Finset.range n) (f := fun i => volume (leaf i).newV)
      (g := fun i => volume (leaf i).oldV)

/-- What the sum of the gains says of the totals. -/
theorem sum_incr_mod (leaf : Nat → MerkleLeaf) (n : Nat) :
    ((∑ i ∈ Finset.range n, incr (leaf i)).toNat + volumeBefore leaf n) % 2 ^ 128 = volumeAfter leaf n % 2 ^ 128 := by
  refine toNat_add_mod ?_
  rw [volumeAfter, volumeBefore, ofNat_sum, ofNat_sum, ← Finset.sum_sub_distrib]
  exact Finset.sum_congr rfl fun i _ => incr_eq _

theorem sum_decr_mod (leaf : Nat → MerkleLeaf) (n : Nat) :
    ((∑ i ∈ Finset.range n, decr (leaf i)).toNat + volumeAfter leaf n) % 2 ^ 128 = volumeBefore leaf n % 2 ^ 128 := by
  refine toNat_add_mod ?_
  rw [volumeAfter, volumeBefore, ofNat_sum, ofNat_sum, ← Finset.sum_sub_distrib]
  exact Finset.sum_congr rfl fun i _ => decr_eq _

section Orders

variable {cfg : Config} {side : Side} {price amount : U128} {makerFee takerFee base quote : U32}
  {broker : Option AccountId} {makers : Nat} {makerAccounts pages : U8} {dominatorId beneficiary : AccountId}
  {leaves : List MerkleLeaf} {reserves : Reserves} {cr : ClearingResult} {season : Season} {proof : ProofV2}
  {s s' : State cfg} {trade : Trade}

/-- The taker of an ask gets quote tokens; that is checked over the naturals. -/
theorem AskAmounts.taker_gets (h : AskAmounts cfg makerFee takerFee makers leaves cr) :
    volume (quoteLeaf leaves makers).oldV ≤ volume (quoteLeaf leaves makers).newV := by
  have hle := h.takerQuoteLe
  rwa [splitOldToSum_toNat, splitNewToSum_toNat, Nat.mod_eq_of_lt h.takerQuoteOld,
    Nat.mod_eq_of_lt h.takerQuoteNew] at hle

theorem BidAmounts.taker_gives (h : BidAmounts cfg makerFee takerFee makers leaves cr) :
    volume (quoteLeaf leaves makers).newV ≤ volume (quoteLeaf leaves makers).oldV := by
  have hle := h.takerQuoteLe
  rwa [splitOldToSum_toNat, splitNewToSum_toNat, Nat.mod_eq_of_lt h.takerQuoteOld,
    Nat.mod_eq_of_lt h.takerQuoteNew] at hle

/-- The base token of an ask, which the taker gives. -/
theorem AskAmounts.base_iff (hceil : ∀ parts x, (cfg.permillMulCeil parts x).toNat ≤ x.toNat)
    (h : AskAmounts cfg makerFee takerFee makers leaves cr) (hbooked : AskBooked amount makers leaves) :
    (volumeBefore (baseLeaf leaves) makers ≤ volumeAfter (baseLeaf leaves) makers ∧
        volume (baseLeaf leaves makers).newV ≤ volume (baseLeaf leaves makers).oldV) ↔
      volumeBefore (baseLeaf leaves) (makers + 1) < volumeAfter (baseLeaf leaves) (makers + 1) + 2 ^ 128 ∧
        volume (baseLeaf leaves makers).newV < 2 ^ 128 ∧
        (bidsTaken leaves).toNat ≤ volume (baseLeaf leaves makers).oldV := by
  have hgain := sum_incr_mod (baseLeaf leaves) makers
  have htaker := toNat_add_mod (decr_eq (baseLeaf leaves makers))
  have hsum := congrArg BitVec.toNat h.base
  rw [BitVec.toNat_add] at hsum
  have hfee := hceil makerFee (decr (baseLeaf leaves makers))
  rw [← h.baseFee] at hfee
  have hold := h.takerBaseOld
  have hbids : bidsTaken leaves = decr (baseLeaf leaves makers) := hbooked.traded
  have hlt := (decr (baseLeaf leaves makers)).isLt
  have hlt' := (∑ i ∈ Finset.range makers, incr (baseLeaf leaves i)).isLt
  rw [volumeBefore_succ, volumeAfter_succ, hbids]
  omega

/-- The quote token of an ask, which the taker gets. -/
theorem AskAmounts.quote_iff (hceil : ∀ parts x, (cfg.permillMulCeil parts x).toNat ≤ x.toNat)
    (h : AskAmounts cfg makerFee takerFee makers leaves cr) :
    volumeAfter (quoteLeaf leaves) makers ≤ volumeBefore (quoteLeaf leaves) makers ↔
      volumeAfter (quoteLeaf leaves) (makers + 1) ≤ volumeBefore (quoteLeaf leaves) (makers + 1) := by
  have hgiven := sum_decr_mod (quoteLeaf leaves) makers
  have htaker := toNat_add_mod (incr_eq (quoteLeaf leaves makers))
  have hgets := h.taker_gets
  have hsum := congrArg BitVec.toNat h.quote
  rw [BitVec.toNat_add] at hsum
  have hfee := hceil takerFee (∑ i ∈ Finset.range makers, decr (quoteLeaf leaves i))
  rw [← h.quoteFee] at hfee
  have hold := h.takerQuoteOld
  have hnew := h.takerQuoteNew
  have hlt := (incr (quoteLeaf leaves makers)).isLt
  have hlt' := (∑ i ∈ Finset.range makers, decr (quoteLeaf leaves i)).isLt
  rw [volumeBefore_succ, volumeAfter_succ]
  omega

/-- The quote token of a bid, which the taker gives. -/
theorem BidAmounts.quote_iff (h : BidAmounts cfg makerFee takerFee makers leaves cr) :
    volumeBefore (quoteLeaf leaves) makers ≤ volumeAfter (quoteLeaf leaves) makers ↔
      volumeBefore (quoteLeaf leaves) (makers + 1) < volumeAfter (quoteLeaf leaves) (makers + 1) + 2 ^ 128 := by
  have hgain := sum_incr_mod (quoteLeaf leaves) makers
  have htaker := toNat_add_mod (decr_eq (quoteLeaf leaves makers))
  have hgives := h.taker_gives
  have hsum := h.quote
  have hwords : (∑ i ∈ Finset.range makers, incr (quoteLeaf leaves i)).toNat =
      (∑ i ∈ Finset.range makers, (incr (quoteLeaf leaves i)).toNat) % 2 ^ 128 := by
    exact_mod_cast int_sum (Finset.range makers) fun i => incr (quoteLeaf leaves i)
  have hold := h.takerQuoteOld
  have hnew := h.takerQuoteNew
  have hlt := (decr (quoteLeaf leaves makers)).isLt
  rw [volumeBefore_succ, volumeAfter_succ]
  omega

/-- The base token of a bid, which the taker gets. -/
theorem BidAmounts.base_iff (h : BidAmounts cfg makerFee takerFee makers leaves cr)
    (hbooked : BidBooked amount makers leaves) :
    (volumeAfter (baseLeaf leaves) makers ≤ volumeBefore (baseLeaf leaves) makers ∧
        volume (baseLeaf leaves makers).oldV ≤ volume (baseLeaf leaves makers).newV) ↔
      volumeAfter (baseLeaf leaves) (makers + 1) ≤ volumeBefore (baseLeaf leaves) (makers + 1) ∧
        volume (baseLeaf leaves makers).oldV < 2 ^ 128 ∧ (asksTaken leaves).toNat ≤
          volume (baseLeaf leaves makers).newV + (cfg.permillMulCeil takerFee (asksTaken leaves)).toNat := by
  have hgiven := sum_decr_mod (baseLeaf leaves) makers
  have htaker := toNat_add_mod (incr_eq (baseLeaf leaves makers))
  have hsum := h.base
  have hasks : asksTaken leaves = ∑ i ∈ Finset.range makers, decr (baseLeaf leaves i) := hbooked.traded
  have hnew := h.takerBaseNew
  have hlt := (incr (baseLeaf leaves makers)).isLt
  have hlt' := (∑ i ∈ Finset.range makers, decr (baseLeaf leaves i)).isLt
  rw [volumeBefore_succ, volumeAfter_succ, hasks, ← h.baseFee]
  omega

theorem verifyLimit_fairTrade_iff (hceil : ∀ parts x, (cfg.permillMulCeil parts x).toNat ≤ x.toNat)
    (h : verifyLimit cfg price amount makerFee takerFee base quote makerAccounts pages dominatorId leaves
      reserves side = .ok cr) :
    FairTrade side (makerAccounts.toNat / 2) leaves ↔
      TradeInRange cfg takerFee side (makerAccounts.toNat / 2) leaves := by
  cases side with
  | ask =>
      have hamounts := (verifyAskLimit_eq_ok h).2.1
      have hbase := hamounts.base_iff hceil (verifyAskLimit_booked h)
      have hquote := hamounts.quote_iff hceil
      constructor
      · rintro ⟨hmakers, htaker⟩
        obtain ⟨hway, hle⟩ := oneWay_and_le_iff.mpr fun i hi => (hmakers i hi).gets
        obtain ⟨hway', hge⟩ := oneWay_and_ge_iff.mpr fun i hi => (hmakers i hi).gives
        obtain ⟨htotal, hrest⟩ := hbase.mp ⟨hle, htaker.gives⟩
        exact ⟨⟨hway, hway', htotal, hquote.mp hge⟩, hrest⟩
      · rintro ⟨hrange, hrest⟩
        obtain ⟨hle, hgives⟩ := hbase.mpr ⟨hrange.givesTotal, hrest⟩
        have hgets := oneWay_and_le_iff.mp ⟨hrange.givesOneWay, hle⟩
        have hpays := oneWay_and_ge_iff.mp ⟨hrange.getsOneWay, hquote.mpr hrange.getsTotal⟩
        exact ⟨fun i hi => ⟨hpays i hi, hgets i hi⟩, hgives, hamounts.taker_gets⟩
  | bid =>
      have hamounts := (verifyBidLimit_eq_ok h).2.1
      have hbase := hamounts.base_iff (verifyBidLimit_booked h)
      have hquote := hamounts.quote_iff
      constructor
      · rintro ⟨hmakers, htaker⟩
        obtain ⟨hway, hle⟩ := oneWay_and_le_iff.mpr fun i hi => (hmakers i hi).gets
        obtain ⟨hway', hge⟩ := oneWay_and_ge_iff.mpr fun i hi => (hmakers i hi).gives
        obtain ⟨htotal, hrest⟩ := hbase.mp ⟨hge, htaker.gets⟩
        exact ⟨⟨hway, hway', hquote.mp hle, htotal⟩, hrest⟩
      · rintro ⟨hrange, hrest⟩
        obtain ⟨hge, hgets⟩ := hbase.mpr ⟨hrange.getsTotal, hrest⟩
        have hpaid := oneWay_and_le_iff.mp ⟨hrange.givesOneWay, hquote.mpr hrange.givesTotal⟩
        have hgives := oneWay_and_ge_iff.mp ⟨hrange.getsOneWay, hge⟩
        exact ⟨fun i hi => ⟨hgives i hi, hpaid i hi⟩, hamounts.taker_gives, hgets⟩

/-- An accepted order takes from each party what it should exactly if no maker moves against the others and the
totals stay in range. -/
theorem accepted_fairTrade_iff {dispatch : cfg.Call → Origin → State cfg → Result (State cfg)}
    (hceil : ∀ parts x, (cfg.permillMulCeil parts x).toNat ≤ x.toNat) {knownRoot : MerkleHash} {claimAt : BlockNumber}
    (hcmd : proof.cmd = side.limit price amount makerFee takerFee base quote broker)
    (h : verifyAndUpdate dispatch dominatorId beneficiary knownRoot claimAt proof s = .ok (trade, s')) :
    FairTrade side (proof.makerAccountDelta.toNat / 2) proof.leaves ↔
      TradeInRange cfg takerFee side (proof.makerAccountDelta.toNat / 2) proof.leaves := by
  obtain ⟨mid, hmid, -⟩ := verifyAndUpdate_limit hcmd h
  simp only [applyLimit, bind_eq_ok] at hmid
  obtain ⟨-, -, -, -, cr, hcr, -⟩ := hmid
  exact verifyLimit_fairTrade_iff hceil hcr

end Orders

/-! ### An ask that takes from a maker

Nothing is traded: the taker has no balance before and after. Of the two makers, one loses five units of the base
token and the other one gets them. -/

def theftLeaves : List MerkleLeaf := [
  leafFrom (keyOfOrderbook (0, 1)) (0, 0) (0, 0),
  leafFrom (keyOfAccount 0 bob) (5, 0) (0, 0),
  leafFrom (keyOfAccount 1 bob) (0, 0) (0, 0),
  leafFrom (keyOfAccount 0 carol) (0, 0) (5, 0),
  leafFrom (keyOfAccount 1 carol) (0, 0) (0, 0),
  leafFrom (keyOfAccount 0 Token.alice) (0, 0) (0, 0),
  leafFrom (keyOfAccount 1 Token.alice) (0, 0) (0, 0),
  leafFrom (keyOfBestprice (0, 1)) (0, 0) (0, 0)]

/-- The root of the tree where the one maker has the five units. -/
def ownedRoot : MerkleHash := List.Vector.replicate 32 7

def stolenRoot : MerkleHash := List.Vector.replicate 32 8

def theftListings : List Listing :=
  [⟨ownedRoot, [(keyOfAccount 0 bob, halves 5 0)]⟩, ⟨stolenRoot, [(keyOfAccount 0 carol, halves 5 0)]⟩]

def theftProof : ProofV2 :=
  { proofOf theftListings ownedRoot stolenRoot Token.alice (Side.ask.limit 1 0 0 0 0 1 none) theftLeaves with
    makerAccountDelta := 4 }

/-- Token `1` is stable, the one maker has authorised five units, and `operator` is an active dominator. -/
def theftState : State (plainConfig theftListings) := {
  State.genesis
    { Token.State.genesis (fun _ => (0, 0)) with
      tokens := StorageMap.insert (fun _ => none) 1 (Token.unitToken.setStable true) } () with
  reserves := StorageMap.insert (fun _ => none) ((.authorizing, bob, 0), operator) 5
  dominators := AList.insert operator
    { name := [100, 101, 120], staked := 1, merkleRoot := ownedRoot, startFrom := 0, sequence := (0, 0),
      status := .active } ∅ }

theorem verifyAndUpdate_theft : ∃ trade s',
    verifyAndUpdate (dispatch 0) operator operator ownedRoot 0 theftProof theftState = .ok (trade, s') := by
  obtain ⟨⟨trade, s'⟩, h⟩ := exists_of_isOk (x :=
    verifyAndUpdate (dispatch 0) operator operator ownedRoot 0 theftProof theftState) (by decide +kernel)
  exact ⟨trade, s', h⟩

theorem accepted_fairTrade_iff_mint : ∃ trade s',
    verifyAndUpdate (dispatch 0) operator operator emptyRoot 0 mintProof mintState = .ok (trade, s') ∧
      (FairTrade .ask 2 mintLeaves ↔ TradeInRange mintConfig 0 .ask 2 mintLeaves) := by
  obtain ⟨trade, s', h⟩ := verifyAndUpdate_mint
  exact ⟨trade, s', h, accepted_fairTrade_iff (plainConfig_lawful _).permillMulCeil_le
    (show mintProof.cmd = Side.ask.limit 1 0 0 0 0 1 none from rfl) h⟩

/-- The order is accepted, and a maker of an ask has less of the base token. -/
theorem ask_takes_from_maker : ∃ trade s',
    verifyAndUpdate (dispatch 0) operator operator ownedRoot 0 theftProof theftState = .ok (trade, s') ∧
      ¬ FairTrade .ask 2 theftLeaves := by
  obtain ⟨trade, s', h⟩ := verifyAndUpdate_theft
  refine ⟨trade, s', h, fun hfair => ?_⟩
  exact absurd (hfair.1 0 (by decide)).gets (by decide +kernel)

end Fusotao.Verifier
