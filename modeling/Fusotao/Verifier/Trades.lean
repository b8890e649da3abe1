import Fusotao.Verifier.Accepted
import Fusotao.Verifier.LimitPrice
import Fusotao.Verifier.Moves

/-!
# What is traded

An order trades what its leaves say: the taker gives what there is less of in its accounts, and the makers what there
is less of in theirs. A batch adds up what its orders trade, token by token, and each order fills the orders of its
makers.
-/

namespace Fusotao.Verifier

open Exec Word MerkleLeaf
open scoped BigOperators

variable {cfg : Config} {s s' : State cfg} {d beneficiary : AccountId} {proof : ProofV2}

/-! ### One order -/

/-- The base and the quote that change hands. The seller is the taker of an ask, and the makers of a bid. -/
def Side.traded (side : Side) (makers : Nat) (leaves : List MerkleLeaf) : U128 × U128 :=
  match side with
  | .ask => (decr (baseLeaf leaves makers), ∑ i ∈ Finset.range makers, decr (quoteLeaf leaves i))
  | .bid => (∑ i ∈ Finset.range makers, decr (baseLeaf leaves i), decr (quoteLeaf leaves makers))

/-- What a proof trades, which is nothing but if it is one of an order. -/
def ProofV2.trade (proof : ProofV2) : Trade :=
  let amounts (side : Side) := side.traded (proof.makerAccountDelta.toNat / 2) proof.leaves
  match proof.cmd with
  | .askLimit _ _ _ _ base _ _ =>
      { tokenId := base, root := proof.root, amount := (amounts .ask).1, vol := (amounts .ask).2 }
  | .bidLimit _ _ _ _ base _ _ =>
      { tokenId := base, root := proof.root, amount := (amounts .bid).1, vol := (amounts .bid).2 }
  | _ => { tokenId := 0, root := proof.root, amount := 0, vol := 0 }

/-- The volume of its order that a maker had filled. -/
structure Fill where
  maker : AccountId
  vol : U128
  deriving DecidableEq

/-- The makers of an ask give the quote, and those of a bid get it. -/
def Side.fill (side : Side) (leaves : List MerkleLeaf) (i : Nat) : Fill :=
  match side with
  | .ask => ⟨party leaves i, decr (quoteLeaf leaves i)⟩
  | .bid => ⟨party leaves i, incr (quoteLeaf leaves i)⟩

/-- What a proof fills, which is nothing but if it is one of an order. -/
def ProofV2.fills (proof : ProofV2) : List Fill :=
  let makers (side : Side) := (List.range (proof.makerAccountDelta.toNat / 2)).map (side.fill proof.leaves)
  match proof.cmd with
  | .askLimit _ _ _ _ _ _ _ => makers .ask
  | .bidLimit _ _ _ _ _ _ _ => makers .bid
  | _ => []

/-- What the proofs that were applied have filled. -/
def fillsOf {Callback : Type} (history : List (Entry Callback)) : List Fill :=
  history.flatMap fun e => match e with
    | .applied _ _ proof _ => proof.fills
    | _ => []

def MakerMutation.fill (maker : MakerMutation) : Fill := ⟨maker.who, maker.filledVolume⟩

theorem fillsOf_append {Callback : Type} (history entries : List (Entry Callback)) :
    fillsOf (history ++ entries) = fillsOf history ++ fillsOf entries := List.flatMap_append

section Order

variable {price amount : U128} {makerFee takerFee base quote : U32} {broker : Option AccountId}
  {makerAccounts pages : U8} {leaves : List MerkleLeaf} {reserves : Reserves} {cr : ClearingResult} {season : Season}
  {trade : Trade}

theorem verifyAskLimit_traded
    (h : verifyAskLimit cfg price amount makerFee takerFee base quote makerAccounts pages d leaves reserves = .ok cr) :
    (cr.taker.filledAmount, cr.taker.filledVolume) = Side.ask.traded (makerAccounts.toNat / 2) leaves ∧
      cr.makers.map MakerMutation.fill = (List.range (makerAccounts.toNat / 2)).map (Side.ask.fill leaves) := by
  simp only [verifyAskLimit, bind_eq_ok, ensureProof_eq_ok, pure_eq_ok, leafAt_eq_ok, Prod.exists, exists_const] at h
  obtain ⟨-, heven, leaf0, -, b, q, -, -, tb, ⟨-, rfl⟩, bk, who, -, tb0, -, -, tq, -, qk, whoQ, -, -, tq1, -, tq0, -,
    tqDelta, -, -, -, -, -, sums, hsums, -, -, u, -, rfl⟩ := h
  obtain ⟨-, rfl⟩ := askMakers_eq_ok hsums
  rw [nth_takerBase (even_eq heven), List.map_map]
  exact ⟨rfl, rfl⟩

theorem verifyBidLimit_traded
    (h : verifyBidLimit cfg price amount makerFee takerFee base quote makerAccounts pages d leaves reserves = .ok cr) :
    (cr.taker.filledAmount, cr.taker.filledVolume) = Side.bid.traded (makerAccounts.toNat / 2) leaves ∧
      cr.makers.map MakerMutation.fill = (List.range (makerAccounts.toNat / 2)).map (Side.bid.fill leaves) := by
  simp only [verifyBidLimit, bind_eq_ok, ensureProof_eq_ok, pure_eq_ok, leafAt_eq_ok, Prod.exists, exists_const,
    okOr_eq_ok, checkedSub_eq_some, checkedAdd_eq_some] at h
  obtain ⟨-, heven, leaf0, -, tb, -, bk, who, -, -, tq, ⟨-, rfl⟩, qk, whoQ, -, -, tq0, htq0, tq1, htq1, tqDelta,
    htqDelta, -, -, sums, hsums, quoteSum, -, -, baseSum, -, -, -, -, tb1, -, tq1', -, u, -, rfl⟩ := h
  obtain ⟨-, -, hbase, -, hmutations⟩ := bidMakers_eq_ok hsums
  rw [nth_takerQuote (even_eq heven)] at htq0 htq1
  obtain rfl : tq0 = (quoteLeaf leaves (makerAccounts.toNat / 2)).splitOldToSum := eq_add_of_toNat_eq htq0
  obtain rfl : tq1 = (quoteLeaf leaves (makerAccounts.toNat / 2)).splitNewToSum := eq_add_of_toNat_eq htq1
  rw [hmutations, List.map_map]
  exact ⟨Prod.ext hbase (eq_sub_of_toNat_eq htqDelta), rfl⟩

theorem verifyLimit_traded {side : Side}
    (h : verifyLimit cfg price amount makerFee takerFee base quote makerAccounts pages d leaves reserves side =
      .ok cr) :
    (cr.taker.filledAmount, cr.taker.filledVolume) = side.traded (makerAccounts.toNat / 2) leaves ∧
      cr.makers.map MakerMutation.fill = (List.range (makerAccounts.toNat / 2)).map (side.fill leaves) := by
  cases side with
  | ask => exact verifyAskLimit_traded h
  | bid => exact verifyBidLimit_traded h

end Order

theorem Moves.history (h : Moves s s') : s.history <+: s'.history := by
  obtain ⟨hrun, -⟩ := h
  induction hrun with
  | refl => exact List.prefix_rfl
  | tail _ hlast ih => exact ih.trans hlast.history

/-! ### One proof -/

section Proofs

variable {call : cfg.Call → Origin → State cfg → Result (State cfg)} {knownRoot : MerkleHash} {claimAt : BlockNumber}
  {season : Season} {callback : Option cfg.Call} {trade : Trade}

/-- Both amounts are there, so a batch counts the trade. -/
def Trade.Counts (trade : Trade) : Prop := trade.amount ≠ 0 ∧ trade.vol ≠ 0

instance (trade : Trade) : Decidable trade.Counts := inferInstanceAs (Decidable (_ ∧ _))

theorem addTrade_of_not_counts (h : ¬ trade.Counts) (incr : IterMap TokenId (U128 × U128)) :
    addTrade trade incr = incr := if_neg h

end Proofs

/-! ### A batch -/

/-- The trades of a token that a batch counts. -/
def tradesOf (token : TokenId) (proofs : List ProofV2) : List Trade :=
  (proofs.map ProofV2.trade).filter fun trade => trade.tokenId = token ∧ trade.Counts

def amountOf (trades : List Trade) : U128 := (trades.map Trade.amount).sum

def volumeOf (trades : List Trade) : U128 := (trades.map Trade.vol).sum

theorem amountOf_snoc (trades : List Trade) (trade : Trade) :
    amountOf (trades ++ [trade]) = amountOf trades + trade.amount := by
  rw [amountOf, List.map_append, List.sum_append, ← amountOf, List.map_singleton, List.sum_singleton]

theorem volumeOf_snoc (trades : List Trade) (trade : Trade) :
    volumeOf (trades ++ [trade]) = volumeOf trades + trade.vol := by
  rw [volumeOf, List.map_append, List.sum_append, ← volumeOf, List.map_singleton, List.sum_singleton]

theorem tradesOf_snoc (token : TokenId) (proofs : List ProofV2) (proof : ProofV2) :
    tradesOf token (proofs ++ [proof]) =
      if proof.trade.tokenId = token ∧ proof.trade.Counts then tradesOf token proofs ++ [proof.trade]
      else tradesOf token proofs := by
  rw [tradesOf, List.map_append, List.filter_append, ← tradesOf, List.map_singleton]
  split
  · rename_i htoken
    rw [List.filter_cons_of_pos (by simpa using htoken), List.filter_nil]
  · rename_i htoken
    rw [List.filter_cons_of_neg (by simpa using htoken), List.filter_nil, List.append_nil]

/-- A batch has added up the trades of the proofs, token by token. -/
def AddedUp (incr : IterMap TokenId (U128 × U128)) (proofs : List ProofV2) : Prop :=
  ∀ token, incr.lookup token =
    if tradesOf token proofs = [] then none
    else some (amountOf (tradesOf token proofs), volumeOf (tradesOf token proofs))

theorem lookup_addTrade (trade : Trade) (incr : IterMap TokenId (U128 × U128)) (token : TokenId) :
    (addTrade trade incr).lookup token =
      if trade.tokenId = token ∧ trade.Counts then
        some ((incr.lookup token).elim (trade.amount, trade.vol) fun sums => (sums.1 + trade.amount, sums.2 + trade.vol))
      else incr.lookup token := by
  by_cases hcounts : trade.Counts
  · have hadd : addTrade trade incr = incr.insert trade.tokenId
        ((incr.lookup trade.tokenId).elim (trade.amount, trade.vol)
          fun sums => (sums.1 + trade.amount, sums.2 + trade.vol)) := by
      apply (if_pos hcounts).trans
      cases incr.lookup trade.tokenId <;> rfl
    rw [hadd, IterMap.lookup_insert]
    by_cases htoken : trade.tokenId = token
    · subst htoken
      rw [if_pos rfl, if_pos ⟨rfl, hcounts⟩]
    · rw [if_neg (Ne.symm htoken), if_neg fun h => htoken h.1]
  · rw [addTrade_of_not_counts hcounts, if_neg fun h => hcounts h.2]

theorem AddedUp.add {incr : IterMap TokenId (U128 × U128)} {proofs : List ProofV2} (h : AddedUp incr proofs)
    (proof : ProofV2) : AddedUp (addTrade proof.trade incr) (proofs ++ [proof]) := by
  intro token
  rw [lookup_addTrade, tradesOf_snoc]
  split
  · rw [if_neg (List.append_ne_nil_of_right_ne_nil _ (List.cons_ne_nil _ _)), h token]
    rw [amountOf_snoc, volumeOf_snoc]
    split
    · rename_i hnil
      rw [hnil]
      exact congrArg some (Prod.ext (BitVec.zero_add _).symm (BitVec.zero_add _).symm)
    · rfl
  · exact h token

/-! ### A sale -/

/-- The roots before and after a unit of token `1` is sold for five of token `2`. -/
def unsoldRoot : MerkleHash := List.Vector.replicate 32 7

def soldRoot : MerkleHash := List.Vector.replicate 32 8

def saleListings : List Listing := [
  ⟨unsoldRoot, [(keyOfOrderbook (1, 2), halves 0 1), (keyOfAccount 2 bob, halves 0 5),
    (keyOfAccount 1 Token.alice, halves 1 0), (keyOfBestprice (1, 2), halves 0 10),
    (keyOfOrderpage (1, 2) 10, halves 1 0)]⟩,
  ⟨soldRoot, [(keyOfAccount 1 bob, halves 1 0), (keyOfAccount 2 Token.alice, halves 5 0)]⟩]

def saleProof : ProofV2 :=
  { proofOf saleListings unsoldRoot soldRoot Token.alice (Side.ask.limit 10 1 0 0 1 2 none) (tradeLeaves 10) with
    makerAccountDelta := 2, makerPageDelta := 1 }

/-- Token `2` is stable. -/
def saleAssets : Token.State Token.plainConfig := { Token.State.genesis (fun _ => (0, 0)) with
  tokens := StorageMap.insert (StorageMap.insert (fun _ => none) 1 Token.unitToken) 2
    (Token.unitToken.setStable true) }

/-- `operator` is an active dominator. -/
def saleDominators : IterMap AccountId Dominator := AList.insert operator
  { name := [100, 101, 120], staked := 1, merkleRoot := unsoldRoot, startFrom := 0, sequence := (0, 0),
    status := .active } ∅

end Fusotao.Verifier
