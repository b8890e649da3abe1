import Fusotao.Verifier.Types

/-!
# The checks of a proof

What the leaves of a proof have to satisfy, command by command. A leaf that is not there makes the
call panic. The checks of an order are made in four parts: the order book and the taker, the makers,
the fees, and the best price with the order pages.
-/

namespace Fusotao.Verifier

open Exec Word MerkleLeaf

def leafAt (leaves : List MerkleLeaf) (i : Nat) : Result MerkleLeaf := okOr leaves[i]? .panic

/-- `leaves.last().unwrap()`. -/
def lastLeaf (leaves : List MerkleLeaf) : Result MerkleLeaf := okOr leaves.getLast? .panic

/-- The check that fails with `ProofsUnsatisfied`. -/
def ensureProof (c : Prop) [Decidable c] : Result Unit := ensure c VerifierError.proofsUnsatisfied

@[simp] theorem ensureProof_eq_ok {c : Prop} [Decidable c] {u : Unit} :
    ensureProof c = .ok u ↔ c := ensure_eq_ok

def hasAuthorizedMorethan (who : AccountId) (token : TokenId) (amount : U128) (dominator : AccountId)
    (reserves : Reserves) : Bool :=
  reserveOf reserves .authorizing who token dominator ≥ amount

/-- How far the balance in a leaf may be from the amount recorded. -/
def precision : U128 := 100000000000

def hasAuthorizedExactlyOn (who : AccountId) (token : TokenId) (amount : U128) (dominator : AccountId)
    (reserves : Reserves) : Bool :=
  let confirmed := reserveOf reserves .authorizing who token dominator
  if confirmed ≥ amount then confirmed - amount ≤ precision else amount - confirmed ≤ precision

/-! ### Orders -/

structure TakerMutation where
  who : AccountId
  unfilledVolume : U128
  filledVolume : U128
  filledAmount : U128
  baseBalance : U128
  quoteBalance : U128
  deriving DecidableEq

structure MakerMutation where
  who : AccountId
  filledVolume : U128
  baseBalance : U128
  quoteBalance : U128
  deriving DecidableEq

structure ClearingResult where
  makers : List MakerMutation
  taker : TakerMutation
  baseFee : U128
  quoteFee : U128
  deriving DecidableEq

/-- The sums over the makers so far: `mb_delta`, `mq_delta` and `maker_mutation`. -/
structure MakerSums where
  mbDelta : U128
  mqDelta : U128
  mutations : List MakerMutation

/-- The pages so far: `pre_best`, and `taken_bids` or `taken_asks`. -/
structure PageSums where
  preBest : U128
  taken : U128

section Order

variable (cfg : Config) (price amount : U128) (makerFee takerFee base quote : U32)
  (makerAccounts pages : U8) (dominator : AccountId) (leaves : List MerkleLeaf) (reserves : Reserves)

/-- The loop body over the makers of an ask: the base account first, then the quote account. -/
def askMaker (sums : MakerSums) (i : Nat) : Result MakerSums := do
  let makerBase ← leafAt leaves (i * 2 + 1)
  let (bk, makerBId) ← makerBase.tryGetAccount
  let mb0 := makerBase.splitOldToSum
  ensureProof (hasAuthorizedExactlyOn makerBId base mb0 dominator reserves)
  let mb1 := makerBase.splitNewToSum
  let baseIncr := mb1 - mb0
  let makerQuote ← leafAt leaves (i * 2 + 2)
  let (qk, makerQId) ← makerQuote.tryGetAccount
  ensureProof (base = bk ∧ quote = qk)
  let mq0 := makerQuote.splitOldToSum
  ensureProof (hasAuthorizedExactlyOn makerQId quote mq0 dominator reserves)
  let mq1 := makerQuote.splitNewToSum
  let quoteDecr := mq0 - mq1
  ensureProof (makerBId = makerQId)
  return {
    mbDelta := sums.mbDelta + baseIncr
    mqDelta := sums.mqDelta + quoteDecr
    mutations := sums.mutations ++
      [{ who := makerQId, filledVolume := quoteDecr, baseBalance := mb1, quoteBalance := mq1 }] }

def askMakers : Result MakerSums :=
  (List.range (makerAccounts.toNat / 2)).foldlM (askMaker base quote dominator leaves reserves)
    ⟨0, 0, []⟩

/-- The loop body over the pages an ask has emptied. -/
def askPage (sums : PageSums) (i : Nat) : Result PageSums := do
  let page ← leafAt leaves (makerAccounts.toNat + 4 + i)
  let (b, q, p) ← page.tryGetOrderpage
  ensureProof (b = base ∧ q = quote)
  ensureProof (sums.preBest > p)
  ensureProof (page.splitNewToSum = 0)
  return { preBest := p, taken := sums.taken + page.splitOldToSum }

/-- The check of the best price and the order pages of an ask. -/
def askPages (askDelta bidDelta tbDelta : U128) : Result Unit := do
  let bestPrice ← leafAt leaves (makerAccounts.toNat + 3)
  let (b, q) ← bestPrice.tryGetSymbol
  ensureProof (b = base ∧ q = quote)
  let (bestAsk0, bestBid0) := bestPrice.splitOldToU128
  let (bestAsk1, bestBid1) := bestPrice.splitNewToU128
  if bidDelta ≠ 0 then
    -- trading happened
    ensureProof (pages > 0 ∧ price ≤ bestBid0)
    let sums ← (List.range (pages.toNat - 1)).foldlM (askPage base quote makerAccounts leaves)
      ⟨bestBid0 + 1, 0⟩
    if askDelta ≠ 0 then
      -- partially filled
      let takerPage ← lastLeaf leaves
      let (b, q, p) ← takerPage.tryGetOrderpage
      ensureProof (b = base ∧ q = quote)
      ensureProof (sums.preBest > p ∧ p ≥ bestBid1)
      ensureProof (bestAsk1 = price ∧ p = price)
      let prvIsMaker := takerPage.splitOldToSum
      let nowIsTaker := takerPage.splitNewToSum
      ensureProof (sums.taken + prvIsMaker + nowIsTaker = amount)
    else
      -- filled or conditionally canceled
      let vanityMaker ← lastLeaf leaves
      let (b, q, p) ← vanityMaker.tryGetOrderpage
      ensureProof (b = base ∧ q = quote)
      ensureProof (sums.preBest > p ∧ p ≥ bestBid1)
      ensureProof (bestAsk1 = bestAsk0)
      let prvIsMaker := vanityMaker.splitOldToSum
      let nowIsMaker := vanityMaker.splitNewToSum
      ensureProof (tbDelta = sums.taken + prvIsMaker - nowIsMaker)
  else
    -- no trading
    ensureProof (bestBid1 = bestBid0)
    if askDelta ≠ 0 then
      -- placed
      let vanityMaker ← lastLeaf leaves
      let (b, q, p) ← vanityMaker.tryGetOrderpage
      ensureProof (b = base ∧ q = quote ∧ p > bestBid1)
      let prvIsMaker := vanityMaker.splitOldToSum
      let nowIsMaker := vanityMaker.splitNewToSum
      ensureProof (amount = nowIsMaker - prvIsMaker)

def verifyAskLimit : Result ClearingResult := do
  let leavesCount := (4 + makerAccounts + pages).toNat
  ensureProof (leaves.length = leavesCount)
  ensureProof (makerAccounts % 2 = 0)
  let sizes ← leafAt leaves 0
  let (b, q) ← sizes.tryGetSymbol
  ensureProof (b = base ∧ q = quote)
  let (ask0, bid0) := sizes.splitOldToU128
  let (ask1, bid1) := sizes.splitNewToU128
  -- 0 or remain
  let askDelta := ask1 - ask0
  -- equals to traded base
  let bidDelta := bid0 - bid1
  let takerBase ← leafAt leaves (makerAccounts.toNat + 1)
  let (bk, takerBId) ← takerBase.tryGetAccount
  let (tba0, tbf0) := takerBase.splitOldToU128
  let tb0 ← okOr (checkedAdd tba0 tbf0) VerifierError.overflow
  ensureProof (hasAuthorizedExactlyOn takerBId base tb0 dominator reserves)
  let (tba1, tbf1) := takerBase.splitNewToU128
  -- equals to traded base
  let tbDelta := (tba0 + tbf0) - (tba1 + tbf1)
  let takerQuote ← leafAt leaves (makerAccounts.toNat + 2)
  let (qk, takerQId) ← takerQuote.tryGetAccount
  let (tqa0, tqf0) := takerQuote.splitOldToU128
  ensureProof (hasAuthorizedExactlyOn takerQId quote (tqa0 + tqf0) dominator reserves)
  let (tqa1, tqf1) := takerQuote.splitNewToU128
  let tq1 ← okOr (checkedAdd tqa1 tqf1) VerifierError.overflow
  let tq0 ← okOr (checkedAdd tqa0 tqf0) VerifierError.overflow
  let tqDelta ← okOr (checkedSub tq1 tq0) VerifierError.overflow
  ensureProof (bk = base ∧ qk = quote)
  ensureProof (takerBId = takerQId)
  ensureProof (if askDelta ≠ 0 then amount = tba0 - tba1 else tbf0 = tbf1)
  ensureProof (bidDelta = tbDelta)
  let sums ← askMakers base quote makerAccounts dominator leaves reserves
  let baseCharged := cfg.permillMulCeil makerFee tbDelta
  ensureProof (sums.mbDelta + baseCharged = tbDelta)
  let quoteCharged := cfg.permillMulCeil takerFee sums.mqDelta
  ensureProof (tqDelta + quoteCharged = sums.mqDelta)
  let takerMutation : TakerMutation := {
    who := takerBId
    unfilledVolume := tqf1
    filledVolume := sums.mqDelta
    filledAmount := tbDelta
    baseBalance := tba1 + tbf1
    quoteBalance := tqa1 + tqf1 }
  askPages price amount base quote makerAccounts pages leaves askDelta bidDelta tbDelta
  return {
    makers := sums.mutations
    taker := takerMutation
    baseFee := baseCharged
    quoteFee := quoteCharged }

/-- The loop body over the makers of a bid. -/
def bidMaker (sums : MakerSums) (i : Nat) : Result MakerSums := do
  let makerBase ← leafAt leaves (i * 2 + 1)
  let (bk, makerBId) ← makerBase.tryGetAccount
  let mb0 := makerBase.splitOldToSum
  ensureProof (hasAuthorizedExactlyOn makerBId base mb0 dominator reserves)
  let mb1 := makerBase.splitNewToSum
  let baseDecr := mb0 - mb1
  let makerQuote ← leafAt leaves (i * 2 + 2)
  let (qk, makerQId) ← makerQuote.tryGetAccount
  ensureProof (quote = qk ∧ base = bk)
  ensureProof (makerBId = makerQId)
  let mq0 := makerQuote.splitOldToSum
  ensureProof (hasAuthorizedExactlyOn makerQId quote mq0 dominator reserves)
  let mq1 := makerQuote.splitNewToSum
  let quoteIncr ← okOr (checkedSub mq1 mq0) VerifierError.overflow
  let mqDelta ← okOr (checkedAdd sums.mqDelta quoteIncr) VerifierError.overflow
  return {
    mbDelta := sums.mbDelta + baseDecr
    mqDelta
    mutations := sums.mutations ++
      [{ who := makerBId, filledVolume := quoteIncr, baseBalance := mb1, quoteBalance := mq1 }] }

def bidMakers : Result MakerSums :=
  (List.range (makerAccounts.toNat / 2)).foldlM (bidMaker base quote dominator leaves reserves)
    ⟨0, 0, []⟩

/-- The loop body over the pages a bid has emptied. -/
def bidPage (sums : PageSums) (i : Nat) : Result PageSums := do
  let page ← leafAt leaves (makerAccounts.toNat + 4 + i)
  let (b, q, p) ← page.tryGetOrderpage
  ensureProof (b = base ∧ q = quote)
  ensureProof (sums.preBest ≤ p)
  ensureProof (page.splitNewToSum = 0)
  return { preBest := p, taken := sums.taken + page.splitOldToSum }

/-- The check of the best price and the order pages of a bid. -/
def bidPages (askDelta bidDelta tbDelta baseCharged : U128) : Result Unit := do
  let bestPrice ← leafAt leaves (makerAccounts.toNat + 3)
  let (b, q) ← bestPrice.tryGetSymbol
  ensureProof (b = base ∧ q = quote)
  let (bestAsk0, bestBid0) := bestPrice.splitOldToU128
  let (bestAsk1, bestBid1) := bestPrice.splitNewToU128
  if askDelta ≠ 0 then
    -- trading happened
    ensureProof (pages > 0 ∧ price ≥ bestAsk0)
    let sums ← (List.range (pages.toNat - 1)).foldlM (bidPage base quote makerAccounts leaves)
      ⟨bestAsk0, 0⟩
    if bidDelta ≠ 0 then
      -- partially filled
      let takerPricePage ← lastLeaf leaves
      let (b, q, p) ← takerPricePage.tryGetOrderpage
      ensureProof (b = base ∧ q = quote ∧ p = price)
      ensureProof (bestBid1 = price)
      let prvIsMaker := takerPricePage.splitOldToSum
      let nowIsTaker := takerPricePage.splitNewToSum
      ensureProof (sums.taken + prvIsMaker + nowIsTaker = amount)
    else
      -- filled or conditionally canceled
      let vanityMaker ← lastLeaf leaves
      let (b, q, _) ← vanityMaker.tryGetOrderpage
      ensureProof (b = base ∧ q = quote)
      ensureProof (bestBid1 = bestBid0)
      let prvIsMaker := vanityMaker.splitOldToSum
      let nowIsMaker := vanityMaker.splitNewToSum
      let bought ← okOr (checkedAdd tbDelta baseCharged) VerifierError.overflow
      let taken ← okOr (checkedAdd sums.taken prvIsMaker) VerifierError.overflow
      let taken ← okOr (checkedSub taken nowIsMaker) VerifierError.overflow
      ensureProof (bought = taken)
  else
    -- no trading
    ensureProof (bestAsk1 = bestAsk0)
    if bidDelta ≠ 0 then
      -- placed
      let takerPricePage ← lastLeaf leaves
      let (b, q, p) ← takerPricePage.tryGetOrderpage
      ensureProof (b = base ∧ q = quote ∧ p = price)
      let prvIsMaker := takerPricePage.splitOldToSum
      let nowIsMaker := takerPricePage.splitNewToSum
      ensureProof (amount = nowIsMaker - prvIsMaker)

def verifyBidLimit : Result ClearingResult := do
  let leavesCount := (4 + makerAccounts + pages).toNat
  ensureProof (leaves.length = leavesCount)
  ensureProof (makerAccounts % 2 = 0)
  let sizes ← leafAt leaves 0
  let (ask0, bid0) := sizes.splitOldToU128
  let (ask1, bid1) := sizes.splitNewToU128
  let askDelta := ask0 - ask1
  let bidDelta := bid1 - bid0
  let takerBase ← leafAt leaves (makerAccounts.toNat + 1)
  let (tba0, tbf0) := takerBase.splitOldToU128
  let (tba1, tbf1) := takerBase.splitNewToU128
  let tbDelta := (tba1 + tbf1) - (tba0 + tbf0)
  let (bk, takerBId) ← takerBase.tryGetAccount
  ensureProof (hasAuthorizedExactlyOn takerBId base (tba0 + tbf0) dominator reserves)
  let takerQuote ← leafAt leaves (makerAccounts.toNat + 2)
  let (tqa0, tqf0) := takerQuote.splitOldToU128
  let (tqa1, tqf1) := takerQuote.splitNewToU128
  let (qk, takerQId) ← takerQuote.tryGetAccount
  ensureProof (hasAuthorizedExactlyOn takerQId quote (tqa0 + tqf0) dominator reserves)
  let tq0 ← okOr (checkedAdd tqa0 tqf0) VerifierError.overflow
  let tq1 ← okOr (checkedAdd tqa1 tqf1) VerifierError.overflow
  let tqDelta ← okOr (checkedSub tq0 tq1) VerifierError.overflow
  ensureProof (bk = base ∧ qk = quote)
  ensureProof (takerBId = takerQId)
  let sums ← bidMakers base quote makerAccounts dominator leaves reserves
  let quoteCharged := cfg.permillMulCeil makerFee tqDelta
  let quoteSum ← okOr (checkedAdd sums.mqDelta quoteCharged) VerifierError.overflow
  ensureProof (quoteSum = tqDelta)
  let baseCharged := cfg.permillMulCeil takerFee sums.mbDelta
  let baseSum ← okOr (checkedAdd tbDelta baseCharged) VerifierError.overflow
  ensureProof (baseSum = sums.mbDelta)
  ensureProof (askDelta = sums.mbDelta)
  ensureProof (bidDelta ≠ 0 → bidDelta = amount - sums.mbDelta)
  let baseBalance ← okOr (checkedAdd tba1 tbf1) VerifierError.overflow
  let quoteBalance ← okOr (checkedAdd tqa1 tqf1) VerifierError.overflow
  let takerMutation : TakerMutation := {
    who := takerBId
    unfilledVolume := tqf1
    filledVolume := tqDelta
    filledAmount := sums.mbDelta
    baseBalance
    quoteBalance }
  bidPages price amount base quote makerAccounts pages leaves askDelta bidDelta tbDelta baseCharged
  return {
    makers := sums.mutations
    taker := takerMutation
    baseFee := baseCharged
    quoteFee := quoteCharged }

/-- Which side of the book an order is on. -/
inductive Side
  | ask
  | bid
  deriving DecidableEq

def verifyLimit (side : Side) : Result ClearingResult :=
  match side with
  | .ask => verifyAskLimit cfg price amount makerFee takerFee base quote makerAccounts pages dominator
      leaves reserves
  | .bid => verifyBidLimit cfg price amount makerFee takerFee base quote makerAccounts pages dominator
      leaves reserves

end Order

/-! ### Cancellations and transfers -/

def verifyCancel (base quote : U32) (account : AccountId) (leaves : List MerkleLeaf) :
    Result U128 := do
  ensureProof (leaves.length = 5)
  let sizes ← leafAt leaves 0
  let (b, q) ← sizes.tryGetSymbol
  ensureProof (b = base ∧ q = quote)
  let (ask0, bid0) := sizes.splitOldToU128
  let (ask1, bid1) := sizes.splitNewToU128
  let askDelta := ask0 - ask1
  let bidDelta := bid0 - bid1
  ensureProof (askDelta + bidDelta ≠ 0)
  ensureProof (askDelta &&& bidDelta = 0)
  let accountBase ← leafAt leaves 1
  let (b, id) ← accountBase.tryGetAccount
  ensureProof (b = base)
  ensureProof (account = id)
  ensureProof (accountBase.splitOldToSum = accountBase.splitNewToSum)
  let accountQuote ← leafAt leaves 2
  let (q, id) ← accountQuote.tryGetAccount
  ensureProof (q = quote)
  ensureProof (account = id)
  ensureProof (accountQuote.splitOldToSum = accountQuote.splitNewToSum)
  let bestPrice ← leafAt leaves 3
  let (bestAsk0, bestBid0) := bestPrice.splitOldToU128
  let page ← leafAt leaves 4
  let (b, q, cancelAt) ← page.tryGetOrderpage
  ensureProof (b = base ∧ q = quote ∧ (cancelAt ≥ bestAsk0 ∨ cancelAt ≤ bestBid0))
  let delta := page.splitOldToSum - page.splitNewToSum
  if cancelAt ≥ bestAsk0 ∧ bestAsk0 ≠ 0 then
    ensureProof (askDelta = delta)
  else
    ensureProof (bidDelta = delta)
  return delta

def verifyTransferIn (currency : U32) (amount : U128) (account : AccountId)
    (leaves : List MerkleLeaf) : Result Unit := do
  ensureProof (leaves.length = 1)
  let leaf ← leafAt leaves 0
  let (a0, f0) := leaf.splitOldToU128
  let (a1, f1) := leaf.splitNewToU128
  ensureProof (a1 - a0 = amount)
  ensureProof (f1 = f0)
  let (c, id) ← leaf.tryGetAccount
  ensureProof (currency = c ∧ account = id)

def verifyTransferOut (currency : U32) (amount : U128) (account : AccountId)
    (leaves : List MerkleLeaf) : Result Unit := do
  ensureProof (leaves.length = 1)
  let leaf ← leafAt leaves 0
  let (a0, f0) := leaf.splitOldToU128
  let (a1, f1) := leaf.splitNewToU128
  ensureProof (a0 - a1 = amount)
  ensureProof (f1 = f0)
  let (c, id) ← leaf.tryGetAccount
  ensureProof (currency = c ∧ account = id)

def verifyRejectTransferOut (currency : U32) (amount : U128) (account : AccountId)
    (leaves : List MerkleLeaf) : Result Unit := do
  ensureProof (leaves.length = 1)
  let leaf ← leafAt leaves 0
  let (a0, _) := leaf.splitOldToU128
  ensureProof (a0 < amount)
  let (c, id) ← leaf.tryGetAccount
  ensureProof (currency = c ∧ account = id)

end Fusotao.Verifier
