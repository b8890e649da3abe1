import Fusotao.Verifier.Pallet

/-!
# Proofs of a dominator

A proof shows that the known root moves to the proof's own root, and its command says what that means for
the accounts. The effects come first; the callback of a receipt, if there is one, is dispatched next; and
the new root is stored last.
-/

namespace Fusotao.Verifier

open Exec Word MerkleLeaf

variable {cfg : Config}

/-- One proof opens both roots at the same leaves. -/
def checkOpenings (cfg : Config) (knownRoot : MerkleHash) (proof : ProofV2) : Result Unit := do
  let r ← okOr (cfg.smtVerify proof.merkleProof knownRoot
    (proof.leaves.map fun leaf => (cfg.hashing leaf.key, leaf.oldV))) VerifierError.proofsUnsatisfied
  ensureProof r
  let r ← okOr (cfg.smtVerify proof.merkleProof proof.root
    (proof.leaves.map fun leaf => (cfg.hashing leaf.key, leaf.newV))) VerifierError.proofsUnsatisfied
  ensureProof r

/-! ### Orders -/

def checkFee (cfg : Config) (takerFee makerFee : U32) : Result Unit :=
  ensure (makerFee ≤ cfg.maxMakerFee ∧ takerFee ≤ cfg.maxTakerFee) VerifierError.feesTooHigh

def clearMaker (base quote : U32) (dominatorId : AccountId) (s : State cfg) (d : MakerMutation) :
    Result (State cfg) := do
  let s ← clear d.who dominatorId base d.baseBalance s
  let s ← clear d.who dominatorId quote d.quoteBalance s
  let external ← cfg.consumeLiquidity d.who (base, quote) d.filledVolume s.now s.external
  return { s with external }

/-- The base fee, half of which goes to the broker if there is one. -/
def payBaseFee (base : U32) (broker : Option AccountId) (beneficiary : AccountId) (baseFee : U128)
    (s : State cfg) : Result (State cfg) := do
  if baseFee = 0 then
    return s
  let (rest, asset) ← match broker with
    | some broker => do
        let nearHalf := cfg.permillMulCeil 500000 baseFee
        let asset ← Token.tryMutateAccount base (cfg.brokerBeneficiary broker s.external)
          (fun b => .ok (b.1 + nearHalf, b.2)) s.asset
        let rest ← okOr (checkedSub baseFee nearHalf) VerifierError.overflow
        pure (rest, asset)
    | none => pure (baseFee, s.asset)
  let asset ← Token.tryMutateAccount base beneficiary (fun b => .ok (b.1 + rest, b.2)) asset
  return { s with asset }

/-- The effects of an order: the trade, and the storage. -/
def applyLimit (side : Side) (price amount : U128) (makerFee takerFee base quote : U32)
    (broker : Option AccountId) (dominatorId beneficiary : AccountId) (season : Season) (proof : ProofV2)
    (s : State cfg) : Result (Trade × State cfg) := do
  checkFee cfg takerFee makerFee
  ensure (Token.isStable quote s.asset) VerifierError.unsupportedQuoteCurrency
  let cr ← verifyLimit cfg price amount makerFee takerFee base quote proof.makerAccountDelta
    proof.makerPageDelta dominatorId proof.leaves s.reserves side
  let s ← cr.makers.foldlM (clearMaker base quote dominatorId) s
  let s ← clear cr.taker.who dominatorId base cr.taker.baseBalance s
  let s ← clear cr.taker.who dominatorId quote cr.taker.quoteBalance s
  let s := { s with
    external := cfg.putLiquidity cr.taker.who (base, quote) cr.taker.unfilledVolume s.now s.external }
  let s := putProfit dominatorId season quote cr.quoteFee s
  let s ← payBaseFee base broker beneficiary cr.baseFee s
  return ({ tokenId := base, root := proof.root, amount := cr.taker.filledAmount,
            vol := cr.taker.filledVolume }, s)

/-! ### Transfers -/

def Receipt.isRevoke {Callback : Type} (currency : U32) (amount : U128) : Receipt Callback → Bool
  | .revoke id value _ => id = currency ∧ value = amount
  | .revokeWithCallback id value _ _ => id = currency ∧ value = amount
  | .authorize .. => false

def Receipt.isAuthorize {Callback : Type} (currency : U32) (amount : U128) : Receipt Callback → Bool
  | .authorize id value _ => id = currency ∧ value = amount
  | _ => false

def Receipt.callback? {Callback : Type} : Receipt Callback → Option Callback
  | .revokeWithCallback _ _ _ callback => some callback
  | _ => none

/-- The receipt of the user, which has to satisfy `expected`. -/
def receiptFor (expected : Receipt cfg.Call → Bool) (dominatorId userId : AccountId) (s : State cfg) :
    Result (Receipt cfg.Call) := do
  let r ← okOr (s.receipts (dominatorId, userId)) VerifierError.receiptNotExists
  ensure (expected r) VerifierError.receiptNotExists
  return r

def applyTransferOut (currency : U32) (amount : U128) (dominatorId : AccountId) (proof : ProofV2)
    (s : State cfg) : Result (Option cfg.Call × State cfg) := do
  let r ← receiptFor (Receipt.isRevoke currency amount) dominatorId proof.userId s
  verifyTransferOut currency amount proof.userId proof.leaves
  let s ← unreserve .authorizing proof.userId currency amount dominatorId s
  return (r.callback?, { s with receipts := s.receipts.remove (dominatorId, proof.userId) })

def applyTransferIn (currency : U32) (amount : U128) (dominatorId : AccountId) (proof : ProofV2)
    (s : State cfg) : Result (State cfg) := do
  let _ ← receiptFor (Receipt.isAuthorize currency amount) dominatorId proof.userId s
  verifyTransferIn currency amount proof.userId proof.leaves
  -- stash->authorizing
  let reserves := s.reserves.remove ((.authorizingStash, proof.userId, currency), dominatorId)
  let total ← okOr (checkedAdd (reserveOf reserves .authorizing proof.userId currency dominatorId) amount)
    VerifierError.overflow
  return { s with
    reserves := reserves.insert ((.authorizing, proof.userId, currency), dominatorId) total
    receipts := s.receipts.remove (dominatorId, proof.userId) }

/-- Drop a receipt whose transfer is rejected. -/
def dropReceipt (dominatorId : AccountId) (proof : ProofV2) (r : Receipt cfg.Call) (s : State cfg) : State cfg :=
  { s with
    receipts := s.receipts.remove (dominatorId, proof.userId)
    history := s.history ++ [.rejected dominatorId proof r] }

def applyRejectTransferOut (currency : U32) (amount : U128) (dominatorId : AccountId) (proof : ProofV2)
    (s : State cfg) : Result (State cfg) := do
  let r ← receiptFor (Receipt.isRevoke currency amount) dominatorId proof.userId s
  verifyRejectTransferOut currency amount proof.userId proof.leaves
  return dropReceipt dominatorId proof r s

def applyRejectTransferIn (dominatorId : AccountId) (proof : ProofV2) (s : State cfg) :
    Result (State cfg) :=
  match s.receipts (dominatorId, proof.userId) with
  | none => .ok s
  | some (.authorize token amount block) =>
      .ok (dropReceipt dominatorId proof (.authorize token amount block) s)
  | some _ => .error VerifierError.receiptNotExists

/-! ### One proof -/

/-- What the effects of a command come to. A command that rejects a transfer does not step forward. -/
inductive Outcome (cfg : Config)
  | forward (trade : Trade) (callback : Option cfg.Call) (s : State cfg)
  | stay (s : State cfg)

def applyCommand (dominatorId beneficiary : AccountId) (season : Season) (proof : ProofV2)
    (s : State cfg) : Result (Outcome cfg) :=
  let trade := { tokenId := 0, root := proof.root, amount := 0, vol := 0 }
  match proof.cmd with
  | .askLimit price amount makerFee takerFee base quote broker => do
      let (trade, s) ← applyLimit .ask price amount makerFee takerFee base quote broker dominatorId
        beneficiary season proof s
      return .forward trade none s
  | .bidLimit price amount makerFee takerFee base quote broker => do
      let (trade, s) ← applyLimit .bid price amount makerFee takerFee base quote broker dominatorId
        beneficiary season proof s
      return .forward trade none s
  | .cancel base quote => do
      let unfilled ← verifyCancel base quote proof.userId proof.leaves
      return .forward trade none { s with
        external := cfg.removeLiquidity proof.userId (base, quote) unfilled s.external }
  | .transferOut currency amount => do
      let (callback, s) ← applyTransferOut currency amount dominatorId proof s
      return .forward trade callback s
  | .transferIn currency amount => do
      let s ← applyTransferIn currency amount dominatorId proof s
      return .forward trade none s
  | .rejectTransferOut currency amount => do
      let s ← applyRejectTransferOut currency amount dominatorId proof s
      return .stay s
  | .rejectTransferIn => do
      let s ← applyRejectTransferIn dominatorId proof s
      return .stay s

/-- The effects are written down; the root is not stored yet. -/
def recordApplied (dominatorId : AccountId) (knownRoot : MerkleHash) (proof : ProofV2) (s : State cfg) :
    State cfg :=
  { s with
    history := s.history ++
      [.applied dominatorId knownRoot proof (s.pending.any fun p => p.1 = dominatorId)]
    pending := (dominatorId, proof.root) :: s.pending }

/-- The callback of a receipt may fail; then only its own effects are undone. -/
def dispatchCallback (dispatch : cfg.Call → Origin → State cfg → Result (State cfg))
    (userId : AccountId) (callback : Option cfg.Call) (s : State cfg) : Result (State cfg) :=
  match callback with
  | none => .ok s
  | some call =>
      match dispatch call (.signed userId) s with
      | .ok s' => .ok s'
      | .error (.err _) => .ok s
      | .error .panic => .error .panic

def storeRoot (dominatorId : AccountId) (proof : ProofV2) (s : State cfg) : Result (State cfg) := do
  let d ← okOr (s.dominators.lookup dominatorId) .panic
  return { s with
    dominators := s.dominators.insert dominatorId
      { d with merkleRoot := proof.root, sequence := (proof.eventId, s.now) }
    pending := s.pending.tail }

def verifyAndUpdate (dispatch : cfg.Call → Origin → State cfg → Result (State cfg))
    (dominatorId beneficiary : AccountId) (knownRoot : MerkleHash) (claimAt : BlockNumber)
    (proof : ProofV2) (s : State cfg) : Result (Trade × State cfg) := do
  checkOpenings cfg knownRoot proof
  let outcome ← applyCommand dominatorId beneficiary (currentSeason cfg s.now claimAt) proof s
  match outcome with
  | .stay s => return ({ tokenId := 0, root := knownRoot, amount := 0, vol := 0 }, s)
  | .forward trade callback s => do
      let s ← dispatchCallback dispatch proof.userId callback (recordApplied dominatorId knownRoot proof s)
      let s ← storeRoot dominatorId proof s
      return (trade, s)

/-! ### A batch -/

/-- What a batch goes through: the known root, the trades by base token, and the storage. -/
structure Batch (cfg : Config) where
  knownRoot : MerkleHash
  incr : IterMap TokenId (U128 × U128)
  state : State cfg

def addTrade (trade : Trade) (incr : IterMap TokenId (U128 × U128)) : IterMap TokenId (U128 × U128) :=
  if trade.amount ≠ 0 ∧ trade.vol ≠ 0 then
    incr.insert trade.tokenId
      (match incr.lookup trade.tokenId with
        | some (b, q) => (b + trade.amount, q + trade.vol)
        | none => (trade.amount, trade.vol))
  else incr

def verifyNext (dispatch : cfg.Call → Origin → State cfg → Result (State cfg))
    (dominatorId beneficiary : AccountId) (claimAt : BlockNumber) (batch : Batch cfg) (proof : ProofV2) :
    Result (Batch cfg) := do
  let (trade, s) ← verifyAndUpdate dispatch dominatorId beneficiary batch.knownRoot claimAt proof
    batch.state
  return { knownRoot := trade.root, incr := addTrade trade batch.incr, state := s }

def verifyBatch (dispatch : cfg.Call → Origin → State cfg → Result (State cfg))
    (dominatorId beneficiary : AccountId) (dominator : Dominator) (proofs : List ProofV2) (s : State cfg) :
    Result (State cfg) := do
  let batch ← proofs.foldlM (verifyNext dispatch dominatorId beneficiary dominator.startFrom)
    ⟨dominator.merkleRoot, ∅, s⟩
  let s := batch.state
  return { s with
    external := batch.incr.inOrder.foldl
      (fun external trade => cfg.setPrice trade.1 trade.2.1 trade.2.2 s.now external) s.external }

def verifyV2 (dispatch : cfg.Call → Origin → State cfg → Result (State cfg)) (dominatorId : AccountId)
    (proofs : List ProofV2) (s : State cfg) : Result (State cfg) := do
  let dominator ← okOr (s.dominators.lookup dominatorId) VerifierError.dominatorNotFound
  ensure (dominator.status = .active) VerifierError.dominatorInactive
  let beneficiary := (s.beneficiaries dominatorId).getD dominatorId
  verifyBatch dispatch dominatorId beneficiary dominator proofs s

end Fusotao.Verifier
