import Fusotao.Verifier.Batch
import Fusotao.Verifier.Operations

/-!
# What the commands of a proof do

One lemma for each kind of command: what is checked, and the storage the effects leave. An order is a
sequence of clears followed by the fees, so what these keep, an order keeps.
-/

namespace Fusotao.Verifier

open Exec Word

variable {cfg : Config} {s s' : State cfg} {d beneficiary : AccountId} {season : Season} {proof : ProofV2}

/-- Both roots open at the leaves of the proof. -/
theorem checkOpenings_eq_ok {knownRoot : MerkleHash} {u : Unit}
    (h : checkOpenings cfg knownRoot proof = .ok u) :
    cfg.smtVerify proof.merkleProof knownRoot
        (proof.leaves.map fun leaf => (cfg.hashing leaf.key, leaf.oldV)) = some true ∧
      cfg.smtVerify proof.merkleProof proof.root
        (proof.leaves.map fun leaf => (cfg.hashing leaf.key, leaf.newV)) = some true := by
  simp only [checkOpenings, bind_eq_ok, okOr_eq_ok, ensureProof_eq_ok, exists_const] at h
  obtain ⟨r, hold, hr, r', hnew, hr'⟩ := h
  rw [hr] at hold
  rw [hr'] at hnew
  exact ⟨hold, hnew⟩

/-! ### Orders -/

/-- The command of an order. -/
def Side.limit (side : Side) (price amount : U128) (makerFee takerFee base quote : U32)
    (broker : Option AccountId) : CommandV2 :=
  match side with
  | .ask => .askLimit price amount makerFee takerFee base quote broker
  | .bid => .bidLimit price amount makerFee takerFee base quote broker

theorem clear_frame {who : AccountId} {token : TokenId} {balance : U128}
    (h : clear who d token balance s = .ok s') :
    s' = { s with
      asset := s'.asset
      reserves := s.reserves.insert ((.authorizing, who, token), d) balance } := by
  simp only [clear, bind_eq_ok, pure_eq_ok] at h
  obtain ⟨asset, -, rfl⟩ := h
  rfl

theorem putProfit_frame (d : AccountId) (season : Season) (token : TokenId) (fee : U128)
    (s : State cfg) : putProfit d season token fee s =
      { s with bonuses := (putProfit d season token fee s).bonuses } := by
  unfold putProfit
  split <;> rfl

section Order

variable {side : Side} {price amount : U128} {makerFee takerFee base quote : U32}
  {broker : Option AccountId} {trade : Trade}

theorem payBaseFee_frame {fee : U128} (h : payBaseFee base broker beneficiary fee s = .ok s') :
    s' = { s with asset := s'.asset } := by
  unfold payBaseFee at h
  split at h
  · exact pure_eq_ok.mp h ▸ rfl
  · cases broker with
    | none =>
        simp only [bind_eq_ok, pure_eq_ok, exists_eq_left'] at h
        obtain ⟨asset, -, rfl⟩ := h
        rfl
    | some broker =>
        simp only [bind_eq_ok, pure_eq_ok, Prod.exists] at h
        obtain ⟨-, -, -, -, -, -, -, asset, -, rfl⟩ := h
        rfl

/-- The fee is credited: no reserved balance changes. -/
theorem payBaseFee_sameReserved (hlaw : cfg.token.balances.Lawful) {fee : U128}
    (h : payBaseFee base broker beneficiary fee s = .ok s') : Token.SameReserved s.asset s'.asset := by
  have hcredit : ∀ {who : AccountId} {x : U128} {a a' : Token.State cfg.token},
      Token.tryMutateAccount base who (fun b => .ok (b.1 + x, b.2)) a = .ok a' →
        Token.SameReserved a a' := by
    intro who x a a' ha
    refine Token.tryMutateAccount_sameReserved hlaw (fun b v hv => ?_) ha
    exact (congrArg Prod.snd (Except.ok.inj hv)).symm
  unfold payBaseFee at h
  split at h
  · exact pure_eq_ok.mp h ▸ .refl _
  · cases broker with
    | none =>
        simp only [bind_eq_ok, pure_eq_ok, exists_eq_left'] at h
        obtain ⟨asset, hasset, rfl⟩ := h
        exact hcredit hasset
    | some broker =>
        simp only [bind_eq_ok, pure_eq_ok, Prod.exists] at h
        obtain ⟨asset, hasset, rest, -, rest', mid, hpair, asset', hasset', rfl⟩ := h
        obtain ⟨rfl, rfl⟩ := Prod.mk.inj hpair
        exact (hcredit hasset).trans (hcredit hasset')

/-- The steps of an accepted order. -/
theorem applyLimit_steps (h : applyLimit side price amount makerFee takerFee base quote broker d beneficiary
      season proof s = .ok (trade, s')) :
    trade.root = proof.root ∧ ∃ cr, verifyLimit cfg price amount makerFee takerFee base quote
        proof.makerAccountDelta proof.makerPageDelta d proof.leaves s.reserves side = .ok cr ∧
      ∃ mid, cr.makers.foldlM (clearMaker base quote d) s = .ok mid ∧
      ∃ mid', clear cr.taker.who d base cr.taker.baseBalance mid = .ok mid' ∧
      ∃ last, clear cr.taker.who d quote cr.taker.quoteBalance mid' = .ok last ∧
      ∃ external, payBaseFee base broker beneficiary cr.baseFee
        (putProfit d season quote cr.quoteFee { last with external := external }) = .ok s' := by
  simp only [applyLimit, bind_eq_ok, pure_eq_ok, ensure_eq_ok, exists_const, Prod.mk.injEq] at h
  obtain ⟨-, -, -, cr, hcr, mid, hmakers, mid', hbase, last, hquote, final, hfee, rfl, rfl⟩ := h
  exact ⟨rfl, cr, hcr, mid, hmakers, mid', hbase, last, hquote, _, hfee⟩

/-- What clearing, other pallets, profits and fees keep, an order keeps. -/
theorem applyLimit_invariant (P : State cfg → Prop)
    (hclear : ∀ who token balance s s', P s → clear who d token balance s = .ok s' → P s')
    (hexternal : ∀ (s : State cfg) external, P s → P { s with external := external })
    (hprofit : ∀ fee s, P s → P (putProfit d season quote fee s))
    (hfee : ∀ fee s s', P s → payBaseFee base broker beneficiary fee s = .ok s' → P s') (hs : P s)
    (h : applyLimit side price amount makerFee takerFee base quote broker d beneficiary season proof s =
      .ok (trade, s')) : P s' := by
  obtain ⟨-, cr, -, mid, hmakers, mid', hbase, last, hquote, external, hpay⟩ := applyLimit_steps h
  have hmid : P mid := by
    refine foldlM_invariant P (fun s maker s' hs hmaker => ?_) hs hmakers
    simp only [clearMaker, bind_eq_ok, pure_eq_ok] at hmaker
    obtain ⟨next, hnext, next', hnext', external, -, rfl⟩ := hmaker
    exact hexternal _ _ (hclear _ _ _ _ _ (hclear _ _ _ _ _ hs hnext) hnext')
  have hlast := hclear _ _ _ _ _ (hclear _ _ _ _ _ hmid hbase) hquote
  exact hfee _ _ _ (hprofit _ _ (hexternal _ _ hlast)) hpay

end Order

/-! ### Transfers -/

section Transfers

variable {currency : U32} {amount : U128}

theorem receiptFor_eq_ok {expected : Receipt cfg.Call → Bool} {user : AccountId} {r : Receipt cfg.Call}
    (h : receiptFor expected d user s = .ok r) :
    s.receipts (d, user) = some r ∧ expected r = true := by
  simp only [receiptFor, bind_eq_ok, okOr_eq_ok, ensure_eq_ok, pure_eq_ok, exists_const] at h
  obtain ⟨r, hr, hexpected, rfl⟩ := h
  exact ⟨hr, hexpected⟩

theorem isRevokeReceipt_of_isRevoke {r : Receipt cfg.Call} (h : r.isRevoke currency amount = true) :
    IsRevokeReceipt currency amount r := by
  cases r with
  | authorize => exact absurd h (by simp [Receipt.isRevoke])
  | _ => simpa [Receipt.isRevoke, IsRevokeReceipt] using h

theorem applyTransferOut_eq_ok {callback : Option cfg.Call}
    (h : applyTransferOut currency amount d proof s = .ok (callback, s')) :
    ∃ r, s.receipts (d, proof.userId) = some r ∧ IsRevokeReceipt currency amount r ∧
      verifyTransferOut currency amount proof.userId proof.leaves = .ok () ∧
      ∃ mid, unreserve .authorizing proof.userId currency amount d s = .ok mid ∧
      s' = { mid with receipts := s.receipts.remove (d, proof.userId) } := by
  simp only [applyTransferOut, bind_eq_ok, pure_eq_ok, Prod.mk.injEq] at h
  obtain ⟨r, hr, u, hleaves, mid, hmid, -, rfl⟩ := h
  obtain ⟨hreceipt, hrevoke⟩ := receiptFor_eq_ok hr
  refine ⟨r, hreceipt, isRevokeReceipt_of_isRevoke hrevoke, hleaves, mid, hmid, ?_⟩
  rw [(unreserve_eq_ok hmid).1]

/-- The stash is dropped, and the amount of the receipt is authorised. -/
theorem applyTransferIn_eq_ok (h : applyTransferIn currency amount d proof s = .ok s') :
    (∃ block, s.receipts (d, proof.userId) = some (.authorize currency amount block)) ∧
      verifyTransferIn currency amount proof.userId proof.leaves = .ok () ∧
      s' = { s with reserves := s'.reserves, receipts := s.receipts.remove (d, proof.userId) } ∧
      amounts s'.reserves = Function.update
        (Function.update (amounts s.reserves) ((.authorizingStash, proof.userId, currency), d) 0)
        ((.authorizing, proof.userId, currency), d)
        (amounts s.reserves ((.authorizing, proof.userId, currency), d) + amount.toNat) := by
  simp only [applyTransferIn, bind_eq_ok, pure_eq_ok, okOr_eq_ok, checkedAdd_eq_some] at h
  obtain ⟨r, hr, u, hleaves, total, htotal, rfl⟩ := h
  obtain ⟨hreceipt, hexpected⟩ := receiptFor_eq_ok hr
  refine ⟨?_, hleaves, rfl, ?_⟩
  · cases r with
    | authorize token value block =>
        obtain ⟨rfl, rfl⟩ : token = currency ∧ value = amount := by
          simpa [Receipt.isAuthorize] using hexpected
        exact ⟨block, hreceipt⟩
    | _ => exact absurd hexpected (by simp [Receipt.isAuthorize])
  · rw [amounts_insert, amounts_remove, htotal, toNat_reserveOf, amounts_remove,
      Function.update_of_ne (by simp)]

/-- The proof answers the receipt, or rejects it. -/
def ProofV2.Closes (proof : ProofV2) (r : Receipt cfg.Call) : Prop :=
  match proof.cmd with
  | .transferOut currency amount => IsRevokeReceipt currency amount r
  | .transferIn currency amount => ∃ block, r = .authorize currency amount block
  | .rejectTransferOut currency amount => IsRevokeReceipt currency amount r
  | .rejectTransferIn => ∃ token amount block, r = .authorize token amount block
  | _ => False

/-- A command that does not step forward drops the receipt that it rejects, at most. -/
theorem applyCommand_stay (h : applyCommand d beneficiary season proof s = .ok (.stay s')) :
    s' = s ∨ ∃ r, s.receipts (d, proof.userId) = some r ∧ proof.Closes r ∧ s' = dropReceipt d proof r s := by
  unfold applyCommand at h
  cases hcmd : proof.cmd <;> simp only [hcmd, bind_eq_ok, pure_eq_ok, Prod.exists] at h
  case rejectTransferOut currency amount =>
    obtain ⟨mid, hmid, hstay⟩ := h
    obtain rfl := Outcome.stay.inj hstay
    simp only [applyRejectTransferOut, bind_eq_ok, pure_eq_ok] at hmid
    obtain ⟨r, hr, -, -, rfl⟩ := hmid
    obtain ⟨hreceipt, hrevoke⟩ := receiptFor_eq_ok hr
    refine .inr ⟨r, hreceipt, ?_, rfl⟩
    rw [ProofV2.Closes, hcmd]
    exact isRevokeReceipt_of_isRevoke hrevoke
  case rejectTransferIn =>
    obtain ⟨mid, hmid, hstay⟩ := h
    obtain rfl := Outcome.stay.inj hstay
    unfold applyRejectTransferIn at hmid
    split at hmid
    · exact .inl (Except.ok.inj hmid).symm
    · rename_i token amount block hr
      refine .inr ⟨_, hr, ?_, (Except.ok.inj hmid).symm⟩
      rw [ProofV2.Closes, hcmd]
      exact ⟨token, amount, block, rfl⟩
    · exact absurd hmid (by simp)
  all_goals simp at h

end Transfers

/-! ### Commands that step forward -/

/-- The effects of a command that steps forward. -/
inductive Applied (d : AccountId) (proof : ProofV2) (s s' : State cfg) : Prop
  | limit (side : Side) (price amount : U128) (makerFee takerFee base quote : U32)
      (broker : Option AccountId) (beneficiary : AccountId) (season : Season) (trade : Trade)
      (hcmd : proof.cmd = side.limit price amount makerFee takerFee base quote broker)
      (h : applyLimit side price amount makerFee takerFee base quote broker d beneficiary season proof s =
        .ok (trade, s'))
  | cancel (base quote : U32) (unfilled : U128) (external : cfg.External)
      (hcmd : proof.cmd = .cancel base quote)
      (h : verifyCancel base quote proof.userId proof.leaves = .ok unfilled)
      (hs' : s' = { s with external := external })
  | transferOut (currency : U32) (amount : U128) (callback : Option cfg.Call)
      (hcmd : proof.cmd = .transferOut currency amount)
      (h : applyTransferOut currency amount d proof s = .ok (callback, s'))
  | transferIn (currency : U32) (amount : U128) (hcmd : proof.cmd = .transferIn currency amount)
      (h : applyTransferIn currency amount d proof s = .ok s')

theorem applyCommand_forward {trade : Trade} {callback : Option cfg.Call}
    (h : applyCommand d beneficiary season proof s = .ok (.forward trade callback s')) :
    trade.root = proof.root ∧ Applied d proof s s' := by
  unfold applyCommand at h
  cases hcmd : proof.cmd <;> simp only [hcmd, bind_eq_ok, pure_eq_ok, Prod.exists] at h
  case askLimit price amount makerFee takerFee base quote broker =>
    obtain ⟨trade', mid, hlimit, hforward⟩ := h
    obtain ⟨rfl, -, rfl⟩ := Outcome.forward.inj hforward
    exact ⟨(applyLimit_steps hlimit).1, .limit .ask price amount makerFee takerFee base quote broker
      beneficiary season _ hcmd hlimit⟩
  case bidLimit price amount makerFee takerFee base quote broker =>
    obtain ⟨trade', mid, hlimit, hforward⟩ := h
    obtain ⟨rfl, -, rfl⟩ := Outcome.forward.inj hforward
    exact ⟨(applyLimit_steps hlimit).1, .limit .bid price amount makerFee takerFee base quote broker
      beneficiary season _ hcmd hlimit⟩
  case cancel base quote =>
    obtain ⟨unfilled, hcancel, hforward⟩ := h
    obtain ⟨rfl, -, rfl⟩ := Outcome.forward.inj hforward
    exact ⟨rfl, .cancel base quote unfilled _ hcmd hcancel rfl⟩
  case transferOut currency amount =>
    obtain ⟨callback', mid, hout, hforward⟩ := h
    obtain ⟨rfl, rfl, rfl⟩ := Outcome.forward.inj hforward
    exact ⟨rfl, .transferOut currency amount _ hcmd hout⟩
  case transferIn currency amount =>
    obtain ⟨mid, hin, hforward⟩ := h
    obtain ⟨rfl, -, rfl⟩ := Outcome.forward.inj hforward
    exact ⟨rfl, .transferIn currency amount hcmd hin⟩
  all_goals simp at h

theorem applyLimit_frame {side : Side} {price amount : U128} {makerFee takerFee base quote : U32}
    {broker : Option AccountId} {trade : Trade}
    (h : applyLimit side price amount makerFee takerFee base quote broker d beneficiary season proof s =
      .ok (trade, s')) :
    s' = { s with
      asset := s'.asset, external := s'.external, reserves := s'.reserves, bonuses := s'.bonuses } := by
  refine applyLimit_invariant (fun mid => mid = { s with
    asset := mid.asset, external := mid.external, reserves := mid.reserves, bonuses := mid.bonuses })
    (fun who token balance mid mid' hmid hclear => ?_) (fun mid external hmid => ?_)
    (fun fee mid hmid => ?_) (fun fee mid mid' hmid hfee => ?_) rfl h
  · rw [clear_frame hclear, hmid]
  · rw [hmid]
  · rw [putProfit_frame, hmid]
  · rw [payBaseFee_frame hfee, hmid]

/-- An order only writes what is authorised to its dominator. -/
theorem applyLimit_elsewhere {side : Side} {price amount : U128} {makerFee takerFee base quote : U32}
    {broker : Option AccountId} {trade : Trade}
    (h : applyLimit side price amount makerFee takerFee base quote broker d beneficiary season proof s =
      .ok (trade, s')) {key : ReserveKey} (hkey : key.1.1 ≠ .authorizing ∨ key.2 ≠ d) :
    s'.reserves key = s.reserves key := by
  refine applyLimit_invariant (fun mid => mid.reserves key = s.reserves key)
    (fun who token balance mid mid' hmid hclear => ?_) (fun mid external hmid => hmid)
    (fun fee mid hmid => ?_) (fun fee mid mid' hmid hfee => ?_) rfl h
  · rw [clear_frame hclear]
    have hne : key ≠ ((.authorizing, who, token), d) := by
      rintro rfl
      simp at hkey
    exact (StorageMap.insert_of_ne _ _ hne).trans hmid
  · rw [putProfit_frame]
    exact hmid
  · rw [payBaseFee_frame hfee]
    exact hmid

/-- The effects of a command concern the funds, the receipts and the profits. -/
theorem Applied.frame (h : Applied d proof s s') :
    s' = { s with
      asset := s'.asset, external := s'.external, reserves := s'.reserves, bonuses := s'.bonuses
      receipts := s'.receipts } := by
  cases h with
  | limit side price amount makerFee takerFee base quote broker beneficiary season trade hcmd h =>
      rw [applyLimit_frame h]
  | cancel base quote unfilled external hcmd h hs' => rw [hs']
  | transferOut currency amount callback hcmd h =>
      obtain ⟨r, -, -, -, mid, hmid, rfl⟩ := applyTransferOut_eq_ok h
      rw [(unreserve_eq_ok hmid).1]
  | transferIn currency amount hcmd h =>
      obtain ⟨-, -, hframe, -⟩ := applyTransferIn_eq_ok h
      rw [hframe]

/-- The effects of a command write what is authorised to the dominator and what is stashed for it. -/
theorem Applied.records (h : Applied d proof s s') {key : ReserveKey}
    (hkey : key.1.1 ≠ .authorizing ∨ key.2 ≠ d) (hstash : key.1.1 ≠ .authorizingStash ∨ key.2 ≠ d) :
    amounts s'.reserves key = amounts s.reserves key := by
  have hne : ∀ kind who token, key.1.1 ≠ kind ∨ key.2 ≠ d → key ≠ ((kind, who, token), d) := by
    rintro kind who token (hkind | hother) rfl
    · exact hkind rfl
    · exact hother rfl
  cases h with
  | limit side price amount makerFee takerFee base quote broker beneficiary season trade hcmd h =>
      rw [amounts, amounts, applyLimit_elsewhere h hkey]
  | cancel base quote unfilled external hcmd h hs' => rw [hs']
  | transferOut currency amount callback hcmd h =>
      obtain ⟨r, -, -, -, mid, hmid, rfl⟩ := applyTransferOut_eq_ok h
      obtain ⟨-, -, hreserves, -⟩ := unreserve_eq_ok hmid
      change amounts mid.reserves key = _
      rw [hreserves, Function.update_of_ne (hne _ _ _ hkey)]
  | transferIn currency amount hcmd h =>
      obtain ⟨-, -, -, hreserves⟩ := applyTransferIn_eq_ok h
      rw [hreserves, Function.update_of_ne (hne _ _ _ hkey), Function.update_of_ne (hne _ _ _ hstash)]

theorem putProfit_bonuses {key : AccountId × Season} (hkey : key ≠ (d, season)) (token : TokenId) (fee : U128)
    (s : State cfg) : (putProfit d season token fee s).bonuses key = s.bonuses key := by
  unfold putProfit
  split
  · rfl
  · exact StorageMap.insert_of_ne _ _ hkey

/-- Profits are written down for one season. -/
theorem applyCommand_bonuses {trade : Trade} {callback : Option cfg.Call}
    (h : applyCommand d beneficiary season proof s = .ok (.forward trade callback s')) {key : AccountId × Season}
    (hkey : key ≠ (d, season)) : s'.bonuses key = s.bonuses key := by
  have hlimit : ∀ {side price amount makerFee takerFee base quote broker trade'},
      applyLimit side price amount makerFee takerFee base quote broker d beneficiary season proof s =
        .ok (trade', s') → s'.bonuses key = s.bonuses key := by
    intro side price amount makerFee takerFee base quote broker trade' hlimit
    refine applyLimit_invariant (fun mid => mid.bonuses key = s.bonuses key)
      (fun who token balance mid mid' hmid hclear => ?_) (fun mid external hmid => hmid)
      (fun fee mid hmid => (putProfit_bonuses hkey quote fee mid).trans hmid)
      (fun fee mid mid' hmid hfee => ?_) rfl hlimit
    · rw [clear_frame hclear]
      exact hmid
    · rw [payBaseFee_frame hfee]
      exact hmid
  unfold applyCommand at h
  cases hcmd : proof.cmd <;> simp only [hcmd, bind_eq_ok, pure_eq_ok, Prod.exists] at h
  case askLimit price amount makerFee takerFee base quote broker =>
    obtain ⟨trade', mid, happlied, hforward⟩ := h
    obtain ⟨-, -, rfl⟩ := Outcome.forward.inj hforward
    exact hlimit happlied
  case bidLimit price amount makerFee takerFee base quote broker =>
    obtain ⟨trade', mid, happlied, hforward⟩ := h
    obtain ⟨-, -, rfl⟩ := Outcome.forward.inj hforward
    exact hlimit happlied
  case cancel base quote =>
    obtain ⟨unfilled, -, hforward⟩ := h
    obtain ⟨-, -, rfl⟩ := Outcome.forward.inj hforward
    rfl
  case transferOut currency amount =>
    obtain ⟨callback', mid, happlied, hforward⟩ := h
    obtain ⟨-, -, rfl⟩ := Outcome.forward.inj hforward
    obtain ⟨r, -, -, -, last, hlast, rfl⟩ := applyTransferOut_eq_ok happlied
    rw [(unreserve_eq_ok hlast).1]
  case transferIn currency amount =>
    obtain ⟨mid, happlied, hforward⟩ := h
    obtain ⟨-, -, rfl⟩ := Outcome.forward.inj hforward
    rw [(applyTransferIn_eq_ok happlied).2.2.1]
  all_goals simp at h

theorem storeRoot_eq_ok (h : storeRoot d proof s = .ok s') :
    ∃ dominator, s.dominators.lookup d = some dominator ∧
      s' = { s with
        dominators := s.dominators.insert d
          { dominator with merkleRoot := proof.root, sequence := (proof.eventId, s.now) }
        pending := s.pending.tail } := by
  simp only [storeRoot, bind_eq_ok, okOr_eq_ok, pure_eq_ok] at h
  obtain ⟨dominator, hdominator, rfl⟩ := h
  exact ⟨dominator, hdominator, rfl⟩

end Fusotao.Verifier
