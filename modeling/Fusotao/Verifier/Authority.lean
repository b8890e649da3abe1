import Fusotao.Verifier.Calls
import Fusotao.Verifier.Evicted
import Fusotao.Verifier.Mirror

/-!
# Who disposes of what an owner has

What an owner has with a dominator moves in two ways: a call deposits or withdraws for the owner, or a proof of the
dominator opens the account of the owner. Nothing else moves it, whatever is dispatched on the way. From an eviction
on the second way is closed.
-/

namespace Fusotao.Verifier

open Exec MerkleLeaf
open Token (alice)

variable {cfg : Config} {s s' : State cfg} {d owner : AccountId} {token : TokenId} {proof : ProofV2}

/-! ### What a proof opens -/

/-- A leaf of the proof is the account of the owner. -/
def ProofV2.Opens (proof : ProofV2) (owner : AccountId) (token : TokenId) : Prop :=
  ∃ leaf ∈ proof.leaves, leaf.key = keyOfAccount token owner

theorem opens_of_nth {i : Nat} (hi : i < proof.leaves.length)
    (hkey : (nth proof.leaves i).key = keyOfAccount token owner) : proof.Opens owner token :=
  ⟨_, nth_mem hi, hkey⟩

theorem clear_records {who : AccountId} {balance : U128} (h : clear who d token balance s = .ok s') {key : ReserveKey}
    (hkey : key ≠ ((.authorizing, who, token), d)) : amounts s'.reserves key = amounts s.reserves key := by
  rw [clear_frame h, amounts_insert, Function.update_of_ne hkey]

/-- An order writes the records of the accounts its proof opens. -/
theorem applyLimit_records {side : Side} {price amount : U128} {makerFee takerFee base quote : U32}
    {broker : Option AccountId} {beneficiary : AccountId} {season : Season} {trade : Trade}
    (h : applyLimit side price amount makerFee takerFee base quote broker d beneficiary season proof s =
      .ok (trade, s')) {key : ReserveKey} (hkey : ¬ (key.2 = d ∧ proof.Opens key.1.2.1 key.1.2.2)) :
    amounts s'.reserves key = amounts s.reserves key := by
  obtain ⟨-, cr, hcr, mid, hmakers, mid', hbase, last, hquote, external, hpay⟩ := applyLimit_steps h
  obtain ⟨hb, -⟩ := verifyLimit_checked hcr
  have hlength := hb.length
  have heven := hb.even
  have hne : ∀ i, i ≤ proof.makerAccountDelta.toNat / 2 →
      key ≠ ((.authorizing, party proof.leaves i, base), d) ∧
        key ≠ ((.authorizing, party proof.leaves i, quote), d) := by
    intro i hi
    have hbacked := hb.backed i hi
    constructor
    · rintro rfl
      exact hkey ⟨rfl, opens_of_nth (by omega) hbacked.baseKey⟩
    · rintro rfl
      exact hkey ⟨rfl, opens_of_nth (by omega) hbacked.quoteKey⟩
  obtain ⟨filled, hmutations⟩ := hb.makers
  have hmid : amounts mid.reserves key = amounts s.reserves key := by
    refine foldlM_invariant_mem (fun mid : State cfg => amounts mid.reserves key = amounts s.reserves key)
      (fun maker hmaker mid mid' hmid hnext => ?_) rfl hmakers
    rw [hmutations] at hmaker
    obtain ⟨i, hi, rfl⟩ := List.mem_map.mp hmaker
    have hparty := hne i (List.mem_range.mp hi).le
    simp only [clearMaker, bind_eq_ok, pure_eq_ok] at hnext
    obtain ⟨next, hnext, next', hnext', external, -, rfl⟩ := hnext
    exact ((clear_records hnext' hparty.2).trans (clear_records hnext hparty.1)).trans hmid
  have htaker := hne _ (Nat.le_refl _)
  rw [hb.taker] at hbase hquote
  rw [payBaseFee_frame hpay, putProfit_frame]
  exact ((clear_records hquote htaker.2).trans (clear_records hbase htaker.1)).trans hmid

/-- A proof writes the records of the accounts it opens. -/
theorem Applied.records_of_not_opens (h : Applied d proof s s') {key : ReserveKey}
    (hkey : ¬ (key.2 = d ∧ proof.Opens key.1.2.1 key.1.2.2)) :
    amounts s'.reserves key = amounts s.reserves key := by
  cases h with
  | limit side price amount makerFee takerFee base quote broker beneficiary season trade hcmd h =>
      exact applyLimit_records h hkey
  | cancel base quote unfilled external hcmd h hs' => rw [hs']
  | transferOut currency amount callback hcmd h =>
      obtain ⟨r, -, -, hleaves, mid, hmid, rfl⟩ := applyTransferOut_eq_ok h
      obtain ⟨hlength, hopen, -⟩ := verifyTransferOut_eq_ok hleaves
      obtain ⟨-, -, hreserves, -⟩ := unreserve_eq_ok hmid
      change amounts mid.reserves key = _
      rw [hreserves, Function.update_of_ne]
      rintro rfl
      exact hkey ⟨rfl, opens_of_nth (by omega) hopen⟩
  | transferIn currency amount hcmd h =>
      obtain ⟨-, hleaves, -, hreserves⟩ := applyTransferIn_eq_ok h
      obtain ⟨hlength, hopen, -⟩ := verifyTransferIn_eq_ok hleaves
      rw [hreserves, Function.update_of_ne, Function.update_of_ne]
      · rintro rfl
        exact hkey ⟨rfl, opens_of_nth (by omega) hopen⟩
      · rintro rfl
        exact hkey ⟨rfl, opens_of_nth (by omega) hopen⟩

/-- A proof drops the receipt of its user that it answers, at most. -/
theorem Applied.receipts (h : Applied d proof s s') : s'.receipts = s.receipts ∨
    ∃ r, s.receipts (d, proof.userId) = some r ∧ proof.Closes r ∧
      s'.receipts = s.receipts.remove (d, proof.userId) := by
  cases h with
  | limit side price amount makerFee takerFee base quote broker beneficiary season trade hcmd h =>
      rw [applyLimit_frame h]
      exact .inl rfl
  | cancel base quote unfilled external hcmd h hs' =>
      rw [hs']
      exact .inl rfl
  | transferOut currency amount callback hcmd h =>
      obtain ⟨r, hr, hrevoke, -, mid, -, rfl⟩ := applyTransferOut_eq_ok h
      refine .inr ⟨r, hr, ?_, rfl⟩
      rw [ProofV2.Closes, hcmd]
      exact hrevoke
  | transferIn currency amount hcmd h =>
      obtain ⟨⟨block, hr⟩, -, hs', -⟩ := applyTransferIn_eq_ok h
      refine .inr ⟨_, hr, ?_, by rw [hs']⟩
      rw [ProofV2.Closes, hcmd]
      exact ⟨block, rfl⟩

/-! ### Owners that do not act -/

/-- No callback that is stored acts for the owner. -/
def Quiet (owner : AccountId) (receipts : StorageMap (AccountId × AccountId) (Receipt cfg.Call)) : Prop :=
  ∀ d user r c, receipts (d, user) = some r → r.callback? = some c → c.actsFor owner (.signed user) = false

theorem Quiet.remove {receipts : StorageMap (AccountId × AccountId) (Receipt cfg.Call)} (h : Quiet owner receipts)
    (key : AccountId × AccountId) : Quiet owner (receipts.remove key) :=
  fun d user r c hr hc => h d user r c (StorageMap.remove_eq_some hr).2 hc

theorem Quiet.insert {receipts : StorageMap (AccountId × AccountId) (Receipt cfg.Call)} (h : Quiet owner receipts)
    {d user : AccountId} {r : Receipt cfg.Call}
    (hcallback : ∀ c, r.callback? = some c → c.actsFor owner (.signed user) = false) :
    Quiet owner (receipts.insert (d, user) r) := by
  intro d' user' r' c hr hc
  rcases StorageMap.insert_eq_some hr with ⟨hkey, rfl⟩ | ⟨-, hr⟩
  · obtain ⟨rfl, rfl⟩ := Prod.mk.inj hkey
    exact hcallback c hc
  · exact h d' user' r' c hr hc

/-- A proof of the dominator that opens the account of the owner was applied. -/
def Entry.Opens {Callback : Type} (d owner : AccountId) (token : TokenId) : Entry Callback → Prop
  | .applied d' _ proof _ => d' = d ∧ proof.Opens owner token
  | _ => False

/-- A proof of the dominator in the name of the owner was applied that answers the receipt, or one that rejects it. -/
def Entry.Closes (d owner : AccountId) (r : Receipt cfg.Call) : Entry cfg.Call → Prop
  | .applied d' _ proof _ => d' = d ∧ proof.userId = owner ∧ proof.Closes r
  | .rejected d' proof r' => d' = d ∧ proof.userId = owner ∧ proof.Closes r ∧ r' = r
  | _ => False

/-- A receipt is the same, or it is gone by one of the entries. -/
def ReceiptMoved (d owner : AccountId) (entries : List (Entry cfg.Call)) (old new : Option (Receipt cfg.Call)) : Prop :=
  new = old ∨ new = none ∧ ∃ r, old = some r ∧ ∃ e ∈ entries, e.Closes d owner r

/-- What the owner has with dominators, and its receipts, move by the entries only. -/
structure MovedBy (owner : AccountId) (entries : List (Entry cfg.Call)) (s s' : State cfg) : Prop where
  wrote : Wrote entries s s'
  records : ∀ kind token d, kind = .authorizing ∨ kind = .authorizingStash →
    amounts s'.reserves ((kind, owner, token), d) ≠ amounts s.reserves ((kind, owner, token), d) →
      ∃ e ∈ entries, e.Opens d owner token
  receipts : ∀ d, ReceiptMoved d owner entries (s.receipts (d, owner)) (s'.receipts (d, owner))

def MovedByProofs (owner : AccountId) (s s' : State cfg) : Prop := ∃ entries, MovedBy owner entries s s'

theorem MovedByProofs.of_same {entries : List (Entry cfg.Call)} (hwrote : Wrote entries s s')
    (hrecords : ∀ kind token d, kind = .authorizing ∨ kind = .authorizingStash →
      amounts s'.reserves ((kind, owner, token), d) = amounts s.reserves ((kind, owner, token), d))
    (hreceipts : ∀ d, s'.receipts (d, owner) = s.receipts (d, owner)) : MovedByProofs owner s s' :=
  ⟨entries, hwrote, fun kind token d hkind hne => absurd (hrecords kind token d hkind) hne,
    fun d => .inl (hreceipts d)⟩

theorem ReceiptMoved.trans {entries entries' : List (Entry cfg.Call)} {old mid new : Option (Receipt cfg.Call)}
    (h : ReceiptMoved d owner entries old mid) (h' : ReceiptMoved d owner entries' mid new) :
    ReceiptMoved d owner (entries ++ entries') old new := by
  rcases h' with rfl | ⟨hnone, r, rfl, e, he, hcloses⟩
  · rcases h with rfl | ⟨hnone, r, hr, e, he, hcloses⟩
    · exact .inl rfl
    · exact .inr ⟨hnone, r, hr, e, List.mem_append_left _ he, hcloses⟩
  · rcases h with hsame | ⟨hgone, -⟩
    · exact .inr ⟨hnone, r, hsame.symm, e, List.mem_append_right _ he, hcloses⟩
    · exact absurd hgone (by simp)

theorem MovedByProofs.trans {mid : State cfg} (h : MovedByProofs owner s mid) (h' : MovedByProofs owner mid s') :
    MovedByProofs owner s s' := by
  obtain ⟨entries, h⟩ := h
  obtain ⟨entries', h'⟩ := h'
  refine ⟨entries ++ entries', ?_, fun kind token d hkind hne => ?_, fun d => (h.receipts d).trans (h'.receipts d)⟩
  · rw [Wrote, h'.wrote, h.wrote, List.append_assoc]
  · by_cases hmid : amounts mid.reserves ((kind, owner, token), d) = amounts s.reserves ((kind, owner, token), d)
    · obtain ⟨e, he, hopens⟩ := h'.records kind token d hkind (hmid ▸ hne)
      exact ⟨e, List.mem_append_right _ he, hopens⟩
    · obtain ⟨e, he, hopens⟩ := h.records kind token d hkind hmid
      exact ⟨e, List.mem_append_left _ he, hopens⟩

/-- Nothing is written down. -/
theorem Wrote.nil (h : s'.history = s.history) : Wrote [] s s' := h.trans (List.append_nil _).symm

/-- A deposit or a withdrawal of another owner. -/
theorem MovedByProofs.elsewhere {other : AccountId} (hother : other ≠ owner) (hhistory : s'.history = s.history)
    (hrecords : ∀ key : ReserveKey, key.1.2.1 ≠ other → amounts s'.reserves key = amounts s.reserves key)
    (hreceipts : ∀ key : AccountId × AccountId, key.2 ≠ other → s'.receipts key = s.receipts key) :
    MovedByProofs owner s s' :=
  .of_same (.nil hhistory) (fun _ _ _ _ => hrecords _ (Ne.symm hother)) fun _ => hreceipts _ (Ne.symm hother)

theorem SingleEffect.movedByProofs {c : cfg.Call} {origin : Origin} (h : SingleEffect c origin s s')
    (hacts : c.actsFor owner origin = false) (hquiet : Quiet owner s.receipts) :
    Quiet owner s'.receipts ∧ MovedByProofs owner s s' := by
  have hother : ∀ {other}, c.actsFor other origin = true → other ≠ owner := by
    rintro other hother rfl
    exact absurd (hacts.symm.trans hother) (by simp)
  cases h with
  | other hfunds hproof hnow hout =>
      obtain ⟨entries, hwrote, -⟩ := hproof
      refine ⟨hfunds.receipts ▸ hquiet, .of_same hwrote (fun _ _ _ hkind => hfunds.records hkind) fun d => ?_⟩
      rw [hfunds.receipts]
  | authorize other d token amount hother' h =>
      obtain ⟨-, -, mid, -, hs'⟩ := authorizeTo_eq_ok h
      have hreceipts : s'.receipts = s.receipts.insert (d, other) (.authorize token amount s.now) := by
        rw [hs']
      refine ⟨?_, .elsewhere (hother hother') (by rw [authorizeTo_frame h]) (fun key hkey => ?_) fun key hkey => ?_⟩
      · rw [hreceipts]
        apply hquiet.insert
        intro cb hcb
        exact absurd hcb (by simp [Receipt.callback?])
      · apply authorizeTo_records h
        rintro rfl
        exact hkey rfl
      · rw [hreceipts, StorageMap.insert_of_ne]
        rintro rfl
        exact hkey rfl
  | revoke other d token wanted callback hother' hsize hcallback h =>
      have hreceipts := revokeFrom_receipts h
      refine ⟨?_, .elsewhere (hother hother') (by rw [revokeFrom_frame h]) (fun key hkey => ?_) fun key hkey => ?_⟩
      · rcases hreceipts with hs' | hs' | ⟨r, hr, hs'⟩
        · exact hs' ▸ hquiet
        · exact hs' ▸ hquiet.remove _
        · rw [hs']
          apply hquiet.insert
          intro cb hcb
          by_contra hnot
          exact hother (hcallback cb (hr.symm.trans hcb) owner (by simpa using hnot)) rfl
      · apply revokeFrom_records h
        · rintro rfl
          exact hkey rfl
        · rintro rfl
          exact hkey rfl
      · have hne : key ≠ (d, other) := by
          rintro rfl
          exact hkey rfl
        rcases hreceipts with hs' | hs' | ⟨r, -, hs'⟩
        · rw [hs']
        · rw [hs', StorageMap.remove_of_ne _ hne]
        · rw [hs', StorageMap.insert_of_ne _ _ hne]

/-- A receipt is dropped with an entry that closes it, so nobody else's is. -/
theorem receiptMoved_of_remove {d' user : AccountId} {r : Receipt cfg.Call} {entries : List (Entry cfg.Call)}
    {receipts : StorageMap (AccountId × AccountId) (Receipt cfg.Call)} (hr : receipts (d', user) = some r)
    (hcloses : ∃ e ∈ entries, e.Closes d' user r) :
    ReceiptMoved d owner entries (receipts (d, owner)) (receipts.remove (d', user) (d, owner)) := by
  rw [StorageMap.remove_apply]
  split
  · rename_i heq
    obtain ⟨rfl, rfl⟩ := Prod.mk.inj heq
    exact .inr ⟨rfl, r, hr, hcloses⟩
  · exact .inl rfl

theorem BatchStep.movedByProofs (h : BatchStep d s s') (hquiet : Quiet owner s.receipts) :
    Quiet owner s'.receipts ∧ MovedByProofs owner s s' := by
  cases h with
  | apply beneficiary season knownRoot proof trade callback mid hcommand hs' =>
      have h := (applyCommand_forward hcommand).2
      subst hs'
      have hhistory : mid.history = s.history := by
        rw [h.frame]
      have hreceipts : (recordApplied d knownRoot proof mid).receipts = mid.receipts := rfl
      refine ⟨?_, _, congrArg (· ++ _) hhistory, fun kind token d' hkind hne => ?_, fun d' => ?_⟩
      · rcases h.receipts with hs' | ⟨r, -, -, hs'⟩
        · exact hs' ▸ hquiet
        · exact hs' ▸ hquiet.remove _
      · by_contra hnot
        apply hne
        apply h.records_of_not_opens
        rintro ⟨rfl, hopens⟩
        exact hnot ⟨_, List.mem_singleton_self _, rfl, hopens⟩
      · rcases h.receipts with hs' | ⟨r, hr, hcloses, hs'⟩
        · exact .inl (congrFun hs' _)
        · rw [hreceipts, hs']
          exact receiptMoved_of_remove hr ⟨_, List.mem_singleton_self _, rfl, rfl, hcloses⟩
  | reject proof r hr hcloses hs' =>
      have hwrote : Wrote [.rejected d proof r] s s' := congrArg State.history hs'
      subst hs'
      exact ⟨hquiet.remove _, _, hwrote, fun _ _ _ _ hne => absurd rfl hne,
        fun d' => receiptMoved_of_remove hr ⟨_, List.mem_singleton_self _, rfl, rfl, hcloses, rfl⟩⟩
  | store proof h =>
      obtain ⟨dominator, -, rfl⟩ := storeRoot_eq_ok h
      exact ⟨hquiet, .of_same (.nil rfl) (fun _ _ _ _ => rfl) fun _ => rfl⟩
  | prices incr hs' =>
      subst hs'
      exact ⟨hquiet, .of_same (.nil rfl) (fun _ _ _ _ => rfl) fun _ => rfl⟩

theorem kept_movedByProofs (owner : AccountId) : Kept (fun c origin => c.actsFor owner origin = false)
    (fun _ => True) (fun s : State cfg => Quiet owner s.receipts) (MovedByProofs owner) where
  refl := fun s => .of_same (.nil rfl) (fun _ _ _ _ => rfl) fun _ => rfl
  trans := fun s mid s' h h' => h.trans h'
  both := fun first second origin h => by simpa [Call.actsFor] using h
  dispatchAs := fun origin origin' c h => by simpa [Call.actsFor] using h
  attempt := fun origin origin' c h => by simpa [Call.actsFor] using h
  callback := fun s d user r c hquiet hr hc => hquiet d user r c hr hc
  active := fun s d hquiet hactive => trivial
  single := fun s s' c origin hquiet hacts hmoves h => h.movedByProofs hacts hquiet
  batch := fun s s' d hquiet htrue h => h.movedByProofs hquiet

theorem Included.movedByProofs {s₀ : State cfg} {calls : List (cfg.Call × Origin)} (h : Included s₀ calls s)
    (hquiet : Quiet owner s₀.receipts) (hcalls : ∀ call ∈ calls, call.1.actsFor owner call.2 = false) :
    MovedByProofs owner s₀ s := by
  apply And.right
  refine (kept_movedByProofs owner).included (fun s s' hquiet _ hfunds hhistory => ?_) hquiet hcalls h
  refine ⟨hfunds.receipts ▸ hquiet, .of_same (.nil hhistory) (fun _ _ _ hkind => hfunds.records hkind)
    fun d => ?_⟩
  rw [hfunds.receipts]

/-- Nobody else disposes of what an owner has. In a run in which no call acts for the owner, and no callback that is
stored to begin with does, a record of the owner with a dominator only moves if a proof of that dominator is applied
that opens the account of the owner. No new receipt of the owner appears, and one is only gone if a proof of its
dominator in the name of the owner was applied that answers it, or one was accepted that rejects it. -/
theorem nobody_else_disposes {s₀ : State cfg} {calls : List (cfg.Call × Origin)} (h : Included s₀ calls s)
    (hquiet : Quiet owner s₀.receipts) (hcalls : ∀ call ∈ calls, call.1.actsFor owner call.2 = false) :
    (∀ kind token d, kind = .authorizing ∨ kind = .authorizingStash →
      amounts s.reserves ((kind, owner, token), d) ≠ amounts s₀.reserves ((kind, owner, token), d) →
        ∃ knownRoot proof reentrant, .applied d knownRoot proof reentrant ∈ s.history.drop s₀.history.length ∧
          proof.Opens owner token) ∧
      ∀ d, s.receipts (d, owner) = s₀.receipts (d, owner) ∨ s.receipts (d, owner) = none ∧
        ∃ r, s₀.receipts (d, owner) = some r ∧ ∃ proof : ProofV2, proof.userId = owner ∧ proof.Closes r ∧
          ((∃ knownRoot reentrant, .applied d knownRoot proof reentrant ∈ s.history.drop s₀.history.length) ∨
            .rejected d proof r ∈ s.history.drop s₀.history.length) := by
  obtain ⟨entries, hmoved⟩ := h.movedByProofs hquiet hcalls
  have hsince : s.history.drop s₀.history.length = entries := by
    rw [hmoved.wrote, List.drop_left]
  rw [hsince]
  refine ⟨fun kind token d hkind hne => ?_, fun d => (hmoved.receipts d).imp_right ?_⟩
  · obtain ⟨e, he, hopens⟩ := hmoved.records kind token d hkind hne
    cases e with
    | applied d' knownRoot proof reentrant =>
        obtain ⟨rfl, hopens⟩ := hopens
        exact ⟨knownRoot, proof, reentrant, he, hopens⟩
    | _ => exact hopens.elim
  · rintro ⟨hnone, r, hr, e, he, hcloses⟩
    refine ⟨hnone, r, hr, ?_⟩
    cases e with
    | applied d' knownRoot proof reentrant =>
        obtain ⟨rfl, huser, hcloses⟩ := hcloses
        exact ⟨proof, huser, hcloses, .inl ⟨knownRoot, reentrant, he⟩⟩
    | rejected d' proof r' =>
        obtain ⟨rfl, huser, hcloses, rfl⟩ := hcloses
        exact ⟨proof, huser, hcloses, .inr he⟩
    | _ => exact hcloses.elim

/-- A deposit of another owner waits for its proof, the dominator being online. -/
def waitingState : State reentryConfig :=
  { State.genesis (plainAssets 100) () with
    dominators := (∅ : IterMap AccountId Dominator).insert operator
      { name := [100, 101, 120], staked := 1, merkleRoot := depositRoot, startFrom := 0, sequence := (0, 0),
        status := .active }
    receipts := StorageMap.insert (fun _ => none) (operator, alice) (.authorize 0 5 0)
    reserves := StorageMap.insert (fun _ => none) ((.authorizingStash, alice, 0), operator) 5 }

theorem nobody_else_disposes_waiting : ∃ s : State reentryConfig,
    Included waitingState [(.verifyV2 [forgottenProof], .signed operator)] s ∧
    amounts s.reserves ((.authorizing, alice, 0), operator) = 5 ∧
    ∃ knownRoot proof reentrant, .applied operator knownRoot proof reentrant ∈ s.history ∧ proof.Opens alice 0 := by
  obtain ⟨s, hs, hcheck⟩ := exists_of_succeedsWith
    (x := dispatch 1 (.verifyV2 [forgottenProof]) (.signed operator) waitingState)
    (p := fun s => decide (amounts s.reserves ((.authorizing, alice, 0), operator) = 5)) (by decide +kernel)
  have hafter := of_decide_eq_true hcheck
  have hrun := Included.start.call hs
  have hquiet : Quiet alice waitingState.receipts := by
    apply Quiet.insert
    · intro d user r c hr hc
      exact absurd hr (by simp)
    · intro c hc
      exact absurd hc (by simp [Receipt.callback?])
  have hmoved := (nobody_else_disposes hrun hquiet (by simp [Call.actsFor])).1
  refine ⟨s, hrun, hafter, hmoved .authorizing 0 operator (.inl rfl) ?_⟩
  rw [hafter]
  decide

/-! ### Dominators that are evicted -/

def Entry.isProofOf {Callback : Type} (d : AccountId) : Entry Callback → Bool
  | .applied d' _ _ _ => d' = d
  | _ => false

/-- No proof of the dominator is applied, and nobody has more with it. -/
structure OnlyWithdrawn (d : AccountId) (s s' : State cfg) : Prop where
  proofs : ∃ entries, Wrote entries s s' ∧ ∀ e ∈ entries, e.isProofOf d = false
  entrusted : ∀ owner token, entrusted d owner token s' ≤ entrusted d owner token s

theorem OnlyWithdrawn.trans {mid : State cfg} (h : OnlyWithdrawn d s mid) (h' : OnlyWithdrawn d mid s') :
    OnlyWithdrawn d s s' := by
  obtain ⟨entries, hwrote, hproofs⟩ := h.proofs
  obtain ⟨entries', hwrote', hproofs'⟩ := h'.proofs
  refine ⟨⟨entries ++ entries', ?_, List.forall_mem_append.mpr ⟨hproofs, hproofs'⟩⟩, fun owner token =>
    (h'.entrusted owner token).trans (h.entrusted owner token)⟩
  rw [Wrote, hwrote', hwrote, List.append_assoc]

theorem OnlyWithdrawn.of_records {entries : List (Entry cfg.Call)} (hwrote : Wrote entries s s')
    (hproofs : ∀ e ∈ entries, e.isProofOf d = false)
    (hrecords : ∀ kind owner token, kind = .authorizing ∨ kind = .authorizingStash →
      amounts s'.reserves ((kind, owner, token), d) = amounts s.reserves ((kind, owner, token), d)) :
    OnlyWithdrawn d s s' := by
  refine ⟨⟨entries, hwrote, hproofs⟩, fun owner token => ?_⟩
  rw [Verifier.entrusted, Verifier.entrusted, hrecords _ _ _ (.inl rfl), hrecords _ _ _ (.inr rfl)]

theorem OnlyWithdrawn.of_nil (hhistory : s'.history = s.history)
    (hrecords : ∀ kind owner token, kind = .authorizing ∨ kind = .authorizingStash →
      amounts s'.reserves ((kind, owner, token), d) = amounts s.reserves ((kind, owner, token), d)) :
    OnlyWithdrawn d s s' :=
  .of_records (.nil hhistory) (by simp) hrecords

theorem Moves.isEvicted (h : Moves s s') (hevicted : isEvicted d s) : isEvicted d s' := by
  obtain ⟨hrun, -⟩ := h
  induction hrun with
  | refl => exact hevicted
  | tail _ hlast ih => exact hlast.isEvicted ih

theorem BatchStep.isEvicted {d' : AccountId} (h : BatchStep d' s s') (hevicted : isEvicted d s) :
    isEvicted d s' := by
  cases h with
  | apply beneficiary season knownRoot proof trade callback mid hcommand hs' =>
      have h := (applyCommand_forward hcommand).2
      have hdominators : s'.dominators = s.dominators := by
        rw [hs', recordApplied, h.frame]
      obtain ⟨dominator, hlookup, hstatus⟩ := hevicted
      exact ⟨dominator, hdominators ▸ hlookup, hstatus⟩
  | reject proof r hr hcloses hs' => exact hs' ▸ hevicted
  | store proof h =>
      obtain ⟨old, hold, rfl⟩ := storeRoot_eq_ok h
      obtain ⟨dominator, hlookup, hstatus⟩ := hevicted
      by_cases hd : d = d'
      · subst hd
        obtain rfl := Option.some.inj (hold.symm.trans hlookup)
        exact ⟨_, AList.lookup_insert _, hstatus⟩
      · exact ⟨dominator, (AList.lookup_insert_ne hd).trans hlookup, hstatus⟩
  | prices incr hs' => exact hs' ▸ hevicted

end Fusotao.Verifier
