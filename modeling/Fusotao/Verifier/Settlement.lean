import Fusotao.Verifier.LimitPrice
import Fusotao.Verifier.Commands

/-!
# The effects of an order

What an accepted order does to the storage: the amounts on record of its parties become those of their new
leaves, the quote fee joins the profit of the season, and the base fee is credited.
-/

namespace Fusotao.Verifier

open Exec Word MerkleLeaf Token

variable {cfg : Config}

/-- What is documented of the code around the pallet. -/
structure Config.Lawful (cfg : Config) : Prop where
  balances : cfg.token.balances.Lawful
  permillMulCeil_le : ∀ parts x, (cfg.permillMulCeil parts x).toNat ≤ x.toNat
  consumeLiquidity_broker : ∀ who symbol volume now external external',
    cfg.consumeLiquidity who symbol volume now external = .ok external' →
    ∀ broker, cfg.brokerBeneficiary broker external' = cfg.brokerBeneficiary broker external
  putLiquidity_broker : ∀ who symbol volume now external broker,
    cfg.brokerBeneficiary broker (cfg.putLiquidity who symbol volume now external) =
      cfg.brokerBeneficiary broker external

/-! ### Clearing -/

/-- The free balances are the same. -/
def SameFree (s s' : Token.State cfg.token) : Prop :=
  ∀ t a, freeBalance t a s' = freeBalance t a s

theorem SameFree.refl (s : Token.State cfg.token) : SameFree s s := fun _ _ => rfl

theorem SameFree.trans {s s' s'' : Token.State cfg.token} (h : SameFree s s') (h' : SameFree s' s'') :
    SameFree s s'' := fun t a => (h' t a).trans (h t a)

/-- The amount on record becomes `balance`, and the reserved balance follows if it covers that amount. -/
theorem clear_eq_ok (hlaw : cfg.token.balances.Lawful) {who dominator : AccountId} {token : TokenId}
    {balance : U128} {s s' : State cfg} (h : clear who dominator token balance s = .ok s') :
    ∃ asset, s' = { s with
        asset
        reserves := s.reserves.insert ((.authorizing, who, token), dominator) balance } ∧
      SameFree s.asset asset ∧ OnlyAt token who s.asset asset ∧
      (reservedBalance token who asset).toNat =
        (reservedBalance token who s.asset).toNat -
          (reserveOf s.reserves .authorizing who token dominator).toNat + balance.toNat := by
  simp only [clear, bind_eq_ok, pure_eq_ok] at h
  obtain ⟨asset, hasset, rfl⟩ := h
  obtain ⟨hself, honly⟩ := tryMutateAccount_eq_ok hlaw hasset
  simp only [bind_eq_ok, pure_eq_ok, okOr_eq_ok, checkedAdd_eq_some] at hself
  obtain ⟨total, htotal, hself⟩ := hself
  obtain ⟨hfree, hreserved⟩ := Prod.mk.inj hself
  refine ⟨asset, rfl, fun t a => ?_, honly, ?_⟩
  · by_cases ht : (t, a) = (token, who)
    · obtain ⟨rfl, rfl⟩ := Prod.mk.inj ht
      exact hfree.symm
    · exact congrArg Prod.fst (honly t a ht)
  · rw [← hreserved, htotal]
    congr 1
    unfold checkedSub
    split
    · rename_i hle
      exact toNat_sub_of_le hle
    · rename_i hlt
      simp only [Option.getD_none, BitVec.ofNat_eq_ofNat, BitVec.toNat_zero]
      simp only [balancesOf] at hlt
      omega

/-- The record of an account. -/
def authorizingKey (dominator who : AccountId) (token : TokenId) :
    (ReserveId × AccountId × TokenId) × AccountId := ((.authorizing, who, token), dominator)

section Parties

variable {base quote : U32} {dominator : AccountId} {leaves : List MerkleLeaf} {r r' : Reserves} {n : Nat}

/-- The records of the first `n` parties are those of their new leaves, and no other record changes. -/
structure Cleared (base quote : U32) (dominator : AccountId) (leaves : List MerkleLeaf) (n : Nat)
    (r r' : Reserves) : Prop where
  baseRecord : ∀ i, i < n → r' (authorizingKey dominator (party leaves i) base) =
    some (baseLeaf leaves i).splitNewToSum
  quoteRecord : ∀ i, i < n → r' (authorizingKey dominator (party leaves i) quote) =
    some (quoteLeaf leaves i).splitNewToSum
  elsewhere : ∀ key, (∀ i, i < n → key ≠ authorizingKey dominator (party leaves i) base ∧
    key ≠ authorizingKey dominator (party leaves i) quote) → r' key = r key

theorem Cleared.zero (base quote : U32) (dominator : AccountId) (leaves : List MerkleLeaf) (r : Reserves) :
    Cleared base quote dominator leaves 0 r r :=
  ⟨fun i hi => absurd hi (Nat.not_lt_zero i), fun i hi => absurd hi (Nat.not_lt_zero i), fun _ _ => rfl⟩

/-- One more party. -/
theorem Cleared.succ (h : Cleared base quote dominator leaves n r r') (htokens : base ≠ quote)
    (hparty : ∀ i, i < n → party leaves i ≠ party leaves n) :
    Cleared base quote dominator leaves (n + 1) r
      ((r'.insert (authorizingKey dominator (party leaves n) base)
        (baseLeaf leaves n).splitNewToSum).insert
        (authorizingKey dominator (party leaves n) quote) (quoteLeaf leaves n).splitNewToSum) := by
  have htoken : authorizingKey dominator (party leaves n) base ≠
      authorizingKey dominator (party leaves n) quote := by
    simp [authorizingKey, htokens]
  have hother : ∀ i, i < n → ∀ token token', authorizingKey dominator (party leaves i) token ≠
      authorizingKey dominator (party leaves n) token' := by
    intro i hi token token' heq
    exact hparty i hi (congrArg (fun key => key.1.2.1) heq)
  refine ⟨fun i hi => ?_, fun i hi => ?_, fun key hkey => ?_⟩
  · rcases Nat.lt_succ_iff_lt_or_eq.mp hi with hlt | rfl
    · rw [StorageMap.insert_of_ne _ _ (hother i hlt _ _), StorageMap.insert_of_ne _ _ (hother i hlt _ _)]
      exact h.baseRecord i hlt
    · rw [StorageMap.insert_of_ne _ _ htoken, StorageMap.insert_self]
  · rcases Nat.lt_succ_iff_lt_or_eq.mp hi with hlt | rfl
    · rw [StorageMap.insert_of_ne _ _ (hother i hlt _ _), StorageMap.insert_of_ne _ _ (hother i hlt _ _)]
      exact h.quoteRecord i hlt
    · rw [StorageMap.insert_self]
  · obtain ⟨hbase, hquote⟩ := hkey n (Nat.lt_succ_self n)
    rw [StorageMap.insert_of_ne _ _ hquote, StorageMap.insert_of_ne _ _ hbase]
    exact h.elsewhere key fun i hi => hkey i (Nat.lt_succ_of_lt hi)

end Parties

section Order

variable {side : Side} {price amount : U128} {makerFee takerFee base quote : U32}
  {broker : Option AccountId} {dominatorId beneficiary : AccountId} {season : Season} {proof : ProofV2}
  {s s' : State cfg} {trade : Trade} {cr : ClearingResult}

/-- Leaves with distinct keys are of distinct accounts: no two parties are the same, nor are the two
tokens. -/
theorem OrderBacked.distinct {makerAccounts pages : U8} {leaves : List MerkleLeaf} {reserves : Reserves}
    (hb : OrderBacked base quote makerAccounts pages dominatorId leaves reserves cr)
    (hkeys : (leaves.map MerkleLeaf.key).Nodup) :
    base ≠ quote ∧ ∀ i j, i < j → j ≤ makerAccounts.toNat / 2 → party leaves i ≠ party leaves j := by
  have hlength := hb.length
  have heven := hb.even
  constructor
  · intro htokens
    have hfirst := hb.backed 0 (Nat.zero_le _)
    have hsame := hfirst.baseKey.trans (htokens ▸ hfirst.quoteKey.symm)
    exact absurd (nth_key_inj hkeys (by omega) (by omega) hsame) (by omega)
  · intro i j hij hj hparty
    have hsame := (hb.backed i (by omega)).baseKey.trans (hparty ▸ (hb.backed j hj).baseKey.symm)
    exact absurd (nth_key_inj hkeys (by omega) (by omega) hsame) (by omega)

/-- Clearing both accounts of one more party. -/
theorem Cleared.clear {leaves : List MerkleLeaf} {n : Nat} {r : Reserves} {mid mid' last : State cfg}
    (hcleared : Cleared base quote dominatorId leaves n r mid.reserves) (htokens : base ≠ quote)
    (hparty : ∀ i, i < n → party leaves i ≠ party leaves n)
    (hbase : clear (party leaves n) dominatorId base (baseLeaf leaves n).splitNewToSum mid = .ok mid')
    (hquote : clear (party leaves n) dominatorId quote (quoteLeaf leaves n).splitNewToSum mid' =
      .ok last) : Cleared base quote dominatorId leaves (n + 1) r last.reserves := by
  have hreserves : mid'.reserves = mid.reserves.insert (authorizingKey dominatorId (party leaves n) base)
      (baseLeaf leaves n).splitNewToSum := by
    rw [clear_frame hbase]
    rfl
  have hreserves' : last.reserves = mid'.reserves.insert (authorizingKey dominatorId (party leaves n) quote)
      (quoteLeaf leaves n).splitNewToSum := by
    rw [clear_frame hquote]
    rfl
  rw [hreserves', hreserves]
  exact hcleared.succ htokens hparty

/-- The makers are cleared one after the other. -/
theorem clearMakers_cleared {leaves : List MerkleLeaf} {n : Nat} {filled : Nat → U128} (htokens : base ≠ quote)
    (hparty : ∀ i j, i < j → j ≤ n → party leaves i ≠ party leaves j)
    (h : ((List.range n).map fun i => makerMutation leaves (filled i) i).foldlM
      (clearMaker base quote dominatorId) s = .ok s') :
    Cleared base quote dominatorId leaves n s.reserves s'.reserves := by
  rw [List.foldlM_map] at h
  refine foldlM_range_invariant (fun k last =>
    Cleared base quote dominatorId leaves k s.reserves last.reserves) (.zero _ _ _ _ _) ?_ h
  intro k hk mid last ih hbody
  simp only [clearMaker, bind_eq_ok, pure_eq_ok] at hbody
  obtain ⟨mid', hbase, mid'', hquote, external, -, hnext⟩ := hbody
  have hcleared := ih.clear htokens (fun i hi => hparty i k hi (Nat.le_of_lt hk)) hbase hquote
  rw [← hnext]
  exact hcleared

/-- The makers and the taker of an accepted order are cleared: their records are as in their new leaves. -/
theorem order_cleared {mid mid' last : State cfg} (hkeys : (proof.leaves.map MerkleLeaf.key).Nodup)
    (hcr : verifyLimit cfg price amount makerFee takerFee base quote proof.makerAccountDelta
      proof.makerPageDelta dominatorId proof.leaves s.reserves side = .ok cr)
    (hmakers : cr.makers.foldlM (clearMaker base quote dominatorId) s = .ok mid)
    (hbase : clear cr.taker.who dominatorId base cr.taker.baseBalance mid = .ok mid')
    (hquote : clear cr.taker.who dominatorId quote cr.taker.quoteBalance mid' = .ok last) :
    Cleared base quote dominatorId proof.leaves (proof.makerAccountDelta.toNat / 2 + 1) s.reserves
      last.reserves := by
  obtain ⟨hb, -⟩ := verifyLimit_checked hcr
  obtain ⟨htokens, hparty⟩ := hb.distinct hkeys
  obtain ⟨filled, hmutations⟩ := hb.makers
  rw [hmutations] at hmakers
  rw [hb.taker, hb.takerBase] at hbase
  rw [hb.taker, hb.takerQuote] at hquote
  exact (clearMakers_cleared htokens hparty hmakers).clear htokens (fun i hi => hparty i _ hi (Nat.le_refl _))
    hbase hquote

/-- The fees are no matter of the records. -/
theorem applyLimit_cleared (hkeys : (proof.leaves.map MerkleLeaf.key).Nodup)
    (h : applyLimit side price amount makerFee takerFee base quote broker dominatorId beneficiary season
      proof s = .ok (trade, s')) :
    Cleared base quote dominatorId proof.leaves (proof.makerAccountDelta.toNat / 2 + 1) s.reserves
      s'.reserves := by
  obtain ⟨-, cr, hcr, mid, hmakers, mid', hbase, last, hquote, external, hpay⟩ := applyLimit_steps h
  have hcleared := order_cleared hkeys hcr hmakers hbase hquote
  rw [payBaseFee_frame hpay, putProfit_frame]
  exact hcleared

/-- The parties of an order so far, and what is cleared of them. -/
structure OrderCleared (base quote : U32) (dominatorId : AccountId) (n : Nat) (leaves : List MerkleLeaf)
    (s mid : State cfg) : Prop where
  cleared : Cleared base quote dominatorId leaves n s.reserves mid.reserves
  sameFree : SameFree s.asset mid.asset
  broker : ∀ broker, cfg.brokerBeneficiary broker mid.external = cfg.brokerBeneficiary broker s.external
  frame : mid = { s with asset := mid.asset, reserves := mid.reserves, external := mid.external }

/-- What clearing leaves alone. -/
structure ClearedBeside (s mid : State cfg) : Prop where
  sameFree : SameFree s.asset mid.asset
  broker : ∀ broker, cfg.brokerBeneficiary broker mid.external = cfg.brokerBeneficiary broker s.external
  frame : mid = { s with asset := mid.asset, reserves := mid.reserves, external := mid.external }

theorem ClearedBeside.clear (hlaw : cfg.token.balances.Lawful) {mid mid' : State cfg} {who : AccountId}
    {token : TokenId} {balance : U128} (hbeside : ClearedBeside s mid)
    (h : clear who dominatorId token balance mid = .ok mid') : ClearedBeside s mid' := by
  obtain ⟨asset, rfl, hfree, -, -⟩ := clear_eq_ok hlaw h
  refine ⟨hbeside.sameFree.trans hfree, hbeside.broker, ?_⟩
  rw [hbeside.frame]

/-- Other pallets take notice of a trade, and the brokers stay. -/
theorem ClearedBeside.external {mid : State cfg} {external : cfg.External} (hbeside : ClearedBeside s mid)
    (hbroker : ∀ broker, cfg.brokerBeneficiary broker external = cfg.brokerBeneficiary broker mid.external) :
    ClearedBeside s { mid with external } := by
  refine ⟨hbeside.sameFree, fun broker => (hbroker broker).trans (hbeside.broker broker), ?_⟩
  rw [hbeside.frame]

theorem clearMakers_beside (hlaw : cfg.Lawful) {makers : List MakerMutation}
    (h : makers.foldlM (clearMaker base quote dominatorId) s = .ok s') : ClearedBeside s s' := by
  refine foldlM_invariant (ClearedBeside s) (fun mid maker mid' hmid hmaker => ?_)
    ⟨.refl _, fun _ => rfl, rfl⟩ h
  simp only [clearMaker, bind_eq_ok, pure_eq_ok] at hmaker
  obtain ⟨next, hbase, next', hquote, external, hexternal, rfl⟩ := hmaker
  apply ((hmid.clear hlaw.balances hbase).clear hlaw.balances hquote).external
  exact hlaw.consumeLiquidity_broker _ _ _ _ _ _ hexternal

/-- The effects of an accepted order: its parties are cleared, then the fees are paid. -/
theorem applyLimit_eq_ok (hlaw : cfg.Lawful) (hkeys : (proof.leaves.map MerkleLeaf.key).Nodup)
    (h : applyLimit side price amount makerFee takerFee base quote broker dominatorId beneficiary season
      proof s = .ok (trade, s')) :
    ∃ cr, verifyLimit cfg price amount makerFee takerFee base quote proof.makerAccountDelta
        proof.makerPageDelta dominatorId proof.leaves s.reserves side = .ok cr ∧
      trade.root = proof.root ∧ ∃ mid,
      OrderCleared base quote dominatorId (proof.makerAccountDelta.toNat / 2 + 1) proof.leaves s mid ∧
      payBaseFee base broker beneficiary cr.baseFee
        (putProfit dominatorId season quote cr.quoteFee mid) = .ok s' := by
  simp only [applyLimit, bind_eq_ok, pure_eq_ok, ensure_eq_ok, exists_const, Prod.mk.injEq] at h
  obtain ⟨-, -, -, cr, hcr, mid, hmakers, mid', hbase, last, hquote, final, hfee, rfl, rfl⟩ := h
  have hbeside := ((clearMakers_beside hlaw hmakers).clear hlaw.balances hbase).clear hlaw.balances hquote
  have hcleared := order_cleared hkeys hcr hmakers hbase hquote
  obtain ⟨hfree, hbroker, hframe⟩ := hbeside.external (hlaw.putLiquidity_broker _ _ _ _ _)
  refine ⟨cr, hcr, rfl, _, ?_, hfee⟩
  exact ⟨hcleared, hfree, hbroker, hframe⟩

end Order

end Fusotao.Verifier
