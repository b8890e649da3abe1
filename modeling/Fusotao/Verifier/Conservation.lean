import Fusotao.Verifier.Plain
import Fusotao.Verifier.Runtime
import Fusotao.Verifier.Settlement

/-!
# What a settlement conserves

Over the naturals, what the parties of an order have on record afterwards and the fee add up to what they
had before, up to the precision the records are compared with. The pallet compares sums of words that
wrap, so this fails where a sum of the makers leaves the range of a word.
-/

namespace Fusotao.Verifier

open Exec Word MerkleLeaf Token

open scoped BigOperators

variable {cfg : Config}

/-! ### Crediting -/

def freeOf (token : TokenId) (a : AccountId) (s : State cfg) : Nat := (freeBalance token a s.asset).toNat

/-- The accounts that share the base fee. -/
def feeAccounts (broker : Option AccountId) (beneficiary : AccountId) (s : State cfg) : Finset AccountId :=
  match broker with
  | some broker => {cfg.brokerBeneficiary broker s.external, beneficiary}
  | none => {beneficiary}

/-- What the accounts have that share the base fee. -/
def feeBalance (base : TokenId) (broker : Option AccountId) (beneficiary : AccountId) (s : State cfg) :
    Nat :=
  ∑ a ∈ feeAccounts broker beneficiary s, freeOf base a s

/-- No share of the fee takes a free balance over the range of a word. -/
def CreditFits (base : TokenId) (broker : Option AccountId) (beneficiary : AccountId) (fee : U128)
    (s : State cfg) : Prop :=
  match broker with
  | some broker =>
      let half := (cfg.permillMulCeil 500000 fee).toNat
      let first := cfg.brokerBeneficiary broker s.external
      if first = beneficiary then freeOf base first s + fee.toNat < 2 ^ 128
      else freeOf base first s + half < 2 ^ 128 ∧
        freeOf base beneficiary s + (fee.toNat - half) < 2 ^ 128
  | none => freeOf base beneficiary s + fee.toNat < 2 ^ 128

/-- Crediting one account. -/
private theorem credit_eq_ok (hlaw : cfg.token.balances.Lawful) {token : TokenId} {who : AccountId}
    {x : U128} {a a' : Token.State cfg.token}
    (h : tryMutateAccount token who (fun b => .ok (b.1 + x, b.2)) a = .ok a') :
    freeBalance token who a' = freeBalance token who a + x ∧
      (∀ w, w ≠ who → freeBalance token w a' = freeBalance token w a) ∧ SameReserved a a' := by
  obtain ⟨hself, honly⟩ := tryMutateAccount_eq_ok hlaw h
  obtain ⟨hfree, hreserved⟩ := Prod.mk.inj (Except.ok.inj hself)
  refine ⟨hfree.symm, fun w hw => congrArg Prod.fst (honly token w fun heq => hw (Prod.mk.inj heq).2),
    fun t w => ?_⟩
  by_cases htw : (t, w) = (token, who)
  · obtain ⟨rfl, rfl⟩ := Prod.mk.inj htw
    exact hreserved.symm
  · exact congrArg Prod.snd (honly t w htw)

/-- A wrapping sum, as a natural: it either fits, or drops below what is added to. -/
private theorem toNat_add_cases (x y : U128) :
    (x.toNat + y.toNat < 2 ^ 128 ∧ (x + y).toNat = x.toNat + y.toNat) ∨
      (2 ^ 128 ≤ x.toNat + y.toNat ∧ (x + y).toNat + 2 ^ 128 = x.toNat + y.toNat) := by
  have hx := x.isLt
  have hy := y.isLt
  rw [BitVec.toNat_add]
  omega

/-- No fee, no credit. -/
private theorem creditFits_zero (hlaw : cfg.Lawful) (base : TokenId) (broker : Option AccountId)
    (beneficiary : AccountId) (s : State cfg) : CreditFits base broker beneficiary 0 s := by
  have hfree : ∀ a, freeOf base a s < 2 ^ 128 := fun a => BitVec.isLt _
  cases broker with
  | none => exact hfree beneficiary
  | some broker =>
      have hhalf : (cfg.permillMulCeil 500000 0).toNat = 0 :=
        Nat.le_zero.mp (hlaw.permillMulCeil_le 500000 0)
      simp only [CreditFits, hhalf]
      split
      · exact hfree _
      · exact ⟨hfree _, hfree _⟩

/-- The base fee is credited if no share of it wraps; otherwise the accounts have less than before. -/
theorem payBaseFee_eq_ok (hlaw : cfg.Lawful) {base : U32} {broker : Option AccountId}
    {beneficiary : AccountId} {fee : U128} {s s' : State cfg}
    (h : payBaseFee base broker beneficiary fee s = .ok s') :
    s' = { s with asset := s'.asset } ∧ SameReserved s.asset s'.asset ∧
      (CreditFits base broker beneficiary fee s →
        feeBalance base broker beneficiary s' = feeBalance base broker beneficiary s + fee.toNat) ∧
      (¬ CreditFits base broker beneficiary fee s →
        feeBalance base broker beneficiary s' < feeBalance base broker beneficiary s) := by
  have hfeeLt := fee.isLt
  unfold payBaseFee at h
  split at h
  · rename_i hzero
    obtain rfl := pure_eq_ok.mp h
    subst hzero
    exact ⟨rfl, .refl _, fun _ => rfl, fun hnot => absurd (creditFits_zero hlaw _ _ _ _) hnot⟩
  cases broker with
  | none =>
      simp only [bind_eq_ok, pure_eq_ok, exists_eq_left'] at h
      obtain ⟨asset, hasset, rfl⟩ := h
      obtain ⟨hfree, -, hreserved⟩ := credit_eq_ok hlaw.balances hasset
      refine ⟨rfl, hreserved, ?_, ?_⟩ <;>
        simp only [CreditFits, feeBalance, feeAccounts, Finset.sum_singleton, freeOf, hfree] <;>
        rcases toNat_add_cases (freeBalance base beneficiary s.asset) fee with ⟨hfit, hsum⟩ | ⟨hfit, hsum⟩ <;>
        omega
  | some broker =>
      simp only [bind_eq_ok, pure_eq_ok, okOr_eq_ok, checkedSub_eq_some, Prod.exists] at h
      obtain ⟨asset, hasset, rest, hrest, rest', mid, hpair, asset', hasset', rfl⟩ := h
      obtain ⟨rfl, rfl⟩ := Prod.mk.inj hpair
      obtain ⟨hfree, hother, hreserved⟩ := credit_eq_ok hlaw.balances hasset
      obtain ⟨hfree', hother', hreserved'⟩ := credit_eq_ok hlaw.balances hasset'
      refine ⟨rfl, fun t w => (hreserved' t w).trans (hreserved t w), ?_⟩
      simp only [CreditFits, feeBalance, feeAccounts, freeOf]
      by_cases hsame : cfg.brokerBeneficiary broker s.external = beneficiary
      · -- Both shares go to one account.
        rw [if_pos hsame, hsame, Finset.pair_eq_singleton, Finset.sum_singleton, Finset.sum_singleton,
          hfree']
        rw [hsame] at hfree
        rw [hfree]
        rcases toNat_add_cases (freeBalance base beneficiary s.asset) (cfg.permillMulCeil 500000 fee) with
          ⟨hfit, hsum⟩ | ⟨hfit, hsum⟩ <;>
        rcases toNat_add_cases (freeBalance base beneficiary s.asset + cfg.permillMulCeil 500000 fee) rest
          with ⟨hfit', hsum'⟩ | ⟨hfit', hsum'⟩ <;>
        omega
      · rw [if_neg hsame, Finset.sum_pair hsame, Finset.sum_pair hsame, hother' _ hsame, hfree,
          hfree', hother _ (Ne.symm hsame)]
        rcases toNat_add_cases (freeBalance base (cfg.brokerBeneficiary broker s.external) s.asset)
          (cfg.permillMulCeil 500000 fee) with ⟨hfit, hsum⟩ | ⟨hfit, hsum⟩ <;>
        rcases toNat_add_cases (freeBalance base beneficiary s.asset) rest with
          ⟨hfit', hsum'⟩ | ⟨hfit', hsum'⟩ <;>
        omega

/-- Crediting looks at the free balances and the beneficiary of the broker. -/
theorem feeBalance_congr {base : TokenId} {broker : Option AccountId} {beneficiary : AccountId}
    {s s' : State cfg} (hfree : SameFree s.asset s'.asset)
    (hbroker : ∀ broker, cfg.brokerBeneficiary broker s'.external =
      cfg.brokerBeneficiary broker s.external) :
    feeBalance base broker beneficiary s' = feeBalance base broker beneficiary s := by
  simp only [feeBalance, feeAccounts, freeOf, hbroker, hfree base]

theorem creditFits_congr {base : TokenId} {broker : Option AccountId} {beneficiary : AccountId}
    {fee : U128} {s s' : State cfg} (hfree : SameFree s.asset s'.asset)
    (hbroker : ∀ broker, cfg.brokerBeneficiary broker s'.external =
      cfg.brokerBeneficiary broker s.external) :
    CreditFits base broker beneficiary fee s' ↔ CreditFits base broker beneficiary fee s := by
  simp only [CreditFits, freeOf, hbroker, hfree base]

/-! ### Profit -/

def profitOf (dominator : AccountId) (season : Season) (token : TokenId) (s : State cfg) : U128 :=
  ((bonusOf dominator season s).profit.lookup token).getD 0

theorem profitOf_putProfit (dominator : AccountId) (season : Season) (token : TokenId) (fee : U128)
    (s : State cfg) : profitOf dominator season token (putProfit dominator season token fee s) =
      profitOf dominator season token s + fee := by
  unfold putProfit
  split
  · rename_i hzero
    rw [hzero, add_zero]
  · simp only [profitOf, bonusOf, StorageMap.insert_self, Option.getD_some, IterMap.lookup_insert,
      ↓reduceIte]
    cases ((s.bonuses (dominator, season)).getD default).profit.lookup token <;> simp

/-! ### Totals -/

/-- The two totals differ by at most `t`. -/
def Within (x y t : Nat) : Prop := x ≤ y + t ∧ y ≤ x + t

/-- What the first `n` parties have on record. -/
def recorded (token : TokenId) (dominatorId : AccountId) (leaves : List MerkleLeaf) (n : Nat)
    (r : Reserves) : Nat :=
  ∑ i ∈ Finset.range n, (reserveOf r .authorizing (party leaves i) token dominatorId).toNat

def oldTotal (leaf : Nat → MerkleLeaf) (n : Nat) : Nat :=
  ∑ i ∈ Finset.range n, (leaf i).splitOldToSum.toNat

def newTotal (leaf : Nat → MerkleLeaf) (n : Nat) : Nat :=
  ∑ i ∈ Finset.range n, (leaf i).splitNewToSum.toNat

/-- What the leaves gain in total, over the integers. -/
def gain (leaf : Nat → MerkleLeaf) (n : Nat) : ℤ := newTotal leaf n - oldTotal leaf n

theorem oldTotal_succ (leaf : Nat → MerkleLeaf) (n : Nat) :
    oldTotal leaf (n + 1) = oldTotal leaf n + (leaf n).splitOldToSum.toNat := Finset.sum_range_succ ..

theorem newTotal_succ (leaf : Nat → MerkleLeaf) (n : Nat) :
    newTotal leaf (n + 1) = newTotal leaf n + (leaf n).splitNewToSum.toNat := Finset.sum_range_succ ..

/-- The wrapping sum of what leaves gain is their gain modulo `2 ^ 128`. -/
theorem int_sum_incr (leaf : Nat → MerkleLeaf) (n : Nat) :
    int (∑ i ∈ Finset.range n, incr (leaf i)) = gain leaf n % 2 ^ 128 := by
  have hgain : gain leaf n =
      ∑ i ∈ Finset.range n, (int (leaf i).splitNewToSum - int (leaf i).splitOldToSum) := by
    rw [gain, newTotal, oldTotal, Finset.sum_sub_distrib]
    push_cast
    rfl
  rw [hgain, int_sum, Finset.sum_int_mod]
  simp only [incr, int_sub, Int.emod_emod_of_dvd _ (dvd_refl _)]
  rw [← Finset.sum_int_mod]

theorem int_sum_decr (leaf : Nat → MerkleLeaf) (n : Nat) :
    int (∑ i ∈ Finset.range n, decr (leaf i)) = -gain leaf n % 2 ^ 128 := by
  have hgain : -gain leaf n =
      ∑ i ∈ Finset.range n, (int (leaf i).splitOldToSum - int (leaf i).splitNewToSum) := by
    rw [gain, newTotal, oldTotal, Finset.sum_sub_distrib]
    push_cast
    ring
  rw [hgain, int_sum, Finset.sum_int_mod]
  simp only [decr, int_sub, Int.emod_emod_of_dvd _ (dvd_refl _)]
  rw [← Finset.sum_int_mod]

/-! ### Records -/

theorem hasAuthorizedExactlyOn_within {who : AccountId} {token : TokenId} {amount : U128}
    {dominator : AccountId} {r : Reserves}
    (h : hasAuthorizedExactlyOn who token amount dominator r = true) :
    Within (reserveOf r .authorizing who token dominator).toNat amount.toNat precision.toNat := by
  simp only [hasAuthorizedExactlyOn] at h
  split at h
  · rename_i hle
    have hle' : amount.toNat ≤ (reserveOf r .authorizing who token dominator).toNat := hle
    have hdiff := BitVec.le_def.mp (of_decide_eq_true h)
    rw [toNat_sub_of_le hle'] at hdiff
    exact ⟨by omega, by omega⟩
  · rename_i hnot
    have hlt : (reserveOf r .authorizing who token dominator).toNat < amount.toNat := not_le.mp hnot
    have hdiff := BitVec.le_def.mp (of_decide_eq_true h)
    rw [toNat_sub_of_le hlt.le] at hdiff
    exact ⟨by omega, by omega⟩

section Parties

variable {base quote : U32} {dominatorId : AccountId} {leaves : List MerkleLeaf} {r r' : Reserves}
  {n : Nat}

/-- What was on record of the leaves, up to the precision for each of them. -/
theorem recorded_within {token : TokenId} {leaf : Nat → MerkleLeaf}
    (hbacked : ∀ i, i < n → Backed r dominatorId token (leaf i))
    (howner : ∀ i, i < n → ownerOf (leaf i) = party leaves i) :
    Within (recorded token dominatorId leaves n r) (oldTotal leaf n) (precision.toNat * n) := by
  induction n with
  | zero => simp [recorded, oldTotal, Within]
  | succ n ih =>
      obtain ⟨hle, hge⟩ := ih (fun i hi => hbacked i (by omega)) (fun i hi => howner i (by omega))
      obtain ⟨hle', hge'⟩ := hasAuthorizedExactlyOn_within (hbacked n (by omega)).onRecord
      rw [howner n (by omega)] at hle' hge'
      rw [oldTotal_succ, recorded, Finset.sum_range_succ, ← recorded, Nat.mul_succ]
      exact ⟨by omega, by omega⟩

/-- What is on record once the parties are cleared. -/
theorem Cleared.recorded_base (h : Cleared base quote dominatorId leaves n r r') :
    recorded base dominatorId leaves n r' = newTotal (baseLeaf leaves) n := by
  refine Finset.sum_congr rfl fun i hi => ?_
  rw [reserveOf, ← authorizingKey, h.baseRecord i (Finset.mem_range.mp hi), Option.getD_some]

theorem Cleared.recorded_quote (h : Cleared base quote dominatorId leaves n r r') :
    recorded quote dominatorId leaves n r' = newTotal (quoteLeaf leaves) n := by
  refine Finset.sum_congr rfl fun i hi => ?_
  rw [reserveOf, ← authorizingKey, h.quoteRecord i (Finset.mem_range.mp hi), Option.getD_some]

end Parties

/-! ### Conservation -/

/-- Over the naturals, no value is made and none is lost, up to the precision for each leaf: the parties'
records and the base fee, the parties' records and the quote fee. -/
structure Conserved (base quote : TokenId) (broker : Option AccountId) (dominatorId beneficiary : AccountId)
    (season : Season) (leaves : List MerkleLeaf) (n : Nat) (s s' : State cfg) : Prop where
  base : ∃ baseFee : Nat,
    feeBalance base broker beneficiary s' = feeBalance base broker beneficiary s + baseFee ∧
    Within (recorded base dominatorId leaves n s'.reserves + baseFee)
      (recorded base dominatorId leaves n s.reserves) (precision.toNat * n)
  quote : ∃ quoteFee : Nat,
    (profitOf dominatorId season quote s').toNat = (profitOf dominatorId season quote s).toNat + quoteFee ∧
    Within (recorded quote dominatorId leaves n s'.reserves + quoteFee)
      (recorded quote dominatorId leaves n s.reserves) (precision.toNat * n)

/-- The integer is the value of a word. -/
def InWord (x : ℤ) : Prop := 0 ≤ x ∧ x < 2 ^ 128

/-- The makers' totals stay within the range of a word: of base, on the side of zero on which the taker's
own balance moves; and of quote, unless it is checked. -/
def MakersFit (side : Side) (leaves : List MerkleLeaf) (makers : Nat) : Prop :=
  let takerOld := (baseLeaf leaves makers).splitOldToSum.toNat
  let takerNew := (baseLeaf leaves makers).splitNewToSum.toNat
  let baseGain := gain (baseLeaf leaves) makers
  match side with
  | .ask => InWord (if takerNew ≤ takerOld then baseGain else baseGain + 2 ^ 128) ∧
      InWord (-gain (quoteLeaf leaves) makers)
  | .bid => InWord (if takerOld ≤ takerNew then -baseGain else -baseGain + 2 ^ 128)

/-- The fees of an order, from its leaves. -/
def baseFeeOf (cfg : Config) (side : Side) (makerFee takerFee : U32) (leaves : List MerkleLeaf)
    (makers : Nat) : U128 :=
  match side with
  | .ask => cfg.permillMulCeil makerFee (decr (baseLeaf leaves makers))
  | .bid => cfg.permillMulCeil takerFee (∑ i ∈ Finset.range makers, decr (baseLeaf leaves i))

def quoteFeeOf (cfg : Config) (side : Side) (makerFee takerFee : U32) (leaves : List MerkleLeaf)
    (makers : Nat) : U128 :=
  match side with
  | .ask => cfg.permillMulCeil takerFee (∑ i ∈ Finset.range makers, decr (quoteLeaf leaves i))
  | .bid => cfg.permillMulCeil makerFee (decr (quoteLeaf leaves makers))

section Amounts

variable {makerFee takerFee base quote : U32} {makers : Nat} {leaves : List MerkleLeaf}
  {cr : ClearingResult}

/-- The totals of the leaves and a fee balance up to a multiple of `2 ^ 128`, and exactly if and only if
`c`. -/
def BalancesIff (leaf : Nat → MerkleLeaf) (n : Nat) (fee : U128) (c : Prop) : Prop :=
  (∃ k : ℤ, (newTotal leaf n + fee.toNat : ℤ) - oldTotal leaf n = k * 2 ^ 128) ∧
    (newTotal leaf n + fee.toNat = oldTotal leaf n ↔ c)

/-- A difference that is a multiple of `2 ^ 128`, in the form the totals have. -/
private theorem multiple_of_emod {x y : ℤ} (h : (x - y) % 2 ^ 128 = 0) :
    ∃ k : ℤ, x - y = k * 2 ^ 128 := ⟨(x - y) / 2 ^ 128, by omega⟩

theorem AskAmounts.base_balances (hlaw : cfg.Lawful)
    (h : AskAmounts cfg makerFee takerFee makers leaves cr) :
    BalancesIff (baseLeaf leaves) (makers + 1) cr.baseFee
      (InWord (if (baseLeaf leaves makers).splitNewToSum.toNat ≤
          (baseLeaf leaves makers).splitOldToSum.toNat
        then gain (baseLeaf leaves) makers else gain (baseLeaf leaves) makers + 2 ^ 128)) := by
  have hsum := congrArg int h.base
  rw [int_add, int_sum_incr, decr, int_sub] at hsum
  have hfee : cr.baseFee.toNat ≤ (decr (baseLeaf leaves makers)).toNat :=
    h.baseFee ▸ hlaw.permillMulCeil_le _ _
  have hdecr : int (decr (baseLeaf leaves makers)) = _ := int_sub _ _
  have hold := int_lt (baseLeaf leaves makers).splitOldToSum
  have hnew := int_lt (baseLeaf leaves makers).splitNewToSum
  unfold gain int at *
  rw [BalancesIff, newTotal_succ, oldTotal_succ]
  constructor
  · push_cast
    apply multiple_of_emod
    omega
  · unfold InWord
    split <;> omega

/-- The wrapping sums leave no room for the quote tokens: the taker gains what the makers are said to
lose, less the fee. -/
theorem AskAmounts.quote_balances (hlaw : cfg.Lawful)
    (h : AskAmounts cfg makerFee takerFee makers leaves cr) :
    BalancesIff (quoteLeaf leaves) (makers + 1) cr.quoteFee
      (InWord (-gain (quoteLeaf leaves) makers)) := by
  have hsum := congrArg int h.quote
  rw [int_add, int_sum_decr] at hsum
  have hfee : (cr.quoteFee.toNat : ℤ) ≤ int (∑ i ∈ Finset.range makers, decr (quoteLeaf leaves i)) := by
    rw [h.quoteFee]
    exact_mod_cast hlaw.permillMulCeil_le _ _
  rw [int_sum_decr] at hfee
  have hincr : (incr (quoteLeaf leaves makers)).toNat = _ := toNat_sub_of_le h.takerQuoteLe
  have hle := h.takerQuoteLe
  have hnew := int_lt (quoteLeaf leaves makers).splitNewToSum
  unfold gain int at *
  rw [BalancesIff, newTotal_succ, oldTotal_succ]
  constructor
  · push_cast
    apply multiple_of_emod
    omega
  · unfold InWord
    omega

theorem BidAmounts.base_balances (h : BidAmounts cfg makerFee takerFee makers leaves cr) :
    BalancesIff (baseLeaf leaves) (makers + 1) cr.baseFee
      (InWord (if (baseLeaf leaves makers).splitOldToSum.toNat ≤
          (baseLeaf leaves makers).splitNewToSum.toNat
        then -gain (baseLeaf leaves) makers else -gain (baseLeaf leaves) makers + 2 ^ 128)) := by
  have hsum : int (incr (baseLeaf leaves makers)) + cr.baseFee.toNat =
      int (∑ i ∈ Finset.range makers, decr (baseLeaf leaves i)) := by
    exact_mod_cast h.base
  rw [int_sum_decr, incr, int_sub] at hsum
  have hold := int_lt (baseLeaf leaves makers).splitOldToSum
  have hnew := int_lt (baseLeaf leaves makers).splitNewToSum
  unfold gain int at *
  rw [BalancesIff, newTotal_succ, oldTotal_succ]
  constructor
  · push_cast
    apply multiple_of_emod
    omega
  · unfold InWord
    split <;> omega

/-- Every step is checked: nothing is asked of the makers. -/
theorem BidAmounts.quote_balances (h : BidAmounts cfg makerFee takerFee makers leaves cr) :
    newTotal (quoteLeaf leaves) (makers + 1) + cr.quoteFee.toNat =
      oldTotal (quoteLeaf leaves) (makers + 1) := by
  have hmakers : ∑ i ∈ Finset.range makers, (incr (quoteLeaf leaves i)).toNat +
      oldTotal (quoteLeaf leaves) makers = newTotal (quoteLeaf leaves) makers := by
    rw [oldTotal, newTotal, ← Finset.sum_add_distrib]
    refine Finset.sum_congr rfl fun i hi => ?_
    have hle := h.makerQuoteLe i (Finset.mem_range.mp hi)
    rw [incr, toNat_sub_of_le hle]
    omega
  have hquote := h.quote
  have hle := h.takerQuoteLe
  rw [decr, toNat_sub_of_le hle] at hquote
  rw [newTotal_succ, oldTotal_succ]
  omega

end Amounts

/-! ### Settlements -/

/-- No sum that is not checked leaves the range of a word. -/
structure SettlementFits (side : Side) (makerFee takerFee base quote : U32) (broker : Option AccountId)
    (dominatorId beneficiary : AccountId) (season : Season) (leaves : List MerkleLeaf) (makers : Nat)
    (s : State cfg) : Prop where
  makersFit : MakersFit side leaves makers
  creditFits : CreditFits base broker beneficiary (baseFeeOf cfg side makerFee takerFee leaves makers) s
  profitFits : (profitOf dominatorId season quote s).toNat +
    (quoteFeeOf cfg side makerFee takerFee leaves makers).toNat < 2 ^ 128

section Settlements

variable {side : Side} {price amount : U128} {makerFee takerFee base quote : U32}
  {broker : Option AccountId} {dominatorId beneficiary : AccountId} {season : Season} {proof : ProofV2}
  {s s' : State cfg} {trade : Trade} {cr : ClearingResult} {makerAccounts pages : U8}
  {leaves : List MerkleLeaf} {r : Reserves}

/-- Totals that balance up to a multiple of `2 ^ 128` balance up to the precision exactly if they
balance. -/
private theorem within_iff {new old onRecord fee t : Nat} (ht : 2 * t < 2 ^ 128)
    (hrecord : Within onRecord old t) (hmod : ∃ k : ℤ, (new + fee : ℤ) - old = k * 2 ^ 128) :
    Within (new + fee) onRecord t ↔ new + fee = old := by
  obtain ⟨k, hk⟩ := hmod
  unfold Within at *
  constructor
  · intro h
    have hzero : k = 0 := by omega
    subst hzero
    omega
  · omega

/-- How the totals of the leaves and the fees of an accepted order compare. -/
private theorem verifyLimit_balances (hlaw : cfg.Lawful)
    (h : verifyLimit cfg price amount makerFee takerFee base quote makerAccounts pages dominatorId leaves r
      side = .ok cr) :
    cr.baseFee = baseFeeOf cfg side makerFee takerFee leaves (makerAccounts.toNat / 2) ∧
      cr.quoteFee = quoteFeeOf cfg side makerFee takerFee leaves (makerAccounts.toNat / 2) ∧
      ∃ cBase cQuote, BalancesIff (baseLeaf leaves) (makerAccounts.toNat / 2 + 1) cr.baseFee cBase ∧
        BalancesIff (quoteLeaf leaves) (makerAccounts.toNat / 2 + 1) cr.quoteFee cQuote ∧
        (MakersFit side leaves (makerAccounts.toNat / 2) ↔ cBase ∧ cQuote) := by
  cases side with
  | ask =>
      obtain ⟨-, hamounts, -, -⟩ := verifyAskLimit_eq_ok h
      exact ⟨hamounts.baseFee, hamounts.quoteFee, _, _, hamounts.base_balances hlaw,
        hamounts.quote_balances hlaw, Iff.rfl⟩
  | bid =>
      obtain ⟨-, hamounts, -⟩ := verifyBidLimit_eq_ok h
      have hquote := hamounts.quote_balances
      exact ⟨hamounts.baseFee, hamounts.quoteFee, _, True, hamounts.base_balances,
        ⟨⟨0, by omega⟩, iff_of_true hquote trivial⟩, (iff_of_eq (and_true _)).symm⟩

/-- A settlement conserves value exactly if no unchecked sum leaves the range of a word. -/
private theorem applyLimit_conserved_iff (hlaw : cfg.Lawful)
    (hkeys : (proof.leaves.map MerkleLeaf.key).Nodup)
    (h : applyLimit side price amount makerFee takerFee base quote broker dominatorId beneficiary season
      proof s = .ok (trade, s')) :
    Conserved base quote broker dominatorId beneficiary season proof.leaves
        (proof.makerAccountDelta.toNat / 2 + 1) s s' ↔
      SettlementFits side makerFee takerFee base quote broker dominatorId beneficiary season proof.leaves
        (proof.makerAccountDelta.toNat / 2) s := by
  obtain ⟨cr, hcr, -, mid, hcleared, hfee⟩ := applyLimit_eq_ok hlaw hkeys h
  obtain ⟨hb, -⟩ := verifyLimit_checked hcr
  obtain ⟨hbaseFee, hquoteFee, cBase, cQuote, ⟨hbaseMod, hbaseIff⟩, ⟨hquoteMod, hquoteIff⟩, hmakers⟩ :=
    verifyLimit_balances hlaw hcr
  obtain ⟨hframe, -, hfits, hnot⟩ := payBaseFee_eq_ok hlaw hfee
  have hput := putProfit_frame dominatorId season quote cr.quoteFee mid
  have hmid := hcleared.frame
  -- What the fees find, and what they leave.
  have hfree : SameFree s.asset (putProfit dominatorId season quote cr.quoteFee mid).asset := by
    rw [hput]
    exact hcleared.sameFree
  have hbroker : ∀ broker, cfg.brokerBeneficiary broker
      (putProfit dominatorId season quote cr.quoteFee mid).external =
        cfg.brokerBeneficiary broker s.external := by
    rw [hput]
    exact hcleared.broker
  rw [creditFits_congr hfree hbroker, feeBalance_congr hfree hbroker, hbaseFee] at hfits hnot
  have hreserves : s'.reserves = mid.reserves := by
    rw [hframe, hput]
  have hprofit : profitOf dominatorId season quote s' =
      profitOf dominatorId season quote s + quoteFeeOf cfg side makerFee takerFee proof.leaves
        (proof.makerAccountDelta.toNat / 2) := by
    rw [hframe, ← hquoteFee]
    refine (profitOf_putProfit dominatorId season quote cr.quoteFee mid).trans ?_
    rw [hmid]
    rfl
  -- The records before and after.
  have ht : 2 * (precision.toNat * (proof.makerAccountDelta.toNat / 2 + 1)) < 2 ^ 128 := by
    have hlt := proof.makerAccountDelta.isLt
    rw [show precision.toNat = 100000000000 from rfl]
    omega
  have hbaseWithin := within_iff ht
    (recorded_within (fun i hi => (hb.backed i (by omega)).base) fun i _ => rfl) hbaseMod
  have hquoteWithin := within_iff ht
    (recorded_within (fun i hi => (hb.backed i (by omega)).quote) fun i hi => (hb.backed i (by omega)).owner)
    hquoteMod
  rw [hbaseIff, ← hcleared.cleared.recorded_base, ← hreserves] at hbaseWithin
  rw [hquoteIff, ← hcleared.cleared.recorded_quote, ← hreserves] at hquoteWithin
  constructor
  · rintro ⟨⟨baseFee, hbalance, hbase⟩, ⟨quoteFee, hsum, hquote⟩⟩
    have hcredit : CreditFits base broker beneficiary (baseFeeOf cfg side makerFee takerFee proof.leaves
        (proof.makerAccountDelta.toNat / 2)) s := by
      by_contra hwrap
      have := hnot hwrap
      omega
    have hadd := hfits hcredit
    rcases toNat_add_cases (profitOf dominatorId season quote s) (quoteFeeOf cfg side makerFee takerFee
      proof.leaves (proof.makerAccountDelta.toNat / 2)) with ⟨hfit, hsum'⟩ | ⟨hwrap, hsum'⟩
    · obtain rfl : baseFee = cr.baseFee.toNat := by
        rw [hbaseFee]
        omega
      obtain rfl : quoteFee = cr.quoteFee.toNat := by
        rw [hquoteFee]
        rw [hprofit] at hsum
        omega
      exact ⟨hmakers.mpr ⟨hbaseWithin.mp hbase, hquoteWithin.mp hquote⟩, hcredit, hfit⟩
    · rw [hprofit] at hsum
      have := (quoteFeeOf cfg side makerFee takerFee proof.leaves
        (proof.makerAccountDelta.toNat / 2)).isLt
      omega
  · rintro ⟨hmakersFit, hcredit, hprofitFits⟩
    obtain ⟨hbase, hquote⟩ := hmakers.mp hmakersFit
    refine ⟨⟨_, hfits hcredit, hbaseFee ▸ hbaseWithin.mpr hbase⟩, ⟨_, ?_, hquoteFee ▸ hquoteWithin.mpr hquote⟩⟩
    rw [hprofit, toNat_add_of_lt hprofitFits]

/-- An accepted order is applied, and nothing but its root is left to be stored. -/
theorem verifyAndUpdate_limit {dispatch : cfg.Call → Origin → State cfg → Result (State cfg)}
    {knownRoot : MerkleHash} {claimAt : BlockNumber}
    (hcmd : proof.cmd = side.limit price amount makerFee takerFee base quote broker)
    (h : verifyAndUpdate dispatch dominatorId beneficiary knownRoot claimAt proof s = .ok (trade, s')) :
    ∃ mid, applyLimit side price amount makerFee takerFee base quote broker dominatorId beneficiary
        (currentSeason cfg s.now claimAt) proof s = .ok (trade, mid) ∧
      s' = { mid with dominators := s'.dominators, history := s'.history, pending := s'.pending } := by
  simp only [verifyAndUpdate, bind_eq_ok] at h
  obtain ⟨-, -, outcome, houtcome, h⟩ := h
  obtain ⟨trade', mid, happly, rfl⟩ : ∃ trade' mid, applyLimit side price amount makerFee takerFee base
      quote broker dominatorId beneficiary (currentSeason cfg s.now claimAt) proof s =
        .ok (trade', mid) ∧ Outcome.forward trade' none mid = outcome := by
    cases side <;> simp only [Side.limit] at hcmd <;>
      simp only [applyCommand, hcmd, bind_eq_ok, pure_eq_ok, Prod.exists] at houtcome <;>
      exact houtcome
  simp only [dispatchCallback, storeRoot, bind_eq_ok, pure_eq_ok, Except.ok.injEq, exists_eq_left',
    Prod.mk.injEq] at h
  obtain ⟨last, ⟨d, -, rfl⟩, rfl, rfl⟩ := h
  exact ⟨mid, happly, rfl⟩

/-- An accepted order conserves value exactly if no unchecked sum leaves the range of a word. -/
theorem settlement_conserved_iff {dispatch : cfg.Call → Origin → State cfg → Result (State cfg)}
    {knownRoot : MerkleHash} {claimAt : BlockNumber} (hlaw : cfg.Lawful)
    (hcmd : proof.cmd = side.limit price amount makerFee takerFee base quote broker)
    (hkeys : (proof.leaves.map MerkleLeaf.key).Nodup)
    (h : verifyAndUpdate dispatch dominatorId beneficiary knownRoot claimAt proof s = .ok (trade, s')) :
    Conserved base quote broker dominatorId beneficiary (currentSeason cfg s.now claimAt) proof.leaves
        (proof.makerAccountDelta.toNat / 2 + 1) s s' ↔
      SettlementFits side makerFee takerFee base quote broker dominatorId beneficiary
        (currentSeason cfg s.now claimAt) proof.leaves (proof.makerAccountDelta.toNat / 2) s := by
  obtain ⟨mid, hmid, hs'⟩ := verifyAndUpdate_limit hcmd h
  rw [← applyLimit_conserved_iff hlaw hkeys hmid, hs']
  exact ⟨fun ⟨hbase, hquote⟩ => ⟨hbase, hquote⟩, fun ⟨hbase, hquote⟩ => ⟨hbase, hquote⟩⟩

end Settlements

/-! ### An ask that mints

Nothing is traded: the taker has no balance before and after, and two makers gain `2 ^ 127` each, which adds
up to nothing. -/

def mintLeaves : List MerkleLeaf := [
  leafFrom (keyOfOrderbook (0, 1)) (0, 0) (0, 0),
  leafFrom (keyOfAccount 0 bob) (0, 0) (2 ^ 127, 0),
  leafFrom (keyOfAccount 1 bob) (0, 0) (0, 0),
  leafFrom (keyOfAccount 0 carol) (0, 0) (2 ^ 127, 0),
  leafFrom (keyOfAccount 1 carol) (0, 0) (0, 0),
  leafFrom (keyOfAccount 0 alice) (0, 0) (0, 0),
  leafFrom (keyOfAccount 1 alice) (0, 0) (0, 0),
  leafFrom (keyOfBestprice (0, 1)) (0, 0) (0, 0)]

/-- The root of the tree with the two balances. -/
def mintRoot : MerkleHash := List.Vector.replicate 32 7

def mintConfig : Config := plainConfig [{
  root := mintRoot
  entries := [(keyOfAccount 0 bob, halves (2 ^ 127) 0), (keyOfAccount 0 carol, halves (2 ^ 127) 0)] }]

def mintProof : ProofV2 where
  eventId := 1
  userId := alice
  cmd := Side.ask.limit 1 0 0 0 0 1 none
  leaves := mintLeaves
  makerPageDelta := 0
  makerAccountDelta := 4
  merkleProof := []
  root := mintRoot

/-- Token `1` is stable, and `operator` is an active dominator whose tree is empty. -/
def mintState : State mintConfig := {
  State.genesis
    { Token.State.genesis (fun _ => (0, 0)) with
      tokens := StorageMap.insert (fun _ => none) 1 (unitToken.setStable true) } () with
  dominators := AList.insert operator
    { name := [100, 101, 120], staked := 1, merkleRoot := emptyRoot, startFrom := 0, sequence := (0, 0),
      status := .active } ∅ }

theorem plainConfig_lawful (listings : List Listing) : (plainConfig listings).Lawful where
  balances := Balances.plain_lawful
  permillMulCeil_le parts x := by
    have hx := x.isLt
    have hbound : (min parts.toNat 1000000 * x.toNat + 999999) / 1000000 ≤ x.toNat := by
      have hmul : min parts.toNat 1000000 * x.toNat ≤ 1000000 * x.toNat :=
        Nat.mul_le_mul_right _ (Nat.min_le_right _ _)
      omega
    change (BitVec.ofNat 128 _).toNat ≤ x.toNat
    rw [BitVec.toNat_ofNat, Nat.mod_eq_of_lt (by omega)]
    exact hbound
  consumeLiquidity_broker _ _ _ _ _ _ _ _ := rfl
  putLiquidity_broker _ _ _ _ _ _ := rfl

theorem verifyAndUpdate_mint : ∃ trade s',
    verifyAndUpdate (dispatch 0) operator operator emptyRoot 0 mintProof mintState = .ok (trade, s') := by
  obtain ⟨⟨trade, s'⟩, h⟩ := exists_of_isOk (x :=
    verifyAndUpdate (dispatch 0) operator operator emptyRoot 0 mintProof mintState) (by decide +kernel)
  exact ⟨trade, s', h⟩

theorem settlement_conserved_iff_mint : ∃ trade s',
    verifyAndUpdate (dispatch 0) operator operator emptyRoot 0 mintProof mintState = .ok (trade, s') ∧
    (Conserved 0 1 none operator operator 0 mintLeaves 3 mintState s' ↔
      SettlementFits .ask 0 0 0 1 none operator operator 0 mintLeaves 2 mintState) := by
  obtain ⟨trade, s', h⟩ := verifyAndUpdate_mint
  exact ⟨trade, s', h, settlement_conserved_iff (plainConfig_lawful _) rfl (by decide +kernel) h⟩

/-- Two accounts get `2 ^ 127` each on record, and nobody loses anything. -/
theorem ask_mints : ∃ trade s',
    verifyAndUpdate (dispatch 0) operator operator emptyRoot 0 mintProof mintState = .ok (trade, s') ∧
    ¬ Conserved 0 1 none operator operator 0 mintLeaves 3 mintState s' := by
  obtain ⟨trade, s', h⟩ := verifyAndUpdate_mint
  refine ⟨trade, s', h, fun hconserved => ?_⟩
  obtain ⟨mid, hmid, hs'⟩ := verifyAndUpdate_limit
    (show mintProof.cmd = Side.ask.limit 1 0 0 0 0 1 none from rfl) h
  rw [hs'] at hconserved
  have hfits := (applyLimit_conserved_iff (plainConfig_lawful _) (by decide +kernel) hmid).mp
    ⟨hconserved.base, hconserved.quote⟩
  exact absurd hfits.makersFit.1.2 (by decide +kernel)

end Fusotao.Verifier
