import Fusotao.Token.Ledger

/-!
# Minting and burning bridged tokens

A bridge names an amount in the units of the other chain, and the pallet books it in units of
`10^-18`. Scaling up is a loop of multiplications that wrap modulo `2^128`, so an amount too large for
the pallet's units is booked as its residue: `doMint` and `doBurn` are exact when the scaled amount
fits a word, and otherwise wrong unless the residue makes them fail.
-/

namespace Fusotao.Token

open Exec Word

variable {cfg : Config} {s s' : State cfg} {token : TokenId} {who : AccountId} {amount : U128}
  {info : XToken} {decimals : Nat}

/-! ### Scaling -/

theorem toNat_transformDecimalsToStandard_of_gt (amount : U128) (h : decimals > standardDecimals) :
    (transformDecimalsToStandard amount decimals).toNat =
      amount.toNat / 10 ^ (decimals - standardDecimals) := by
  rw [transformDecimalsToStandard, if_pos h, toNat_iterate_udiv]
  rfl

theorem toNat_transformDecimalsToStandard_of_le (amount : U128) (h : decimals ≤ standardDecimals) :
    (transformDecimalsToStandard amount decimals).toNat =
      amount.toNat * 10 ^ (standardDecimals - decimals) % 2 ^ 128 := by
  rw [transformDecimalsToStandard, if_neg (Nat.not_lt.mpr h), toNat_iterate_mul]
  rfl

/-- The amount in units of `10^-18`, over the naturals. -/
def standardAmount (amount : U128) (decimals : Nat) : Nat :=
  amount.toNat * 10 ^ standardDecimals / 10 ^ decimals

/-- The scaled amount fits a word. -/
def ScalesWithinWord (amount : U128) (decimals : Nat) : Prop :=
  standardDecimals < decimals ∨ amount.toNat * 10 ^ (standardDecimals - decimals) < 2 ^ 128

theorem standardAmount_of_gt (amount : U128) (h : decimals > standardDecimals) :
    standardAmount amount decimals = amount.toNat / 10 ^ (decimals - standardDecimals) := by
  have hsplit : 10 ^ decimals = 10 ^ standardDecimals * 10 ^ (decimals - standardDecimals) := by
    rw [← Nat.pow_add, Nat.add_sub_cancel' (Nat.le_of_lt h)]
  rw [standardAmount, hsplit, Nat.mul_comm amount.toNat,
    Nat.mul_div_mul_left _ _ (Nat.pow_pos (by decide))]

theorem standardAmount_of_le (amount : U128) (h : decimals ≤ standardDecimals) :
    standardAmount amount decimals = amount.toNat * 10 ^ (standardDecimals - decimals) := by
  have hsplit : 10 ^ standardDecimals = 10 ^ (standardDecimals - decimals) * 10 ^ decimals := by
    rw [← Nat.pow_add, Nat.sub_add_cancel h]
  rw [standardAmount, hsplit, ← Nat.mul_assoc, Nat.mul_div_cancel _ (Nat.pow_pos (by decide))]

/-- The loop computes the scaled amount exactly when it fits a word. -/
theorem toNat_transformDecimalsToStandard_eq_iff (amount : U128) (decimals : Nat) :
    (transformDecimalsToStandard amount decimals).toNat = standardAmount amount decimals ↔
      ScalesWithinWord amount decimals := by
  unfold ScalesWithinWord
  rcases Nat.lt_or_ge standardDecimals decimals with h | h
  · rw [toNat_transformDecimalsToStandard_of_gt amount h, standardAmount_of_gt amount h]
    exact iff_of_true rfl (.inl h)
  · rw [toNat_transformDecimalsToStandard_of_le amount h, standardAmount_of_le amount h,
      Nat.mod_eq_iff_lt (by decide), or_iff_right (Nat.not_lt.mpr h)]

/-! ### What the two calls do -/

theorem doMint_eq_ok (hamount : amount ≠ 0) (hinfo : s.tokens token = some info)
    (hdecimals : info.decimals? = some decimals) :
    doMint token who amount s = .ok s' ↔
      ∃ total : U128, total.toNat = info.total.toNat +
          (transformDecimalsToStandard amount decimals).toNat ∧
        transformDecimalsToStandard amount decimals ≠ 0 ∧
        ∃ free : U128, free.toNat = ((s.balances (token, who)).getD default).free.toNat +
            (transformDecimalsToStandard amount decimals).toNat ∧
          s' = { s with
            balances := s.balances.insert (token, who)
              { (s.balances (token, who)).getD default with free }
            tokens := s.tokens.insert token (info.setTotal total) } := by
  rw [doMint, if_neg hamount, hinfo]
  simp only [okOr_some, ok_bind, hdecimals, bind_eq_ok, okOr_eq_ok, ensure_eq_ok, pure_eq_ok,
    checkedAdd_eq_some, exists_eq_left', exists_const, eq_comm (b := s')]

theorem doBurn_eq_ok {paid : U128} (hinfo : s.tokens token = some info)
    (hdecimals : info.decimals? = some decimals) :
    doBurn token who amount s = .ok (paid, s') ↔ amount ≠ 0 ∧
      ∃ total : U128, info.total.toNat = total.toNat +
          (transformDecimalsToStandard amount decimals).toNat ∧
        transformDecimalsToStandard amount decimals ≠ 0 ∧
        ∃ account, s.balances (token, who) = some account ∧
        ∃ free : U128, account.free.toNat = free.toNat +
            (transformDecimalsToStandard amount decimals).toNat ∧
          amount = paid ∧ { s with
            balances := s.balances.put (token, who) { account with free }.unlessDead
            tokens := s.tokens.insert token (info.setTotal total) } = s' := by
  rw [doBurn, hinfo]
  simp only [okOr_some, ok_bind, hdecimals, bind_eq_ok, okOr_eq_ok, ensure_eq_ok, pure_eq_ok,
    checkedSub_eq_some, exists_eq_left', exists_const, Prod.mk.injEq]

/-! ### Exactness -/

/-- The total recorded for a token. -/
def issued (token : TokenId) (s : State cfg) : Nat :=
  match s.tokens token with
  | some info => info.total.toNat
  | none => 0

/-- If the burn succeeds, the account and the total fell by the scaled amount. -/
def BurnExact (token : TokenId) (who : AccountId) (amount : U128) (decimals : Nat)
    (s : State cfg) : Prop :=
  ∀ paid s', doBurn token who amount s = .ok (paid, s') → paid = amount ∧
    (freeBalance token who s).toNat =
      (freeBalance token who s').toNat + standardAmount amount decimals ∧
    issued token s = issued token s' + standardAmount amount decimals

/-- If the mint succeeds, the account and the total rose by the scaled amount. -/
def MintExact (token : TokenId) (who : AccountId) (amount : U128) (decimals : Nat)
    (s : State cfg) : Prop :=
  ∀ s', doMint token who amount s = .ok s' →
    (freeBalance token who s').toNat =
      (freeBalance token who s).toNat + standardAmount amount decimals ∧
    issued token s' = issued token s + standardAmount amount decimals

/-- What is left of the scaled amount in a word. -/
def residue (amount : U128) (decimals : Nat) : Nat :=
  amount.toNat * 10 ^ (standardDecimals - decimals) % 2 ^ 128

/-- The residue is nothing, or more than the account or the total has. -/
def BurnRefused (token : TokenId) (who : AccountId) (amount : U128) (decimals : Nat)
    (s : State cfg) : Prop :=
  residue amount decimals = 0 ∨ issued token s < residue amount decimals ∨
    (freeBalance token who s).toNat < residue amount decimals

/-- The residue is nothing, or more than the account or the total can take. -/
def MintRefused (token : TokenId) (who : AccountId) (amount : U128) (decimals : Nat)
    (s : State cfg) : Prop :=
  residue amount decimals = 0 ∨ 2 ^ 128 ≤ issued token s + residue amount decimals ∨
    2 ^ 128 ≤ (freeBalance token who s).toNat + residue amount decimals

theorem freeBalance_of_ne (htoken : token ≠ cfg.nativeTokenId) (who : AccountId) (s : State cfg) :
    freeBalance token who s = ((s.balances (token, who)).getD default).free := if_neg htoken

theorem toNat_transformDecimalsToStandard_of_not_scales
    (h : ¬ ScalesWithinWord amount decimals) :
    (transformDecimalsToStandard amount decimals).toNat = residue amount decimals ∧
      residue amount decimals < standardAmount amount decimals := by
  have hle : decimals ≤ standardDecimals := Nat.le_of_not_lt fun hlt => h (.inl hlt)
  have hbig : 2 ^ 128 ≤ amount.toNat * 10 ^ (standardDecimals - decimals) :=
    Nat.le_of_not_lt fun hlt => h (.inr hlt)
  refine ⟨toNat_transformDecimalsToStandard_of_le amount hle, ?_⟩
  rw [standardAmount_of_le amount hle]
  exact Nat.lt_of_lt_of_le (Nat.mod_lt _ (by decide)) hbig

/-- A burn that goes through takes the scaled amount as the loop computes it. -/
theorem doBurn_moves {paid : U128} (htoken : token ≠ cfg.nativeTokenId)
    (hinfo : s.tokens token = some info) (hdecimals : info.decimals? = some decimals)
    (h : doBurn token who amount s = .ok (paid, s')) :
    paid = amount ∧ transformDecimalsToStandard amount decimals ≠ 0 ∧
      (freeBalance token who s).toNat = (freeBalance token who s').toNat +
        (transformDecimalsToStandard amount decimals).toNat ∧
      issued token s = issued token s' + (transformDecimalsToStandard amount decimals).toNat := by
  obtain ⟨-, total, htotal, hne, account, haccount, free, hfree, rfl, rfl⟩ :=
    (doBurn_eq_ok hinfo hdecimals).mp h
  refine ⟨rfl, hne, ?_, ?_⟩
  · simpa [freeBalance_of_ne htoken, haccount] using hfree
  · simpa [issued, hinfo] using htotal

theorem doMint_moves (htoken : token ≠ cfg.nativeTokenId) (hamount : amount ≠ 0)
    (hinfo : s.tokens token = some info) (hdecimals : info.decimals? = some decimals)
    (h : doMint token who amount s = .ok s') :
    transformDecimalsToStandard amount decimals ≠ 0 ∧
      (freeBalance token who s').toNat = (freeBalance token who s).toNat +
        (transformDecimalsToStandard amount decimals).toNat ∧
      issued token s' = issued token s + (transformDecimalsToStandard amount decimals).toNat := by
  obtain ⟨total, htotal, hne, free, hfree, rfl⟩ := (doMint_eq_ok hamount hinfo hdecimals).mp h
  refine ⟨hne, ?_, ?_⟩
  · simpa [freeBalance_of_ne htoken] using hfree
  · simpa [issued, hinfo] using htotal

/-- A burn goes through if the account and the total have the scaled amount. -/
theorem doBurn_goes_through (htoken : token ≠ cfg.nativeTokenId) (hamount : amount ≠ 0)
    (hinfo : s.tokens token = some info) (hdecimals : info.decimals? = some decimals)
    (hne : transformDecimalsToStandard amount decimals ≠ 0)
    (htotal : (transformDecimalsToStandard amount decimals).toNat ≤ issued token s)
    (hfree : (transformDecimalsToStandard amount decimals).toNat ≤ (freeBalance token who s).toNat) :
    ∃ s', doBurn token who amount s = .ok (amount, s') := by
  have hpos : 0 < (transformDecimalsToStandard amount decimals).toNat :=
    Nat.pos_of_ne_zero fun h => hne (BitVec.eq_of_toNat_eq h)
  simp only [issued, hinfo] at htotal
  rw [freeBalance_of_ne htoken] at hfree
  obtain ⟨account, haccount⟩ : ∃ account, s.balances (token, who) = some account := by
    cases hentry : s.balances (token, who) with
    | some account => exact ⟨account, rfl⟩
    | none =>
        rw [hentry] at hfree
        exact absurd (Nat.lt_of_lt_of_le hpos hfree) (Nat.lt_irrefl 0)
  rw [haccount, Option.getD_some] at hfree
  exact ⟨_, (doBurn_eq_ok hinfo hdecimals).mpr
    ⟨hamount, _, checkedSub_eq_some.mp (if_pos htotal), hne, account, haccount, _,
      checkedSub_eq_some.mp (if_pos hfree), rfl, rfl⟩⟩

theorem doMint_goes_through (htoken : token ≠ cfg.nativeTokenId) (hamount : amount ≠ 0)
    (hinfo : s.tokens token = some info) (hdecimals : info.decimals? = some decimals)
    (hne : transformDecimalsToStandard amount decimals ≠ 0)
    (htotal : issued token s + (transformDecimalsToStandard amount decimals).toNat < 2 ^ 128)
    (hfree : (freeBalance token who s).toNat +
      (transformDecimalsToStandard amount decimals).toNat < 2 ^ 128) :
    ∃ s', doMint token who amount s = .ok s' := by
  simp only [issued, hinfo] at htotal
  rw [freeBalance_of_ne htoken] at hfree
  exact ⟨_, (doMint_eq_ok hamount hinfo hdecimals).mpr
    ⟨_, checkedAdd_eq_some.mp (if_pos htotal), hne, _, checkedAdd_eq_some.mp (if_pos hfree), rfl⟩⟩

theorem ne_zero_of_not_scales (h : ¬ ScalesWithinWord amount decimals) : amount ≠ 0 := by
  rintro rfl
  exact h (.inr (by simp))

/-- A burn is exact if and only if the scaled amount fits a word, or its residue is refused. -/
theorem burnExact_iff (htoken : token ≠ cfg.nativeTokenId)
    (hinfo : s.tokens token = some info) (hdecimals : info.decimals? = some decimals) :
    BurnExact token who amount decimals s ↔
      ScalesWithinWord amount decimals ∨ BurnRefused token who amount decimals s := by
  by_cases hscales : ScalesWithinWord amount decimals
  · refine iff_of_true (fun paid s' h => ?_) (.inl hscales)
    obtain ⟨hpaid, -, hfree, htotal⟩ := doBurn_moves htoken hinfo hdecimals h
    rw [(toNat_transformDecimalsToStandard_eq_iff amount decimals).mpr hscales] at hfree htotal
    exact ⟨hpaid, hfree, htotal⟩
  · obtain ⟨hresidue, hless⟩ := toNat_transformDecimalsToStandard_of_not_scales hscales
    rw [or_iff_right hscales]
    constructor
    · intro hexact
      by_contra hrefused
      simp only [BurnRefused, not_or, Nat.not_lt] at hrefused
      obtain ⟨hne, htotal, hfree⟩ := hrefused
      rw [← hresidue] at hne htotal hfree
      obtain ⟨s', h⟩ := doBurn_goes_through htoken (ne_zero_of_not_scales hscales) hinfo hdecimals
        (fun hzero => hne (congrArg BitVec.toNat hzero)) htotal hfree
      have hwant := (hexact amount s' h).2.1
      have hgot := (doBurn_moves htoken hinfo hdecimals h).2.2.1
      omega
    · intro hrefused paid s' h
      obtain ⟨-, hne, hfree, htotal⟩ := doBurn_moves htoken hinfo hdecimals h
      have hpos : residue amount decimals ≠ 0 :=
        fun hzero => hne (BitVec.eq_of_toNat_eq (hresidue.trans hzero))
      unfold BurnRefused at hrefused
      omega

/-- A mint is exact if and only if the scaled amount fits a word, or its residue is refused. -/
theorem mintExact_iff (htoken : token ≠ cfg.nativeTokenId)
    (hinfo : s.tokens token = some info) (hdecimals : info.decimals? = some decimals) :
    MintExact token who amount decimals s ↔
      ScalesWithinWord amount decimals ∨ MintRefused token who amount decimals s := by
  by_cases hscales : ScalesWithinWord amount decimals
  · refine iff_of_true (fun s' h => ?_) (.inl hscales)
    rcases eq_or_ne amount 0 with rfl | hamount
    · obtain rfl : s = s' := by simpa [doMint] using h
      simp [standardAmount]
    · obtain ⟨-, hfree, htotal⟩ := doMint_moves htoken hamount hinfo hdecimals h
      rw [(toNat_transformDecimalsToStandard_eq_iff amount decimals).mpr hscales] at hfree htotal
      exact ⟨hfree, htotal⟩
  · obtain ⟨hresidue, hless⟩ := toNat_transformDecimalsToStandard_of_not_scales hscales
    have hamount := ne_zero_of_not_scales hscales
    rw [or_iff_right hscales]
    constructor
    · intro hexact
      by_contra hrefused
      simp only [MintRefused, not_or, Nat.not_le] at hrefused
      obtain ⟨hne, htotal, hfree⟩ := hrefused
      rw [← hresidue] at hne htotal hfree
      obtain ⟨s', h⟩ := doMint_goes_through htoken hamount hinfo hdecimals
        (fun hzero => hne (congrArg BitVec.toNat hzero)) htotal hfree
      have hwant := (hexact s' h).1
      have hgot := (doMint_moves htoken hamount hinfo hdecimals h).2.1
      omega
    · intro hrefused s' h
      obtain ⟨hne, hfree, htotal⟩ := doMint_moves htoken hamount hinfo hdecimals h
      have hpos : residue amount decimals ≠ 0 :=
        fun hzero => hne (BitVec.eq_of_toNat_eq (hresidue.trans hzero))
      have hbound := (freeBalance token who s').isLt
      have htotal' : issued token s' < 2 ^ 128 := by
        unfold issued
        split
        · exact BitVec.isLt _
        · decide
      unfold MintRefused at hrefused
      omega

/-- Bridged amounts are booked exactly in precisely these cases. -/
theorem bridged_amount_exact_iff (htoken : token ≠ cfg.nativeTokenId)
    (hinfo : s.tokens token = some info) (hdecimals : info.decimals? = some decimals) :
    (BurnExact token who amount decimals s ↔
      ScalesWithinWord amount decimals ∨ BurnRefused token who amount decimals s) ∧
    (MintExact token who amount decimals s ↔
      ScalesWithinWord amount decimals ∨ MintRefused token who amount decimals s) :=
  ⟨burnExact_iff htoken hinfo hdecimals, mintExact_iff htoken hinfo hdecimals⟩

/-! ### An amount that wraps -/

/-- A token pallet over the plain ledger, whose native token is token `0`. -/
def plainConfig : Config where
  balances := .plain
  nativeTokenId := 0

/-- A token without decimals. -/
def unitToken : XToken := .erc20 [85, 78, 73] (List.replicate 20 1) 0 false 0

def emptyState : State plainConfig := State.genesis fun _ => (0, 0)

/-- The storage once `unitToken` is created. -/
def unitState : State plainConfig where
  balances := emptyState.balances
  tokens := emptyState.tokens.insert 1 unitToken
  nextTokenId := 2
  tokenByName := emptyState.tokenByName
  tokenByContract := emptyState.tokenByContract
  native := emptyState.native

/-- The inverse of `5 ^ 18` modulo `2 ^ 110`: scaled by `10 ^ 18` it leaves `2 ^ 18`. -/
def inverseAmount : U128 := 1183241514548696285674702744127081

/-- The storage once `inverseAmount` of `unitToken` is minted. -/
def mintedState (who : AccountId) : State plainConfig where
  balances := emptyState.balances.insert (1, who) ⟨2 ^ 18, 0⟩
  tokens := unitState.tokens.insert 1 (unitToken.setTotal (2 ^ 18))
  nextTokenId := 2
  tokenByName := emptyState.tokenByName
  tokenByContract := emptyState.tokenByContract
  native := emptyState.native

def alice : AccountId := List.Vector.replicate 32 1

theorem bridged_amount_exact_iff_unitToken :
    (BurnExact 1 alice 5 0 unitState ↔
      ScalesWithinWord 5 0 ∨ BurnRefused 1 alice 5 0 unitState) ∧
    (MintExact 1 alice 5 0 unitState ↔
      ScalesWithinWord 5 0 ∨ MintRefused 1 alice 5 0 unitState) :=
  bridged_amount_exact_iff (by decide) (show unitState.tokens 1 = some unitToken by decide) (by decide)

set_option maxRecDepth 4000 in
/-- A token is created, an amount of it is minted and burnt again: either call books `2 ^ 18` for an
amount that is worth more than a word holds. -/
theorem bridged_amount_wraps :
    create unitToken emptyState = .ok (1, unitState) ∧
    doMint 1 alice inverseAmount unitState = .ok (mintedState alice) ∧
    (∃ s, doBurn 1 alice inverseAmount (mintedState alice) = .ok (inverseAmount, s)) ∧
    ¬ MintExact 1 alice inverseAmount 0 unitState ∧
    ¬ BurnExact 1 alice inverseAmount 0 (mintedState alice) := by
  have hmint : doMint 1 alice inverseAmount unitState = .ok (mintedState alice) := rfl
  refine ⟨rfl, hmint, ⟨_, rfl⟩, fun h => ?_, fun h => ?_⟩
  · exact absurd (h _ hmint).1 (by decide)
  · exact absurd (h _ _ rfl).2.1 (by decide)

end Fusotao.Token
