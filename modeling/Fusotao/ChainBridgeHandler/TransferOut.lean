import Fusotao.ChainBridgeHandler.Outgoing
import Fusotao.ChainBridgeHandler.TransferIn
import Fusotao.Token.Transfer

/-!
# What a transfer sends out

The amount of a transfer is scaled to standard units, reduced by the fee and rounded down to units of the other
chain. What is rounded off is paid with the fee, so nothing is lost, as long as the fee is not above the amount. The
check that is to keep the fee below one half of the amount is made before the rounding.
-/

namespace Fusotao.ChainBridgeHandler

open Exec Word
open ChainBridge (ResourceId)
open Token (freeBalance issued transformDecimalsToStandard transformDecimalsToExternal ScalesWithinWord)

variable {cfg : OutConfig} {s s' : OutState cfg} {who : AccountId} {token : TokenId} {amount : U128}
  {rId : ResourceId} {recipient : List UInt8} {destId : ChainId} {decimals : Nat}

/-! ### Rounding -/

/-- What an external unit is in standard units, or one of those if that is more. -/
def unit (decimals : Nat) : Nat := 10 ^ (standardDecimals - decimals)

/-- What is bridged of a standard amount after the fee, in standard units again. -/
def bridgedAmount (standardAmount fee : U128) (decimals : Nat) : U128 :=
  transformDecimalsToStandard (transformDecimalsToExternal (standardAmount - fee) decimals) decimals

theorem toNat_transformDecimalsToExternal_of_gt (amount : U128) (h : decimals > standardDecimals) :
    (transformDecimalsToExternal amount decimals).toNat =
      amount.toNat * 10 ^ (decimals - standardDecimals) % 2 ^ 128 := by
  rw [transformDecimalsToExternal, if_pos h, toNat_iterate_mul]
  rfl

theorem toNat_transformDecimalsToExternal_of_le (amount : U128) (h : decimals ≤ standardDecimals) :
    (transformDecimalsToExternal amount decimals).toNat = amount.toNat / unit decimals := by
  rw [transformDecimalsToExternal, if_neg (Nat.not_lt.mpr h), toNat_iterate_udiv]
  rfl

/-- An amount that was scaled down can be scaled up again. -/
theorem standardAmount_external (x : U128) (decimals : Nat) :
    Token.standardAmount (transformDecimalsToExternal x decimals) decimals =
      (transformDecimalsToStandard (transformDecimalsToExternal x decimals) decimals).toNat := by
  refine ((Token.toNat_transformDecimalsToStandard_eq_iff _ _).mpr ?_).symm
  rcases Nat.lt_or_ge standardDecimals decimals with h | h
  · exact .inl h
  · rw [ScalesWithinWord, toNat_transformDecimalsToExternal_of_le x h]
    exact .inr (Nat.lt_of_le_of_lt (Nat.div_mul_le_self _ _) x.isLt)

theorem toNat_bridgedAmount_of_gt (standardAmount fee : U128) (h : decimals > standardDecimals) :
    (bridgedAmount standardAmount fee decimals).toNat = (standardAmount - fee).toNat *
      10 ^ (decimals - standardDecimals) % 2 ^ 128 / 10 ^ (decimals - standardDecimals) := by
  rw [bridgedAmount, Token.toNat_transformDecimalsToStandard_of_gt _ h,
    toNat_transformDecimalsToExternal_of_gt _ h]

theorem toNat_bridgedAmount_of_le (standardAmount fee : U128) (h : decimals ≤ standardDecimals) :
    (bridgedAmount standardAmount fee decimals).toNat =
      (standardAmount - fee).toNat - (standardAmount - fee).toNat % unit decimals := by
  have hle := Nat.div_mul_le_self (standardAmount - fee).toNat (unit decimals)
  have hsplit := Nat.div_add_mod' (standardAmount - fee).toNat (unit decimals)
  rw [bridgedAmount, Token.toNat_transformDecimalsToStandard_of_le _ h,
    toNat_transformDecimalsToExternal_of_le _ h, ← unit,
    Nat.mod_eq_of_lt (Nat.lt_of_le_of_lt hle (standardAmount - fee).isLt)]
  omega

/-- If the fee is not above the amount, what is bridged is what is left after it, rounded down. -/
theorem toNat_bridgedAmount (amount fee : U128) (decimals : Nat)
    (hfee : fee.toNat ≤ (transformDecimalsToStandard amount decimals).toNat) :
    (bridgedAmount (transformDecimalsToStandard amount decimals) fee decimals).toNat =
      (transformDecimalsToStandard amount decimals).toNat - fee.toNat -
        ((transformDecimalsToStandard amount decimals).toNat - fee.toNat) % unit decimals := by
  have hsub := toNat_sub_of_le hfee
  rcases Nat.lt_or_ge standardDecimals decimals with h | h
  · have hunit : unit decimals = 1 := by
      rw [unit, Nat.sub_eq_zero_of_le (Nat.le_of_lt h), Nat.pow_zero]
    have hamount := Nat.div_mul_le_self amount.toNat (10 ^ (decimals - standardDecimals))
    rw [← Token.toNat_transformDecimalsToStandard_of_gt amount h] at hamount
    have hfits : ((transformDecimalsToStandard amount decimals).toNat - fee.toNat) *
        10 ^ (decimals - standardDecimals) < 2 ^ 128 :=
      Nat.lt_of_le_of_lt ((Nat.mul_le_mul_right _ (Nat.sub_le ..)).trans hamount) amount.isLt
    rw [toNat_bridgedAmount_of_gt _ _ h, hsub, hunit, Nat.mod_one, Nat.sub_zero, Nat.mod_eq_of_lt hfits,
      Nat.mul_div_cancel _ (Nat.pow_pos (by decide))]
  · rw [toNat_bridgedAmount_of_le _ _ h, hsub]

theorem unit_le (decimals : Nat) : unit decimals ≤ 10 ^ 18 :=
  Nat.pow_le_pow_right (by decide) (Nat.sub_le _ _)

theorem unit_pos (decimals : Nat) : 0 < unit decimals := Nat.pow_pos (by decide)

/-- Less than a unit is less than an external unit, unless that is less than a standard one. -/
theorem lt_unit {x : Nat} (h : x < unit decimals) : x * 10 ^ decimals < 10 ^ 18 := by
  rcases Nat.lt_or_ge standardDecimals decimals with hgt | hle
  · rw [unit, Nat.sub_eq_zero_of_le (Nat.le_of_lt hgt), Nat.pow_zero] at h
    simp [Nat.lt_one_iff.mp h]
  · calc x * 10 ^ decimals < unit decimals * 10 ^ decimals :=
          Nat.mul_lt_mul_of_pos_right h (Nat.pow_pos (by decide))
      _ = 10 ^ 18 := by rw [unit, ← Nat.pow_add, Nat.sub_add_cancel hle]; rfl

/-! ### What the calls do -/

/-- The transfer of `amount` units of the other chain is sent. -/
def Sent (destId : ChainId) (rId : ResourceId) (recipient : List UInt8) (amount : U128) (s s' : OutState cfg) :
    Prop :=
  ∃ nonce, s'.transfers =
    { destId, nonce, resourceId := rId, amount := amount.setWidth 256, recipient } :: s.transfers

/-- One event tells the amount. -/
theorem Sent.amount_eq {x y : U128} (hx : Sent destId rId recipient x s s')
    (hy : Sent destId rId recipient y s s') : x = y := by
  obtain ⟨nonce, hx⟩ := hx
  obtain ⟨nonce', hy⟩ := hy
  have hamount := congrArg (FungibleTransfer.amount) (List.cons.inj (hx.symm.trans hy)).1
  apply BitVec.eq_of_toNat_eq
  have hnat := congrArg BitVec.toNat hamount
  simp only [BitVec.toNat_setWidth] at hnat
  rwa [Nat.mod_eq_of_lt (x.isLt.trans (by decide)), Nat.mod_eq_of_lt (y.isLt.trans (by decide))] at hnat

theorem transferFungible_eq_ok (h : transferFungible destId rId recipient amount s = .ok s') :
    Sent destId rId recipient amount s s' ∧ s'.asset = s.asset := by
  simp only [transferFungible, bind_eq_ok, pure_eq_ok] at h
  obtain ⟨-, -, rfl⟩ := h
  exact ⟨⟨_, rfl⟩, rfl⟩

/-- The amounts that `doBurnAssets` works with: the amount in standard units, and of it what is sent in units of
the other chain. -/
def externalAmount (standardAmount fee : U128) (decimals : Nat) : U128 :=
  transformDecimalsToExternal (standardAmount - fee) decimals

theorem doBurnAssets_eq_ok {contract : ChainId × U8 × List UInt8} (hresource : decodeResourceId rId = some contract)
    (hcontract : s.asset.tokenByContract (contract.1, contract.2.2) = some token)
    (hdecimals : Token.tokenExternalDecimals token s.asset = .ok decimals)
    (h : doBurnAssets who amount rId recipient destId s = .ok s') :
    calculateBridgingFee destId token s + calculateBridgingFee destId token s <
        transformDecimalsToStandard amount decimals ∧
      Sent destId rId recipient
        (externalAmount (transformDecimalsToStandard amount decimals) (calculateBridgingFee destId token s)
          decimals) s s' ∧
      ∃ paid mid burnt,
        Token.transferToken who token (transformDecimalsToStandard amount decimals -
          bridgedAmount (transformDecimalsToStandard amount decimals) (calculateBridgingFee destId token s)
            decimals) cfg.treasuryAccount s.asset = .ok (paid, mid) ∧
        Token.doBurn token who (externalAmount (transformDecimalsToStandard amount decimals)
          (calculateBridgingFee destId token s) decimals) mid = .ok (burnt, s'.asset) := by
  simp only [doBurnAssets, hresource, okOr_some, ok_bind, hcontract, hdecimals, transferToken, bind_eq_ok,
    ensure_eq_ok, exists_const, pure_eq_ok, Prod.exists] at h
  obtain ⟨hcheck, mid, ⟨paid, asset, hpaid, rfl⟩, burnt, asset', hburnt, hsent⟩ := h
  obtain ⟨⟨nonce, htransfers⟩, hasset⟩ := transferFungible_eq_ok hsent
  refine ⟨hcheck, ⟨nonce, htransfers⟩, paid, asset, burnt, hpaid, ?_⟩
  rw [hasset]
  exact hburnt

/-- The fee and what is burnt, where the sender is not the treasury. -/
structure Charged (token : TokenId) (who : AccountId) (fee burnt : U128) (s s' : OutState cfg) : Prop where
  sender : (freeBalance token who s.asset).toNat =
    (freeBalance token who s'.asset).toNat + fee.toNat + burnt.toNat
  treasury : (freeBalance token cfg.treasuryAccount s'.asset).toNat =
    (freeBalance token cfg.treasuryAccount s.asset).toNat + fee.toNat
  issued : issued token s.asset = issued token s'.asset + burnt.toNat

theorem doBurnAssets_charged {info : XToken} (htoken : token ≠ cfg.verifier.token.nativeTokenId)
    (hinfo : s.asset.tokens token = some info) (hdecimals : info.decimals? = some decimals)
    (hwho : who ≠ cfg.treasuryAccount) {fee external : U128} {mid : Token.State cfg.verifier.token}
    {paid burnt : U128} (hpaid : Token.transferToken who token fee cfg.treasuryAccount s.asset = .ok (paid, mid))
    (hburnt : Token.doBurn token who external mid = .ok (burnt, s'.asset)) :
    Charged token who fee (transformDecimalsToStandard external decimals) s s' := by
  obtain ⟨hdebit, hcredit, -⟩ := Token.transferToken_moved htoken hwho hpaid
  have htokens : mid.tokens = s.asset.tokens := Token.transferToken_tokens hpaid
  have hinfo' : mid.tokens token = some info := by rw [htokens, hinfo]
  obtain ⟨-, -, hfree, hissued⟩ := Token.doBurn_moves htoken hinfo' hdecimals hburnt
  have htreasury := Token.doBurn_onlyAt hburnt token cfg.treasuryAccount
    fun heq => hwho (Prod.mk.inj heq).2.symm
  refine ⟨?_, ?_, ?_⟩
  · have hdebit : (freeBalance token who s.asset).toNat = (freeBalance token who mid).toNat + fee.toNat := hdebit
    omega
  · exact (congrArg (fun b : U128 × U128 => b.1.toNat) htreasury).trans hcredit
  · rw [← hissued]
    simp only [issued, htokens]

/-! ### Bridging out is exact -/

/-- For what is sent, the token's issuance falls by as much, and the sender by as much and what the treasury gains.
Together they are the value of the amount, and the treasury gains the fee and less than an external unit more. -/
structure Exact (token : TokenId) (who : AccountId) (amount external : U128) (decimals fee : Nat)
    (s s' : OutState cfg) : Prop where
  issued : issued token s.asset = issued token s'.asset + Token.standardAmount external decimals
  gains : ∃ gain : Nat,
    (freeBalance token cfg.treasuryAccount s'.asset).toNat =
      (freeBalance token cfg.treasuryAccount s.asset).toNat + gain ∧
    (freeBalance token who s.asset).toNat =
      (freeBalance token who s'.asset).toNat + gain + Token.standardAmount external decimals ∧
    gain + Token.standardAmount external decimals = Token.standardAmount amount decimals ∧
    fee ≤ gain ∧ (gain - fee) * 10 ^ decimals < 10 ^ 18

/-- Whatever the transfer says that is sent, the books are exact for it. -/
def BridgedExactly (token : TokenId) (who : AccountId) (amount : U128) (decimals : Nat) (rId : ResourceId)
    (recipient : List UInt8) (destId : ChainId) (s s' : OutState cfg) : Prop :=
  ∃ external, Sent destId rId recipient external s s' ∧
    Exact token who amount external decimals (calculateBridgingFee destId token s).toNat s s'

theorem tokenExternalDecimals_of_info {info : XToken} (htoken : token ≠ cfg.verifier.token.nativeTokenId)
    (hinfo : s.asset.tokens token = some info) (hdecimals : info.decimals? = some decimals) :
    Token.tokenExternalDecimals token s.asset = .ok decimals := by
  rw [Token.tokenExternalDecimals, if_neg htoken, hinfo, okOr_some, ok_bind, hdecimals, okOr_some]

/-- A burn that goes through is exact if and only if the fee is not above the value of the amount. -/
theorem bridged_exactly_iff {contract : ChainId × U8 × List UInt8} {info : XToken}
    (hresource : decodeResourceId rId = some contract)
    (hcontract : s.asset.tokenByContract (contract.1, contract.2.2) = some token)
    (htoken : token ≠ cfg.verifier.token.nativeTokenId) (hinfo : s.asset.tokens token = some info)
    (hdecimals : info.decimals? = some decimals) (hwho : who ≠ cfg.treasuryAccount)
    (hfits : ScalesWithinWord amount decimals) (h : doBurnAssets who amount rId recipient destId s = .ok s') :
    BridgedExactly token who amount decimals rId recipient destId s s' ↔
      (calculateBridgingFee destId token s).toNat ≤ Token.standardAmount amount decimals := by
  obtain ⟨-, hsent, paid, mid, burnt, hpaid, hburnt⟩ :=
    doBurnAssets_eq_ok hresource hcontract (tokenExternalDecimals_of_info htoken hinfo hdecimals) h
  have hcharged := doBurnAssets_charged htoken hinfo hdecimals hwho hpaid hburnt
  have hvalue := (Token.toNat_transformDecimalsToStandard_eq_iff amount decimals).mpr hfits
  have hexternal := standardAmount_external (transformDecimalsToStandard amount decimals -
    calculateBridgingFee destId token s) decimals
  constructor
  · rintro ⟨external, hsent', -, gain, -, -, htotal, hfee, -⟩
    omega
  · intro hfee
    have hbridged := toNat_bridgedAmount amount (calculateBridgingFee destId token s) decimals
      (by rw [hvalue]; exact hfee)
    have hlost := Nat.mod_lt ((transformDecimalsToStandard amount decimals).toNat -
      (calculateBridgingFee destId token s).toNat) (unit_pos decimals)
    rw [hvalue] at hbridged hlost
    -- What is rounded off is paid to the treasury.
    have hactual : (transformDecimalsToStandard amount decimals - bridgedAmount (transformDecimalsToStandard amount
        decimals) (calculateBridgingFee destId token s) decimals).toNat =
        (calculateBridgingFee destId token s).toNat + (Token.standardAmount amount decimals -
          (calculateBridgingFee destId token s).toNat) % unit decimals := by
      have hmod := Nat.mod_le (Token.standardAmount amount decimals -
        (calculateBridgingFee destId token s).toNat) (unit decimals)
      rw [toNat_sub_of_le (by omega)]
      omega
    refine ⟨_, hsent, ?_, _, hcharged.treasury, ?_, ?_, ?_, ?_⟩
    · rw [externalAmount, hexternal]
      exact hcharged.issued
    · rw [externalAmount, hexternal]
      exact hcharged.sender
    · rw [externalAmount, hexternal, ← bridgedAmount, toNat_sub_of_le (by omega)]
      omega
    · omega
    · rw [hactual, Nat.add_sub_cancel_left]
      exact lt_unit hlost

/-! ### A fee that is charged to nobody

Token `1` is stable and has no decimals, so a fee in dollars is the fee in standard units. -/

def outConfig : OutConfig where
  toConfig := plainConfig
  treasuryAccount := List.Vector.replicate 32 9
  nativeTokenMaxValue := 1000
  perquintill := .exact

/-- Alice has all there is of the token. -/
def dollarState (usd held : U128) : OutState outConfig where
  toState := stateOf {
    Token.unitState with
    balances := StorageMap.insert (fun _ => none) (1, Token.alice) ⟨held, 0⟩
    tokens := StorageMap.insert (fun _ => none) 1 ((Token.unitToken.setTotal held).setStable true)
    tokenByContract := StorageMap.insert (fun _ => none) (1, [65]) 1 }
  nativeCheck := false
  bridgingFeeInUsd _ := some usd
  chains := StorageMap.insert (fun _ => none) 1 0
  prices _ := none
  transfers := []

theorem bridged_exactly_iff_dollar : ∃ s',
    doBurnAssets Token.alice 3 foreignResource [] 1 (dollarState 900000000000000000 (3 * 10 ^ 18)) = .ok s' ∧
    (BridgedExactly 1 Token.alice 3 0 foreignResource [] 1 (dollarState 900000000000000000 (3 * 10 ^ 18)) s' ↔
      (calculateBridgingFee 1 1 (dollarState 900000000000000000 (3 * 10 ^ 18))).toNat ≤
        Token.standardAmount 3 0) := by
  obtain ⟨s', h⟩ := exists_of_isOk (x := doBurnAssets Token.alice 3 foreignResource [] 1
    (dollarState 900000000000000000 (3 * 10 ^ 18))) (by decide +kernel)
  have hresource : decodeResourceId foreignResource = some (1, 0, [65]) := by decide
  have hinfo : (dollarState 900000000000000000 (3 * 10 ^ 18)).asset.tokens 1 =
      some ((Token.unitToken.setTotal (3 * 10 ^ 18)).setStable true) := by decide
  exact ⟨s', h, bridged_exactly_iff hresource (by decide) (by decide) hinfo (by decide) (by decide)
    (.inr (by decide)) h⟩

/-- Alice has nearly as much as a word holds, and the fee is more. -/
def costlyState : OutState outConfig :=
  dollarState (BitVec.ofNat 128 (2 ^ 128 - 3 * 10 ^ 17)) 340282366920938463463000000000000000000

/-- All Alice has is bridged, and the treasury gets nothing. -/
theorem fee_above_amount_is_lost : ∃ s',
    doBurnAssets Token.alice 340282366920938463463 foreignResource [] 1 costlyState = .ok s' ∧
    ¬ BridgedExactly 1 Token.alice 340282366920938463463 0 foreignResource [] 1 costlyState s' := by
  obtain ⟨s', h⟩ := exists_of_isOk (x := doBurnAssets Token.alice 340282366920938463463 foreignResource [] 1
    costlyState) (by decide +kernel)
  refine ⟨s', h, ?_⟩
  rintro ⟨external, -, -, gain, -, -, htotal, hfee, -⟩
  have hless : Token.standardAmount 340282366920938463463 0 < (calculateBridgingFee 1 1 costlyState).toNat := by
    decide +kernel
  omega

/-! ### The threshold -/

/-- The token that a resource stands for, and its decimals. -/
def StandsFor (rId : ResourceId) (token : TokenId) (decimals : Nat) (s : OutState cfg) : Prop :=
  (if isNativeResource cfg.toConfig rId then token = cfg.verifier.token.nativeTokenId
    else ∃ contract, decodeResourceId rId = some contract ∧
      s.asset.tokenByContract (contract.1, contract.2.2) = some token) ∧
    Token.tokenExternalDecimals token s.asset = .ok decimals

/-- Something is sent, and the treasury gains less than that is worth. -/
def Protected (token : TokenId) (decimals : Nat) (rId : ResourceId) (recipient : List UInt8) (destId : ChainId)
    (s s' : OutState cfg) : Prop :=
  ∃ external, Sent destId rId recipient external s s' ∧ 0 < external.toNat ∧
    (freeBalance token cfg.treasuryAccount s'.asset).toNat <
      (freeBalance token cfg.treasuryAccount s.asset).toNat + Token.standardAmount external decimals

/-- Twice the fee, with what is rounded off, is below the amount. If twice the fee leaves the range of a word, the
check finds the amount too large for that: then the fee has to be above it, and what is scaled up and down again has
to be enough. -/
def TwiceFeeBelow (value fee decimals : Nat) : Prop :=
  if 2 * fee < 2 ^ 128 then 2 * (fee + (value - fee) % unit decimals) < value
  else value < fee ∧ (standardDecimals < decimals → value < 2 * ((value + 2 ^ 128 - fee) *
    10 ^ (decimals - standardDecimals) % 2 ^ 128 / 10 ^ (decimals - standardDecimals)))

/-- Where the threshold protects the sender. The treasury itself has to send something. -/
def ThresholdKept (cfg : OutConfig) (who : AccountId) (amount fee : U128) (rId : ResourceId) (decimals : Nat) :
    Prop :=
  if who = cfg.treasuryAccount then isNativeResource cfg.toConfig rId = true → amount ≠ fee
  else TwiceFeeBelow (transformDecimalsToStandard amount decimals).toNat fee.toNat decimals

/-- The check of the threshold, over the naturals. -/
theorem check_cases {value fee : U128} (h : fee + fee < value) :
    (2 * fee.toNat < 2 ^ 128 ∧ 2 * fee.toNat < value.toNat) ∨
      (2 ^ 128 ≤ 2 * fee.toNat ∧ 2 * fee.toNat < value.toNat + 2 ^ 128) := by
  have hlt := BitVec.lt_def.mp h
  have hfee := fee.isLt
  rw [BitVec.toNat_add] at hlt
  omega

/-- A difference that wraps. -/
theorem toNat_sub_of_lt {x y : U128} (h : x.toNat < y.toNat) : (x - y).toNat = x.toNat + 2 ^ 128 - y.toNat := by
  have hx := x.isLt
  have hy := y.isLt
  rw [BitVec.toNat_sub]
  omega

/-- For a sender who pays for what is bridged and the rest, more than half is bridged in these cases. -/
theorem lt_two_mul_bridged_iff {amount fee : U128} (hcheck : fee + fee < transformDecimalsToStandard amount decimals)
    (hle : (bridgedAmount (transformDecimalsToStandard amount decimals) fee decimals).toNat ≤
      (transformDecimalsToStandard amount decimals).toNat) :
    (transformDecimalsToStandard amount decimals).toNat <
        2 * (bridgedAmount (transformDecimalsToStandard amount decimals) fee decimals).toNat ↔
      TwiceFeeBelow (transformDecimalsToStandard amount decimals).toNat fee.toNat decimals := by
  have hvalue := (transformDecimalsToStandard amount decimals).isLt
  have hunit := unit_le decimals
  unfold TwiceFeeBelow
  by_cases hfee : fee.toNat ≤ (transformDecimalsToStandard amount decimals).toNat
  · have hbridged := toNat_bridgedAmount amount fee decimals hfee
    have hmod := Nat.mod_le ((transformDecimalsToStandard amount decimals).toNat - fee.toNat) (unit decimals)
    split
    · omega
    · refine iff_of_false ?_ fun h => absurd h.1 (Nat.not_lt.mpr hfee)
      omega
  · have hwraps : ¬ 2 * fee.toNat < 2 ^ 128 := by
      rcases check_cases hcheck with h | h <;> omega
    have hbound : 2 * fee.toNat < (transformDecimalsToStandard amount decimals).toNat + 2 ^ 128 := by
      rcases check_cases hcheck with h | h <;> omega
    have hsub := toNat_sub_of_lt (Nat.lt_of_not_le hfee)
    rw [if_neg hwraps, and_iff_right (Nat.lt_of_not_le hfee)]
    rcases Nat.lt_or_ge standardDecimals decimals with hgt | hge
    · rw [toNat_bridgedAmount_of_gt _ _ hgt, hsub]
      exact ⟨fun h _ => h, fun h => h hgt⟩
    · refine iff_of_true ?_ fun h => absurd h (Nat.not_lt.mpr hge)
      have hmod := Nat.mod_lt (transformDecimalsToStandard amount decimals - fee).toNat (unit_pos decimals)
      have hmodLe := Nat.mod_le (transformDecimalsToStandard amount decimals - fee).toNat (unit decimals)
      rw [toNat_bridgedAmount_of_le _ _ hge] at hle ⊢
      omega

theorem doLock_eq_ok (h : doLock who amount rId recipient destId s = .ok s') :
    calculateBridgingFee destId cfg.verifier.token.nativeTokenId s +
        calculateBridgingFee destId cfg.verifier.token.nativeTokenId s < amount ∧
      Sent destId rId recipient (amount - calculateBridgingFee destId cfg.verifier.token.nativeTokenId s) s s' ∧
      ∃ paid mid paid', Token.transferToken who cfg.verifier.token.nativeTokenId
          (calculateBridgingFee destId cfg.verifier.token.nativeTokenId s) cfg.treasuryAccount s.asset =
            .ok (paid, mid) ∧
        Token.transferToken who cfg.verifier.token.nativeTokenId
          (amount - calculateBridgingFee destId cfg.verifier.token.nativeTokenId s) cfg.bridgeAccount mid =
            .ok (paid', s'.asset) := by
  simp only [doLock, transferToken, bind_eq_ok, ensure_eq_ok, exists_const, pure_eq_ok, Prod.exists] at h
  obtain ⟨-, hcheck, -, ⟨paid, mid, hpaid, rfl⟩, -, ⟨paid', asset, hpaid', rfl⟩, hsent⟩ := h
  obtain ⟨⟨nonce, htransfers⟩, hasset⟩ := transferFungible_eq_ok hsent
  refine ⟨hcheck, ⟨nonce, htransfers⟩, paid, mid, paid', hpaid, ?_⟩
  rw [hasset]
  exact hpaid'

/-- The native token has the standard decimals. -/
theorem transformDecimalsToStandard_standard (amount : U128) :
    transformDecimalsToStandard amount standardDecimals = amount := rfl

theorem standardAmount_standard (amount : U128) :
    Token.standardAmount amount standardDecimals = amount.toNat := by
  rw [Token.standardAmount_of_le _ (Nat.le_refl _), Nat.sub_self, Nat.pow_zero, Nat.mul_one]

/-- Two amounts of one event are one amount. -/
theorem protected_iff {external : U128} (hsent : Sent destId rId recipient external s s') :
    Protected token decimals rId recipient destId s s' ↔ 0 < external.toNat ∧
      (freeBalance token cfg.treasuryAccount s'.asset).toNat <
        (freeBalance token cfg.treasuryAccount s.asset).toNat + Token.standardAmount external decimals := by
  constructor
  · rintro ⟨external', hsent', hprotected⟩
    exact hsent.amount_eq hsent' ▸ hprotected
  · exact fun h => ⟨external, hsent, h⟩

/-- The native token is locked. -/
theorem doLock_protected_iff (hexact : cfg.verifier.token.balances.Exact)
    (hbridge : cfg.bridgeAccount ≠ cfg.treasuryAccount) (hnative : isNativeResource cfg.toConfig rId = true)
    (h : doLock who amount rId recipient destId s = .ok s') :
    Protected cfg.verifier.token.nativeTokenId standardDecimals rId recipient destId s s' ↔
      ThresholdKept cfg who amount (calculateBridgingFee destId cfg.verifier.token.nativeTokenId s) rId
        standardDecimals := by
  obtain ⟨hcheck, hsent, paid, mid, paid', hpaid, hpaid'⟩ := doLock_eq_ok h
  rw [protected_iff hsent, standardAmount_standard]
  unfold ThresholdKept
  generalize calculateBridgingFee destId cfg.verifier.token.nativeTokenId s = fee at *
  have hunit : unit standardDecimals = 1 := rfl
  have hamount := amount.isLt
  split
  · -- The treasury pays itself, and then the bridge.
    rename_i hself
    subst hself
    rw [Token.transferToken_self hpaid] at hpaid'
    have hdebit := (Token.transferToken_eq_ok hexact (Ne.symm hbridge) hpaid').1
    have hdebit : (freeBalance cfg.verifier.token.nativeTokenId cfg.treasuryAccount s.asset).toNat =
      (freeBalance cfg.verifier.token.nativeTokenId cfg.treasuryAccount s'.asset).toNat + (amount - fee).toNat :=
        hdebit
    have hzero : 0 < (amount - fee).toNat ↔ amount ≠ fee := by
      rw [Nat.pos_iff_ne_zero, ne_eq, ne_eq, ← @sub_eq_zero _ _ amount fee, not_iff_not]
      exact ⟨fun h => BitVec.eq_of_toNat_eq h, fun h => congrArg BitVec.toNat h⟩
    rw [← hzero, forall_prop_of_true hnative]
    omega
  · rename_i hwho
    have hcredit := (Token.transferToken_eq_ok hexact hwho hpaid).2.1
    have hsame : Token.balancesOf cfg.verifier.token.nativeTokenId cfg.treasuryAccount s'.asset =
        Token.balancesOf cfg.verifier.token.nativeTokenId cfg.treasuryAccount mid := by
      by_cases hself : who = cfg.bridgeAccount
      · subst hself
        rw [Token.transferToken_self hpaid']
      · exact (Token.transferToken_eq_ok hexact hself hpaid').2.2 _ _ (fun heq => hwho (Prod.mk.inj heq).2.symm)
          fun heq => hbridge (Prod.mk.inj heq).2.symm
    have hgain : (freeBalance cfg.verifier.token.nativeTokenId cfg.treasuryAccount s'.asset).toNat =
        (freeBalance cfg.verifier.token.nativeTokenId cfg.treasuryAccount s.asset).toNat + fee.toNat :=
      (congrArg (fun b : U128 × U128 => b.1.toNat) hsame).trans hcredit
    rw [transformDecimalsToStandard_standard, TwiceFeeBelow, hunit, Nat.mod_one]
    rcases check_cases hcheck with ⟨hsmall, hbelow⟩ | ⟨hlarge, hbelow⟩
    · rw [if_pos hsmall, toNat_sub_of_le (by omega)]
      omega
    · rw [if_neg (Nat.not_lt.mpr hlarge), and_iff_left fun hlt => absurd hlt (Nat.lt_irrefl _)]
      rcases Nat.lt_or_ge amount.toNat fee.toNat with hlt | hge
      · rw [toNat_sub_of_lt hlt]
        omega
      · rw [toNat_sub_of_le hge]
        omega

/-- What is burnt is not nothing, neither in external nor in standard units. -/
theorem doBurn_pos {info : XToken} {asset asset' : Token.State cfg.verifier.token} {external burnt : U128}
    (hinfo : asset.tokens token = some info) (hdecimals : info.decimals? = some decimals)
    (h : Token.doBurn token who external asset = .ok (burnt, asset')) :
    0 < external.toNat ∧ 0 < (transformDecimalsToStandard external decimals).toNat := by
  obtain ⟨hexternal, total, -, hne, -⟩ := (Token.doBurn_eq_ok hinfo hdecimals).mp h
  exact ⟨Nat.pos_of_ne_zero fun hzero => hexternal (BitVec.eq_of_toNat_eq hzero),
    Nat.pos_of_ne_zero fun hzero => hne (BitVec.eq_of_toNat_eq hzero)⟩

/-- Any other token is burnt. -/
theorem doBurnAssets_protected_iff {contract : ChainId × U8 × List UInt8} {info : XToken}
    (hresource : decodeResourceId rId = some contract)
    (hcontract : s.asset.tokenByContract (contract.1, contract.2.2) = some token)
    (htoken : token ≠ cfg.verifier.token.nativeTokenId) (hinfo : s.asset.tokens token = some info)
    (hdecimals : info.decimals? = some decimals) (hnative : isNativeResource cfg.toConfig rId = false)
    (h : doBurnAssets who amount rId recipient destId s = .ok s') :
    Protected token decimals rId recipient destId s s' ↔
      ThresholdKept cfg who amount (calculateBridgingFee destId token s) rId decimals := by
  obtain ⟨hcheck, hsent, paid, mid, burnt, hpaid, hburnt⟩ :=
    doBurnAssets_eq_ok hresource hcontract (tokenExternalDecimals_of_info htoken hinfo hdecimals) h
  have hmid : mid.tokens token = some info := by rw [Token.transferToken_tokens hpaid, hinfo]
  obtain ⟨hpos, hburntPos⟩ := doBurn_pos hmid hdecimals hburnt
  rw [protected_iff hsent, and_iff_right hpos, externalAmount, standardAmount_external, ← bridgedAmount]
  rw [externalAmount, ← bridgedAmount] at hburntPos
  unfold ThresholdKept
  split
  · -- The treasury pays itself, and what it sends is burnt.
    rename_i hself
    subst hself
    rw [Token.transferToken_self hpaid] at hburnt
    have hfree := (Token.doBurn_moves htoken hinfo hdecimals hburnt).2.2.1
    rw [hnative]
    refine iff_of_true ?_ fun hfalse => absurd hfalse (by decide)
    omega
  · rename_i hwho
    have hcharged := doBurnAssets_charged htoken hinfo hdecimals hwho hpaid hburnt
    have hsender := hcharged.sender
    have htreasury := hcharged.treasury
    rw [externalAmount, ← bridgedAmount] at hsender
    have hbound := (freeBalance token who s.asset).isLt
    -- The sender cannot have paid for more than a word holds.
    have hle : (bridgedAmount (transformDecimalsToStandard amount decimals)
        (calculateBridgingFee destId token s) decimals).toNat ≤
          (transformDecimalsToStandard amount decimals).toNat := by
      by_contra hgt
      rw [toNat_sub_of_lt (Nat.lt_of_not_le hgt)] at hsender
      omega
    rw [← lt_two_mul_bridged_iff hcheck hle, htreasury, toNat_sub_of_le hle]
    omega

/-- A transfer that goes through is protected by the threshold in precisely these cases. -/
theorem transferOut_protected_iff {origin : Origin} (hexact : cfg.verifier.token.balances.Exact)
    (hbridge : cfg.bridgeAccount ≠ cfg.treasuryAccount)
    (hcreated : s.asset.tokens cfg.verifier.token.nativeTokenId = none)
    (hstands : StandsFor rId token decimals s)
    (h : transferOut origin amount rId recipient destId s = .ok s') :
    ∃ who, origin = .signed who ∧ (Protected token decimals rId recipient destId s s' ↔
      ThresholdKept cfg who amount (calculateBridgingFee destId token s) rId decimals) := by
  obtain ⟨hresource, hdecimals⟩ := hstands
  simp only [transferOut, bind_eq_ok, ensure_eq_ok, exists_const] at h
  obtain ⟨who, horigin, -, h⟩ := h
  refine ⟨who, ensureSigned_eq_ok.mp horigin, ?_⟩
  cases hnative : isNativeResource cfg.toConfig rId with
  | true =>
      rw [hnative, if_pos rfl] at hresource h
      subst hresource
      obtain rfl : standardDecimals = decimals := by
        simpa [Token.tokenExternalDecimals, pure_eq_ok] using hdecimals
      exact doLock_protected_iff hexact hbridge hnative h
  | false =>
      rw [hnative, if_neg (by decide)] at hresource h
      obtain ⟨contract, hcontract, hid⟩ := hresource
      have htoken : token ≠ cfg.verifier.token.nativeTokenId := by
        rintro rfl
        obtain ⟨-, -, paid, mid, burnt, hpaid, hburnt⟩ := doBurnAssets_eq_ok hcontract hid hdecimals h
        have hnone : mid.tokens cfg.verifier.token.nativeTokenId = none := by
          rw [Token.transferToken_tokens hpaid, hcreated]
        rw [Token.doBurn, hnone] at hburnt
        simp [bind_eq_ok] at hburnt
      rw [Token.tokenExternalDecimals, if_neg htoken] at hdecimals
      simp only [bind_eq_ok, okOr_eq_ok] at hdecimals
      obtain ⟨info, hinfo, hdecimals⟩ := hdecimals
      exact doBurnAssets_protected_iff hcontract hid htoken hinfo hdecimals hnative h

/-! ### A remainder that is half of the amount

Alice sends two tokens without decimals, for a fee of nine tenths of one: one token is bridged, and the other kept. -/

def tenthsState : OutState outConfig := dollarState 900000000000000000 (2 * 10 ^ 18)

theorem standsFor_tenthsState : StandsFor foreignResource 1 0 tenthsState := by
  have hforeign : ¬ isNativeResource outConfig.toConfig foreignResource = true := by decide
  refine ⟨?_, by decide⟩
  rw [if_neg hforeign]
  exact ⟨(1, 0, [65]), by decide, by decide⟩

theorem transferOut_tenthsState :
    ∃ s', transferOut (.signed Token.alice) 2 foreignResource [] 1 tenthsState = .ok s' :=
  exists_of_isOk (by decide +kernel)

theorem transferOut_protected_iff_tenthsState : ∃ s' who,
    transferOut (.signed Token.alice) 2 foreignResource [] 1 tenthsState = .ok s' ∧
    (Protected 1 0 foreignResource [] 1 tenthsState s' ↔
      ThresholdKept outConfig who 2 (calculateBridgingFee 1 1 tenthsState) foreignResource 0) := by
  obtain ⟨s', h⟩ := transferOut_tenthsState
  obtain ⟨who, -, hiff⟩ := transferOut_protected_iff Balances.plain_exact (by decide) (by decide)
    standsFor_tenthsState h
  exact ⟨s', who, h, hiff⟩

theorem half_is_kept : ∃ s', transferOut (.signed Token.alice) 2 foreignResource [] 1 tenthsState = .ok s' ∧
    ¬ Protected 1 0 foreignResource [] 1 tenthsState s' := by
  obtain ⟨s', h⟩ := transferOut_tenthsState
  have hforeign : isNativeResource outConfig.toConfig foreignResource = false := by decide
  have hburn : doBurnAssets Token.alice 2 foreignResource [] 1 tenthsState = .ok s' := by
    simp only [transferOut, bind_eq_ok, ensure_eq_ok, exists_const, hforeign, ensureSigned_eq_ok,
      Origin.signed.injEq, exists_eq_left'] at h
    exact h.2
  have hresource : decodeResourceId foreignResource = some (1, 0, [65]) := by decide
  have hinfo : tenthsState.asset.tokens 1 = some ((Token.unitToken.setTotal (2 * 10 ^ 18)).setStable true) := by
    decide
  refine ⟨s', h, ?_⟩
  rw [doBurnAssets_protected_iff hresource (by decide) (by decide) hinfo (by decide) hforeign hburn]
  unfold ThresholdKept TwiceFeeBelow
  decide +kernel

end Fusotao.ChainBridgeHandler
