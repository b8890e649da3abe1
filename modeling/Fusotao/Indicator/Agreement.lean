import Fusotao.AbyssTournament.Swap
import Fusotao.ChainBridgeHandler.TransferOut

/-!
# The three quotients

A price, a bridging fee and an award amount are quotients in units of `10^-18`, each computed by the same formula.
They agree with the exact quotient, rounded down, as long as it fits a word.
-/

namespace Fusotao.Indicator

open ChainBridgeHandler (OutConfig OutState bridgingFee calculateBridgingFee)
open AbyssTournament (SwapConfig awtAmount)

/-- The price that is stored for a trade. -/
def storedPrice (perquintill : Perquintill) (amount volume : U128) : U128 :=
  ((setPrice perquintill 0 amount volume 0 (fun _ => none) 0).getD default).price

/-- The quotient of `a` and `b` wherever it is computed: it is exact, so that the three agree, and those of less
divided by more are not above it. No price is stored for a volume of nothing. -/
structure QuotientExact (out : OutConfig) (swap : SwapConfig) (perquintill : Perquintill) (a b : U128) : Prop where
  price : a ≠ 0 → ∀ tokenId now prices,
    ((setPrice perquintill tokenId b a now prices tokenId).getD default).price.toNat =
      a.toNat * 10 ^ 18 / b.toNat
  fee : ∀ (s : OutState out) destId tokenId, bridgingFee destId s = a → getPrice tokenId s.asset s.prices = b →
    (calculateBridgingFee destId tokenId s).toNat = a.toNat * 10 ^ 18 / b.toNat
  awt : (awtAmount swap a b).toNat = a.toNat * 10 ^ 18 / b.toNat
  price_mono : ∀ a' b', a' ≤ a → b ≤ b' → storedPrice perquintill b' a' ≤ storedPrice perquintill b a
  fee_mono : ∀ (s s' : OutState out) destId destId' tokenId tokenId', bridgingFee destId s = a →
    getPrice tokenId s.asset s.prices = b → bridgingFee destId' s' ≤ a →
    b ≤ getPrice tokenId' s'.asset s'.prices →
    calculateBridgingFee destId' tokenId' s' ≤ calculateBridgingFee destId tokenId s
  awt_mono : ∀ a' b', a' ≤ a → b ≤ b' → awtAmount swap a' b' ≤ awtAmount swap a b

section Quotients

variable {out : OutConfig} {swap : SwapConfig} {perquintill : Perquintill} {a a' b b' : U128}

theorem Perquintill.quotient_zero (hdown : perquintill.RoundsDown) (hb : b ≠ 0) : perquintill.quotient 0 b = 0 := by
  have hzero : (0 : U128).toNat * 10 ^ 18 / b.toNat = 0 := by simp
  apply BitVec.eq_of_toNat_eq
  rw [(Perquintill.toNat_quotient_eq_iff hdown 0 hb).mpr (by rw [hzero]; decide), hzero]
  rfl

theorem calculateBridgingFee_eq (hout : out.perquintill.RoundsDown) (s : OutState out) (destId : ChainId)
    (tokenId : TokenId) (hprice : getPrice tokenId s.asset s.prices ≠ 0) :
    calculateBridgingFee destId tokenId s =
      out.perquintill.quotient (bridgingFee destId s) (getPrice tokenId s.asset s.prices) := by
  unfold calculateBridgingFee
  dsimp only
  split
  · rename_i h
    rw [h.resolve_left hprice, Perquintill.quotient_zero hout hprice]
  · rfl

theorem storedPrice_eq (hdown : perquintill.RoundsDown) (hamount : b ≠ 0) :
    storedPrice perquintill b a = perquintill.quotient a b := by
  rcases eq_or_ne a 0 with rfl | hvolume
  · rw [Perquintill.quotient_zero hdown hamount, storedPrice, setPrice, StorageMap.insert_self, Option.getD_some,
      if_neg fun h => h.1 rfl]
    rfl
  · exact setPrice_price perquintill 0 0 _ hamount hvolume

/-- What is at least a divisor is one. -/
theorem ne_zero_of_le (hb : b ≠ 0) (h : b ≤ b') : b' ≠ 0 := by
  rintro rfl
  exact hb (BitVec.eq_of_toNat_eq (Nat.le_zero.mp h))

/-- If fractions are rounded down, the quotients are exact if and only if the exact one fits a word. -/
theorem quotient_exact_iff (hout : out.perquintill.RoundsDown) (hswap : swap.perquintill.RoundsDown)
    (hdown : perquintill.RoundsDown) (hb : b ≠ 0) :
    QuotientExact out swap perquintill a b ↔ a.toNat * 10 ^ 18 / b.toNat < 2 ^ 128 := by
  constructor
  · exact fun h => (Perquintill.toNat_quotient_eq_iff hswap a hb).mp h.awt
  · intro hfits
    have hexact : ∀ {perquintill : Perquintill}, perquintill.RoundsDown →
        (perquintill.quotient a b).toNat = a.toNat * 10 ^ 18 / b.toNat :=
      fun hdown => (Perquintill.toNat_quotient_eq_iff hdown a hb).mpr hfits
    refine ⟨fun ha tokenId now prices => ?_, fun s destId tokenId husd hprice => ?_, hexact hswap,
      fun a' b' ha hbb => ?_, fun s s' destId destId' tokenId tokenId' husd hprice ha hbb => ?_,
      fun a' b' ha hbb => Perquintill.quotient_mono hswap hb hfits ha hbb⟩
    · rw [setPrice_price _ _ _ _ hb ha]
      exact hexact hdown
    · rw [calculateBridgingFee_eq hout s destId tokenId (hprice ▸ hb), husd, hprice]
      exact hexact hout
    · rw [storedPrice_eq hdown hb, storedPrice_eq hdown (ne_zero_of_le hb hbb)]
      exact Perquintill.quotient_mono hdown hb hfits ha hbb
    · rw [calculateBridgingFee_eq hout s destId tokenId (hprice ▸ hb), husd, hprice,
        calculateBridgingFee_eq hout s' destId' tokenId' (ne_zero_of_le hb hbb)]
      exact Perquintill.quotient_mono hout hb hfits ha hbb

end Quotients

/-! ### A price that wraps -/

def swapConfig : SwapConfig where
  toConfig := AbyssTournament.plainConfig
  bridgeAccount := List.Vector.replicate 32 8
  swapPoolAccount := List.Vector.replicate 32 10
  perquintill := .exact

theorem quotient_exact_iff_third : QuotientExact ChainBridgeHandler.outConfig swapConfig .exact 1 3 ↔
    (1 : U128).toNat * 10 ^ 18 / (3 : U128).toNat < 2 ^ 128 :=
  quotient_exact_iff Perquintill.exact_roundsDown Perquintill.exact_roundsDown Perquintill.exact_roundsDown (by decide)

/-- A smallest unit is traded for some hundred tokens. -/
theorem stored_price_wraps :
    (storedPrice .exact 1 340282366920938463464).toNat < 340282366920938463464 * 10 ^ 18 ∧
    ¬ QuotientExact ChainBridgeHandler.outConfig swapConfig .exact 340282366920938463464 1 := by
  have hprice : (storedPrice .exact 1 340282366920938463464).toNat < 340282366920938463464 * 10 ^ 18 := by
    decide +kernel
  refine ⟨hprice, fun h => ?_⟩
  have hexact := h.price (by decide) 0 0 fun _ => none
  change (storedPrice .exact 1 340282366920938463464).toNat = _ at hexact
  rw [hexact] at hprice
  exact absurd hprice (by decide)

end Fusotao.Indicator
