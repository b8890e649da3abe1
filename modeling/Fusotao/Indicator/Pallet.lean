import Fusotao.Base.FixedPoint
import Fusotao.Token.Pallet

/-!
# The indicator pallet

The price of a token is the volume per amount of its last trades, in units of `10^-18`. Bridging fees and swaps read
it.
-/

namespace Fusotao.Indicator

def quintill : U128 := 1000000000000000000

/-- The parts of `sp_arithmetic::Perquintill` that the pallets use. -/
structure Perquintill where
  /-- `Perquintill::from_rational(p, q).deconstruct() as u128`. -/
  fromRational : U128 → U128 → U128

/-- Proper fractions are rounded down, of however many parts they are. -/
def Perquintill.RoundsDown (perquintill : Perquintill) : Prop :=
  FixedPoint.RoundsDown quintill perquintill.fromRational

/-- `a / b` in units of `10^-18`, as the pallets compute it. -/
def Perquintill.quotient (perquintill : Perquintill) (a b : U128) : U128 :=
  FixedPoint.quotient quintill perquintill.fromRational a b

structure Price where
  price : U128
  recentMatchedAmount : U128
  recentMatchedVol : U128
  updatedAt : BlockNumber
  deriving DecidableEq

instance : Inhabited Price := ⟨⟨0, 0, 0, 0⟩⟩

/-- `OnChainPrices`. -/
abbrev Prices := StorageMap TokenId Price

def getPrice {cfg : Token.Config} (tokenId : TokenId) (asset : Token.State cfg) (prices : Prices) : U128 :=
  if Token.isStable tokenId asset then quintill else ((prices tokenId).getD default).price

def setPrice (perquintill : Perquintill) (tokenId : TokenId) (amount volume : U128) (now : BlockNumber)
    (prices : Prices) : Prices :=
  let p := (prices tokenId).getD default
  prices.insert tokenId
    (if volume ≠ 0 ∧ amount ≠ 0 then
      { price := perquintill.quotient volume amount
        recentMatchedAmount := amount
        recentMatchedVol := volume
        updatedAt := now }
    else p)

/-- Fractions as exact as a word allows. -/
def Perquintill.exact : Perquintill where
  fromRational p q := BitVec.ofNat 128 (p.toNat * quintill.toNat / q.toNat)

/-- Fractions that are reduced to no more than `10^18` parts, as `sp_arithmetic` does. -/
def Perquintill.reduced : Perquintill where
  fromRational := FixedPoint.reducedWord quintill

theorem quintill_pos : 0 < quintill.toNat := by decide

theorem Perquintill.exact_roundsDown : Perquintill.exact.RoundsDown := by
  intro p q h
  have hle : p.toNat * quintill.toNat / q.toNat ≤ quintill.toNat :=
    Nat.div_le_of_le_mul (Nat.mul_le_mul_right _ (Nat.le_of_lt h))
  change (BitVec.ofNat 128 _).toNat = _
  rw [BitVec.toNat_ofNat, Nat.mod_eq_of_lt (Nat.lt_of_le_of_lt hle quintill.isLt)]

theorem Perquintill.reduced_partsFit : FixedPoint.PartsFit quintill Perquintill.reduced.fromRational :=
  FixedPoint.reducedWord_partsFit quintill_pos

section RoundsDown

variable {perquintill : Perquintill} (hdown : perquintill.RoundsDown)

include hdown

theorem Perquintill.toNat_quotient_eq_iff (a : U128) {b : U128} (hb : b ≠ 0) :
    (perquintill.quotient a b).toNat = a.toNat * 10 ^ 18 / b.toNat ↔
      a.toNat * 10 ^ 18 / b.toNat < 2 ^ 128 :=
  FixedPoint.toNat_quotient_eq_iff hdown
    (Nat.pos_of_ne_zero fun h => hb (BitVec.eq_of_toNat_eq h))

theorem Perquintill.quotient_mono {a a' b b' : U128} (hb : b ≠ 0)
    (hfits : a.toNat * 10 ^ 18 / b.toNat < 2 ^ 128) (ha : a' ≤ a) (hbb : b ≤ b') :
    perquintill.quotient a' b' ≤ perquintill.quotient a b :=
  FixedPoint.quotient_mono hdown (Nat.pos_of_ne_zero fun h => hb (BitVec.eq_of_toNat_eq h))
    hfits ha hbb

end RoundsDown

theorem setPrice_price (perquintill : Perquintill) (tokenId : TokenId) {amount volume : U128} (now : BlockNumber)
    (prices : Prices) (hamount : amount ≠ 0) (hvolume : volume ≠ 0) :
    ((setPrice perquintill tokenId amount volume now prices tokenId).getD default).price =
      perquintill.quotient volume amount := by
  rw [setPrice, StorageMap.insert_self, Option.getD_some, if_pos ⟨hvolume, hamount⟩]

end Fusotao.Indicator
