import Mathlib.Algebra.Order.BigOperators.Group.List
import Mathlib.Algebra.Order.Ring.Nat
import Mathlib.Data.BitVec
import Mathlib.Tactic.Positivity
import Mathlib.Tactic.Ring

/-!
# Fixed-point quotients

A quotient in units of `1 / scale`, computed in machine words. Scaling before dividing leaves the range of a word
soon, so the whole part and the fraction are scaled apart; what is left is the range of the whole part. A fraction of
more parts than there are units may be reduced before it is scaled, at the price of a unit or two.
-/

namespace FixedPoint

variable {w : Nat}

/-- The function gives proper fractions in units of `1 / scale`, rounded down. -/
def RoundsDown (scale : BitVec w) (fraction : BitVec w → BitVec w → BitVec w) : Prop :=
  ∀ p q : BitVec w, p.toNat < q.toNat → (fraction p q).toNat = p.toNat * scale.toNat / q.toNat

/-- The fractions of the parts of a whole make up no more than one. -/
def PartsFit (scale : BitVec w) (fraction : BitVec w → BitVec w → BitVec w) : Prop :=
  ∀ (parts : List (BitVec w)) (whole : BitVec w), whole ≠ 0 → (parts.map BitVec.toNat).sum ≤ whole.toNat →
    (parts.map fun p => (fraction p whole).toNat).sum ≤ scale.toNat

/-- `a / b` in units of `1 / scale`: the whole part and the fraction. -/
def quotient (scale : BitVec w) (fraction : BitVec w → BitVec w → BitVec w) (a b : BitVec w) : BitVec w :=
  a / b * scale + fraction (a % b) b

/-- Scaling the whole part and the fraction apart is scaling before dividing. -/
theorem div_mul_add_mod_mul_div (a scale : Nat) {b : Nat} (hb : 0 < b) :
    a / b * scale + a % b * scale / b = a * scale / b := by
  have hsplit : a * scale = a % b * scale + b * (a / b * scale) := by
    calc a * scale = (a % b + b * (a / b)) * scale := by rw [Nat.mod_add_div]
      _ = a % b * scale + b * (a / b * scale) := by ring
  rw [hsplit, Nat.add_mul_div_left _ _ hb, Nat.add_comm]

section Quotient

variable {scale : BitVec w} {fraction : BitVec w → BitVec w → BitVec w} {a b : BitVec w}

theorem toNat_quotient (hfraction : RoundsDown scale fraction) (hb : 0 < b.toNat) :
    (quotient scale fraction a b).toNat = a.toNat * scale.toNat / b.toNat % 2 ^ w := by
  have hmod : (a % b).toNat < b.toNat := by
    rw [BitVec.toNat_umod]
    exact Nat.mod_lt _ hb
  rw [quotient, BitVec.toNat_add, BitVec.toNat_mul, hfraction _ _ hmod, BitVec.toNat_umod, BitVec.toNat_udiv,
    Nat.mod_add_mod, div_mul_add_mod_mul_div _ _ hb]

/-- The quotient is exact if and only if it fits a word. -/
theorem toNat_quotient_eq_iff (hfraction : RoundsDown scale fraction) (hb : 0 < b.toNat) :
    (quotient scale fraction a b).toNat = a.toNat * scale.toNat / b.toNat ↔
      a.toNat * scale.toNat / b.toNat < 2 ^ w := by
  rw [toNat_quotient hfraction hb, Nat.mod_eq_iff_lt (by positivity)]

/-- The scaled quotient grows with what is divided, and falls with what it is divided by. -/
theorem scaled_div_mono (scale : Nat) {a a' b b' : Nat} (ha : a' ≤ a) (hb : 0 < b) (hbb : b ≤ b') :
    a' * scale / b' ≤ a * scale / b :=
  (Nat.div_le_div_left hbb hb).trans (Nat.div_le_div_right (Nat.mul_le_mul_right _ ha))

theorem quotient_mono {a' b' : BitVec w} (hfraction : RoundsDown scale fraction) (hb : 0 < b.toNat)
    (hfits : a.toNat * scale.toNat / b.toNat < 2 ^ w) (ha : a'.toNat ≤ a.toNat) (hbb : b.toNat ≤ b'.toNat) :
    (quotient scale fraction a' b').toNat ≤ (quotient scale fraction a b).toNat := by
  have hle := scaled_div_mono scale.toNat ha hb hbb
  have hb' : 0 < b'.toNat := Nat.lt_of_lt_of_le hb hbb
  rw [(toNat_quotient_eq_iff hfraction hb).mpr hfits,
    (toNat_quotient_eq_iff hfraction hb').mpr (Nat.lt_of_le_of_lt hle hfits)]
  exact hle

end Quotient

/-! ### Fractions that are reduced

Both parts of a fraction are divided by the least factor that leaves no more parts than there are units. -/

section Reduced

variable {scale p q : Nat}

/-- What the parts of a fraction are divided by. -/
def factor (scale q : Nat) : Nat := max 1 ((q + scale - 1) / scale)

def reduced (scale p q : Nat) : Nat := p / factor scale q * scale / (q / factor scale q)

theorem factor_pos (scale q : Nat) : 0 < factor scale q := Nat.le_max_left _ _

/-- One less would leave too many parts. -/
theorem pred_factor_mul_lt (hscale : 0 < scale) (hq : 0 < q) : (factor scale q - 1) * scale < q := by
  have hle := Nat.div_mul_le_self (q + scale - 1) scale
  rcases Nat.le_total ((q + scale - 1) / scale) 1 with hone | hmore
  · rw [factor, Nat.max_eq_left hone, Nat.sub_self, Nat.zero_mul]
    exact hq
  · rw [factor, Nat.max_eq_right hmore, Nat.sub_mul, Nat.one_mul]
    omega

theorem div_factor_pos (hscale : 0 < scale) (hq : 0 < q) : 0 < q / factor scale q := by
  have hlt := pred_factor_mul_lt hscale hq
  have hle : factor scale q - 1 ≤ (factor scale q - 1) * scale := Nat.le_mul_of_pos_right _ hscale
  exact Nat.div_pos (by omega) (factor_pos scale q)

/-- A whole is reduced to no less than its parts. -/
theorem sum_reduced_le (l : List Nat) (hscale : 0 < scale) (hq : 0 < q) (hparts : l.sum ≤ q) :
    (l.map fun p => reduced scale p q).sum ≤ scale := by
  have hsum : ∀ l : List Nat, (l.map fun p => reduced scale p q).sum ≤
      l.sum / factor scale q * scale / (q / factor scale q) := by
    intro l
    induction l with
    | nil => simp
    | cons p l ih =>
        rw [List.map_cons, List.sum_cons, List.sum_cons]
        calc reduced scale p q + (l.map fun p => reduced scale p q).sum
            ≤ p / factor scale q * scale / (q / factor scale q) +
              l.sum / factor scale q * scale / (q / factor scale q) := Nat.add_le_add_left ih _
          _ ≤ (p / factor scale q * scale + l.sum / factor scale q * scale) / (q / factor scale q) :=
              Nat.div_add_div_le_add_div
          _ ≤ (p + l.sum) / factor scale q * scale / (q / factor scale q) := by
              rw [← Nat.add_mul]
              exact Nat.div_le_div_right (Nat.mul_le_mul_right _ Nat.div_add_div_le_add_div)
  calc (l.map fun p => reduced scale p q).sum
      ≤ l.sum / factor scale q * scale / (q / factor scale q) := hsum l
    _ ≤ q / factor scale q * scale / (q / factor scale q) :=
        Nat.div_le_div_right (Nat.mul_le_mul_right _ (Nat.div_le_div_right hparts))
    _ = scale := Nat.mul_div_cancel_left _ (div_factor_pos hscale hq)

end Reduced

/-! ### Words -/

/-- The fraction of two words, reduced. -/
def reducedWord (scale p q : BitVec w) : BitVec w := BitVec.ofNat w (reduced scale.toNat p.toNat q.toNat)

section Words

variable {scale : BitVec w} (hscale : 0 < scale.toNat)

include hscale

/-- A part of a whole is at most one, which fits a word. -/
theorem toNat_reducedWord {p q : BitVec w} (hq : 0 < q.toNat) (hpq : p.toNat ≤ q.toNat) :
    (reducedWord scale p q).toNat = reduced scale.toNat p.toNat q.toNat := by
  have hle := sum_reduced_le [p.toNat] hscale hq (by simpa using hpq)
  rw [List.map_cons, List.map_nil, List.sum_singleton] at hle
  rw [reducedWord, BitVec.toNat_ofNat, Nat.mod_eq_of_lt (Nat.lt_of_le_of_lt hle scale.isLt)]

theorem reducedWord_partsFit : PartsFit scale (reducedWord scale) := by
  intro parts whole hwhole hparts
  have hpos : 0 < whole.toNat := Nat.pos_of_ne_zero fun hzero => hwhole (BitVec.eq_of_toNat_eq hzero)
  have hsame : (parts.map fun p => (reducedWord scale p whole).toNat) =
      (parts.map BitVec.toNat).map fun p => reduced scale.toNat p whole.toNat := by
    rw [List.map_map]
    apply List.map_congr_left
    intro p hp
    exact toNat_reducedWord hscale hpos ((List.le_sum_of_mem (List.mem_map_of_mem hp)).trans hparts)
  rw [hsame]
  exact sum_reduced_le _ hscale hpos hparts

end Words

end FixedPoint
