import Mathlib.Data.BitVec
import Mathlib.Logic.Function.Iterate
import Mathlib.Algebra.BigOperators.Ring.Finset
import Mathlib.Tactic.Ring

/-!
# Machine words

Unsigned words of `w` bits. The bare operators of `BitVec` wrap around modulo `2 ^ w`; the checked
ones fail instead. What a wrapping computation says about the integers it stands for is a congruence
modulo `2 ^ w`.
-/

namespace Word

open scoped BigOperators

variable {w : Nat}

/-! ### Checked arithmetic -/

def checkedAdd (x y : BitVec w) : Option (BitVec w) :=
  if x.toNat + y.toNat < 2 ^ w then some (x + y) else none

def checkedSub (x y : BitVec w) : Option (BitVec w) :=
  if y.toNat ≤ x.toNat then some (x - y) else none

/-- The remainder of a division by zero is none. -/
def checkedRem (x y : BitVec w) : Option (BitVec w) :=
  if y = 0 then none else some (x % y)

def saturatingAdd (x y : BitVec w) : BitVec w := (checkedAdd x y).getD (BitVec.allOnes w)

def saturatingSub (x y : BitVec w) : BitVec w :=
  if y.toNat ≤ x.toNat then x - y else 0

def saturatingMul (x y : BitVec w) : BitVec w :=
  if x.toNat * y.toNat < 2 ^ w then x * y else BitVec.allOnes w

theorem toNat_add_of_lt {x y : BitVec w} (h : x.toNat + y.toNat < 2 ^ w) :
    (x + y).toNat = x.toNat + y.toNat := by
  rw [BitVec.toNat_add, Nat.mod_eq_of_lt h]

theorem toNat_sub_of_le {x y : BitVec w} (h : y.toNat ≤ x.toNat) :
    (x - y).toNat = x.toNat - y.toNat := by
  have hx := x.isLt
  have hy := y.isLt
  rw [BitVec.toNat_sub, show 2 ^ w - y.toNat + x.toNat = (x.toNat - y.toNat) + 2 ^ w by omega,
    Nat.add_mod_right, Nat.mod_eq_of_lt (by omega)]

/-- A checked sum is the sum of the naturals. -/
theorem checkedAdd_eq_some {x y z : BitVec w} :
    checkedAdd x y = some z ↔ z.toNat = x.toNat + y.toNat := by
  unfold checkedAdd
  split
  · rename_i h
    rw [Option.some.injEq, ← BitVec.toNat_inj, toNat_add_of_lt h]
    exact eq_comm
  · have := z.isLt
    simp only [reduceCtorEq, false_iff]
    omega

/-- A checked difference is the difference of the naturals, and there is one. -/
theorem checkedSub_eq_some {x y z : BitVec w} :
    checkedSub x y = some z ↔ x.toNat = z.toNat + y.toNat := by
  unfold checkedSub
  split
  · rename_i h
    rw [Option.some.injEq, ← BitVec.toNat_inj, toNat_sub_of_le h]
    omega
  · simp only [reduceCtorEq, false_iff]
    omega

theorem checkedRem_eq_some {x y z : BitVec w} : checkedRem x y = some z ↔ y ≠ 0 ∧ x % y = z := by
  unfold checkedRem
  split
  · rename_i h
    simp [h]
  · rename_i h
    rw [Option.some.injEq]
    exact (and_iff_right h).symm

theorem saturatingAdd_of_lt {x y : BitVec w} (h : x.toNat + y.toNat < 2 ^ w) : saturatingAdd x y = x + y := by
  rw [saturatingAdd, checkedAdd, if_pos h, Option.getD_some]

theorem le_saturatingAdd (x y : BitVec w) : y.toNat ≤ (saturatingAdd x y).toNat := by
  by_cases h : x.toNat + y.toNat < 2 ^ w
  · rw [saturatingAdd_of_lt h, toNat_add_of_lt h]
    exact Nat.le_add_left _ _
  · rw [saturatingAdd, checkedAdd, if_neg h, Option.getD_none, BitVec.toNat_allOnes]
    exact Nat.le_sub_one_of_lt y.isLt

theorem saturatingSub_of_le {x y : BitVec w} (h : y.toNat ≤ x.toNat) : saturatingSub x y = x - y := if_pos h

theorem eq_add_of_toNat_eq {x y z : BitVec w} (h : z.toNat = x.toNat + y.toNat) : z = x + y := by
  apply BitVec.eq_of_toNat_eq
  rw [toNat_add_of_lt (h ▸ z.isLt), h]

theorem eq_sub_of_toNat_eq {x y z : BitVec w} (h : x.toNat = z.toNat + y.toNat) : z = x - y := by
  apply BitVec.eq_of_toNat_eq
  rw [toNat_sub_of_le (by omega)]
  omega

/-! ### Words of naturals -/

theorem toNat_ofNat_iff {n : Nat} : (BitVec.ofNat w n).toNat = n ↔ n < 2 ^ w := by
  rw [BitVec.toNat_ofNat]
  exact ⟨fun h => h ▸ Nat.mod_lt n (Nat.two_pow_pos w), Nat.mod_eq_of_lt⟩

/-- The word of a difference is the difference of the words. -/
theorem ofNat_sub_of_le {m n : Nat} (h : n ≤ m) :
    BitVec.ofNat w (m - n) = BitVec.ofNat w m - BitVec.ofNat w n := by
  rw [eq_sub_iff_add_eq, ← BitVec.ofNat_add, Nat.sub_add_cancel h]

/-- A natural is another one plus the word of their difference if that difference is a word. -/
theorem eq_add_toNat_iff {m n : Nat} {d : BitVec w} (h : d = BitVec.ofNat w m - BitVec.ofNat w n) :
    m = n + d.toNat ↔ n ≤ m ∧ m < n + 2 ^ w := by
  constructor
  · intro heq
    have hd := d.isLt
    omega
  · rintro ⟨hle, hlt⟩
    rw [h, ← ofNat_sub_of_le hle, toNat_ofNat_iff.mpr (by omega)]
    omega

/-- The word of a difference and what was taken away make up the number again, up to what a word loses. -/
theorem toNat_add_mod {m n : Nat} {d : BitVec w} (h : d = BitVec.ofNat w m - BitVec.ofNat w n) :
    (d.toNat + n) % 2 ^ w = m % 2 ^ w := by
  have hsum := congrArg BitVec.toNat (eq_sub_iff_add_eq.mp h)
  rwa [BitVec.toNat_add, BitVec.toNat_ofNat, BitVec.toNat_ofNat, Nat.add_mod_mod] at hsum

/-- The word of a sum is the sum of the words. -/
theorem ofNat_sum {ι : Type} (s : Finset ι) (f : ι → Nat) :
    BitVec.ofNat w (∑ i ∈ s, f i) = ∑ i ∈ s, BitVec.ofNat w (f i) := by
  classical
  induction s using Finset.induction_on with
  | empty => simp
  | insert a s ha ih => rw [Finset.sum_insert ha, Finset.sum_insert ha, BitVec.ofNat_add, ih]

/-! ### Scaling step by step -/

/-- Multiplying by `k` one step at a time loses what lies beyond the word, and nothing else. -/
theorem toNat_iterate_mul (x k : BitVec w) (n : Nat) :
    ((fun y => y * k)^[n] x).toNat = x.toNat * k.toNat ^ n % 2 ^ w := by
  induction n with
  | zero => simp [Nat.mod_eq_of_lt x.isLt]
  | succ n ih =>
      rw [Function.iterate_succ_apply', BitVec.toNat_mul, ih, Nat.mod_mul_mod, Nat.pow_succ,
        Nat.mul_assoc]

/-- Dividing by `k` one step at a time rounds down once. -/
theorem toNat_iterate_udiv (x k : BitVec w) (n : Nat) :
    ((fun y => y / k)^[n] x).toNat = x.toNat / k.toNat ^ n := by
  induction n with
  | zero => simp
  | succ n ih =>
      rw [Function.iterate_succ_apply', BitVec.toNat_udiv, ih, Nat.div_div_eq_div_mul, Nat.pow_succ]

/-! ### Wrapping arithmetic over the integers -/

/-- The integer a word stands for. -/
abbrev int (x : BitVec w) : ℤ := (x.toNat : ℤ)

theorem int_lt (x : BitVec w) : int x < 2 ^ w := by
  have := x.isLt
  unfold int
  exact_mod_cast this

theorem int_add (x y : BitVec w) : int (x + y) = (int x + int y) % 2 ^ w := by
  unfold int
  rw [BitVec.toNat_add]
  push_cast
  rfl

theorem int_sub (x y : BitVec w) : int (x - y) = (int x - int y) % 2 ^ w := by
  have hy := y.isLt
  unfold int
  rw [BitVec.toNat_sub, Int.natCast_mod, Nat.cast_add, Nat.cast_sub (Nat.le_of_lt hy)]
  push_cast
  rw [show (2 ^ w - (y.toNat : ℤ) + x.toNat) = (x.toNat - y.toNat : ℤ) + 2 ^ w by ring,
    Int.add_emod_right]

/-- A wrapping sum over an index set is the integer sum, reduced. -/
theorem int_sum {ι : Type} (s : Finset ι) (f : ι → BitVec w) :
    int (∑ i ∈ s, f i) = (∑ i ∈ s, int (f i)) % 2 ^ w := by
  classical
  induction s using Finset.induction_on with
  | empty => simp [int]
  | insert a s ha ih =>
      rw [Finset.sum_insert ha, Finset.sum_insert ha, int_add, ih, Int.add_emod_emod]

end Word
