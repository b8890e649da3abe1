import Mathlib.Data.FinEnum
import Mathlib.Tactic.Basic

/-!
# Base64

The standard alphabet with padding. Only canonical texts are decoded: the padding is complete, and the bits that no
byte needs are zero.
-/

namespace Base64

/-- The letter for six bits. -/
def letter (n : Nat) : UInt8 :=
  if n < 26 then UInt8.ofNat (65 + n)
  else if n < 52 then UInt8.ofNat (71 + n)
  else if n < 62 then UInt8.ofNat (n - 4)
  else if n = 62 then 43
  else 47

def value? (c : UInt8) : Option Nat :=
  if 65 ≤ c ∧ c ≤ 90 then some (c.toNat - 65)
  else if 97 ≤ c ∧ c ≤ 122 then some (c.toNat - 71)
  else if 48 ≤ c ∧ c ≤ 57 then some (c.toNat + 4)
  else if c = 43 then some 62
  else if c = 47 then some 63
  else none

def pad : UInt8 := 61

@[simp] theorem value?_pad : value? pad = none := by decide

theorem value?_letter : ∀ {n : Nat}, n < 64 → value? (letter n) = some n := by decide

theorem letter_ne_pad : ∀ {n : Nat}, n < 64 → letter n ≠ pad := by decide

theorem value?_all : ∀ c : UInt8, (value? c).all (fun n => decide (n < 64) && letter n == c) = true := by
  decide +kernel

theorem eq_letter {c : UInt8} {n : Nat} (h : value? c = some n) : n < 64 ∧ c = letter n := by
  have hall := value?_all c
  rw [h] at hall
  simp only [Option.all_some, Bool.and_eq_true, decide_eq_true_eq, beq_iff_eq] at hall
  exact ⟨hall.1, hall.2.symm⟩

/-- Three bytes are four letters. -/
def encode : List UInt8 → List UInt8
  | [] => []
  | [a] => [letter (a.toNat / 4), letter (a.toNat % 4 * 16), pad, pad]
  | [a, b] => [letter (a.toNat / 4), letter (a.toNat % 4 * 16 + b.toNat / 16), letter (b.toNat % 16 * 4), pad]
  | a :: b :: c :: bs =>
      letter (a.toNat / 4) :: letter (a.toNat % 4 * 16 + b.toNat / 16) ::
        letter (b.toNat % 16 * 4 + c.toNat / 64) :: letter (c.toNat % 64) :: encode bs

def decode : List UInt8 → Option (List UInt8)
  | [] => some []
  | w :: x :: y :: z :: cs => do
      let i ← value? w
      let j ← value? x
      if cs = [] ∧ y = pad ∧ z = pad then
        if j % 16 = 0 then some [UInt8.ofNat (i * 4 + j / 16)] else none
      else
        let k ← value? y
        if cs = [] ∧ z = pad then
          if k % 4 = 0 then some [UInt8.ofNat (i * 4 + j / 16), UInt8.ofNat (j % 16 * 16 + k / 4)] else none
        else
          let l ← value? z
          let bs ← decode cs
          some (UInt8.ofNat (i * 4 + j / 16) :: UInt8.ofNat (j % 16 * 16 + k / 4) ::
            UInt8.ofNat (k % 4 * 64 + l) :: bs)
  | _ => none

theorem ofNat_of_eq {b : UInt8} {n : Nat} (h : n = b.toNat) : UInt8.ofNat n = b := by
  rw [h, UInt8.ofNat_toNat]

theorem decode_encode (bs : List UInt8) : decode (encode bs) = some bs := by
  induction bs using encode.induct with
  | case1 => rfl
  | case2 a =>
      have ha := a.toNat_lt
      have h₁ : value? (letter (a.toNat / 4)) = some (a.toNat / 4) := value?_letter (by omega)
      have h₂ : value? (letter (a.toNat % 4 * 16)) = some (a.toNat % 4 * 16) := value?_letter (by omega)
      have hrest : a.toNat % 4 * 16 % 16 = 0 := by omega
      have hbyte : UInt8.ofNat (a.toNat / 4 * 4 + a.toNat % 4 * 16 / 16) = a := ofNat_of_eq (by omega)
      simp only [encode, decode, h₁, h₂, hrest, hbyte, Option.bind_eq_bind, Option.bind_some, and_self, if_true]
  | case3 a b =>
      have ha := a.toNat_lt
      have hb := b.toNat_lt
      have h₁ : value? (letter (a.toNat / 4)) = some (a.toNat / 4) := value?_letter (by omega)
      have h₂ : value? (letter (a.toNat % 4 * 16 + b.toNat / 16)) = some (a.toNat % 4 * 16 + b.toNat / 16) :=
        value?_letter (by omega)
      have h₃ : value? (letter (b.toNat % 16 * 4)) = some (b.toNat % 16 * 4) := value?_letter (by omega)
      have hpad : letter (b.toNat % 16 * 4) ≠ pad := letter_ne_pad (by omega)
      have hrest : b.toNat % 16 * 4 % 4 = 0 := by omega
      have hfirst : UInt8.ofNat (a.toNat / 4 * 4 + (a.toNat % 4 * 16 + b.toNat / 16) / 16) = a :=
        ofNat_of_eq (by omega)
      have hsecond : UInt8.ofNat ((a.toNat % 4 * 16 + b.toNat / 16) % 16 * 16 + b.toNat % 16 * 4 / 4) = b :=
        ofNat_of_eq (by omega)
      simp only [encode, decode, h₁, h₂, h₃, hpad, hrest, hfirst, hsecond, Option.bind_eq_bind, Option.bind_some,
        true_and, and_true, if_true, if_false]
  | case4 a b c bs ih =>
      have ha := a.toNat_lt
      have hb := b.toNat_lt
      have hc := c.toNat_lt
      have h₁ : value? (letter (a.toNat / 4)) = some (a.toNat / 4) := value?_letter (by omega)
      have h₂ : value? (letter (a.toNat % 4 * 16 + b.toNat / 16)) = some (a.toNat % 4 * 16 + b.toNat / 16) :=
        value?_letter (by omega)
      have h₃ : value? (letter (b.toNat % 16 * 4 + c.toNat / 64)) = some (b.toNat % 16 * 4 + c.toNat / 64) :=
        value?_letter (by omega)
      have h₄ : value? (letter (c.toNat % 64)) = some (c.toNat % 64) := value?_letter (by omega)
      have hpad : letter (c.toNat % 64) ≠ pad := letter_ne_pad (by omega)
      have hfirst : UInt8.ofNat (a.toNat / 4 * 4 + (a.toNat % 4 * 16 + b.toNat / 16) / 16) = a :=
        ofNat_of_eq (by omega)
      have hsecond : UInt8.ofNat ((a.toNat % 4 * 16 + b.toNat / 16) % 16 * 16 +
          (b.toNat % 16 * 4 + c.toNat / 64) / 4) = b := ofNat_of_eq (by omega)
      have hthird : UInt8.ofNat ((b.toNat % 16 * 4 + c.toNat / 64) % 4 * 64 + c.toNat % 64) = c :=
        ofNat_of_eq (by omega)
      simp only [encode, decode, h₁, h₂, h₃, h₄, hpad, hfirst, hsecond, hthird, ih, Option.bind_eq_bind,
        Option.bind_some, and_false, if_false]

theorem encode_of_decode {cs bs : List UInt8} (h : decode cs = some bs) : cs = encode bs := by
  induction cs using decode.induct generalizing bs with
  | case1 =>
      obtain rfl := Option.some.inj h
      rfl
  | case2 w x y z cs ih =>
      simp only [decode, Option.bind_eq_bind, Option.bind_eq_some_iff] at h
      obtain ⟨i, hi, j, hj, h⟩ := h
      obtain ⟨hi, rfl⟩ := eq_letter hi
      obtain ⟨hj, rfl⟩ := eq_letter hj
      have hfirst : (UInt8.ofNat (i * 4 + j / 16)).toNat = i * 4 + j / 16 := by
        rw [UInt8.toNat_ofNat']
        omega
      have hi4 : (i * 4 + j / 16) / 4 = i := by omega
      split at h
      · rename_i hpad
        obtain ⟨rfl, rfl, rfl⟩ := hpad
        split at h
        · obtain rfl := Option.some.inj h
          have hj4 : (i * 4 + j / 16) % 4 * 16 = j := by omega
          rw [encode, hfirst, hi4, hj4]
        · cases h
      · simp only [Option.bind_eq_some_iff] at h
        obtain ⟨k, hk, h⟩ := h
        obtain ⟨hk, rfl⟩ := eq_letter hk
        have hsecond : (UInt8.ofNat (j % 16 * 16 + k / 4)).toNat = j % 16 * 16 + k / 4 := by
          rw [UInt8.toNat_ofNat']
          omega
        have hj4 : (i * 4 + j / 16) % 4 * 16 + (j % 16 * 16 + k / 4) / 16 = j := by omega
        split at h
        · rename_i hpad
          obtain ⟨rfl, rfl⟩ := hpad
          split at h
          · obtain rfl := Option.some.inj h
            have hk4 : (j % 16 * 16 + k / 4) % 16 * 4 = k := by omega
            rw [encode, hfirst, hsecond, hi4, hj4, hk4]
          · cases h
        · simp only [Option.bind_eq_some_iff] at h
          obtain ⟨l, hl, bs', hbs, h⟩ := h
          obtain ⟨hl, rfl⟩ := eq_letter hl
          obtain rfl := Option.some.inj h
          have hthird : (UInt8.ofNat (k % 4 * 64 + l)).toNat = k % 4 * 64 + l := by
            rw [UInt8.toNat_ofNat']
            omega
          have hk4 : (j % 16 * 16 + k / 4) % 16 * 4 + (k % 4 * 64 + l) / 64 = k := by omega
          have hl4 : (k % 4 * 64 + l) % 64 = l := by omega
          rw [encode, hfirst, hsecond, hthird, hi4, hj4, hk4, hl4, ← ih hbs]
  | case3 cs hnil hfour => simp [decode] at h

theorem decode_eq_some {cs bs : List UInt8} : decode cs = some bs ↔ cs = encode bs := by
  constructor
  · exact encode_of_decode
  · rintro rfl
    exact decode_encode bs

end Base64
