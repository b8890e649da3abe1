import Mathlib.Data.List.Basic
import Mathlib.Data.Nat.Basic
import Mathlib.Order.Monotone.Defs
import Mathlib.Tactic.Basic

/-!
# Numbers and bytes as text

Decimal and hexadecimal text in ASCII, and texts behind their own length. The length needs no separator: a longer text
has a length that is not shorter, so that two texts with the same beginning have the same length.
-/

namespace Text

def ascii (c : Char) : UInt8 := UInt8.ofNat c.toNat

/-- A number in decimal, without leading zeros. -/
def decimal (n : Nat) : List UInt8 := (Nat.toDigits 10 n).map ascii

/-- A digit in lower case. -/
def hexDigit (d : Nat) : UInt8 := ascii (Nat.digitChar d)

/-- Two digits for each byte, the higher one first. -/
def hex : List UInt8 → List UInt8
  | [] => []
  | b :: bs => hexDigit (b.toNat / 16) :: hexDigit (b.toNat % 16) :: hex bs

@[simp] theorem length_hex (bs : List UInt8) : (hex bs).length = 2 * bs.length := by
  induction bs with
  | nil => rfl
  | cons b bs ih =>
      rw [hex, List.length_cons, List.length_cons, ih, List.length_cons]
      omega

theorem hexDigit_inj : ∀ {d : Nat}, d < 16 → ∀ {d' : Nat}, d' < 16 → hexDigit d = hexDigit d' → d = d' := by
  decide

theorem hex_injective : Function.Injective hex := by
  intro bs
  induction bs with
  | nil =>
      intro bs' h
      cases bs' with
      | nil => rfl
      | cons b' bs' => cases h
  | cons b bs ih =>
      intro bs' h
      cases bs' with
      | nil => cases h
      | cons b' bs' =>
          simp only [hex, List.cons.injEq] at h
          obtain ⟨hhigh, hlow, htail⟩ := h
          have hb := b.toNat_lt
          have hb' := b'.toNat_lt
          have hquotient := hexDigit_inj (by omega) (by omega) hhigh
          have hremainder := hexDigit_inj (by omega) (by omega) hlow
          have hbyte : b = b' := by
            apply UInt8.toNat_inj.mp
            omega
          rw [hbyte, ih htail]

/-- A greater number has no fewer digits. -/
theorem length_decimal_mono : Monotone fun n => (decimal n).length := by
  intro m n hle
  simp only [decimal, List.length_map]
  have hn : n < 10 ^ (Nat.toDigits 10 n).length :=
    (Nat.length_toDigits_le_iff (by decide) Nat.length_toDigits_pos).mp (le_refl _)
  exact (Nat.length_toDigits_le_iff (by decide) Nat.length_toDigits_pos).mpr (by omega)

/-- Texts behind their lengths are told apart wherever a length ends, if greater lengths do not have shorter names. -/
theorem prefixed_injective {α : Type} {name : Nat → List α} (hmono : Monotone fun n => (name n).length) {x y : List α}
    (h : name x.length ++ x = name y.length ++ y) : x = y := by
  have htotal := congrArg List.length h
  simp only [List.length_append] at htotal
  have hlength : x.length = y.length := by
    rcases Nat.le_total x.length y.length with hle | hle
    · have hname : (name x.length).length ≤ (name y.length).length := hmono hle
      omega
    · have hname : (name y.length).length ≤ (name x.length).length := hmono hle
      omega
  rw [hlength] at h
  exact List.append_cancel_left h

end Text
