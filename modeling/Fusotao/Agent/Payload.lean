import Fusotao.Base.Text
import Fusotao.Support

/-!
# What an Ethereum key signs

The personal message for a transaction is a fixed text, then the number of hexadecimal digits in decimal, and then those
digits. Nothing stands between the number and the digits.
-/

namespace Fusotao.Agent

variable {Index Tx : Type}

def personalPrefix : List UInt8 := 0x19 :: "Ethereum Signed Message:\n".toUTF8.toList

/-- The SCALE encoding of a nonce and a transaction is `encode`. A byte vector has at most `isize::MAX` bytes, so that
twice its length is a `usize`. -/
def extendPayload (encode : Index × Tx → List UInt8) (nonce : Index) (tx : Tx) : List UInt8 :=
  let encodedPayload := encode (nonce, tx)
  personalPrefix ++ (Text.decimal (encodedPayload.length * 2) ++ Text.hex encodedPayload)

/-- A message is the one of a single nonce and transaction. -/
theorem extendPayload_injective {encode : Index × Tx → List UInt8} (hencode : Function.Injective encode) :
    ∀ nonce nonce' tx tx', extendPayload encode nonce tx = extendPayload encode nonce' tx' →
      nonce = nonce' ∧ tx = tx' := by
  intro nonce nonce' tx tx' h
  have htext := List.append_cancel_left h
  -- the number is the length of the text that follows it
  have hlength : ∀ bs : List UInt8, bs.length * 2 = (Text.hex bs).length := by
    intro bs
    rw [Text.length_hex, Nat.mul_comm]
  rw [hlength, hlength] at htext
  have hhex := Text.prefixed_injective Text.length_decimal_mono htext
  exact Prod.mk.inj (hencode (Text.hex_injective hhex))

/-- The encoding of a nonce and a call without arguments: the index in little-endian order, the pallet and the call. -/
def encodeCall (p : U32 × U8 × U8) : List UInt8 :=
  Bytes.leBytes 4 p.1.toNat ++ [UInt8.ofBitVec p.2.1, UInt8.ofBitVec p.2.2]

theorem extendPayload_injective_call :
    extendPayload encodeCall 1 (0, 7) ≠ extendPayload encodeCall 257 (0, 7) := by
  have hencode : Function.Injective encodeCall := by
    rintro ⟨nonce, pallet, call⟩ ⟨nonce', pallet', call'⟩ h
    obtain ⟨hnonce, hcall⟩ := List.append_inj h (by simp)
    obtain rfl : nonce = nonce' := BitVec.eq_of_toNat_eq (Bytes.leBytes_inj nonce.isLt nonce'.isLt hnonce)
    simp only [List.cons.injEq, UInt8.ofBitVec.injEq, and_true] at hcall
    rw [hcall.1, hcall.2]
  intro h
  exact absurd (extendPayload_injective hencode 1 257 (0, 7) (0, 7) h).1 (by decide)

end Fusotao.Agent
