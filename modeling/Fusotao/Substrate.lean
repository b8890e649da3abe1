import Fusotao.Support

/-!
# What the pallets take from Substrate

The ledger of the native token is `pallet_balances`, which is not part of the repository. It enters as
a parameter, with what its documentation promises in a runtime whose existential deposit is `1`: an
account is only dropped when nothing is left in it.
-/

namespace Fusotao

/-- Whether an amount is put to the free or to the reserved balance. -/
inductive BalanceStatus
  | free
  | reserved
  deriving DecidableEq

/-- The operations of `pallet_balances` that the token pallet calls. -/
structure Balances where
  Store : Type
  free : Store → AccountId → U128
  reserved : Store → AccountId → U128
  canReserve : Store → AccountId → U128 → Bool
  reserve : Store → AccountId → U128 → Result Store
  unreserve : Store → AccountId → U128 → Store
  repatriateReserved : Store → AccountId → AccountId → U128 → BalanceStatus → Result Store
  /-- `Currency::transfer` with `AllowDeath`. -/
  transfer : Store → AccountId → AccountId → U128 → Result Store
  /-- `mutate_account`, given the free and reserved balances the closure leaves. -/
  mutateAccount : Store → AccountId → U128 × U128 → Result Store
  depositCreating : Store → AccountId → U128 → Store
  /-- What other pallets do with the native token; none of them reserves it. -/
  Op : Type
  perform : Op → Store → Result Store

/-- What `pallet_balances` documents of these operations. -/
structure Balances.Lawful (B : Balances) : Prop where
  reserve_free : ∀ s s' who value, B.reserve s who value = .ok s' →
    (B.free s who).toNat = (B.free s' who).toNat + value.toNat
  reserve_reserved : ∀ s s' who value, B.reserve s who value = .ok s' →
    (B.reserved s' who).toNat = (B.reserved s who).toNat + value.toNat
  reserve_other : ∀ s s' who value, B.reserve s who value = .ok s' → ∀ a, a ≠ who →
    B.free s' a = B.free s a ∧ B.reserved s' a = B.reserved s a
  unreserve_reserved : ∀ s who value, value.toNat ≤ (B.reserved s who).toNat →
    (B.reserved s who).toNat = (B.reserved (B.unreserve s who value) who).toNat + value.toNat
  unreserve_other : ∀ s who value a, a ≠ who →
    B.free (B.unreserve s who value) a = B.free s a ∧
      B.reserved (B.unreserve s who value) a = B.reserved s a
  transfer_reserved : ∀ s s' origin target value, B.transfer s origin target value = .ok s' →
    ∀ a, B.reserved s' a = B.reserved s a
  mutateAccount_self : ∀ s s' who v, B.mutateAccount s who v = .ok s' →
    B.free s' who = v.1 ∧ B.reserved s' who = v.2
  mutateAccount_other : ∀ s s' who v, B.mutateAccount s who v = .ok s' → ∀ a, a ≠ who →
    B.free s' a = B.free s a ∧ B.reserved s' a = B.reserved s a
  perform_reserved : ∀ s s' op, B.perform op s = .ok s' → ∀ a, B.reserved s' a = B.reserved s a

/-- What is taken from one balance arrives at the other. -/
structure Balances.Exact (B : Balances) : Prop extends B.Lawful where
  unreserve_free : ∀ s who value, value.toNat ≤ (B.reserved s who).toNat →
    (B.free s who).toNat + value.toNat < 2 ^ 128 →
      (B.free (B.unreserve s who value) who).toNat = (B.free s who).toNat + value.toNat
  transfer_origin : ∀ s s' origin target value, origin ≠ target →
    B.transfer s origin target value = .ok s' →
      (B.free s origin).toNat = (B.free s' origin).toNat + value.toNat
  transfer_target : ∀ s s' origin target value, origin ≠ target →
    B.transfer s origin target value = .ok s' →
      (B.free s' target).toNat = (B.free s target).toNat + value.toNat
  transfer_other : ∀ s s' origin target value, B.transfer s origin target value = .ok s' →
    ∀ a, a ≠ origin → a ≠ target → B.free s' a = B.free s a

/-- Nothing of an account is locked, and nothing else refers to it: what is free, such as what was unreserved, can be
reserved and transferred, and the account can be written unless that drops it. -/
structure Balances.Unlocked (B : Balances) (who : AccountId) : Prop extends B.Exact where
  reserve_ok : ∀ s value, value.toNat ≤ (B.free s who).toNat →
    (B.reserved s who).toNat + value.toNat < 2 ^ 128 → ∃ s', B.reserve s who value = .ok s'
  transfer_ok : ∀ s target value, value.toNat ≤ (B.free s who).toNat →
    (B.free s target).toNat + value.toNat < 2 ^ 128 → ∃ s', B.transfer s who target value = .ok s'
  unreserve_covers : ∀ s value, value.toNat ≤ (B.reserved s who).toNat →
    value.toNat ≤ (B.free (B.unreserve s who value) who).toNat
  mutateAccount_ok : ∀ s v, (v = (0, 0) → B.free s who = 0 ∧ B.reserved s who = 0) →
    ∃ s', B.mutateAccount s who v = .ok s'

/-- As much is unreserved or repatriated as is reserved. Nothing is repatriated to an account that does not exist, and
an account can only be emptied by that if it is bare: nothing else, such as session keys, refers to it. -/
structure Balances.BestEffort (B : Balances) (bare : AccountId → Prop) : Prop extends B.Exact where
  unreserve_most : ∀ s who value, (B.reserved s who).toNat ≤ value.toNat →
    B.unreserve s who value = B.unreserve s who (B.reserved s who)
  repatriate_self : ∀ s who value, B.repatriateReserved s who who value .free = .ok (B.unreserve s who value)
  repatriate_reserved : ∀ s s' slashed target value, slashed ≠ target →
    B.repatriateReserved s slashed target value .free = .ok s' →
      (B.reserved s slashed).toNat =
          (B.reserved s' slashed).toNat + min value.toNat (B.reserved s slashed).toNat ∧
        ∀ a, a ≠ slashed → B.reserved s' a = B.reserved s a
  repatriate_free : ∀ s s' slashed target value, slashed ≠ target →
    B.repatriateReserved s slashed target value .free = .ok s' →
      (B.free s' target).toNat = (B.free s target).toNat + min value.toNat (B.reserved s slashed).toNat ∧
        ∀ a, a ≠ target → B.free s' a = B.free s a
  repatriate_ok : ∀ s slashed target value, slashed ≠ target → value.toNat ≤ (B.reserved s slashed).toNat →
    (B.free s target ≠ 0 ∨ B.reserved s target ≠ 0) →
      (bare slashed ∨ B.free s slashed ≠ 0 ∨ value.toNat < (B.reserved s slashed).toNat) →
        (B.free s target).toNat + value.toNat < 2 ^ 128 →
          ∃ s', B.repatriateReserved s slashed target value .free = .ok s'

/-- An amount as far as it is reserved. -/
def upTo (amount reserved : U128) : U128 := if amount ≤ reserved then amount else reserved

theorem upTo_of_le {amount reserved : U128} (h : amount.toNat ≤ reserved.toNat) : upTo amount reserved = amount :=
  if_pos h

theorem toNat_upTo (amount reserved : U128) : (upTo amount reserved).toNat = min amount.toNat reserved.toNat := by
  unfold upTo
  split
  · rename_i h
    exact (Nat.min_eq_left h).symm
  · rename_i h
    exact (Nat.min_eq_right (Nat.le_of_lt (Nat.not_le.mp h))).symm

/-! ### A ledger of that kind

It only keeps the free and the reserved balance of each account. -/

namespace PlainBalances

abbrev Store := AccountId → U128 × U128

def reserve (s : Store) (who : AccountId) (value : U128) : Result Store := do
  let free ← Exec.okOr (Word.checkedSub (s who).1 value) DispatchError.other
  let reserved ← Exec.okOr (Word.checkedAdd (s who).2 value) DispatchError.other
  return Function.update s who (free, reserved)

def unreserve (s : Store) (who : AccountId) (value : U128) : Store :=
  let actual := if value ≤ (s who).2 then value else (s who).2
  Function.update s who (Word.saturatingAdd (s who).1 actual, (s who).2 - actual)

def transfer (s : Store) (origin target : AccountId) (value : U128) : Result Store := do
  let debit ← Exec.okOr (Word.checkedSub (s origin).1 value) DispatchError.other
  let s := Function.update s origin (debit, (s origin).2)
  let credit ← Exec.okOr (Word.checkedAdd (s target).1 value) DispatchError.other
  return Function.update s target (credit, (s target).2)

/-- As much of `value` as is reserved goes to an account that has something already. -/
def repatriateReserved (s : Store) (slashed beneficiary : AccountId) (value : U128)
    (status : BalanceStatus) : Result Store := do
  if slashed = beneficiary then
    return match status with
      | .free => unreserve s slashed value
      | .reserved => s
  Exec.ensure (s beneficiary ≠ (0, 0)) DispatchError.other
  let actual := if value ≤ (s slashed).2 then value else (s slashed).2
  let s := Function.update s slashed ((s slashed).1, (s slashed).2 - actual)
  let balances ← match status with
    | .free => do
        let free ← Exec.okOr (Word.checkedAdd (s beneficiary).1 actual) DispatchError.other
        pure (free, (s beneficiary).2)
    | .reserved => do
        let reserved ← Exec.okOr (Word.checkedAdd (s beneficiary).2 actual) DispatchError.other
        pure ((s beneficiary).1, reserved)
  return Function.update s beneficiary balances

/-- Nothing is deposited where it does not fit. -/
def depositCreating (s : Store) (who : AccountId) (value : U128) : Store :=
  match Word.checkedAdd (s who).1 value with
  | some free => Function.update s who (free, (s who).2)
  | none => s

theorem reserve_self {s s' : Store} {who : AccountId} {value : U128}
    (h : reserve s who value = .ok s') :
    (s who).1.toNat = (s' who).1.toNat + value.toNat ∧
      (s' who).2.toNat = (s who).2.toNat + value.toNat := by
  simp only [reserve, Exec.bind_eq_ok, Exec.okOr_eq_ok, Word.checkedSub_eq_some,
    Word.checkedAdd_eq_some, Exec.pure_eq_ok] at h
  obtain ⟨free, hfree, reserved, hreserved, rfl⟩ := h
  rw [Function.update_self]
  exact ⟨hfree, hreserved⟩

theorem reserve_other {s s' : Store} {who : AccountId} {value : U128}
    (h : reserve s who value = .ok s') {a : AccountId} (ha : a ≠ who) : s' a = s a := by
  simp only [reserve, Exec.bind_eq_ok, Exec.pure_eq_ok] at h
  obtain ⟨free, -, reserved, -, rfl⟩ := h
  exact Function.update_of_ne ha _ s

theorem unreserve_self (s : Store) (who : AccountId) {value : U128}
    (h : value.toNat ≤ (s who).2.toNat) :
    (s who).2.toNat = (unreserve s who value who).2.toNat + value.toNat := by
  have hself : (unreserve s who value who).2 = (s who).2 - value := by
    simp [unreserve, show value ≤ (s who).2 from h]
  rw [hself, Word.toNat_sub_of_le h, Nat.sub_add_cancel h]

theorem unreserve_other (s : Store) (who : AccountId) (value : U128) {a : AccountId}
    (ha : a ≠ who) : unreserve s who value a = s a := Function.update_of_ne ha _ s

theorem transfer_reserved {s s' : Store} {origin target : AccountId} {value : U128}
    (h : transfer s origin target value = .ok s') (a : AccountId) : (s' a).2 = (s a).2 := by
  simp only [transfer, Exec.bind_eq_ok, Exec.pure_eq_ok] at h
  obtain ⟨debit, -, credit, -, rfl⟩ := h
  simp only [Function.update_apply]
  split_ifs <;> simp_all

theorem unreserve_free (s : Store) (who : AccountId) {value : U128}
    (hvalue : value.toNat ≤ (s who).2.toNat) (hfits : (s who).1.toNat + value.toNat < 2 ^ 128) :
    (unreserve s who value who).1.toNat = (s who).1.toNat + value.toNat := by
  have hself : (unreserve s who value who).1 = Word.saturatingAdd (s who).1 value := by
    simp [unreserve, show value ≤ (s who).2 from hvalue]
  rw [hself, Word.saturatingAdd_of_lt hfits, Word.toNat_add_of_lt hfits]

theorem unreserve_covers (s : Store) (who : AccountId) {value : U128}
    (hvalue : value.toNat ≤ (s who).2.toNat) : value.toNat ≤ (unreserve s who value who).1.toNat := by
  have hself : (unreserve s who value who).1 = Word.saturatingAdd (s who).1 value := by
    simp [unreserve, show value ≤ (s who).2 from hvalue]
  rw [hself]
  exact Word.le_saturatingAdd _ _

theorem transfer_free {s s' : Store} {origin target : AccountId} {value : U128}
    (h : transfer s origin target value = .ok s') (hne : origin ≠ target) :
    (s origin).1.toNat = (s' origin).1.toNat + value.toNat ∧
      (s' target).1.toNat = (s target).1.toNat + value.toNat := by
  simp only [transfer, Exec.bind_eq_ok, Exec.okOr_eq_ok, Word.checkedSub_eq_some, Word.checkedAdd_eq_some,
    Exec.pure_eq_ok] at h
  obtain ⟨debit, hdebit, credit, hcredit, rfl⟩ := h
  rw [Function.update_of_ne hne.symm] at hcredit
  rw [Function.update_of_ne hne, Function.update_self, Function.update_self]
  exact ⟨hdebit, hcredit⟩

theorem transfer_other {s s' : Store} {origin target : AccountId} {value : U128}
    (h : transfer s origin target value = .ok s') {a : AccountId} (horigin : a ≠ origin)
    (htarget : a ≠ target) : s' a = s a := by
  simp only [transfer, Exec.bind_eq_ok, Exec.pure_eq_ok] at h
  obtain ⟨debit, -, credit, -, rfl⟩ := h
  rw [Function.update_of_ne htarget, Function.update_of_ne horigin]

theorem reserve_ok (s : Store) (who : AccountId) {value : U128}
    (hvalue : value.toNat ≤ (s who).1.toNat) (hfits : (s who).2.toNat + value.toNat < 2 ^ 128) :
    ∃ s', reserve s who value = .ok s' := by
  rw [reserve, Word.checkedSub, if_pos hvalue, Word.checkedAdd, if_pos hfits]
  exact ⟨_, rfl⟩

theorem transfer_ok (s : Store) (origin target : AccountId) {value : U128}
    (hvalue : value.toNat ≤ (s origin).1.toNat) (hfits : (s target).1.toNat + value.toNat < 2 ^ 128) :
    ∃ s', transfer s origin target value = .ok s' := by
  have hcredit : (Function.update s origin ((s origin).1 - value, (s origin).2) target).1.toNat +
      value.toNat < 2 ^ 128 := by
    rw [Function.update_apply]
    split
    · have hsub := Word.toNat_sub_of_le hvalue
      have hlt := (s origin).1.isLt
      simp only [hsub]
      omega
    · exact hfits
  rw [transfer, Word.checkedSub, if_pos hvalue]
  simp only [Exec.okOr_some, Exec.ok_bind, Word.checkedAdd, if_pos hcredit]
  exact ⟨_, rfl⟩

theorem unreserve_most (s : Store) (who : AccountId) {value : U128} (h : (s who).2.toNat ≤ value.toNat) :
    unreserve s who value = unreserve s who (s who).2 := by
  have hactual : (if value ≤ (s who).2 then value else (s who).2) = (s who).2 := by
    split
    · rename_i hle
      exact BitVec.eq_of_toNat_eq (Nat.le_antisymm hle h)
    · rfl
  rw [unreserve, unreserve, hactual, if_pos (BitVec.le_refl _)]

theorem repatriateReserved_self (s : Store) (who : AccountId) (value : U128) :
    repatriateReserved s who who value .free = .ok (unreserve s who value) := by
  unfold repatriateReserved
  rw [if_pos rfl]
  rfl

theorem repatriateReserved_eq_ok {s s' : Store} {slashed beneficiary : AccountId} {value : U128}
    (hne : slashed ≠ beneficiary) :
    repatriateReserved s slashed beneficiary value .free = .ok s' ↔ s beneficiary ≠ (0, 0) ∧
      ∃ free : U128, free.toNat = (s beneficiary).1.toNat + min value.toNat (s slashed).2.toNat ∧
        Function.update (Function.update s slashed ((s slashed).1, (s slashed).2 - upTo value (s slashed).2))
          beneficiary (free, (s beneficiary).2) = s' := by
  rw [← toNat_upTo]
  unfold repatriateReserved upTo
  simp only [if_neg hne, Exec.bind_eq_ok, Exec.ensure_eq_ok, Exec.okOr_eq_ok, Word.checkedAdd_eq_some, Exec.pure_eq_ok,
    Function.update_of_ne (Ne.symm hne)]
  constructor
  · rintro ⟨-, hlive, free, hfree, -, rfl, rfl⟩
    exact ⟨hlive, free, hfree, rfl⟩
  · rintro ⟨hlive, free, hfree, rfl⟩
    exact ⟨(), hlive, free, hfree, _, rfl, rfl⟩

theorem repatriateReserved_reserved {s s' : Store} {slashed beneficiary : AccountId} {value : U128}
    (hne : slashed ≠ beneficiary) (h : repatriateReserved s slashed beneficiary value .free = .ok s') :
    (s slashed).2.toNat = (s' slashed).2.toNat + min value.toNat (s slashed).2.toNat ∧
      ∀ a, a ≠ slashed → (s' a).2 = (s a).2 := by
  obtain ⟨-, free, -, rfl⟩ := (repatriateReserved_eq_ok hne).mp h
  refine ⟨?_, fun a ha => ?_⟩
  · have hupTo := toNat_upTo value (s slashed).2
    have hle : (upTo value (s slashed).2).toNat ≤ (s slashed).2.toNat := hupTo.trans_le (Nat.min_le_right _ _)
    rw [Function.update_of_ne hne, Function.update_self, Word.toNat_sub_of_le hle, ← hupTo, Nat.sub_add_cancel hle]
  · simp only [Function.update_apply]
    split_ifs <;> simp_all

theorem repatriateReserved_free {s s' : Store} {slashed beneficiary : AccountId} {value : U128}
    (hne : slashed ≠ beneficiary) (h : repatriateReserved s slashed beneficiary value .free = .ok s') :
    (s' beneficiary).1.toNat = (s beneficiary).1.toNat + min value.toNat (s slashed).2.toNat ∧
      ∀ a, a ≠ beneficiary → (s' a).1 = (s a).1 := by
  obtain ⟨-, free, hfree, rfl⟩ := (repatriateReserved_eq_ok hne).mp h
  refine ⟨?_, fun a ha => ?_⟩
  · rw [Function.update_self]
    exact hfree
  · rw [Function.update_of_ne ha, Function.update_apply]
    split_ifs <;> simp_all

theorem repatriateReserved_ok (s : Store) {slashed beneficiary : AccountId} {value : U128}
    (hne : slashed ≠ beneficiary) (hvalue : value.toNat ≤ (s slashed).2.toNat)
    (hlive : (s beneficiary).1 ≠ 0 ∨ (s beneficiary).2 ≠ 0)
    (hfits : (s beneficiary).1.toNat + value.toNat < 2 ^ 128) :
    ∃ s', repatriateReserved s slashed beneficiary value .free = .ok s' := by
  have hbeneficiary : s beneficiary ≠ (0, 0) := by
    intro hzero
    simp [hzero] at hlive
  refine ⟨_, (repatriateReserved_eq_ok hne).mpr ⟨hbeneficiary, (s beneficiary).1 + value, ?_, rfl⟩⟩
  rw [Nat.min_eq_left hvalue]
  exact Word.toNat_add_of_lt hfits

theorem repatriateReserved_ne_panic (s : Store) (slashed beneficiary : AccountId) (value : U128)
    (status : BalanceStatus) : repatriateReserved s slashed beneficiary value status ≠ .error .panic := by
  intro h
  unfold repatriateReserved at h
  split at h
  · exact absurd h (by simp [pure, Except.pure])
  · cases status <;> simp [Exec.bind_eq_error, pure, Except.pure] at h

theorem transfer_ne_panic (s : Store) (origin target : AccountId) (value : U128) :
    transfer s origin target value ≠ .error .panic := by
  intro h
  simp [transfer, Exec.bind_eq_error, pure, Except.pure] at h

end PlainBalances

def Balances.plain : Balances where
  Store := PlainBalances.Store
  free s who := (s who).1
  reserved s who := (s who).2
  canReserve s who value := value ≤ (s who).1
  reserve := PlainBalances.reserve
  unreserve := PlainBalances.unreserve
  repatriateReserved := PlainBalances.repatriateReserved
  transfer := PlainBalances.transfer
  mutateAccount s who v := .ok (Function.update s who v)
  depositCreating := PlainBalances.depositCreating
  Op := Empty
  perform op := nomatch op

theorem Balances.plain_lawful : Balances.plain.Lawful where
  reserve_free _ _ _ _ h := (PlainBalances.reserve_self h).1
  reserve_reserved _ _ _ _ h := (PlainBalances.reserve_self h).2
  reserve_other _ _ _ _ h _ ha :=
    ⟨congrArg Prod.fst (PlainBalances.reserve_other h ha),
      congrArg Prod.snd (PlainBalances.reserve_other h ha)⟩
  unreserve_reserved s who _ h := PlainBalances.unreserve_self s who h
  unreserve_other s who value _ ha :=
    ⟨congrArg Prod.fst (PlainBalances.unreserve_other s who value ha),
      congrArg Prod.snd (PlainBalances.unreserve_other s who value ha)⟩
  transfer_reserved _ _ _ _ _ h := PlainBalances.transfer_reserved h
  mutateAccount_self s s' who v h := by
    obtain rfl : s' = Function.update s who v := (Except.ok.inj h).symm
    exact ⟨congrArg Prod.fst (Function.update_self who v s),
      congrArg Prod.snd (Function.update_self who v s)⟩
  mutateAccount_other s s' who v h a ha := by
    obtain rfl : s' = Function.update s who v := (Except.ok.inj h).symm
    exact ⟨congrArg Prod.fst (Function.update_of_ne ha v s),
      congrArg Prod.snd (Function.update_of_ne ha v s)⟩
  perform_reserved _ _ op := nomatch op

theorem Balances.plain_exact : Balances.plain.Exact where
  toLawful := plain_lawful
  unreserve_free s who _ h hfits := PlainBalances.unreserve_free s who h hfits
  transfer_origin _ _ _ _ _ hne h := (PlainBalances.transfer_free h hne).1
  transfer_target _ _ _ _ _ hne h := (PlainBalances.transfer_free h hne).2
  transfer_other _ _ _ _ _ h _ horigin htarget :=
    congrArg Prod.fst (PlainBalances.transfer_other h horigin htarget)

theorem Balances.plain_unlocked (who : AccountId) : Balances.plain.Unlocked who where
  toExact := plain_exact
  reserve_ok s _ h hfits := PlainBalances.reserve_ok s who h hfits
  transfer_ok s target _ h hfits := PlainBalances.transfer_ok s who target h hfits
  unreserve_covers s _ h := PlainBalances.unreserve_covers s who h
  mutateAccount_ok s v _ := ⟨Function.update s who v, rfl⟩

theorem Balances.plain_bestEffort (bare : AccountId → Prop) : Balances.plain.BestEffort bare where
  toExact := plain_exact
  unreserve_most s who _ h := PlainBalances.unreserve_most s who h
  repatriate_self s who value := PlainBalances.repatriateReserved_self s who value
  repatriate_reserved _ _ _ _ _ hne h := PlainBalances.repatriateReserved_reserved hne h
  repatriate_free _ _ _ _ _ hne h := PlainBalances.repatriateReserved_free hne h
  repatriate_ok s _ _ _ hne hvalue hlive _ hfits := PlainBalances.repatriateReserved_ok s hne hvalue hlive hfits

end Fusotao
