import Fusotao.Foundation.Schedule

/-!
# What was put into the vault

A seller puts a fund into the vault. From then on the pallet releases the fund as scheduled, whatever else is reserved
on the account of the beneficiary, and an instalment that the seller may refuse goes back unless it was approved.
-/

namespace Fusotao.Foundation

open Exec Word

open scoped BigOperators

variable {cfg : Config} {s s' s₀ s₁ : State cfg} {now : U32} {fund : FoundationData} {amount : U128}
  {beneficiary seller : AccountId} {needToApprove : Bool} {bare : AccountId → Prop}

/-! ### Runs -/

/-- What is written down of a fund: what other pallets have reserved on the account of the beneficiary, the epochs that
the seller has approved, and what was released, with its epoch. -/
structure Vault where
  others : Nat
  approved : List U32
  released : List (Nat × Nat)

/-- What a pallet has reserved if it did so on the account. -/
def onAccount (beneficiary who : AccountId) (value : U128) : Nat := if who = beneficiary then value.toNat else 0

/-- A fund is in the vault, and something else happens: other funds are put into it, instalments are approved, other
pallets reserve, release and move what is theirs, and the next block comes. -/
inductive VaultStep (seller beneficiary : AccountId) (allowed : State cfg → Prop) :
    State cfg × Vault → State cfg × Vault → Prop
  | putIntoVault {s s' : State cfg} {v : Vault} {origin : Origin} {other : AccountId} {fund : FoundationData}
      {needToApprove : Bool} (hother : other ≠ beneficiary)
      (h : putIntoVault origin other fund needToApprove s = .ok s') :
      VaultStep seller beneficiary allowed (s, v) (s', v)
  | approve {s s' : State cfg} {v : Vault} {origin : Origin} {account : AccountId} {epoch : U32}
      (h : approve origin account epoch s = .ok s') :
      VaultStep seller beneficiary allowed (s, v) (s', { v with
        approved := if origin = .signed seller ∧ account = beneficiary then epoch :: v.approved else v.approved })
  | reserve {s : State cfg} {v : Vault} {who : AccountId} {value : U128} {native : cfg.balances.Store}
      (h : cfg.balances.reserve s.native who value = .ok native) :
      VaultStep seller beneficiary allowed (s, v)
        ({ s with native }, { v with others := v.others + onAccount beneficiary who value })
  | unreserve {s : State cfg} {v : Vault} {who : AccountId} {value : U128}
      (hown : onAccount beneficiary who value ≤ v.others) :
      VaultStep seller beneficiary allowed (s, v)
        ({ s with native := cfg.balances.unreserve s.native who value },
          { v with others := v.others - onAccount beneficiary who value })
  | transfer {s : State cfg} {v : Vault} {origin target : AccountId} {value : U128} {native : cfg.balances.Store}
      (h : cfg.balances.transfer s.native origin target value = .ok native) :
      VaultStep seller beneficiary allowed (s, v) ({ s with native }, v)
  | outside {s : State cfg} {v : Vault} {op : cfg.balances.Op} {native : cfg.balances.Store}
      (h : cfg.balances.perform op s.native = .ok native) :
      VaultStep seller beneficiary allowed (s, v) ({ s with native }, v)
  | block {s s' : State cfg} {v : Vault} (hrange : s.blockNumber.toNat + 1 < 2 ^ 32)
      (hissued : issued cfg s.native < 2 ^ 128) (hallowed : allowed s) (h : block s = .ok s') :
      VaultStep seller beneficiary allowed (s, v) (s', { v with
        released := v.released ++
          (comesDue beneficiary s).toList.map fun (now, amount) => (now.toNat, amount.toNat) })

/-! ### What is kept -/

/-- What has come due of a fund was released, and the rest is reserved, beside what is reserved by others. -/
structure Kept (fund : FoundationData) (beneficiary : AccountId) (s : State cfg) (v : Vault) : Prop where
  entry : s.foundation.lookup beneficiary = entryAfter fund (dueBy fund (epochOf s))
  released : v.released = (schedule fund).take (dueBy fund (epochOf s))
  reserved : (cfg.balances.reserved s.native beneficiary).toNat =
    v.others + (((schedule fund).drop (dueBy fund (epochOf s))).map Prod.snd).sum

theorem toNat_totalAmount (hfits : lockedAmount fund < 2 ^ 128) : fund.totalAmount.toNat = lockedAmount fund := by
  have htimes : (fund.times.setWidth 128).toNat = fund.times.toNat := by
    have hlt := fund.times.isLt
    rw [BitVec.toNat_setWidth, Nat.mod_eq_of_lt (by omega)]
  rw [FoundationData.totalAmount, BitVec.toNat_add, BitVec.toNat_mul, htimes, Nat.mod_add_mod, Nat.mul_comm,
    Nat.add_comm]
  exact Nat.mod_eq_of_lt hfits

/-- A fund is accepted before anything of it comes due. -/
theorem putIntoVault_eq_ok {origin : Origin}
    (h : putIntoVault origin beneficiary fund needToApprove s = .ok s') : ∃ seller paid native,
      origin = .signed seller ∧ s.foundation.lookup beneficiary = none ∧
      (currentEpoch cfg s.blockNumber).toNat < fund.delayDurations.toNat ∧
      cfg.balances.transfer s.native seller beneficiary fund.totalAmount = .ok paid ∧
      cfg.balances.reserve paid beneficiary fund.totalAmount = .ok native ∧
      s' = { s with
        native
        approvals := if needToApprove then needApproval seller beneficiary fund s.approvals else s.approvals
        foundation := s.foundation.insert beneficiary fund } := by
  simp only [putIntoVault, bind_eq_ok, ensure_eq_ok, pure_eq_ok] at h
  obtain ⟨seller, hseller, -, hnone, -, hepoch, paid, hpaid, native, hnative, rfl⟩ := h
  exact ⟨seller, paid, native, ensureSigned_eq_ok.mp hseller, Option.isNone_iff_eq_none.mp hnone, hepoch, hpaid,
    hnative, rfl⟩

theorem put_issued (hlaw : cfg.balances.Exact) (hne : seller ≠ beneficiary)
    (h : putIntoVault (.signed seller) beneficiary fund needToApprove s = .ok s') :
    issued cfg s'.native = issued cfg s.native := by
  obtain ⟨payer, paid, native, hpayer, -, -, hpaid, hnative, rfl⟩ := putIntoVault_eq_ok h
  obtain rfl := Origin.signed.inj hpayer
  exact (reserve_issued hlaw hnative).trans (transfer_issued hlaw hne hpaid)

theorem block_issued (hlaw : cfg.balances.BestEffort bare) (hissued : issued cfg s.native < 2 ^ 128)
    (h : block s = .ok s') : issued cfg s'.native = issued cfg s.native := by
  rcases block_eq_ok h with ⟨-, rfl⟩ | ⟨now, -, hunlock⟩
  · rfl
  · exact unlockFund_issued hlaw (s := { s with blockNumber := s.blockNumber + 1 }) hissued hunlock

theorem kept_of_put (hlaw : cfg.balances.BestEffort bare) (hfits : lockedAmount fund < 2 ^ 128)
    (h : putIntoVault (.signed seller) beneficiary fund needToApprove s₀ = .ok s₁) :
    Kept fund beneficiary s₁ ⟨(cfg.balances.reserved s₀.native beneficiary).toNat, [], []⟩ := by
  obtain ⟨payer, paid, native, -, -, hepoch, hpaid, hnative, rfl⟩ := putIntoVault_eq_ok h
  have hzero : dueBy fund (s₀.blockNumber.toNat / cfg.duration.toNat) = 0 := by
    rw [currentEpoch, BitVec.toNat_udiv] at hepoch
    rw [dueBy, if_pos hepoch]
  have hreserved := hlaw.reserve_reserved _ _ _ _ hnative
  rw [hlaw.transfer_reserved _ _ _ _ _ hpaid, toNat_totalAmount hfits] at hreserved
  refine ⟨?_, ?_, ?_⟩
  · rw [epochOf, hzero, entryAfter, if_pos (Nat.zero_le _), IterMap.lookup_insert, if_pos rfl]
    have htimes : fund.times - BitVec.ofNat 32 (0 - 1) = fund.times := BitVec.sub_zero _
    rw [htimes]
  · rw [epochOf, hzero]
    rfl
  · rw [epochOf, hzero, List.drop_zero, sum_schedule]
    exact hreserved

theorem comesDue_eq_some : comesDue beneficiary s = some (now, amount) ↔ nextEpoch s = some now ∧
    ∃ entry, s.foundation.lookup beneficiary = some entry ∧ dueAmount now entry = some amount := by
  unfold comesDue
  constructor
  · intro h
    obtain ⟨now', hnow, h⟩ := Option.bind_eq_some_iff.mp h
    obtain ⟨entry, hentry, h⟩ := Option.bind_eq_some_iff.mp h
    obtain ⟨amount', hamount, heq⟩ := Option.map_eq_some_iff.mp h
    obtain ⟨rfl, rfl⟩ := Prod.mk.inj heq
    exact ⟨hnow, entry, hentry, hamount⟩
  · rintro ⟨hnow, entry, hentry, hamount⟩
    rw [hnow, hentry, Option.bind_some, Option.bind_some, hamount, Option.map_some]

theorem entryAfter_eq_some {n : Nat} {entry : FoundationData} (h : entryAfter fund n = some entry) :
    n ≤ fund.times.toNat ∧ entry = { fund with times := fund.times - BitVec.ofNat 32 (n - 1) } := by
  unfold entryAfter at h
  split at h
  · rename_i hle
    exact ⟨hle, (Option.some.inj h).symm⟩
  · exact absurd h (by simp)

/-- What comes due is the next instalment of the schedule. -/
structure DueNext (fund : FoundationData) (beneficiary : AccountId) (s : State cfg) (now : U32) (amount : U128) :
    Prop where
  index : dueBy fund (epochOf s) ≤ fund.times.toNat
  next : dueBy fund (epochOf s + 1) = dueBy fund (epochOf s) + 1
  item : (schedule fund)[dueBy fund (epochOf s)]? = some (now.toNat, amount.toNat)
  epoch : now.toNat = epochOf s + 1

theorem Kept.dueNext {v : Vault} (hkept : Kept fund beneficiary s v) (hrange : s.blockNumber.toNat + 1 < 2 ^ 32)
    (hdue : comesDue beneficiary s = some (now, amount)) : DueNext fund beneficiary s now amount := by
  obtain ⟨hnow, entry, hlookup, hamount⟩ := comesDue_eq_some.mp hdue
  rw [hkept.entry] at hlookup
  obtain ⟨hindex, rfl⟩ := entryAfter_eq_some hlookup
  have hepoch := (toNat_nextEpoch hrange hnow).1
  have hnext := @dueBy_next _ fund _ hepoch
  have hamount' : dueAmount now fund = some amount := hamount
  rw [hamount'] at hnext
  simp only [if_pos hindex, hepoch] at hnext
  exact ⟨hindex, hnext.1, by rw [hepoch]; exact hnext.2, hepoch⟩

/-- Nothing comes due as long as the schedule says so. -/
theorem Kept.quiet {v : Vault} (hkept : Kept fund beneficiary s v) (hrange : s.blockNumber.toNat + 1 < 2 ^ 32)
    (hdue : comesDue beneficiary s = none) :
    dueBy fund ((s.blockNumber.toNat + 1) / cfg.duration.toNat) = dueBy fund (epochOf s) := by
  cases hnow : nextEpoch s with
  | none => rw [epoch_of_nextEpoch_none hrange hnow]
  | some now =>
      obtain ⟨hepoch, hquot⟩ := toNat_nextEpoch hrange hnow
      have hnext := @dueBy_next _ fund _ hepoch
      rw [hquot, ← hepoch]
      cases hamount : dueAmount now fund with
      | none =>
          rw [hamount] at hnext
          exact hnext
      | some amount =>
          rw [hamount] at hnext
          dsimp only at hnext
          split at hnext
          · rename_i hindex
            have hentry := hkept.entry
            rw [entryAfter, if_pos hindex] at hentry
            exact absurd (hdue.symm.trans (comesDue_eq_some.mpr ⟨hnow, _, hentry, hamount⟩)) (by simp)
          · exact hnext

theorem sum_drop {l : List (Nat × Nat)} {n : Nat} {x : Nat × Nat} (h : l[n]? = some x) :
    ((l.drop n).map Prod.snd).sum = x.2 + ((l.drop (n + 1)).map Prod.snd).sum := by
  obtain ⟨hlt, rfl⟩ := List.getElem?_eq_some_iff.mp h
  rw [List.drop_eq_getElem_cons hlt, List.map_cons, List.sum_cons]

section Steps

variable (hlaw : cfg.balances.BestEffort bare)

include hlaw

/-- The amount that comes due is reserved, and is paid. -/
theorem Kept.pays {v : Vault} (hkept : Kept fund beneficiary s v) (hrange : s.blockNumber.toNat + 1 < 2 ^ 32)
    (hissued : issued cfg s.native < 2 ^ 128) (hlives : ReceiverLives bare beneficiary s) (h : block s = .ok s')
    (hdue : comesDue beneficiary s = some (now, amount)) :
    Pays beneficiary (receiver now beneficiary s) amount s s' := by
  have hitem := sum_drop (hkept.dueNext hrange hdue).item
  have hreserved := hkept.reserved
  exact (block_effect hlaw hissued h).pays now amount hdue (by omega) hlives

theorem Kept.block {v : Vault} (htimes : fund.times ≠ 0) (hkept : Kept fund beneficiary s v)
    (hrange : s.blockNumber.toNat + 1 < 2 ^ 32) (hissued : issued cfg s.native < 2 ^ 128)
    (hlives : ReceiverLives bare beneficiary s) (h : block s = .ok s') :
    Kept fund beneficiary s' { v with
      released := v.released ++ (comesDue beneficiary s).toList.map fun (now, amount) => (now.toNat, amount.toNat) } := by
  have heffect := @block_effect _ _ _ beneficiary _ hlaw hissued h
  have hepoch : epochOf s' = (s.blockNumber.toNat + 1) / cfg.duration.toNat := by
    have hsum : (s.blockNumber + 1).toNat = s.blockNumber.toNat + 1 := toNat_add_of_lt hrange
    rw [epochOf, heffect.blockNumber, hsum]
  cases hdue : comesDue beneficiary s with
  | none =>
      have hquiet := hkept.quiet hrange hdue
      refine ⟨?_, ?_, ?_⟩
      · rw [hepoch, hquiet, heffect.lookup, hdue]
        exact hkept.entry
      · rw [hepoch, hquiet, ← hkept.released]
        exact List.append_nil _
      · rw [hepoch, hquiet, heffect.reserved hdue]
        exact hkept.reserved
  | some due =>
      obtain ⟨now, amount⟩ := due
      have hnext := hkept.dueNext hrange hdue
      obtain ⟨hnow, entry, hlookup, hamount⟩ := comesDue_eq_some.mp hdue
      rw [(toNat_nextEpoch hrange hnow).2] at hepoch
      refine ⟨?_, ?_, ?_⟩
      · rw [hepoch, hnext.next, heffect.lookup, hdue, hlookup]
        rw [hkept.entry] at hlookup
        obtain ⟨hindex, rfl⟩ := entryAfter_eq_some hlookup
        dsimp only
        by_cases hfirst : epochOf s < fund.delayDurations.toNat
        · -- The initial amount leaves the entry as it is.
          have hzero : dueBy fund (epochOf s) = 0 := by rw [dueBy, if_pos hfirst]
          have hpos : 0 < fund.times.toNat := Nat.pos_of_ne_zero fun hnone => htimes (BitVec.eq_of_toNat_eq hnone)
          rw [if_neg, hzero, entryAfter, if_pos (by omega)]
          rw [gt_iff_lt, BitVec.lt_def, hnext.epoch]
          omega
        · have hpos : 0 < dueBy fund (epochOf s) := by
            rw [dueBy, if_neg hfirst]
            exact Nat.succ_pos _
          rw [if_pos, afterInstalment_entryAfter hpos hlookup]
          rw [gt_iff_lt, BitVec.lt_def, hnext.epoch]
          omega
      · rw [hepoch, hnext.next, List.take_add_one, hnext.item, ← hkept.released]
        rfl
      · have hpaid := (hkept.pays hlaw hrange hissued hlives h hdue).reserved
        have hitem := sum_drop hnext.item
        have hreserved := hkept.reserved
        rw [hepoch, hnext.next]
        dsimp only at hitem ⊢
        omega

theorem Kept.step {v v' : Vault} {allowed : State cfg → Prop} (htimes : fund.times ≠ 0)
    (hkept : Kept fund beneficiary s v) (hallowed : ∀ s, allowed s → ReceiverLives bare beneficiary s)
    (h : VaultStep seller beneficiary allowed (s, v) (s', v')) : Kept fund beneficiary s' v' := by
  cases h with
  | @putIntoVault _ _ _ origin other data needToApprove hother h =>
      obtain ⟨payer, paid, native, -, -, -, hpaid, hnative, rfl⟩ := putIntoVault_eq_ok h
      refine ⟨?_, hkept.released, ?_⟩
      · rw [IterMap.lookup_insert, if_neg hother.symm]
        exact hkept.entry
      · have hreserved := (hlaw.reserve_other _ _ _ _ hnative beneficiary hother.symm).2
        rw [hlaw.transfer_reserved _ _ _ _ _ hpaid] at hreserved
        rw [hreserved]
        exact hkept.reserved
  | approve h =>
      simp only [approve, bind_eq_ok] at h
      obtain ⟨approver, -, h⟩ := h
      split at h
      · obtain ⟨-, -, h⟩ := bind_eq_ok.mp h
        exact pure_eq_ok.mp h ▸ ⟨hkept.entry, hkept.released, hkept.reserved⟩
      · exact pure_eq_ok.mp h ▸ ⟨hkept.entry, hkept.released, hkept.reserved⟩
  | @reserve _ _ who value native h =>
      refine ⟨hkept.entry, hkept.released, ?_⟩
      have hold := hkept.reserved
      dsimp only [epochOf] at hold ⊢
      unfold onAccount
      split
      · rename_i hwho
        have hreserved := hlaw.reserve_reserved _ _ _ _ h
        rw [hwho] at hreserved
        omega
      · rename_i hwho
        rw [(hlaw.reserve_other _ _ _ _ h beneficiary (Ne.symm hwho)).2]
        omega
  | @unreserve _ _ who value hown =>
      refine ⟨hkept.entry, hkept.released, ?_⟩
      have hold := hkept.reserved
      unfold onAccount at hown ⊢
      dsimp only [epochOf] at hold ⊢
      split at hown
      · rename_i hwho
        rw [if_pos hwho]
        have hreserved := hlaw.unreserve_reserved s.native who value (by rw [hwho]; omega)
        rw [hwho] at hreserved ⊢
        omega
      · rename_i hwho
        rw [if_neg hwho, (hlaw.unreserve_other s.native who value beneficiary (Ne.symm hwho)).2]
        omega
  | transfer h =>
      refine ⟨hkept.entry, hkept.released, ?_⟩
      rw [hlaw.transfer_reserved _ _ _ _ _ h]
      exact hkept.reserved
  | outside h =>
      refine ⟨hkept.entry, hkept.released, ?_⟩
      rw [hlaw.perform_reserved _ _ _ h]
      exact hkept.reserved
  | block hrange hissued hallow h => exact hkept.block hlaw htimes hrange hissued (hallowed _ hallow) h

theorem kept_of_run {v : Vault} {allowed : State cfg → Prop} (htimes : fund.times ≠ 0)
    (hfits : lockedAmount fund < 2 ^ 128) (hallowed : ∀ s, allowed s → ReceiverLives bare beneficiary s)
    (hput : putIntoVault (.signed seller) beneficiary fund needToApprove s₀ = .ok s₁)
    (hrun : Relation.ReflTransGen (VaultStep seller beneficiary allowed)
      (s₁, ⟨(cfg.balances.reserved s₀.native beneficiary).toNat, [], []⟩) (s, v)) :
    Kept fund beneficiary s v := by
  generalize hp : (s, v) = p at hrun
  induction hrun generalizing s v with
  | refl =>
      obtain ⟨rfl, rfl⟩ := Prod.mk.inj hp
      exact kept_of_put hlaw hfits hput
  | @tail mid last hmid hlast ih =>
      subst hp
      exact (ih (s := mid.1) (v := mid.2) rfl).step hlaw htimes hallowed hlast

end Steps

/-! ### What was put in is released -/

/-- What has become of a fund by the epoch of the last block. -/
structure ReleasedAsScheduled (fund : FoundationData) (beneficiary : AccountId) (s : State cfg) (v : Vault) :
    Prop where
  /-- Each instalment that has come due was released, in its epoch and once. -/
  released : v.released = (schedule fund).take (dueBy fund (epochOf s))
  /-- When all have, everything was released, and the entry is gone. -/
  complete : dueBy fund (epochOf s) = fund.times.toNat + 1 →
    (v.released.map Prod.snd).sum = lockedAmount fund ∧ s.foundation.lookup beneficiary = none
  /-- What others have reserved is not touched, nor what is still to be released. -/
  untouched : v.others + lockedAmount fund =
    (cfg.balances.reserved s.native beneficiary).toNat + (v.released.map Prod.snd).sum

theorem Kept.releasedAsScheduled {v : Vault} (hkept : Kept fund beneficiary s v) :
    ReleasedAsScheduled fund beneficiary s v := by
  refine ⟨hkept.released, fun hall => ?_, ?_⟩
  · rw [hkept.released, hkept.entry, hall, ← length_schedule, List.take_length, sum_schedule, length_schedule,
      entryAfter, if_neg (by omega)]
    exact ⟨rfl, rfl⟩
  · have hsplit : ((schedule fund).map Prod.snd).sum = (v.released.map Prod.snd).sum +
        (((schedule fund).drop (dueBy fund (epochOf s))).map Prod.snd).sum := by
      rw [hkept.released, ← List.sum_append, ← List.map_append, List.take_append_drop]
    have hreserved := hkept.reserved
    rw [sum_schedule] at hsplit
    omega

/-- In every run from where a fund is put into the vault, it is released as scheduled, and what comes due in the next
block goes wholly to the approver that is named for the epoch, or else to the beneficiary. -/
theorem fund_released_exactly (hlaw : cfg.balances.BestEffort bare) (htimes : fund.times ≠ 0)
    (hfits : lockedAmount fund < 2 ^ 128)
    (hput : putIntoVault (.signed seller) beneficiary fund needToApprove s₀ = .ok s₁) {v : Vault}
    (hrun : Relation.ReflTransGen (VaultStep seller beneficiary (ReceiverLives bare beneficiary))
      (s₁, ⟨(cfg.balances.reserved s₀.native beneficiary).toNat, [], []⟩) (s, v)) :
    ReleasedAsScheduled fund beneficiary s v ∧
      ∀ s' now amount, s.blockNumber.toNat + 1 < 2 ^ 32 → issued cfg s.native < 2 ^ 128 →
        ReceiverLives bare beneficiary s → block s = .ok s' → comesDue beneficiary s = some (now, amount) →
          Pays beneficiary (receiver now beneficiary s) amount s s' := by
  have hkept := kept_of_run hlaw htimes hfits (fun _ h => h) hput hrun
  exact ⟨hkept.releasedAsScheduled, fun s' now amount hrange hissued hlives h hdue =>
    hkept.pays hlaw hrange hissued hlives h hdue⟩

/-! ### A fund whose total wraps -/

instance (now : U32) (s : State cfg) (account : AccountId) : Decidable (Survives now s account) :=
  inferInstanceAs (Decidable (_ ∨ _))

instance [DecidablePred bare] (account : AccountId) (s : State cfg) : Decidable (ReceiverLives bare account s) :=
  match hdue : comesDue account s with
  | none => .isTrue fun now amount hsome => absurd (hdue.symm.trans hsome) (by simp)
  | some due =>
      decidable_of_iff (receiver due.1 account s = account ∨
        Survives due.1 s (receiver due.1 account s) ∧ (bare account ∨ Survives due.1 s account)) <| by
      constructor
      · intro h now amount hsome
        obtain rfl := Option.some.inj (hdue.symm.trans hsome)
        exact h
      · exact fun h => h due.1 due.2 hdue

/-- The accounts of a release exist through the epoch, even if they are referred to. -/
abbrev BothLive (s : State plainConfig) : Prop := ReceiverLives (fun _ => False) Foundation.beneficiary s

/-- The seller has something to give, and some of the beneficiary's balance is reserved already. -/
def startState : State plainConfig :=
  ⟨0, ∅, fun _ => none, fun who =>
    if who = Foundation.seller then (100, 0) else if who = Foundation.beneficiary then (0, 7) else (0, 0)⟩

theorem issued_startState : issued plainConfig startState.native = 107 := by
  have hfree (who : AccountId) : (plainConfig.balances.free startState.native who).toNat =
      if who = Foundation.seller then 100 else 0 := by
    change BitVec.toNat (Prod.fst (ite _ _ _)) = _
    split
    · rfl
    · split <;> rfl
  have hreserved (who : AccountId) : (plainConfig.balances.reserved startState.native who).toNat =
      if who = Foundation.beneficiary then 7 else 0 := by
    change BitVec.toNat (Prod.snd (ite _ _ _)) = _
    by_cases hbeneficiary : who = Foundation.beneficiary
    · rw [if_pos hbeneficiary, if_pos hbeneficiary, if_neg (by rw [hbeneficiary]; decide)]
      rfl
    · rw [if_neg hbeneficiary, if_neg hbeneficiary]
      split <;> rfl
  have hsumFree : ∑ who, (plainConfig.balances.free startState.native who).toNat = 100 := by
    rw [Finset.sum_congr rfl fun who _ => hfree who, Finset.sum_ite_eq' Finset.univ Foundation.seller,
      if_pos (Finset.mem_univ _)]
  have hsumReserved : ∑ who, (plainConfig.balances.reserved startState.native who).toNat = 7 := by
    rw [Finset.sum_congr rfl fun who _ => hreserved who, Finset.sum_ite_eq' Finset.univ Foundation.beneficiary,
      if_pos (Finset.mem_univ _)]
  rw [issued, hsumFree, hsumReserved]

/-- The fund is put into the vault, and two blocks pass. -/
def vaultStates (fund : FoundationData) (needToApprove : Bool) :
    Result (State plainConfig × State plainConfig × State plainConfig) := do
  let locked ← putIntoVault (.signed Foundation.seller) Foundation.beneficiary fund needToApprove startState
  let first ← block locked
  let second ← block first
  return (locked, first, second)

/-- The run of two blocks, if what is tested of the states holds. -/
theorem vault_run {needToApprove : Bool} {allowed : State plainConfig → Prop}
    {locked first second : State plainConfig}
    (h : vaultStates fund needToApprove = .ok (locked, first, second)) (hblocks : locked.blockNumber = 0 ∧
      first.blockNumber = 1) (hallowed : allowed locked ∧ allowed first) {x y : U32 × U128}
    (hdue : comesDue Foundation.beneficiary locked = some x ∧ comesDue Foundation.beneficiary first = some y) :
    putIntoVault (.signed Foundation.seller) Foundation.beneficiary fund needToApprove startState = .ok locked ∧
      Relation.ReflTransGen (VaultStep Foundation.seller Foundation.beneficiary allowed) (locked, ⟨7, [], []⟩)
        (second, ⟨7, [], [(x.1.toNat, x.2.toNat), (y.1.toNat, y.2.toNat)]⟩) ∧
      issued plainConfig second.native = 107 := by
  obtain ⟨locked', hput, h⟩ := bind_eq_ok.mp h
  obtain ⟨first', hfirst, h⟩ := bind_eq_ok.mp h
  obtain ⟨second', hsecond, h⟩ := bind_eq_ok.mp h
  obtain ⟨rfl, rfl, rfl⟩ : locked' = locked ∧ first' = first ∧ second' = second := by simpa using h
  have hlocked : issued plainConfig locked'.native = 107 :=
    (put_issued Balances.plain_exact (by decide) hput).trans issued_startState
  have hmid : issued plainConfig first'.native = 107 :=
    (block_issued (Balances.plain_bestEffort fun _ => False) (by rw [hlocked]; decide) hfirst).trans hlocked
  have hstep := @VaultStep.block _ Foundation.seller Foundation.beneficiary _ _ _ ⟨7, [], []⟩
    (by rw [hblocks.1]; decide) (by rw [hlocked]; decide) hallowed.1 hfirst
  have hstep' := @VaultStep.block _ Foundation.seller Foundation.beneficiary _ _ _
    ⟨7, [], [(x.1.toNat, x.2.toNat)]⟩ (by rw [hblocks.2]; decide) (by rw [hmid]; decide) hallowed.2 hsecond
  rw [hdue.1] at hstep
  rw [hdue.2] at hstep'
  exact ⟨hput, (Relation.ReflTransGen.single hstep).tail hstep',
    (block_issued (Balances.plain_bestEffort fun _ => False) (by rw [hmid]; decide) hsecond).trans hmid⟩

theorem fund_released_exactly_twice : ∃ (s s' : State plainConfig) (v : Vault),
    v.released = [(1, 5), (2, 5)] ∧ ReleasedAsScheduled ⟨1, 1, 2, 5, 5⟩ Foundation.beneficiary s v ∧
      Pays Foundation.beneficiary Foundation.beneficiary 5 s s' := by
  obtain ⟨⟨⟨locked, first, second⟩, third⟩, hrun, hcheck⟩ := exists_of_succeedsWith
    (x := do
      let states ← vaultStates ⟨1, 1, 2, 5, 5⟩ false
      let third ← block states.2.2
      return (states, third))
    (p := fun x => (x.1.1.blockNumber = 0 ∧ x.1.2.1.blockNumber = 1) ∧
      (BothLive x.1.1 ∧ BothLive x.1.2.1) ∧
      (comesDue Foundation.beneficiary x.1.1 = some (1, 5) ∧ comesDue Foundation.beneficiary x.1.2.1 = some (2, 5)) ∧
      x.1.2.2.blockNumber = 2 ∧ BothLive x.1.2.2 ∧
      comesDue Foundation.beneficiary x.1.2.2 = some (3, 5) ∧
      receiver 3 Foundation.beneficiary x.1.2.2 = Foundation.beneficiary) (by decide +kernel)
  obtain ⟨hblocks, hlives, hdue, hblock, hlive, hthird, hreceiver⟩ := of_decide_eq_true hcheck
  obtain ⟨states, hstates, hrun⟩ := bind_eq_ok.mp hrun
  obtain ⟨third', hlast, hrun⟩ := bind_eq_ok.mp hrun
  obtain ⟨rfl, rfl⟩ : states = (locked, first, second) ∧ third' = third := by simpa using hrun
  obtain ⟨hput, hsteps, hissued⟩ := vault_run hstates hblocks hlives hdue
  have hlaw := Balances.plain_bestEffort fun _ => False
  obtain ⟨hreleased, hpays⟩ := fund_released_exactly hlaw (by decide) (by decide) hput hsteps
  have hthird' := hpays third' 3 5 (by rw [hblock]; decide) (by rw [hissued]; decide) hlive hlast hthird
  rw [hreceiver] at hthird'
  exact ⟨second, third', _, rfl, hreleased, hthird'⟩

/-- Half of what a word holds: `2 ^ 127`. -/
def halfWord : U128 := 170141183460469231731687303715884105728

/-- The total of a fund wraps, so little of it is reserved, and its first instalment takes what is reserved for
something else. -/
theorem wrapped_fund_takes_others : ∃ (s₁ s : State plainConfig) (v : Vault),
    putIntoVault (.signed Foundation.seller) Foundation.beneficiary ⟨1, 1, 2, halfWord, 5⟩ false startState = .ok s₁ ∧
      Relation.ReflTransGen (VaultStep Foundation.seller Foundation.beneficiary fun _ => True) (s₁, ⟨7, [], []⟩)
        (s, v) ∧
      v.others = 7 ∧ plainConfig.balances.reserved s.native Foundation.beneficiary = 0 ∧
      ¬ ReleasedAsScheduled ⟨1, 1, 2, halfWord, 5⟩ Foundation.beneficiary s v := by
  obtain ⟨⟨locked, first, second⟩, hstates, hcheck⟩ := exists_of_succeedsWith
    (x := vaultStates ⟨1, 1, 2, halfWord, 5⟩ false)
    (p := fun x => (x.1.blockNumber = 0 ∧ x.2.1.blockNumber = 1) ∧
      (comesDue Foundation.beneficiary x.1 = some (1, 5) ∧
        comesDue Foundation.beneficiary x.2.1 = some (2, halfWord)) ∧
      plainConfig.balances.reserved x.2.2.native Foundation.beneficiary = 0) (by decide +kernel)
  obtain ⟨hblocks, hdue, hnothing⟩ := of_decide_eq_true hcheck
  obtain ⟨hput, hsteps, -⟩ := @vault_run _ _ (fun _ => True) _ _ _ hstates hblocks ⟨trivial, trivial⟩ _ _ hdue
  refine ⟨locked, second, _, hput, hsteps, rfl, hnothing, fun hreleased => ?_⟩
  have huntouched := hreleased.untouched
  rw [hnothing] at huntouched
  exact absurd huntouched (by decide)

end Fusotao.Foundation
