import Fusotao.Base.StorageMap
import Mathlib.Tactic.Basic

/-!
# Lazily settled epochs

Amounts are contributed to the current epoch, and each key has one epoch whose amounts are pending. What is pending
is settled when the key is next visited in a later epoch, as a fraction of the total of its epoch. An epoch is the
number it begins with, so that a later epoch is a greater number.
-/

open scoped BigOperators

namespace Epoch

variable {κ : Type}

/-- An amount of a key in an epoch. -/
structure Entry (κ : Type) where
  key : κ
  epoch : Nat
  amount : Nat
  deriving DecidableEq

/-- What was pending, the total it was a part of, and the epoch in which it was settled. -/
structure Settlement (κ : Type) extends Entry κ where
  outOf : Nat
  during : Nat
  deriving DecidableEq

@[ext]
structure Ledger (κ : Type) where
  pending : κ → Nat
  last : κ → Nat
  total : Nat → Nat
  contributions : List (Entry κ)
  settlements : List (Settlement κ)

/-! ### Sums of entries -/

def epochSum (l : List (Entry κ)) (e : Nat) : Nat :=
  ((l.filter fun x => x.epoch = e).map Entry.amount).sum

@[simp] theorem epochSum_nil (e : Nat) : epochSum ([] : List (Entry κ)) e = 0 := rfl

theorem epochSum_cons (x : Entry κ) (l : List (Entry κ)) (e : Nat) :
    epochSum (x :: l) e = (if x.epoch = e then x.amount else 0) + epochSum l e := by
  unfold epochSum
  by_cases h : x.epoch = e
  · rw [List.filter_cons_of_pos (by simpa using h), if_pos h, List.map_cons, List.sum_cons]
  · rw [List.filter_cons_of_neg (by simpa using h), if_neg h, Nat.zero_add]

section Sums

variable [DecidableEq κ]

def sumOf (l : List (Entry κ)) (k : κ) (e : Nat) : Nat :=
  ((l.filter fun x => x.key = k ∧ x.epoch = e).map Entry.amount).sum

@[simp] theorem sumOf_nil (k : κ) (e : Nat) : sumOf ([] : List (Entry κ)) k e = 0 := rfl

theorem sumOf_cons (x : Entry κ) (l : List (Entry κ)) (k : κ) (e : Nat) :
    sumOf (x :: l) k e = (if x.key = k ∧ x.epoch = e then x.amount else 0) + sumOf l k e := by
  unfold sumOf
  by_cases h : x.key = k ∧ x.epoch = e
  · rw [List.filter_cons_of_pos (by simpa using h), if_pos h, List.map_cons, List.sum_cons]
  · rw [List.filter_cons_of_neg (by simpa using h), if_neg h, Nat.zero_add]

theorem sumOf_eq_zero {l : List (Entry κ)} {k : κ} {e : Nat} (h : ∀ x ∈ l, x.key = k → x.epoch ≠ e) :
    sumOf l k e = 0 := by
  induction l with
  | nil => rfl
  | cons x l ih =>
      rw [List.forall_mem_cons] at h
      rw [sumOf_cons, if_neg fun hboth => h.1 hboth.1 hboth.2, ih h.2]

/-- The only entry of a key in an epoch is all of it. -/
theorem sumOf_of_mem {l : List (Entry κ)} {x : Entry κ} (hnodup : (l.map fun x => (x.key, x.epoch)).Nodup)
    (hx : x ∈ l) : sumOf l x.key x.epoch = x.amount := by
  induction l with
  | nil => exact absurd hx List.not_mem_nil
  | cons y l ih =>
      rw [List.map_cons, List.nodup_cons] at hnodup
      rw [sumOf_cons]
      rcases List.mem_cons.mp hx with rfl | hmem
      · have hrest : sumOf l x.key x.epoch = 0 := by
          refine sumOf_eq_zero fun y hy hkey hepoch => hnodup.1 ?_
          rw [← hkey, ← hepoch]
          exact List.mem_map_of_mem hy
        rw [if_pos ⟨rfl, rfl⟩, hrest, Nat.add_zero]
      · have hne : ¬ (y.key = x.key ∧ y.epoch = x.epoch) := by
          rintro ⟨hkey, hepoch⟩
          apply hnodup.1
          rw [hkey, hepoch]
          exact List.mem_map_of_mem hmem
        rw [if_neg hne, Nat.zero_add, ih hnodup.2 hmem]

/-- The amounts of all keys make up the epoch. -/
theorem sum_sumOf [Fintype κ] (l : List (Entry κ)) (e : Nat) : ∑ k, sumOf l k e = epochSum l e := by
  induction l with
  | nil => simp
  | cons x l ih =>
      have hone : ∑ k, (if x.key = k ∧ x.epoch = e then x.amount else 0) = if x.epoch = e then x.amount else 0 := by
        split
        · simp [*]
        · simp [*]
      simp only [sumOf_cons, Finset.sum_add_distrib, hone, ih, epochSum_cons]

end Sums

namespace Ledger

/-! ### Operations -/

/-- What of a key is pending in an epoch. -/
def pendingIn (L : Ledger κ) (k : κ) (e : Nat) : Nat := if L.last k = e then L.pending k else 0

def settled (L : Ledger κ) : List (Entry κ) := L.settlements.map Settlement.toEntry

variable [DecidableEq κ]

/-- Visit a key in epoch `e`: what is pending in another epoch is settled. -/
def rotate (L : Ledger κ) (k : κ) (e amount : Nat) : Ledger κ :=
  if e = L.last k then { L with pending := Function.update L.pending k (L.pending k + amount) }
  else
    { L with
      pending := Function.update L.pending k amount
      last := Function.update L.last k e
      settlements := if L.pending k = 0 then L.settlements
        else ⟨⟨k, L.last k, L.pending k⟩, L.total (L.last k), e⟩ :: L.settlements }

def contribute (L : Ledger κ) (k : κ) (e amount : Nat) : Ledger κ :=
  rotate { L with
    total := Function.update L.total e (L.total e + amount)
    contributions := ⟨k, e, amount⟩ :: L.contributions } k e amount

/-- A key without anything pending may be forgotten. -/
def forget (L : Ledger κ) (k : κ) : Ledger κ := { L with last := Function.update L.last k 0 }

/-! ### What always holds -/

/-- Every contribution is settled, pending or due, and each key is settled once for an epoch, after it ended and as a
part of its total. -/
structure Owing (due : κ → Nat → Nat) (now : Nat) (L : Ledger κ) : Prop where
  accounted : ∀ k e, sumOf L.settled k e + L.pendingIn k e + due k e = sumOf L.contributions k e
  totals : ∀ e, epochSum L.contributions e = L.total e
  current : ∀ k, L.pending k ≠ 0 → L.last k ≤ now
  past : ∀ x ∈ L.settlements, x.epoch < x.during ∧ x.during ≤ now
  nonzero : ∀ x ∈ L.settlements, x.amount ≠ 0
  outOf : ∀ x ∈ L.settlements, x.outOf = L.total x.epoch
  once : (L.settlements.map fun x => (x.key, x.epoch)).Nodup
  unsettled : ∀ k, L.pending k ≠ 0 → ∀ x ∈ L.settlements, x.key = k → x.epoch ≠ L.last k

abbrev Sound (now : Nat) (L : Ledger κ) : Prop := Owing (fun _ _ => 0) now L

variable {L : Ledger κ} {now : Nat} {k : κ} {e amount : Nat} {due : κ → Nat → Nat}

theorem Owing.mono (h : Owing due now L) {later : Nat} (hle : now ≤ later) : Owing due later L :=
  { h with
    current := fun k hk => (h.current k hk).trans hle
    past := fun x hx => ⟨(h.past x hx).1, (h.past x hx).2.trans hle⟩ }

/-- The amount of a visit is pending afterwards, and what was pending is so still or is settled. -/
theorem rotate_accounts (L : Ledger κ) (k : κ) (e amount : Nat) (k' : κ) (e' : Nat) :
    sumOf (L.rotate k e amount).settled k' e' + (L.rotate k e amount).pendingIn k' e' =
      sumOf L.settled k' e' + L.pendingIn k' e' + if k = k' ∧ e = e' then amount else 0 := by
  unfold rotate
  split
  · rename_i hlast
    by_cases hkey : k' = k
    · subst hkey
      simp only [settled, pendingIn, Function.update_self, true_and, hlast]
      split <;> omega
    · simp only [settled, pendingIn, Function.update_of_ne hkey, Ne.symm hkey, false_and, if_false]
      omega
  · rename_i hlast
    by_cases hkey : k' = k
    · subst hkey
      simp only [settled, pendingIn, Function.update_self, true_and]
      split
      · rename_i hzero
        rw [hzero, ite_self]
        omega
      · rw [List.map_cons, sumOf_cons]
        simp only [true_and]
        split <;> split <;> omega
    · have hother : ∀ l : List (Entry κ), sumOf (⟨k, L.last k, L.pending k⟩ :: l) k' e' = sumOf l k' e' := by
        intro l
        rw [sumOf_cons, if_neg fun h => hkey h.1.symm, Nat.zero_add]
      simp only [settled, pendingIn, Function.update_of_ne hkey, Ne.symm hkey, false_and, if_false]
      split
      · omega
      · rw [List.map_cons, hother]
        omega

/-- A visit in the current epoch, or a later one, with what is due. -/
theorem Owing.rotate (h : Owing (fun k' e' => if k = k' ∧ e = e' then amount else 0) now L) (hle : now ≤ e) :
    (L.rotate k e amount).Sound e := by
  have haccounted : ∀ k' e', sumOf (L.rotate k e amount).settled k' e' + (L.rotate k e amount).pendingIn k' e' + 0 =
      sumOf L.contributions k' e' := fun k' e' => (rotate_accounts L k e amount k' e').trans (h.accounted k' e')
  have hpast : ∀ x ∈ L.settlements, x.epoch < e := fun x hx => by
    have hx := h.past x hx
    omega
  unfold Ledger.rotate at haccounted ⊢
  split
  · rename_i hlast
    rw [if_pos hlast] at haccounted
    refine ⟨haccounted, h.totals, fun k' hk' => ?_, (h.mono hle).past, h.nonzero, h.outOf, h.once,
      fun k' hk' x hx hkey => ?_⟩
    · dsimp only at hk' ⊢
      by_cases hkey : k' = k
      · rw [hkey]
        exact hlast.ge
      · rw [Function.update_of_ne hkey] at hk'
        exact (h.current k' hk').trans hle
    · dsimp only at hk' ⊢
      by_cases hk : k' = k
      · rw [hk, ← hlast]
        exact Nat.ne_of_lt (hpast x hx)
      · rw [Function.update_of_ne hk] at hk'
        exact h.unsettled k' hk' x hx hkey
  · rename_i hlast
    rw [if_neg hlast] at haccounted
    have hsettled : ∀ x ∈ (if L.pending k = 0 then L.settlements
        else ⟨⟨k, L.last k, L.pending k⟩, L.total (L.last k), e⟩ :: L.settlements),
        x ∈ L.settlements ∨ L.pending k ≠ 0 ∧ x = ⟨⟨k, L.last k, L.pending k⟩, L.total (L.last k), e⟩ := by
      intro x hx
      split at hx
      · exact .inl hx
      · rename_i hpending
        exact (List.mem_cons.mp hx).symm.imp_right fun heq => ⟨hpending, heq⟩
    have hended : L.pending k ≠ 0 → L.last k < e := fun hpending =>
      Nat.lt_of_le_of_ne ((h.current k hpending).trans hle) (Ne.symm hlast)
    refine ⟨haccounted, h.totals, fun k' hk' => ?_, fun x hx => ?_, fun x hx => ?_, fun x hx => ?_, ?_,
      fun k' hk' x hx hkey => ?_⟩
    · by_cases hkey : k' = k
      · rw [hkey]
        exact (Function.update_self ..).le
      · dsimp only at hk' ⊢
        rw [Function.update_of_ne hkey] at hk' ⊢
        exact (h.current k' hk').trans hle
    · rcases hsettled x hx with hx | ⟨hpending, rfl⟩
      · exact ((h.mono hle).past x hx)
      · exact ⟨hended hpending, Nat.le_refl e⟩
    · rcases hsettled x hx with hx | ⟨hpending, rfl⟩
      · exact h.nonzero x hx
      · exact hpending
    · rcases hsettled x hx with hx | ⟨hpending, rfl⟩
      · exact h.outOf x hx
      · rfl
    · split
      · exact h.once
      · rename_i hpending
        rw [List.map_cons, List.nodup_cons]
        refine ⟨fun hmem => ?_, h.once⟩
        obtain ⟨x, hx, heq⟩ := List.mem_map.mp hmem
        obtain ⟨hkey, hepoch⟩ := Prod.mk.inj heq
        exact h.unsettled k hpending x hx hkey hepoch
    · dsimp only at hk' ⊢
      by_cases hk : k' = k
      · rw [hk, Function.update_self]
        rcases hsettled x hx with hx | ⟨hpending, rfl⟩
        · exact Nat.ne_of_lt (hpast x hx)
        · exact Nat.ne_of_lt (hended hpending)
      · rw [Function.update_of_ne hk] at hk' ⊢
        rcases hsettled x hx with hx | ⟨-, rfl⟩
        · exact h.unsettled k' hk' x hx hkey
        · exact absurd hkey.symm hk

/-- A visit that contributes nothing. -/
theorem Owing.visit (h : Sound now L) (hle : now ≤ e) : (L.rotate k e 0).Sound e := by
  refine Owing.rotate ?_ hle
  simpa using h

theorem Owing.contribute (h : Sound now L) (hle : now ≤ e) : (L.contribute k e amount).Sound e := by
  refine Owing.rotate ⟨fun k' e' => ?_, fun e' => ?_, h.current, h.past, h.nonzero, fun x hx => ?_, h.once,
    h.unsettled⟩ hle
  · have haccounted := h.accounted k' e'
    rw [sumOf_cons, ← haccounted]
    exact Nat.add_comm _ _
  · have htotal := h.totals e'
    dsimp only
    rw [epochSum_cons, Function.update_apply, htotal]
    by_cases he : e' = e
    · subst he
      simp only [if_true]
      exact Nat.add_comm _ _
    · rw [if_neg (Ne.symm he), if_neg he, Nat.zero_add]
  · have hpast := h.past x hx
    have hne : x.epoch ≠ e := by omega
    dsimp only
    rw [Function.update_of_ne hne]
    exact h.outOf x hx

theorem Owing.forget (h : Sound now L) (hzero : L.pending k = 0) : (L.forget k).Sound now := by
  have hlast : ∀ k', L.pending k' ≠ 0 → (L.forget k).last k' = L.last k' := by
    intro k' hk'
    apply Function.update_of_ne
    rintro rfl
    exact hk' hzero
  refine ⟨fun k' e' => ?_, h.totals, fun k' hk' => ?_, h.past, h.nonzero, h.outOf, h.once, fun k' hk' => ?_⟩
  · have hsame : (L.forget k).pendingIn k' e' = L.pendingIn k' e' := by
      unfold pendingIn
      by_cases hk' : L.pending k' = 0
      · rw [show (L.forget k).pending k' = 0 from hk', hk', ite_self, ite_self]
      · rw [hlast k' hk']
        rfl
    rw [hsame]
    exact h.accounted k' e'
  · rw [hlast k' hk']
    exact h.current k' hk'
  · rw [hlast k' hk']
    exact h.unsettled k' hk'

/-! ### What follows -/

/-- What is settled and what is pending of an epoch make up its total. -/
theorem Owing.total_eq [Fintype κ] (h : Sound now L) (e : Nat) :
    epochSum L.settled e + ∑ k, L.pendingIn k e = L.total e := by
  rw [← h.totals e, ← sum_sumOf L.contributions, ← sum_sumOf L.settled, ← Finset.sum_add_distrib]
  exact Finset.sum_congr rfl fun k _ => h.accounted k e

/-- A key is settled with all that it contributed to the epoch. -/
theorem Owing.amount_eq (h : Sound now L) {x : Settlement κ} (hx : x ∈ L.settlements) :
    x.amount = sumOf L.contributions x.key x.epoch := by
  have hmem : x.toEntry ∈ L.settled := List.mem_map_of_mem hx
  have honce : (L.settled.map fun x => (x.key, x.epoch)).Nodup := by
    rw [settled, List.map_map]
    exact h.once
  have hpending : L.pendingIn x.key x.epoch = 0 := by
    unfold pendingIn
    split
    · rename_i hlast
      by_contra hne
      exact h.unsettled x.key hne x hx rfl hlast.symm
    · rfl
  rw [← h.accounted, hpending, sumOf_of_mem honce hmem]
  rfl

/-- What is pending of a key is part of the total of its epoch. -/
theorem Owing.pending_le [Fintype κ] (h : Sound now L) (k : κ) : L.pending k ≤ L.total (L.last k) := by
  have hle := le_sum_univ (fun k' => L.pendingIn k' (L.last k)) k
  have htotal := h.total_eq (L.last k)
  rw [pendingIn, if_pos rfl] at hle
  omega

/-- What is settled is part of the total of its epoch. -/
theorem Owing.amount_le [Fintype κ] (h : Sound now L) {x : Settlement κ} (hx : x ∈ L.settlements) :
    x.amount ≤ x.outOf := by
  rw [h.outOf x hx, ← h.totals, ← sum_sumOf, h.amount_eq hx]
  exact le_sum_univ (fun k => sumOf L.contributions k x.epoch) x.key

end Ledger

end Epoch
