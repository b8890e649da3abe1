import Fusotao.AbyssTournament.Runtime

/-!
# What a bet is worth

A bet is worth its amount times its odds in hundredths. Bets on one item at the same odds are kept as one, and the
division is made once for all of them: together they are worth what they are worth apart unless the remainders add
up to a whole.
-/

namespace Fusotao.AbyssTournament

open Exec Word

variable {itemIndex hit : SelectIndex} {o : OddsNumber} {amount : U128} {records : List BettingRecord}

/-- What a bet of an amount is worth. -/
def worth (amount : Nat) (o : OddsNumber) : Nat := amount * o.toNat / 100

/-- What the bets on an item are worth. -/
def dueOn (hit : SelectIndex) (records : List BettingRecord) : Nat :=
  (records.map fun r => if r.selectIndex = hit then worth r.amount.toNat r.o else 0).sum

/-- The products are in the range of a word. -/
def InRange (records : List BettingRecord) : Prop := ∀ r ∈ records, r.amount.toNat * r.o.toNat < 2 ^ 128

/-- An amount that is bet joins the earlier ones without loss. -/
structure JoinsExactly (itemIndex : SelectIndex) (o : OddsNumber) (amount : U128)
    (records : List BettingRecord) : Prop where
  fits : amount.toNat * o.toNat < 2 ^ 128
  joins : ∀ r ∈ records, r.selectIndex = itemIndex → r.o = o → r.amount.toNat + amount.toNat < 2 ^ 128 ∧
    (r.amount.toNat + amount.toNat) * o.toNat < 2 ^ 128 ∧
    r.amount.toNat * o.toNat % 100 + amount.toNat * o.toNat % 100 < 100

theorem worth_add {x y : Nat} (h : x * o.toNat % 100 + y * o.toNat % 100 < 100) :
    worth (x + y) o = worth x o + worth y o := by
  rw [worth, Nat.add_mul, Nat.add_div (by decide), if_neg (by omega), Nat.add_zero]
  rfl

theorem toNat_worth {x : U128} (h : x.toNat * o.toNat < 2 ^ 128) :
    (x * o.setWidth 128 / 100).toNat = worth x.toNat o := by
  have ho := o.isLt
  have hwidth : (o.setWidth 128).toNat = o.toNat := by
    rw [BitVec.toNat_setWidth, Nat.mod_eq_of_lt (by omega)]
  rw [BitVec.toNat_udiv, BitVec.toNat_mul, hwidth, Nat.mod_eq_of_lt h]
  rfl

theorem toNat_compensateAmount {item : OddsItem} (hfits : amount.toNat * item.o.toNat < 2 ^ 128)
    (htotal : item.totalCompensateAmount.toNat + worth amount.toNat item.o < 2 ^ 128) :
    (compensateAmount item amount).toNat = item.totalCompensateAmount.toNat + worth amount.toNat item.o := by
  have hworth := toNat_worth hfits
  rw [BitVec.mul_comm] at hworth
  rw [compensateAmount, toNat_add_of_lt (by rwa [hworth]), hworth]

/-- With an amount that joins exactly, the bets are worth more by what the amount is worth. -/
theorem dueOn_addRecord (h : JoinsExactly itemIndex o amount records) (hit : SelectIndex) :
    dueOn hit (addRecord itemIndex o amount records) =
      dueOn hit records + if itemIndex = hit then worth amount.toNat o else 0 := by
  induction records with
  | nil => simp [addRecord, dueOn]
  | cons r records ih =>
      rw [addRecord]
      by_cases hr : r.selectIndex = itemIndex ∧ r.o = o
      · obtain ⟨hindex, ho⟩ := hr
        obtain ⟨hsum, -, hrest⟩ := h.joins r List.mem_cons_self hindex ho
        rw [if_pos ⟨hindex, ho⟩]
        simp only [dueOn, List.map_cons, List.sum_cons, toNat_add_of_lt hsum, hindex, ho, worth_add hrest]
        split <;> omega
      · rw [if_neg hr]
        have htail := ih ⟨h.fits, fun r' hr' => h.joins r' (List.mem_cons_of_mem _ hr')⟩
        simp only [dueOn, List.map_cons, List.sum_cons] at htail ⊢
        omega

theorem inRange_addRecord (h : JoinsExactly itemIndex o amount records) (hrange : InRange records) :
    InRange (addRecord itemIndex o amount records) := by
  induction records with
  | nil =>
      intro r hr
      obtain rfl := List.mem_singleton.mp hr
      exact h.fits
  | cons r records ih =>
      have htail := ih ⟨h.fits, fun r' hr' => h.joins r' (List.mem_cons_of_mem _ hr')⟩
        fun r' hr' => hrange r' (List.mem_cons_of_mem _ hr')
      intro r' hr'
      rw [addRecord] at hr'
      split at hr'
      · rename_i hsame
        rcases List.mem_cons.mp hr' with rfl | hr'
        · obtain ⟨hsum, hproduct, -⟩ := h.joins r List.mem_cons_self hsame.1 hsame.2
          simp only [toNat_add_of_lt hsum, hsame.2]
          exact hproduct
        · exact hrange r' (List.mem_cons_of_mem _ hr')
      · rcases List.mem_cons.mp hr' with rfl | hr'
        · exact hrange _ List.mem_cons_self
        · exact htail r' hr'

theorem selectIndex_of_mem_addRecord {r : BettingRecord} (h : r ∈ addRecord itemIndex o amount records) :
    r.selectIndex = itemIndex ∨ ∃ r' ∈ records, r'.selectIndex = r.selectIndex := by
  induction records with
  | nil => exact .inl (List.mem_singleton.mp h ▸ rfl)
  | cons r' records ih =>
      rw [addRecord] at h
      split at h
      · rename_i hsame
        rcases List.mem_cons.mp h with rfl | h
        · exact .inl hsame.1
        · exact .inr ⟨r, List.mem_cons_of_mem _ h, rfl⟩
      · rcases List.mem_cons.mp h with rfl | h
        · exact .inr ⟨r, List.mem_cons_self, rfl⟩
        · exact (ih h).imp_right fun ⟨r', hr', heq⟩ => ⟨r', List.mem_cons_of_mem _ hr', heq⟩

/-- What is paid is what the bets are worth. -/
theorem toNat_claimAmount (hrange : InRange records) (hdue : dueOn hit records < 2 ^ 128) :
    (claimAmount hit records).toNat = dueOn hit records := by
  have hloop : ∀ (l : List BettingRecord) (total : U128), InRange l → total.toNat + dueOn hit l < 2 ^ 128 →
      (l.foldl (fun total r => if r.selectIndex = hit then total + r.amount * r.o.setWidth 128 / 100
        else total) total).toNat = total.toNat + dueOn hit l := by
    intro l
    induction l with
    | nil => exact fun total _ _ => rfl
    | cons r l ih =>
        intro total hrange hfits
        have hr := toNat_worth (hrange r List.mem_cons_self)
        have htail : InRange l := fun r' hr' => hrange r' (List.mem_cons_of_mem _ hr')
        simp only [dueOn, List.map_cons, List.sum_cons, List.foldl_cons] at hfits ih ⊢
        by_cases hhit : r.selectIndex = hit
        · rw [if_pos hhit] at hfits ⊢
          have hsum : (total + r.amount * r.o.setWidth 128 / 100).toNat = total.toNat + worth r.amount.toNat r.o := by
            rw [toNat_add_of_lt (by rw [hr]; omega), hr]
          rw [if_pos hhit, ih _ htail (by rw [hsum]; omega), hsum]
          omega
        · rw [if_neg hhit] at hfits ⊢
          rw [if_neg hhit, ih _ htail (by omega)]
          omega
  have hzero := hloop records 0 hrange (by simpa using hdue)
  simpa [claimAmount] using hzero

end Fusotao.AbyssTournament
