import Fusotao.Foundation.Vault

/-!
# Instalments that have to be approved

The seller is named for as many epochs as there are instalments after the first. So the first instalment and all
others but the last wait for the seller, and the last one does not.
-/

namespace Fusotao.Foundation

open Exec Word

variable {cfg : Config} {s s' s₀ s₁ : State cfg} {now : U32} {fund : FoundationData} {amount : U128}
  {beneficiary seller : AccountId} {v v' : Vault} {bare : AccountId → Prop}

/-- The epoch of an instalment, over the naturals. -/
def instalmentEpoch (fund : FoundationData) (k : Nat) : Nat :=
  fund.delayDurations.toNat + k * fund.intervalDurations.toNat

/-- The seller can refuse every instalment to come that is not approved, but for the last one. -/
def Refusable (fund : FoundationData) (seller beneficiary : AccountId) (s : State cfg) (v : Vault) : Prop :=
  ∀ k, k < fund.times.toNat → ∀ epoch : U32, epoch.toNat = instalmentEpoch fund k → epochOf s < epoch.toNat →
    s.approvals (beneficiary, epoch) = if epoch ∈ v.approved then none else some seller

/-- Another instalment comes after the one of the next block. -/
def AwaitsAnother (beneficiary : AccountId) (s : State cfg) : Prop :=
  ∀ now amount entry, comesDue beneficiary s = some (now, amount) → s.foundation.lookup beneficiary = some entry →
    now > entry.delayDurations → entry.times ≠ 1

/-! ### The approvals that are needed -/

theorem needApproval_apply {approvals : StorageMap (AccountId × U32) AccountId} {k : Nat}
    (hk : k < fund.times.toNat) : needApproval seller beneficiary fund approvals
      (beneficiary, fund.delayDurations + BitVec.ofNat 32 k * fund.intervalDurations) = some seller := by
  have hloop : ∀ (n : Nat), k < n → (List.range n).foldl (fun approvals i =>
      StorageMap.insert approvals (beneficiary, fund.delayDurations + BitVec.ofNat 32 i * fund.intervalDurations) seller)
      approvals (beneficiary, fund.delayDurations + BitVec.ofNat 32 k * fund.intervalDurations) = some seller := by
    intro n
    induction n with
    | zero => exact fun hlt => absurd hlt (Nat.not_lt_zero k)
    | succ n ih =>
        intro hlt
        rw [List.range_succ, List.foldl_append, List.foldl_cons, List.foldl_nil, StorageMap.insert_apply]
        split
        · rfl
        · rename_i hne
          refine ih (Nat.lt_of_le_of_ne (Nat.le_of_lt_succ hlt) fun heq => hne ?_)
          rw [heq]
  exact hloop _ hk

theorem eq_of_instalmentEpoch {epoch : U32} {k : Nat} (h : epoch.toNat = instalmentEpoch fund k) :
    epoch = fund.delayDurations + BitVec.ofNat 32 k * fund.intervalDurations := by
  apply BitVec.eq_of_toNat_eq
  rw [BitVec.toNat_add, BitVec.toNat_mul, BitVec.toNat_ofNat, Nat.mod_mul_mod, Nat.add_mod_mod]
  exact (h.symm ▸ (Nat.mod_eq_of_lt epoch.isLt).symm)

theorem refusable_of_put (h : putIntoVault (.signed seller) beneficiary fund true s₀ = .ok s₁) (others : Nat) :
    Refusable fund seller beneficiary s₁ ⟨others, [], []⟩ := by
  obtain ⟨payer, paid, native, hpayer, -, -, -, -, rfl⟩ := putIntoVault_eq_ok h
  obtain rfl := Origin.signed.inj hpayer
  intro k hk epoch hepoch _
  rw [eq_of_instalmentEpoch hepoch]
  exact needApproval_apply hk

theorem Refusable.step {allowed : State cfg → Prop} (hlaw : cfg.balances.BestEffort bare)
    (h : Refusable fund seller beneficiary s v)
    (hstep : VaultStep seller beneficiary allowed (s, v) (s', v')) : Refusable fund seller beneficiary s' v' := by
  intro k hk epoch hepoch hlater
  cases hstep with
  | @putIntoVault _ _ _ origin other data needToApprove hother hput =>
      obtain ⟨payer, paid, native, -, -, -, -, -, rfl⟩ := putIntoVault_eq_ok hput
      have hkept : needApproval payer other data s.approvals (beneficiary, epoch) = s.approvals (beneficiary, epoch) := by
        refine List.foldlRecOn (motive := fun approvals : StorageMap (AccountId × U32) AccountId =>
          approvals (beneficiary, epoch) = s.approvals (beneficiary, epoch)) _ _ rfl fun approvals happrovals i _ => ?_
        rw [StorageMap.insert_of_ne _ _ (by simp [hother.symm])]
        exact happrovals
      dsimp only
      split
      · rw [hkept]
        exact h k hk epoch hepoch hlater
      · exact h k hk epoch hepoch hlater
  | @approve _ _ _ origin account approved hcall =>
      simp only [approve, bind_eq_ok, ensureSigned_eq_ok] at hcall
      obtain ⟨approver, rfl, hcall⟩ := hcall
      have hmem : (epoch ∈ if Origin.signed approver = .signed seller ∧ account = beneficiary
          then approved :: v.approved else v.approved) ↔
            epoch ∈ v.approved ∨ approver = seller ∧ account = beneficiary ∧ epoch = approved := by
        split
        · rename_i hsame
          rw [List.mem_cons, Origin.signed.inj hsame.1, hsame.2]
          simp [or_comm]
        · rename_i hdiffers
          rw [Origin.signed.injEq] at hdiffers
          refine (or_iff_left fun hsame => hdiffers ⟨hsame.1, hsame.2.1⟩).symm
      simp only [hmem]
      cases hfound : s.approvals (account, approved) with
      | none =>
          -- A call on an epoch that nobody is named for changes nothing.
          rw [hfound] at hcall
          obtain rfl := pure_eq_ok.mp hcall
          have hold := h k hk epoch hepoch hlater
          rw [hold]
          by_cases hin : epoch ∈ v.approved
          · rw [if_pos hin, if_pos (.inl hin)]
          · rw [if_neg hin, if_neg]
            rintro (hin' | ⟨-, rfl, rfl⟩)
            · exact hin hin'
            · rw [hfound, if_neg hin] at hold
              exact absurd hold (by simp)
      | some named =>
          rw [hfound] at hcall
          simp only [bind_eq_ok, ensure_eq_ok, pure_eq_ok] at hcall
          obtain ⟨-, rfl, rfl⟩ := hcall
          have hold := h k hk epoch hepoch hlater
          dsimp only
          rw [StorageMap.remove_apply]
          by_cases hself : (beneficiary, epoch) = (account, approved)
          · obtain ⟨rfl, rfl⟩ := Prod.mk.inj hself
            rw [hfound] at hold
            split at hold
            · exact absurd hold (by simp)
            · rw [if_pos rfl, if_pos (.inr ⟨Option.some.inj hold, rfl, rfl⟩)]
          · rw [if_neg hself, hold]
            refine if_congr ?_ rfl rfl
            refine (or_iff_left ?_).symm
            rintro ⟨-, rfl, rfl⟩
            exact hself rfl
  | reserve h' => exact h k hk epoch hepoch hlater
  | unreserve h' => exact h k hk epoch hepoch hlater
  | transfer h' => exact h k hk epoch hepoch hlater
  | outside h' => exact h k hk epoch hepoch hlater
  | block hrange hissued hallow hblock =>
      have heffect := @block_effect _ _ _ beneficiary _ hlaw hissued hblock
      have hsum : (s.blockNumber + 1).toNat = s.blockNumber.toNat + 1 := toNat_add_of_lt hrange
      have hpast : epochOf s ≤ epochOf s' := by
        rw [epochOf, epochOf, heffect.blockNumber, hsum]
        exact Nat.div_le_div_right (Nat.le_succ _)
      rw [heffect.approvals epoch fun hnow => ?_]
      · exact h k hk epoch hepoch (Nat.lt_of_le_of_lt hpast hlater)
      · obtain ⟨hnext, hquot⟩ := toNat_nextEpoch hrange hnow
        rw [epochOf, heffect.blockNumber, hsum, hquot, hnext] at hlater
        exact Nat.lt_irrefl _ hlater

theorem refusable_of_run {allowed : State cfg → Prop} (hlaw : cfg.balances.BestEffort bare)
    (hput : putIntoVault (.signed seller) beneficiary fund true s₀ = .ok s₁) {others : Nat}
    (hrun : Relation.ReflTransGen (VaultStep seller beneficiary allowed) (s₁, ⟨others, [], []⟩) (s, v)) :
    Refusable fund seller beneficiary s v := by
  generalize hp : (s, v) = p at hrun
  induction hrun generalizing s v with
  | refl =>
      obtain ⟨rfl, rfl⟩ := Prod.mk.inj hp
      exact refusable_of_put hput others
  | @tail mid last hmid hlast ih =>
      subst hp
      exact (ih (s := mid.1) (v := mid.2) rfl).step hlaw hlast

/-- In every run from where a fund that has to be approved is put into the vault, an instalment that another one comes
after is paid to the beneficiary if the seller has approved its epoch, and to the seller if it has not. -/
theorem released_only_if_approved (hlaw : cfg.balances.BestEffort bare) (htimes : fund.times ≠ 0)
    (hfits : lockedAmount fund < 2 ^ 128)
    (hput : putIntoVault (.signed seller) beneficiary fund true s₀ = .ok s₁)
    (hrun : Relation.ReflTransGen (VaultStep seller beneficiary (ReceiverLives bare beneficiary))
      (s₁, ⟨(cfg.balances.reserved s₀.native beneficiary).toNat, [], []⟩) (s, v))
    (hrange : s.blockNumber.toNat + 1 < 2 ^ 32) (hissued : issued cfg s.native < 2 ^ 128)
    (hlives : ReceiverLives bare beneficiary s) (hanother : AwaitsAnother beneficiary s) (h : block s = .ok s')
    (hdue : comesDue beneficiary s = some (now, amount)) :
    Pays beneficiary (if now ∈ v.approved then beneficiary else seller) amount s s' := by
  have hkept := kept_of_run hlaw htimes hfits (fun _ h => h) hput hrun
  have hnext := hkept.dueNext hrange hdue
  obtain ⟨hnow, entry, hlookup, -⟩ := comesDue_eq_some.mp hdue
  have hitem := hnext.item
  rw [schedule_getElem? hnext.index] at hitem
  have hepoch : now.toNat = instalmentEpoch fund (dueBy fund (epochOf s)) :=
    ((Prod.mk.inj (Option.some.inj hitem)).1).symm
  have hindex : dueBy fund (epochOf s) < fund.times.toNat := by
    refine Nat.lt_of_le_of_ne hnext.index fun hlast => ?_
    have hentry := hlookup
    rw [hkept.entry] at hentry
    obtain ⟨-, rfl⟩ := entryAfter_eq_some hentry
    have hpos : 0 < fund.times.toNat := Nat.pos_of_ne_zero fun hzero => htimes (BitVec.eq_of_toNat_eq hzero)
    have hafter : ¬ epochOf s < fund.delayDurations.toNat := by
      intro hbefore
      rw [dueBy, if_pos hbefore] at hlast
      omega
    refine hanother now amount _ hdue hlookup ?_ ?_
    · rw [gt_iff_lt, BitVec.lt_def, hnext.epoch]
      dsimp only
      omega
    · -- The count is down to one when the last instalment comes due.
      apply BitVec.eq_of_toNat_eq
      have hlt := fund.times.isLt
      have hpred : (BitVec.ofNat 32 (dueBy fund (epochOf s) - 1)).toNat = dueBy fund (epochOf s) - 1 := by
        rw [BitVec.toNat_ofNat, Nat.mod_eq_of_lt (by omega)]
      rw [toNat_sub_of_le (by rw [hpred]; omega), hpred]
      change fund.times.toNat - (dueBy fund (epochOf s) - 1) = 1
      omega
  have happroval := refusable_of_run hlaw hput hrun _ hindex now hepoch (by rw [hnext.epoch]; exact Nat.lt_succ_self _)
  have hpays := hkept.pays hlaw hrange hissued hlives h hdue
  have hreceiver : receiver now beneficiary s = if now ∈ v.approved then beneficiary else seller := by
    rw [receiver, happroval]
    split <;> rfl
  rwa [hreceiver] at hpays

/-! ### The last instalment -/

theorem released_only_if_approved_refused : ∃ s s' : State plainConfig,
    Pays Foundation.beneficiary Foundation.seller 5 s s' := by
  obtain ⟨⟨locked, first, second⟩, hstates, hcheck⟩ := exists_of_succeedsWith
    (x := vaultStates ⟨1, 1, 2, 5, 5⟩ true)
    (p := fun x => (x.1.blockNumber = 0 ∧ x.2.1.blockNumber = 1) ∧
      (BothLive x.1 ∧ BothLive x.2.1) ∧
      (comesDue Foundation.beneficiary x.1 = some (1, 5) ∧ comesDue Foundation.beneficiary x.2.1 = some (2, 5)) ∧
      x.1.foundation.lookup Foundation.beneficiary = some ⟨1, 1, 2, 5, 5⟩) (by decide +kernel)
  obtain ⟨hblocks, hlives, hdue, hlookup⟩ := of_decide_eq_true hcheck
  obtain ⟨hput, -, -⟩ := vault_run hstates hblocks hlives hdue
  obtain ⟨locked', hlocked, h⟩ := bind_eq_ok.mp hstates
  obtain ⟨first', hfirst, h⟩ := bind_eq_ok.mp h
  obtain ⟨second', hsecond, h⟩ := bind_eq_ok.mp h
  obtain ⟨rfl, rfl, rfl⟩ : locked' = locked ∧ first' = first ∧ second' = second := by simpa using h
  have hissued : issued plainConfig locked'.native = 107 :=
    (put_issued Balances.plain_exact (by decide) hput).trans issued_startState
  have hanother : AwaitsAnother Foundation.beneficiary locked' := by
    intro now amount entry _ hentry _
    obtain rfl := Option.some.inj (hlookup.symm.trans hentry)
    decide
  have hpays := released_only_if_approved (Balances.plain_bestEffort fun _ => False) (by decide) (by decide) hput .refl
    (by rw [hblocks.1]; decide) (by rw [hissued]; decide) hlives.1 hanother hfirst hdue.1
  exact ⟨locked', first', hpays⟩

/-- Nobody has approved anything, and the last instalment goes to the beneficiary. -/
theorem last_instalment_not_approved : ∃ (s₁ s s' : State plainConfig) (v : Vault),
    putIntoVault (.signed Foundation.seller) Foundation.beneficiary ⟨1, 1, 2, 5, 5⟩ true startState = .ok s₁ ∧
      Relation.ReflTransGen (VaultStep Foundation.seller Foundation.beneficiary BothLive)
        (s₁, ⟨7, [], []⟩) (s, v) ∧
      v.approved = [] ∧ block s = .ok s' ∧ comesDue Foundation.beneficiary s = some (3, 5) ∧
      plainConfig.balances.free s'.native Foundation.beneficiary =
        plainConfig.balances.free s.native Foundation.beneficiary + 5 ∧
      ¬ Pays Foundation.beneficiary Foundation.seller 5 s s' := by
  obtain ⟨⟨⟨locked, first, second⟩, third⟩, hrun, hcheck⟩ := exists_of_succeedsWith
    (x := do
      let states ← vaultStates ⟨1, 1, 2, 5, 5⟩ true
      let third ← block states.2.2
      return (states, third))
    (p := fun x => (x.1.1.blockNumber = 0 ∧ x.1.2.1.blockNumber = 1) ∧
      (BothLive x.1.1 ∧ BothLive x.1.2.1) ∧
      (comesDue Foundation.beneficiary x.1.1 = some (1, 5) ∧ comesDue Foundation.beneficiary x.1.2.1 = some (2, 5)) ∧
      comesDue Foundation.beneficiary x.1.2.2 = some (3, 5) ∧
      plainConfig.balances.free x.2.native Foundation.beneficiary =
        plainConfig.balances.free x.1.2.2.native Foundation.beneficiary + 5 ∧
      plainConfig.balances.free x.2.native Foundation.seller =
        plainConfig.balances.free x.1.2.2.native Foundation.seller) (by decide +kernel)
  obtain ⟨hblocks, hlives, hdue, hthird, hpaid, hsame⟩ := of_decide_eq_true hcheck
  obtain ⟨states, hstates, hrun⟩ := bind_eq_ok.mp hrun
  obtain ⟨third', hlast, hrun⟩ := bind_eq_ok.mp hrun
  obtain ⟨rfl, rfl⟩ : states = (locked, first, second) ∧ third' = third := by simpa using hrun
  obtain ⟨hput, hsteps, -⟩ := vault_run hstates hblocks hlives hdue
  refine ⟨locked, second, third', _, hput, hsteps, rfl, hlast, hthird, hpaid, fun hpays => ?_⟩
  have hmore := hpays.free_le
  rw [hsame] at hmore
  exact absurd hmore (Nat.not_le.mpr (Nat.lt_add_of_pos_right (by decide)))

end Fusotao.Foundation
