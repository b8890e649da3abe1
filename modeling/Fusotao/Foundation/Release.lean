import Fusotao.Foundation.Unlock

/-!
# What the hook releases

An epoch visits every fund once. What happens to one fund happens when it is visited: its amount moves to one account,
and the visits of the other funds leave its terms, its approvals and its reserved balance alone.
-/

namespace Fusotao.Foundation

open Exec Word

open scoped BigOperators

variable {cfg : Config} {s s' mid : State cfg} {now : U32} {account payer payee : AccountId} {fund : FoundationData}
  {amount : U128} {native native' : cfg.balances.Store} {bare : AccountId → Prop}

/-! ### Moving a balance -/

/-- What all accounts have of the native token. -/
def issued (cfg : Config) (native : cfg.balances.Store) : Nat :=
  ∑ who, (cfg.balances.free native who).toNat + ∑ who, (cfg.balances.reserved native who).toNat

/-- An amount moves from what is reserved of one account to what is free of another, or of the same. -/
structure Released (cfg : Config) (payer payee : AccountId) (amount : U128) (native native' : cfg.balances.Store) :
    Prop where
  reserved : (cfg.balances.reserved native payer).toNat = (cfg.balances.reserved native' payer).toNat + amount.toNat
  free : (cfg.balances.free native' payee).toNat = (cfg.balances.free native payee).toNat + amount.toNat
  otherReserved : ∀ a, a ≠ payer → cfg.balances.reserved native' a = cfg.balances.reserved native a
  otherFree : ∀ a, a ≠ payee → cfg.balances.free native' a = cfg.balances.free native a

theorem Released.issued (h : Released cfg payer payee amount native native') :
    issued cfg native' = Foundation.issued cfg native := by
  have hfree : (fun a => (cfg.balances.free native' a).toNat) =
      Function.update (fun a => (cfg.balances.free native a).toNat) payee (cfg.balances.free native' payee).toNat := by
    funext a
    rw [Function.update_apply]
    split
    · rename_i ha
      rw [ha]
    · rename_i ha
      rw [h.otherFree a ha]
  have hreserved : (fun a => (cfg.balances.reserved native' a).toNat) =
      Function.update (fun a => (cfg.balances.reserved native a).toNat) payer
        (cfg.balances.reserved native' payer).toNat := by
    funext a
    rw [Function.update_apply]
    split
    · rename_i ha
      rw [ha]
    · rename_i ha
      rw [h.otherReserved a ha]
  have hsumFree := sum_update_add (fun a => (cfg.balances.free native a).toNat) payee
    (cfg.balances.free native' payee).toNat
  have hsumReserved := sum_update_add (fun a => (cfg.balances.reserved native a).toNat) payer
    (cfg.balances.reserved native' payer).toNat
  rw [← hfree, h.free] at hsumFree
  rw [← hreserved, h.reserved] at hsumReserved
  dsimp only at hsumFree hsumReserved
  rw [Foundation.issued, Foundation.issued]
  omega

/-- What is reserved and unreserved again is as before. -/
theorem reserve_issued (hlaw : cfg.balances.Exact) {who : AccountId}
    (h : cfg.balances.reserve native who amount = .ok native') : issued cfg native' = issued cfg native := by
  have hback : Released cfg who who amount native' native :=
    ⟨hlaw.reserve_reserved _ _ _ _ h, hlaw.reserve_free _ _ _ _ h,
      fun a ha => ((hlaw.reserve_other _ _ _ _ h a ha).2).symm,
      fun a ha => ((hlaw.reserve_other _ _ _ _ h a ha).1).symm⟩
  exact hback.issued.symm

theorem transfer_issued (hlaw : cfg.balances.Exact) (hne : payer ≠ payee)
    (h : cfg.balances.transfer native payer payee amount = .ok native') : issued cfg native' = issued cfg native := by
  have hreserved : (fun a => (cfg.balances.reserved native' a).toNat) =
      fun a => (cfg.balances.reserved native a).toNat := by
    funext a
    rw [hlaw.transfer_reserved _ _ _ _ _ h]
  have hfree : (fun a => (cfg.balances.free native' a).toNat) = Function.update
      (Function.update (fun a => (cfg.balances.free native a).toNat) payer (cfg.balances.free native' payer).toNat)
      payee (cfg.balances.free native' payee).toNat := by
    funext a
    rw [Function.update_apply, Function.update_apply]
    by_cases hpayee : a = payee
    · rw [if_pos hpayee, hpayee]
    · by_cases hpayer : a = payer
      · rw [if_neg hpayee, if_pos hpayer, hpayer]
      · rw [if_neg hpayee, if_neg hpayer, hlaw.transfer_other _ _ _ _ _ h a hpayer hpayee]
  have horigin := hlaw.transfer_origin _ _ _ _ _ hne h
  have htarget := hlaw.transfer_target _ _ _ _ _ hne h
  have hdebit := sum_update_add (fun a => (cfg.balances.free native a).toNat) payer
    (cfg.balances.free native' payer).toNat
  have hcredit := sum_update_add
    (Function.update (fun a => (cfg.balances.free native a).toNat) payer (cfg.balances.free native' payer).toNat)
    payee (cfg.balances.free native' payee).toNat
  rw [← hfree, Function.update_of_ne hne.symm] at hcredit
  dsimp only at hcredit hdebit
  rw [issued, issued, hreserved]
  omega

theorem Released.free_le (h : Released cfg payer payee amount native native') (a : AccountId) :
    (cfg.balances.free native a).toNat ≤ (cfg.balances.free native' a).toNat := by
  by_cases ha : a = payee
  · rw [ha, h.free]
    exact Nat.le_add_right _ _
  · rw [h.otherFree a ha]

theorem free_add_reserved_le (native : cfg.balances.Store) (payee payer : AccountId) :
    (cfg.balances.free native payee).toNat + (cfg.balances.reserved native payer).toNat ≤ issued cfg native :=
  Nat.add_le_add (le_sum_univ (fun a => (cfg.balances.free native a).toNat) payee)
    (le_sum_univ (fun a => (cfg.balances.reserved native a).toNat) payer)

section Laws

variable (hlaw : cfg.balances.BestEffort bare)

include hlaw

theorem unreserve_upTo (native : cfg.balances.Store) (who : AccountId) (amount : U128) :
    cfg.balances.unreserve native who amount =
      cfg.balances.unreserve native who (upTo amount (cfg.balances.reserved native who)) := by
  unfold upTo
  split
  · rfl
  · rename_i h
    exact hlaw.unreserve_most native who amount (Nat.le_of_lt (Nat.not_le.mp h))

theorem unreserve_released (hissued : issued cfg native < 2 ^ 128) (who : AccountId) (amount : U128) :
    Released cfg who who (upTo amount (cfg.balances.reserved native who)) native
      (cfg.balances.unreserve native who amount) := by
  rw [unreserve_upTo hlaw]
  have hle := (toNat_upTo amount (cfg.balances.reserved native who)).trans_le (Nat.min_le_right _ _)
  have hsum := free_add_reserved_le native who who
  exact ⟨hlaw.unreserve_reserved native who _ hle, hlaw.unreserve_free native who _ hle (by omega),
    fun a ha => (hlaw.unreserve_other native who _ a ha).2, fun a ha => (hlaw.unreserve_other native who _ a ha).1⟩

theorem repatriateReserved_released (hissued : issued cfg native < 2 ^ 128)
    (h : cfg.balances.repatriateReserved native payer payee amount .free = .ok native') :
    Released cfg payer payee (upTo amount (cfg.balances.reserved native payer)) native native' := by
  by_cases hne : payer = payee
  · subst hne
    rw [hlaw.repatriate_self] at h
    obtain rfl := Except.ok.inj h
    exact unreserve_released hlaw hissued payer amount
  · obtain ⟨hreserved, hotherReserved⟩ := hlaw.repatriate_reserved _ _ _ _ _ hne h
    obtain ⟨hfree, hotherFree⟩ := hlaw.repatriate_free _ _ _ _ _ hne h
    rw [← toNat_upTo] at hreserved hfree
    exact ⟨hreserved, hfree, hotherReserved, hotherFree⟩

end Laws

/-- An account exists as long as something is in it. -/
def Alive (cfg : Config) (native : cfg.balances.Store) (who : AccountId) : Prop :=
  cfg.balances.free native who ≠ 0 ∨ cfg.balances.reserved native who ≠ 0

theorem alive_iff {who : AccountId} : Alive cfg native who ↔
    0 < (cfg.balances.free native who).toNat + (cfg.balances.reserved native who).toNat := by
  rw [Alive, Ne, Ne, ← BitVec.toNat_inj, ← BitVec.toNat_inj]
  change ¬ _ = 0 ∨ ¬ _ = 0 ↔ _
  omega

/-! ### Releasing an amount -/

/-- Where an instalment goes. -/
def receiver (now : U32) (account : AccountId) (s : State cfg) : AccountId :=
  (s.approvals (account, now)).getD account

/-- A release writes to the approval of the epoch, and to the balances. -/
structure Effect (now : U32) (account : AccountId) (amount : U128) (s s' : State cfg) : Prop where
  blockNumber : s'.blockNumber = s.blockNumber
  foundation : s'.foundation = s.foundation
  approvals : s'.approvals = s.approvals.remove (account, now)
  native : s'.native = s.native ∨ Released cfg account (receiver now account s)
    (upTo amount (cfg.balances.reserved s.native account)) s.native s'.native

theorem remove_of_none {κ ν : Type} [DecidableEq κ] {m : StorageMap κ ν} {k : κ} (h : m k = none) : m.remove k = m := by
  funext k'
  rw [StorageMap.remove_apply]
  split
  · rename_i heq
    rw [heq, h]
  · rfl

theorem release_effect (hlaw : cfg.balances.BestEffort bare) (hissued : issued cfg s.native < 2 ^ 128)
    (h : release now account amount s = .ok s') : Effect now account amount s s' := by
  unfold release at h
  cases hfound : s.approvals (account, now) with
  | none =>
      rw [hfound] at h
      obtain rfl := pure_eq_ok.mp h
      refine ⟨rfl, rfl, (remove_of_none hfound).symm, .inr ?_⟩
      rw [receiver, hfound]
      exact unreserve_released hlaw hissued account amount
  | some approver =>
      rw [hfound] at h
      obtain ⟨native, hnative, h⟩ := bind_eq_ok.mp h
      obtain rfl := pure_eq_ok.mp h
      refine ⟨rfl, rfl, rfl, ?_⟩
      rw [receiver, hfound]
      rcases ignoreError_eq_ok hnative with hpaid | hsame
      · exact .inr (repatriateReserved_released hlaw hissued hpaid)
      · exact .inl hsame

/-- An amount that is reserved goes to an account that exists, unless that drops an account that is referred to. -/
theorem release_released (hlaw : cfg.balances.BestEffort bare) (hissued : issued cfg s.native < 2 ^ 128)
    (hcovered : amount.toNat ≤ (cfg.balances.reserved s.native account).toNat)
    (hlives : receiver now account s = account ∨ Alive cfg s.native (receiver now account s) ∧
      (bare account ∨ cfg.balances.free s.native account ≠ 0 ∨
        amount.toNat < (cfg.balances.reserved s.native account).toNat))
    (h : release now account amount s = .ok s') :
    Released cfg account (receiver now account s) amount s.native s'.native := by
  rcases (release_effect hlaw hissued h).native with hsame | hreleased
  · -- Nothing was repatriated, so there was an error.
    unfold release at h
    cases hfound : s.approvals (account, now) with
    | none =>
        rw [hfound] at h
        obtain rfl := pure_eq_ok.mp h
        have hreleased := unreserve_released hlaw hissued account amount
        rw [upTo_of_le hcovered] at hreleased
        rw [receiver, hfound]
        exact hreleased
    | some approver =>
        rw [receiver, hfound] at hlives ⊢
        rw [hfound] at h
        obtain ⟨native, hnative, h⟩ := bind_eq_ok.mp h
        obtain rfl := pure_eq_ok.mp h
        have hpaid : ∃ paid, cfg.balances.repatriateReserved s.native account approver amount .free = .ok paid := by
          by_cases hself : account = approver
          · subst hself
            exact ⟨_, hlaw.repatriate_self _ _ _⟩
          · have hsum := free_add_reserved_le s.native approver account
            obtain ⟨halive, hkeeps⟩ := hlives.resolve_left fun heq => hself heq.symm
            exact hlaw.repatriate_ok _ _ _ _ hself hcovered halive hkeeps (by omega)
        obtain ⟨paid, hpaid⟩ := hpaid
        rw [hpaid] at hnative
        obtain rfl := Except.ok.inj hnative
        have hreleased := repatriateReserved_released hlaw hissued hpaid
        rw [upTo_of_le hcovered] at hreleased
        exact hreleased
  · rwa [upTo_of_le hcovered] at hreleased

/-! ### Visiting a fund -/

/-- What comes due of a fund in an epoch. -/
def dueAmount (now : U32) (fund : FoundationData) : Option U128 :=
  if now > fund.delayDurations then
    if (now - fund.delayDurations) % fund.intervalDurations = 0 then some fund.amount else none
  else if now = fund.delayDurations then some fund.firstAmount
  else none

/-- What is left of a fund after an instalment. -/
def afterInstalment (fund : FoundationData) : Option FoundationData :=
  if fund.times - 1 = 0 then none else some { fund with times := fund.times - 1 }

theorem intervalPassed_of_le (hle : fund.delayDurations ≤ now) {b : Bool} (h : intervalPassed now fund = .ok b) :
    fund.intervalDurations ≠ 0 ∧
      b = decide ((now - fund.delayDurations) % fund.intervalDurations = 0) := by
  obtain ⟨hinterval, hpassed⟩ := intervalPassed_eq_ok.mp h
  rw [saturatingSub_of_le hle] at hpassed
  exact ⟨hinterval, hpassed.symm⟩

/-- A visit does nothing, or releases what comes due and writes the fund back. -/
theorem unlockEntry_eq_ok (h : unlockEntry now s ⟨account, fund⟩ = .ok s') :
    (dueAmount now fund = none ∧ s' = s) ∨ ∃ amount mid, dueAmount now fund = some amount ∧
      release now account amount s = .ok mid ∧ s'.blockNumber = mid.blockNumber ∧ s'.native = mid.native ∧
      s'.approvals = mid.approvals ∧
      ∀ a, s'.foundation.lookup a = if a = account then
        (if now > fund.delayDurations then afterInstalment fund else s.foundation.lookup account)
        else s.foundation.lookup a := by
  simp only [unlockEntry, bind_eq_ok] at h
  obtain ⟨due, hdue, h⟩ := h
  unfold instalmentDue at hdue
  by_cases hafter : now > fund.delayDurations
  · rw [if_pos hafter] at hdue
    obtain ⟨-, rfl⟩ := intervalPassed_of_le (BitVec.le_of_lt hafter) hdue
    by_cases hpassed : (now - fund.delayDurations) % fund.intervalDurations = 0
    · rw [if_pos (decide_eq_true hpassed), bind_eq_ok] at h
      obtain ⟨mid, hmid, h⟩ := h
      obtain rfl := pure_eq_ok.mp h
      refine .inr ⟨fund.amount, mid, by rw [dueAmount, if_pos hafter, if_pos hpassed], hmid, rfl, rfl, rfl,
        fun a => ?_⟩
      have hfoundation := release_foundation hmid
      simp only [countDown, hfoundation, if_pos hafter, afterInstalment]
      by_cases htimes : fund.times - 1 = 0
      · simp only [if_pos htimes, IterMap.lookup_erase]
      · simp only [if_neg htimes, IterMap.lookup_insert]
    · rw [if_neg (by simpa using hpassed), bind_eq_ok] at h
      obtain ⟨initial, hinitial, h⟩ := h
      rw [initialDue, if_neg (by rintro rfl; exact BitVec.lt_irrefl _ hafter), pure_eq_ok] at hinitial
      subst hinitial
      rw [if_neg Bool.false_ne_true] at h
      exact .inl ⟨by rw [dueAmount, if_pos hafter, if_neg hpassed], (pure_eq_ok.mp h).symm⟩
  · rw [if_neg hafter, pure_eq_ok] at hdue
    subst hdue
    rw [if_neg Bool.false_ne_true, bind_eq_ok] at h
    obtain ⟨initial, hinitial, h⟩ := h
    unfold initialDue at hinitial
    by_cases hself : now = fund.delayDurations
    · rw [if_pos hself] at hinitial
      obtain ⟨-, rfl⟩ := intervalPassed_of_le (hself ▸ BitVec.le_refl _) hinitial
      have hzero : (now - fund.delayDurations) % fund.intervalDurations = 0 := by
        rw [hself, BitVec.sub_self, BitVec.zero_umod]
        rfl
      rw [if_pos (decide_eq_true hzero)] at h
      refine .inr ⟨fund.firstAmount, s', by rw [dueAmount, if_neg hafter, if_pos hself], h, rfl, rfl, rfl, fun a => ?_⟩
      rw [release_foundation h, if_neg hafter]
      split
      · rename_i ha
        rw [ha]
      · rfl
    · rw [if_neg hself, pure_eq_ok] at hinitial
      subst hinitial
      rw [if_neg Bool.false_ne_true] at h
      exact .inl ⟨by rw [dueAmount, if_neg hafter, if_neg hself], (pure_eq_ok.mp h).symm⟩

/-- What the visits of other funds leave. -/
structure Beside (account : AccountId) (s s' : State cfg) : Prop where
  blockNumber : s'.blockNumber = s.blockNumber
  lookup : s'.foundation.lookup account = s.foundation.lookup account
  approvals : ∀ epoch, s'.approvals (account, epoch) = s.approvals (account, epoch)
  reserved : cfg.balances.reserved s'.native account = cfg.balances.reserved s.native account
  free : ∀ a, (cfg.balances.free s.native a).toNat ≤ (cfg.balances.free s'.native a).toNat
  issued : issued cfg s'.native = issued cfg s.native

theorem Beside.refl (account : AccountId) (s : State cfg) : Beside account s s :=
  ⟨rfl, rfl, fun _ => rfl, rfl, fun _ => Nat.le_refl _, rfl⟩

theorem Beside.trans (h : Beside account s mid) (h' : Beside account mid s') : Beside account s s' where
  blockNumber := h'.blockNumber.trans h.blockNumber
  lookup := h'.lookup.trans h.lookup
  approvals epoch := (h'.approvals epoch).trans (h.approvals epoch)
  reserved := h'.reserved.trans h.reserved
  free a := (h.free a).trans (h'.free a)
  issued := h'.issued.trans h.issued

/-! ### Accounts that go on -/

/-- What leaves the account of a fund in an epoch: what comes due and is taken back by another. -/
def leaving (now : U32) (s : State cfg) (account : AccountId) : Nat :=
  match s.foundation.lookup account with
  | none => 0
  | some fund =>
      if receiver now account s = account then 0 else ((dueAmount now fund).map BitVec.toNat).getD 0

/-- An account exists after the epoch as well: something of it is free, or more is reserved than leaves it. -/
def Survives (now : U32) (s : State cfg) (account : AccountId) : Prop :=
  cfg.balances.free s.native account ≠ 0 ∨ leaving now s account < (cfg.balances.reserved s.native account).toNat

theorem leaving_eq (hlookup : s.foundation.lookup account = some fund) (hdue : dueAmount now fund = some amount)
    (hne : receiver now account s ≠ account) : leaving now s account = amount.toNat := by
  simp only [leaving, hlookup, if_neg hne, hdue, Option.map_some, Option.getD_some]

theorem Survives.keeps (h : Survives now s account) (hlookup : s.foundation.lookup account = some fund)
    (hdue : dueAmount now fund = some amount) (hne : receiver now account s ≠ account) :
    cfg.balances.free s.native account ≠ 0 ∨ amount.toNat < (cfg.balances.reserved s.native account).toNat := by
  rwa [Survives, leaving_eq hlookup hdue hne] at h

theorem Survives.alive (h : Survives now s account) : Alive cfg s.native account := by
  refine h.imp_right fun hlt hzero => ?_
  rw [hzero] at hlt
  exact absurd hlt (Nat.not_lt_zero _)

theorem Beside.alive (h : Beside account s mid) (halive : Alive cfg s.native account) :
    Alive cfg mid.native account := by
  rw [alive_iff] at halive ⊢
  have hfree := h.free account
  rw [h.reserved]
  omega

theorem Beside.survives (h : Beside account s mid) (hsurvives : Survives now s account) :
    Survives now mid account := by
  have hleaving : leaving now mid account = leaving now s account := by
    unfold leaving receiver
    rw [h.lookup, h.approvals]
  rw [Survives, hleaving, h.reserved]
  refine hsurvives.imp_left fun hfree hzero => hfree ?_
  have hle := h.free account
  rw [hzero] at hle
  exact BitVec.eq_of_toNat_eq (Nat.le_zero.mp hle)

section Visits

variable (hlaw : cfg.balances.BestEffort bare)

include hlaw

theorem unlockEntry_beside {other : AccountId} (hne : other ≠ account) (hissued : issued cfg s.native < 2 ^ 128)
    (h : unlockEntry now s ⟨other, fund⟩ = .ok s') : Beside account s s' := by
  obtain ⟨-, rfl⟩ | ⟨amount, mid, -, hmid, hblock, hnative, happrovals, hlookup⟩ := unlockEntry_eq_ok h
  · exact .refl account _
  · have heffect := release_effect hlaw hissued hmid
    refine ⟨hblock.trans heffect.blockNumber, ?_, fun epoch => ?_, ?_, fun a => ?_, ?_⟩
    · rw [hlookup, if_neg hne.symm]
    · rw [happrovals, heffect.approvals, StorageMap.remove_of_ne _ (by simp [hne.symm])]
    · rw [hnative]
      rcases heffect.native with hsame | hreleased
      · rw [hsame]
      · exact hreleased.otherReserved account hne.symm
    · rw [hnative]
      rcases heffect.native with hsame | hreleased
      · rw [hsame]
      · exact hreleased.free_le a
    · rw [hnative]
      rcases heffect.native with hsame | hreleased
      · rw [hsame]
      · exact hreleased.issued

theorem foldlM_beside {entries : List (Sigma fun _ : AccountId => FoundationData)}
    (hother : ∀ entry ∈ entries, entry.1 ≠ account) (hissued : issued cfg s.native < 2 ^ 128)
    (h : entries.foldlM (unlockEntry now) s = .ok s') : Beside account s s' := by
  refine foldlM_invariant_mem (Beside account s) ?_ (.refl account s) h
  rintro ⟨other, fund⟩ hmem mid mid' hmid hentry
  have hlt : issued cfg mid.native < 2 ^ 128 := by rwa [hmid.issued]
  exact hmid.trans (unlockEntry_beside hlaw (hother _ hmem) hlt hentry)

/-- Of funds of different accounts each is visited once, and the other visits are beside it. -/
theorem foldlM_visit {entries : List (Sigma fun _ : AccountId => FoundationData)} (hnodup : entries.NodupKeys)
    (hmem : ⟨account, fund⟩ ∈ entries) (hissued : issued cfg s.native < 2 ^ 128)
    (h : entries.foldlM (unlockEntry now) s = .ok s') : ∃ before mid mid', before <+: entries ∧
      before.foldlM (unlockEntry now) s = .ok mid ∧ Beside account s mid ∧
      unlockEntry now mid ⟨account, fund⟩ = .ok mid' ∧ Beside account mid' s' := by
  obtain ⟨before, after, rfl⟩ := List.append_of_mem hmem
  have hkeys : (before.map Sigma.fst ++ account :: after.map Sigma.fst).Nodup := by
    have hkeys : ((before ++ ⟨account, fund⟩ :: after).map Sigma.fst).Nodup := hnodup
    rwa [List.map_append, List.map_cons] at hkeys
  rw [List.nodup_append, List.nodup_cons] at hkeys
  obtain ⟨-, ⟨hafter, -⟩, hbefore⟩ := hkeys
  rw [List.foldlM_append, bind_eq_ok] at h
  obtain ⟨mid, hmid, h⟩ := h
  rw [List.foldlM_cons, bind_eq_ok] at h
  obtain ⟨mid', hvisit, h⟩ := h
  have hfirst : Beside account s mid := foldlM_beside hlaw
    (fun entry hentry => hbefore _ (List.mem_map_of_mem hentry) _ List.mem_cons_self) hissued hmid
  have hlt : issued cfg mid.native < 2 ^ 128 := by rwa [hfirst.issued]
  have hlt' : issued cfg mid'.native < 2 ^ 128 := by
    obtain ⟨-, rfl⟩ | ⟨amount, paid, -, hpaid, -, hnative, -⟩ := unlockEntry_eq_ok hvisit
    · exact hlt
    · rw [hnative]
      rcases (release_effect hlaw hlt hpaid).native with hsame | hreleased
      · rwa [hsame]
      · rwa [hreleased.issued]
  refine ⟨before, mid, mid', List.prefix_append _ _, hmid, hfirst, hvisit,
    foldlM_beside hlaw (fun entry hentry heq => hafter ?_) hlt' h⟩
  rw [← heq]
  exact List.mem_map_of_mem hentry

/-- The visit of its own fund leaves an account that survives. -/
theorem unlockEntry_alive (hlookup : s.foundation.lookup account = some fund) (hissued : issued cfg s.native < 2 ^ 128)
    (hsurvives : Survives now s account) (h : unlockEntry now s ⟨account, fund⟩ = .ok s') :
    Alive cfg s'.native account := by
  obtain ⟨-, rfl⟩ | ⟨amount, mid, hdue, hmid, -, hnative, -⟩ := unlockEntry_eq_ok h
  · exact hsurvives.alive
  rw [hnative]
  rcases (release_effect hlaw hissued hmid).native with hsame | hreleased
  · rw [hsame]
    exact hsurvives.alive
  have halive := alive_iff.mp hsurvives.alive
  have hreserved := hreleased.reserved
  have hfree := hreleased.free_le account
  rw [alive_iff]
  by_cases hself : receiver now account s = account
  · -- What is no longer reserved is free.
    have hpaid := hreleased.free
    rw [hself] at hpaid
    omega
  · have hle := toNat_upTo amount (cfg.balances.reserved s.native account)
    rcases hsurvives with hfree' | hlt
    · have hpos : 0 < (cfg.balances.free s.native account).toNat :=
        Nat.pos_of_ne_zero fun hzero => hfree' (BitVec.eq_of_toNat_eq hzero)
      omega
    · rw [leaving_eq hlookup hdue hself] at hlt
      omega

/-- An account that survives the epoch exists while its funds are visited. -/
theorem foldlM_alive {entries : List (Sigma fun _ : AccountId => FoundationData)} (hnodup : entries.NodupKeys)
    (hentries : ∀ fund, ⟨account, fund⟩ ∈ entries → s.foundation.lookup account = some fund)
    (hissued : issued cfg s.native < 2 ^ 128) (hsurvives : Survives now s account)
    (h : entries.foldlM (unlockEntry now) s = .ok s') : Alive cfg s'.native account := by
  by_cases hmem : ∃ fund, ⟨account, fund⟩ ∈ entries
  · obtain ⟨fund, hmem⟩ := hmem
    obtain ⟨before, mid, mid', -, -, hbefore, hvisit, hafter⟩ := foldlM_visit hlaw hnodup hmem hissued h
    refine hafter.alive (unlockEntry_alive hlaw (hbefore.lookup.trans (hentries fund hmem)) ?_
      (hbefore.survives hsurvives) hvisit)
    rwa [hbefore.issued]
  · refine (foldlM_beside hlaw (fun entry hentry heq => hmem ⟨entry.2, ?_⟩) hissued h).alive hsurvives.alive
    rwa [← heq]

/-- A fund is visited while the accounts that survive the epoch exist, and the other visits are beside it. -/
theorem unlockFund_visit (hlookup : s.foundation.lookup account = some fund)
    (hissued : issued cfg s.native < 2 ^ 128) (h : unlockFund now s = .ok s') : ∃ mid mid',
    Beside account s mid ∧ (∀ other, Survives now s other → Alive cfg mid.native other) ∧
      unlockEntry now mid ⟨account, fund⟩ = .ok mid' ∧ Beside account mid' s' := by
  have hnodup : s.foundation.entries.NodupKeys := s.foundation.nodupKeys
  obtain ⟨before, mid, mid', hsplit, hmid, hfirst, hvisit, hlast⟩ :=
    foldlM_visit hlaw hnodup (IterMap.mem_entries.mpr hlookup) hissued h
  exact ⟨mid, mid', hfirst, fun other hsurvives => foldlM_alive hlaw (hnodup.sublist hsplit.sublist)
    (fun fund hmem => IterMap.mem_entries.mp (hsplit.subset hmem)) hissued hsurvives hmid, hvisit, hlast⟩

theorem unlockFund_beside (hlookup : s.foundation.lookup account = none) (hissued : issued cfg s.native < 2 ^ 128)
    (h : unlockFund now s = .ok s') : Beside account s s' := by
  refine foldlM_beside hlaw (fun entry hentry heq => ?_) hissued h
  have hfound := IterMap.mem_entries (k := entry.1) (v := entry.2).mp hentry
  rw [heq, hlookup] at hfound
  exact absurd hfound (by simp)

theorem unlockFund_issued (hissued : issued cfg s.native < 2 ^ 128) (h : unlockFund now s = .ok s') :
    issued cfg s'.native = issued cfg s.native := by
  refine foldlM_invariant (fun s' : State cfg => issued cfg s'.native = issued cfg s.native) ?_ rfl h
  rintro mid ⟨account, fund⟩ mid' hmid hentry
  obtain ⟨-, rfl⟩ | ⟨amount, paid, -, hpaid, -, hnative, -⟩ := unlockEntry_eq_ok hentry
  · exact hmid
  · rw [hnative]
    have hlt : issued cfg mid.native < 2 ^ 128 := by rwa [hmid]
    rcases (release_effect hlaw hlt hpaid).native with hsame | hreleased
    · rw [hsame, hmid]
    · rw [hreleased.issued, hmid]

end Visits

end Fusotao.Foundation
