import Fusotao.Verifier.Solvency
import Fusotao.Verifier.Stakes

/-!
# What is unstaked

What was unstaked in a grace period waits under one block for its release. The amounts that wait for a staker add
up to one record of it, so each release finds what it asks for.
-/

namespace Fusotao.Verifier

open Exec Word
open Token (balancesOf)

open scoped BigOperators

variable {cfg : Config} {s s' : State cfg} {staker : AccountId} {amount : U128}

/-! ### What waits -/

/-- What is released to a staker in a block. -/
def pendingAt (block : BlockNumber) (staker : AccountId) (s : State cfg) : Nat :=
  ((s.pendingUnstakings.lookup (block, staker)).getD 0).toNat

/-- All block numbers. The set is only reasoned about. -/
@[irreducible] def blockNumbers : Finset BlockNumber := Finset.range (2 ^ 32)

theorem mem_blockNumbers {block : BlockNumber} : block ∈ blockNumbers ↔ block < 2 ^ 32 := by
  unfold blockNumbers
  exact Finset.mem_range

/-- What is released to a staker in any block. -/
def unstakingOf (staker : AccountId) (s : State cfg) : Nat :=
  ∑ block ∈ blockNumbers, pendingAt block staker s

/-- The record of what a staker waits for. -/
abbrev pendingKey (cfg : Config) (staker : AccountId) : ReserveKey :=
  ((.pendingUnstake, staker, cfg.token.nativeTokenId), cfg.systemAccount)

/-- What waits for each staker is on record of it. -/
def PendingRecorded (s : State cfg) : Prop :=
  ∀ u, unstakingOf u s = amounts s.reserves (pendingKey cfg u)

theorem pendingAt_le {block : BlockNumber} (hblock : block < 2 ^ 32) (staker : AccountId) (s : State cfg) :
    pendingAt block staker s ≤ unstakingOf staker s :=
  Finset.single_le_sum (f := fun block => pendingAt block staker s) (fun _ _ => Nat.zero_le _)
    (mem_blockNumbers.mpr hblock)

theorem unstakingOf_congr (h : s'.pendingUnstakings = s.pendingUnstakings) (u : AccountId) :
    unstakingOf u s' = unstakingOf u s := by
  refine Finset.sum_congr rfl fun block _ => ?_
  rw [pendingAt, pendingAt, h]

section Write

variable {block : BlockNumber} {entry : Option U128}

/-- One entry is written. -/
def WritesPending (block : BlockNumber) (staker : AccountId) (entry : Option U128) (s s' : State cfg) : Prop :=
  ∀ b u, s'.pendingUnstakings.lookup (b, u) =
    if (b, u) = (block, staker) then entry else s.pendingUnstakings.lookup (b, u)

theorem WritesPending.insert {value : U128}
    (h : s'.pendingUnstakings = s.pendingUnstakings.insert (block, staker) value) :
    WritesPending block staker (some value) s s' := by
  intro b u
  rw [h, IterMap.lookup_insert]

theorem WritesPending.erase (h : s'.pendingUnstakings = s.pendingUnstakings.erase (block, staker)) :
    WritesPending block staker none s s' := by
  intro b u
  rw [h, IterMap.lookup_erase]

theorem WritesPending.pendingAt (h : WritesPending block staker entry s s') (b : BlockNumber)
    (u : AccountId) : pendingAt b u s' =
      if (b, u) = (block, staker) then (entry.getD 0).toNat else pendingAt b u s := by
  rw [Verifier.pendingAt, h b u]
  split <;> rfl

/-- What waits for the staker changes by what is written less what was there. -/
theorem WritesPending.unstakingOf (h : WritesPending block staker entry s s') (hblock : block < 2 ^ 32) :
    unstakingOf staker s' + Verifier.pendingAt block staker s = unstakingOf staker s + (entry.getD 0).toNat := by
  have hupdate : (fun b => Verifier.pendingAt b staker s') =
      Function.update (fun b => Verifier.pendingAt b staker s) block (entry.getD 0).toNat := by
    funext b
    rw [h.pendingAt, Function.update_apply]
    exact if_congr (by simp) rfl rfl
  have hsum := sum_update_add_of_mem (fun b => Verifier.pendingAt b staker s) (mem_blockNumbers.mpr hblock)
    (entry.getD 0).toNat
  rw [← hupdate] at hsum
  exact hsum

theorem WritesPending.unstakingOf_of_ne (h : WritesPending block staker entry s s') {u : AccountId}
    (hu : u ≠ staker) : Verifier.unstakingOf u s' = Verifier.unstakingOf u s := by
  refine Finset.sum_congr rfl fun b _ => ?_
  rw [h.pendingAt, if_neg (by simp [hu])]

end Write

/-! ### What was unstaked -/

/-- Who unstaked how much in which block. -/
def unstakings {Callback : Type} (history : List (Entry Callback)) :
    List (AccountId × BlockNumber × U128) :=
  history.filterMap fun entry =>
    match entry with
    | .unstaked staker block amount => some (staker, block, amount)
    | _ => none

@[simp] theorem unstakings_append {Callback : Type} (l l' : List (Entry Callback)) :
    unstakings (l ++ l') = unstakings l ++ unstakings l' := List.filterMap_append

@[simp] theorem unstakings_settledEntries (staker d : AccountId) (dist : Distribution) :
    unstakings (@settledEntries cfg staker d dist) = [] := by
  simp [unstakings, settledEntries, List.filterMap_map]

@[simp] theorem unstakings_stakedEntries (staker d : AccountId) (dist : Distribution) :
    unstakings (@stakedEntries cfg staker d dist) = [] := by
  unfold stakedEntries
  split
  · exact unstakings_settledEntries staker d dist
  · rfl

/-- The first block of the grace period of a block. -/
def gracePeriodOf (cfg : Config) (block : BlockNumber) : BlockNumber :=
  block - block % cfg.dominatorCheckGracePeriod

/-- What a staker unstaked in the grace period whose release is due in a block. -/
def unstakedFor (cfg : Config) (due : BlockNumber) (staker : AccountId)
    (l : List (AccountId × BlockNumber × U128)) : Nat :=
  ((l.filter fun x => x.1 = staker ∧ gracePeriodOf cfg x.2.1 + unstakeDelayBlocks = due).map
    fun x => x.2.2.toNat).sum

theorem unstakedFor_append (due : BlockNumber) (staker : AccountId)
    (l l' : List (AccountId × BlockNumber × U128)) :
    unstakedFor cfg due staker (l ++ l') = unstakedFor cfg due staker l + unstakedFor cfg due staker l' := by
  simp [unstakedFor]

theorem unstakedFor_singleton (due block : BlockNumber) (staker u : AccountId) (amount : U128) :
    unstakedFor cfg due u [(staker, block, amount)] =
      if staker = u ∧ gracePeriodOf cfg block + unstakeDelayBlocks = due then amount.toNat else 0 := by
  rw [unstakedFor, List.filter_cons, List.filter_nil]
  simp only [decide_eq_true_eq]
  split <;> simp

/-! ### How a move concerns what waits -/

/-- A move that is not about pending unstakes. -/
structure SamePending (s s' : State cfg) : Prop where
  now : s'.now = s.now
  pending : s'.pendingUnstakings = s.pendingUnstakings
  record : ∀ u, amounts s'.reserves (pendingKey cfg u) = amounts s.reserves (pendingKey cfg u)
  history : unstakings s'.history = unstakings s.history

inductive PendingMove (s s' : State cfg) : Prop
  | same (h : SamePending s s')
  | unstake (staker d : AccountId) (amount : U128) (h : unstakeFrom staker d amount s = .ok s')
  | block (external : cfg.External) (h : s.now + 1 < 2 ^ 32)
      (hs' : s' = onInitialize (s.now + 1) { s with now := s.now + 1, external := external })

/-- A record of another kind is written. -/
theorem pendingRecord_update {kind : ReserveId} {who other : AccountId} {token : TokenId} {v : Nat}
    (hkind : kind ≠ .pendingUnstake)
    (h : amounts s'.reserves = Function.update (amounts s.reserves) ((kind, who, token), other) v)
    (u : AccountId) : amounts s'.reserves (pendingKey cfg u) = amounts s.reserves (pendingKey cfg u) := by
  rw [h, Function.update_of_ne (by simp [hkind.symm])]

theorem Applied.samePending {d : AccountId} {proof : ProofV2} (h : Applied d proof s s') :
    SamePending s s' := by
  have hframe := h.frame
  refine ⟨by rw [hframe], by rw [hframe], fun u => ?_, by rw [hframe]⟩
  exact h.records (.inl (by simp)) (.inl (by simp))

theorem Move.pendingMove (h : Move s s') : PendingMove s s' := by
  cases h with
  | register h =>
      obtain ⟨-, dominator, -, -, -, -, rfl⟩ := register_eq_ok h
      exact .same ⟨rfl, rfl, fun _ => rfl, rfl⟩
  | evict h =>
      obtain ⟨dominator, -, rfl⟩ := evict_eq_ok h
      exact .same ⟨rfl, rfl, fun _ => rfl, rfl⟩
  | launch h =>
      obtain ⟨dominator, -, -, rfl⟩ := launch_eq_ok h
      exact .same ⟨rfl, rfl, fun _ => rfl, rfl⟩
  | outside | assets => exact .same ⟨rfl, rfl, fun _ => rfl, rfl⟩
  | authorize h =>
      have hframe := authorizeTo_frame h
      refine .same ⟨by rw [hframe], by rw [hframe], fun u => ?_, by rw [hframe]⟩
      exact authorizeTo_records h (by simp [pendingKey])
  | revoke h =>
      have hframe := revokeFrom_frame h
      refine .same ⟨by rw [hframe], by rw [hframe], fun u => ?_, by rw [hframe]⟩
      exact revokeFrom_records h (by simp [pendingKey]) (by simp [pendingKey])
  | stake h =>
      obtain ⟨dominator, -, -, hs', hreserves⟩ := stakeOn_effects h
      refine .same ⟨by rw [hs'], by rw [hs'], pendingRecord_update (by decide) hreserves, ?_⟩
      rw [hs']
      simp only [unstakings_append, unstakings_stakedEntries, List.append_nil]
      exact List.append_nil _
  | unstake h => exact .unstake _ _ _ h
  | claim h =>
      obtain ⟨dominator, -, staking, -, hs'⟩ := claimShares_effects h
      refine .same ⟨by rw [hs'], by rw [hs'], fun u => by rw [hs'], ?_⟩
      rw [hs']
      simp only [unstakings_append, unstakings_settledEntries, List.append_nil]
  | apply hlookup hopenings hbonuses h =>
      obtain ⟨hnow, hpending, hrecord, hhistory⟩ := h.samePending
      refine .same ⟨hnow, hpending, hrecord, ?_⟩
      rw [recordApplied, unstakings_append, hhistory]
      exact List.append_nil _
  | reject =>
      refine .same ⟨rfl, rfl, fun _ => rfl, ?_⟩
      rw [dropReceipt, unstakings_append]
      exact List.append_nil _
  | store hpending h =>
      obtain ⟨dominator, -, rfl⟩ := storeRoot_eq_ok h
      exact .same ⟨rfl, rfl, fun _ => rfl, rfl⟩
  | block external h => exact .block external h rfl

/-! ### A block releases what is due -/

/-- The entries that are due in a block. -/
def dueEntries (now : BlockNumber) (s : State cfg) : List (Sigma fun _ : BlockNumber × AccountId => U128) :=
  s.pendingUnstakings.entries.filter fun entry => entry.1.1 = now

/-- One entry is drained and unlocked. -/
def releaseEntry (s : State cfg) (entry : Sigma fun _ : BlockNumber × AccountId => U128) :
    Result (State cfg) :=
  unreserve .pendingUnstake entry.1.2 cfg.token.nativeTokenId entry.2 cfg.systemAccount
    { s with pendingUnstakings := s.pendingUnstakings.erase entry.1 }

/-- From `s` to `mid` some of the entries that are due in a block were released. -/
structure Releasing (block : BlockNumber) (s mid : State cfg) : Prop where
  elsewhere : ∀ b u, b ≠ block → mid.pendingUnstakings.lookup (b, u) = s.pendingUnstakings.lookup (b, u)
  reserved : ∀ u, (balancesOf cfg.token.nativeTokenId u mid.asset).2.toNat + pendingAt block u s =
    (balancesOf cfg.token.nativeTokenId u s.asset).2.toNat + pendingAt block u mid
  free : ∀ u, (balancesOf cfg.token.nativeTokenId u s.asset).1.toNat + pendingAt block u s < 2 ^ 128 →
    (balancesOf cfg.token.nativeTokenId u mid.asset).1.toNat + pendingAt block u mid =
      (balancesOf cfg.token.nativeTokenId u s.asset).1.toNat + pendingAt block u s

/-- What the records are before and after each release. -/
structure Releasable (s : State cfg) : Prop where
  custody : Custody s
  recorded : PendingRecorded s

theorem Releasable.unreserve (hlaw : cfg.token.balances.Lawful) (hinv : Releasable s) {block : BlockNumber}
    (hblock : block < 2 ^ 32) {value : U128} (hlookup : s.pendingUnstakings.lookup (block, staker) = some value)
    (h : releaseEntry s ⟨(block, staker), value⟩ = .ok s') : Releasable s' := by
  have herased : Custody { s with pendingUnstakings := s.pendingUnstakings.erase (block, staker) } :=
    hinv.custody.of_same rfl rfl (.refl _)
  refine ⟨herased.unreserve hlaw (by decide) h, fun u => ?_⟩
  obtain ⟨hframe, hle, hreserves, -⟩ := unreserve_eq_ok h
  have hwrites : WritesPending block staker none s s' := .erase (by rw [hframe])
  have hvalue : pendingAt block staker s = value.toNat := by rw [pendingAt, hlookup, Option.getD_some]
  rw [hreserves]
  by_cases hu : u = staker
  · subst hu
    have hpending := hwrites.unstakingOf hblock
    have hrecord : unstakingOf u s =
        amounts s.reserves ((.pendingUnstake, u, cfg.token.nativeTokenId), cfg.systemAccount) :=
      hinv.recorded u
    rw [Function.update_self]
    dsimp only at hle ⊢
    rw [hvalue] at hpending
    change _ = unstakingOf u s + 0 at hpending
    omega
  · rw [Function.update_of_ne (by simp [hu]), hwrites.unstakingOf_of_ne hu]
    exact hinv.recorded u

/-- An entry on record is released. -/
theorem Releasable.exists_release (hinv : Releasable s) {block : BlockNumber} (hblock : block < 2 ^ 32)
    {value : U128} (hlookup : s.pendingUnstakings.lookup (block, staker) = some value) :
    ∃ s', releaseEntry s ⟨(block, staker), value⟩ = .ok s' := by
  have hrecord : value.toNat ≤ amounts s.reserves (pendingKey cfg staker) := by
    have hle := pendingAt_le hblock staker s
    rw [pendingAt, hlookup, Option.getD_some] at hle
    exact hle.trans (hinv.recorded staker).le
  refine unreserve_ok hrecord (Token.unreserve_ok ?_ fun hne => absurd rfl hne)
  exact hrecord.trans (hinv.custody.covers ..)

theorem Releasing.release (hexact : cfg.token.balances.Exact) {mid : State cfg} {block : BlockNumber}
    (hinv : Releasing block s mid) {value : U128}
    (hlookup : mid.pendingUnstakings.lookup (block, staker) = some value)
    (h : releaseEntry mid ⟨(block, staker), value⟩ = .ok s') : Releasing block s s' := by
  obtain ⟨hframe, -, -, hunreserve⟩ := unreserve_eq_ok h
  have hwrites : WritesPending block staker none mid s' := .erase (by rw [hframe])
  have hvalue : pendingAt block staker mid = value.toNat := by rw [pendingAt, hlookup, Option.getD_some]
  have hnone : pendingAt block staker s' = 0 := by
    rw [hwrites.pendingAt, if_pos rfl]
    rfl
  obtain ⟨hreserved, honly⟩ := Token.unreserve_eq_ok hexact.toLawful hunreserve
  have hother {u : AccountId} (hu : u ≠ staker) : pendingAt block u s' = pendingAt block u mid ∧
      balancesOf cfg.token.nativeTokenId u s'.asset = balancesOf cfg.token.nativeTokenId u mid.asset :=
    ⟨by rw [hwrites.pendingAt, if_neg (by simp [hu])], honly _ u (by simp [hu])⟩
  refine ⟨fun b u hb => ?_, fun u => ?_, fun u hfits => ?_⟩
  · rw [hwrites b u, if_neg (by simp [hb]), hinv.elsewhere b u hb]
  · have hmid := hinv.reserved u
    by_cases hu : u = staker
    · subst hu
      dsimp only at hreserved
      omega
    · rw [(hother hu).1, (hother hu).2]
      exact hmid
  · have hmid := hinv.free u hfits
    by_cases hu : u = staker
    · subst hu
      have hfree := Token.unreserve_free hexact hunreserve (by dsimp only; omega)
      dsimp only at hfree
      omega
    · rw [(hother hu).1, (hother hu).2]
      exact hmid

/-- All entries of a list are released, one after the other. -/
theorem releases_ok (hexact : cfg.token.balances.Exact) {block : BlockNumber} (hblock : block < 2 ^ 32)
    {l : List (Sigma fun _ : BlockNumber × AccountId => U128)} (hkeys : (l.map Sigma.fst).Nodup)
    (hdue : ∀ entry ∈ l, entry.1.1 = block) {mid : State cfg}
    (hlookup : ∀ entry ∈ l, mid.pendingUnstakings.lookup entry.1 = some entry.2)
    (hinv : Releasable mid) (hreleasing : Releasing block s mid) : ∃ s', l.foldlM releaseEntry mid = .ok s' ∧
      s' = l.foldl (fun s entry => unlock entry.1.2 entry.2
        { s with pendingUnstakings := s.pendingUnstakings.erase entry.1 }) mid ∧
      Releasable s' ∧ Releasing block s s' ∧ ∀ u, s'.pendingUnstakings.lookup (block, u) =
        if (block, u) ∈ l.map Sigma.fst then none else mid.pendingUnstakings.lookup (block, u) := by
  induction l generalizing mid with
  | nil => exact ⟨mid, rfl, rfl, hinv, hreleasing, fun u => by simp⟩
  | cons entry l ih =>
      obtain ⟨⟨b, staker⟩, value⟩ := entry
      obtain rfl : b = block := hdue _ List.mem_cons_self
      have hentry := hlookup _ List.mem_cons_self
      obtain ⟨next, hnext⟩ := hinv.exists_release hblock hentry
      have hwrites : WritesPending b staker none mid next := .erase (by rw [(unreserve_eq_ok hnext).1])
      rw [List.map_cons, List.nodup_cons] at hkeys
      have hunlock : unlock staker value
          { mid with pendingUnstakings := mid.pendingUnstakings.erase (b, staker) } = next := by
        have hnext' := hnext
        unfold releaseEntry at hnext'
        rw [unlock, hnext']
      have hrest : ∀ entry ∈ l, next.pendingUnstakings.lookup entry.1 = some entry.2 := by
        intro entry hmem
        have hne : entry.1 ≠ (b, staker) := by
          intro heq
          have hin : entry.1 ∈ l.map Sigma.fst := List.mem_map_of_mem hmem
          exact hkeys.1 (heq ▸ hin)
        rw [← Prod.mk.eta (p := entry.1), hwrites, if_neg hne]
        exact hlookup entry (List.mem_cons_of_mem _ hmem)
      obtain ⟨s', hfold, hs', hinv', hreleasing', hlookup'⟩ := ih hkeys.2
        (fun entry hmem => hdue entry (List.mem_cons_of_mem _ hmem)) hrest
        (hinv.unreserve hexact.toLawful hblock hentry hnext) (hreleasing.release hexact hentry hnext)
      refine ⟨s', ?_, ?_, hinv', hreleasing', fun u => ?_⟩
      · rw [List.foldlM_cons, hnext]
        exact hfold
      · rw [hs', List.foldl_cons]
        dsimp only
        rw [hunlock]
      · rw [hlookup' u, hwrites b u, List.map_cons]
        by_cases hu : u = staker
        · simp [hu]
        · simp [hu]

/-- The first block of a grace period releases all that is due, and nothing else. -/
theorem onInitialize_releases (hexact : cfg.token.balances.Exact) (hinv : Releasable s) {now : BlockNumber}
    (hnow : now < 2 ^ 32) (hgrace : now % cfg.dominatorCheckGracePeriod = 0) :
    (dueEntries now s).foldlM releaseEntry (snapshots now s) = .ok (onInitialize now s) ∧
      Releasable (onInitialize now s) ∧ Releasing now s (onInitialize now s) ∧
      ∀ u, (onInitialize now s).pendingUnstakings.lookup (now, u) = none := by
  have hframe := snapshots_frame now s
  have hpending : (snapshots now s).pendingUnstakings = s.pendingUnstakings := by rw [hframe]
  have hasset : (snapshots now s).asset = s.asset := by rw [hframe]
  have hmid : Releasable (snapshots now s) := by
    refine ⟨hinv.custody.of_same (by rw [hframe]) (by rw [hframe]) (by rw [hasset]; exact .refl _),
      fun u => ?_⟩
    rw [unstakingOf_congr hpending, hframe]
    exact hinv.recorded u
  have hstart : Releasing now s (snapshots now s) := by
    refine ⟨fun b u _ => by rw [hpending], fun u => ?_, fun u _ => ?_⟩ <;>
      rw [hasset, pendingAt, pendingAt, hpending]
  have hmem {entry : Sigma fun _ : BlockNumber × AccountId => U128} (h : entry ∈ dueEntries now s) :
      entry.1.1 = now ∧ s.pendingUnstakings.lookup entry.1 = some entry.2 := by
    obtain ⟨hentry, hdue⟩ := List.mem_filter.mp h
    exact ⟨of_decide_eq_true hdue, IterMap.mem_entries.mp hentry⟩
  have hkeys : ((dueEntries now s).map Sigma.fst).Nodup :=
    List.Nodup.sublist (List.Sublist.map _ List.filter_sublist) s.pendingUnstakings.nodupKeys
  obtain ⟨s', hfold, hs', hinv', hreleasing, hlookup⟩ := releases_ok hexact hnow hkeys
    (fun entry h => (hmem h).1) (fun entry h => by rw [hpending]; exact (hmem h).2) hmid hstart
  have hinit : onInitialize now s = s' := by
    rw [hs', onInitialize, if_neg (not_not.mpr hgrace), dueEntries, ← hpending]
    rfl
  rw [hinit]
  refine ⟨hfold, hinv', hreleasing, fun u => ?_⟩
  rw [hlookup u]
  split
  · rfl
  · rename_i hnot
    rw [hpending]
    cases hentry : s.pendingUnstakings.lookup (now, u) with
    | none => rfl
    | some value =>
        have hin : ⟨(now, u), value⟩ ∈ dueEntries now s :=
          List.mem_filter.mpr ⟨IterMap.mem_entries.mpr hentry, decide_eq_true rfl⟩
        have hkey : (now, u) ∈ (dueEntries now s).map Sigma.fst := List.mem_map_of_mem hin
        exact absurd hkey hnot

/-! ### Runs -/

theorem Releasable.of_block (hinv : Releasable s) (external : cfg.External) :
    Releasable { s with now := s.now + 1, external := external } :=
  ⟨hinv.custody.of_same rfl rfl (.refl _), hinv.recorded⟩

theorem onInitialize_skip {now : BlockNumber} (hgrace : now % cfg.dominatorCheckGracePeriod ≠ 0) :
    onInitialize now s = s := if_pos hgrace

/-- What waits is on record in every state of a run. -/
theorem Releasable.move (hexact : cfg.token.balances.Exact) (hinv : Releasable s) (h : Move s s') :
    Releasable s' := by
  cases h.pendingMove with
  | same hsame =>
      refine ⟨hinv.custody.move hexact.toLawful h, fun u => ?_⟩
      rw [unstakingOf_congr hsame.pending, hsame.record]
      exact hinv.recorded u
  | unstake staker d amount hunstake =>
      refine ⟨hinv.custody.move hexact.toLawful h, fun u => ?_⟩
      obtain ⟨dominator, -, -, staked, -, staking, -, remain, -, pending, hpending, hs', -, hreserves⟩ :=
        unstakeFrom_effects hunstake
      rw [checkedAdd_eq_some] at hpending
      have hwrites : WritesPending (unlockAt cfg s.now) staker (some pending) s s' := .insert (by rw [hs'])
      rw [hreserves]
      by_cases hu : u = staker
      · subst hu
        have hsum := hwrites.unstakingOf (Nat.mod_lt _ (by decide))
        have hrecord := hinv.recorded u
        rw [Option.getD_some, hpending] at hsum
        rw [Function.update_self, ← hrecord]
        change unstakingOf u s' + pendingAt (unlockAt cfg s.now) u s =
          unstakingOf u s + (pendingAt (unlockAt cfg s.now) u s + amount.toNat) at hsum
        omega
      · rw [Function.update_of_ne (by simp [hu]), Function.update_of_ne (by simp), hwrites.unstakingOf_of_ne hu]
        exact hinv.recorded u
  | block external hlt hs' =>
      have hnext := hinv.of_block external
      rw [hs']
      by_cases hgrace : (s.now + 1) % cfg.dominatorCheckGracePeriod = 0
      · exact (onInitialize_releases hexact hnext hlt hgrace).2.1
      · rw [onInitialize_skip hgrace]
        exact hnext

theorem releasable_of_visited (hexact : cfg.token.balances.Exact) (h : Visited s) : Releasable s := by
  refine h.invariant Releasable ?_ fun s s' hinv hmove => hinv.move hexact hmove
  rintro s ⟨asset, external, rfl⟩
  refine ⟨custody_of_visited hexact.toLawful ⟨_, ⟨asset, external, rfl⟩, .refl⟩, fun u => ?_⟩
  exact Finset.sum_eq_zero fun block _ => by simp [pendingAt, State.genesis]

/-- No unstake is so late that its release is out of the range of the block numbers. -/
def UnstakesInRange {Callback : Type} (cfg : Config) (history : List (Entry Callback)) : Prop :=
  ∀ x ∈ unstakings history, gracePeriodOf cfg x.2.1 + unstakeDelayBlocks < 2 ^ 32

theorem UnstakesInRange.of_prefix {Callback : Type} {l l' : List (Entry Callback)}
    (h : UnstakesInRange cfg l') (hpart : l <+: l') : UnstakesInRange cfg l := by
  obtain ⟨rest, rfl⟩ := hpart
  intro x hx
  exact h x (by rw [unstakings_append]; exact List.mem_append_left _ hx)

/-- What waits for a block that has not come is what was unstaked for it, and nothing is overdue. -/
structure OnSchedule (s : State cfg) : Prop where
  due : ∀ block u, s.now < block →
    pendingAt block u s = unstakedFor cfg block u (unstakings s.history)
  overdue : ∀ block u, block ≤ s.now → s.pendingUnstakings.lookup (block, u) = none
  aligned : ∀ block u value, s.pendingUnstakings.lookup (block, u) = some value →
    cfg.dominatorCheckGracePeriod ∣ block

theorem unlockAt_eq {now : BlockNumber} (h : gracePeriodOf cfg now + unstakeDelayBlocks < 2 ^ 32) :
    unlockAt cfg now = gracePeriodOf cfg now + unstakeDelayBlocks := Nat.mod_eq_of_lt h

theorem lt_unlock (hle : cfg.dominatorCheckGracePeriod ≤ unstakeDelayBlocks) (now : Nat) :
    now < gracePeriodOf cfg now + unstakeDelayBlocks := by
  have hlt : now % cfg.dominatorCheckGracePeriod < cfg.dominatorCheckGracePeriod :=
    Nat.mod_lt _ cfg.dominatorCheckGracePeriod_pos
  calc now = gracePeriodOf cfg now + now % cfg.dominatorCheckGracePeriod :=
        (Nat.sub_add_cancel (Nat.mod_le _ _)).symm
    _ < gracePeriodOf cfg now + unstakeDelayBlocks := Nat.add_lt_add_left (hlt.trans_le hle) _

theorem OnSchedule.same (hinv : OnSchedule s) (h : SamePending s s') : OnSchedule s' := by
  refine ⟨fun block u hlt => ?_, fun block u hle => ?_, fun block u value hlookup => ?_⟩
  · rw [pendingAt, h.pending, h.history]
    exact hinv.due block u (h.now ▸ hlt)
  · rw [h.pending]
    exact hinv.overdue block u (h.now ▸ hle)
  · exact hinv.aligned block u value (h.pending ▸ hlookup)

/-- What is unstaked joins what waits for the same block. -/
theorem OnSchedule.unstake (hdvd : cfg.dominatorCheckGracePeriod ∣ unstakeDelayBlocks) (hinv : OnSchedule s)
    {d : AccountId} (h : unstakeFrom staker d amount s = .ok s')
    (hrange : gracePeriodOf cfg s.now + unstakeDelayBlocks < 2 ^ 32) : OnSchedule s' := by
  obtain ⟨dominator, -, -, staked, -, staking, -, remain, -, pending, hpending, hs', -, -⟩ :=
    unstakeFrom_effects h
  rw [unlockAt_eq hrange, checkedAdd_eq_some] at hpending
  have hwrites : WritesPending (gracePeriodOf cfg s.now + unstakeDelayBlocks) staker (some pending) s s' := by
    rw [← unlockAt_eq hrange]
    exact .insert (by rw [hs'])
  have hnow : s'.now = s.now := by rw [hs']
  have hhistory : unstakings s'.history = unstakings s.history ++ [(staker, s.now, amount)] := by
    rw [hs']
    simp only [unstakings_append, unstakings_settledEntries, List.append_nil]
    rfl
  have hlater := lt_unlock (Nat.le_of_dvd (by decide) hdvd) s.now
  refine ⟨fun block u hlt => ?_, fun block u hle => ?_, fun block u value hlookup => ?_⟩
  · rw [hnow] at hlt
    rw [hwrites.pendingAt, hhistory, unstakedFor_append, unstakedFor_singleton, ← hinv.due block u hlt]
    by_cases hentry : (block, u) = (gracePeriodOf cfg s.now + unstakeDelayBlocks, staker)
    · obtain ⟨rfl, rfl⟩ := Prod.mk.inj hentry
      rw [if_pos rfl, if_pos ⟨rfl, rfl⟩, Option.getD_some, hpending]
      rfl
    · rw [if_neg hentry, if_neg]
      · rfl
      · rintro ⟨rfl, rfl⟩
        exact hentry rfl
  · rw [hnow] at hle
    rw [hwrites, if_neg, hinv.overdue block u hle]
    rintro heq
    exact absurd ((Prod.mk.inj heq).1 ▸ hle) (Nat.not_le_of_lt hlater)
  · rw [hwrites] at hlookup
    split at hlookup
    · rename_i heq
      rw [(Prod.mk.inj heq).1]
      exact Nat.dvd_add (Nat.dvd_sub_mod _) hdvd
    · exact hinv.aligned block u value hlookup

/-- No entry is due in a block that does not start a grace period. -/
theorem OnSchedule.dueEntries_eq_nil (hinv : OnSchedule s) {now : BlockNumber}
    (hgrace : now % cfg.dominatorCheckGracePeriod ≠ 0) : dueEntries now s = [] := by
  rw [dueEntries, List.filter_eq_nil_iff]
  rintro ⟨⟨block, u⟩, value⟩ hmem hdue
  have halign := hinv.aligned block u value (IterMap.mem_entries.mp hmem)
  rw [show block = now from of_decide_eq_true hdue] at halign
  exact hgrace (Nat.mod_eq_zero_of_dvd halign)

theorem pendingAt_eq_zero {block : BlockNumber} (h : s.pendingUnstakings.lookup (block, staker) = none) :
    pendingAt block staker s = 0 := by
  rw [pendingAt, h]
  rfl

/-- What the next block does: all releases that are due succeed, and each staker gets back what it unstaked for
this block. -/
structure ReleasesDue (external : cfg.External) (s s' : State cfg) : Prop where
  succeed : ∃ bonuses, (dueEntries (s.now + 1) s).foldlM releaseEntry
    { s with now := s.now + 1, external := external, bonuses := bonuses } = .ok s'
  reserved : ∀ u, (balancesOf cfg.token.nativeTokenId u s'.asset).2.toNat +
      unstakedFor cfg (s.now + 1) u (unstakings s.history) =
    (balancesOf cfg.token.nativeTokenId u s.asset).2.toNat
  free : ∀ u, (balancesOf cfg.token.nativeTokenId u s.asset).1.toNat +
      unstakedFor cfg (s.now + 1) u (unstakings s.history) < 2 ^ 128 →
    (balancesOf cfg.token.nativeTokenId u s'.asset).1.toNat =
      (balancesOf cfg.token.nativeTokenId u s.asset).1.toNat +
        unstakedFor cfg (s.now + 1) u (unstakings s.history)

theorem OnSchedule.block (hexact : cfg.token.balances.Exact) (hinv : OnSchedule s) (hreleasable : Releasable s)
    {external : cfg.External} (hlt : s.now + 1 < 2 ^ 32)
    (hs' : s' = onInitialize (s.now + 1) { s with now := s.now + 1, external := external }) :
    OnSchedule s' ∧ ReleasesDue external s s' := by
  have hdue (u : AccountId) : pendingAt (s.now + 1) u s = unstakedFor cfg (s.now + 1) u (unstakings s.history) :=
    hinv.due (s.now + 1) u (Nat.lt_succ_self _)
  have hframe := onInitialize_frame (s.now + 1) { s with now := s.now + 1, external := external }
  rw [← hs'] at hframe
  have hnow : s'.now = s.now + 1 := by rw [hframe]
  have hhistory : s'.history = s.history := by rw [hframe]
  by_cases hgrace : (s.now + 1) % cfg.dominatorCheckGracePeriod = 0
  · obtain ⟨hfold, -, hreleasing, hnone⟩ :=
      onInitialize_releases hexact (hreleasable.of_block external) hlt hgrace
    rw [← hs'] at hfold hreleasing hnone
    have hzero (u : AccountId) := pendingAt_eq_zero (hnone u)
    refine ⟨⟨fun block u hblock => ?_, fun block u hle => ?_, fun block u value hlookup => ?_⟩,
      ⟨(snapshots (s.now + 1) { s with now := s.now + 1, external := external }).bonuses, ?_⟩, fun u => ?_,
      fun u hfits => ?_⟩
    · rw [hnow] at hblock
      rw [hhistory, pendingAt, hreleasing.elsewhere block u hblock.ne']
      exact hinv.due block u (Nat.lt_of_succ_lt hblock)
    · rw [hnow] at hle
      rcases Nat.le_succ_iff.mp hle with hle | rfl
      · rw [hreleasing.elsewhere block u (Nat.lt_succ_of_le hle).ne]
        exact hinv.overdue block u hle
      · exact hnone u
    · by_cases hblock : block = s.now + 1
      · rw [hblock] at hlookup
        exact absurd ((hnone u).symm.trans hlookup) (by simp)
      · exact hinv.aligned block u value ((hreleasing.elsewhere block u hblock).symm.trans hlookup)
    · rw [snapshots_frame] at hfold
      exact hfold
    · have hreserved := hreleasing.reserved u
      rw [hzero u, Nat.add_zero] at hreserved
      rw [← hdue u]
      exact hreserved
    · rw [← hdue u] at hfits ⊢
      have hfree := hreleasing.free u hfits
      rw [hzero u, Nat.add_zero] at hfree
      exact hfree
  · -- Nothing waits for a block in the middle of a grace period.
    have hempty := hinv.dueEntries_eq_nil hgrace
    have hnone (u : AccountId) : s.pendingUnstakings.lookup (s.now + 1, u) = none := by
      cases hlookup : s.pendingUnstakings.lookup (s.now + 1, u) with
      | none => rfl
      | some value => exact absurd (Nat.mod_eq_zero_of_dvd (hinv.aligned _ u value hlookup)) hgrace
    rw [onInitialize_skip hgrace] at hs'
    subst hs'
    have hzero (u : AccountId) : unstakedFor cfg (s.now + 1) u (unstakings s.history) = 0 :=
      (hdue u).symm.trans (pendingAt_eq_zero (hnone u))
    refine ⟨⟨fun block u hblock => hinv.due block u (Nat.lt_of_succ_lt hblock), fun block u hle => ?_,
      hinv.aligned⟩, ⟨s.bonuses, by rw [hempty]; rfl⟩, fun u => ?_, fun u _ => ?_⟩
    · rcases Nat.le_succ_iff.mp hle with hle | rfl
      · exact hinv.overdue block u hle
      · exact hnone u
    · rw [hzero u]
      rfl
    · rw [hzero u]
      rfl

theorem OnSchedule.move (hexact : cfg.token.balances.Exact)
    (hdvd : cfg.dominatorCheckGracePeriod ∣ unstakeDelayBlocks) (hinv : OnSchedule s)
    (hreleasable : Releasable s) (h : Move s s') (hrange : UnstakesInRange cfg s'.history) : OnSchedule s' := by
  cases h.pendingMove with
  | same h => exact hinv.same h
  | unstake staker d amount h =>
      refine hinv.unstake hdvd h (hrange (staker, s.now, amount) ?_)
      obtain ⟨dominator, -, -, staked, -, staking, -, remain, -, pending, -, hs', -, -⟩ := unstakeFrom_effects h
      rw [hs']
      simp [unstakings]
  | block external hlt hs' => exact (hinv.block hexact hreleasable hlt hs').1

theorem onSchedule_of_visited (hexact : cfg.token.balances.Exact)
    (hdvd : cfg.dominatorCheckGracePeriod ∣ unstakeDelayBlocks) (h : Visited s)
    (hrange : UnstakesInRange cfg s.history) : OnSchedule s := by
  have hinv : Releasable s ∧ (UnstakesInRange cfg s.history → OnSchedule s) := by
    refine h.invariant (fun s => Releasable s ∧ (UnstakesInRange cfg s.history → OnSchedule s)) ?_ ?_
    · rintro s ⟨asset, external, rfl⟩
      refine ⟨releasable_of_visited hexact ⟨_, ⟨asset, external, rfl⟩, .refl⟩, fun _ => ⟨fun _ _ _ => ?_,
        fun _ _ _ => ?_, fun block u value hlookup => ?_⟩⟩
      · simp [pendingAt, State.genesis, unstakedFor, unstakings]
      · simp [State.genesis]
      · exact absurd hlookup (by simp [State.genesis])
    · rintro s s' ⟨hreleasable, ih⟩ hmove
      exact ⟨hreleasable.move hexact hmove, fun hrange =>
        (ih (hrange.of_prefix hmove.history)).move hexact hdvd hreleasable hmove hrange⟩
  exact hinv.2 hrange

/-- In every state of every run whose unstakes are all in range, also in the middle of a call, what waits for a
staker is on record of it and nothing is overdue; and the next block releases to each staker what it has unstaked
for this block. -/
theorem unstaked_released_once (hexact : cfg.token.balances.Exact)
    (hdvd : cfg.dominatorCheckGracePeriod ∣ unstakeDelayBlocks) {start : State cfg}
    (h : Transition.Reachable Init Step start) (hmoves : Relation.ReflTransGen Move start s)
    (hrange : UnstakesInRange cfg s.history) :
    (∀ u, ∑ block ∈ blockNumbers, pendingAt block u s =
      (reserveOf s.reserves .pendingUnstake u cfg.token.nativeTokenId cfg.systemAccount).toNat) ∧
    (∀ block u, block ≤ s.now → s.pendingUnstakings.lookup (block, u) = none) ∧
    ∀ external, s.now + 1 < 2 ^ 32 → ReleasesDue external s
      (onInitialize (s.now + 1) { s with now := s.now + 1, external := external }) := by
  obtain ⟨s₀, hinit, hrun⟩ := visited_of_reachable h
  have hvisited : Visited s := ⟨s₀, hinit, hrun.trans hmoves⟩
  have hreleasable := releasable_of_visited hexact hvisited
  have hschedule := onSchedule_of_visited hexact hdvd hvisited hrange
  exact ⟨hreleasable.recorded, hschedule.overdue, fun external hlt =>
    (hschedule.block hexact hreleasable hlt rfl).2⟩

/-! ### An unstake that is never released -/

/-- The operator stakes and unstakes. -/
def unstakeRun : List (Action (plainConfig [])) := [
  .call 1 (.register [100, 101, 120]) (.signed operator), .call 1 (.launch operator) .root,
  .call 1 (.stake operator 1) (.signed operator), .call 1 (.unstake operator 1) (.signed operator)]

theorem unstaked_released_once_early : ∃ s : State (plainConfig []), Transition.Reachable Init Step s ∧
    ReleasesDue () s (onInitialize (s.now + 1) { s with now := s.now + 1, external := () }) := by
  obtain ⟨s, hs, hcheck⟩ := exists_of_succeedsWith
    (x := play (.block :: unstakeRun) (.genesis (plainAssets 100) ()))
    (p := fun s => decide (s.now + 1 < 2 ^ 32) && (unstakings s.history).all fun x =>
      decide (gracePeriodOf (plainConfig []) x.2.1 + unstakeDelayBlocks < 2 ^ 32))
    (by decide +kernel)
  have hreach : Transition.Reachable Init Step s := reachable_of_play hs
  obtain ⟨hlt, hall⟩ := (Bool.and_eq_true_iff).mp hcheck
  have hrange : UnstakesInRange (plainConfig []) s.history := fun x hx =>
    of_decide_eq_true (List.all_eq_true.mp hall x hx)
  refine ⟨s, hreach, ?_⟩
  exact (unstaked_released_once Balances.plain_exact (one_dvd unstakeDelayBlocks) hreach .refl hrange).2.2 ()
    (of_decide_eq_true hlt)

/-- The key of a late unstake is block `0`, which is over. -/
theorem late_unstake_stays : ∃ s : State (plainConfig []), Transition.Reachable Init Step s ∧
    ¬ ∀ block u, block ≤ s.now → s.pendingUnstakings.lookup (block, u) = none := by
  have hlt : 2 ^ 32 - unstakeDelayBlocks < 2 ^ 32 := by decide
  obtain ⟨s, hs, hcheck⟩ := exists_of_succeedsWith
    (x := play unstakeRun { State.genesis (plainAssets 100) () with now := 2 ^ 32 - unstakeDelayBlocks })
    (p := fun s => decide (s.pendingUnstakings.lookup (0, operator) = some 1)) (by decide +kernel)
  obtain ⟨s₀, hinit, hrun⟩ := @reachable_genesis_at (plainConfig []) (plainAssets 100) () _ hlt
  refine ⟨s, ⟨s₀, hinit, hrun.trans (play_steps hs)⟩, fun hnone => ?_⟩
  exact absurd ((hnone 0 operator (Nat.zero_le _)).symm.trans (of_decide_eq_true hcheck)) (by simp)

end Fusotao.Verifier
