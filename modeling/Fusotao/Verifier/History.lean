import Fusotao.Verifier.Moves
import Fusotao.Verifier.Plain

/-!
# The history of a tree

The roots a dominator's tree goes through, one applied proof after the other. A callback may come back to
the pallet before the root of its proof is stored; as long as no proof of the same dominator is applied
then, every proof starts from the root the one before it has led to.
-/

namespace Fusotao.Verifier

open Exec MerkleLeaf Transition
open Token (alice)

variable {cfg : Config} {s s' : State cfg} {d : AccountId}

/-- The root before and after each applied proof of a dominator, in the order the effects were applied. -/
def treeSteps {Callback : Type} (d : AccountId) (history : List (Entry Callback)) :
    List (MerkleHash × MerkleHash) :=
  history.filterMap fun entry =>
    match entry with
    | .applied d' knownRoot proof _ => if d' = d then some (knownRoot, proof.root) else none
    | _ => none

/-- A proof of `d` was applied before the root of an earlier one was stored. -/
def Entry.reentrantAt {Callback : Type} (d : AccountId) : Entry Callback → Bool
  | .applied d' _ _ reentrant => d' = d ∧ reentrant
  | _ => false

def NoReentry {Callback : Type} (d : AccountId) (history : List (Entry Callback)) : Prop :=
  ∀ entry ∈ history, entry.reentrantAt d = false

/-- The root that is stored for a dominator; the tree is empty before it registers. -/
def rootOf (d : AccountId) (s : State cfg) : MerkleHash :=
  match s.dominators.lookup d with
  | some dominator => dominator.merkleRoot
  | none => emptyRoot

/-- The roots of a dominator that are not stored yet, the last one first. -/
def pendingOf (d : AccountId) (s : State cfg) : List MerkleHash :=
  s.pending.filterMap fun p => if p.1 = d then some p.2 else none

/-- The root after the proof that was applied last. -/
def tipOf (d : AccountId) (s : State cfg) : MerkleHash := (pendingOf d s).head?.getD (rootOf d s)

/-! ### What the moves do to a tree -/

@[simp] theorem treeSteps_append {Callback : Type} (d : AccountId) (l l' : List (Entry Callback)) :
    treeSteps d (l ++ l') = treeSteps d l ++ treeSteps d l' := List.filterMap_append

theorem treeSteps_settledEntries (staker d' : AccountId) (dist : Distribution) :
    treeSteps d (@settledEntries cfg staker d' dist) = [] := by
  simp [treeSteps, settledEntries, List.filterMap_map]

theorem treeSteps_stakedEntries (staker d' : AccountId) (dist : Distribution) :
    treeSteps d (@stakedEntries cfg staker d' dist) = [] := by
  unfold stakedEntries
  split
  · exact treeSteps_settledEntries staker d' dist
  · rfl

theorem rootOf_of_lookup {dominator : Dominator} (h : s.dominators.lookup d = some dominator) :
    rootOf d s = dominator.merkleRoot := by
  rw [rootOf, h]

/-- A dominator that is written with the root it had keeps it. -/
theorem rootOf_insert {d' : AccountId} {dominator : Dominator}
    (hdominators : s'.dominators = s.dominators.insert d' dominator)
    (hroot : dominator.merkleRoot = rootOf d' s) (d : AccountId) : rootOf d s' = rootOf d s := by
  rw [rootOf, hdominators, IterMap.lookup_insert]
  split_ifs with hd
  · rw [hd]
    exact hroot
  · rfl

/-- The tree of `d` is as before: nothing is applied, and nothing is stored. -/
structure SameTree (d : AccountId) (s s' : State cfg) : Prop where
  steps : treeSteps d s'.history = treeSteps d s.history
  root : rootOf d s' = rootOf d s
  pending : s'.pending = s.pending

theorem SameTree.tip (h : SameTree d s s') : tipOf d s' = tipOf d s := by
  rw [tipOf, tipOf, pendingOf, pendingOf, h.root, h.pending]

/-- A move either leaves a tree alone, or applies a proof of some dominator, or stores its root. -/
theorem Move.trees (h : Move s s') : (∀ d, SameTree d s s') ∨
    (∃ d dominator proof mid, s.dominators.lookup d = some dominator ∧
      checkOpenings cfg dominator.merkleRoot proof = .ok () ∧ Applied d proof s mid ∧
      s' = recordApplied d dominator.merkleRoot proof mid) ∨
    ∃ d proof rest, s.pending = (d, proof.root) :: rest ∧ storeRoot d proof s = .ok s' := by
  cases h with
  | register h =>
      obtain ⟨hnone, dominator, -, -, hroot, -, rfl⟩ := register_eq_ok h
      refine .inl fun d => ⟨rfl, rootOf_insert rfl ?_ d, rfl⟩
      rw [hroot, rootOf, hnone]
      rfl
  | evict h =>
      obtain ⟨dominator, hlookup, rfl⟩ := evict_eq_ok h
      refine .inl fun d => ⟨rfl, rootOf_insert rfl ?_ d, rfl⟩
      exact (rootOf_of_lookup hlookup).symm
  | launch h =>
      obtain ⟨dominator, hlookup, -, rfl⟩ := launch_eq_ok h
      refine .inl fun d => ⟨rfl, rootOf_insert rfl ?_ d, rfl⟩
      exact (rootOf_of_lookup hlookup).symm
  | outside | assets => exact .inl fun d => ⟨rfl, rfl, rfl⟩
  | authorize h =>
      rw [authorizeTo_frame h]
      exact .inl fun d => ⟨rfl, rfl, rfl⟩
  | revoke h =>
      rw [revokeFrom_frame h]
      exact .inl fun d => ⟨rfl, rfl, rfl⟩
  | stake h =>
      obtain ⟨dominator, hlookup, -, hs', -⟩ := stakeOn_effects h
      rw [hs']
      refine .inl fun d => ⟨?_, rootOf_insert rfl ?_ d, rfl⟩
      · simp only [treeSteps_append, treeSteps_stakedEntries, List.append_nil]
        exact List.append_nil _
      · exact (rootOf_of_lookup hlookup).symm
  | unstake h =>
      obtain ⟨dominator, hlookup, -, staked, -, staking, -, remain, -, pending, -, hs', -, -⟩ :=
        unstakeFrom_effects h
      rw [hs']
      refine .inl fun d => ⟨?_, rootOf_insert rfl ?_ d, rfl⟩
      · simp only [treeSteps_append, treeSteps_settledEntries, List.append_nil]
        exact List.append_nil _
      · exact (rootOf_of_lookup hlookup).symm
  | claim h =>
      obtain ⟨dominator, -, staking, -, hs'⟩ := claimShares_effects h
      rw [hs']
      refine .inl fun d => ⟨?_, rfl, rfl⟩
      simp only [treeSteps_append, treeSteps_settledEntries, List.append_nil]
  | apply hlookup hopenings hbonuses h => exact .inr (.inl ⟨_, _, _, _, hlookup, hopenings, h, rfl⟩)
  | reject =>
      refine .inl fun d => ⟨?_, rfl, rfl⟩
      rw [dropReceipt, treeSteps_append]
      exact List.append_nil _
  | store hpending h => exact .inr (.inr ⟨_, _, _, hpending, h⟩)
  | block =>
      rw [onInitialize_frame]
      exact .inl fun d => ⟨rfl, rfl, rfl⟩

/-- The effects of a proof of `d` are applied. -/
def AppliesAt (d : AccountId) (s s' : State cfg) : Prop :=
  ∃ dominator proof mid, s.dominators.lookup d = some dominator ∧
    checkOpenings cfg dominator.merkleRoot proof = .ok () ∧ Applied d proof s mid ∧
    s' = recordApplied d dominator.merkleRoot proof mid

/-- A tree moves on when a proof is applied, and only then. -/
theorem Move.tree_eq (h : Move s s') (hone : (pendingOf d s).length ≤ 1) (happly : ¬ AppliesAt d s s') :
    tipOf d s' = tipOf d s ∧ treeSteps d s'.history = treeSteps d s.history ∧
      (pendingOf d s').length ≤ 1 := by
  rcases h.trees with hsame | ⟨d', dominator, proof, mid, hlookup, hopenings, happlied, rfl⟩ |
    ⟨d', proof, rest, hpending, hstore⟩
  · obtain hd := hsame d
    refine ⟨hd.tip, hd.steps, ?_⟩
    rwa [pendingOf, hd.pending]
  · have hd : d' ≠ d := by
      rintro rfl
      exact happly ⟨dominator, proof, mid, hlookup, hopenings, happlied, rfl⟩
    have hpendingOf : pendingOf d (recordApplied d' dominator.merkleRoot proof mid) = pendingOf d s := by
      rw [happlied.frame]
      simp [pendingOf, recordApplied, hd]
    refine ⟨?_, ?_, hpendingOf.symm ▸ hone⟩
    · rw [tipOf, tipOf, hpendingOf, happlied.frame]
      rfl
    · rw [happlied.frame]
      simp [treeSteps, recordApplied, hd]
  · obtain ⟨dominator, hlookup, rfl⟩ := storeRoot_eq_ok hstore
    by_cases hd : d' = d
    · -- The root that is stored is the tip.
      subst hd
      have hpendingOf : pendingOf d' s = proof.root :: rest.filterMap fun p =>
          if p.1 = d' then some p.2 else none := by
        simp [pendingOf, hpending]
      rw [hpendingOf, List.length_cons] at hone
      have hrest : (rest.filterMap fun p => if p.1 = d' then some p.2 else none) = [] :=
        List.length_eq_zero_iff.mp (by omega)
      refine ⟨?_, rfl, ?_⟩
      · simp only [tipOf, pendingOf, hpending, List.tail_cons, hrest]
        simp [rootOf]
      · simp [pendingOf, hpending, hrest]
    · have hpendingOf : rest.filterMap (fun p => if p.1 = d then some p.2 else none) = pendingOf d s := by
        simp [pendingOf, hpending, hd]
      refine ⟨?_, rfl, ?_⟩
      · simp only [tipOf, pendingOf, hpending, List.tail_cons, hpendingOf]
        simp [rootOf, AList.lookup_insert_ne (Ne.symm hd), hd]
      · simpa [pendingOf, hpending] using hpendingOf.symm ▸ hone

/-- A proof that is not applied within an earlier one starts from the tip of its tree. -/
theorem AppliesAt.advance (h : AppliesAt d s s') (hre : NoReentry d s'.history) :
    ∃ dominator proof mid, s.dominators.lookup d = some dominator ∧
      checkOpenings cfg dominator.merkleRoot proof = .ok () ∧ Applied d proof s mid ∧
      s' = recordApplied d dominator.merkleRoot proof mid ∧ dominator.merkleRoot = tipOf d s ∧
      tipOf d s' = proof.root ∧ pendingOf d s' = [proof.root] ∧
      treeSteps d s'.history = treeSteps d s.history ++ [(dominator.merkleRoot, proof.root)] := by
  obtain ⟨dominator, proof, mid, hlookup, hopenings, happlied, rfl⟩ := h
  have hframe := happlied.frame
  have hnone : ∀ p ∈ s.pending, p.1 ≠ d := by
    intro p hp hpd
    have hany : (mid.pending.any fun p => p.1 = d) = true := by
      rw [hframe]
      exact List.any_eq_true.mpr ⟨p, hp, by simpa using hpd⟩
    have hentry := hre _ (List.mem_append_right _ (List.mem_singleton_self _))
    simp [Entry.reentrantAt, hany] at hentry
  have hpendingOf : pendingOf d s = [] := by
    refine List.filterMap_eq_nil_iff.mpr fun p hp => ?_
    rw [if_neg (hnone p hp)]
  have hpendingOf' : pendingOf d (recordApplied d dominator.merkleRoot proof mid) = [proof.root] := by
    rw [hframe]
    have : pendingOf d (recordApplied d dominator.merkleRoot proof s) = proof.root :: pendingOf d s := by
      simp [pendingOf, recordApplied]
    rw [hpendingOf] at this
    exact this
  refine ⟨dominator, proof, mid, hlookup, hopenings, happlied, rfl, ?_, ?_, hpendingOf', ?_⟩
  · rw [tipOf, hpendingOf, rootOf_of_lookup hlookup]
    rfl
  · rw [tipOf, hpendingOf']
    rfl
  · rw [hframe]
    simp [treeSteps, recordApplied]

/-! ### Runs -/

theorem NoReentry.of_prefix {Callback : Type} {l l' : List (Entry Callback)} (h : NoReentry d l')
    (hpart : l <+: l') : NoReentry d l :=
  fun entry hmem => h entry (hpart.subset hmem)

/-- The steps of a tree are linked, up to its tip. -/
structure LinearTree (d : AccountId) (s : State cfg) : Prop where
  linked : Linked emptyRoot (treeSteps d s.history) (tipOf d s)
  one : (pendingOf d s).length ≤ 1

theorem LinearTree.move (hinv : LinearTree d s) (h : Move s s') (hre : NoReentry d s'.history) :
    LinearTree d s' := by
  by_cases happly : AppliesAt d s s'
  · obtain ⟨dominator, proof, mid, -, -, -, -, hroot, htip, hpending, hsteps⟩ := happly.advance hre
    refine ⟨?_, by simp [hpending]⟩
    rw [hsteps, htip]
    exact linked_snoc hinv.linked hroot
  · obtain ⟨htip, hsteps, hone⟩ := h.tree_eq hinv.one happly
    exact ⟨htip.symm ▸ hsteps.symm ▸ hinv.linked, hone⟩

theorem linearTree_of_visited (h : Visited s) (hre : NoReentry d s.history) : LinearTree d s := by
  refine h.invariant (fun s => NoReentry d s.history → LinearTree d s) ?_ ?_ hre
  · rintro s ⟨asset, external, rfl⟩ -
    exact ⟨rfl, Nat.zero_le 1⟩
  · intro s s' ih hmove hre
    exact (ih (hre.of_prefix hmove.history)).move hmove hre

/-- In every run without re-entry, each proof of a dominator starts from the root that the one before it
leads to, the first one from the empty tree, and the root of the last one is stored. -/
theorem proof_history_linear {dominator : Dominator} (h : Reachable Init Step s)
    (hre : NoReentry d s.history) (hd : s.dominators.lookup d = some dominator) :
    Linked emptyRoot (treeSteps d s.history) dominator.merkleRoot := by
  have hlinked := (linearTree_of_visited (visited_of_reachable h) hre).linked
  rwa [tipOf, pendingOf, pending_of_reachable h, List.filterMap_nil, List.head?_nil, Option.getD_none,
    rootOf_of_lookup hd] at hlinked

/-! ### A callback that comes back

The operator withdraws, and the callback of the withdrawal brings in a deposit of another account. The deposit
starts from the root before the withdrawal, and the root of the withdrawal replaces its own. -/

def depositRoot : MerkleHash := List.Vector.replicate 32 1

def withdrawalRoot : MerkleHash := List.Vector.replicate 32 2

def forgottenRoot : MerkleHash := List.Vector.replicate 32 3

def reentryListings : List Listing := [
  ⟨depositRoot, [(keyOfAccount 0 operator, halves 10 0)]⟩,
  ⟨withdrawalRoot, [(keyOfAccount 0 operator, halves 6 0)]⟩,
  ⟨forgottenRoot, [(keyOfAccount 0 operator, halves 10 0), (keyOfAccount 0 alice, halves 5 0)]⟩]

abbrev reentryConfig : Config := plainConfig reentryListings

def depositProof : ProofV2 := proofOf reentryListings emptyRoot depositRoot operator (.transferIn 0 10)
  [leafFrom (keyOfAccount 0 operator) (0, 0) (10, 0)]

def withdrawalProof : ProofV2 :=
  proofOf reentryListings depositRoot withdrawalRoot operator (.transferOut 0 4)
    [leafFrom (keyOfAccount 0 operator) (10, 0) (6, 0)]

def forgottenProof : ProofV2 := proofOf reentryListings depositRoot forgottenRoot alice (.transferIn 0 5)
  [leafFrom (keyOfAccount 0 alice) (0, 0) (5, 0)]

/-- The operator comes online, and its own deposit is proved. -/
def depositRun : List (Action reentryConfig) := onlineRun _ ++ [
  .call 1 (.authorize operator 0 10) (.signed operator),
  .call 1 (.verifyV2 [depositProof]) (.signed operator)]

def reentryRun : List (Action reentryConfig) := depositRun ++ [
  .call 1 (.authorize operator 0 5) (.signed alice),
  .call 1 (.revokeWithCallback operator 0 4 (.verifyV2 [forgottenProof])) (.signed operator),
  .call 2 (.verifyV2 [withdrawalProof]) (.signed operator)]

theorem proof_history_linear_deposit : ∃ (s : State reentryConfig) (dominator : Dominator),
    Reachable Init Step s ∧ NoReentry operator s.history ∧
    s.dominators.lookup operator = some dominator ∧
    Linked emptyRoot (treeSteps operator s.history) dominator.merkleRoot := by
  obtain ⟨s, hs, hcheck⟩ := exists_of_succeedsWith
    (x := play depositRun (.genesis (plainAssets 100) ()))
    (p := fun s => (s.dominators.lookup operator).isSome &&
      s.history.all fun entry => !entry.reentrantAt operator) (by decide +kernel)
  obtain ⟨hsome, hall⟩ := Bool.and_eq_true_iff.mp hcheck
  obtain ⟨dominator, hd⟩ := Option.isSome_iff_exists.mp hsome
  have hreach := reachable_of_play hs
  have hre : NoReentry operator s.history := fun entry hentry => by
    simpa using List.all_eq_true.mp hall entry hentry
  exact ⟨s, dominator, hreach, hre, hd, proof_history_linear hreach hre hd⟩

/-- The deposit was applied, and the stored root does not know of it. -/
theorem reentry_forgets_root : ∃ (s : State reentryConfig) (dominator : Dominator),
    Reachable Init Step s ∧ s.dominators.lookup operator = some dominator ∧
    (depositRoot, forgottenRoot) ∈ treeSteps operator s.history ∧
    dominator.merkleRoot = withdrawalRoot ∧
    ¬ Linked emptyRoot (treeSteps operator s.history) dominator.merkleRoot := by
  obtain ⟨s, hs, hcheck⟩ := exists_of_succeedsWith
    (x := play reentryRun (.genesis (plainAssets 100) ()))
    (p := fun s => decide ((s.dominators.lookup operator).map Dominator.merkleRoot = some withdrawalRoot) &&
      decide (treeSteps operator s.history = [(emptyRoot, depositRoot), (depositRoot, withdrawalRoot),
        (depositRoot, forgottenRoot)])) (by decide +kernel)
  obtain ⟨hroot, hsteps⟩ := Bool.and_eq_true_iff.mp hcheck
  obtain ⟨dominator, hd, hroot⟩ := Option.map_eq_some_iff.mp (of_decide_eq_true hroot)
  refine ⟨s, dominator, reachable_of_play hs, hd, ?_, hroot, ?_⟩
  · rw [of_decide_eq_true hsteps]
    simp
  · rw [of_decide_eq_true hsteps, hroot]
    decide +kernel

end Fusotao.Verifier
