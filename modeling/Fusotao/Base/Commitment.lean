import Mathlib.Data.List.Nodup
import Mathlib.Tactic.Basic

/-!
# Commitments to maps

A root commits to a map from keys to values. One proof opens two roots at the same keys, with the values
before and after: if the verifier accepts both, the maps hold these values and differ nowhere else.
-/

namespace Commitment

variable {ρ κ ν : Type}

/-- The map moves from `old` to `new` at the listed keys, and nowhere else. -/
structure Moved (old new : κ → ν) (leaves : List (κ × ν × ν)) : Prop where
  nodup : (leaves.map fun leaf => leaf.1).Nodup
  before : ∀ leaf ∈ leaves, old leaf.1 = leaf.2.1
  after : ∀ leaf ∈ leaves, new leaf.1 = leaf.2.2
  elsewhere : ∀ k, (∀ leaf ∈ leaves, leaf.1 ≠ k) → new k = old k

/-- What an accepted pair of openings says of the maps `tree` that the roots commit to. -/
def Sound (verify : List UInt8 → ρ → List (κ × ν) → Option Bool) (tree : ρ → κ → ν) : Prop :=
  ∀ proof r r' (leaves : List (κ × ν × ν)),
    verify proof r (leaves.map fun leaf => (leaf.1, leaf.2.1)) = some true →
    verify proof r' (leaves.map fun leaf => (leaf.1, leaf.2.2)) = some true →
    Moved (tree r) (tree r') leaves

/-! ### A verifier for maps that are known

The proof is the list of the values at the other keys of a finite `domain`. -/

section Table

variable [DecidableEq κ] [DecidableEq ν] (domain : List κ) (tree : ρ → κ → ν)
  (encode : List ν → List UInt8)

/-- The values at the keys that are not opened. -/
def siblings (r : ρ) (keys : List κ) : List ν := (domain.filter fun k => k ∉ keys).map (tree r)

def tableVerify (proof : List UInt8) (r : ρ) (leaves : List (κ × ν)) : Option Bool :=
  some (decide ((leaves.map Prod.fst).Nodup ∧ (∀ leaf ∈ leaves, tree r leaf.1 = leaf.2) ∧
    proof = encode (siblings domain tree r (leaves.map Prod.fst))))

variable {domain tree encode}

theorem tableVerify_sound (hoff : ∀ r r' k, k ∉ domain → tree r' k = tree r k)
    (hencode : ∀ l l', l.length = l'.length → encode l = encode l' → l = l') :
    Sound (tableVerify domain tree encode) tree := by
  intro proof r r' leaves hold hnew
  have hkeys : ∀ f : κ × ν × ν → ν,
      (leaves.map fun leaf => (leaf.1, f leaf)).map Prod.fst = leaves.map fun leaf => leaf.1 := by
    intro f
    rw [List.map_map]
    rfl
  simp only [tableVerify, Option.some.injEq, decide_eq_true_eq, hkeys] at hold hnew
  obtain ⟨hnodup, hold, hproof⟩ := hold
  obtain ⟨-, hnew, hproof'⟩ := hnew
  refine ⟨hnodup, fun leaf hleaf => hold _ (List.mem_map_of_mem hleaf),
    fun leaf hleaf => hnew _ (List.mem_map_of_mem hleaf), fun k hk => ?_⟩
  have hsiblings := hencode _ _ (by simp [siblings]) (hproof.symm.trans hproof')
  by_cases hmem : k ∈ domain
  · have hother : k ∈ domain.filter fun k => k ∉ leaves.map fun leaf => leaf.1 := by
      refine List.mem_filter.mpr ⟨hmem, decide_eq_true fun hlisted => ?_⟩
      obtain ⟨leaf, hleaf, hkey⟩ := List.mem_map.mp hlisted
      exact hk leaf hleaf hkey
    exact (List.map_inj_left.mp hsiblings k hother).symm
  · exact hoff r r' k hmem

end Table

end Commitment
