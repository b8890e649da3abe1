import Fusotao.Verifier.History
import Fusotao.Verifier.Solvency
import Fusotao.Verifier.Stash

/-!
# Leaving an evicted dominator

What an owner has with an evicted dominator is no longer subject to proofs. It is released by a call of the
owner, but the call looks at what is authorised before it adds the stash.
-/

namespace Fusotao.Verifier

open Exec Word
open Token (OnlyAt alice balancesOf reservedBalance)

variable {cfg : Config} {s s' : State cfg} {owner d : AccountId} {token : TokenId} {amount : U128}

/-! ### The stash joins what is authorised -/

theorem mergeStash_ok (hfits : amounts s.reserves ((.authorizing, owner, token), d) +
    amounts s.reserves ((.authorizingStash, owner, token), d) < 2 ^ 128) :
    ∃ s', mergeStash owner d token s = .ok s' := by
  unfold mergeStash
  dsimp only
  split
  · have hrest : (reserveOf (s.reserves.remove ((.authorizingStash, owner, token), d)) .authorizing owner
        token d).toNat = amounts s.reserves ((.authorizing, owner, token), d) := by
      rw [toNat_reserveOf, amounts_remove, Function.update_of_ne (by simp)]
    rw [checkedAdd, if_pos (by rw [hrest]; exact hfits)]
    exact ⟨_, rfl⟩
  · exact ⟨_, rfl⟩

/-! ### What an owner has with a dominator -/

/-- What is recorded as authorised to a dominator or as stashed for it. -/
def entrusted (d owner : AccountId) (token : TokenId) (s : State cfg) : Nat :=
  amounts s.reserves ((.authorizing, owner, token), d) +
    amounts s.reserves ((.authorizingStash, owner, token), d)

/-- The two records of an owner are on record of it. -/
theorem entrusted_le_onRecord (d owner : AccountId) (token : TokenId) (s : State cfg) :
    entrusted d owner token s ≤ onRecord owner token s.reserves := by
  have hupdate := onRecord_update (amounts_remove s.reserves ((.authorizingStash, owner, token), d))
  have hrest := amounts_le_onRecord (s.reserves.remove ((.authorizingStash, owner, token), d)) .authorizing
    owner token d
  rw [amounts_remove, Function.update_of_ne (by simp)] at hrest
  unfold entrusted
  omega

/-- An amount leaves the dominator and is free. -/
structure Released (d owner : AccountId) (token : TokenId) (amount : U128) (s s' : State cfg) : Prop where
  free : (balancesOf token owner s'.asset).1.toNat = (balancesOf token owner s.asset).1.toNat + amount.toNat
  left : entrusted d owner token s' + amount.toNat = entrusted d owner token s
  records : ∀ key, key ≠ ((.authorizing, owner, token), d) → key ≠ ((.authorizingStash, owner, token), d) →
    amounts s'.reserves key = amounts s.reserves key
  elsewhere : OnlyAt token owner s.asset s'.asset

theorem Custody.entrusted_le (hinv : Custody s) (d owner : AccountId) (token : TokenId) :
    entrusted d owner token s ≤ (reservedBalance token owner s.asset).toNat :=
  (entrusted_le_onRecord d owner token s).trans (hinv.solvent owner token)

section Revoke

variable {dominator : Dominator} {callback : Option cfg.Call}

/-- What is authorised is released, together with nothing else. -/
theorem revokeFrom_evicted (hexact : cfg.token.balances.Exact) (hinv : Custody s)
    (hd : s.dominators.lookup d = some dominator) (hevicted : dominator.status = .evicted)
    (hamount : amount ≠ 0) (hle : amount.toNat ≤ amounts s.reserves ((.authorizing, owner, token), d))
    (hfits : (balancesOf token owner s.asset).1.toNat + amount.toNat < 2 ^ 128) :
    ∃ s', revokeFrom owner d token (some amount) callback s = .ok s' ∧ Released d owner token amount s s' := by
  have hentrusted := hinv.entrusted_le d owner token
  have hword := (reservedBalance token owner s.asset).isLt
  obtain ⟨mid, hmid⟩ := @mergeStash_ok cfg s owner d token (Nat.lt_of_le_of_lt hentrusted hword)
  obtain ⟨hframe, hreserves⟩ := mergeStash_eq_ok hmid
  have hasset : mid.asset = s.asset := by rw [hframe]
  have hmerged : amounts mid.reserves ((.authorizing, owner, token), d) = entrusted d owner token s := by
    rw [hreserves, Function.update_self]
    rfl
  have hrecord : amount.toNat ≤ amounts mid.reserves ((.authorizing, owner, token), d) := by
    rw [hmerged]
    exact hle.trans (Nat.le_add_right _ _)
  obtain ⟨last, hlast⟩ := unreserve_ok hrecord (by
    rw [hasset]
    exact Token.unreserve_ok ((hmerged ▸ hrecord).trans hentrusted) fun _ => hfits)
  obtain ⟨hframe', -, hreserves', hunreserve⟩ := unreserve_eq_ok hlast
  rw [hasset] at hunreserve
  refine ⟨{ last with receipts := last.receipts.remove (d, owner) }, ?_, ?_⟩
  · have hzero : ¬ (some amount).getD (reserveOf s.reserves .authorizing owner token d) = 0 := hamount
    have hmore : hasAuthorizedMorethan owner token amount d s.reserves = true := decide_eq_true hle
    unfold revokeFrom
    dsimp only
    rw [if_neg hzero, Option.getD_some, hmore, ensure, if_pos rfl, ok_bind, hd, okOr_some, ok_bind, ensure,
      if_pos (by rw [hevicted]; decide), ok_bind, if_pos hevicted, hmid, ok_bind, hlast]
    rfl
  · refine ⟨Token.unreserve_free hexact hunreserve hfits, ?_, fun key hkey hstash => ?_,
      (Token.unreserve_eq_ok hexact.toLawful hunreserve).2⟩
    · have hstash : amounts last.reserves ((.authorizingStash, owner, token), d) = 0 := by
        rw [hreserves', Function.update_of_ne (by simp), hreserves, Function.update_of_ne (by simp),
          Function.update_self]
      have hleft : amounts last.reserves ((.authorizing, owner, token), d) + amount.toNat =
          entrusted d owner token s := by
        rw [hreserves', Function.update_self, Nat.sub_add_cancel hrecord, hmerged]
      change amounts last.reserves _ + amounts last.reserves _ + _ = _
      rw [hstash, Nat.add_zero, hleft]
    · change amounts last.reserves key = _
      rw [hreserves', Function.update_of_ne hkey, hreserves, Function.update_of_ne hkey,
        Function.update_of_ne hstash]

/-- What is only stashed is refused. -/
theorem revokeFrom_refused (hamount : amount ≠ 0)
    (hlt : amounts s.reserves ((.authorizing, owner, token), d) < amount.toNat) :
    revokeFrom owner d token (some amount) callback s = .error VerifierError.insufficientBalance := by
  have hzero : ¬ (some amount).getD (reserveOf s.reserves .authorizing owner token d) = 0 := hamount
  have hless : hasAuthorizedMorethan owner token amount d s.reserves = false :=
    decide_eq_false (Nat.not_le_of_lt hlt)
  unfold revokeFrom
  dsimp only
  rw [if_neg hzero, Option.getD_some, hless]
  rfl

/-- An owner can take a positive amount from an evicted dominator if and only if the amount is authorised, the stash
not counted, and the free balance has room for it. -/
theorem revoke_from_evicted_iff (hexact : cfg.token.balances.Exact) (h : Transition.Reachable Init Step s)
    (hd : s.dominators.lookup d = some dominator) (hevicted : dominator.status = .evicted)
    (hamount : amount ≠ 0) :
    (∃ s', revokeFrom owner d token (some amount) callback s = .ok s' ∧
        Released d owner token amount s s') ↔
      amount.toNat ≤ amounts s.reserves ((.authorizing, owner, token), d) ∧
        (balancesOf token owner s.asset).1.toNat + amount.toNat < 2 ^ 128 := by
  constructor
  · rintro ⟨s', hrevoke, hreleased⟩
    refine ⟨?_, hreleased.free ▸ BitVec.isLt _⟩
    simp only [revokeFrom, Option.getD_some, if_neg hamount, bind_eq_ok, ensure_eq_ok, exists_const,
      hasAuthorizedMorethan, decide_eq_true_eq] at hrevoke
    exact hrevoke.1
  · rintro ⟨hauthorized, hfits⟩
    exact revokeFrom_evicted hexact (custody_of_visited hexact.toLawful (visited_of_reachable h)) hd hevicted
      hamount hauthorized hfits

end Revoke

/-! ### Everything that is authorised -/

/-- Something is authorised if something is stashed. -/
def Retrievable (d owner : AccountId) (token : TokenId) (s : State cfg) : Prop :=
  amounts s.reserves ((.authorizing, owner, token), d) = 0 →
    amounts s.reserves ((.authorizingStash, owner, token), d) = 0

/-- What was authorised is free, and what was stashed is all that is authorised. -/
structure TookBack (d owner : AccountId) (token : TokenId) (s s' : State cfg) : Prop where
  held : (balancesOf token owner s'.asset).1.toNat + entrusted d owner token s' =
    (balancesOf token owner s.asset).1.toNat + entrusted d owner token s
  entrusted : entrusted d owner token s' = amounts s.reserves ((.authorizingStash, owner, token), d)
  stash : amounts s'.reserves ((.authorizingStash, owner, token), d) = 0
  records : ∀ key, key ≠ ((.authorizing, owner, token), d) → key ≠ ((.authorizingStash, owner, token), d) →
    amounts s'.reserves key = amounts s.reserves key
  elsewhere : OnlyAt token owner s.asset s'.asset
  dominators : s'.dominators = s.dominators

/-- Nothing stays in the stash of an evicted dominator, nor does a dominator change. -/
theorem revokeFrom_merges {dominator : Dominator} {callback : Option cfg.Call}
    (hd : s.dominators.lookup d = some dominator) (hevicted : dominator.status = .evicted) (hamount : amount ≠ 0)
    (h : revokeFrom owner d token (some amount) callback s = .ok s') :
    amounts s'.reserves ((.authorizingStash, owner, token), d) = 0 ∧ s'.dominators = s.dominators := by
  simp only [revokeFrom, Option.getD_some, if_neg hamount, hd, okOr_some, ok_bind, if_pos hevicted, bind_eq_ok,
    ensure_eq_ok, pure_eq_ok, exists_const] at h
  obtain ⟨-, -, mid, hmid, last, hlast, rfl⟩ := h
  obtain ⟨hframe, hreserves⟩ := mergeStash_eq_ok hmid
  obtain ⟨hframe', -, hreserves', -⟩ := unreserve_eq_ok hlast
  constructor
  · change amounts last.reserves _ = 0
    rw [hreserves', Function.update_of_ne (by simp), hreserves, Function.update_of_ne (by simp),
      Function.update_self]
  · change last.dominators = _
    rw [hframe', hframe]

/-- Everything that is authorised comes back, if the stash does not stand in the way. -/
theorem revokeFrom_everything {dominator : Dominator} {callback : Option cfg.Call}
    (hexact : cfg.token.balances.Exact) (hinv : Custody s)
    (hd : s.dominators.lookup d = some dominator) (hevicted : dominator.status = .evicted)
    (hretrievable : Retrievable d owner token s)
    (hfits : (balancesOf token owner s.asset).1.toNat + entrusted d owner token s < 2 ^ 128) :
    ∃ s', revokeFrom owner d token none callback s = .ok s' ∧ TookBack d owner token s s' := by
  by_cases hzero : reserveOf s.reserves .authorizing owner token d = 0
  · have hauthorized : amounts s.reserves ((.authorizing, owner, token), d) = 0 := by
      rw [← toNat_reserveOf, hzero]
      rfl
    have hstash := hretrievable hauthorized
    refine ⟨s, if_pos hzero, rfl, ?_, hstash, fun _ _ _ => rfl, .refl _ _ _, rfl⟩
    rw [Verifier.entrusted, hauthorized, hstash]
  · have hle : amounts s.reserves ((.authorizing, owner, token), d) ≤ Verifier.entrusted d owner token s :=
      Nat.le_add_right _ _
    obtain ⟨s', hrevoke, hreleased⟩ := @revokeFrom_evicted cfg s owner d token _ dominator callback hexact hinv hd
      hevicted hzero le_rfl (Nat.lt_of_le_of_lt (Nat.add_le_add_left hle _) hfits)
    obtain ⟨hstash, hdominators⟩ := revokeFrom_merges hd hevicted hzero hrevoke
    have hleft := hreleased.left
    have hfree := hreleased.free
    rw [toNat_reserveOf] at hleft hfree
    refine ⟨s', hrevoke, by omega, ?_, hstash, hreleased.records, hreleased.elsewhere, hdominators⟩
    have hsum : Verifier.entrusted d owner token s = amounts s.reserves ((.authorizing, owner, token), d) +
      amounts s.reserves ((.authorizingStash, owner, token), d) := rfl
    omega

/-- What is only stashed stays where it is. -/
theorem revokeFrom_stranded {owner' d' : AccountId} {token' : TokenId} {callback : Option cfg.Call}
    (hauthorized : amounts s.reserves ((.authorizing, owner, token), d) = 0)
    (h : revokeFrom owner' d' token' none callback s = .ok s') :
    amounts s'.reserves ((.authorizing, owner, token), d) = 0 ∧
      amounts s'.reserves ((.authorizingStash, owner, token), d) =
        amounts s.reserves ((.authorizingStash, owner, token), d) := by
  by_cases hkey : ((ReserveId.authorizing, owner, token), d) = ((.authorizing, owner', token'), d')
  · obtain ⟨⟨rfl, rfl⟩, rfl⟩ : (owner = owner' ∧ token = token') ∧ d = d' := by simpa using hkey
    have hzero : reserveOf s.reserves .authorizing owner token d = 0 := BitVec.eq_of_toNat_eq hauthorized
    obtain rfl : s = s' := by simpa [revokeFrom, hzero] using h
    exact ⟨hauthorized, rfl⟩
  · have hother : ((ReserveId.authorizingStash, owner, token), d) ≠ ((.authorizingStash, owner', token'), d') := by
      simpa using hkey
    obtain rfl | ⟨dominator, amount, -, -, -, ⟨-, mid, last, hmid, hlast, rfl⟩ | ⟨-, -, receipt, -, rfl⟩⟩ :=
      revokeFrom_eq_ok h
    · exact ⟨hauthorized, rfl⟩
    · obtain ⟨-, hreserves⟩ := mergeStash_eq_ok hmid
      obtain ⟨-, -, hreserves', -⟩ := unreserve_eq_ok hlast
      dsimp only
      rw [hreserves', hreserves, Function.update_of_ne hkey, Function.update_of_ne hkey,
        Function.update_of_ne (by simp), Function.update_of_ne (by simp), Function.update_of_ne (by simp),
        Function.update_of_ne hother]
      exact ⟨hauthorized, rfl⟩
    · exact ⟨hauthorized, rfl⟩

/-! ### A stash that cannot be left -/

/-- The deposit of the operator with itself is proved, and it is evicted. -/
def evictedRun : List (Action reentryConfig) := depositRun ++ [.call 1 (.evict operator) .root]

/-- The deposit of an owner waits for its proof, and the operator is evicted. -/
def strandedRun : List (Action (plainConfig [])) := authorizeRun ++ [.call 1 (.evict operator) .root]

theorem revoke_from_evicted_iff_deposit : ∃ s : State reentryConfig, Transition.Reachable Init Step s ∧
    ∃ s', revokeFrom operator operator 0 (some 4) none s = .ok s' ∧ Released operator operator 0 4 s s' := by
  obtain ⟨s, hs, hcheck⟩ := exists_of_succeedsWith
    (x := play evictedRun (.genesis (plainAssets 100) ()))
    (p := fun s => decide ((s.dominators.lookup operator).map Dominator.status = some .evicted) &&
      decide (4 ≤ amounts s.reserves ((.authorizing, operator, 0), operator)) &&
      decide ((balancesOf 0 operator s.asset).1.toNat + 4 < 2 ^ 128)) (by decide +kernel)
  simp only [Bool.and_eq_true, decide_eq_true_eq] at hcheck
  obtain ⟨⟨hstatus, hauthorized⟩, hfits⟩ := hcheck
  obtain ⟨dominator, hd, hevicted⟩ := Option.map_eq_some_iff.mp hstatus
  have hreach := reachable_of_play hs
  exact ⟨s, hreach, (revoke_from_evicted_iff Balances.plain_exact hreach hd hevicted (by decide)).mpr
    ⟨hauthorized, hfits⟩⟩

/-- The deposit of `10` is stashed with the evicted dominator, and the owner does not get it back. -/
theorem stash_is_stranded : ∃ (s : State (plainConfig [])) (dominator : Dominator),
    Transition.Reachable Init Step s ∧ s.dominators.lookup operator = some dominator ∧
    dominator.status = .evicted ∧ entrusted operator alice 0 s = 10 ∧
    ∀ callback, revokeFrom alice operator 0 (some 10) callback s =
      .error VerifierError.insufficientBalance := by
  obtain ⟨s, hs, hcheck⟩ := exists_of_succeedsWith
    (x := play strandedRun (.genesis (plainAssets 100) ()))
    (p := fun s => decide ((s.dominators.lookup operator).map Dominator.status = some .evicted) &&
      decide (entrusted operator alice 0 s = 10) &&
      decide (amounts s.reserves ((.authorizing, alice, 0), operator) = 0)) (by decide +kernel)
  simp only [Bool.and_eq_true, decide_eq_true_eq] at hcheck
  obtain ⟨⟨hstatus, hentrusted⟩, hauthorized⟩ := hcheck
  obtain ⟨dominator, hd, hevicted⟩ := Option.map_eq_some_iff.mp hstatus
  refine ⟨s, dominator, reachable_of_play hs, hd, hevicted, hentrusted, fun callback => ?_⟩
  exact revokeFrom_refused (by decide) (hauthorized ▸ by decide)

end Fusotao.Verifier
