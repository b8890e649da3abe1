import Fusotao.Agent.Pallet

/-!
# Replays

A transaction is executed when its nonce is the one in the record of its account, and the nonce in the record goes on.
So it is not executed again as long as the record stays. When the last reference to the record goes, the nonce goes
with it, and a transaction of the account is valid again once there is a new record.
-/

namespace Fusotao.Agent

open Exec

variable {cfg : Config} {s s' : State cfg} {Tx : Type}

/-- The transactions that were executed. -/
def executions (history : List (Entry Tx)) : List (AccountId × Index × Tx) :=
  history.filterMap fun entry =>
    match entry with
    | .executed account nonce tx => some (account, nonce, tx)
    | _ => none

theorem mem_executions {history : List (Entry Tx)} {account : AccountId} {nonce : Index} {tx : Tx} :
    (account, nonce, tx) ∈ executions history ↔ .executed account nonce tx ∈ history := by
  unfold executions
  rw [List.mem_filterMap]
  constructor
  · rintro ⟨entry, hentry, h⟩
    split at h
    · obtain ⟨rfl, hrest⟩ := Prod.mk.inj (Option.some.inj h)
      obtain ⟨rfl, rfl⟩ := Prod.mk.inj hrest
      exact hentry
    · exact absurd h (by simp)
  · exact fun h => ⟨_, h, rfl⟩

/-- No account loses its record after it has executed a transaction, and none of them counts past the last nonce. -/
structure Kept (history : List (Entry Tx)) : Prop where
  records : history.Pairwise fun entry later => ∀ account nonce tx, entry = .executed account nonce tx →
    later ≠ .dropped account
  nonces : ∀ account nonce tx, .executed account nonce tx ∈ history → .wrapped account ∉ history

theorem Kept.of_prefix {l l' : List (Entry Tx)} (h : Kept l') (hpart : l <+: l') : Kept l where
  records := h.records.sublist hpart.sublist
  nonces account nonce tx hmem hwrapped := h.nonces account nonce tx (hpart.subset hmem) (hpart.subset hwrapped)

/-! ### What the records keep -/

/-- No nonce goes back, unless something is written down, and nothing is executed. -/
def Grows (s s' : State cfg) : Prop :=
  ∃ l, s'.history = s.history ++ l ∧ executions l = [] ∧ ∀ account, .dropped account ∈ l ∨ .wrapped account ∈ l ∨
    (accountNonce account s).toNat ≤ (accountNonce account s').toNat

theorem Grows.refl (s : State cfg) : Grows s s :=
  ⟨[], (List.append_nil _).symm, rfl, fun _ => .inr (.inr (Nat.le_refl _))⟩

theorem Grows.trans {s'' : State cfg} (h : Grows s s') (h' : Grows s' s'') : Grows s s'' := by
  obtain ⟨l, hl, hnone, hgrows⟩ := h
  obtain ⟨l', hl', hnone', hgrows'⟩ := h'
  refine ⟨l ++ l', ?_, ?_, fun account => ?_⟩
  · rw [hl', hl, List.append_assoc]
  · rw [executions, List.filterMap_append, ← executions, ← executions, hnone, hnone', List.append_nil]
  · rcases hgrows account with hdropped | hwrapped | hle
    · exact .inl (List.mem_append_left _ hdropped)
    · exact .inr (.inl (List.mem_append_left _ hwrapped))
    · rcases hgrows' account with hdropped | hwrapped | hle'
      · exact .inl (List.mem_append_right _ hdropped)
      · exact .inr (.inl (List.mem_append_right _ hwrapped))
      · exact .inr (.inr (hle.trans hle'))

theorem Grows.history (h : Grows s s') : s.history <+: s'.history := by
  obtain ⟨l, hl, -⟩ := h
  exact ⟨l, hl.symm⟩

/-- The records whose nonces do not change. -/
theorem Grows.of_nonces (hhistory : s'.history = s.history)
    (hnonces : ∀ account, accountNonce account s' = accountNonce account s) : Grows s s' :=
  ⟨[], hhistory.trans (List.append_nil _).symm, rfl, fun account => .inr (.inr (by rw [hnonces]))⟩

theorem accountNonce_insert (who : AccountId) (info : AccountInfo) (account : AccountId) (store : cfg.Store)
    (history : List (Entry cfg.Tx)) :
    accountNonce account { s with accounts := s.accounts.insert who info, store := store, history := history } =
      if account = who then info.nonce else accountNonce account s := by
  unfold accountNonce
  dsimp only
  rw [StorageMap.insert_apply]
  split
  · rfl
  · rfl

/-- The nonce of an account goes on, and those of the others stay. -/
theorem incAccountNonce_grows (who : AccountId) (s : State cfg) : Grows s (incAccountNonce who s) ∧
    (.wrapped who ∈ (incAccountNonce who s).history ∨
      (accountNonce who s).toNat < (accountNonce who (incAccountNonce who s)).toNat) := by
  have hnonce : ∀ account, accountNonce account (incAccountNonce who s) =
      if account = who then accountNonce who s + 1 else accountNonce account s :=
    fun account => accountNonce_insert who _ account s.store _
  by_cases hzero : accountNonce who s + 1 = 0
  · have hhistory : (incAccountNonce who s).history = s.history ++ [.wrapped who] := if_pos hzero
    refine ⟨⟨[.wrapped who], hhistory, rfl, fun account => ?_⟩, .inl ?_⟩
    · by_cases haccount : account = who
      · exact .inr (.inl (by rw [haccount]; exact List.mem_singleton_self _))
      · exact .inr (.inr (by rw [hnonce, if_neg haccount]))
    · rw [hhistory]
      exact List.mem_append_right _ (List.mem_singleton_self _)
  · have hhistory : (incAccountNonce who s).history = s.history := if_neg hzero
    have hlt : (accountNonce who s).toNat < (accountNonce who s + 1).toNat := by
      have hne : (accountNonce who s).toNat + 1 ≠ 2 ^ 32 := by
        intro heq
        apply hzero
        apply BitVec.eq_of_toNat_eq
        rw [BitVec.toNat_add]
        show ((accountNonce who s).toNat + 1) % 2 ^ 32 = 0
        rw [heq, Nat.mod_self]
      have hbound := (accountNonce who s).isLt
      rw [BitVec.toNat_add]
      show (accountNonce who s).toNat < ((accountNonce who s).toNat + 1) % 2 ^ 32
      rw [Nat.mod_eq_of_lt (by omega)]
      exact Nat.lt_succ_self _
    refine ⟨⟨[], hhistory.trans (List.append_nil _).symm, rfl, fun account => .inr (.inr ?_)⟩, .inr ?_⟩
    · rw [hnonce]
      split
      · rename_i haccount
        rw [haccount]
        exact hlt.le
      · exact Nat.le_refl _
    · rw [hnonce, if_pos rfl]
      exact hlt

theorem applyOp_grows (s : State cfg) (op : AccountOp) : Grows s (applyOp s op) := by
  cases op with
  | reference who =>
      refine .of_nonces rfl fun account => ?_
      refine (accountNonce_insert who _ account s.store s.history).trans ?_
      split
      · rename_i haccount
        rw [haccount]
        rfl
      · rfl
  | release who =>
      cases haccount : s.accounts who with
      | none =>
          have hsame : applyOp s (.release who) = s := by simp only [applyOp, haccount]
          rw [hsame]
          exact .refl s
      | some info =>
          simp only [applyOp, haccount]
          split
          · refine ⟨[.dropped who], rfl, rfl, fun account => ?_⟩
            by_cases hwho : account = who
            · exact .inl (by rw [hwho]; exact List.mem_singleton_self _)
            · refine .inr (.inr (Nat.le_of_eq (congrArg BitVec.toNat ?_)))
              unfold accountNonce
              dsimp only
              rw [StorageMap.remove_of_ne _ hwho]
          · refine .of_nonces rfl fun account => ?_
            refine (accountNonce_insert who _ account s.store s.history).trans ?_
            split
            · rename_i hwho
              rw [hwho, accountNonce, haccount]
              rfl
            · rfl
  | incNonce who => exact (incAccountNonce_grows who s).1

theorem applyEffects_grows (s : State cfg) (effects : Option (cfg.Store × List AccountOp)) :
    Grows s (applyEffects s effects) := by
  unfold applyEffects
  split
  · rename_i store ops
    have hstore : Grows s { s with store := store } := .of_nonces rfl fun _ => rfl
    exact List.foldlRecOn (motive := fun mid => Grows s mid) ops applyOp hstore
      fun mid hmid op _ => hmid.trans (applyOp_grows mid op)
  · exact .refl s

/-! ### Extrinsics -/

theorem withdrawFee_eq_ok {who : AccountId} {fee : U128} (h : withdrawFee who fee s = .ok s') :
    ∃ store, s' = { s with store := store } := by
  unfold withdrawFee at h
  split at h
  · obtain rfl := pure_eq_ok.mp h
    exact ⟨s.store, rfl⟩
  · simp only [bind_eq_ok, pure_eq_ok] at h
    obtain ⟨store, -, rfl⟩ := h
    exact ⟨store, rfl⟩

/-- What is valid is signed for the nonce of its account, which goes on. -/
theorem validateUnsigned_eq_ok {tx : ExternalVerifiable cfg.Tx} {valid : ValidTransaction}
    (h : validateUnsigned tx s = .ok (valid, s')) :
    ∃ account, extract cfg tx = .ok account ∧ accountNonce account s = tx.nonce ∧
      ∃ store, s' = { incAccountNonce account s with store := store } := by
  simp only [validateUnsigned, bind_eq_ok, ensure_eq_ok, pure_eq_ok, exists_const, Prod.mk.injEq] at h
  obtain ⟨account, haccount, hnonce, -, -, -, last, hlast, -, rfl⟩ := h
  obtain ⟨store, rfl⟩ := withdrawFee_eq_ok hlast
  refine ⟨account, ?_, hnonce, store, rfl⟩
  cases hextract : extract cfg tx with
  | ok a =>
      rw [hextract] at haccount
      exact congrArg _ (Except.ok.inj haccount)
  | error e =>
      rw [hextract] at haccount
      exact absurd haccount (by simp [Except.mapError])

theorem submitExternalTx_eq {tx : ExternalVerifiable cfg.Tx} {account : AccountId}
    (h : extract cfg tx = .ok account) (s : State cfg) : submitExternalTx .none tx s =
      .ok (applyEffects { s with history := s.history ++ [.executed account tx.nonce tx.tx] }
        (cfg.dispatch tx.tx account s.accounts s.store)) := by
  cases tx with
  | ed25519 publicKey tx nonce signature => exact absurd h (by simp [extract])
  | ecdsa tx nonce signature =>
      simp only [submitExternalTx, h, ok_bind]
      rfl

theorem applyUnsigned_eq_ok {tx : ExternalVerifiable cfg.Tx} (h : applyUnsigned tx s = .ok s') :
    ∃ account, accountNonce account s = tx.nonce ∧ ∃ mid store,
      mid = { incAccountNonce account s with store := store } ∧
      s' = applyEffects { mid with history := mid.history ++ [.executed account tx.nonce tx.tx] }
        (cfg.dispatch tx.tx account mid.accounts mid.store) := by
  simp only [applyUnsigned, bind_eq_ok, Prod.exists] at h
  obtain ⟨valid, mid, hvalid, h⟩ := h
  obtain ⟨account, hextract, hnonce, store, hmid⟩ := validateUnsigned_eq_ok hvalid
  rw [submitExternalTx_eq hextract] at h
  exact ⟨account, hnonce, mid, store, hmid, (pure_eq_ok.mp h).symm⟩

/-- The nonces of what was executed are behind those in the records, and nothing was executed twice. -/
structure Behind (s : State cfg) : Prop where
  below : ∀ account nonce tx, .executed account nonce tx ∈ s.history →
    nonce.toNat < (accountNonce account s).toNat
  once : (executions s.history).Nodup

theorem Behind.grow (hinv : Behind s) (h : Grows s s') (hkept : Kept s'.history) : Behind s' := by
  obtain ⟨l, hl, hnone, hgrows⟩ := h
  have hexecutions : executions s'.history = executions s.history := by
    rw [hl, executions, List.filterMap_append, ← executions, ← executions, hnone, List.append_nil]
  refine ⟨fun account nonce tx hmem => ?_, hexecutions ▸ hinv.once⟩
  have hbefore : .executed account nonce tx ∈ s.history := by
    rw [← mem_executions, ← hexecutions, mem_executions]
    exact hmem
  rcases hgrows account with hdropped | hwrapped | hle
  · have hrecords := hkept.records
    rw [hl, List.pairwise_append] at hrecords
    exact absurd rfl (hrecords.2.2 _ hbefore _ hdropped account nonce tx rfl)
  · refine absurd ?_ (hkept.nonces account nonce tx hmem)
    rw [hl]
    exact List.mem_append_right _ hwrapped
  · exact (hinv.below account nonce tx hbefore).trans_le hle

theorem Behind.external (hinv : Behind s) {tx : ExternalVerifiable cfg.Tx} (h : applyUnsigned tx s = .ok s')
    (hkept : Kept s'.history) : Behind s' := by
  obtain ⟨account, hnonce, mid, store, hmid, hs'⟩ := applyUnsigned_eq_ok h
  obtain ⟨hgrows, hnext⟩ := incAccountNonce_grows account s
  have hgrowsMid : Grows s mid := by
    rw [hmid]
    exact hgrows.trans (.of_nonces rfl fun _ => rfl)
  have heffects := applyEffects_grows { mid with history := mid.history ++ [.executed account tx.nonce tx.tx] }
    (cfg.dispatch tx.tx account mid.accounts mid.store)
  rw [← hs'] at heffects
  have hkeptExecuted := hkept.of_prefix heffects.history
  have hmidInv := hinv.grow hgrowsMid (hkeptExecuted.of_prefix (List.prefix_append _ _))
  have hexecuted : .executed account tx.nonce tx.tx ∈ mid.history ++ [.executed account tx.nonce tx.tx] :=
    List.mem_append_right _ (List.mem_singleton_self _)
  -- The nonce of the record has gone on.
  have hlt : tx.nonce.toNat < (accountNonce account mid).toNat := by
    rw [← hnonce, hmid]
    refine hnext.resolve_left fun hwrapped => hkeptExecuted.nonces _ _ _ hexecuted ?_
    rw [hmid]
    exact List.mem_append_left _ hwrapped
  refine Behind.grow ⟨fun account' nonce tx' hmem => ?_, ?_⟩ heffects hkept
  · rcases List.mem_append.mp hmem with hmem | hmem
    · exact hmidInv.below account' nonce tx' hmem
    · obtain ⟨rfl, rfl, rfl⟩ := Entry.executed.inj (List.mem_singleton.mp hmem)
      exact hlt
  · have happend : executions (mid.history ++ [.executed account tx.nonce tx.tx]) =
        executions mid.history ++ [(account, tx.nonce, tx.tx)] := List.filterMap_append
    dsimp only
    rw [happend, List.nodup_append']
    refine ⟨hmidInv.once, List.nodup_singleton _, ?_⟩
    rw [List.disjoint_singleton]
    intro hmem
    -- It would have been executed before, and its nonce would be behind the one it was compared with.
    obtain ⟨l, hl, hnone, -⟩ := hgrowsMid
    rw [hl, executions, List.filterMap_append, ← executions, ← executions, hnone, List.append_nil] at hmem
    have hbelow := hinv.below account tx.nonce tx.tx (mem_executions.mp hmem)
    rw [hnonce] at hbelow
    exact Nat.lt_irrefl _ hbelow

theorem applySigned_grows {who : AccountId} {nonce : Index} {store : cfg.Store} {tx : cfg.Tx}
    (h : applySigned who nonce store tx s = .ok s') : Grows s s' := by
  simp only [applySigned, bind_eq_ok, ensure_eq_ok, pure_eq_ok, exists_const] at h
  obtain ⟨-, rfl⟩ := h
  have hstore : Grows (incAccountNonce who s) { incAccountNonce who s with store := store } :=
    .of_nonces rfl fun _ => rfl
  exact ((incAccountNonce_grows who s).1.trans hstore).trans (applyEffects_grows _ _)

theorem Step.history (h : Step s s') : s.history <+: s'.history := by
  cases h with
  | @external _ tx h =>
      obtain ⟨account, -, mid, store, hmid, hs'⟩ := applyUnsigned_eq_ok h
      have heffects := applyEffects_grows { mid with history := mid.history ++ [.executed account tx.nonce tx.tx] }
        (cfg.dispatch tx.tx account mid.accounts mid.store)
      rw [← hs'] at heffects
      have hmidHistory : s.history <+: mid.history := by
        rw [hmid]
        exact (incAccountNonce_grows account s).1.history
      exact hmidHistory.trans ((List.prefix_append _ _).trans heffects.history)
  | signed h => exact (applySigned_grows h).history
  | other store ops => exact (applyEffects_grows s _).history

/-- In a run in which no account loses its record after it has executed a transaction, each transaction is executed at
most once. -/
theorem executed_once (h : Transition.Reachable Init Step s) (hkept : Kept s.history) :
    (executions s.history).Nodup := by
  have hinv : Kept s.history → Behind s := by
    refine h.invariant (fun s => Kept s.history → Behind s) (fun s hinit _ => ?_) fun s s' ih hstep hkept => ?_
    · have hempty : s.history = [] := hinit
      refine ⟨fun account nonce tx hmem => ?_, ?_⟩
      · rw [hempty] at hmem
        exact absurd hmem List.not_mem_nil
      · rw [hempty]
        exact List.nodup_nil
    · have hbefore := ih (hkept.of_prefix hstep.history)
      cases hstep with
      | external h => exact hbefore.external h hkept
      | signed h => exact hbefore.grow (applySigned_grows h) hkept
      | other store ops => exact hbefore.grow (applyEffects_grows s _) hkept
  exact (hinv hkept).once

/-! ### An account that comes back -/

/-- A transaction of the runtime below. -/
inductive PlainTx
  | remark
  | transferAll
  deriving DecidableEq

/-- The account of the Ethereum key of the runtime below. -/
def alice : AccountId := List.Vector.replicate 32 1

def aliceSignature : Bytes 65 := List.Vector.replicate 65 7

/-- A runtime that knows one account, whose balance it stores. Transferring all of it drops the account. -/
def plainConfig : Config where
  Tx := PlainTx
  Store := U128
  encode p := Bytes.leBytes 4 p.1.toNat ++ [if p.2 = .remark then 0 else 1]
  keccak256 _ := List.Vector.replicate 32 0
  secp256k1EcdsaRecover signature _ := if signature = aliceSignature then some (List.Vector.replicate 64 2) else none
  blake2_256 _ := alice
  mainOrTestnet := 1
  getDispatchInfo _ := ⟨⟨10, 10⟩, .normal⟩
  encodedSize _ := 71
  maxLength := 1000
  maxBlock := ⟨1000, 1000⟩
  baseExtrinsic _ := ⟨1, 1⟩
  weightToFee w := w.refTime.setWidth 128
  transactionByteFee := 1
  withdraw _ fee store := if fee < store then some (store - fee) else none
  dispatch tx who _ store :=
    match tx with
    | .remark => some (store, [])
    | .transferAll => some (0, [.release who])

def plainState : State plainConfig := ⟨fun _ => none, (0 : U128), []⟩

/-- Alice gets an amount, and a record if she has none. -/
def fund (amount : U128) (s : State plainConfig) : State plainConfig :=
  applyEffects s (some (amount, [.reference alice]))

instance : DecidableEq plainConfig.Tx := inferInstanceAs (DecidableEq PlainTx)

/-- A transaction signed by the key of Alice. -/
def signedByAlice (tx : PlainTx) (nonce : Index) : ExternalVerifiable plainConfig.Tx := .ecdsa tx nonce aliceSignature

theorem executed_once_remark : ∃ s : State plainConfig,
    s.history = [.executed alice 0 PlainTx.remark, .executed alice 1 PlainTx.remark] ∧ (executions s.history).Nodup := by
  obtain ⟨⟨s, s'⟩, hrun, hcheck⟩ := exists_of_succeedsWith
    (x := do
      let s ← applyUnsigned (signedByAlice .remark 0) (fund 1000 plainState)
      let s' ← applyUnsigned (signedByAlice .remark 1) s
      return (s, s'))
    (p := fun x => decide (x.2.history = [.executed alice 0 PlainTx.remark, .executed alice 1 PlainTx.remark]))
    (by decide +kernel)
  rw [decide_eq_true_eq] at hcheck
  simp only [bind_eq_ok, pure_eq_ok, Prod.mk.injEq] at hrun
  obtain ⟨t, ht, t', ht', rfl, rfl⟩ := hrun
  refine ⟨t', hcheck, executed_once ⟨plainState, rfl, ((Relation.ReflTransGen.single (.other _ _ _)).tail
    (.external ht)).tail (.external ht')⟩ ?_⟩
  rw [hcheck]
  exact ⟨by simp, by simp⟩

/-- Alice transfers all she has, gets something again, and the transfer is submitted a second time. -/
theorem transfer_replayed : ∃ s : State plainConfig, Transition.Reachable Init Step s ∧
    ¬ (executions s.history).Nodup := by
  obtain ⟨⟨s, s'⟩, hrun, hcheck⟩ := exists_of_succeedsWith
    (x := do
      let s ← applyUnsigned (signedByAlice .transferAll 0) (fund 1000 plainState)
      let s' ← applyUnsigned (signedByAlice .transferAll 0) (fund 1000 s)
      return (s, s'))
    (p := fun x => decide (x.2.history = [.executed alice 0 PlainTx.transferAll, .dropped alice,
      .executed alice 0 PlainTx.transferAll, .dropped alice]))
    (by decide +kernel)
  rw [decide_eq_true_eq] at hcheck
  simp only [bind_eq_ok, pure_eq_ok, Prod.mk.injEq] at hrun
  obtain ⟨t, ht, t', ht', rfl, rfl⟩ := hrun
  refine ⟨t', ⟨plainState, rfl, (((Relation.ReflTransGen.single (.other _ _ _)).tail (.external ht)).tail
    (.other _ _ _)).tail (.external ht')⟩, ?_⟩
  rw [hcheck]
  simp [executions]

end Fusotao.Agent
