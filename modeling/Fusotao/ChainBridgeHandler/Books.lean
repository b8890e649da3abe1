import Fusotao.ChainBridgeHandler.Passing

/-!
# The books of the bridge

A token of another chain is minted for what comes in and burnt for what goes out; the native token is unlocked and
locked. So what all accounts together hold of a token of another chain is what came in and has not gone out again, and
the bridge's account has what went out of the native token and has not come back.
-/

namespace Fusotao.ChainBridgeHandler

open Exec Relation
open ChainBridge (ResourceId DepositNonce)
open Token (freeBalance)

/-! ### Runs -/

/-- The bridge, and what is written down of its transfers. No pallet has such items or reads them. -/
structure Books (cfg : OutConfig) where
  state : OutState cfg
  /-- What came in so far of each token, and what went out, in standard units. -/
  came : TokenId → Nat
  went : TokenId → Nat
  /-- How many tokens were created. -/
  created : Nat

variable {cfg : OutConfig} {b b' b₀ : Books cfg} {others : Set TokenId} {token : TokenId}

def Books.receive (origin : Origin) (target : AccountId) (amount : U128) (rId : ResourceId) (b : Books cfg) :
    Result (Books cfg) := do
  let state ← transferIn origin target amount rId b.state.toState
  return { b with
    state := { b.state with toState := state }
    came := b.came + worth rId amount b.state.toState }

def Books.send (origin : Origin) (amount : U128) (rId : ResourceId) (recipient : List UInt8) (destId : ChainId)
    (b : Books cfg) : Result (Books cfg) := do
  let state ← transferOut origin amount rId recipient destId b.state
  return { b with state, went := b.went + lastWorth b.state state }

/-- What the bridge's account has of the native token. -/
def OutState.locked (s : OutState cfg) : Nat :=
  (freeBalance cfg.verifier.token.nativeTokenId cfg.bridgeAccount s.asset).toNat

/-- A step of the chain: a transfer, or something else that takes nothing from the bridge's account. Only the tokens
`others` are minted or burnt elsewhere. -/
inductive BookStep (others : Set TokenId) : Books cfg → Books cfg → Prop
  | receive {b b' : Books cfg} {origin : Origin} {target : AccountId} {amount : U128} {rId : ResourceId}
      (h : b.receive origin target amount rId = .ok b') : BookStep others b b'
  | send {b b' : Books cfg} {origin : Origin} {amount : U128} {rId : ResourceId} {recipient : List UInt8}
      {destId : ChainId} (horigin : origin ≠ .signed cfg.bridgeAccount)
      (h : b.send origin amount rId recipient destId = .ok b') : BookStep others b b'
  | asset {b : Books cfg} {asset : Token.State cfg.verifier.token} (op : Token.Operation)
      (hop : ∀ t, op.supplied? = some t → t ∈ others) (h : op.perform b.state.asset = .ok asset)
      (hbridge : b.state.locked ≤ (b.state.setAsset asset).locked) :
      BookStep others b { b with state := b.state.setAsset asset, created := b.created + op.creations }
  | native (b : Books cfg) (native : cfg.verifier.token.balances.Store)
      (hbridge : b.state.locked ≤ (b.state.setAsset { b.state.asset with native }).locked) :
      BookStep others b { b with state := b.state.setAsset { b.state.asset with native } }
  | associateToken (b : Books cfg) (chainId : ChainId) (contractId : List UInt8) (t : TokenId) :
      BookStep others b
        { b with state := b.state.setAsset (Token.associateToken chainId contractId t b.state.asset) }
  | associateDominator (b : Books cfg) (associateId : U8) (dominatorAccount : AccountId) :
      BookStep others b { b with state := { b.state with
        toState := associateDominator associateId dominatorAccount b.state.toState } }
  /-- Something else is written, such as a chain that is whitelisted. -/
  | other (b : Books cfg) (state : OutState cfg) (hasset : state.asset = b.state.asset)
      (htransfers : state.transfers = b.state.transfers)
      (hchains : ∀ destId, state.chains destId = b.state.chains destId ∨
        b.state.chains destId = none ∧ state.chains destId = some 0) :
      BookStep others b { b with state }

/-- The chain at genesis. -/
structure Opening (b : Books cfg) : Prop where
  asset : ∃ native, b.state.asset = .genesis native
  chains : ∀ destId, b.state.chains destId = none
  transfers : b.state.transfers = []
  came : b.came = 0
  went : b.went = 0
  created : b.created = 0

/-! ### The tokens -/

/-- The books are balanced. -/
structure Balanced (locked : Nat) (token : TokenId) (b : Books cfg) : Prop where
  issued : Token.Issued b.state.asset
  numbered : Token.Numbered b.created b.state.asset
  foreign : token ≠ cfg.verifier.token.nativeTokenId → Token.issued token b.state.asset + b.went token = b.came token
  native : locked + b.went cfg.verifier.token.nativeTokenId ≤
    b.state.locked + b.came cfg.verifier.token.nativeTokenId

theorem Balanced.passed {locked : Nat} {came went : TokenId → Nat} (h : Balanced locked token b)
    (hpassed : Passed token cfg.bridgeAccount came went b.state.asset b'.state.asset)
    (hcame : b'.came = b.came + came) (hwent : b'.went = b.went + went) (hcreated : b'.created = b.created) :
    Balanced locked token b' := by
  obtain ⟨hissued, hnumbered⟩ := effects_keep hpassed.effects h.issued h.numbered
  refine ⟨hissued, hcreated ▸ hnumbered, fun htoken => ?_, ?_⟩
  · have hbefore := h.foreign htoken
    have hissued := hpassed.issued htoken
    rw [hcame, hwent, Pi.add_apply, Pi.add_apply]
    omega
  · have hbefore := h.native
    have hlocked := hpassed.locked
    rw [hcame, hwent, Pi.add_apply, Pi.add_apply]
    simp only [OutState.locked] at hbefore ⊢
    omega

theorem BookStep.created_le (h : BookStep others b b') : b.created ≤ b'.created := by
  cases h with
  | receive h =>
      simp only [Books.receive, bind_eq_ok, pure_eq_ok] at h
      obtain ⟨state, -, rfl⟩ := h
      exact le_refl _
  | send horigin h =>
      simp only [Books.send, bind_eq_ok, pure_eq_ok] at h
      obtain ⟨state, -, rfl⟩ := h
      exact le_refl _
  | asset op hop h hbridge => exact Nat.le_add_right _ _
  | native native hbridge => exact le_refl _
  | associateToken chainId contractId t => exact le_refl _
  | associateDominator associateId dominatorAccount => exact le_refl _
  | other state hasset htransfers hchains => exact le_refl _

/-- Every step keeps the books balanced. -/
theorem Balanced.step {locked : Nat} (hexact : cfg.verifier.token.balances.Exact)
    (hzero : cfg.verifier.token.nativeTokenId = 0) (hdonor : cfg.donorAccount ≠ cfg.bridgeAccount)
    (htoken : token ∉ others) (hcreated : b'.created < 2 ^ 32) (h : Balanced locked token b)
    (hstep : BookStep others b b') : Balanced locked token b' := by
  have hroom : b.created < 2 ^ 32 := Nat.lt_of_le_of_lt hstep.created_le hcreated
  have hempty := h.numbered.empty
  have hnone : b.state.asset.tokens cfg.verifier.token.nativeTokenId = none := hzero ▸ h.numbered.zero_none hroom
  cases hstep with
  | receive h' =>
      simp only [Books.receive, bind_eq_ok, pure_eq_ok] at h'
      obtain ⟨state, hstate, rfl⟩ := h'
      exact h.passed (transferIn_passed hexact hempty hnone hdonor hstate) rfl (add_zero _).symm rfl
  | send horigin h' =>
      simp only [Books.send, bind_eq_ok, pure_eq_ok] at h'
      obtain ⟨state, hstate, rfl⟩ := h'
      exact h.passed (transferOut_passed hexact hempty hnone horigin hstate) (add_zero _).symm rfl rfl
  | asset op hop h' hbridge =>
      rename_i asset
      have hfresh := h.numbered.fresh hroom
      have hissued := op.issued_eq h' hempty hfresh fun heq => htoken (hop _ heq)
      have hkept : Token.Issued asset ∧ Token.Numbered (b.created + op.creations) asset := by
        rcases op.effect h' hempty with ⟨hone, tokenInfo, id, hcreate⟩ | ⟨hnothing, heffect⟩
        · rw [hone]
          exact ⟨h.issued.create hcreate hfresh, h.numbered.create hcreate⟩
        · rw [hnothing]
          exact ⟨heffect.conserve h.issued, h.numbered.effect heffect⟩
      refine ⟨hkept.1, hkept.2, fun hforeign => ?_, ?_⟩
      · rw [← h.foreign hforeign, ← hissued]
        rfl
      · exact h.native.trans (Nat.add_le_add_right hbridge _)
  | native native hbridge =>
      exact h.passed ⟨.single (.outside native rfl), fun _ => rfl, hbridge⟩ (add_zero _).symm (add_zero _).symm rfl
  | associateToken chainId contractId t =>
      exact ⟨⟨h.issued.total, h.issued.unissued⟩, ⟨h.numbered.next, h.numbered.given, h.numbered.empty⟩, h.foreign,
        h.native⟩
  | associateDominator associateId dominatorAccount => exact ⟨h.issued, h.numbered, h.foreign, h.native⟩
  | other state hasset htransfers hchains =>
      refine ⟨?_, ?_, fun hforeign => ?_, ?_⟩
      · rw [hasset]
        exact h.issued
      · rw [hasset]
        exact h.numbered
      · rw [hasset]
        exact h.foreign hforeign
      · rw [OutState.locked, hasset]
        exact h.native

/-- The books are balanced. In every run from genesis in which fewer than `2 ^ 32` tokens are created, the bridge's
account sends nothing, and the token is minted and burnt nowhere else: what all accounts hold of a token of another
chain is what came in less what went out, and the bridge's account has at least what it had of the native token, with
what went out less what came in. -/
theorem bridge_books (hexact : cfg.verifier.token.balances.Exact) (hzero : cfg.verifier.token.nativeTokenId = 0)
    (hdonor : cfg.donorAccount ≠ cfg.bridgeAccount) (htoken : token ∉ others) (hopening : Opening b₀)
    (h : ReflTransGen (BookStep others) b₀ b) (hcreated : b.created < 2 ^ 32) :
    (token ≠ cfg.verifier.token.nativeTokenId →
      Token.held token b.state.asset.balances + b.went token = b.came token) ∧
    b₀.state.locked + b.went cfg.verifier.token.nativeTokenId ≤
      b.state.locked + b.came cfg.verifier.token.nativeTokenId := by
  have hbalanced : Balanced b₀.state.locked token b := by
    induction h with
    | refl =>
        obtain ⟨native, hasset⟩ := hopening.asset
        refine ⟨?_, ?_, fun _ => ?_, ?_⟩
        · rw [hasset]
          exact ⟨fun t => Finset.sum_eq_zero fun _ _ => rfl, fun _ _ _ => rfl⟩
        · rw [hasset, hopening.created]
          exact Token.numbered_genesis native
        · rw [hasset, hopening.came, hopening.went]
          rfl
        · rw [hopening.came, hopening.went]
    | tail _ hlast ih =>
        exact (ih (Nat.lt_of_le_of_lt hlast.created_le hcreated)).step hexact hzero hdonor htoken hcreated hlast
  refine ⟨fun hforeign => ?_, hbalanced.native⟩
  rw [hbalanced.issued.total]
  exact hbalanced.foreign hforeign

/-! ### The nonces -/

/-- The nonces of the transfers to a chain, the last one first. -/
def sentTo (destId : ChainId) (s : OutState cfg) : List DepositNonce :=
  (s.transfers.filter fun transfer => transfer.destId = destId).map FungibleTransfer.nonce

/-- The first `n` nonces, the last one first. -/
def countdown : Nat → List DepositNonce
  | 0 => []
  | n + 1 => BitVec.ofNat 64 (n + 1) :: countdown n

theorem mem_countdown {n : Nat} {nonce : DepositNonce} (h : nonce ∈ countdown n) :
    ∃ k, 1 ≤ k ∧ k ≤ n ∧ nonce = BitVec.ofNat 64 k := by
  induction n with
  | zero => exact absurd h (List.not_mem_nil)
  | succ n ih =>
      rcases List.mem_cons.mp h with rfl | h
      · exact ⟨n + 1, Nat.le_add_left 1 n, le_refl _, rfl⟩
      · obtain ⟨k, hpos, hle, hk⟩ := ih h
        exact ⟨k, hpos, Nat.le_succ_of_le hle, hk⟩

theorem countdown_nodup {n : Nat} (hn : n ≤ 2 ^ 64) : (countdown n).Nodup := by
  induction n with
  | zero => exact List.nodup_nil
  | succ n ih =>
      refine List.nodup_cons.mpr ⟨fun hmem => ?_, ih (Nat.le_of_succ_le hn)⟩
      obtain ⟨k, hpos, hle, hk⟩ := mem_countdown hmem
      have hnat := congrArg BitVec.toNat hk
      simp only [BitVec.toNat_ofNat] at hnat
      omega

/-- A transfer takes the next nonce of its chain. -/
theorem transferOut_nonce {s s' : OutState cfg} {origin : Origin} {amount : U128} {rId : ResourceId}
    {recipient : List UInt8} {destId : ChainId} (h : transferOut origin amount rId recipient destId s = .ok s') :
    ∃ transfer nonce, s'.transfers = transfer :: s.transfers ∧ s.chains transfer.destId = some nonce ∧
      transfer.nonce = nonce + 1 ∧ s'.chains = s.chains.insert transfer.destId transfer.nonce := by
  have hsend : ∀ {mid : OutState cfg} {bridged : U128},
      transferFungible destId rId recipient bridged mid = .ok s' → mid.transfers = s.transfers →
      mid.chains = s.chains → ∃ transfer nonce, s'.transfers = transfer :: s.transfers ∧
        s.chains transfer.destId = some nonce ∧ transfer.nonce = nonce + 1 ∧
        s'.chains = s.chains.insert transfer.destId transfer.nonce := by
    intro mid bridged hsent htransfers hchains
    simp only [transferFungible, bind_eq_ok, ensure_eq_ok, exists_const, pure_eq_ok] at hsent
    obtain ⟨hwhite, rfl⟩ := hsent
    rw [chainWhitelisted, hchains] at hwhite
    obtain ⟨nonce, hnonce⟩ := Option.isSome_iff_exists.mp hwhite
    refine ⟨_, nonce, by rw [htransfers], hnonce, ?_, by rw [hchains]⟩
    simp only [hchains, hnonce, Option.getD_some]
  simp only [transferOut, bind_eq_ok] at h
  obtain ⟨source, -, -, -, h⟩ := h
  split at h
  · simp only [doLock, transferToken, bind_eq_ok, pure_eq_ok, Prod.exists] at h
    obtain ⟨-, -, -, -, -, ⟨paid, asset, -, rfl⟩, -, ⟨paid', asset', -, rfl⟩, hsent⟩ := h
    exact hsend hsent rfl rfl
  · simp only [doBurnAssets, transferToken, bind_eq_ok, pure_eq_ok, Prod.exists] at h
    obtain ⟨chainId, dex, contract, -, t, -, decimals, -, -, -, -, ⟨paid, asset, -, rfl⟩, burnt, asset', -,
      hsent⟩ := h
    exact hsend hsent rfl rfl

/-- The nonces of the transfers to a chain count up from one, and the chain keeps the last. -/
structure Counted (destId : ChainId) (s : OutState cfg) : Prop where
  nonces : sentTo destId s = countdown (sentTo destId s).length
  last : ∀ nonce, s.chains destId = some nonce → nonce = BitVec.ofNat 64 (sentTo destId s).length
  none : s.chains destId = none → sentTo destId s = []

theorem Counted.of_same {s s' : OutState cfg} {destId : ChainId} (h : Counted destId s)
    (htransfers : s'.transfers = s.transfers)
    (hchains : s'.chains destId = s.chains destId ∨ s.chains destId = .none ∧ s'.chains destId = some 0) :
    Counted destId s' := by
  have hsent : sentTo destId s' = sentTo destId s := by rw [sentTo, htransfers, sentTo]
  rcases hchains with hsame | ⟨hnone, hnew⟩
  · refine ⟨hsent ▸ h.nonces, fun nonce hnonce => ?_, fun hnone => ?_⟩
    · rw [hsent]
      exact h.last nonce (hsame ▸ hnonce)
    · rw [hsent]
      exact h.none (hsame ▸ hnone)
  · refine ⟨hsent ▸ h.nonces, fun nonce hnonce => ?_, fun hcontra => ?_⟩
    · rw [hsent, h.none hnone, ← Option.some.inj (hnew.symm.trans hnonce)]
      rfl
    · exact absurd (hnew.symm.trans hcontra) (by simp)

theorem Counted.send {s s' : OutState cfg} {destId : ChainId} {transfer : FungibleTransfer} {nonce : DepositNonce}
    (h : Counted destId s) (htransfers : s'.transfers = transfer :: s.transfers)
    (hwhite : s.chains transfer.destId = some nonce) (hnonce : transfer.nonce = nonce + 1)
    (hchains : s'.chains = s.chains.insert transfer.destId transfer.nonce) : Counted destId s' := by
  by_cases hdest : transfer.destId = destId
  · have hsent : sentTo destId s' = transfer.nonce :: sentTo destId s := by
      rw [sentTo, htransfers, List.filter_cons_of_pos (by simp [hdest])]
      rfl
    rw [hdest] at hwhite
    have hnext : transfer.nonce = BitVec.ofNat 64 ((sentTo destId s).length + 1) := by
      rw [hnonce, h.last nonce hwhite, BitVec.ofNat_add]
      rfl
    refine ⟨?_, fun nonce' hnonce' => ?_, fun hnone => ?_⟩
    · rw [hsent, List.length_cons, countdown, ← h.nonces, hnext]
    · rw [hchains, hdest, StorageMap.insert_self] at hnonce'
      rw [hsent, List.length_cons, ← hnext]
      exact (Option.some.inj hnonce').symm
    · rw [hchains, hdest, StorageMap.insert_self] at hnone
      exact absurd hnone (by simp)
  · have hsent : sentTo destId s' = sentTo destId s := by
      rw [sentTo, htransfers, List.filter_cons_of_neg (by simp [hdest])]
      rfl
    have hsame : s'.chains destId = s.chains destId := by
      rw [hchains, StorageMap.insert_of_ne _ _ (Ne.symm hdest)]
    refine ⟨hsent ▸ h.nonces, fun nonce' hnonce' => ?_, fun hnone => ?_⟩
    · rw [hsent]
      exact h.last nonce' (hsame ▸ hnonce')
    · rw [hsent]
      exact h.none (hsame ▸ hnone)

/-- A step that may concern the nonces: a transfer, or anything else that writes none of what was sent and of the
chains but one that is whitelisted. -/
inductive NonceStep : OutState cfg → OutState cfg → Prop
  | receive {s : OutState cfg} {state : State cfg.toConfig} {origin : Origin} {target : AccountId} {amount : U128}
      {rId : ResourceId} (h : transferIn origin target amount rId s.toState = .ok state) :
      NonceStep s { s with toState := state }
  | send {s s' : OutState cfg} {origin : Origin} {amount : U128} {rId : ResourceId} {recipient : List UInt8}
      {destId : ChainId} (h : transferOut origin amount rId recipient destId s = .ok s') : NonceStep s s'
  | other {s s' : OutState cfg} (htransfers : s'.transfers = s.transfers)
      (hchains : ∀ destId, s'.chains destId = s.chains destId ∨
        s.chains destId = .none ∧ s'.chains destId = some 0) : NonceStep s s'

/-- A step of the books is one. -/
theorem BookStep.nonceStep (h : BookStep others b b') : NonceStep b.state b'.state := by
  cases h with
  | receive h =>
      simp only [Books.receive, bind_eq_ok, pure_eq_ok] at h
      obtain ⟨state, hstate, rfl⟩ := h
      exact .receive hstate
  | send horigin h =>
      simp only [Books.send, bind_eq_ok, pure_eq_ok] at h
      obtain ⟨state, hstate, rfl⟩ := h
      exact .send hstate
  | other state hasset htransfers hchains => exact .other htransfers hchains
  | _ => exact .other rfl fun _ => .inl rfl

theorem Counted.step {s s' : OutState cfg} {destId : ChainId} (h : Counted destId s) (hstep : NonceStep s s') :
    Counted destId s' := by
  cases hstep with
  | receive h' => exact h.of_same rfl (.inl rfl)
  | send h' =>
      obtain ⟨transfer, nonce, htransfers, hwhite, hnonce, hchains⟩ := transferOut_nonce h'
      exact h.send htransfers hwhite hnonce hchains
  | other htransfers hchains => exact h.of_same htransfers (hchains destId)

/-- In every run from where nothing was sent and no chain is whitelisted, the transfers to a chain have the nonces from
one on, one after the other, and a chain that is not whitelisted has none. So no two of them share a nonce, up to
`2 ^ 64` of them. -/
theorem nonces_consecutive {s₀ s : OutState cfg} (htransfers : s₀.transfers = [])
    (hchains : ∀ destId, s₀.chains destId = .none) (h : ReflTransGen NonceStep s₀ s) (destId : ChainId) :
    sentTo destId s = countdown (sentTo destId s).length ∧
      (s.chains destId = .none → sentTo destId s = []) ∧
      ((sentTo destId s).length ≤ 2 ^ 64 → (sentTo destId s).Nodup) := by
  have hcounted : Counted destId s := by
    induction h with
    | refl =>
        have hnothing : sentTo destId s₀ = [] := by
          rw [sentTo, htransfers]
          rfl
        refine ⟨?_, fun nonce hnonce => ?_, fun _ => hnothing⟩
        · rw [hnothing]
          rfl
        · exact absurd ((hchains destId).symm.trans hnonce) (by simp)
    | tail _ hlast ih => exact ih.step hlast
  refine ⟨hcounted.nonces, hcounted.none, fun hlength => ?_⟩
  rw [hcounted.nonces]
  exact countdown_nodup hlength

/-! ### A token that goes to and fro

Every account has a hundred units of the native token at genesis. A token is created for a contract of chain `1`. Alice
gets five of it and sends three back, and she sends seven units of the native token and gets two back. -/

def openBooks : Books outConfig where
  state := {
    toState := stateOf (Verifier.plainAssets 100)
    nativeCheck := false
    bridgingFeeInUsd _ := some 0
    chains _ := none
    prices _ := none
    transfers := [] }
  came := 0
  went := 0
  created := 0

theorem openBooks_opening : Opening openBooks :=
  ⟨⟨_, rfl⟩, fun _ => rfl, rfl, rfl, rfl, rfl⟩

/-- The token is there. -/
def createdAssets : Token.State outConfig.verifier.token :=
  { Verifier.plainAssets 100 with
    nextTokenId := (Verifier.plainAssets 100).nextTokenId + 1
    tokens := (Verifier.plainAssets 100).tokens.insert (Verifier.plainAssets 100).nextTokenId Token.unitToken }

theorem perform_create : (Token.Operation.create Token.unitToken).perform openBooks.state.asset = .ok createdAssets := by
  rw [Token.Operation.perform]
  exact congrArg (fun x : Result (TokenId × Token.State outConfig.verifier.token) => x.bind fun p => .ok p.2)
    (Token.create_unitToken (Verifier.plainAssets 100))

/-- The contract stands for it, and the chain is whitelisted. -/
def listedBooks : Books outConfig where
  state := { openBooks.state.setAsset (Token.associateToken 1 [65] 1 createdAssets) with
    chains := StorageMap.insert (fun _ => none) 1 0 }
  came := 0
  went := 0
  created := 1

theorem listedBooks_steps : ReflTransGen (BookStep ∅) openBooks listedBooks := by
  have hsupplied : ∀ t, (Token.Operation.create Token.unitToken).supplied? = some t → t ∈ (∅ : Set TokenId) :=
    fun t ht => absurd ht (by simp [Token.Operation.supplied?])
  have hcreate := BookStep.asset (b := openBooks) _ hsupplied perform_create (le_refl _)
  refine ((ReflTransGen.single hcreate).tail (.associateToken _ 1 [65] 1)).tail ?_
  refine .other _ listedBooks.state rfl rfl fun destId => ?_
  by_cases hdest : destId = 1
  · exact .inr ⟨rfl, by rw [hdest]; rfl⟩
  · exact .inl (StorageMap.insert_of_ne (fun _ => none) (0 : DepositNonce) hdest)

def tradeRun (b : Books outConfig) : Result (Books outConfig) := do
  let b ← b.receive (.signed Verifier.operator) Token.alice 5 foreignResource
  let b ← b.send (.signed Token.alice) 3 foreignResource [] 1
  let b ← b.send (.signed Token.alice) 7 plainConfig.nativeResourceId [] 1
  b.receive (.signed Verifier.operator) Token.alice 2 plainConfig.nativeResourceId

theorem tradeRun_steps {b : Books outConfig} (h : tradeRun listedBooks = .ok b) :
    ReflTransGen (BookStep ∅) openBooks b := by
  simp only [tradeRun, bind_eq_ok] at h
  obtain ⟨first, hfirst, second, hsecond, third, hthird, hlast⟩ := h
  have hsigner : Origin.signed Token.alice ≠ .signed outConfig.bridgeAccount := by decide
  exact (((listedBooks_steps.tail (.receive hfirst)).tail (.send hsigner hsecond)).tail (.send hsigner hthird)).tail
    (.receive hlast)

/-- Two of the five are there, and the bridge keeps five more units of the native token. -/
theorem bridge_books_alice : ∃ b : Books outConfig, tradeRun listedBooks = .ok b ∧
    b.came 1 = 5 * 10 ^ 18 ∧ b.went 1 = 3 * 10 ^ 18 ∧ b.went 0 = 7 ∧ b.came 0 = 2 ∧
    Token.held 1 b.state.asset.balances + b.went 1 = b.came 1 ∧
    openBooks.state.locked + b.went 0 ≤ b.state.locked + b.came 0 := by
  obtain ⟨b, hrun, hbooks⟩ := exists_of_succeedsWith (x := tradeRun listedBooks)
    (p := fun b => (b.came 1 = 5 * 10 ^ 18 ∧ b.went 1 = 3 * 10 ^ 18) ∧ b.went 0 = 7 ∧ b.came 0 = 2 ∧
      b.created = 1) (by decide +kernel)
  obtain ⟨⟨hcame, hwent⟩, hwentNative, hcameNative, hcreated⟩ := of_decide_eq_true hbooks
  have hothers : (1 : TokenId) ∉ (∅ : Set TokenId) := Set.notMem_empty 1
  have hbalanced := bridge_books Balances.plain_exact rfl (by decide) hothers openBooks_opening (tradeRun_steps hrun)
    (by rw [hcreated]; decide)
  exact ⟨b, hrun, hcame, hwent, hwentNative, hcameNative, hbalanced.1 (by decide), hbalanced.2⟩

/-- The two transfers are the first two. -/
theorem nonces_consecutive_alice : ∃ b : Books outConfig, tradeRun listedBooks = .ok b ∧
    sentTo 1 b.state = countdown 2 ∧ (sentTo 1 b.state).Nodup := by
  obtain ⟨b, hrun, hlength⟩ := exists_of_succeedsWith (x := tradeRun listedBooks)
    (p := fun b => (sentTo 1 b.state).length = 2) (by decide +kernel)
  have hlength := of_decide_eq_true hlength
  have hsteps : ReflTransGen NonceStep openBooks.state b.state :=
    (tradeRun_steps hrun).lift Books.state fun _ _ hstep => hstep.nonceStep
  obtain ⟨hnonces, -, hnodup⟩ := nonces_consecutive rfl (fun _ => rfl) hsteps 1
  rw [hlength] at hnonces hnodup
  exact ⟨b, hrun, hnonces, hnodup (by decide)⟩

end Fusotao.ChainBridgeHandler
