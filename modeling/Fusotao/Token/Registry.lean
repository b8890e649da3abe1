import Fusotao.Base.Transition
import Fusotao.Token.Issuance

/-!
# Ids and contracts

The octopus bridge finds a token by its contract, and the contract of a token by its id. The two lookups are inverse
to each other as long as the counter of ids does not wrap: then no id is given twice.
-/

namespace Fusotao.Token

open Exec Word

variable {cfg : Config} {s s' : State cfg} {token id : TokenId} {who : AccountId} {value : U128}
  {info info' : XToken} {contract : List UInt8}

/-! ### Lookups -/

/-- The contract that the octopus bridge names a token by. -/
def nep141Contract? : XToken → Option (List UInt8)
  | .nep141 _ contract _ _ _ => some contract
  | _ => none

def tryGetAssetId (tokenId : List UInt8) (s : State cfg) : Option TokenId := s.tokenByName tokenId

def tryGetTokenId (assetId : TokenId) (s : State cfg) : Option (List UInt8) :=
  (s.tokens assetId).bind nep141Contract?

/-- What a token never changes: its variant, symbol, contract and decimals. -/
def blank (info : XToken) : XToken := (info.setTotal 0).setStable false

@[simp] theorem blank_setTotal (info : XToken) (total : U128) : blank (info.setTotal total) = blank info := by
  cases info <;> rfl

@[simp] theorem blank_setStable (info : XToken) (b : Bool) : blank (info.setStable b) = blank info := by
  cases info <;> rfl

@[simp] theorem blank_blank (info : XToken) : blank (blank info) = blank info := by
  cases info <;> rfl

theorem nep141Contract?_blank (info : XToken) : nep141Contract? (blank info) = nep141Contract? info := by
  cases info <;> rfl

/-! ### Calls -/

section Calls

-- What `pallet_balances` burns when a token is issued.
variable (burnFrom : cfg.balances.Store → AccountId → Result cfg.balances.Store)

def issue (origin : Origin) (tokenInfo : XToken) (s : State cfg) : Result (State cfg) := do
  let who ← ensureSigned origin
  let native ← burnFrom s.native who
  let (_, s) ← create tokenInfo { s with native }
  return s

/-- The calls that write to the registry. -/
inductive Registration
  | issue (origin : Origin) (tokenInfo : XToken)
  | create (tokenInfo : XToken)
  | markStable (id : TokenId)
  | doMint (token : TokenId) (beneficiary : AccountId) (amount : U128)
  | doBurn (token : TokenId) (target : AccountId) (amount : U128)
  | associateToken (chainId : ChainId) (contractId : List UInt8) (tokenId : TokenId)

def Registration.perform : Registration → State cfg → Result (State cfg)
  | .issue origin tokenInfo, s => Token.issue burnFrom origin tokenInfo s
  | .create tokenInfo, s => do
      let (_, s) ← Token.create tokenInfo s
      return s
  | .markStable id, s => Token.markStable id s
  | .doMint token beneficiary amount, s => Token.doMint token beneficiary amount s
  | .doBurn token target amount, s => do
      let (_, s) ← Token.doBurn token target amount s
      return s
  | .associateToken chainId contractId tokenId, s => .ok (Token.associateToken chainId contractId tokenId s)

/-- The storage a call leaves: what a call that fails has written is rolled back. -/
def Registration.outcome (call : Registration) (s : State cfg) : State cfg :=
  match call.perform burnFrom s with
  | .ok s' => s'
  | .error _ => s

end Calls

/-! ### What a call does to the registry -/

/-- What is left of the registry: the same tokens under the same ids. -/
structure SameRegistry (s s' : State cfg) : Prop where
  next : s'.nextTokenId = s.nextTokenId
  byName : s'.tokenByName = s.tokenByName
  tokens : ∀ id, (s'.tokens id).map blank = (s.tokens id).map blank

/-- A token is created under the next id. -/
structure Adds (tokenInfo : XToken) (s s' : State cfg) : Prop where
  next : s'.nextTokenId = s.nextTokenId + 1
  byName : ∀ contract, s'.tokenByName contract =
    if nep141Contract? tokenInfo = some contract then some s.nextTokenId else s.tokenByName contract
  unnamed : ∀ contract, nep141Contract? tokenInfo = some contract → s.tokenByName contract = none
  tokens : s'.tokens = s.tokens.insert s.nextTokenId (blank tokenInfo)

theorem SameRegistry.refl (s : State cfg) : SameRegistry s s := ⟨rfl, rfl, fun _ => rfl⟩

/-- A token is written back. -/
theorem sameRegistry_of_insert (hinfo : s.tokens token = some info) (hblank : blank info' = blank info)
    (hnext : s'.nextTokenId = s.nextTokenId) (hbyName : s'.tokenByName = s.tokenByName)
    (htokens : s'.tokens = s.tokens.insert token info') : SameRegistry s s' := by
  refine ⟨hnext, hbyName, fun id => ?_⟩
  rw [htokens, StorageMap.insert_apply]
  split
  · rename_i hid
    rw [hid, hinfo, Option.map_some, Option.map_some, hblank]
  · rfl

theorem create_adds {tokenInfo : XToken} (h : create tokenInfo s = .ok (id, s')) : Adds tokenInfo s s' := by
  unfold create at h
  cases tokenInfo with
  | nep141 symbol contract total stable decimals =>
      simp only [bind_eq_ok, ensure_eq_ok, pure_eq_ok, Prod.mk.injEq] at h
      obtain ⟨-, -, -, -, -, -, -, hnone, -, rfl, -, rfl⟩ := h
      refine ⟨rfl, fun name => ?_, fun name hname => ?_, rfl⟩
      · simp only [StorageMap.insert_apply, nep141Contract?, Option.some.injEq, eq_comm (a := name)]
      obtain rfl := Option.some.inj hname
      exact Option.isNone_iff_eq_none.mp hnone
  | erc20 symbol contract total stable decimals
  | bep20 symbol contract total stable decimals
  | polygon symbol contract total stable decimals =>
      simp only [bind_eq_ok, ensure_eq_ok, pure_eq_ok, Prod.mk.injEq] at h
      obtain ⟨-, -, -, -, -, -, -, rfl, -, rfl⟩ := h
      exact ⟨rfl, fun _ => rfl, fun name hname => absurd hname (by simp [nep141Contract?]), rfl⟩
  | fnd10 symbol total =>
      simp only [bind_eq_ok, pure_eq_ok, Prod.mk.injEq] at h
      obtain ⟨-, -, -, rfl, -, rfl⟩ := h
      exact ⟨rfl, fun _ => rfl, fun name hname => absurd hname (by simp [nep141Contract?]), rfl⟩

theorem markStable_sameRegistry (h : markStable token s = .ok s') : SameRegistry s s' := by
  unfold markStable at h
  simp only [bind_eq_ok, okOr_eq_ok] at h
  obtain ⟨info, hinfo, h⟩ := h
  cases info with
  | fnd10 => exact absurd h (by simp)
  | _ =>
      obtain rfl := pure_eq_ok.mp h
      exact sameRegistry_of_insert hinfo (blank_setStable _ _) rfl rfl rfl

theorem doMint_sameRegistry (h : doMint token who value s = .ok s') : SameRegistry s s' := by
  unfold doMint at h
  split at h
  · exact pure_eq_ok.mp h ▸ .refl s
  · simp only [bind_eq_ok, okOr_eq_ok] at h
    obtain ⟨info, hinfo, h⟩ := h
    cases hdecimals : info.decimals? with
    | some decimals =>
        simp only [hdecimals, bind_eq_ok, okOr_eq_ok, ensure_eq_ok, pure_eq_ok] at h
        obtain ⟨total, -, -, rfl, -, -, free, -, rfl⟩ := h
        exact sameRegistry_of_insert hinfo (blank_setTotal _ _) rfl rfl rfl
    | none =>
        simp only [hdecimals, bind_eq_ok, okOr_eq_ok, ensure_eq_ok, pure_eq_ok] at h
        obtain ⟨-, rfl, -, -, free, -, rfl⟩ := h
        exact sameRegistry_of_insert hinfo rfl rfl rfl rfl

theorem doBurn_sameRegistry {paid : U128} (h : doBurn token who value s = .ok (paid, s')) : SameRegistry s s' := by
  unfold doBurn at h
  simp only [bind_eq_ok, okOr_eq_ok, ensure_eq_ok] at h
  obtain ⟨-, -, info, hinfo, h⟩ := h
  cases hdecimals : info.decimals? with
  | some decimals =>
      simp only [hdecimals, bind_eq_ok, okOr_eq_ok, ensure_eq_ok, pure_eq_ok, Prod.mk.injEq] at h
      obtain ⟨total, -, -, rfl, -, -, account, -, free, -, -, rfl⟩ := h
      exact sameRegistry_of_insert hinfo (blank_setTotal _ _) rfl rfl rfl
  | none =>
      simp only [hdecimals, bind_eq_ok, okOr_eq_ok, ensure_eq_ok, pure_eq_ok, Prod.mk.injEq] at h
      obtain ⟨-, rfl, -, -, account, -, free, -, -, rfl⟩ := h
      exact sameRegistry_of_insert hinfo rfl rfl rfl rfl

section Calls

variable {burnFrom : cfg.balances.Store → AccountId → Result cfg.balances.Store} {call : Registration}

/-- The token that a call creates if it succeeds. -/
def Registration.created? : Registration → Option XToken
  | .issue _ tokenInfo | .create tokenInfo => some tokenInfo
  | _ => none

/-- A call that succeeds adds its token, or leaves the tokens as they are. -/
theorem perform_eq_ok (h : call.perform burnFrom s = .ok s') :
    (∃ tokenInfo, call.created? = some tokenInfo ∧ Adds tokenInfo s s') ∨
      call.created? = none ∧ SameRegistry s s' := by
  cases call with
  | issue origin tokenInfo =>
      simp only [Registration.perform, Token.issue, bind_eq_ok, pure_eq_ok, Prod.exists, exists_eq_right] at h
      obtain ⟨who, -, native, -, id, hcreate⟩ := h
      have hadds := create_adds hcreate
      exact .inl ⟨tokenInfo, rfl, hadds.next, hadds.byName, hadds.unnamed, hadds.tokens⟩
  | create tokenInfo =>
      simp only [Registration.perform, bind_eq_ok, pure_eq_ok, Prod.exists, exists_eq_right] at h
      obtain ⟨id, hcreate⟩ := h
      exact .inl ⟨tokenInfo, rfl, create_adds hcreate⟩
  | markStable id => exact .inr ⟨rfl, markStable_sameRegistry h⟩
  | doMint token beneficiary amount => exact .inr ⟨rfl, doMint_sameRegistry h⟩
  | doBurn token target amount =>
      simp only [Registration.perform, bind_eq_ok, pure_eq_ok, Prod.exists, exists_eq_right] at h
      obtain ⟨paid, hburn⟩ := h
      exact .inr ⟨rfl, doBurn_sameRegistry hburn⟩
  | associateToken chainId contractId tokenId =>
      obtain rfl := Except.ok.inj h
      exact .inr ⟨rfl, rfl, rfl, fun _ => rfl⟩

end Calls

/-! ### The invariant -/

/-- A contract names the token that has it, and every id was given by the counter. -/
structure Registered (s : State cfg) : Prop where
  byName : ∀ contract id, tryGetAssetId contract s = some id ↔ tryGetTokenId id s = some contract
  ids : ∀ id info, s.tokens id = some info → 1 ≤ id.toNat ∧ id.toNat < s.nextTokenId.toNat
  next : 1 ≤ s.nextTokenId.toNat

theorem Registered.fresh (hinv : Registered s) : s.tokens s.nextTokenId = none := by
  cases htoken : s.tokens s.nextTokenId with
  | none => rfl
  | some info => exact absurd (hinv.ids _ info htoken).2 (Nat.lt_irrefl _)

theorem registered_genesis (native : cfg.balances.Store) : Registered (State.genesis native) where
  byName contract id := by simp [tryGetAssetId, tryGetTokenId, State.genesis]
  ids id info hinfo := absurd hinfo (by simp [State.genesis])
  next := by simp [State.genesis]

theorem SameRegistry.tryGetTokenId (h : SameRegistry s s') (id : TokenId) :
    tryGetTokenId id s' = Token.tryGetTokenId id s := by
  have hmap := congrArg (fun info? : Option XToken => info?.bind nep141Contract?) (h.tokens id)
  simp only [Option.bind_map, Function.comp_def, nep141Contract?_blank] at hmap
  exact hmap

theorem Registered.same (hinv : Registered s) (h : SameRegistry s s') : Registered s' := by
  refine ⟨fun contract id => ?_, fun id info hinfo => ?_, by rw [h.next]; exact hinv.next⟩
  · rw [h.tryGetTokenId, ← hinv.byName, tryGetAssetId, tryGetAssetId, h.byName]
  · have hmap := h.tokens id
    rw [hinfo, Option.map_some] at hmap
    obtain ⟨old, hold, -⟩ := Option.map_eq_some_iff.mp hmap.symm
    rw [h.next]
    exact hinv.ids id old hold

/-- The token takes an id that no token has, and a name that no token is found by. -/
theorem Registered.add (hinv : Registered s) {tokenInfo : XToken} (h : Adds tokenInfo s s')
    (hroom : s.nextTokenId.toNat + 1 < 2 ^ 32) : Registered s' := by
  have hnext : s'.nextTokenId.toNat = s.nextTokenId.toNat + 1 := by
    rw [h.next]
    exact toNat_add_of_lt hroom
  refine ⟨fun contract id => ?_, fun id info hinfo => ?_, by omega⟩
  · have hold := hinv.byName contract id
    have hnew : tryGetTokenId id s' =
        if id = s.nextTokenId then nep141Contract? tokenInfo else tryGetTokenId id s := by
      rw [tryGetTokenId, h.tokens, StorageMap.insert_apply]
      split
      · exact nep141Contract?_blank tokenInfo
      · rfl
    have hnone : tryGetTokenId s.nextTokenId s = none := by
      rw [tryGetTokenId, hinv.fresh]
      rfl
    rw [tryGetAssetId] at hold
    rw [hnew, tryGetAssetId, h.byName]
    by_cases hname : nep141Contract? tokenInfo = some contract
    · -- The name is new, so no other token has it.
      rw [h.unnamed contract hname] at hold
      rw [if_pos hname]
      by_cases hid : id = s.nextTokenId
      · simp [hid, hname]
      · rw [if_neg hid, ← hold]
        simp [Ne.symm hid]
    · rw [if_neg hname]
      by_cases hid : id = s.nextTokenId
      · subst hid
        rw [if_pos rfl, hold, hnone]
        simp [hname]
      · rw [if_neg hid, hold]
  · rw [h.tokens] at hinfo
    rcases StorageMap.insert_eq_some hinfo with ⟨rfl, rfl⟩ | ⟨-, hinfo⟩
    · rw [hnext]
      exact ⟨hinv.next, Nat.lt_succ_self _⟩
    · obtain ⟨hone, hlt⟩ := hinv.ids id info hinfo
      exact ⟨hone, by omega⟩

/-! ### Runs -/

section Runs

variable {burnFrom : cfg.balances.Store → AccountId → Result cfg.balances.Store}

/-- A call is made, whether it succeeds or not, of those that may be made. -/
def Registers (burnFrom : cfg.balances.Store → AccountId → Result cfg.balances.Store)
    (allowed : State cfg → Registration → Prop) (s s' : State cfg) : Prop :=
  ∃ call : Registration, allowed s call ∧ s' = call.outcome burnFrom s

def AtGenesis (s : State cfg) : Prop := ∃ native, s = .genesis native

/-- A call that creates a token does not use up the ids. -/
def LeavesIds (s : State cfg) (call : Registration) : Prop :=
  call.created? ≠ none → s.nextTokenId.toNat + 1 < 2 ^ 32

/-- What a call leaves of the tokens that are there. -/
structure Keeps (s s' : State cfg) : Prop where
  tokens : ∀ id info, s.tokens id = some info → ∃ info', s'.tokens id = some info' ∧ blank info' = blank info

theorem SameRegistry.keeps (h : SameRegistry s s') : Keeps s s' := by
  refine ⟨fun id info hinfo => ?_⟩
  have hmap := h.tokens id
  rw [hinfo, Option.map_some] at hmap
  exact Option.map_eq_some_iff.mp hmap

theorem Adds.keeps (hinv : Registered s) {tokenInfo : XToken} (h : Adds tokenInfo s s') : Keeps s s' := by
  refine ⟨fun id info hinfo => ⟨info, ?_, rfl⟩⟩
  have hne : id ≠ s.nextTokenId := by
    rintro rfl
    exact absurd (hinv.fresh.symm.trans hinfo) (by simp)
  rw [h.tokens, StorageMap.insert_of_ne _ _ hne, hinfo]

theorem Registered.outcome (hinv : Registered s) {call : Registration} (hroom : LeavesIds s call) :
    Registered (call.outcome burnFrom s) ∧ Keeps s (call.outcome burnFrom s) := by
  unfold Registration.outcome
  cases hcall : call.perform burnFrom s with
  | error e => exact ⟨hinv, (SameRegistry.refl s).keeps⟩
  | ok s' =>
      rcases perform_eq_ok hcall with ⟨tokenInfo, hcreated, hadds⟩ | ⟨-, hsame⟩
      · exact ⟨hinv.add hadds (hroom (by simp [hcreated])), hadds.keeps hinv⟩
      · exact ⟨hinv.same hsame, hsame.keeps⟩

theorem registered_of_reachable (h : Transition.Reachable AtGenesis (Registers burnFrom LeavesIds) s) :
    Registered s := by
  refine h.invariant Registered ?_ ?_
  · rintro s ⟨native, rfl⟩
    exact registered_genesis native
  · rintro s s' hinv ⟨call, hroom, rfl⟩
    exact (hinv.outcome hroom).1

/-- Contracts and ids name each other, and ids are in the range of the counter. -/
structure RegistryExact (s : State cfg) : Prop where
  byName : ∀ contract id, s.tokenByName contract = some id ↔ ∃ symbol total stable decimals,
    s.tokens id = some (.nep141 symbol contract total stable decimals)
  inverse : ∀ contract id, tryGetAssetId contract s = some id ↔ tryGetTokenId id s = some contract
  unique : ∀ contract id id', tryGetTokenId id s = some contract → tryGetTokenId id' s = some contract → id = id'
  ids : ∀ id info, s.tokens id = some info →
    1 ≤ id.toNat ∧ id.toNat < s.nextTokenId.toNat ∧ id ≠ cfg.nativeTokenId

theorem tryGetTokenId_eq_some : tryGetTokenId id s = some contract ↔ ∃ symbol total stable decimals,
    s.tokens id = some (.nep141 symbol contract total stable decimals) := by
  unfold tryGetTokenId
  constructor
  · intro h
    obtain ⟨info, hinfo, hcontract⟩ := Option.bind_eq_some_iff.mp h
    cases info with
    | nep141 symbol name total stable decimals =>
        obtain rfl := Option.some.inj hcontract
        exact ⟨symbol, total, stable, decimals, hinfo⟩
    | _ => exact absurd hcontract (by simp [nep141Contract?])
  · rintro ⟨symbol, total, stable, decimals, hinfo⟩
    rw [hinfo]
    rfl

theorem Registered.exact (hinv : Registered s) (hnative : cfg.nativeTokenId = 0) : RegistryExact s := by
  refine ⟨fun contract id => ?_, hinv.byName, fun contract id id' hid hid' => ?_, fun id info hinfo => ?_⟩
  · rw [← tryGetTokenId_eq_some, ← hinv.byName]
    rfl
  · rw [← hinv.byName] at hid hid'
    exact Option.some.inj (hid.symm.trans hid')
  · obtain ⟨hone, hlt⟩ := hinv.ids id info hinfo
    refine ⟨hone, hlt, fun heq => ?_⟩
    rw [heq, hnative] at hone
    exact absurd hone (by decide)

/-- In every run in which the ids are not used up, ids and contracts name each other, no token is written over and
none changes its name, and a call that creates no token leaves the registry as it is. -/
theorem tokens_registered (hnative : cfg.nativeTokenId = 0)
    (h : Transition.Reachable AtGenesis (Registers burnFrom LeavesIds) s) :
    RegistryExact s ∧
      (∀ tokenInfo id s', create tokenInfo s = .ok (id, s') → s.tokens id = none) ∧
      (∀ call : Registration, LeavesIds s call → Keeps s (call.outcome burnFrom s)) ∧
      ∀ (call : Registration) e, call.perform burnFrom s = .error e → call.outcome burnFrom s = s := by
  have hinv := registered_of_reachable h
  refine ⟨hinv.exact hnative, fun tokenInfo id s' hcreate => ?_, fun call hroom => (hinv.outcome hroom).2,
    fun call e hcall => ?_⟩
  · rw [(create_eq_ok hcreate).1]
    exact hinv.fresh
  · rw [Registration.outcome, hcall]

end Runs

/-! ### An id that is given again -/

/-- A token of the octopus bridge. -/
def nearToken : XToken := .nep141 [78, 69, 82] [110, 101, 97, 114] 0 false 24

/-- The storage once `nearToken` is created. -/
def nearState : State plainConfig where
  balances := emptyState.balances
  tokens := emptyState.tokens.insert 1 nearToken
  nextTokenId := 2
  tokenByName := emptyState.tokenByName.insert [110, 101, 97, 114] 1
  tokenByContract := emptyState.tokenByContract
  native := emptyState.native

/-- Nothing is burnt when a token is issued. -/
def burnNothing (native : plainConfig.balances.Store) (_ : AccountId) : Result plainConfig.balances.Store :=
  .ok native

set_option maxRecDepth 4000 in
theorem outcome_nearToken : nearState = (Registration.create nearToken).outcome burnNothing emptyState := rfl

theorem outcome_unitToken (s : State plainConfig) :
    { s with nextTokenId := s.nextTokenId + 1, tokens := s.tokens.insert s.nextTokenId unitToken } =
      (Registration.create unitToken).outcome burnNothing s := by
  rw [Registration.outcome, Registration.perform, create_unitToken]
  rfl

theorem tokens_registered_nearToken : RegistryExact nearState ∧
    tryGetAssetId [110, 101, 97, 114] nearState = some 1 := by
  have hroom : LeavesIds emptyState (.create nearToken) := fun _ => by decide
  have hreach : Transition.Reachable AtGenesis (Registers burnNothing LeavesIds) nearState :=
    ⟨emptyState, ⟨_, rfl⟩, .single ⟨_, hroom, outcome_nearToken⟩⟩
  exact ⟨(tokens_registered rfl hreach).1, rfl⟩

/-- Any number of tokens may be created. -/
theorem registers_creations (k : Nat) : ∃ s : State plainConfig,
    Transition.Reachable AtGenesis (Registers burnNothing fun _ _ => True) s ∧
      s.nextTokenId = 2 + BitVec.ofNat 32 k ∧ s.tokenByName = nearState.tokenByName := by
  induction k with
  | zero =>
      refine ⟨nearState, ⟨emptyState, ⟨_, rfl⟩, .single ⟨_, trivial, outcome_nearToken⟩⟩, by decide, rfl⟩
  | succ k ih =>
      obtain ⟨s, ⟨s₀, hgenesis, hrun⟩, hnext, hbyName⟩ := ih
      refine ⟨_, ⟨s₀, hgenesis, hrun.tail ⟨.create unitToken, trivial, outcome_unitToken s⟩⟩, ?_, hbyName⟩
      simp only [hnext]
      rw [BitVec.ofNat_add k 1, BitVec.add_assoc]
      rfl

/-- The counter wraps, and another token takes the id of the first one. -/
theorem wrapped_id_renames : ∃ s : State plainConfig,
    Transition.Reachable AtGenesis (Registers burnNothing fun _ _ => True) s ∧ ¬ RegistryExact s := by
  obtain ⟨s, ⟨s₀, hgenesis, hrun⟩, hnext, hbyName⟩ := registers_creations (2 ^ 32 - 1)
  have hone : s.nextTokenId = 1 := hnext.trans (by decide)
  refine ⟨_, ⟨s₀, hgenesis, hrun.tail ⟨.create unitToken, trivial, outcome_unitToken s⟩⟩, fun hexact => ?_⟩
  have hname : s.tokenByName [110, 101, 97, 114] = some 1 := by
    rw [hbyName]
    rfl
  obtain ⟨symbol, total, stable, decimals, htoken⟩ := (hexact.byName _ _).mp hname
  simp only [hone, StorageMap.insert_self] at htoken
  exact absurd (Option.some.inj htoken) (by simp [unitToken])

end Fusotao.Token
