import Fusotao.Base.Escrow
import Fusotao.Markets.Pallet
import Fusotao.Token.Transfer
import Fusotao.Verifier.Plain

/-!
# Brokers

Whoever registers a broker stakes for it, and gets the stake back when it deregisters the broker. The stakes are kept on
an account of the pallet that nobody signs for.
-/

namespace Fusotao.Markets

open Exec Relation
open Token (balancesOf freeBalance totalBalance)

structure Broker where
  beneficiary : AccountId
  staked : U128
  registerAt : BlockNumber
  rpcEndpoint : List UInt8
  name : List UInt8
  deriving DecidableEq

structure BrokerConfig extends Config where
  brokerStakingThreshold : U128
  /-- The account of the pallet. -/
  systemAccount : AccountId

structure BrokerState (cfg : BrokerConfig) extends State cfg.toConfig where
  brokers : StorageMap AccountId Broker

/-- How a call about a broker ends without a result. -/
inductive BrokerFault
  | brokerNotFound
  | brokerAlreadyRegistered
  | brokerNameTooLong
  /-- The origin is not signed, or the transfer fails. -/
  | abort (abort : Abort)
  deriving DecidableEq

variable {cfg : BrokerConfig} {s s' s₀ : BrokerState cfg} {broker who : AccountId} {origin : Origin} {info : Broker}

def BrokerState.asset (s : BrokerState cfg) : Token.State cfg.verifier.token := s.verifier.asset

/-- A transfer of the native token, with everything else of the storage as it was. -/
def transferNative (source target : AccountId) (amount : U128) (s : BrokerState cfg) :
    Except BrokerFault (BrokerState cfg) :=
  match Token.transferToken source cfg.verifier.token.nativeTokenId amount target s.asset with
  | .ok (_, asset) => .ok { s with verifier := { s.verifier with asset } }
  | .error e => .error (.abort e)

def signedBy (origin : Origin) : Except BrokerFault AccountId :=
  match ensureSigned origin with
  | .ok who => .ok who
  | .error e => .error (.abort e)

/-- The stake is taken before it is looked up whether the broker is there; a call that fails is rolled back. -/
def registerBroker (origin : Origin) (broker : AccountId) (rpcEndpoint name : List UInt8) (s : BrokerState cfg) :
    Except BrokerFault (BrokerState cfg) := do
  let beneficiary ← signedBy origin
  ensure (name.length ≤ 20) BrokerFault.brokerNameTooLong
  let requires := cfg.brokerStakingThreshold
  let s ← transferNative beneficiary cfg.systemAccount requires s
  ensure ((s.brokers broker).isNone) BrokerFault.brokerAlreadyRegistered
  return { s with
    brokers := s.brokers.insert broker
      { beneficiary, staked := requires, registerAt := s.verifier.now, rpcEndpoint, name } }

def deregisterBroker (origin : Origin) (broker : AccountId) (s : BrokerState cfg) :
    Except BrokerFault (BrokerState cfg) := do
  let beneficiary ← signedBy origin
  let info ← okOr (s.brokers broker) BrokerFault.brokerNotFound
  ensure (info.beneficiary = beneficiary) BrokerFault.brokerNotFound
  let s ← transferNative cfg.systemAccount info.beneficiary info.staked s
  return { s with brokers := s.brokers.remove broker }

def brokerSetRpcEndpoint (origin : Origin) (broker : AccountId) (rpcEndpoint : List UInt8) (s : BrokerState cfg) :
    Except BrokerFault (BrokerState cfg) := do
  let admin ← signedBy origin
  match s.brokers broker with
  | some info =>
      if info.beneficiary = admin then
        return { s with brokers := s.brokers.insert broker { info with rpcEndpoint } }
      else .error .brokerNotFound
  | none => .error .brokerNotFound

/-- Fees of a broker go to its beneficiary, those of anybody else to itself. -/
def beneficiary (origin : AccountId) (s : BrokerState cfg) : AccountId :=
  match s.brokers origin with
  | some info => info.beneficiary
  | none => origin

inductive BrokerCall
  | register (broker : AccountId) (rpcEndpoint name : List UInt8)
  | deregister (broker : AccountId)
  | setRpcEndpoint (broker : AccountId) (rpcEndpoint : List UInt8)
  deriving DecidableEq

def BrokerCall.dispatch (call : BrokerCall) (origin : Origin) (s : BrokerState cfg) :
    Except BrokerFault (BrokerState cfg) :=
  match call with
  | .register broker rpcEndpoint name => registerBroker origin broker rpcEndpoint name s
  | .deregister broker => deregisterBroker origin broker s
  | .setRpcEndpoint broker rpcEndpoint => brokerSetRpcEndpoint origin broker rpcEndpoint s

/-! ### What a call does -/

theorem signedBy_eq_ok : signedBy origin = .ok who ↔ origin = .signed who := by
  cases origin with
  | root => simp [signedBy, ensureSigned]
  | signed other => simp [signedBy, ensureSigned]

theorem transferNative_eq_ok {target : AccountId} {amount : U128} (h : transferNative who target amount s = .ok s') :
    ∃ paid asset, Token.transferToken who cfg.verifier.token.nativeTokenId amount target s.asset = .ok (paid, asset) ∧
      s' = { s with verifier := { s.verifier with asset } } := by
  unfold transferNative at h
  split at h
  · rename_i paid asset htransfer
    exact ⟨paid, asset, htransfer, (Except.ok.inj h).symm⟩
  · exact absurd h (by simp)

/-- A broker is entered with its stake, or its entry is dropped by its beneficiary and the stake paid, or its endpoint
is written by its beneficiary. -/
inductive Written (call : BrokerCall) (origin : Origin) (s s' : BrokerState cfg) : Prop
  | entered (broker : AccountId) (info : Broker) (horigin : origin = .signed info.beneficiary)
      (hstaked : info.staked = cfg.brokerStakingThreshold) (hfree : s.brokers broker = none) (paid : U128)
      (htransfer : Token.transferToken info.beneficiary cfg.verifier.token.nativeTokenId info.staked
        cfg.systemAccount s.asset = .ok (paid, s'.asset))
      (hbrokers : s'.brokers = s.brokers.insert broker info)
  | dropped (broker : AccountId) (info : Broker) (hcall : call = .deregister broker)
      (horigin : origin = .signed info.beneficiary) (hinfo : s.brokers broker = some info) (paid : U128)
      (htransfer : Token.transferToken cfg.systemAccount cfg.verifier.token.nativeTokenId info.staked
        info.beneficiary s.asset = .ok (paid, s'.asset))
      (hbrokers : s'.brokers = s.brokers.remove broker)
  | endpoint (broker : AccountId) (info : Broker) (rpcEndpoint : List UInt8)
      (horigin : origin = .signed info.beneficiary) (hinfo : s.brokers broker = some info)
      (hasset : s'.asset = s.asset) (hbrokers : s'.brokers = s.brokers.insert broker { info with rpcEndpoint })

theorem BrokerCall.dispatch_written {call : BrokerCall} (h : call.dispatch origin s = .ok s') :
    Written call origin s s' := by
  cases call with
  | register broker rpcEndpoint name =>
      simp only [BrokerCall.dispatch, registerBroker, bind_eq_ok, ensure_eq_ok, exists_const, signedBy_eq_ok,
        pure_eq_ok] at h
      obtain ⟨who, rfl, -, mid, hmid, hfree, rfl⟩ := h
      obtain ⟨paid, asset, htransfer, rfl⟩ := transferNative_eq_ok hmid
      exact .entered broker _ rfl rfl (Option.isNone_iff_eq_none.mp hfree) paid htransfer rfl
  | deregister broker =>
      simp only [BrokerCall.dispatch, deregisterBroker, bind_eq_ok, ensure_eq_ok, exists_const, signedBy_eq_ok,
        okOr_eq_ok, pure_eq_ok] at h
      obtain ⟨who, rfl, info, hinfo, rfl, mid, hmid, rfl⟩ := h
      obtain ⟨paid, asset, htransfer, rfl⟩ := transferNative_eq_ok hmid
      exact .dropped broker info rfl rfl hinfo paid htransfer rfl
  | setRpcEndpoint broker rpcEndpoint =>
      simp only [BrokerCall.dispatch, brokerSetRpcEndpoint, bind_eq_ok, signedBy_eq_ok] at h
      obtain ⟨who, rfl, h⟩ := h
      split at h
      · rename_i info hinfo
        split at h
        · rename_i hadmin
          obtain rfl := pure_eq_ok.mp h
          exact .endpoint broker info rpcEndpoint (by rw [hadmin]) hinfo rfl rfl
        · exact absurd h (by simp)
      · exact absurd h (by simp)

/-! ### The stakes -/

/-- What the account of the pallet has. -/
def held (s : BrokerState cfg) : Nat :=
  (freeBalance cfg.verifier.token.nativeTokenId cfg.systemAccount s.asset).toNat

/-- A call about a broker for which `P` holds, or something else that takes nothing from the account of the pallet. -/
inductive BrokerStep (P : BrokerCall → Origin → Prop) : BrokerState cfg → BrokerState cfg → Prop
  | call {s s' : BrokerState cfg} (call : BrokerCall) (origin : Origin) (hcall : P call origin)
      (h : call.dispatch origin s = .ok s') : BrokerStep P s s'
  | other (s s' : BrokerState cfg) (hbrokers : s'.brokers = s.brokers) (hheld : held s ≤ held s') : BrokerStep P s s'

/-- Nobody signs for the account of the pallet. -/
def Unsigned (cfg : BrokerConfig) (_ : BrokerCall) (origin : Origin) : Prop := origin ≠ .signed cfg.systemAccount

def stakeOf (info : Broker) : Nat := info.staked.toNat

/-- The stakes are there, and each is owed to somebody else. -/
structure Backed (base : Nat) (s : BrokerState cfg) : Prop where
  covered : Escrow.Covered stakeOf base s.brokers (held s)
  beneficiary : ∀ broker info, s.brokers broker = some info → info.beneficiary ≠ cfg.systemAccount

theorem Backed.written {base : Nat} {call : BrokerCall} (hexact : cfg.verifier.token.balances.Exact)
    (horigin : origin ≠ .signed cfg.systemAccount) (h : Backed base s) (hwritten : Written call origin s s') :
    Backed base s' := by
  cases hwritten with
  | entered broker info hsigned hstaked hfree paid htransfer hbrokers =>
      have hne : info.beneficiary ≠ cfg.systemAccount := fun heq => horigin (hsigned.trans (congrArg _ heq))
      have hcredit := (Token.transferToken_eq_ok hexact hne htransfer).2.1
      refine ⟨?_, fun other info' hinfo' => ?_⟩
      · rw [hbrokers]
        exact h.covered.deposit hfree hcredit.ge
      · rw [hbrokers] at hinfo'
        rcases StorageMap.insert_eq_some hinfo' with ⟨-, rfl⟩ | ⟨-, hinfo'⟩
        · exact hne
        · exact h.beneficiary other info' hinfo'
  | dropped broker info hcall hsigned hinfo paid htransfer hbrokers =>
      have hdebit := (Token.transferToken_eq_ok hexact (h.beneficiary broker info hinfo).symm htransfer).1
      refine ⟨?_, fun other info' hinfo' => ?_⟩
      · rw [hbrokers]
        exact h.covered.payOut hinfo hdebit.le
      · rw [hbrokers] at hinfo'
        exact h.beneficiary other info' (StorageMap.remove_eq_some hinfo').2
  | endpoint broker info rpcEndpoint hsigned hinfo hasset hbrokers =>
      have hheld : held s ≤ held s' := by rw [held, held, hasset]
      refine ⟨?_, fun other info' hinfo' => ?_⟩
      · rw [hbrokers]
        exact h.covered.rewrite hinfo rfl hheld
      · rw [hbrokers] at hinfo'
        rcases StorageMap.insert_eq_some hinfo' with ⟨-, rfl⟩ | ⟨-, hinfo'⟩
        · exact h.beneficiary broker info hinfo
        · exact h.beneficiary other info' hinfo'

theorem backed_of_steps (hexact : cfg.verifier.token.balances.Exact) (hempty : ∀ broker, s₀.brokers broker = none)
    (h : ReflTransGen (BrokerStep (Unsigned cfg)) s₀ s) : Backed (held s₀) s := by
  induction h with
  | refl =>
      refine ⟨Escrow.covered_of_empty hempty (le_refl _), fun broker info hinfo => ?_⟩
      exact absurd ((hempty broker).symm.trans hinfo) (by simp)
  | tail _ hlast ih =>
      cases hlast with
      | call call origin hcall h => exact ih.written hexact hcall (BrokerCall.dispatch_written h)
      | other hbrokers hheld =>
          refine ⟨?_, fun broker info hinfo => ih.beneficiary broker info (hbrokers ▸ hinfo)⟩
          rw [hbrokers]
          exact ih.covered.outside hheld

/-- What the beneficiary of a broker gets back. -/
structure Returned (broker : AccountId) (info : Broker) (s s' : BrokerState cfg) : Prop where
  dropped : s'.brokers = s.brokers.remove broker
  paid : (freeBalance cfg.verifier.token.nativeTokenId info.beneficiary s'.asset).toNat =
    (freeBalance cfg.verifier.token.nativeTokenId info.beneficiary s.asset).toNat + info.staked.toNat
  held : Markets.held s = Markets.held s' + info.staked.toNat

theorem Backed.deregister {base : Nat} (hunlocked : cfg.verifier.token.balances.Unlocked cfg.systemAccount)
    (htotal : totalBalance cfg.verifier.token.nativeTokenId s.asset < 2 ^ 128) (h : Backed base s)
    (hinfo : s.brokers broker = some info) :
    ∃ s', deregisterBroker (.signed info.beneficiary) broker s = .ok s' ∧ Returned broker info s s' := by
  have hne := (h.beneficiary broker info hinfo).symm
  have hle : info.staked.toNat ≤ held s := by
    have hcovered := h.covered.le hinfo
    rw [stakeOf] at hcovered
    omega
  obtain ⟨asset, htransfer⟩ := Token.transferToken_ok_of_total hunlocked hne hle htotal
  obtain ⟨hdebit, hcredit, -⟩ := Token.transferToken_eq_ok hunlocked.toExact hne htransfer
  have hpaid : transferNative cfg.systemAccount info.beneficiary info.staked s =
      .ok { s with verifier := { s.verifier with asset } } := by
    rw [transferNative, htransfer]
  refine ⟨{ s with verifier := { s.verifier with asset }, brokers := s.brokers.remove broker }, ?_, rfl, hcredit,
    hdebit⟩
  simp only [deregisterBroker, signedBy_eq_ok.mpr rfl, hinfo, okOr_some, ok_bind, ensure, if_true, hpaid]
  rfl

/-! ### The beneficiary -/

/-- The call is not the one by which the beneficiary deregisters the broker. -/
def LeavesBroker (broker who : AccountId) (call : BrokerCall) (origin : Origin) : Prop :=
  ¬ (call = .deregister broker ∧ origin = .signed who)

/-- The entry of a broker, its endpoint apart, is written once. -/
theorem broker_stays {P : BrokerCall → Origin → Prop} (hleaves : ∀ call origin, P call origin →
      LeavesBroker broker info.beneficiary call origin)
    (hinfo : s.brokers broker = some info) (h : ReflTransGen (BrokerStep P) s s') :
    ∃ rpcEndpoint, s'.brokers broker = some { info with rpcEndpoint } := by
  induction h with
  | refl => exact ⟨info.rpcEndpoint, hinfo⟩
  | tail _ hlast ih =>
      obtain ⟨rpcEndpoint, hmid⟩ := ih
      cases hlast with
      | call call origin hcall h =>
          cases BrokerCall.dispatch_written h with
          | entered other info' hsigned hstaked hfree paid htransfer hbrokers =>
              rw [hbrokers, StorageMap.insert_of_ne]
              · exact ⟨rpcEndpoint, hmid⟩
              · rintro rfl
                exact absurd (hfree.symm.trans hmid) (by simp)
          | dropped other info' heq hsigned hinfo' paid htransfer hbrokers =>
              rw [hbrokers, StorageMap.remove_of_ne]
              · exact ⟨rpcEndpoint, hmid⟩
              · rintro rfl
                obtain rfl := Option.some.inj (hinfo'.symm.trans hmid)
                exact hleaves call origin hcall ⟨heq, hsigned⟩
          | endpoint other info' endpoint hsigned hinfo' hasset hbrokers =>
              by_cases hother : broker = other
              · subst hother
                obtain rfl := Option.some.inj (hinfo'.symm.trans hmid)
                exact ⟨endpoint, by rw [hbrokers, StorageMap.insert_self]⟩
              · exact ⟨rpcEndpoint, by rw [hbrokers, StorageMap.insert_of_ne _ _ hother, hmid]⟩
      | other hbrokers hheld => exact ⟨rpcEndpoint, by rw [hbrokers, hmid]⟩

/-- In every run from a start without brokers in which nothing is taken from the account of the pallet, the stakes are
there, besides what the account had. Whenever its beneficiary asks, a broker is deregistered and the stake is paid back
in full, and until then its fees go to that beneficiary. -/
theorem stakes_returnable (hunlocked : cfg.verifier.token.balances.Unlocked cfg.systemAccount)
    (hempty : ∀ broker, s₀.brokers broker = none) (h : ReflTransGen (BrokerStep (Unsigned cfg)) s₀ s) :
    Escrow.Covered stakeOf (held s₀) s.brokers (held s) ∧
      ∀ broker info, s.brokers broker = some info → ∀ s', ReflTransGen (BrokerStep fun call origin =>
          Unsigned cfg call origin ∧ LeavesBroker broker info.beneficiary call origin) s s' →
        beneficiary broker s' = info.beneficiary ∧
        (totalBalance cfg.verifier.token.nativeTokenId s'.asset < 2 ^ 128 →
          ∃ s'', deregisterBroker (.signed info.beneficiary) broker s' = .ok s'' ∧ Returned broker info s' s'') := by
  refine ⟨(backed_of_steps hunlocked.toExact hempty h).covered, fun broker info hinfo s' hlater => ?_⟩
  obtain ⟨rpcEndpoint, hinfo'⟩ := broker_stays (fun call origin hcall => hcall.2) hinfo hlater
  have hrun : ReflTransGen (BrokerStep (Unsigned cfg)) s₀ s' := by
    refine h.trans (ReflTransGen.mono (fun mid last hstep => ?_) _ _ hlater)
    cases hstep with
    | call call origin hcall h => exact .call call origin hcall.1 h
    | other hbrokers hheld => exact .other mid last hbrokers hheld
  refine ⟨?_, fun htotal => ?_⟩
  · rw [Markets.beneficiary, hinfo']
  · have hbacked := backed_of_steps hunlocked.toExact hempty hrun
    obtain ⟨s'', hcall, hreturned⟩ := hbacked.deregister hunlocked htotal hinfo'
    exact ⟨s'', hcall, hreturned.dropped, hreturned.paid, hreturned.held⟩

/-! ### A broker of alice's -/

def plainBrokerConfig : BrokerConfig where
  verifier := Verifier.plainConfig []
  marketCloseGracePeriod := 1
  brokerStakingThreshold := 10
  systemAccount := List.Vector.replicate 32 109

def noBrokers : BrokerState plainBrokerConfig where
  markets _ := none
  verifier := .genesis (Verifier.plainAssets 100) ()
  brokers _ := none

/-- She registers a broker and changes its endpoint. -/
def brokerRun : Except BrokerFault (BrokerState plainBrokerConfig) := do
  let s ← registerBroker (.signed Token.alice) Verifier.bob [119] [98] noBrokers
  brokerSetRpcEndpoint (.signed Token.alice) Verifier.bob [120] s

theorem stakes_returnable_alice : ∃ (s : BrokerState plainBrokerConfig) (info : Broker),
    s.brokers Verifier.bob = some info ∧ info.rpcEndpoint = [120] ∧ held s = 110 ∧
      Escrow.Covered stakeOf 100 s.brokers (held s) ∧ beneficiary Verifier.bob s = info.beneficiary := by
  obtain ⟨s, hrun, hcheck⟩ := exists_of_succeedsWith (x := brokerRun)
    (p := fun s => held s = 110 ∧ (s.brokers Verifier.bob).map Broker.rpcEndpoint = some [120]) (by decide +kernel)
  obtain ⟨hheld, hendpoint⟩ := of_decide_eq_true hcheck
  obtain ⟨info, hinfo, hendpoint⟩ := Option.map_eq_some_iff.mp hendpoint
  obtain ⟨mid, hregister, hset⟩ := bind_eq_ok.mp hrun
  have hsigner : Origin.signed Token.alice ≠ .signed plainBrokerConfig.systemAccount := by decide
  have hsteps : ReflTransGen (BrokerStep (Unsigned plainBrokerConfig)) noBrokers s :=
    (ReflTransGen.single (.call (.register Verifier.bob [119] [98]) _ hsigner hregister)).tail
      (.call (.setRpcEndpoint Verifier.bob [120]) _ hsigner hset)
  obtain ⟨hcovered, hreturnable⟩ := stakes_returnable (Balances.plain_unlocked _) (fun _ => rfl) hsteps
  exact ⟨s, info, hinfo, hendpoint, hheld, hcovered, (hreturnable Verifier.bob info hinfo s .refl).1⟩

end Fusotao.Markets
