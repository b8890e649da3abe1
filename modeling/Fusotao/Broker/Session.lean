import Fusotao.Base.StorageMap
import Fusotao.Base.Transition

/-!
# The session with a prover

Relay calls put their requests into one channel and wait, each at a channel of its own. The connector sends the
requests to the prover and finds the channel for a reply in a map, by the id of the request. Calls, connector and
prover run side by side, so a run is any interleaving of their steps. The prover may send anything at any time.
-/

namespace Fusotao.Broker

/-- An `ErrorObject`: its code, an `i32`, and its message. -/
structure RpcError where
  code : BitVec 32
  message : String
  deriving DecidableEq

/-- `rpc_error!` without a code: an internal error. -/
def rpcError (message : String) : RpcError := ⟨-32603, message⟩

/-- What the fields of `rsp["error"]` are if they are an integer and a string. -/
structure ErrorFields where
  code : Option (BitVec 64)
  message : Option String

/-- A JSON value that is taken for a response. The ids are those that are a `u64`, and `error` is there unless it is
null. -/
structure Response (Value : Type) where
  id : Option (BitVec 64)
  subscription : Option (BitVec 64)
  error : Option ErrorFields
  result : Value

/-- A message of the websocket, `text none` being one that is not JSON. -/
inductive Message (Value : Type)
  | text (rsp : Option (Response Value))
  | ping
  | close
  | other

structure Request (Value : Type) where
  id : BitVec 64
  method : String
  params : Value

variable {Value : Type}

def Response.toResult (rsp : Response Value) : Except RpcError Value :=
  match rsp.error with
  | none => .ok rsp.result
  | some e => .error ⟨(e.code.getD (-32099)).setWidth 32, e.message.getD "the prover didn't reply"⟩

/-- The id of the request a message replies to. -/
def Message.reply? : Message Value → Option (BitVec 64 × Response Value)
  | .text (some rsp) =>
      match rsp.id, rsp.subscription with
      | some id, none => some (id, rsp)
      | _, _ => none
  | _ => none

/-! ### Calls -/

inductive Kind
  | relay
  | multiplex
  deriving DecidableEq

/-- How a call ends: something came out of its channel, all senders of the channel are gone, or time is up. -/
inductive Outcome (Value : Type)
  | received (r : Except RpcError Value)
  | closed
  | timeout

/-- What `relay` returns. -/
def Outcome.toResult : Outcome Value → Except RpcError Value
  | .received r => r
  | .closed => .error (rpcError "internal error")
  | .timeout => .error (rpcError "request timeout")

/-- How far a call has come: it has its id, it is in the map and wants to send, it waits for its reply. -/
inductive Stage (Value : Type)
  | drawn (request : Request Value)
  | sending (request : Request Value)
  | waiting
  | returned (outcome : Outcome Value)

structure Call (Value : Type) where
  kind : Kind
  id : BitVec 64
  stage : Stage Value
  /-- What is in its channel, which has room for one reply. -/
  inbox : Option (Except RpcError Value)

/-! ### The session -/

inductive Connector (Value : Type)
  | connecting
  | connected
  /-- A sender was taken out of the map, and the reply has not been sent through it yet. -/
  | delivering (call : Nat) (r : Except RpcError Value)

/-- The response of a message was taken to a call. -/
structure Delivery (Value : Type) where
  number : Nat
  response : Response Value
  call : Nat

structure Session (Value : Type) where
  id : BitVec 64
  /-- The sender of a request, given by the call at the other end. -/
  reqs : StorageMap (BitVec 64) Nat
  toBack : List (Request Value)
  connector : Connector Value
  /-- What the prover has sent over the connection and the connector has not read yet, each message with its number. -/
  fromProver : List (Nat × Message Value)
  calls : StorageMap Nat (Call Value)
  /-- The number of calls so far. -/
  callCount : Nat
  /-- All messages of the prover. The session has no such item and never reads it. -/
  sent : List (Message Value)
  /-- All deliveries. The session has no such item and never reads it. -/
  delivered : List (Delivery Value)

def Session.init : Session Value where
  id := 1
  reqs := fun _ => none
  toBack := []
  connector := .connecting
  fromProver := []
  calls := fun _ => none
  callCount := 0
  sent := []
  delivered := []

def channelCapacity : Nat := 10000

/-- Someone may still send to a call. -/
def Session.HasSender (s : Session Value) (c : Nat) : Prop :=
  (∃ id, s.reqs id = some c) ∨ ∃ r, s.connector = .delivering c r

/-- A call that gives up before its request was sent takes its sender out of the map if it is a relay call. -/
def Session.giveUp (s : Session Value) (call : Call Value) : StorageMap (BitVec 64) Nat :=
  match call.kind with
  | .relay => s.reqs.remove call.id
  | .multiplex => s.reqs

/-- A reply that comes after its call has returned is dropped. -/
def Call.accept (call : Call Value) (r : Except RpcError Value) : Call Value :=
  match call.stage with
  | .returned _ => call
  | _ => { call with inbox := some r }

inductive Event (Value : Type)
  | draw (kind : Kind) (method : String) (params : Value)
  | insert (c : Nat)
  | send (c : Nat)
  | sendTimeout (c : Nat)
  | receive (c : Nat)
  | closed (c : Nat)
  | replyTimeout (c : Nat)
  | connect
  | connectFails
  | outgoing
  | outgoingFails
  | interrupt
  | skip
  | incoming
  | deliver
  | prover (message : Message Value)

/-- One step of a call, of the connector or of the prover. -/
inductive Step : Event Value → Session Value → Session Value → Prop
  /-- A call draws an id. -/
  | draw (s : Session Value) (kind : Kind) (method : String) (params : Value) :
      Step (.draw kind method params) s { s with
        id := s.id + 1
        calls := s.calls.insert s.callCount ⟨kind, s.id, .drawn ⟨s.id, method, params⟩, none⟩
        callCount := s.callCount + 1 }
  /-- Its sender is put into the map. -/
  | insert {s : Session Value} {c : Nat} {call : Call Value} {request : Request Value}
      (hcall : s.calls c = some call) (hstage : call.stage = .drawn request) :
      Step (.insert c) s { s with
        reqs := s.reqs.insert call.id c
        calls := s.calls.insert c { call with stage := .sending request } }
  /-- There is room in the channel to the connector. -/
  | send {s : Session Value} {c : Nat} {call : Call Value} {request : Request Value}
      (hcall : s.calls c = some call) (hstage : call.stage = .sending request)
      (hroom : s.toBack.length < channelCapacity) :
      Step (.send c) s { s with
        toBack := s.toBack ++ [request]
        calls := s.calls.insert c { call with stage := .waiting } }
  /-- There was no room in the channel for too long. -/
  | sendTimeout {s : Session Value} {c : Nat} {call : Call Value} {request : Request Value}
      (hcall : s.calls c = some call) (hstage : call.stage = .sending request) :
      Step (.sendTimeout c) s { s with
        reqs := s.giveUp call
        calls := s.calls.insert c { call with stage := .returned .timeout } }
  | receive {s : Session Value} {c : Nat} {call : Call Value} {r : Except RpcError Value}
      (hcall : s.calls c = some call) (hstage : call.stage = .waiting) (hinbox : call.inbox = some r) :
      Step (.receive c) s { s with
        calls := s.calls.insert c { call with stage := .returned (.received r), inbox := none } }
  | closed {s : Session Value} {c : Nat} {call : Call Value}
      (hcall : s.calls c = some call) (hstage : call.stage = .waiting) (hinbox : call.inbox = none)
      (hsender : ¬ s.HasSender c) :
      Step (.closed c) s { s with
        calls := s.calls.insert c { call with stage := .returned .closed } }
  /-- No reply came for too long, or it came just now. -/
  | replyTimeout {s : Session Value} {c : Nat} {call : Call Value}
      (hcall : s.calls c = some call) (hstage : call.stage = .waiting) :
      Step (.replyTimeout c) s { s with
        calls := s.calls.insert c { call with stage := .returned .timeout } }
  /-- A new connection subscribes to the trading of the broker, with an id of its own. -/
  | connect {s : Session Value} (hconnector : s.connector = .connecting) :
      Step .connect s { s with id := s.id + 1, connector := .connected, fromProver := [] }
  /-- The connection breaks before it has subscribed. -/
  | connectFails {s : Session Value} (hconnector : s.connector = .connecting) :
      Step .connectFails s { s with id := s.id + 1 }
  | outgoing {s : Session Value} {request : Request Value} {rest : List (Request Value)}
      (hconnector : s.connector = .connected) (htoBack : s.toBack = request :: rest) :
      Step .outgoing s { s with toBack := rest }
  /-- The request is lost with the connection. -/
  | outgoingFails {s : Session Value} {request : Request Value} {rest : List (Request Value)}
      (hconnector : s.connector = .connected) (htoBack : s.toBack = request :: rest) :
      Step .outgoingFails s { s with toBack := rest, connector := .connecting }
  /-- A ping cannot be sent, the prover closes the connection, or the connection breaks. -/
  | interrupt {s : Session Value} (hconnector : s.connector = .connected) :
      Step .interrupt s { s with connector := .connecting }
  /-- A message that no call waits for. -/
  | skip {s : Session Value} {number : Nat} {message : Message Value} {rest : List (Nat × Message Value)}
      (hconnector : s.connector = .connected) (hfirst : s.fromProver = (number, message) :: rest)
      (hclose : message ≠ .close) (hnone : ∀ id rsp, message.reply? = some (id, rsp) → s.reqs id = none) :
      Step .skip s { s with fromProver := rest }
  /-- The sender for a response is taken out of the map. -/
  | incoming {s : Session Value} {number : Nat} {message : Message Value} {rest : List (Nat × Message Value)}
      {id : BitVec 64} {rsp : Response Value} {c : Nat}
      (hconnector : s.connector = .connected) (hfirst : s.fromProver = (number, message) :: rest)
      (hreply : message.reply? = some (id, rsp)) (hreqs : s.reqs id = some c) :
      Step .incoming s { s with
        reqs := s.reqs.remove id
        fromProver := rest
        connector := .delivering c rsp.toResult
        delivered := s.delivered ++ [⟨number, rsp, c⟩] }
  | deliver {s : Session Value} {c : Nat} {call : Call Value} {r : Except RpcError Value}
      (hconnector : s.connector = .delivering c r) (hcall : s.calls c = some call) (hroom : call.inbox = none) :
      Step .deliver s { s with
        connector := .connected
        calls := s.calls.insert c (call.accept r) }
  /-- The prover sends a message, be it a reply or not. -/
  | prover {s : Session Value} (message : Message Value) (hconnected : s.connector ≠ .connecting) :
      Step (.prover message) s { s with
        fromProver := s.fromProver ++ [(s.sent.length, message)]
        sent := s.sent ++ [message] }

end Fusotao.Broker
