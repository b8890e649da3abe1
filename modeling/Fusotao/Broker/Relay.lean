import Fusotao.Broker.Session
import Mathlib.Data.List.Nodup

/-!
# Replies and requests

The sender for a call goes from the map to the connector and is used there once. So whatever a call returns from the
prover replied to its own id, and no message reaches two calls. A call that waits for its reply in vain leaves its
sender in the map; a relay call that returns in any other way does not, as long as the ids do not come back.
-/

namespace Fusotao.Broker

variable {Value : Type} {s s' : Session Value}

/-! ### The messages of the prover -/

/-- A message that is read is read once. -/
structure Numbered (s : Session Value) : Prop where
  queued : ∀ y ∈ s.fromProver, s.sent[y.1]? = some y.2
  unread : ∀ y ∈ s.fromProver, y.1 ∉ s.delivered.map Delivery.number
  order : (s.fromProver.map Prod.fst).Nodup
  once : (s.delivered.map Delivery.number).Nodup
  source : ∀ x ∈ s.delivered, ∃ message id, s.sent[x.number]? = some message ∧
    message.reply? = some (id, x.response)

/-- Fewer messages are waiting. -/
theorem Numbered.of_suffix (hinv : Numbered s) (hsent : s'.sent = s.sent) (hdelivered : s'.delivered = s.delivered)
    (hsuffix : s'.fromProver <:+ s.fromProver) : Numbered s' := by
  refine ⟨fun y hy => ?_, fun y hy => ?_, ?_, hdelivered ▸ hinv.once, fun x hx => ?_⟩
  · rw [hsent]
    exact hinv.queued y (hsuffix.subset hy)
  · rw [hdelivered]
    exact hinv.unread y (hsuffix.subset hy)
  · exact hinv.order.sublist (hsuffix.sublist.map Prod.fst)
  · rw [hsent]
    exact hinv.source x (hdelivered ▸ hx)

theorem Numbered.step (hinv : Numbered s) {e : Event Value} (h : Step e s s') : Numbered s' := by
  cases h with
  | draw | insert | send | sendTimeout | receive | closed | replyTimeout | connectFails | outgoing
  | outgoingFails | interrupt | deliver => exact hinv.of_suffix rfl rfl List.suffix_rfl
  | connect => exact hinv.of_suffix rfl rfl List.nil_suffix
  | skip hconnector hfirst =>
      refine hinv.of_suffix rfl rfl ?_
      rw [hfirst]
      exact List.suffix_cons _ _
  | @incoming _ number message rest id rsp c hconnector hfirst hreply hreqs =>
      have hqueued := hinv.queued
      have hunread := hinv.unread
      have horder := hinv.order
      rw [hfirst] at hqueued hunread horder
      rw [List.map_cons, List.nodup_cons] at horder
      refine ⟨fun y hy => hqueued y (List.mem_cons_of_mem _ hy), fun y hy hmem => ?_, horder.2, ?_, fun x hx => ?_⟩
      · rw [List.map_append, List.mem_append] at hmem
        rcases hmem with hmem | hmem
        · exact hunread y (List.mem_cons_of_mem _ hy) hmem
        · obtain rfl : y.1 = number := List.mem_singleton.mp hmem
          exact horder.1 (List.mem_map.mpr ⟨y, hy, rfl⟩)
      · rw [List.map_append, List.nodup_append']
        refine ⟨hinv.once, List.nodup_singleton _, ?_⟩
        rw [List.map_singleton, List.disjoint_singleton]
        exact hunread _ List.mem_cons_self
      · rcases List.mem_append.mp hx with hx | hx
        · exact hinv.source x hx
        · obtain rfl := List.mem_singleton.mp hx
          exact ⟨message, id, hqueued _ List.mem_cons_self, hreply⟩
  | prover message hconnected =>
      have hbefore : ∀ {n : Nat} {m : Message Value}, s.sent[n]? = some m →
          n < s.sent.length ∧ (s.sent ++ [message])[n]? = some m := by
        intro n m hn
        have hlt := (List.getElem?_eq_some_iff.mp hn).1
        exact ⟨hlt, (List.getElem?_append_left hlt).trans hn⟩
      refine ⟨fun y hy => ?_, fun y hy hmem => ?_, ?_, hinv.once, fun x hx => ?_⟩
      · rcases List.mem_append.mp hy with hy | hy
        · exact (hbefore (hinv.queued y hy)).2
        · obtain rfl := List.mem_singleton.mp hy
          exact List.getElem?_concat_length
      · rcases List.mem_append.mp hy with hy | hy
        · exact hinv.unread y hy hmem
        · obtain rfl := List.mem_singleton.mp hy
          obtain ⟨x, hx, hnumber⟩ := List.mem_map.mp hmem
          obtain ⟨m, id, hm, -⟩ := hinv.source x hx
          exact (hbefore hm).1.ne hnumber
      · rw [List.map_append, List.nodup_append']
        refine ⟨hinv.order, List.nodup_singleton _, ?_⟩
        rw [List.map_singleton, List.disjoint_singleton]
        intro hmem
        obtain ⟨y, hy, hnumber⟩ := List.mem_map.mp hmem
        exact (hbefore (hinv.queued y hy)).1.ne hnumber
      · obtain ⟨m, id, hm, hreply⟩ := hinv.source x hx
        exact ⟨m, id, (hbefore hm).2, hreply⟩

/-! ### The senders of the calls -/

/-- A response was taken to a call. -/
def Answered (s : Session Value) (c : Nat) (r : Except RpcError Value) : Prop :=
  ∃ x ∈ s.delivered, x.call = c ∧ r = x.response.toResult

/-- A sender that is in the map has not been used, and what a call has got came through it. -/
structure Held (s : Session Value) : Prop where
  fresh : ∀ c, s.callCount ≤ c → s.calls c = none
  entry : ∀ id c, s.reqs id = some c → c ∉ s.delivered.map Delivery.call ∧ ∃ call, s.calls c = some call ∧
    call.id = id ∧ ∀ request, call.stage ≠ .drawn request
  drawn : ∀ c call request, s.calls c = some call → call.stage = .drawn request →
    c ∉ s.delivered.map Delivery.call
  own : ∀ x ∈ s.delivered, ∃ call, s.calls x.call = some call ∧ x.response.id = some call.id
  once : (s.delivered.map Delivery.call).Nodup
  delivering : ∀ c r, s.connector = .delivering c r → Answered s c r
  inbox : ∀ c call r, s.calls c = some call → call.inbox = some r → Answered s c r
  returned : ∀ c call r, s.calls c = some call → call.stage = .returned (.received r) → Answered s c r

/-- No call does anything. -/
theorem Held.idle (hinv : Held s) (hcalls : s'.calls = s.calls) (hcount : s'.callCount = s.callCount)
    (hdelivered : s'.delivered = s.delivered) (hreqs : s'.reqs = s.reqs)
    (hconnector : ∀ c r, s'.connector = .delivering c r → s.connector = .delivering c r) : Held s' := by
  have hanswered : ∀ {c r}, Answered s c r → Answered s' c r := by
    intro c r h
    rwa [Answered, hdelivered]
  refine ⟨?_, ?_, ?_, ?_, ?_, fun c r h => hanswered (hinv.delivering c r (hconnector c r h)),
    fun c call r h hinbox => hanswered (hinv.inbox c call r (hcalls ▸ h) hinbox),
    fun c call r h hstage => hanswered (hinv.returned c call r (hcalls ▸ h) hstage)⟩
  · rw [hcalls, hcount]
    exact hinv.fresh
  · rw [hcalls, hdelivered, hreqs]
    exact hinv.entry
  · rw [hcalls, hdelivered]
    exact hinv.drawn
  · rw [hcalls, hdelivered]
    exact hinv.own
  · rw [hdelivered]
    exact hinv.once

/-- One call that has its id does something. -/
theorem Held.update (hinv : Held s) {c : Nat} {call call' : Call Value} (hcall : s.calls c = some call)
    (hcalls : s'.calls = s.calls.insert c call') (hid : call'.id = call.id)
    (hstage : ∀ request, call'.stage ≠ .drawn request) (hcount : s'.callCount = s.callCount)
    (hdelivered : s'.delivered = s.delivered)
    (hreqs : ∀ id k, s'.reqs id = some k →
      s.reqs id = some k ∨ id = call.id ∧ k = c ∧ c ∉ s.delivered.map Delivery.call)
    (hconnector : ∀ k r, s'.connector = .delivering k r → s.connector = .delivering k r)
    (hinbox : ∀ r, call'.inbox = some r → Answered s c r)
    (hreturned : ∀ r, call'.stage = .returned (.received r) → Answered s c r) : Held s' := by
  have hanswered : ∀ {c r}, Answered s c r → Answered s' c r := by
    intro c r h
    rwa [Answered, hdelivered]
  have hself : s'.calls c = some call' := by
    rw [hcalls, StorageMap.insert_self]
  have hother : ∀ k, k ≠ c → s'.calls k = s.calls k := by
    intro k hk
    rw [hcalls, StorageMap.insert_of_ne _ _ hk]
  refine ⟨fun k hk => ?_, fun id k h => ?_, fun k call₁ request h hdrawn => ?_, fun x hx => ?_, hdelivered ▸ hinv.once,
    fun k r h => hanswered (hinv.delivering k r (hconnector k r h)), fun k call₁ r h hr => ?_,
    fun k call₁ r h hr => ?_⟩
  · rw [hcount] at hk
    have hnone := hinv.fresh k hk
    rw [hother, hnone]
    rintro rfl
    exact absurd (hnone.symm.trans hcall) (by simp)
  · rw [hdelivered]
    by_cases hk : k = c
    · subst hk
      rcases hreqs id k h with h | ⟨rfl, -, hnot⟩
      · obtain ⟨hnot, old, hold, hid', -⟩ := hinv.entry id k h
        obtain rfl := Option.some.inj (hold.symm.trans hcall)
        exact ⟨hnot, call', hself, hid.trans hid', hstage⟩
      · exact ⟨hnot, call', hself, hid, hstage⟩
    · rw [hother k hk]
      exact hinv.entry id k ((hreqs id k h).resolve_right fun h => hk h.2.1)
  · rw [hdelivered]
    by_cases hk : k = c
    · subst hk
      obtain rfl := Option.some.inj (hself.symm.trans h)
      exact absurd hdrawn (hstage request)
    · exact hinv.drawn k call₁ request (hother k hk ▸ h) hdrawn
  · obtain ⟨old, hold, hid'⟩ := hinv.own x (hdelivered ▸ hx)
    by_cases hk : x.call = c
    · rw [hk] at hold ⊢
      obtain rfl := Option.some.inj (hold.symm.trans hcall)
      exact ⟨call', hself, hid.symm ▸ hid'⟩
    · exact ⟨old, (hother _ hk).trans hold, hid'⟩
  · by_cases hk : k = c
    · subst hk
      obtain rfl := Option.some.inj (hself.symm.trans h)
      exact hanswered (hinbox r hr)
    · exact hanswered (hinv.inbox k call₁ r (hother k hk ▸ h) hr)
  · by_cases hk : k = c
    · subst hk
      obtain rfl := Option.some.inj (hself.symm.trans h)
      exact hanswered (hreturned r hr)
    · exact hanswered (hinv.returned k call₁ r (hother k hk ▸ h) hr)

theorem giveUp_eq_some {call : Call Value} {id : BitVec 64} {k : Nat} (h : s.giveUp call id = some k) :
    s.reqs id = some k := by
  unfold Session.giveUp at h
  revert h
  cases call.kind with
  | relay => exact fun h => (StorageMap.remove_eq_some h).2
  | multiplex => exact fun h => h

/-- A call is given a reply, or has returned already. -/
theorem Call.accept_eq (call : Call Value) (r : Except RpcError Value) :
    call.accept r = call ∨ call.accept r = { call with inbox := some r } := by
  unfold Call.accept
  cases call.stage with
  | returned outcome => exact .inl rfl
  | drawn request => exact .inr rfl
  | sending request => exact .inr rfl
  | waiting => exact .inr rfl

theorem Answered.append {l : List (Delivery Value)} (hdelivered : s'.delivered = s.delivered ++ l) {c : Nat}
    {r : Except RpcError Value} (h : Answered s c r) : Answered s' c r := by
  obtain ⟨x, hx, hcall, hr⟩ := h
  exact ⟨x, hdelivered ▸ List.mem_append_left _ hx, hcall, hr⟩

/-- A new call has a sender that is not in the map yet. -/
theorem Held.draw (hinv : Held s) (kind : Kind) (method : String) (params : Value) : Held { s with
    id := s.id + 1
    calls := s.calls.insert s.callCount ⟨kind, s.id, .drawn ⟨s.id, method, params⟩, none⟩
    callCount := s.callCount + 1 } := by
  have hnone : s.calls s.callCount = none := hinv.fresh s.callCount (Nat.le_refl _)
  have hold : ∀ {c call}, s.calls c = some call → c ≠ s.callCount := by
    rintro c call h rfl
    exact absurd (hnone.symm.trans h) (by simp)
  have hnot : s.callCount ∉ s.delivered.map Delivery.call := by
    intro hmem
    obtain ⟨x, hx, hcall⟩ := List.mem_map.mp hmem
    obtain ⟨call, h, -⟩ := hinv.own x hx
    exact hold h hcall
  have hkept : ∀ {c call}, s.calls c = some call →
      s.calls.insert s.callCount ⟨kind, s.id, .drawn ⟨s.id, method, params⟩, none⟩ c = some call := by
    intro c call h
    rw [StorageMap.insert_of_ne _ _ (hold h), h]
  refine ⟨fun c hc => ?_, fun id c h => ?_, fun c call request h hdrawn => ?_, fun x hx => ?_, hinv.once,
    hinv.delivering, fun c call r h hinbox => ?_, fun c call r h hreturned => ?_⟩
  · have hlt : s.callCount < c := hc
    exact (StorageMap.insert_of_ne _ _ hlt.ne').trans (hinv.fresh c hlt.le)
  · obtain ⟨hfree, call, hcall, hid, hstage⟩ := hinv.entry id c h
    exact ⟨hfree, call, hkept hcall, hid, hstage⟩
  · rcases StorageMap.insert_eq_some h with ⟨rfl, -⟩ | ⟨-, h⟩
    · exact hnot
    · exact hinv.drawn c call request h hdrawn
  · obtain ⟨call, hcall, hid⟩ := hinv.own x hx
    exact ⟨call, hkept hcall, hid⟩
  · rcases StorageMap.insert_eq_some h with ⟨-, rfl⟩ | ⟨-, h⟩
    · exact absurd hinbox (by simp)
    · exact hinv.inbox c call r h hinbox
  · rcases StorageMap.insert_eq_some h with ⟨-, rfl⟩ | ⟨-, h⟩
    · exact absurd hreturned (by simp)
    · exact hinv.returned c call r h hreturned

/-- The sender for a response goes from the map to the connector. -/
theorem Held.incoming (hinv : Held s) {number : Nat} {rest : List (Nat × Message Value)} {id : BitVec 64}
    {rsp : Response Value} {c : Nat} (hid : rsp.id = some id) (hreqs : s.reqs id = some c) : Held { s with
      reqs := s.reqs.remove id
      fromProver := rest
      connector := .delivering c rsp.toResult
      delivered := s.delivered ++ [⟨number, rsp, c⟩] } := by
  obtain ⟨hfree, call, hcall, rfl, hstage⟩ := hinv.entry id c hreqs
  have hmem : ∀ {k}, k ≠ c → k ∉ s.delivered.map Delivery.call →
      k ∉ (s.delivered ++ [(⟨number, rsp, c⟩ : Delivery Value)]).map Delivery.call := by
    intro k hk hnot hmem
    rw [List.map_append, List.mem_append] at hmem
    exact hmem.elim hnot fun hmem => hk (List.mem_singleton.mp hmem)
  refine ⟨hinv.fresh, fun id' k h => ?_, fun k call' request h hdrawn => ?_, fun x hx => ?_, ?_, fun k r h => ?_,
    fun k call' r h hinbox => (hinv.inbox k call' r h hinbox).append rfl,
    fun k call' r h hreturned => (hinv.returned k call' r h hreturned).append rfl⟩
  · obtain ⟨hne, h⟩ := StorageMap.remove_eq_some h
    obtain ⟨hnot, call', hcall', hid', hstage'⟩ := hinv.entry id' k h
    refine ⟨hmem ?_ hnot, call', hcall', hid', hstage'⟩
    rintro rfl
    obtain rfl := Option.some.inj (hcall.symm.trans hcall')
    exact hne hid'.symm
  · refine hmem ?_ (hinv.drawn k call' request h hdrawn)
    rintro rfl
    obtain rfl := Option.some.inj (hcall.symm.trans h)
    exact hstage request hdrawn
  · rcases List.mem_append.mp hx with hx | hx
    · exact hinv.own x hx
    · obtain rfl := List.mem_singleton.mp hx
      exact ⟨call, hcall, hid⟩
  · rw [List.map_append, List.nodup_append']
    refine ⟨hinv.once, List.nodup_singleton _, ?_⟩
    rw [List.map_singleton, List.disjoint_singleton]
    exact hfree
  · obtain ⟨rfl, rfl⟩ := Connector.delivering.inj h
    exact ⟨_, List.mem_append_right _ (List.mem_singleton_self _), rfl, rfl⟩

theorem id_of_reply {message : Message Value} {id : BitVec 64} {rsp : Response Value}
    (h : message.reply? = some (id, rsp)) : rsp.id = some id := by
  unfold Message.reply? at h
  split at h
  · split at h
    · rename_i hid hsub
      obtain ⟨rfl, rfl⟩ := Prod.mk.inj (Option.some.inj h)
      exact hid
    · exact absurd h (by simp)
  · exact absurd h (by simp)

theorem Held.step (hinv : Held s) {e : Event Value} (h : Step e s s') : Held s' := by
  cases h with
  | draw _ kind method params => exact hinv.draw kind method params
  | @insert _ c call request hcall hstage =>
      have hfree := hinv.drawn c call request hcall hstage
      refine hinv.update hcall rfl rfl (by simp) rfl rfl (fun id k h => ?_) (fun _ _ h => h)
        (fun r h => hinv.inbox c call r hcall h) (by simp)
      rcases StorageMap.insert_eq_some h with ⟨hid, rfl⟩ | ⟨-, h⟩
      · exact .inr ⟨hid, rfl, hfree⟩
      · exact .inl h
  | @send _ c call request hcall hstage hroom =>
      exact hinv.update hcall rfl rfl (by simp) rfl rfl (fun _ _ h => .inl h) (fun _ _ h => h)
        (fun r h => hinv.inbox c call r hcall h) (by simp)
  | @sendTimeout _ c call request hcall hstage =>
      exact hinv.update hcall rfl rfl (by simp) rfl rfl (fun _ _ h => .inl (giveUp_eq_some h)) (fun _ _ h => h)
        (fun r h => hinv.inbox c call r hcall h) (by simp)
  | @receive _ c call r hcall hstage hinbox =>
      refine hinv.update hcall rfl rfl (by simp) rfl rfl (fun _ _ h => .inl h) (fun _ _ h => h) (by simp)
        fun r' h => ?_
      obtain rfl := Outcome.received.inj (Stage.returned.inj h)
      exact hinv.inbox c call r hcall hinbox
  | @closed _ c call hcall hstage hinbox hsender =>
      exact hinv.update hcall rfl rfl (by simp) rfl rfl (fun _ _ h => .inl h) (fun _ _ h => h)
        (fun r h => hinv.inbox c call r hcall h) (by simp)
  | @replyTimeout _ c call hcall hstage =>
      exact hinv.update hcall rfl rfl (by simp) rfl rfl (fun _ _ h => .inl h) (fun _ _ h => h)
        (fun r h => hinv.inbox c call r hcall h) (by simp)
  | connect => exact hinv.idle rfl rfl rfl rfl (by simp)
  | connectFails => exact hinv.idle rfl rfl rfl rfl fun _ _ h => h
  | outgoing => exact hinv.idle rfl rfl rfl rfl fun _ _ h => h
  | outgoingFails => exact hinv.idle rfl rfl rfl rfl (by simp)
  | interrupt => exact hinv.idle rfl rfl rfl rfl (by simp)
  | skip => exact hinv.idle rfl rfl rfl rfl fun _ _ h => h
  | incoming hconnector hfirst hreply hreqs => exact hinv.incoming (id_of_reply hreply) hreqs
  | @deliver _ c call r hconnector hcall hroom =>
      have hanswered := hinv.delivering c r hconnector
      have hstage : ∀ request, call.stage ≠ .drawn request := by
        intro request hdrawn
        obtain ⟨x, hx, hc, -⟩ := hanswered
        exact hinv.drawn c call request hcall hdrawn (hc ▸ List.mem_map_of_mem hx)
      rcases call.accept_eq r with haccept | haccept
      · rw [haccept]
        exact hinv.update hcall rfl rfl hstage rfl rfl (fun _ _ h => .inl h) (by simp)
          (fun r h => hinv.inbox c call r hcall h) fun r h => hinv.returned c call r hcall h
      · rw [haccept]
        refine hinv.update hcall rfl rfl hstage rfl rfl (fun _ _ h => .inl h) (by simp) (fun r' h => ?_)
          fun r h => hinv.returned c call r hcall h
        obtain rfl := Option.some.inj h
        exact hanswered
  | prover => exact hinv.idle rfl rfl rfl rfl fun _ _ h => h

/-! ### What is left in the map -/

/-- No id is drawn for a second call, and a relay call that gives up on its reply has no sender in the map. -/
def Meets (e : Event Value) (s : Session Value) : Prop :=
  match e with
  | .draw .. => ∀ c call, s.calls c = some call → call.id ≠ s.id
  | .replyTimeout c => ∀ call, s.calls c = some call → call.kind = .relay → s.reqs call.id = none
  | _ => True

/-- Each call has its id to itself, and a relay call that has returned has left nothing in the map. -/
structure Clean (s : Session Value) : Prop where
  distinct : ∀ c c' call call', s.calls c = some call → s.calls c' = some call' → call.id = call'.id → c = c'
  gone : ∀ c call outcome, s.calls c = some call → call.kind = .relay → call.stage = .returned outcome →
    s.reqs call.id = none

theorem Clean.idle (hinv : Clean s) (hcalls : s'.calls = s.calls)
    (hreqs : ∀ id, s.reqs id = none → s'.reqs id = none) : Clean s' := by
  refine ⟨?_, fun c call outcome h hkind hstage => hreqs _ (hinv.gone c call outcome (hcalls ▸ h) hkind hstage)⟩
  rw [hcalls]
  exact hinv.distinct

theorem Clean.update (hinv : Clean s) {c : Nat} {call call' : Call Value} (hcall : s.calls c = some call)
    (hcalls : s'.calls = s.calls.insert c call') (hid : call'.id = call.id) (hkind : call'.kind = call.kind)
    (hother : ∀ id, id ≠ call.id → s.reqs id = none → s'.reqs id = none)
    (hself : ∀ outcome, call.kind = .relay → call'.stage = .returned outcome → s'.reqs call.id = none) :
    Clean s' := by
  have hcases : ∀ {k call₁}, s'.calls k = some call₁ → k = c ∧ call₁ = call' ∨ k ≠ c ∧ s.calls k = some call₁ := by
    intro k call₁ h
    rw [hcalls] at h
    exact StorageMap.insert_eq_some h
  refine ⟨fun k k' call₁ call₂ h h' heq => ?_, fun k call₁ outcome h hrelay hstage => ?_⟩
  · rcases hcases h with ⟨rfl, rfl⟩ | ⟨-, h⟩ <;> rcases hcases h' with ⟨rfl, rfl⟩ | ⟨-, h'⟩
    · rfl
    · exact hinv.distinct _ _ _ _ hcall h' (hid.symm.trans heq)
    · exact hinv.distinct _ _ _ _ h hcall (heq.trans hid)
    · exact hinv.distinct _ _ _ _ h h' heq
  · rcases hcases h with ⟨rfl, rfl⟩ | ⟨hk, h⟩
    · rw [hid]
      exact hself outcome (hkind.symm.trans hrelay) hstage
    · exact hother _ (fun heq => hk (hinv.distinct _ _ _ _ h hcall heq)) (hinv.gone k call₁ outcome h hrelay hstage)

/-- The only sender in the map under the id of a call is its own. -/
theorem Clean.no_entry (hinv : Clean s) (hheld : Held s) {c : Nat} {call : Call Value} (hcall : s.calls c = some call)
    (hnot : s.reqs call.id = some c → False) : s.reqs call.id = none := by
  cases hreqs : s.reqs call.id with
  | none => rfl
  | some k =>
      obtain ⟨-, call', hcall', hid, -⟩ := hheld.entry call.id k hreqs
      obtain rfl := hinv.distinct k c call' call hcall' hcall hid
      exact (hnot hreqs).elim

theorem giveUp_of_none {call : Call Value} {id : BitVec 64} (h : s.reqs id = none) : s.giveUp call id = none := by
  unfold Session.giveUp
  cases call.kind with
  | relay =>
      refine (StorageMap.remove_apply _ _ _).trans ?_
      split
      · rfl
      · exact h
  | multiplex => exact h

theorem Clean.step (hinv : Clean s) (hheld : Held s) {e : Event Value} (hmeets : Meets e s) (h : Step e s s') :
    Clean s' := by
  cases h with
  | draw _ kind method params =>
      refine ⟨fun c c' call call' h h' heq => ?_, fun c call outcome h hkind hstage => ?_⟩
      · rcases StorageMap.insert_eq_some h with ⟨rfl, rfl⟩ | ⟨-, h⟩ <;>
          rcases StorageMap.insert_eq_some h' with ⟨rfl, rfl⟩ | ⟨-, h'⟩
        · rfl
        · exact absurd heq.symm (hmeets c' call' h')
        · exact absurd heq (hmeets c call h)
        · exact hinv.distinct c c' call call' h h' heq
      · rcases StorageMap.insert_eq_some h with ⟨-, rfl⟩ | ⟨-, h⟩
        · exact absurd hstage (by simp)
        · exact hinv.gone c call outcome h hkind hstage
  | @insert _ c call request hcall hstage =>
      refine hinv.update hcall rfl rfl rfl (fun id hid h => ?_) (by simp)
      exact (StorageMap.insert_of_ne _ _ hid).trans h
  | @send _ c call request hcall hstage hroom =>
      exact hinv.update hcall rfl rfl rfl (fun _ _ h => h) (by simp)
  | @sendTimeout _ c call request hcall hstage =>
      refine hinv.update hcall rfl rfl rfl (fun id hid h => giveUp_of_none h) fun outcome hkind _ => ?_
      dsimp only
      rw [Session.giveUp, hkind]
      exact StorageMap.remove_self _ _
  | @receive _ c call r hcall hstage hinbox =>
      refine hinv.update hcall rfl rfl rfl (fun _ _ h => h) fun outcome _ _ => hinv.no_entry hheld hcall fun hreqs => ?_
      obtain ⟨x, hx, rfl, -⟩ := hheld.inbox c call r hcall hinbox
      exact (hheld.entry _ _ hreqs).1 (List.mem_map_of_mem hx)
  | @closed _ c call hcall hstage hinbox hsender =>
      exact hinv.update hcall rfl rfl rfl (fun _ _ h => h) fun outcome _ _ =>
        hinv.no_entry hheld hcall fun hreqs => hsender (.inl ⟨_, hreqs⟩)
  | @replyTimeout _ c call hcall hstage =>
      exact hinv.update hcall rfl rfl rfl (fun _ _ h => h) fun outcome hkind _ => hmeets call hcall hkind
  | connect | connectFails | outgoing | outgoingFails | interrupt | skip | prover =>
      exact hinv.idle rfl fun _ h => h
  | incoming =>
      refine hinv.idle rfl fun k hk => ?_
      refine (StorageMap.remove_apply _ _ _).trans ?_
      split
      · rfl
      · exact hk
  | @deliver _ c call r hconnector hcall hroom =>
      rcases call.accept_eq r with haccept | haccept
      · rw [haccept]
        exact hinv.update hcall rfl rfl rfl (fun _ _ h => h) fun outcome hkind hstage =>
          hinv.gone c call outcome hcall hkind hstage
      · rw [haccept]
        exact hinv.update hcall rfl rfl rfl (fun _ _ h => h) fun outcome hkind hstage =>
          hinv.gone c call outcome hcall hkind hstage

/-! ### Runs -/

/-- What comes from the prover, in any run. -/
theorem held_of_reachable (h : Transition.Reachable (· = Session.init) (fun s s' => ∃ e, Step e s s') s) :
    Numbered s ∧ Held s := by
  refine h.invariant (fun s => Numbered s ∧ Held s) ?_ ?_
  · rintro s rfl
    exact ⟨⟨by simp [Session.init], by simp [Session.init], List.nodup_nil, List.nodup_nil, by simp [Session.init]⟩,
      ⟨fun _ _ => rfl, by simp [Session.init], by simp [Session.init], by simp [Session.init], List.nodup_nil,
        by simp [Session.init], by simp [Session.init], by simp [Session.init]⟩⟩
  · rintro s s' ⟨hnumbered, hheld⟩ ⟨e, hstep⟩
    exact ⟨hnumbered.step hstep, hheld.step hstep⟩

/-- Calls and replies match, and a relay call that has returned has left nothing in the map. -/
structure Matched (s : Session Value) : Prop where
  /-- What a call returns from the prover replied to its own id. -/
  own : ∀ c call r, s.calls c = some call → call.stage = .returned (.received r) → ∃ x ∈ s.delivered,
    x.call = c ∧ x.response.id = some call.id ∧ r = x.response.toResult
  /-- Nothing is delivered that the prover did not send. -/
  sent : ∀ x ∈ s.delivered, ∃ message id, s.sent[x.number]? = some message ∧
    message.reply? = some (id, x.response)
  oneCall : (s.delivered.map Delivery.number).Nodup
  oneReply : (s.delivered.map Delivery.call).Nodup
  gone : ∀ c call outcome, s.calls c = some call → call.kind = .relay → call.stage = .returned outcome →
    s.reqs call.id = none

theorem relay_matched
    (h : Transition.Reachable (· = Session.init) (fun s s' => ∃ e, Meets e s ∧ Step e s s') s) : Matched s := by
  obtain ⟨hnumbered, hheld⟩ := held_of_reachable (h.mono fun s s' hstep => hstep.imp fun e h => h.2)
  have hclean : Held s ∧ Clean s := by
    refine h.invariant (fun s => Held s ∧ Clean s) ?_ ?_
    · rintro s rfl
      exact ⟨(held_of_reachable ⟨_, rfl, .refl⟩).2, by simp [Session.init], by simp [Session.init]⟩
    · rintro s s' ⟨hheld, hclean⟩ ⟨e, hmeets, hstep⟩
      exact ⟨hheld.step hstep, hclean.step hheld hmeets hstep⟩
  refine ⟨fun c call r hcall hstage => ?_, hnumbered.source, hnumbered.once, hheld.once, hclean.2.gone⟩
  obtain ⟨x, hx, rfl, hr⟩ := hheld.returned c call r hcall hstage
  obtain ⟨call', hcall', hid⟩ := hheld.own x hx
  obtain rfl := Option.some.inj (hcall'.symm.trans hcall)
  exact ⟨x, hx, rfl, hid, hr⟩

/-- A relay call is answered. -/
theorem relay_matched_answered : ∃ (s : Session Unit) (call : Call Unit), s.calls 0 = some call ∧
    call.stage = .returned (.received (.ok ())) ∧ Matched s := by
  refine ⟨_, ⟨.relay, 1, .returned (.received (.ok ())), none⟩, ?_, rfl, relay_matched ⟨Session.init, rfl, ((((((((Relation.ReflTransGen.single
    ⟨_, ?_, .draw _ .relay "get_nonce" ()⟩).tail
    ⟨.insert 0, trivial, .insert rfl rfl⟩).tail
    ⟨.send 0, trivial, .send rfl rfl (by decide)⟩).tail
    ⟨.connect, trivial, .connect rfl⟩).tail
    ⟨.prover (.text (some ⟨some 1, none, none, ()⟩)), trivial, .prover _ (by simp)⟩).tail
    ⟨.incoming, trivial, .incoming rfl rfl rfl rfl⟩).tail
    ⟨.deliver, trivial, .deliver rfl rfl rfl⟩).tail
    ⟨.receive 0, trivial, .receive rfl rfl rfl⟩)⟩⟩
  · rfl
  · intro c call h
    exact absurd h (by simp [Session.init])

/-- A relay call whose request is never answered gives up, and its sender stays in the map. -/
theorem unanswered_call_stays : ∃ s : Session Unit,
    Transition.Reachable (· = Session.init) (fun s s' => ∃ e, Step e s s') s ∧ ¬ Matched s := by
  refine ⟨_, ⟨Session.init, rfl, (((Relation.ReflTransGen.single ⟨_, .draw _ .relay "get_nonce" ()⟩).tail
    ⟨.insert 0, .insert rfl rfl⟩).tail ⟨.send 0, .send rfl rfl (by decide)⟩).tail
    ⟨.replyTimeout 0, .replyTimeout rfl rfl⟩⟩, fun h => ?_⟩
  have hgone := h.gone 0 _ _ rfl rfl rfl
  exact absurd hgone (by simp)

end Fusotao.Broker
