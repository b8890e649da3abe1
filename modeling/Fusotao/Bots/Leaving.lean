import Fusotao.Bots.Pallet
import Fusotao.Token.Transfer
import Fusotao.Verifier.Evicted

/-!
# Leaving an evicted dominator through a bot

What a user has in the accounts of a bot, free or with an evicted dominator, comes back by calls of the user if
and only if nothing is stashed where nothing is authorised.
-/

namespace Fusotao.Bots

open Exec
open Token (balancesOf freeBalance)
open Verifier (amounts entrusted TookBack Retrievable)

variable {cfg : Config} {s s' : State cfg} {user botId d who : AccountId} {token t : TokenId} {bot : Bot}

/-! ### The custody within -/

theorem transfer_eq_ok {amount : U128} {target : AccountId} (h : transfer who token amount target s = .ok s') :
    ∃ paid asset, Token.transferToken who token amount target s.custody.asset = .ok (paid, asset) ∧
      s' = { s with custody := { s.custody with asset } } := by
  simp only [transfer, bind_eq_ok, pure_eq_ok] at h
  obtain ⟨⟨paid, asset⟩, hasset, rfl⟩ := h
  exact ⟨paid, asset, hasset, rfl⟩

theorem authorizeTo_eq_ok {amount : U128} (h : authorizeTo who d token amount s = .ok s') :
    ∃ custody, Verifier.authorizeTo who d token amount s.custody = .ok custody ∧ s' = { s with custody } := by
  simp only [authorizeTo, bind_eq_ok, pure_eq_ok] at h
  obtain ⟨custody, hcustody, rfl⟩ := h
  exact ⟨custody, hcustody, rfl⟩

theorem revokeFrom_eq_ok (h : revokeFrom who d token s = .ok s') :
    ∃ custody, Verifier.revokeFrom who d token none none s.custody = .ok custody ∧ s' = { s with custody } := by
  simp only [revokeFrom, bind_eq_ok, pure_eq_ok] at h
  obtain ⟨custody, hcustody, rfl⟩ := h
  exact ⟨custody, hcustody, rfl⟩

theorem transfer_step {amount : U128} {target : AccountId} (h : transfer who token amount target s = .ok s') :
    Verifier.Step s.custody s'.custody := by
  obtain ⟨paid, asset, hasset, rfl⟩ := transfer_eq_ok h
  refine .call 1 (.transferToken who token amount target) .root ?_
  simp only [Verifier.dispatch, hasset, ok_bind]
  rfl

theorem authorizeTo_step {amount : U128} (h : authorizeTo who d token amount s = .ok s') :
    Verifier.Step s.custody s'.custody := by
  obtain ⟨custody, hcustody, rfl⟩ := authorizeTo_eq_ok h
  exact .call 1 (.authorizeTo who d token amount) .root hcustody

theorem revokeFrom_step (h : revokeFrom who d token s = .ok s') : Verifier.Step s.custody s'.custody := by
  obtain ⟨custody, hcustody, rfl⟩ := revokeFrom_eq_ok h
  exact .call 1 (.revokeFrom who d token none none) .root hcustody

/-- A call is made of steps of the custody. -/
theorem dispatch_steps {call : Call} {origin : Origin} (h : dispatch call origin s = .ok s') :
    Relation.ReflTransGen Verifier.Step s.custody s'.custody := by
  obtain ⟨who, -, h⟩ := bind_eq_ok.mp h
  cases call with
  | register symbol name maxInstance minBase minQuote desc =>
      simp only [registerBot, bind_eq_ok, pure_eq_ok] at h
      obtain ⟨-, -, -, -, -, -, mid, hmid, rfl⟩ := h
      have hstep := transfer_step hmid
      exact .single hstep
  | deposit botId d baseAmount quoteAmount =>
      simp only [depositIntoSub, bind_eq_ok, pure_eq_ok] at h
      obtain ⟨bot, -, -, -, -, -, -, -, s₁, h₁, s₂, h₂, s₃, h₃, s₄, h₄, rfl⟩ := h
      have hlast := authorizeTo_step h₄
      exact (((Relation.ReflTransGen.single (transfer_step h₁)).tail (transfer_step h₂)).tail
        (authorizeTo_step h₃)).tail hlast
  | revoke botId d currency =>
      simp only [revokeToSub, bind_eq_ok] at h
      obtain ⟨bot, -, mid, hmid, h⟩ := h
      exact (Relation.ReflTransGen.single (revokeFrom_step hmid)).tail (revokeFrom_step h)
  | withdraw botId currency =>
      simp only [withdrawFromSub, bind_eq_ok] at h
      obtain ⟨bot, -, mid, hmid, h⟩ := h
      exact (Relation.ReflTransGen.single (transfer_step hmid)).tail (transfer_step h)

theorem dispatchAll_steps {calls : List Call} (h : dispatchAll calls user s = .ok s') :
    Relation.ReflTransGen Verifier.Step s.custody s'.custody :=
  foldlM_invariant (fun mid : State cfg => Relation.ReflTransGen Verifier.Step s.custody mid.custody)
    (fun _ _ _ hmid hnext => hmid.trans (dispatch_steps hnext)) .refl h

/-- The chain around the bots is a run of the custody. -/
theorem custody_reachable (h : Transition.Reachable Init Step s) :
    Transition.Reachable Verifier.Init Verifier.Step s.custody := by
  refine h.invariant (fun s => Transition.Reachable Verifier.Init Verifier.Step s.custody)
    (fun s hinit => ⟨s.custody, hinit.2, .refl⟩) fun s s' ih hstep => ?_
  obtain ⟨s₀, hinit, hrun⟩ := ih
  cases hstep with
  | call call origin h => exact ⟨s₀, hinit, hrun.trans (dispatch_steps h)⟩
  | chain h => exact ⟨s₀, hinit, hrun.tail h⟩

/-! ### The two currencies differ -/

/-- The bots after a call are those before, but for one that joined or was joined. -/
theorem dispatch_symbol {call : Call} {origin : Origin} (h : dispatch call origin s = .ok s') :
    ∀ botId bot', s'.bots botId = some bot' → bot'.symbol.1 ≠ bot'.symbol.2 ∨
      ∃ bot, s.bots botId = some bot ∧ bot'.symbol = bot.symbol := by
  obtain ⟨who, -, h⟩ := bind_eq_ok.mp h
  intro id bot' hbot'
  cases call with
  | register symbol name maxInstance minBase minQuote desc =>
      simp only [registerBot, bind_eq_ok, ensure_eq_ok, pure_eq_ok] at h
      obtain ⟨-, -, -, hsymbol, -, -, mid, hmid, rfl⟩ := h
      obtain ⟨-, asset, -, rfl⟩ := transfer_eq_ok hmid
      rcases StorageMap.insert_eq_some hbot' with ⟨rfl, rfl⟩ | ⟨-, hbot'⟩
      · exact .inl hsymbol
      · exact .inr ⟨bot', hbot', rfl⟩
  | deposit botId d baseAmount quoteAmount =>
      simp only [depositIntoSub, bind_eq_ok, okOr_eq_ok, pure_eq_ok] at h
      obtain ⟨bot, hbot, -, -, -, -, -, -, s₁, h₁, s₂, h₂, s₃, h₃, s₄, h₄, rfl⟩ := h
      obtain ⟨-, asset, -, rfl⟩ := transfer_eq_ok h₁
      obtain ⟨-, asset', -, rfl⟩ := transfer_eq_ok h₂
      obtain ⟨custody, -, rfl⟩ := authorizeTo_eq_ok h₃
      obtain ⟨custody', -, rfl⟩ := authorizeTo_eq_ok h₄
      rcases StorageMap.insert_eq_some hbot' with ⟨rfl, rfl⟩ | ⟨-, hbot'⟩
      · refine .inr ⟨bot, hbot, ?_⟩
        rw [Bot.join]
        split <;> rfl
      · exact .inr ⟨bot', hbot', rfl⟩
  | revoke botId d currency =>
      simp only [revokeToSub, bind_eq_ok] at h
      obtain ⟨bot, -, mid, hmid, h⟩ := h
      obtain ⟨custody, -, rfl⟩ := revokeFrom_eq_ok hmid
      obtain ⟨custody', -, rfl⟩ := revokeFrom_eq_ok h
      exact .inr ⟨bot', hbot', rfl⟩
  | withdraw botId currency =>
      simp only [withdrawFromSub, bind_eq_ok] at h
      obtain ⟨bot, -, mid, hmid, h⟩ := h
      obtain ⟨-, asset, -, rfl⟩ := transfer_eq_ok hmid
      obtain ⟨-, asset', -, rfl⟩ := transfer_eq_ok h
      exact .inr ⟨bot', hbot', rfl⟩

theorem symbol_ne (h : Transition.Reachable Init Step s) (hbot : s.bots botId = some bot) :
    bot.symbol.1 ≠ bot.symbol.2 := by
  refine h.invariant (fun s => ∀ botId bot, s.bots botId = some bot → bot.symbol.1 ≠ bot.symbol.2)
    (fun s hinit botId bot hbot => ?_) (fun s s' ih hstep botId bot hbot => ?_) botId bot hbot
  · exact absurd hbot (by simp [hinit.1 botId])
  · cases hstep with
    | call call origin h =>
        obtain hne | ⟨old, hold, hsame⟩ := dispatch_symbol h botId bot hbot
        · exact hne
        · rw [hsame]
          exact ih botId old hold
    | chain h => exact ih botId bot hbot

/-! ### What a user has in the accounts of a bot -/

theorem forall_mem_pair {α : Type} {a b : α} {P : α → Prop} : (∀ x ∈ [a, b], P x) ↔ P a ∧ P b := by simp

/-- The two accounts of a user. -/
def subAccounts (cfg : Config) (user botId : AccountId) (bot : Bot) : List AccountId :=
  [deriveSubAccount cfg user botId bot.symbol.1, deriveSubAccount cfg user botId bot.symbol.2]

/-- What an account has of a token, free, authorised to a dominator or stashed for it. -/
def holding (d : AccountId) (token : TokenId) (who : AccountId) (s : State cfg) : Nat :=
  (freeBalance token who s.custody.asset).toNat + entrusted d who token s.custody

/-- The calls by which a user leaves a dominator. -/
def Call.Leaves (botId d : AccountId) (bot : Bot) : Call → Prop
  | .revoke botId' d' currency => botId' = botId ∧ d' = d ∧ currency ∈ [bot.symbol.1, bot.symbol.2]
  | .withdraw botId' currency => botId' = botId ∧ currency ∈ [bot.symbol.1, bot.symbol.2]
  | _ => False

/-- The accounts of a user are empty, and the user has what they had. -/
structure Left (user botId d : AccountId) (bot : Bot) (s s' : State cfg) : Prop where
  reserves : ∀ who ∈ subAccounts cfg user botId bot, ∀ t ∈ [bot.symbol.1, bot.symbol.2],
    entrusted d who t s'.custody = 0
  free : ∀ who ∈ subAccounts cfg user botId bot, ∀ t ∈ [bot.symbol.1, bot.symbol.2],
    freeBalance t who s'.custody.asset = 0
  received : ∀ t ∈ [bot.symbol.1, bot.symbol.2], (freeBalance t user s'.custody.asset).toNat =
    (freeBalance t user s.custody.asset).toNat +
      ((subAccounts cfg user botId bot).map fun who => holding d t who s).sum

/-! ### Revoking -/

/-- Nothing of another account or another token is touched. -/
theorem tookBack_other {custody custody' : Verifier.State cfg.custody} (h : TookBack d who token custody custody')
    {other : AccountId} (hne : (t, other) ≠ (token, who)) :
    balancesOf t other custody'.asset = balancesOf t other custody.asset ∧
      ∀ kind, amounts custody'.reserves ((kind, other, t), d) = amounts custody.reserves ((kind, other, t), d) := by
  have hkey : ∀ kind kind' : ReserveId, ((kind, other, t), d) ≠ ((kind', who, token), d) := by
    intro kind kind' heq
    simp only [Prod.mk.injEq] at heq
    exact hne (by rw [heq.1.2.1, heq.1.2.2])
  exact ⟨h.elsewhere t other hne, fun kind => h.records _ (hkey kind _) (hkey kind _)⟩

/-- What revoking a token for two accounts does. -/
structure Revoked (d : AccountId) (token : TokenId) (subs : List AccountId) (s s' : State cfg) : Prop where
  holding : ∀ who ∈ subs, holding d token who s' = holding d token who s
  entrusted : ∀ who ∈ subs, entrusted d who token s'.custody =
    amounts s.custody.reserves ((.authorizingStash, who, token), d)
  stash : ∀ who ∈ subs, amounts s'.custody.reserves ((.authorizingStash, who, token), d) = 0
  elsewhere : ∀ t who, (t = token → who ∉ subs) →
    balancesOf t who s'.custody.asset = balancesOf t who s.custody.asset ∧
      ∀ kind, amounts s'.custody.reserves ((kind, who, t), d) = amounts s.custody.reserves ((kind, who, t), d)
  dominators : s'.custody.dominators = s.custody.dominators
  bots : s'.bots = s.bots

/-- One account after the other. -/
theorem revoked_of_tookBack {sub0 sub1 : AccountId} {mid last : Verifier.State cfg.custody} (hne : sub0 ≠ sub1)
    (hfirst : TookBack d sub0 token s.custody mid) (hsecond : TookBack d sub1 token mid last) :
    Revoked d token [sub0, sub1] s { s with custody := last } := by
  obtain ⟨hbalance0, hamounts0⟩ := tookBack_other hsecond (show (token, sub0) ≠ (token, sub1) by simp [hne])
  obtain ⟨hbalance1, hamounts1⟩ := tookBack_other hfirst (show (token, sub1) ≠ (token, sub0) by simp [hne.symm])
  have hfree0 : freeBalance token sub0 last.asset = freeBalance token sub0 mid.asset := congrArg Prod.fst hbalance0
  have hfree1 : freeBalance token sub1 mid.asset = freeBalance token sub1 s.custody.asset :=
    congrArg Prod.fst hbalance1
  have hentrusted0 : Verifier.entrusted d sub0 token last = Verifier.entrusted d sub0 token mid := by
    rw [Verifier.entrusted, hamounts0, hamounts0]
    rfl
  have hentrusted1 : Verifier.entrusted d sub1 token mid = Verifier.entrusted d sub1 token s.custody := by
    rw [Verifier.entrusted, hamounts1, hamounts1]
    rfl
  refine ⟨?_, ?_, ?_, fun t who hwho => ?_, hsecond.dominators.trans hfirst.dominators, rfl⟩
  · refine forall_mem_pair.mpr ⟨?_, ?_⟩
    · change (freeBalance token sub0 last.asset).toNat + Verifier.entrusted d sub0 token last = _
      rw [hfree0, hentrusted0]
      exact hfirst.held
    · have hheld : (freeBalance token sub1 last.asset).toNat + Verifier.entrusted d sub1 token last =
          (freeBalance token sub1 mid.asset).toNat + Verifier.entrusted d sub1 token mid := hsecond.held
      rw [hfree1, hentrusted1] at hheld
      exact hheld
  · exact forall_mem_pair.mpr ⟨hentrusted0.trans hfirst.entrusted, hsecond.entrusted.trans (hamounts1 _)⟩
  · exact forall_mem_pair.mpr ⟨(hamounts0 _).trans hfirst.stash, hsecond.stash⟩
  · have hother : ∀ sub ∈ [sub0, sub1], (t, who) ≠ (token, sub) := by
      rintro sub hsub heq
      obtain ⟨rfl, rfl⟩ := Prod.mk.inj heq
      exact hwho rfl hsub
    obtain ⟨hbalance, hamounts⟩ := tookBack_other hfirst (hother sub0 (by simp))
    obtain ⟨hbalance', hamounts'⟩ := tookBack_other hsecond (hother sub1 (by simp))
    exact ⟨hbalance'.trans hbalance, fun kind => (hamounts' kind).trans (hamounts kind)⟩

section Leave

variable {dominator : Verifier.Dominator}

theorem sub_ne (hcurrency : ∀ user botId, Function.Injective fun c => cfg.subAccount (c, user, botId))
    (hsymbol : bot.symbol.1 ≠ bot.symbol.2) :
    deriveSubAccount cfg user botId bot.symbol.1 ≠ deriveSubAccount cfg user botId bot.symbol.2 :=
  fun heq => hsymbol (hcurrency user botId heq)

theorem revokeFrom_ok (hexact : cfg.custody.token.balances.Exact)
    (hreach : Transition.Reachable Verifier.Init Verifier.Step s.custody)
    (hd : s.custody.dominators.lookup d = some dominator) (hevicted : dominator.status = .evicted)
    (hretrievable : Retrievable d who token s.custody) (hfits : holding d token who s < 2 ^ 128) :
    ∃ custody, revokeFrom who d token s = .ok { s with custody } ∧ TookBack d who token s.custody custody := by
  have hinv := Verifier.custody_of_visited hexact.toLawful (Verifier.visited_of_reachable hreach)
  obtain ⟨custody, hrevoke, htook⟩ := @Verifier.revokeFrom_everything _ _ _ _ _ _ none hexact hinv hd hevicted
    hretrievable hfits
  refine ⟨custody, ?_, htook⟩
  rw [revokeFrom, hrevoke]
  rfl

/-- A call to revoke succeeds, and takes back what is authorised. -/
theorem revokeToSub_ok (hexact : cfg.custody.token.balances.Exact)
    (hreach : Transition.Reachable Verifier.Init Verifier.Step s.custody) (hbot : s.bots botId = some bot)
    (hd : s.custody.dominators.lookup d = some dominator) (hevicted : dominator.status = .evicted)
    (hne : deriveSubAccount cfg user botId bot.symbol.1 ≠ deriveSubAccount cfg user botId bot.symbol.2)
    (hretrievable : ∀ who ∈ subAccounts cfg user botId bot, Retrievable d who token s.custody)
    (hfits : ∀ who ∈ subAccounts cfg user botId bot, holding d token who s < 2 ^ 128) :
    ∃ s', dispatch (.revoke botId d token) (.signed user) s = .ok s' ∧
      Revoked d token (subAccounts cfg user botId bot) s s' := by
  rw [subAccounts, forall_mem_pair] at hretrievable hfits
  obtain ⟨mid, hmid, hfirst⟩ := revokeFrom_ok hexact hreach hd hevicted hretrievable.1 hfits.1
  obtain ⟨hbalance, hamounts⟩ := tookBack_other hfirst (show (token, deriveSubAccount cfg user botId bot.symbol.2) ≠
    (token, deriveSubAccount cfg user botId bot.symbol.1) by simp [hne.symm])
  have hreach' : Transition.Reachable Verifier.Init Verifier.Step mid := by
    obtain ⟨s₀, hinit, hrun⟩ := hreach
    exact ⟨s₀, hinit, hrun.tail (revokeFrom_step hmid)⟩
  have hlast : ∃ last, revokeFrom (deriveSubAccount cfg user botId bot.symbol.2) d token { s with custody := mid } =
      .ok { s with custody := last } ∧ TookBack d (deriveSubAccount cfg user botId bot.symbol.2) token mid last := by
    refine @revokeFrom_ok cfg { s with custody := mid } _ _ _ dominator hexact hreach'
      (hfirst.dominators ▸ hd) hevicted ?_ ?_
    · rw [Retrievable, hamounts, hamounts]
      exact hretrievable.2
    · have hfree := congrArg (fun b : U128 × U128 => b.1.toNat) hbalance
      have hheld : holding d token (deriveSubAccount cfg user botId bot.symbol.2) { s with custody := mid } =
          holding d token (deriveSubAccount cfg user botId bot.symbol.2) s := by
        rw [holding, entrusted, hamounts, hamounts]
        exact congrArg (· + _) hfree
      rw [hheld]
      exact hfits.2
  obtain ⟨last, hlast, hsecond⟩ := hlast
  refine ⟨{ s with custody := last }, ?_, revoked_of_tookBack hne hfirst hsecond⟩
  change revokeToSub user botId d token s = _
  rw [revokeToSub, hbot, okOr_some, ok_bind]
  dsimp only
  rw [hmid, ok_bind, hlast]

end Leave

/-! ### Withdrawing -/

/-- What is free of a token in two accounts goes to the user. -/
structure Withdrawn (user : AccountId) (token : TokenId) (subs : List AccountId) (s s' : State cfg) : Prop where
  free : ∀ who ∈ subs, freeBalance token who s'.custody.asset = 0
  received : (freeBalance token user s'.custody.asset).toNat = (freeBalance token user s.custody.asset).toNat +
    (subs.map fun who => (freeBalance token who s.custody.asset).toNat).sum
  elsewhere : ∀ t who, t ≠ token → balancesOf t who s'.custody.asset = balancesOf t who s.custody.asset
  frame : s' = { s with custody := { s.custody with asset := s'.custody.asset } }

/-- All that is free is transferred. -/
theorem transfer_all (hunlocked : cfg.custody.token.balances.Unlocked who) (hne : who ≠ user)
    (hfits : (freeBalance token user s.custody.asset).toNat + (freeBalance token who s.custody.asset).toNat < 2 ^ 128) :
    ∃ s', transfer who token (freeBalance token who s.custody.asset) user s = .ok s' ∧
      Withdrawn user token [who] s s' ∧ ∀ other, other ≠ who → other ≠ user →
        freeBalance token other s'.custody.asset = freeBalance token other s.custody.asset := by
  obtain ⟨asset, hasset⟩ := Token.transferToken_ok hunlocked hne
    (le_refl (balancesOf token who s.custody.asset).1.toNat) hfits
  obtain ⟨hwho, huser, helsewhere⟩ := Token.transferToken_eq_ok hunlocked.toExact hne hasset
  have hasset' : Token.transferToken who token (freeBalance token who s.custody.asset) user s.custody.asset =
    .ok (freeBalance token who s.custody.asset, asset) := hasset
  refine ⟨{ s with custody := { s.custody with asset } }, ?_, ⟨?_, huser, ?_, rfl⟩, ?_⟩
  · rw [transfer, hasset']
    rfl
  · rw [List.forall_mem_singleton]
    exact BitVec.eq_of_toNat_eq (Nat.add_eq_right.mp hwho.symm)
  · intro t other ht
    exact helsewhere t other (by simp [ht]) (by simp [ht])
  · intro other hwho huser
    exact congrArg Prod.fst (helsewhere token other (by simp [hwho]) (by simp [huser]))

/-- A call to withdraw succeeds if there is room for what is free. -/
theorem withdrawFromSub_ok (hunlocked : ∀ who ∈ subAccounts cfg user botId bot, cfg.custody.token.balances.Unlocked who)
    (hbot : s.bots botId = some bot)
    (hne : deriveSubAccount cfg user botId bot.symbol.1 ≠ deriveSubAccount cfg user botId bot.symbol.2)
    (huser : ∀ who ∈ subAccounts cfg user botId bot, who ≠ user)
    (hfits : (freeBalance token user s.custody.asset).toNat + ((subAccounts cfg user botId bot).map fun who =>
      (freeBalance token who s.custody.asset).toNat).sum < 2 ^ 128) :
    ∃ s', dispatch (.withdraw botId token) (.signed user) s = .ok s' ∧
      Withdrawn user token (subAccounts cfg user botId bot) s s' := by
  rw [subAccounts, forall_mem_pair] at huser hunlocked
  simp only [subAccounts, List.map_cons, List.map_nil, List.sum_cons, List.sum_nil, Nat.add_zero] at hfits
  obtain ⟨mid, hmid, hfirst, hother⟩ := @transfer_all _ s _ _ token hunlocked.1 huser.1 (by omega)
  have hfree := hother _ hne.symm huser.2
  have hreceived := hfirst.received
  simp only [List.map_cons, List.map_nil, List.sum_cons, List.sum_nil, Nat.add_zero] at hreceived
  obtain ⟨s', hs', hsecond, hother'⟩ := @transfer_all _ mid _ _ token hunlocked.2 huser.2 (by
    rw [hfree, hreceived]
    omega)
  refine ⟨s', ?_, forall_mem_pair.mpr ⟨?_, ?_⟩, ?_, fun t who ht => ?_, ?_⟩
  · change withdrawFromSub user botId token s = _
    rw [withdrawFromSub, hbot, okOr_some, ok_bind]
    dsimp only
    rw [hmid, ok_bind, ← hfree]
    exact hs'
  · rw [hother' _ hne huser.1]
    exact hfirst.free _ (List.mem_singleton_self _)
  · exact hsecond.free _ (List.mem_singleton_self _)
  · have hreceived' := hsecond.received
    simp only [subAccounts, List.map_cons, List.map_nil, List.sum_cons, List.sum_nil, Nat.add_zero] at hreceived' ⊢
    rw [hreceived', hreceived, hfree, Nat.add_assoc]
  · exact (hsecond.elsewhere t who ht).trans (hfirst.elsewhere t who ht)
  · rw [hsecond.frame, hfirst.frame]

/-! ### One currency after the other -/

/-- A user has everything of a token that two accounts had. -/
structure Collected (user d : AccountId) (token : TokenId) (subs : List AccountId) (s s' : State cfg) : Prop where
  entrusted : ∀ who ∈ subs, entrusted d who token s'.custody = 0
  free : ∀ who ∈ subs, freeBalance token who s'.custody.asset = 0
  received : (freeBalance token user s'.custody.asset).toNat = (freeBalance token user s.custody.asset).toNat +
    (subs.map fun who => holding d token who s).sum
  elsewhere : ∀ t who, t ≠ token → balancesOf t who s'.custody.asset = balancesOf t who s.custody.asset ∧
    ∀ kind, amounts s'.custody.reserves ((kind, who, t), d) = amounts s.custody.reserves ((kind, who, t), d)
  dominators : s'.custody.dominators = s.custody.dominators
  bots : s'.bots = s.bots

/-- Another token is where it was. -/
theorem Collected.other {subs : List AccountId} (h : Collected user d token subs s s') (ht : t ≠ token)
    (who : AccountId) : freeBalance t who s'.custody.asset = freeBalance t who s.custody.asset ∧
      Verifier.entrusted d who t s'.custody = Verifier.entrusted d who t s.custody ∧
        holding d t who s' = holding d t who s := by
  obtain ⟨hbalances, hamounts⟩ := h.elsewhere t who ht
  have hfree : freeBalance t who s'.custody.asset = freeBalance t who s.custody.asset := congrArg Prod.fst hbalances
  have hentrusted : Verifier.entrusted d who t s'.custody = Verifier.entrusted d who t s.custody := by
    rw [Verifier.entrusted, hamounts, hamounts]
    rfl
  exact ⟨hfree, hentrusted, by rw [holding, holding, hfree, hentrusted]⟩

/-- The calls that collect a token. The second one takes back what the first one moved out of the stash. -/
def collect (botId d : AccountId) (token : TokenId) : List Call :=
  [.revoke botId d token, .revoke botId d token, .withdraw botId token]

section Collect

variable {dominator : Verifier.Dominator}

theorem collect_ok (hunlocked : ∀ who ∈ subAccounts cfg user botId bot, cfg.custody.token.balances.Unlocked who)
    (hreach : Transition.Reachable Verifier.Init Verifier.Step s.custody) (hbot : s.bots botId = some bot)
    (hd : s.custody.dominators.lookup d = some dominator) (hevicted : dominator.status = .evicted)
    (hne : deriveSubAccount cfg user botId bot.symbol.1 ≠ deriveSubAccount cfg user botId bot.symbol.2)
    (huser : ∀ who ∈ subAccounts cfg user botId bot, who ≠ user)
    (hretrievable : ∀ who ∈ subAccounts cfg user botId bot, Retrievable d who token s.custody)
    (hfits : (freeBalance token user s.custody.asset).toNat + ((subAccounts cfg user botId bot).map fun who =>
      holding d token who s).sum < 2 ^ 128) :
    ∃ s', dispatchAll (collect botId d token) user s = .ok s' ∧
      Collected user d token (subAccounts cfg user botId bot) s s' := by
  have hroom : ∀ who ∈ subAccounts cfg user botId bot, holding d token who s < 2 ^ 128 := by
    intro who hwho
    have hle := List.single_le_sum (fun x _ => Nat.zero_le x) _ (List.mem_map_of_mem (f := fun who =>
      holding d token who s) hwho)
    exact Nat.lt_of_le_of_lt (hle.trans (Nat.le_add_left _ _)) hfits
  have hnot : user ∉ subAccounts cfg user botId bot := fun hmem => huser user hmem rfl
  have hexact := (hunlocked _ List.mem_cons_self).toExact
  obtain ⟨s₁, hs₁, hfirst⟩ := revokeToSub_ok hexact hreach hbot hd hevicted hne hretrievable hroom
  have hreach₁ : Transition.Reachable Verifier.Init Verifier.Step s₁.custody := by
    obtain ⟨s₀, hinit, hrun⟩ := hreach
    exact ⟨s₀, hinit, hrun.trans (dispatch_steps hs₁)⟩
  obtain ⟨s₂, hs₂, hsecond⟩ := @revokeToSub_ok _ s₁ user botId d token bot dominator hexact hreach₁
    (hfirst.bots ▸ hbot) (hfirst.dominators ▸ hd) hevicted hne (fun who hwho _ => hfirst.stash who hwho)
    (fun who hwho => by
      rw [hfirst.holding who hwho]
      exact hroom who hwho)
  have hempty : ∀ who ∈ subAccounts cfg user botId bot, entrusted d who token s₂.custody = 0 := fun who hwho =>
    (hsecond.entrusted who hwho).trans (hfirst.stash who hwho)
  -- What the accounts have is all free now.
  have hfree : ((subAccounts cfg user botId bot).map fun who => (freeBalance token who s₂.custody.asset).toNat) =
      (subAccounts cfg user botId bot).map fun who => holding d token who s := by
    refine List.map_congr_left fun who hwho => ?_
    rw [← hfirst.holding who hwho, ← hsecond.holding who hwho, holding, hempty who hwho, Nat.add_zero]
  have hsame : freeBalance token user s₂.custody.asset = freeBalance token user s.custody.asset :=
    congrArg Prod.fst ((hsecond.elsewhere token user fun _ => hnot).1.trans
      (hfirst.elsewhere token user fun _ => hnot).1)
  obtain ⟨s₃, hs₃, hlast⟩ := @withdrawFromSub_ok _ s₂ user botId token bot hunlocked
    (hsecond.bots.trans hfirst.bots ▸ hbot) hne huser (by rwa [hfree, hsame])
  have hframe := hlast.frame
  refine ⟨s₃, ?_, fun who hwho => ?_, hlast.free, ?_, fun t who ht => ⟨?_, fun kind => ?_⟩, ?_, ?_⟩
  · simp only [dispatchAll, collect, List.foldlM_cons, List.foldlM_nil, hs₁, hs₂, hs₃, ok_bind]
    rfl
  · rw [hframe]
    exact hempty who hwho
  · rw [hlast.received, hfree, hsame]
  · exact (hlast.elsewhere t who ht).trans ((hsecond.elsewhere t who fun heq => absurd heq ht).1.trans
      (hfirst.elsewhere t who fun heq => absurd heq ht).1)
  · rw [hframe]
    exact ((hsecond.elsewhere t who fun heq => absurd heq ht).2 kind).trans
      ((hfirst.elsewhere t who fun heq => absurd heq ht).2 kind)
  · rw [hframe]
    exact hsecond.dominators.trans hfirst.dominators
  · rw [hframe]
    exact hsecond.bots.trans hfirst.bots

end Collect

/-! ### Both currencies -/

/-- What the calls leave where nothing is authorised is what is stashed. -/
theorem stranded_of_leaves {call : Call} {origin : Origin} {stash : Nat} (hcall : call.Leaves botId d bot)
    (hs : amounts s.custody.reserves ((.authorizing, who, token), d) = 0 ∧
      amounts s.custody.reserves ((.authorizingStash, who, token), d) = stash)
    (h : dispatch call origin s = .ok s') :
    amounts s'.custody.reserves ((.authorizing, who, token), d) = 0 ∧
      amounts s'.custody.reserves ((.authorizingStash, who, token), d) = stash := by
  obtain ⟨caller, -, h⟩ := bind_eq_ok.mp h
  cases call with
  | revoke botId' d' currency =>
      simp only [revokeToSub, bind_eq_ok] at h
      obtain ⟨bot, -, mid, hmid, h⟩ := h
      obtain ⟨first, hfirst, rfl⟩ := revokeFrom_eq_ok hmid
      obtain ⟨second, hsecond, rfl⟩ := revokeFrom_eq_ok h
      obtain ⟨hauthorized, hstash⟩ := Verifier.revokeFrom_stranded hs.1 hfirst
      obtain ⟨hauthorized', hstash'⟩ := Verifier.revokeFrom_stranded hauthorized hsecond
      exact ⟨hauthorized', (hstash'.trans hstash).trans hs.2⟩
  | withdraw botId' currency =>
      simp only [withdrawFromSub, bind_eq_ok] at h
      obtain ⟨bot, -, mid, hmid, h⟩ := h
      obtain ⟨-, asset, -, rfl⟩ := transfer_eq_ok hmid
      obtain ⟨-, asset', -, rfl⟩ := transfer_eq_ok h
      exact hs
  | _ => exact hcall.elim

theorem stranded_of_dispatchAll {calls : List Call} {stash : Nat}
    (hcalls : ∀ call ∈ calls, call.Leaves botId d bot)
    (hs : amounts s.custody.reserves ((.authorizing, who, token), d) = 0 ∧
      amounts s.custody.reserves ((.authorizingStash, who, token), d) = stash)
    (h : dispatchAll calls user s = .ok s') :
    amounts s'.custody.reserves ((.authorizing, who, token), d) = 0 ∧
      amounts s'.custody.reserves ((.authorizingStash, who, token), d) = stash :=
  foldlM_invariant_mem (fun s : State cfg => amounts s.custody.reserves ((.authorizing, who, token), d) = 0 ∧
      amounts s.custody.reserves ((.authorizingStash, who, token), d) = stash)
    (fun call hcall _ _ hs h => stranded_of_leaves (hcalls call hcall) hs h) hs h

section Both

variable {dominator : Verifier.Dominator}

/-- Collecting one currency after the other leaves nothing. -/
theorem left_of_collected (hne : bot.symbol.1 ≠ bot.symbol.2) {mid : State cfg}
    (hfirst : Collected user d bot.symbol.1 (subAccounts cfg user botId bot) s mid)
    (hsecond : Collected user d bot.symbol.2 (subAccounts cfg user botId bot) mid s') :
    Left user botId d bot s s' := by
  have hother := fun who => hfirst.other hne.symm who
  have hother' := fun who => hsecond.other hne who
  refine ⟨fun who hwho => forall_mem_pair.mpr ⟨?_, hsecond.entrusted who hwho⟩,
    fun who hwho => forall_mem_pair.mpr ⟨?_, hsecond.free who hwho⟩, forall_mem_pair.mpr ⟨?_, ?_⟩⟩
  · rw [(hother' who).2.1]
    exact hfirst.entrusted who hwho
  · rw [(hother' who).1]
    exact hfirst.free who hwho
  · rw [(hother' user).1]
    exact hfirst.received
  · have hreceived := hsecond.received
    simp only [(hother _).1, (hother _).2.2] at hreceived
    exact hreceived

/-- Whoever uses a bot gets everything back from an evicted dominator by calls to revoke and withdraw if and only if
something is authorised wherever something is stashed, and there is room for it. -/
theorem everything_comes_back_iff
    (hunlocked : ∀ who ∈ subAccounts cfg user botId bot, cfg.custody.token.balances.Unlocked who)
    (hcurrency : ∀ user botId, Function.Injective fun c => cfg.subAccount (c, user, botId))
    (hkeyed : ∀ x, user ≠ cfg.subAccount x) (h : Transition.Reachable Init Step s)
    (hbot : s.bots botId = some bot) (hd : s.custody.dominators.lookup d = some dominator)
    (hevicted : dominator.status = .evicted) :
    (∃ calls s', (∀ call ∈ calls, call.Leaves botId d bot) ∧ dispatchAll calls user s = .ok s' ∧
        Left user botId d bot s s') ↔
      (∀ who ∈ subAccounts cfg user botId bot, ∀ t ∈ [bot.symbol.1, bot.symbol.2],
        amounts s.custody.reserves ((.authorizing, who, t), d) = 0 →
          amounts s.custody.reserves ((.authorizingStash, who, t), d) = 0) ∧
      ∀ t ∈ [bot.symbol.1, bot.symbol.2], (freeBalance t user s.custody.asset).toNat +
        ((subAccounts cfg user botId bot).map fun who => holding d t who s).sum < 2 ^ 128 := by
  constructor
  · rintro ⟨calls, s', hcalls, hrun, hleft⟩
    refine ⟨fun who hwho t ht hauthorized => ?_, fun t ht => ?_⟩
    · obtain ⟨-, hstash⟩ := stranded_of_dispatchAll hcalls ⟨hauthorized, rfl⟩ hrun
      have hempty := hleft.reserves who hwho t ht
      rw [entrusted, hstash] at hempty
      exact (Nat.add_eq_zero_iff.mp hempty).2
    · rw [← hleft.received t ht]
      exact (freeBalance t user s'.custody.asset).isLt
  · rintro ⟨hretrievable, hfits⟩
    have hsymbol := symbol_ne h hbot
    have hne := @sub_ne cfg user botId bot hcurrency hsymbol
    have huser : ∀ who ∈ subAccounts cfg user botId bot, who ≠ user :=
      forall_mem_pair.mpr ⟨(hkeyed _).symm, (hkeyed _).symm⟩
    rw [forall_mem_pair] at hfits
    obtain ⟨mid, hmid, hfirst⟩ := @collect_ok cfg s user botId d bot.symbol.1 bot dominator hunlocked
      (custody_reachable h) hbot hd hevicted hne huser
      (fun who hwho => hretrievable who hwho _ (by simp)) hfits.1
    have hother := fun who => hfirst.other hsymbol.symm who
    have hreach' : Transition.Reachable Verifier.Init Verifier.Step mid.custody := by
      obtain ⟨s₀, hinit, hrun⟩ := custody_reachable h
      exact ⟨s₀, hinit, hrun.trans (dispatchAll_steps hmid)⟩
    obtain ⟨s', hs', hsecond⟩ := @collect_ok cfg mid user botId d bot.symbol.2 bot dominator hunlocked
      hreach' (hfirst.bots ▸ hbot) (hfirst.dominators ▸ hd) hevicted hne huser
      (fun who hwho => by
        have hsame := (hfirst.elsewhere bot.symbol.2 who hsymbol.symm).2
        rw [Retrievable, hsame, hsame]
        exact hretrievable who hwho _ (by simp))
      (by
        simp only [(hother _).1, (hother _).2.2]
        exact hfits.2)
    refine ⟨collect botId d bot.symbol.1 ++ collect botId d bot.symbol.2, s', ?_, ?_,
      left_of_collected hsymbol hfirst hsecond⟩
    · simp [collect, Call.Leaves]
    · rw [dispatchAll, List.foldlM_append]
      exact bind_eq_ok.mpr ⟨mid, hmid, hs'⟩

end Both

/-! ### A deposit that is not proved in time -/

/-- The tag keeps the address of an account apart from those that sign. -/
def plainConfig : Config where
  custody := Verifier.plainConfig []
  botStakingThreshold := 1
  systemAccount := List.Vector.replicate 32 110
  subAccount x := ⟨111 :: (Bytes.leBytes 4 x.1.toNat ++ x.2.1.toList.take 14 ++ x.2.2.toList.take 13), by simp⟩

theorem plainConfig_injective (user botId : AccountId) :
    Function.Injective fun c => plainConfig.subAccount (c, user, botId) := by
  intro c c' heq
  have hlists := (List.cons.inj (congrArg List.Vector.toList heq)).2
  have hbytes := (List.append_inj (List.append_inj hlists (by simp)).1 (by simp)).1
  exact BitVec.eq_of_toNat_eq (Bytes.leBytes_inj c.isLt c'.isLt hbytes)

theorem plainConfig_keyed {b : UInt8} (hb : b ≠ 111) (x : TokenId × AccountId × AccountId) :
    List.Vector.replicate 32 b ≠ plainConfig.subAccount x :=
  fun heq => hb (List.cons.inj (congrArg List.Vector.toList heq)).1

inductive Action
  | call (call : Call) (user : AccountId)
  | chain (action : Verifier.Action plainConfig.custody)

def Action.perform : Action → State plainConfig → Result (State plainConfig)
  | .call c user, s => dispatch c (.signed user) s
  | .chain action, s => do
      let custody ← action.perform s.custody
      return { s with custody }

def startState : State plainConfig := ⟨fun _ => none, .genesis (Verifier.plainAssets 100) ()⟩

def play (actions : List Action) : Result (State plainConfig) :=
  actions.foldlM (fun s action => action.perform s) startState

theorem reachable_of_play {actions : List Action} {s : State plainConfig} (h : play actions = .ok s) :
    Transition.Reachable Init Step s := by
  refine foldlM_invariant (Transition.Reachable Init Step) (fun s action s' hs h => ?_)
    ⟨startState, ⟨fun _ => rfl, _, _, rfl⟩, .refl⟩ h
  obtain ⟨s₀, hinit, hrun⟩ := hs
  cases action with
  | call call user => exact ⟨s₀, hinit, hrun.tail (.call call _ h)⟩
  | chain action =>
      simp only [Action.perform, bind_eq_ok, pure_eq_ok] at h
      obtain ⟨custody, hcustody, rfl⟩ := h
      exact ⟨s₀, hinit, hrun.tail (.chain (Verifier.Action.step hcustody))⟩

/-- A bot of bob's for the native token and a stable one, both of which alice has. -/
def registerRun : List Action :=
  (Verifier.onlineRun plainConfig.custody).map Action.chain ++ [
    .chain (.call 1 (.create Token.unitToken) .root),
    .chain (.call 1 (.markStable 1) .root),
    .chain (.call 1 (.doMint 1 Token.alice 1) .root),
    .call (.register (0, 1) [] 10 1 1 []) Verifier.bob]

def evictRun : List Action := [.chain (.call 1 (.evict Verifier.operator) .root)]

/-- The account of alice for the native token. -/
def nativeAccount : AccountId := deriveSubAccount plainConfig Token.alice Verifier.bob 0

/-- What alice transferred to her account comes back, with what it had at genesis. -/
theorem everything_comes_back_iff_transferred : ∃ (s s' : State plainConfig) (bot : Bot) (calls : List Call),
    holding Verifier.operator 0 nativeAccount s = 110 ∧ dispatchAll calls Token.alice s = .ok s' ∧
      Left Token.alice Verifier.bob Verifier.operator bot s s' := by
  obtain ⟨s, hs, hcheck⟩ := exists_of_succeedsWith
    (x := play (registerRun ++ [.chain (.call 1 (.transfer 0 nativeAccount 10) (.signed Token.alice))] ++ evictRun))
    (p := fun s => decide ((s.custody.dominators.lookup Verifier.operator).map Verifier.Dominator.status =
        some .evicted) &&
      decide ((s.bots Verifier.bob).map Bot.symbol = some (0, 1)) &&
      decide (holding Verifier.operator 0 nativeAccount s = 110) &&
      ([nativeAccount, deriveSubAccount plainConfig Token.alice Verifier.bob 1].all fun who =>
        [0, 1].all fun t => decide (amounts s.custody.reserves ((.authorizing, who, t), Verifier.operator) = 0 →
          amounts s.custody.reserves ((.authorizingStash, who, t), Verifier.operator) = 0)) &&
      ([0, 1].all fun t => decide ((freeBalance t Token.alice s.custody.asset).toNat +
        ([nativeAccount, deriveSubAccount plainConfig Token.alice Verifier.bob 1].map fun who =>
          holding Verifier.operator t who s).sum < 2 ^ 128))) (by decide +kernel)
  simp only [Bool.and_eq_true, decide_eq_true_eq, List.all_eq_true] at hcheck
  obtain ⟨⟨⟨⟨hstatus, hsymbol⟩, hheld⟩, hretrievable⟩, hfits⟩ := hcheck
  obtain ⟨dominator, hd, hevicted⟩ := Option.map_eq_some_iff.mp hstatus
  obtain ⟨bot, hbot, hsymbol⟩ := Option.map_eq_some_iff.mp hsymbol
  have hsubs : subAccounts plainConfig Token.alice Verifier.bob bot =
      [nativeAccount, deriveSubAccount plainConfig Token.alice Verifier.bob 1] := by
    rw [subAccounts, hsymbol]
    rfl
  have hkeyed : ∀ x, Token.alice ≠ plainConfig.subAccount x := plainConfig_keyed (by decide)
  obtain ⟨calls, s', -, hrun, hleft⟩ := (everything_comes_back_iff (fun who _ => Balances.plain_unlocked who)
    plainConfig_injective hkeyed (reachable_of_play hs) hbot hd hevicted).mpr (by
      rw [hsubs, hsymbol]
      exact ⟨hretrievable, hfits⟩)
  exact ⟨s, s', bot, calls, hheld, hrun, hleft⟩

/-- A deposit of alice's waits for its proofs, and the operator is evicted: nothing of it comes back. -/
theorem deposit_is_stranded : ∃ (s : State plainConfig) (bot : Bot) (dominator : Verifier.Dominator),
    Transition.Reachable Init Step s ∧ s.bots Verifier.bob = some bot ∧
      s.custody.dominators.lookup Verifier.operator = some dominator ∧ dominator.status = .evicted ∧
      ∀ calls s', (∀ call ∈ calls, call.Leaves Verifier.bob Verifier.operator bot) →
        dispatchAll calls Token.alice s = .ok s' → ¬ Left Token.alice Verifier.bob Verifier.operator bot s s' := by
  obtain ⟨s, hs, hcheck⟩ := exists_of_succeedsWith
    (x := play (registerRun ++ [.call (.deposit Verifier.bob Verifier.operator 10 10) Token.alice] ++ evictRun))
    (p := fun s => decide ((s.custody.dominators.lookup Verifier.operator).map Verifier.Dominator.status =
        some .evicted) &&
      decide ((s.bots Verifier.bob).map Bot.symbol = some (0, 1)) &&
      decide (amounts s.custody.reserves ((.authorizing, nativeAccount, 0), Verifier.operator) = 0) &&
      decide (amounts s.custody.reserves ((.authorizingStash, nativeAccount, 0), Verifier.operator) = 10))
    (by decide +kernel)
  simp only [Bool.and_eq_true, decide_eq_true_eq] at hcheck
  obtain ⟨⟨⟨hstatus, hsymbol⟩, hauthorized⟩, hstash⟩ := hcheck
  obtain ⟨dominator, hd, hevicted⟩ := Option.map_eq_some_iff.mp hstatus
  obtain ⟨bot, hbot, hsymbol⟩ := Option.map_eq_some_iff.mp hsymbol
  refine ⟨s, bot, dominator, reachable_of_play hs, hbot, hd, hevicted, fun calls s' hcalls hrun hleft => ?_⟩
  obtain ⟨-, hstash'⟩ := stranded_of_dispatchAll hcalls ⟨hauthorized, hstash⟩ hrun
  have hempty := hleft.reserves nativeAccount (by simp [subAccounts, hsymbol, nativeAccount]) 0 (by simp [hsymbol])
  rw [entrusted, hstash'] at hempty
  exact absurd hempty (by omega)

end Fusotao.Bots
