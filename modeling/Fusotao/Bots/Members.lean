import Fusotao.Base.Escrow
import Fusotao.Bots.Leaving

/-!
# The users of a bot

A bot admits users up to a maximum, and keeps a list of them. It is registered for good: no call drops a bot, takes a
user from it or pays its stake back.
-/

namespace Fusotao.Bots

open Exec Relation
open Token (balancesOf freeBalance)

variable {cfg : Config} {s s' s₀ : State cfg} {user botId d who : AccountId} {token : TokenId} {bot bot' : Bot}

/-! ### The account of the pallet -/

/-- What the account of the pallet has of the native token. -/
def held (s : State cfg) : Nat :=
  (freeBalance cfg.custody.token.nativeTokenId cfg.systemAccount s.custody.asset).toNat

theorem held_of_onlyAt (hwho : who ≠ cfg.systemAccount)
    (h : Token.OnlyAt token who s.custody.asset s'.custody.asset) : held s' = held s := by
  have hsame := h cfg.custody.token.nativeTokenId cfg.systemAccount fun heq => hwho (Prod.mk.inj heq).2.symm
  exact congrArg (fun b : U128 × U128 => b.1.toNat) hsame

theorem transfer_held {amount : U128} {target : AccountId} (hexact : cfg.custody.token.balances.Exact)
    (hwho : who ≠ cfg.systemAccount) (h : transfer who token amount target s = .ok s') : held s ≤ held s' := by
  obtain ⟨paid, asset, htransfer, rfl⟩ := transfer_eq_ok h
  exact Token.transferToken_free_le hexact htransfer cfg.custody.token.nativeTokenId (Ne.symm hwho)

theorem authorizeTo_held {amount : U128} (hlaw : cfg.custody.token.balances.Lawful) (hwho : who ≠ cfg.systemAccount)
    (h : authorizeTo who d token amount s = .ok s') : held s' = held s := by
  obtain ⟨custody, hcustody, rfl⟩ := authorizeTo_eq_ok h
  obtain ⟨-, -, mid, hmid, rfl⟩ := Verifier.authorizeTo_eq_ok hcustody
  exact held_of_onlyAt hwho (Token.reserve_eq_ok hlaw (Verifier.reserve_eq_ok hmid).2.2).2

theorem revokeFrom_held (hlaw : cfg.custody.token.balances.Lawful) (hwho : who ≠ cfg.systemAccount)
    (h : revokeFrom who d token s = .ok s') : held s' = held s := by
  obtain ⟨custody, hcustody, rfl⟩ := revokeFrom_eq_ok h
  obtain rfl | ⟨dominator, amount, -, -, -, ⟨-, mid, last, hmid, hlast, rfl⟩ | ⟨-, -, receipt, -, rfl⟩⟩ :=
    Verifier.revokeFrom_eq_ok hcustody
  · rfl
  · have hasset : mid.asset = s.custody.asset := by rw [(Verifier.mergeStash_eq_ok hmid).1]
    have honly := (Token.unreserve_eq_ok hlaw (Verifier.unreserve_eq_ok hlast).2.2.2).2
    rw [hasset] at honly
    exact held_of_onlyAt hwho honly
  · rfl

/-! ### What a call does to the bots -/

/-- The entry of a bot later on: users may have joined, and nothing else changes. -/
def Grown (bot bot' : Bot) : Prop :=
  ∃ users currentInstance, bot' = { bot with users := bot.users ++ users, currentInstance }

theorem Grown.refl (bot : Bot) : Grown bot bot := ⟨[], bot.currentInstance, by rw [List.append_nil]⟩

theorem Grown.trans {bot'' : Bot} (h : Grown bot bot') (h' : Grown bot' bot'') : Grown bot bot'' := by
  obtain ⟨users, currentInstance, rfl⟩ := h
  obtain ⟨users', currentInstance', rfl⟩ := h'
  exact ⟨users ++ users', currentInstance', by rw [List.append_assoc]⟩

theorem grown_join (bot : Bot) (user : AccountId) : Grown bot (bot.join user) := by
  unfold Bot.join
  split
  · exact .refl bot
  · exact ⟨[user], bot.currentInstance + 1, rfl⟩

/-- A bot is registered with its stake, or is joined by the signer, or no bot changes. -/
inductive Changed (origin : Origin) (s s' : State cfg) : Prop
  | registered (creator : AccountId) (bot : Bot) (horigin : origin = .signed creator) (hfree : s.bots creator = none)
      (hbot : bot.staked = cfg.botStakingThreshold ∧ bot.symbol.1 ≠ bot.symbol.2 ∧ bot.users = [] ∧
        bot.currentInstance = 0)
      (hbots : s'.bots = s.bots.insert creator bot) (hheld : creator ≠ cfg.systemAccount →
        held s' = held s + bot.staked.toNat)
  | joined (user botId : AccountId) (bot : Bot) (horigin : origin = .signed user) (hbot : s.bots botId = some bot)
      (hroom : bot.currentInstance + 1 ≤ bot.maxInstance) (hbots : s'.bots = s.bots.insert botId (bot.join user))
      (hheld : user ≠ cfg.systemAccount → held s ≤ held s')
  | kept (hbots : s'.bots = s.bots)
      (hheld : origin ≠ .signed cfg.systemAccount → held s ≤ held s')

theorem dispatch_changed {call : Call} {origin : Origin} (hexact : cfg.custody.token.balances.Exact)
    (hsub : ∀ x, cfg.subAccount x ≠ cfg.systemAccount) (hcall : dispatch call origin s = .ok s') :
    Changed origin s s' := by
  obtain ⟨who, hwho, h⟩ := bind_eq_ok.mp hcall
  obtain rfl := ensureSigned_eq_ok.mp hwho
  have hlaw := hexact.toLawful
  cases call with
  | register symbol name maxInstance minBase minQuote desc =>
      simp only [registerBot, bind_eq_ok, ensure_eq_ok, exists_const, pure_eq_ok] at h
      obtain ⟨hfree, hsymbol, -, mid, hmid, rfl⟩ := h
      obtain ⟨paid, asset, htransfer, rfl⟩ := transfer_eq_ok hmid
      refine .registered who _ rfl (Option.isNone_iff_eq_none.mp hfree) ⟨rfl, hsymbol, rfl, rfl⟩ rfl fun hne => ?_
      exact (Token.transferToken_eq_ok hexact hne htransfer).2.1
  | deposit botId d baseAmount quoteAmount =>
      simp only [depositIntoSub, bind_eq_ok, okOr_eq_ok, ensure_eq_ok, exists_const, pure_eq_ok] at h
      obtain ⟨bot, hbot, hroom, -, -, s₁, h₁, s₂, h₂, s₃, h₃, s₄, h₄, rfl⟩ := h
      refine .joined who botId bot rfl hbot hroom ?_ fun hne => ?_
      · obtain ⟨-, asset, -, rfl⟩ := transfer_eq_ok h₁
        obtain ⟨-, asset', -, rfl⟩ := transfer_eq_ok h₂
        obtain ⟨custody, -, rfl⟩ := authorizeTo_eq_ok h₃
        obtain ⟨custody', -, rfl⟩ := authorizeTo_eq_ok h₄
        rfl
      · calc held s ≤ held s₁ := transfer_held hexact hne h₁
          _ ≤ held s₂ := transfer_held hexact hne h₂
          _ = held s₃ := (authorizeTo_held hlaw (hsub _) h₃).symm
          _ = held s₄ := (authorizeTo_held hlaw (hsub _) h₄).symm
  | revoke botId d currency =>
      simp only [revokeToSub, bind_eq_ok] at h
      obtain ⟨bot, -, mid, hmid, h⟩ := h
      have hheld : held s' = held s := (revokeFrom_held hlaw (hsub _) h).trans (revokeFrom_held hlaw (hsub _) hmid)
      refine .kept ?_ fun _ => hheld.ge
      obtain ⟨custody, -, rfl⟩ := revokeFrom_eq_ok hmid
      obtain ⟨custody', -, rfl⟩ := revokeFrom_eq_ok h
      rfl
  | withdraw botId currency =>
      simp only [withdrawFromSub, bind_eq_ok] at h
      obtain ⟨bot, -, mid, hmid, h⟩ := h
      have hheld : held s ≤ held s' := (transfer_held hexact (hsub _) hmid).trans (transfer_held hexact (hsub _) h)
      refine .kept ?_ fun _ => hheld
      obtain ⟨-, asset, -, rfl⟩ := transfer_eq_ok hmid
      obtain ⟨-, asset', -, rfl⟩ := transfer_eq_ok h
      rfl

/-! ### Runs -/

/-- A call that the account of the pallet has not signed, or a step of the chain besides that takes nothing from it. -/
inductive MemberStep : State cfg → State cfg → Prop
  | call {s s' : State cfg} (call : Call) (origin : Origin) (horigin : origin ≠ .signed cfg.systemAccount)
      (h : dispatch call origin s = .ok s') : MemberStep s s'
  | chain (s : State cfg) (custody : Verifier.State cfg.custody) (hheld : held s ≤ held { s with custody }) :
      MemberStep s { s with custody }

def stakeOf (bot : Bot) : Nat := bot.staked.toNat

/-- The users are counted, each of them once, and there are not too many. The count is a word, and a bot that admits as
many as a word holds admits everybody. -/
structure Sound (cfg : Config) (bot : Bot) : Prop where
  staked : bot.staked = cfg.botStakingThreshold
  symbol : bot.symbol.1 ≠ bot.symbol.2
  users : bot.users.Nodup
  count : bot.currentInstance = BitVec.ofNat 32 bot.users.length
  room : bot.maxInstance.toNat + 1 < 2 ^ 32 → bot.users.length ≤ bot.maxInstance.toNat

theorem Sound.join (h : Sound cfg bot) (hroom : bot.currentInstance + 1 ≤ bot.maxInstance) (user : AccountId) :
    Sound cfg (bot.join user) := by
  unfold Bot.join
  split
  · exact h
  · rename_i hnew
    refine ⟨h.staked, h.symbol, ?_, ?_, fun hmax => ?_⟩
    · refine List.nodup_append.mpr ⟨h.users, List.nodup_singleton user, fun a ha a' ha' heq => ?_⟩
      rw [heq, List.mem_singleton.mp ha'] at ha
      exact hnew ha
    · simp only [List.length_append, List.length_singleton, h.count, BitVec.ofNat_add]
      rfl
    · have hbefore := h.room hmax
      have hnext : bot.users.length + 1 < 2 ^ 32 := Nat.lt_of_le_of_lt (Nat.succ_le_succ hbefore) hmax
      have hone : (1 : U32).toNat = 1 := rfl
      rw [BitVec.le_def, h.count, BitVec.toNat_add, BitVec.toNat_ofNat, hone,
        Nat.mod_eq_of_lt (Nat.lt_of_succ_lt hnext), Nat.mod_eq_of_lt hnext] at hroom
      rw [List.length_append, List.length_singleton]
      exact hroom

/-- The stakes are there, and every bot is sound. -/
structure Orderly (base : Nat) (s : State cfg) : Prop where
  covered : Escrow.Covered stakeOf base s.bots (held s)
  sound : ∀ botId bot, s.bots botId = some bot → Sound cfg bot

theorem Orderly.changed {base : Nat} {origin : Origin} (horigin : origin ≠ .signed cfg.systemAccount)
    (h : Orderly base s) (hchanged : Changed origin s s') : Orderly base s' := by
  cases hchanged with
  | registered creator bot hsigned hfree hbot hbots hheld =>
      have hcredit := hheld fun heq => horigin (hsigned.trans (congrArg _ heq))
      obtain ⟨hstaked, hsymbol, husers, hcount⟩ := hbot
      refine ⟨?_, fun botId bot' hbot' => ?_⟩
      · rw [hbots]
        exact h.covered.deposit hfree hcredit.ge
      · rw [hbots] at hbot'
        rcases StorageMap.insert_eq_some hbot' with ⟨-, rfl⟩ | ⟨-, hbot'⟩
        · refine ⟨hstaked, hsymbol, ?_, ?_, fun _ => ?_⟩
          · rw [husers]
            exact List.nodup_nil
          · rw [husers, hcount]
            rfl
          · rw [husers]
            exact Nat.zero_le _
        · exact h.sound botId bot' hbot'
  | joined user botId bot hsigned hbot hroom hbots hheld =>
      have hkept := hheld fun heq => horigin (hsigned.trans (congrArg _ heq))
      have hsound := (h.sound botId bot hbot).join hroom user
      refine ⟨?_, fun other bot' hbot' => ?_⟩
      · rw [hbots]
        refine h.covered.rewrite hbot ?_ hkept
        rw [stakeOf, hsound.staked, stakeOf, (h.sound botId bot hbot).staked]
      · rw [hbots] at hbot'
        rcases StorageMap.insert_eq_some hbot' with ⟨-, rfl⟩ | ⟨-, hbot'⟩
        · exact hsound
        · exact h.sound other bot' hbot'
  | kept hbots hheld =>
      refine ⟨?_, fun botId bot hbot => h.sound botId bot (hbots ▸ hbot)⟩
      rw [hbots]
      exact h.covered.outside (hheld horigin)

/-- A bot stays, and grows. -/
theorem Changed.grown {origin : Origin} (h : Changed origin s s') (hbot : s.bots botId = some bot) :
    ∃ bot', s'.bots botId = some bot' ∧ Grown bot bot' := by
  cases h with
  | registered creator other hsigned hfree hother hbots hheld =>
      refine ⟨bot, ?_, .refl bot⟩
      rw [hbots, StorageMap.insert_of_ne]
      · exact hbot
      · rintro rfl
        exact absurd (hfree.symm.trans hbot) (by simp)
  | joined user other bot' hsigned hbot' hroom hbots hheld =>
      by_cases hsame : botId = other
      · subst hsame
        obtain rfl := Option.some.inj (hbot'.symm.trans hbot)
        exact ⟨_, by rw [hbots, StorageMap.insert_self], grown_join bot' user⟩
      · exact ⟨bot, by rw [hbots, StorageMap.insert_of_ne _ _ hsame, hbot], .refl bot⟩
  | kept hbots hheld => exact ⟨bot, by rw [hbots, hbot], .refl bot⟩

/-- In every run from a start without bots, a bot has the users that it counts, each once and no more than it admits;
it is there for good, with the users it has; and the stakes of all bots are on the account of the pallet, for good. -/
theorem bots_orderly (hexact : cfg.custody.token.balances.Exact) (hsub : ∀ x, cfg.subAccount x ≠ cfg.systemAccount)
    (hempty : ∀ botId, s₀.bots botId = none) (h : ReflTransGen MemberStep s₀ s) :
    (∀ botId bot, s.bots botId = some bot → Sound cfg bot) ∧
      Escrow.Covered stakeOf (held s₀) s.bots (held s) ∧
      ∀ s', ReflTransGen MemberStep s s' → held s ≤ held s' ∧
        ∀ botId bot, s.bots botId = some bot → ∃ bot', s'.bots botId = some bot' ∧ Grown bot bot' := by
  have horderly : Orderly (held s₀) s := by
    induction h with
    | refl =>
        refine ⟨Escrow.covered_of_empty hempty (le_refl _), fun botId bot hbot => ?_⟩
        exact absurd ((hempty botId).symm.trans hbot) (by simp)
    | tail _ hlast ih =>
        cases hlast with
        | call call origin horigin h => exact ih.changed horigin (dispatch_changed hexact hsub h)
        | chain custody hheld => exact ⟨ih.covered.outside hheld, ih.sound⟩
  refine ⟨horderly.sound, horderly.covered, fun s' hlater => ?_⟩
  induction hlater with
  | refl => exact ⟨le_refl _, fun botId bot hbot => ⟨bot, hbot, .refl bot⟩⟩
  | tail _ hlast ih =>
      obtain ⟨hheldMid, hgrownMid⟩ := ih
      cases hlast with
      | call call origin horigin h =>
          have hchanged := dispatch_changed hexact hsub h
          refine ⟨hheldMid.trans ?_, fun botId bot hbot => ?_⟩
          · cases hchanged with
            | registered creator bot hsigned hfree hbot hbots hheld =>
                rw [hheld fun heq => horigin (hsigned.trans (congrArg _ heq))]
                exact Nat.le_add_right _ _
            | joined user botId bot hsigned hbot hroom hbots hheld =>
                exact hheld fun heq => horigin (hsigned.trans (congrArg _ heq))
            | kept hbots hheld => exact hheld horigin
          · obtain ⟨mid, hmid, hgrown⟩ := hgrownMid botId bot hbot
            obtain ⟨bot', hbot', hgrown'⟩ := hchanged.grown hmid
            exact ⟨bot', hbot', hgrown.trans hgrown'⟩
      | chain custody hheld => exact ⟨hheldMid.trans hheld, hgrownMid⟩

/-! ### A bot with one user -/

/-- Bob registers a bot, and alice deposits through it. -/
def membersRun (custody : Verifier.State plainConfig.custody) : Result (State plainConfig) := do
  let s ← dispatch (.register (0, 1) [] 10 1 1 []) (.signed Verifier.bob) ⟨fun _ => none, custody⟩
  dispatch (.deposit Verifier.bob Verifier.operator 1 1) (.signed Token.alice) s

theorem bots_orderly_alice : ∃ (s₀ s : State plainConfig) (bot : Bot), held s₀ + 1 = held s ∧
    s.bots Verifier.bob = some bot ∧ bot.users = [Token.alice] ∧ Sound plainConfig bot ∧
    Escrow.Covered stakeOf (held s₀) s.bots (held s) := by
  obtain ⟨⟨s₀, s⟩, hrun, hcheck⟩ := exists_of_succeedsWith
    (x := do
      let chain ← play registerRun.dropLast
      let s ← membersRun chain.custody
      return (⟨fun _ => none, chain.custody⟩, s))
    (p := fun r : State plainConfig × State plainConfig => held r.1 + 1 = held r.2 ∧
      (r.2.bots Verifier.bob).map Bot.users = some [Token.alice]) (by decide +kernel)
  obtain ⟨hheld, hlist⟩ := of_decide_eq_true hcheck
  obtain ⟨bot, hbot, husers⟩ := Option.map_eq_some_iff.mp hlist
  simp only [membersRun, bind_eq_ok, pure_eq_ok, Prod.mk.injEq] at hrun
  obtain ⟨chain, -, last, ⟨mid, hregister, hdeposit⟩, rfl, rfl⟩ := hrun
  have hsub : ∀ x, plainConfig.subAccount x ≠ plainConfig.systemAccount :=
    fun x heq => plainConfig_keyed (b := 110) (by decide) x heq.symm
  have hsteps : ReflTransGen MemberStep ⟨fun _ => none, chain.custody⟩ last :=
    (ReflTransGen.single (.call _ _ (by decide) hregister)).tail (.call _ _ (by decide) hdeposit)
  obtain ⟨hsound, hcovered, -⟩ := bots_orderly Balances.plain_exact hsub (fun _ => rfl) hsteps
  exact ⟨_, last, bot, hheld, hbot, husers, hsound Verifier.bob bot hbot, hcovered⟩

end Fusotao.Bots
