import Fusotao.ChainBridgeHandler.TransferOut
import Fusotao.Token.Supply
import Mathlib.Algebra.Group.Pi.Lemmas
import Mathlib.Algebra.Order.Pi

/-!
# What passes the bridge

A transfer in mints what it is worth, or unlocks it; a transfer out burns what it is worth, or locks it. Fees, donations
and what is hosted move tokens about, and neither issue them nor take them from the bridge.
-/

namespace Fusotao.ChainBridgeHandler

open Exec Word Relation
open ChainBridge (ResourceId)
open Token (freeBalance issued unified)

/-! ### The parts -/

section Assets

variable {tcfg : Token.Config} {token t : TokenId} {bridge who target : AccountId}
  {came went came' went' : TokenId → Nat} {s s' mid : Token.State tcfg} {amount paid : U128}

/-- What is issued of the token grows by what comes in and falls by what goes out. Of the native token, the bridge
keeps what goes out and pays no more than comes in. -/
structure Passed (token : TokenId) (bridge : AccountId) (came went : TokenId → Nat) (s s' : Token.State tcfg) :
    Prop where
  effects : ReflTransGen Token.Effect s s'
  issued : token ≠ tcfg.nativeTokenId → issued token s' + went token = issued token s + came token
  locked : (freeBalance tcfg.nativeTokenId bridge s).toNat + went tcfg.nativeTokenId ≤
    (freeBalance tcfg.nativeTokenId bridge s').toNat + came tcfg.nativeTokenId

theorem Passed.refl (token : TokenId) (bridge : AccountId) (s : Token.State tcfg) : Passed token bridge 0 0 s s where
  effects := .refl
  issued _ := rfl
  locked := le_refl _

theorem Passed.trans (h : Passed token bridge came went s mid) (h' : Passed token bridge came' went' mid s') :
    Passed token bridge (came + came') (went + went') s s' where
  effects := h.effects.trans h'.effects
  issued htoken := by
    have hfirst := h.issued htoken
    have hsecond := h'.issued htoken
    simp only [Pi.add_apply]
    omega
  locked := by
    have hfirst := h.locked
    have hsecond := h'.locked
    simp only [Pi.add_apply]
    omega

/-- What is issued stays, and the bridge has as much of the native token as before. -/
theorem Passed.of_tokens (heffect : Token.Effect s s') (htokens : s'.tokens = s.tokens)
    (hbridge : (freeBalance tcfg.nativeTokenId bridge s).toNat ≤ (freeBalance tcfg.nativeTokenId bridge s').toNat) :
    Passed token bridge 0 0 s s' where
  effects := .single heffect
  issued _ := Token.issued_of_tokens htokens token
  locked := hbridge

theorem transferToken_passed (hexact : tcfg.balances.Exact) (hwho : who ≠ bridge)
    (h : Token.transferToken who t amount target s = .ok (paid, s')) : Passed token bridge 0 0 s s' :=
  .of_tokens (Token.transferToken_effect h) (Token.transferToken_tokens h)
    (Token.transferToken_free_le hexact h tcfg.nativeTokenId (Ne.symm hwho))

/-- The native token is locked. -/
theorem lock_passed (hexact : tcfg.balances.Exact) (hwho : who ≠ bridge)
    (h : Token.transferToken who tcfg.nativeTokenId amount bridge s = .ok (paid, s')) :
    Passed token bridge 0 (Pi.single tcfg.nativeTokenId amount.toNat) s s' where
  effects := .single (Token.transferToken_effect h)
  issued htoken := by
    rw [Pi.single_eq_of_ne htoken]
    exact Token.issued_of_tokens (Token.transferToken_tokens h) token
  locked := by
    rw [Pi.single_eq_same]
    exact (Token.transferToken_eq_ok hexact hwho h).2.1.ge

/-- The native token is unlocked. -/
theorem unlock_passed (hexact : tcfg.balances.Exact) (htarget : target ≠ bridge)
    (h : Token.transferToken bridge tcfg.nativeTokenId amount target s = .ok (paid, s')) :
    Passed t bridge (Pi.single tcfg.nativeTokenId amount.toNat) 0 s s' where
  effects := .single (Token.transferToken_effect h)
  issued ht := by
    rw [Pi.single_eq_of_ne ht]
    exact Token.issued_of_tokens (Token.transferToken_tokens h) t
  locked := by
    rw [Pi.single_eq_same]
    exact (Token.transferToken_eq_ok hexact (Ne.symm htarget) h).1.le

theorem reserve_passed (hlaw : tcfg.balances.Lawful) (hwho : (tcfg.nativeTokenId, bridge) ≠ (t, who))
    (h : Token.reserve t who amount s = .ok s') : Passed token bridge 0 0 s s' := by
  have hsame := (Token.reserve_eq_ok hlaw h).2 tcfg.nativeTokenId bridge hwho
  exact .of_tokens (Token.reserve_effect h) (Token.reserve_tokens h)
    (congrArg (fun b : U128 × U128 => b.1.toNat) hsame).ge

/-- What the bridge receives itself may be reserved at once. -/
theorem reserve_bridge_passed (hlaw : tcfg.balances.Lawful)
    (h : Token.reserve tcfg.nativeTokenId bridge amount s = .ok s') :
    Passed token bridge (Pi.single tcfg.nativeTokenId amount.toNat) 0 s s' where
  effects := .single (Token.reserve_effect h)
  issued htoken := by
    rw [Pi.single_eq_of_ne htoken]
    exact Token.issued_of_tokens (Token.reserve_tokens h) token
  locked := by
    rw [Pi.single_eq_same]
    exact (Token.reserve_free hlaw h).le

theorem doMint_passed (hempty : Token.Fnd10Empty s) (ht : t ≠ tcfg.nativeTokenId)
    (h : Token.doMint t who amount s = .ok s') : Passed token bridge (Pi.single t (unified t amount s)) 0 s s' where
  effects := .single (Token.doMint_effect hempty h)
  issued _ := by
    rw [Token.doMint_issued hempty h token, Pi.single_apply]
    rfl
  locked := by
    have hsame := Token.doMint_onlyAt h tcfg.nativeTokenId bridge fun heq => ht (Prod.mk.inj heq).1.symm
    rw [Pi.single_eq_of_ne (Ne.symm ht)]
    exact (congrArg (fun b : U128 × U128 => b.1.toNat) hsame).ge

theorem doBurn_passed (hempty : Token.Fnd10Empty s) (ht : t ≠ tcfg.nativeTokenId)
    (h : Token.doBurn t who amount s = .ok (paid, s')) :
    Passed token bridge 0 (Pi.single t (unified t amount s)) s s' where
  effects := .single (Token.doBurn_effect hempty h)
  issued _ := by
    rw [Token.doBurn_issued hempty h token, Pi.single_apply]
    rfl
  locked := by
    have hsame := Token.doBurn_onlyAt h tcfg.nativeTokenId bridge fun heq => ht (Prod.mk.inj heq).1.symm
    rw [Pi.single_eq_of_ne (Ne.symm ht)]
    exact (congrArg (fun b : U128 × U128 => b.1.toNat) hsame).ge

/-- The effects keep what is issued and held, and the ids. -/
theorem effects_keep {n : Nat} (h : ReflTransGen Token.Effect s s') (hissued : Token.Issued s)
    (hnumbered : Token.Numbered n s) : Token.Issued s' ∧ Token.Numbered n s' := by
  induction h with
  | refl => exact ⟨hissued, hnumbered⟩
  | tail _ heffect ih => exact ⟨heffect.conserve ih.1, ih.2.effect heffect⟩

end Assets

/-! ### What the calls do -/

section In

variable {cfg : Config} {s s' : State cfg} {token : TokenId} {target : AccountId} {amount : U128} {rId : ResourceId}

/-- What a transferred amount is worth in the token that the resource stands for, in standard units. -/
def worth (rId : ResourceId) (amount : U128) (s : State cfg) (token : TokenId) : Nat :=
  if resourceToken rId s = some token then (standardValue amount token s.verifier.asset).toNat else 0

theorem worth_eq_single {t : TokenId} (h : resourceToken rId s = some t) :
    worth rId amount s = Pi.single t (standardValue amount t s.verifier.asset).toNat := by
  funext token
  rw [worth, h, Pi.single_apply]
  by_cases ht : token = t
  · rw [if_pos (by rw [ht]), if_pos ht, ht]
  · rw [if_neg (fun heq => ht (Option.some.inj heq).symm), if_neg ht]

theorem worth_native (h : isNativeResource cfg rId = true) :
    worth rId amount s = Pi.single cfg.verifier.token.nativeTokenId amount.toNat := by
  rw [worth_eq_single (if_pos h), standardValue_native]

theorem standardValue_eq_unified {asset asset' : Token.State cfg.verifier.token} {t : TokenId} {who : AccountId}
    (ht : t ≠ cfg.verifier.token.nativeTokenId) (hempty : Token.Fnd10Empty asset)
    (h : Token.doMint t who amount asset = .ok asset') :
    (standardValue amount t asset).toNat = unified t amount asset := by
  by_cases hamount : amount = 0
  · subst hamount
    rw [standardValue_zero, Token.unified_zero]
    rfl
  cases hinfo : asset.tokens t with
  | none =>
      rw [Token.doMint, if_neg hamount, hinfo] at h
      exact absurd h (by simp)
  | some info =>
      cases hdecimals : info.decimals? with
      | none =>
          rw [Token.doMint, if_neg hamount, hinfo] at h
          simp [hdecimals, hempty t info hinfo hdecimals, bind_eq_ok] at h
      | some decimals =>
          rw [Token.unified_of_info hinfo hdecimals, standardValue, if_neg ht, hinfo, Option.bind_some, hdecimals]

/-- Hosting reserves the value, if it does anything. -/
theorem host_reserves {dominator : AccountId} {t : TokenId} (h : host target dominator t amount s = .ok s') :
    s' = s ∨ Token.reserve t target (standardValue amount t s.verifier.asset) s.verifier.asset =
      .ok s'.verifier.asset := by
  simp only [host, bind_eq_ok, mapErr_eq_ok, pure_eq_ok] at h
  obtain ⟨b, hb, verifier, hverifier, rfl⟩ := h
  obtain rfl := toAssetBalance_eq_ok hb
  rcases ignoreError_eq_ok hverifier with hverifier | rfl
  · obtain ⟨-, -, mid, hmid, rfl⟩ := Verifier.authorizeTo_eq_ok hverifier
    exact .inr (Verifier.reserve_eq_ok hmid).2.2
  · exact .inl rfl

theorem donate_passed (hexact : cfg.verifier.token.balances.Exact) (hdonor : cfg.donorAccount ≠ cfg.bridgeAccount)
    (h : donate target s = .ok s') :
    Passed token cfg.bridgeAccount 0 0 s.verifier.asset s'.verifier.asset := by
  unfold donate at h
  split at h
  · rcases ignoreError_eq_ok h with h | rfl
    · simp only [bind_eq_ok, pure_eq_ok, Prod.exists] at h
      obtain ⟨paid, asset, htransfer, rfl⟩ := h
      exact transferToken_passed hexact hdonor htransfer
    · exact .refl ..
  · exact pure_eq_ok.mp h ▸ .refl ..

/-- The native token is unlocked, and hosted or not. -/
theorem unlockAndHost_passed (hexact : cfg.verifier.token.balances.Exact) {mid : State cfg}
    (hunlock : doUnlock cfg.bridgeAccount target amount s = .ok mid)
    (hhost : s' = mid ∨ ∃ dominator, host target dominator cfg.verifier.token.nativeTokenId amount mid = .ok s') :
    Passed token cfg.bridgeAccount (Pi.single cfg.verifier.token.nativeTokenId amount.toNat) 0 s.verifier.asset
      s'.verifier.asset := by
  simp only [doUnlock, bind_eq_ok, pure_eq_ok, Prod.exists] at hunlock
  obtain ⟨paid, asset, htransfer, rfl⟩ := hunlock
  have hreserved : s'.verifier.asset = asset ∨
      Token.reserve cfg.verifier.token.nativeTokenId target amount asset = .ok s'.verifier.asset := by
    rcases hhost with rfl | ⟨dominator, hhost⟩
    · exact .inl rfl
    · rcases host_reserves hhost with rfl | hreserve
      · exact .inl rfl
      · rw [standardValue_native] at hreserve
        exact .inr hreserve
  by_cases hself : target = cfg.bridgeAccount
  · -- What the bridge unlocks for itself stays where it is.
    subst hself
    obtain rfl := Token.transferToken_self htransfer
    rcases hreserved with hsame | hreserve
    · rw [hsame]
      exact ⟨.refl, fun htoken => by rw [Pi.single_eq_of_ne htoken]; rfl, Nat.le_add_right _ _⟩
    · exact reserve_bridge_passed hexact.toLawful hreserve
  · have hunlocked := unlock_passed (t := token) hexact hself htransfer
    rcases hreserved with hsame | hreserve
    · rw [hsame]
      exact hunlocked
    · exact hunlocked.trans (reserve_passed hexact.toLawful (fun heq => hself (Prod.mk.inj heq).2.symm) hreserve)

/-- There is no token under the id of the native one, so nothing of it is minted, nor hosted then. -/
theorem mintNone_passed {mid : State cfg} {asset : Token.State cfg.verifier.token}
    (hnative : s.verifier.asset.tokens cfg.verifier.token.nativeTokenId = none)
    (hmint : Token.doMint cfg.verifier.token.nativeTokenId target amount s.verifier.asset = .ok asset)
    (hmid : mid.verifier.asset = asset)
    (hhost : s' = mid ∨ ∃ dominator, host target dominator cfg.verifier.token.nativeTokenId amount mid = .ok s') :
    Passed token cfg.bridgeAccount (Pi.single cfg.verifier.token.nativeTokenId amount.toNat) 0 s.verifier.asset
      s'.verifier.asset := by
  have hamount : amount = 0 := by
    by_contra hne
    rw [Token.doMint, if_neg hne, hnative] at hmint
    exact absurd hmint (by simp)
  subst hamount
  obtain rfl : s.verifier.asset = asset := by simpa [Token.doMint] using hmint
  have hsame : s'.verifier.asset = s.verifier.asset := by
    rcases hhost with rfl | ⟨dominator, hhost⟩
    · exact hmid
    · rcases host_reserves hhost with rfl | hreserve
      · exact hmid
      · rw [standardValue_native, hmid] at hreserve
        exact (pure_eq_ok.mp hreserve).symm
  rw [hsame]
  exact ⟨.refl, fun htoken => by rw [Pi.single_eq_of_ne htoken]; rfl, Nat.le_add_right _ _⟩

/-- A token of another chain is minted, and hosted or not. -/
theorem mintAndHost_passed (hlaw : cfg.verifier.token.balances.Lawful) {t : TokenId} {mid : State cfg}
    {asset : Token.State cfg.verifier.token} (hempty : Token.Fnd10Empty s.verifier.asset)
    (ht : t ≠ cfg.verifier.token.nativeTokenId) (hmint : Token.doMint t target amount s.verifier.asset = .ok asset)
    (hmid : mid.verifier.asset = asset)
    (hhost : s' = mid ∨ ∃ dominator, host target dominator t amount mid = .ok s') :
    Passed token cfg.bridgeAccount (Pi.single t (standardValue amount t s.verifier.asset).toNat) 0 s.verifier.asset
      s'.verifier.asset := by
  have hminted : Passed token cfg.bridgeAccount (Pi.single t (unified t amount s.verifier.asset)) 0 s.verifier.asset
      asset := doMint_passed hempty ht hmint
  rw [← standardValue_eq_unified ht hempty hmint, ← hmid] at hminted
  rcases hhost with rfl | ⟨dominator, hhost⟩
  · exact hminted
  · rcases host_reserves hhost with rfl | hreserve
    · exact hminted
    · exact hminted.trans (reserve_passed hlaw (fun heq => ht (Prod.mk.inj heq).1.symm) hreserve)

theorem bringIn_passed (hexact : cfg.verifier.token.balances.Exact) (hempty : Token.Fnd10Empty s.verifier.asset)
    (hnative : s.verifier.asset.tokens cfg.verifier.token.nativeTokenId = none)
    (h : bringIn cfg.bridgeAccount target amount rId s = .ok s') :
    Passed token cfg.bridgeAccount (worth rId amount s) 0 s.verifier.asset s'.verifier.asset := by
  unfold bringIn at h
  split at h
  · rename_i hresource
    simp only [bind_eq_ok, okOr_eq_ok, Prod.exists] at h
    obtain ⟨mid, hunlock, chainId, dex, contract, -, h⟩ := h
    rw [worth_native hresource]
    refine unlockAndHost_passed hexact hunlock ?_
    split at h
    · exact .inr ⟨_, h⟩
    · exact .inl (pure_eq_ok.mp h).symm
  · rename_i hresource
    simp only [doMintAssets, bind_eq_ok, okOr_eq_ok, pure_eq_ok, Prod.exists] at h
    obtain ⟨mid, ⟨chainId, dex, contract, hdecode, t, hcontract, asset, hmint, hmid⟩, chainId', dex', contract',
      hdecode', h⟩ := h
    obtain ⟨rfl, rfl, rfl⟩ : chainId = chainId' ∧ dex = dex' ∧ contract = contract' := by
      simpa using hdecode.symm.trans hdecode'
    have htoken : resourceToken rId s = some t := by
      rw [resourceToken, if_neg hresource, hdecode]
      exact hcontract
    have hcontracts : mid.verifier.asset.tokenByContract (chainId, contract) = some t := by
      rw [← hmid, ← hcontract]
      exact congrFun (Token.doMint_contracts hmint) (chainId, contract)
    have hhost : s' = mid ∨ ∃ dominator, host target dominator t amount mid = .ok s' := by
      split at h
      · obtain ⟨t', ht', h⟩ := bind_eq_ok.mp h
        rw [okOr_eq_ok, hcontracts] at ht'
        exact .inr ⟨_, Option.some.inj ht' ▸ h⟩
      · exact .inl (pure_eq_ok.mp h).symm
    have hasset : mid.verifier.asset = asset := by rw [← hmid]
    rw [worth_eq_single htoken]
    by_cases ht : t = cfg.verifier.token.nativeTokenId
    · subst ht
      rw [standardValue_native]
      exact mintNone_passed hnative hmint hasset hhost
    · exact mintAndHost_passed hexact.toLawful hempty ht hmint hasset hhost

theorem transferIn_passed (hexact : cfg.verifier.token.balances.Exact) (hempty : Token.Fnd10Empty s.verifier.asset)
    (hnative : s.verifier.asset.tokens cfg.verifier.token.nativeTokenId = none)
    (hdonor : cfg.donorAccount ≠ cfg.bridgeAccount) {origin : Origin}
    (h : transferIn origin target amount rId s = .ok s') :
    Passed token cfg.bridgeAccount (worth rId amount s) 0 s.verifier.asset s'.verifier.asset := by
  simp only [transferIn, bind_eq_ok] at h
  obtain ⟨source, hsource, mid, hbring, hdonate⟩ := h
  obtain rfl := ensureBridge_eq_ok hsource
  exact (bringIn_passed hexact hempty hnative hbring).trans (donate_passed hexact hdonor hdonate)

end In

section Out

variable {cfg : OutConfig} {s s' : OutState cfg} {token : TokenId} {who : AccountId} {amount : U128}
  {rId : ResourceId} {recipient : List UInt8} {destId : ChainId}

/-- What the last transfer that was sent is worth. -/
def lastWorth (s s' : OutState cfg) : TokenId → Nat :=
  match s'.transfers.head? with
  | some transfer => worth transfer.resourceId (transfer.amount.setWidth 128) s.toState
  | none => 0

theorem Sent.lastWorth (h : Sent destId rId recipient amount s s') :
    ChainBridgeHandler.lastWorth s s' = worth rId amount s.toState := by
  obtain ⟨nonce, htransfers⟩ := h
  have hamount : (amount.setWidth 256).setWidth 128 = amount := by
    apply BitVec.eq_of_toNat_eq
    have hlt := amount.isLt
    simp only [BitVec.toNat_setWidth]
    omega
  rw [ChainBridgeHandler.lastWorth, htransfers]
  simp only [List.head?_cons, hamount]

theorem doLock_passed (hexact : cfg.verifier.token.balances.Exact) (hwho : who ≠ cfg.bridgeAccount)
    (hnative : isNativeResource cfg.toConfig rId = true) (h : doLock who amount rId recipient destId s = .ok s') :
    Passed token cfg.bridgeAccount 0 (lastWorth s s') s.asset s'.asset := by
  obtain ⟨-, hsent, paid, mid, paid', hfee, hlock⟩ := doLock_eq_ok h
  rw [hsent.lastWorth, worth_native hnative]
  have hpaid : Passed token cfg.bridgeAccount 0 0 s.asset mid := transferToken_passed hexact hwho hfee
  have hpassed := hpaid.trans (lock_passed hexact hwho hlock)
  rwa [zero_add, zero_add] at hpassed

theorem doBurnAssets_passed (hexact : cfg.verifier.token.balances.Exact) (hempty : Token.Fnd10Empty s.asset)
    (hnone : s.asset.tokens cfg.verifier.token.nativeTokenId = none) (hwho : who ≠ cfg.bridgeAccount)
    (hnative : isNativeResource cfg.toConfig rId = false)
    (h : doBurnAssets who amount rId recipient destId s = .ok s') :
    Passed token cfg.bridgeAccount 0 (lastWorth s s') s.asset s'.asset := by
  have hresource := h
  simp only [doBurnAssets, bind_eq_ok, okOr_eq_ok, Prod.exists] at hresource
  obtain ⟨chainId, dex, contract, hdecode, t, hcontract, decimals, hdecimals, -⟩ := hresource
  obtain ⟨-, hsent, paid, mid, burnt, hfee, hburn⟩ := doBurnAssets_eq_ok hdecode hcontract hdecimals h
  have htokens : mid.tokens = s.asset.tokens := Token.transferToken_tokens hfee
  have ht : t ≠ cfg.verifier.token.nativeTokenId := by
    rintro rfl
    rw [Token.doBurn, htokens, hnone] at hburn
    simp [bind_eq_ok] at hburn
  rw [Token.tokenExternalDecimals, if_neg ht] at hdecimals
  simp only [bind_eq_ok, okOr_eq_ok] at hdecimals
  obtain ⟨info, hinfo, hdecimals⟩ := hdecimals
  have htoken : resourceToken rId s.toState = some t := by
    rw [resourceToken, if_neg (by rw [hnative]; decide), hdecode]
    exact hcontract
  have hunified : ∀ external, unified t external mid = (standardValue external t s.asset).toNat := by
    intro external
    rw [Token.unified_of_info (by rw [htokens, hinfo]) hdecimals, standardValue, if_neg ht, hinfo, Option.bind_some,
      hdecimals]
  have hpaid : Passed token cfg.bridgeAccount 0 0 s.asset mid := transferToken_passed hexact hwho hfee
  have hpassed := hpaid.trans (doBurn_passed (fun id info hid => hempty id info (htokens ▸ hid)) ht hburn)
  rw [zero_add, zero_add, hunified] at hpassed
  rwa [hsent.lastWorth, worth_eq_single htoken]

theorem transferOut_passed (hexact : cfg.verifier.token.balances.Exact) (hempty : Token.Fnd10Empty s.asset)
    (hnone : s.asset.tokens cfg.verifier.token.nativeTokenId = none) {origin : Origin}
    (horigin : origin ≠ .signed cfg.bridgeAccount) (h : transferOut origin amount rId recipient destId s = .ok s') :
    Passed token cfg.bridgeAccount 0 (lastWorth s s') s.asset s'.asset := by
  simp only [transferOut, bind_eq_ok, ensure_eq_ok, exists_const, ensureSigned_eq_ok] at h
  obtain ⟨who, rfl, -, h⟩ := h
  have hwho : who ≠ cfg.bridgeAccount := fun heq => horigin (congrArg Origin.signed heq)
  cases hnative : isNativeResource cfg.toConfig rId with
  | true =>
      rw [hnative, if_pos rfl] at h
      exact doLock_passed hexact hwho hnative h
  | false =>
      rw [hnative, if_neg (by decide)] at h
      exact doBurnAssets_passed hexact hempty hnone hwho hnative h

end Out

end Fusotao.ChainBridgeHandler
