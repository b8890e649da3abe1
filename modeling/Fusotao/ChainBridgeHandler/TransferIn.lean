import Fusotao.ChainBridgeHandler.Pallet
import Fusotao.Token.Issuance
import Fusotao.Verifier.Operations
import Fusotao.Verifier.Plain

/-!
# What a transfer brings in

Minting an amount and authorising it compute its value on two ways. They agree, so the recipient gets the value,
and either all of it is authorised to the dominator or all of it is free.
-/

namespace Fusotao.ChainBridgeHandler

open Exec Word
open ChainBridge (ResourceId)
open Token (balancesOf)
open Verifier (amounts)

variable {cfg : Config} {s s' : State cfg} {target dominator : AccountId} {token : TokenId}
  {amount value donated : U128} {rId : ResourceId}

/-! ### The value of an amount -/

/-- The token a resource stands for. -/
def resourceToken (rId : ResourceId) (s : State cfg) : Option TokenId :=
  if isNativeResource cfg rId then some cfg.verifier.token.nativeTokenId
  else (decodeResourceId rId).bind fun resource => s.verifier.asset.tokenByContract (resource.1, resource.2.2)

/-- The dominator a resource names. -/
def resourceDominator (rId : ResourceId) (s : State cfg) : Option AccountId :=
  (decodeResourceId rId).bind fun resource => s.associatedDominator resource.2.1

/-- An amount of the other chain in units of `10^-18`; the native token has those already. -/
def standardValue (amount : U128) (token : TokenId) (s : Token.State cfg.verifier.token) : U128 :=
  if token = cfg.verifier.token.nativeTokenId then amount
  else match (s.tokens token).bind XToken.decimals? with
    | some decimals => Token.transformDecimalsToStandard amount decimals
    | none => amount

section Minting

variable {asset asset' : Token.State cfg.verifier.token} {who : AccountId}

theorem toAssetBalance_eq_ok (h : Token.toAssetBalance amount token asset = .ok value) :
    value = standardValue amount token asset := by
  unfold Token.toAssetBalance at h
  unfold standardValue
  split at h
  · rename_i htoken
    rw [if_pos htoken]
    exact (pure_eq_ok.mp h).symm
  · rename_i htoken
    simp only [bind_eq_ok, okOr_eq_ok] at h
    obtain ⟨info, hinfo, h⟩ := h
    rw [if_neg htoken, hinfo, Option.bind_some]
    cases hdecimals : info.decimals? with
    | some decimals =>
        rw [hdecimals] at h
        exact (pure_eq_ok.mp h).symm
    | none =>
        rw [hdecimals] at h
        exact (pure_eq_ok.mp h).symm

/-- What is minted is the value that is hosted. -/
theorem doMint_standardValue (hempty : Token.Fnd10Empty asset)
    (hnative : asset.tokens cfg.verifier.token.nativeTokenId = none) (hamount : amount ≠ 0)
    (h : Token.doMint token who amount asset = .ok asset') :
    token ≠ cfg.verifier.token.nativeTokenId ∧
      Token.toAssetBalance amount token asset = .ok (standardValue amount token asset) ∧
      (balancesOf token who asset').1.toNat =
        (balancesOf token who asset).1.toNat + (standardValue amount token asset).toNat := by
  cases hinfo : asset.tokens token with
  | none =>
      rw [Token.doMint, if_neg hamount, hinfo] at h
      exact absurd h (by simp)
  | some info =>
      have htoken : token ≠ cfg.verifier.token.nativeTokenId := by
        rintro rfl
        exact absurd (hinfo.symm.trans hnative) (by simp)
      cases hdecimals : info.decimals? with
      | none =>
          rw [Token.doMint, if_neg hamount, hinfo] at h
          simp [hdecimals, hempty token info hinfo hdecimals, bind_eq_ok] at h
      | some decimals =>
          have hvalue : standardValue amount token asset =
              Token.transformDecimalsToStandard amount decimals := by
            rw [standardValue, if_neg htoken, hinfo, Option.bind_some, hdecimals]
          refine ⟨htoken, ?_, ?_⟩
          · rw [Token.toAssetBalance, if_neg htoken, hinfo, okOr_some, ok_bind, hdecimals, hvalue]
            rfl
          · rw [hvalue]
            exact (Token.doMint_moves htoken hamount hinfo hdecimals h).2.1

end Minting

/-! ### The three parts of a transfer -/

/-- The value of an amount is free with the recipient. -/
structure Arrived (target : AccountId) (token : TokenId) (amount : U128) (s s' : State cfg) : Prop where
  frame : s' = { s with verifier := { s.verifier with asset := s'.verifier.asset } }
  contracts : s'.verifier.asset.tokenByContract = s.verifier.asset.tokenByContract
  value : standardValue amount token s'.verifier.asset = standardValue amount token s.verifier.asset
  free : (balancesOf token target s'.verifier.asset).1.toNat =
    (balancesOf token target s.verifier.asset).1.toNat + (standardValue amount token s.verifier.asset).toNat
  reserved : (balancesOf token target s'.verifier.asset).2 = (balancesOf token target s.verifier.asset).2
  others : ∀ t a, (t, a) ≠ (token, target) →
    (t = cfg.verifier.token.nativeTokenId ∧ a = cfg.bridgeAccount) ∨
      balancesOf t a s'.verifier.asset = balancesOf t a s.verifier.asset

theorem standardValue_native (s : Token.State cfg.verifier.token) :
    standardValue amount cfg.verifier.token.nativeTokenId s = amount := if_pos rfl

theorem standardValue_zero (token : TokenId) (s : Token.State cfg.verifier.token) :
    standardValue 0 token s = 0 := by
  unfold standardValue
  split
  · rfl
  · split
    · rename_i decimals _
      apply BitVec.eq_of_toNat_eq
      rcases Nat.lt_or_ge standardDecimals decimals with h | h
      · rw [Token.toNat_transformDecimalsToStandard_of_gt 0 h]
        simp
      · rw [Token.toNat_transformDecimalsToStandard_of_le 0 h]
        simp
    · rfl

theorem doUnlock_arrived (hexact : cfg.verifier.token.balances.Exact) (hbridge : target ≠ cfg.bridgeAccount)
    (h : doUnlock cfg.bridgeAccount target amount s = .ok s') :
    Arrived target cfg.verifier.token.nativeTokenId amount s s' := by
  simp only [doUnlock, bind_eq_ok, pure_eq_ok, Prod.exists] at h
  obtain ⟨paid, asset, htransfer, rfl⟩ := h
  obtain ⟨-, hfree, hothers⟩ := Token.transferToken_eq_ok hexact hbridge.symm htransfer
  have hreserved := Token.transferToken_sameReserved hexact.toLawful htransfer
  refine ⟨rfl, ?_, ?_, ?_, hreserved _ _, fun t a hta => ?_⟩
  · exact Token.transferToken_contracts htransfer
  · rw [standardValue_native, standardValue_native]
  · rw [standardValue_native]
    exact hfree
  · by_cases hbridge : (t, a) = (cfg.verifier.token.nativeTokenId, cfg.bridgeAccount)
    · exact .inl (Prod.mk.inj hbridge)
    · exact .inr (hothers t a hbridge hta)

theorem doMintAssets_arrived (hempty : Token.Fnd10Empty s.verifier.asset)
    (hnative : s.verifier.asset.tokens cfg.verifier.token.nativeTokenId = none)
    (hnot : isNativeResource cfg rId = false) (h : doMintAssets target amount rId s = .ok s') :
    ∃ token, resourceToken rId s = some token ∧ Arrived target token amount s s' := by
  simp only [doMintAssets, bind_eq_ok, okOr_eq_ok, pure_eq_ok, Prod.exists] at h
  obtain ⟨chainId, dex, contract, hdecode, token, htoken, asset, hmint, rfl⟩ := h
  refine ⟨token, ?_, ?_⟩
  · rw [resourceToken, hnot, hdecode]
    exact htoken
  have honly := Token.doMint_onlyAt hmint
  by_cases hamount : amount = 0
  · subst hamount
    obtain rfl : s.verifier.asset = asset := by simpa [Token.doMint] using hmint
    refine ⟨rfl, rfl, rfl, ?_, rfl, fun _ _ _ => .inr rfl⟩
    rw [standardValue_zero]
    rfl
  · obtain ⟨hne, -, hfree⟩ := doMint_standardValue hempty hnative hamount hmint
    refine ⟨rfl, Token.doMint_contracts hmint, ?_, hfree, ?_, fun t a hta => .inr (honly t a hta)⟩
    · obtain ⟨info, hinfo⟩ : ∃ info, s.verifier.asset.tokens token = some info := by
        cases hinfo : s.verifier.asset.tokens token with
        | some info => exact ⟨info, rfl⟩
        | none =>
            rw [Token.doMint, if_neg hamount, hinfo] at hmint
            exact absurd hmint (by simp)
      cases hdecimals : info.decimals? with
      | none =>
          rw [Token.doMint, if_neg hamount, hinfo] at hmint
          simp [hdecimals, hempty token info hinfo hdecimals, bind_eq_ok] at hmint
      | some decimals =>
          obtain ⟨total, -, -, free, -, rfl⟩ := (Token.doMint_eq_ok hamount hinfo hdecimals).mp hmint
          simp [standardValue, hinfo]
    · exact Token.doMint_sameReserved hmint token target

/-- The value is authorised to a dominator. -/
structure Hosted (target dominator : AccountId) (token : TokenId) (value : U128) (s s' : State cfg) :
    Prop where
  frame : s' = { s with verifier := { s.verifier with
    asset := s'.verifier.asset, reserves := s'.verifier.reserves, receipts := s'.verifier.receipts } }
  stash : amounts s'.verifier.reserves = Function.update (amounts s.verifier.reserves)
    ((.authorizingStash, target, token), dominator)
    (amounts s.verifier.reserves ((.authorizingStash, target, token), dominator) + value.toNat)
  receipt : s'.verifier.receipts =
    s.verifier.receipts.insert (dominator, target) (.authorize token value s.verifier.now)
  free : (balancesOf token target s.verifier.asset).1.toNat =
    (balancesOf token target s'.verifier.asset).1.toNat + value.toNat
  reserved : (balancesOf token target s'.verifier.asset).2.toNat =
    (balancesOf token target s.verifier.asset).2.toNat + value.toNat
  others : Token.OnlyAt token target s.verifier.asset s'.verifier.asset

theorem host_eq_ok (hlaw : cfg.verifier.token.balances.Lawful)
    (h : host target dominator token amount s = .ok s') :
    s' = s ∨ Hosted target dominator token (standardValue amount token s.verifier.asset) s s' := by
  simp only [host, bind_eq_ok, mapErr_eq_ok, pure_eq_ok] at h
  obtain ⟨b, hb, verifier, hverifier, rfl⟩ := h
  obtain rfl := toAssetBalance_eq_ok hb
  rcases ignoreError_eq_ok hverifier with hverifier | rfl
  · obtain ⟨-, -, mid, hmid, rfl⟩ := Verifier.authorizeTo_eq_ok hverifier
    obtain ⟨hframe, hreserves, hasset⟩ := Verifier.reserve_eq_ok hmid
    obtain ⟨hreserved, honly⟩ := Token.reserve_eq_ok hlaw hasset
    have hfree := Token.reserve_free hlaw hasset
    exact .inr ⟨by rw [hframe], hreserves, rfl, hfree, hreserved, honly⟩
  · exact .inl rfl

/-- A new account may be given some of the native token. -/
structure Donated (target : AccountId) (donated : U128) (s s' : State cfg) : Prop where
  frame : s' = { s with verifier := { s.verifier with asset := s'.verifier.asset } }
  paid : donated = 0 ∨ donated = cfg.donationForAgent ∧ s.accountNonce target = 0
  free : (balancesOf cfg.verifier.token.nativeTokenId target s'.verifier.asset).1.toNat =
    (balancesOf cfg.verifier.token.nativeTokenId target s.verifier.asset).1.toNat + donated.toNat
  reserved : (balancesOf cfg.verifier.token.nativeTokenId target s'.verifier.asset).2 =
    (balancesOf cfg.verifier.token.nativeTokenId target s.verifier.asset).2
  others : ∀ t a, (t, a) ≠ (cfg.verifier.token.nativeTokenId, target) →
    (t = cfg.verifier.token.nativeTokenId ∧ a = cfg.donorAccount) ∨
      balancesOf t a s'.verifier.asset = balancesOf t a s.verifier.asset

theorem Donated.refl (target : AccountId) (s : State cfg) : Donated target 0 s s where
  frame := rfl
  paid := .inl rfl
  free := rfl
  reserved := rfl
  others _ _ _ := .inr rfl

theorem donate_eq_ok (hexact : cfg.verifier.token.balances.Exact) (hdonor : target ≠ cfg.donorAccount)
    (h : donate target s = .ok s') : ∃ donated, Donated target donated s s' := by
  unfold donate at h
  split at h
  · rename_i hnonce
    rcases ignoreError_eq_ok h with h | rfl
    · simp only [bind_eq_ok, pure_eq_ok, Prod.exists] at h
      obtain ⟨paid, asset, htransfer, rfl⟩ := h
      obtain ⟨-, hfree, hothers⟩ := Token.transferToken_eq_ok hexact hdonor.symm htransfer
      have hreserved := Token.transferToken_sameReserved hexact.toLawful htransfer
      refine ⟨cfg.donationForAgent, rfl, .inr ⟨rfl, hnonce⟩, hfree, hreserved _ _, fun t a hta => ?_⟩
      by_cases hdonor : (t, a) = (cfg.verifier.token.nativeTokenId, cfg.donorAccount)
      · exact .inl (Prod.mk.inj hdonor)
      · exact .inr (hothers t a hdonor hta)
    · exact ⟨0, .refl target _⟩
  · exact pure_eq_ok.mp h ▸ ⟨0, .refl target s⟩

/-- What is unlocked or minted arrives, and is hosted or not. -/
theorem bringIn_eq_ok (hexact : cfg.verifier.token.balances.Exact)
    (hempty : Token.Fnd10Empty s.verifier.asset)
    (hnative : s.verifier.asset.tokens cfg.verifier.token.nativeTokenId = none)
    (hbridge : target ≠ cfg.bridgeAccount) (h : bringIn cfg.bridgeAccount target amount rId s = .ok s') :
    ∃ token arrived, resourceToken rId s = some token ∧ Arrived target token amount s arrived ∧
      (s' = arrived ∨ ∃ dominator, resourceDominator rId s = some dominator ∧
        Hosted target dominator token (standardValue amount token s.verifier.asset) arrived s') := by
  have hhost : ∀ {token arrived dominator}, Arrived target token amount s arrived →
      resourceDominator rId s = some dominator → host target dominator token amount arrived = .ok s' →
      (s' = arrived ∨ ∃ dominator, resourceDominator rId s = some dominator ∧
        Hosted target dominator token (standardValue amount token s.verifier.asset) arrived s') := by
    intro token arrived dominator harrived hdominator hhosting
    rw [← harrived.value]
    exact (host_eq_ok hexact.toLawful hhosting).imp_right fun h => ⟨dominator, hdominator, h⟩
  have hassociated : ∀ {token arrived chainId dex contract}, Arrived target token amount s arrived →
      decodeResourceId rId = some (chainId, dex, contract) →
      resourceDominator rId s = arrived.associatedDominator dex := by
    intro token arrived chainId dex contract harrived hdecode
    rw [resourceDominator, hdecode, harrived.frame]
    rfl
  unfold bringIn at h
  split at h
  · rename_i hresource
    simp only [bind_eq_ok, okOr_eq_ok, Prod.exists] at h
    obtain ⟨arrived, hunlock, chainId, dex, contract, hdecode, h⟩ := h
    have harrived := doUnlock_arrived hexact hbridge hunlock
    refine ⟨_, arrived, if_pos hresource, harrived, ?_⟩
    cases hdominator : arrived.associatedDominator dex with
    | none =>
        rw [hdominator] at h
        exact .inl (pure_eq_ok.mp h).symm
    | some dominator =>
        rw [hdominator] at h
        exact hhost harrived ((hassociated harrived hdecode).trans hdominator) h
  · rename_i hresource
    simp only [bind_eq_ok, okOr_eq_ok, Prod.exists] at h
    obtain ⟨arrived, hmint, chainId, dex, contract, hdecode, h⟩ := h
    have hnot := eq_false_of_ne_true hresource
    obtain ⟨token, htoken, harrived⟩ := doMintAssets_arrived hempty hnative hnot hmint
    refine ⟨token, arrived, htoken, harrived, ?_⟩
    cases hdominator : arrived.associatedDominator dex with
    | none =>
        rw [hdominator] at h
        exact .inl (pure_eq_ok.mp h).symm
    | some dominator =>
        rw [hdominator] at h
        obtain ⟨token', htoken', h⟩ := bind_eq_ok.mp h
        -- The contract stands for the token that was minted.
        rw [okOr_eq_ok, harrived.contracts] at htoken'
        rw [resourceToken, hnot, hdecode] at htoken
        obtain rfl := Option.some.inj (htoken.symm.trans htoken')
        exact hhost harrived ((hassociated harrived hdecode).trans hdominator) h

theorem ensureBridge_eq_ok {origin : Origin} {source : AccountId} (h : ensureBridge cfg origin = .ok source) :
    source = cfg.bridgeAccount := by
  cases origin with
  | root => exact absurd h (by simp [ensureBridge])
  | signed who =>
      simp only [ensureBridge] at h
      split at h
      · exact (Except.ok.inj h).symm
      · exact absurd h (by simp)

/-! ### The whole transfer -/

/-- What an account has of a token, free and reserved. -/
def totalOf (token : TokenId) (who : AccountId) (s : State cfg) : Nat :=
  (balancesOf token who s.verifier.asset).1.toNat + (balancesOf token who s.verifier.asset).2.toNat

/-- What a donation does to the balance of any token. -/
theorem Donated.balances (h : Donated target donated s s') (hdonor : target ≠ cfg.donorAccount)
    (token : TokenId) :
    (balancesOf token target s'.verifier.asset).1.toNat = (balancesOf token target s.verifier.asset).1.toNat +
        (if token = cfg.verifier.token.nativeTokenId then donated.toNat else 0) ∧
      (balancesOf token target s'.verifier.asset).2 = (balancesOf token target s.verifier.asset).2 := by
  by_cases htoken : token = cfg.verifier.token.nativeTokenId
  · subst htoken
    rw [if_pos rfl]
    exact ⟨h.free, h.reserved⟩
  · rcases h.others token target (by simp [htoken]) with ⟨-, hdonor'⟩ | hsame
    · exact absurd hdonor' hdonor
    · rw [if_neg htoken, hsame]
      exact ⟨rfl, rfl⟩

/-- The recipient is credited with the value, and either all of it is authorised or all of it is free. -/
structure CreditsAndHosts (target : AccountId) (associated : Option AccountId) (token : TokenId)
    (value donated : U128) (s s' : State cfg) : Prop where
  paid : donated = 0 ∨ donated = cfg.donationForAgent ∧ s.accountNonce target = 0
  credited : totalOf token target s' = totalOf token target s + value.toNat +
    if token = cfg.verifier.token.nativeTokenId then donated.toNat else 0
  hosted : (∃ dominator, associated = some dominator ∧
      amounts s'.verifier.reserves = Function.update (amounts s.verifier.reserves)
        ((.authorizingStash, target, token), dominator)
        (amounts s.verifier.reserves ((.authorizingStash, target, token), dominator) + value.toNat) ∧
      s'.verifier.receipts =
        s.verifier.receipts.insert (dominator, target) (.authorize token value s.verifier.now)) ∨
    (s'.verifier.reserves = s.verifier.reserves ∧ s'.verifier.receipts = s.verifier.receipts ∧
      (balancesOf token target s'.verifier.asset).2 = (balancesOf token target s.verifier.asset).2)
  others : ∀ t a, a ≠ target →
    (t = cfg.verifier.token.nativeTokenId ∧ (a = cfg.bridgeAccount ∨ a = cfg.donorAccount)) ∨
      balancesOf t a s'.verifier.asset = balancesOf t a s.verifier.asset

/-- Every transfer that succeeds credits the recipient with the value of the amount, and authorises all or
nothing of it. -/
theorem transferIn_creditsAndHosts (hexact : cfg.verifier.token.balances.Exact)
    (hempty : Token.Fnd10Empty s.verifier.asset)
    (hnative : s.verifier.asset.tokens cfg.verifier.token.nativeTokenId = none) {origin : Origin}
    (hbridge : target ≠ cfg.bridgeAccount) (hdonor : target ≠ cfg.donorAccount)
    (h : transferIn origin target amount rId s = .ok s') :
    ∃ token donated, resourceToken rId s = some token ∧
      CreditsAndHosts target (resourceDominator rId s) token (standardValue amount token s.verifier.asset)
        donated s s' := by
  simp only [transferIn, bind_eq_ok] at h
  obtain ⟨source, hsource, hosted, hhosted, hdonate⟩ := h
  obtain rfl := ensureBridge_eq_ok hsource
  obtain ⟨token, arrived, htoken, harrived, hhosting⟩ := bringIn_eq_ok hexact hempty hnative hbridge hhosted
  obtain ⟨donated, hdonated⟩ := donate_eq_ok hexact hdonor hdonate
  obtain ⟨hfree, hreserved⟩ := hdonated.balances hdonor token
  have hnonce : hosted.accountNonce target = s.accountNonce target := by
    rcases hhosting with rfl | ⟨dominator, -, hhosting⟩
    · rw [harrived.frame]
    · rw [hhosting.frame, harrived.frame]
  have hdonatedReserves : s'.verifier.reserves = hosted.verifier.reserves := by rw [hdonated.frame]
  have hdonatedReceipts : s'.verifier.receipts = hosted.verifier.receipts := by rw [hdonated.frame]
  have harrivedReserves : arrived.verifier.reserves = s.verifier.reserves := by rw [harrived.frame]
  have harrivedReceipts : arrived.verifier.receipts = s.verifier.receipts := by rw [harrived.frame]
  have harrivedNow : arrived.verifier.now = s.verifier.now := by rw [harrived.frame]
  refine ⟨token, donated, htoken, ?_, ?_, ?_, fun t a ha => ?_⟩
  · exact hnonce ▸ hdonated.paid
  · have hfree' := harrived.free
    have hreserved' := harrived.reserved
    rcases hhosting with rfl | ⟨dominator, -, hhosting⟩
    · rw [totalOf, totalOf, hfree, hreserved, hreserved']
      omega
    · have hhostedFree := hhosting.free
      have hhostedReserved := hhosting.reserved
      rw [hreserved'] at hhostedReserved
      rw [totalOf, totalOf, hfree, hreserved]
      omega
  · rw [hdonatedReserves, hdonatedReceipts]
    rcases hhosting with rfl | ⟨dominator, hdominator, hhosting⟩
    · exact .inr ⟨harrivedReserves, harrivedReceipts, hreserved.trans harrived.reserved⟩
    · refine .inl ⟨dominator, hdominator, ?_, ?_⟩
      · rw [hhosting.stash, harrivedReserves]
      · rw [hhosting.receipt, harrivedReceipts, harrivedNow]
  · rcases hdonated.others t a (by simp [ha]) with ⟨ht, hdonor'⟩ | hdonated'
    · exact .inl ⟨ht, .inr hdonor'⟩
    rcases harrived.others t a (by simp [ha]) with ⟨ht, hbridge'⟩ | harrived'
    · exact .inl ⟨ht, .inl hbridge'⟩
    refine .inr ?_
    rw [hdonated', ← harrived']
    rcases hhosting with rfl | ⟨dominator, -, hhosting⟩
    · rfl
    · exact hhosting.others t a (by simp [ha])

/-- In every run with fewer than `2 ^ 32` tokens, a transfer that succeeds credits the recipient with the value
of the amount and authorises all or nothing of it, and an amount that is minted has that value. -/
theorem transferIn_credits_and_hosts (hexact : cfg.verifier.token.balances.Exact)
    (hzero : cfg.verifier.token.nativeTokenId = 0) {n : Nat}
    (hreach : Transition.Reachable Token.Genesis Token.Touched (s.verifier.asset, n)) (hn : n < 2 ^ 32)
    {origin : Origin} (hbridge : target ≠ cfg.bridgeAccount) (hdonor : target ≠ cfg.donorAccount)
    (h : transferIn origin target amount rId s = .ok s') :
    (∃ token donated, resourceToken rId s = some token ∧
      CreditsAndHosts target (resourceDominator rId s) token (standardValue amount token s.verifier.asset)
        donated s s') ∧
    ∀ token who (minted : U128) asset, minted ≠ 0 → Token.doMint token who minted s.verifier.asset = .ok asset →
      Token.toAssetBalance minted token s.verifier.asset = .ok (standardValue minted token s.verifier.asset) ∧
        (balancesOf token who asset).1.toNat = (balancesOf token who s.verifier.asset).1.toNat +
          (standardValue minted token s.verifier.asset).toNat := by
  have hinv := Token.numbered_of_touched hreach
  have hnative : s.verifier.asset.tokens cfg.verifier.token.nativeTokenId = none :=
    hzero.symm ▸ hinv.zero_none hn
  refine ⟨transferIn_creditsAndHosts hexact hinv.empty hnative hbridge hdonor h, ?_⟩
  intro token who minted asset hminted hmint
  exact (doMint_standardValue hinv.empty hnative hminted hmint).2

/-! ### A token that takes the id of the native one

After `2 ^ 32 - 1` tokens the next one gets the id `0`. A contract that stands for it brings in amounts that are
credited to nobody's native balance. -/

def plainConfig : Config where
  verifier := Verifier.plainConfig []
  bridgeAccount := Verifier.operator
  nativeResourceId := ⟨[3] ++ List.replicate 25 0 ++ [84, 65, 79] ++ [0, 42, 0], rfl⟩
  donorAccount := List.Vector.replicate 32 0
  donationForAgent := 1

/-- The contract `65` of chain `1`. -/
def foreignResource : ResourceId := ⟨[1] ++ List.replicate 27 0 ++ [65] ++ [0, 1, 0], rfl⟩

/-- Every account has sent a transaction before. -/
def stateOf (asset : Token.State Token.plainConfig) : State plainConfig where
  associatedDominator _ := none
  accountNonce _ := 1
  verifier := .genesis asset ()

theorem transferIn_credits_and_hosts_native : ∃ s',
    transferIn (.signed Verifier.operator) Token.alice 5 plainConfig.nativeResourceId
      (stateOf (Verifier.plainAssets 100)) = .ok s' ∧
    ∃ donated, CreditsAndHosts Token.alice none 0 5 donated (stateOf (Verifier.plainAssets 100)) s' := by
  obtain ⟨s', h⟩ := exists_of_isOk (x := transferIn (.signed Verifier.operator) Token.alice 5
    plainConfig.nativeResourceId (stateOf (Verifier.plainAssets 100))) (by decide +kernel)
  obtain ⟨token, donated, htoken, hcredits⟩ := (transferIn_credits_and_hosts Balances.plain_exact rfl
    ⟨_, ⟨_, rfl⟩, .refl⟩ (by decide) (by decide) (by decide) h).1
  have hnative : isNativeResource plainConfig plainConfig.nativeResourceId = true := by decide
  rw [resourceToken, if_pos hnative] at htoken
  have hassociated : resourceDominator plainConfig.nativeResourceId (stateOf (Verifier.plainAssets 100)) =
      none := by
    rw [resourceDominator]
    cases decodeResourceId plainConfig.nativeResourceId with
    | none => rfl
    | some resource => rfl
  obtain rfl : plainConfig.verifier.token.nativeTokenId = token := Option.some.inj htoken
  rw [hassociated, standardValue_native] at hcredits
  exact ⟨s', h, donated, hcredits⟩

/-- The storage of the assets after `2 ^ 32` tokens: the last of them has the id `0`. -/
theorem reachable_token_zero : ∃ asset : Token.State Token.plainConfig,
    Transition.Reachable Token.Genesis Token.Counted (asset, 2 ^ 32) ∧
      asset.tokens 0 = some Token.unitToken ∧ asset.balances = fun _ => none := by
  have hgenesis : Transition.Reachable Token.Genesis Token.Counted (Token.emptyState, 0) :=
    ⟨_, ⟨_, rfl⟩, .refl⟩
  obtain ⟨asset, hreach, hnext, hbalances⟩ := Token.counted_creations hgenesis (2 ^ 32 - 1)
  have hzero : asset.nextTokenId = 0 := hnext.trans (by decide)
  refine ⟨_, Token.counted_create hreach, ?_, hbalances⟩
  rw [hzero]
  exact StorageMap.insert_self asset.tokens 0 Token.unitToken

/-- Without a dominator the foreign amount is minted, and nothing else happens. -/
theorem transferIn_foreign {s : State plainConfig} {asset : Token.State plainConfig.verifier.token}
    (hcontract : s.verifier.asset.tokenByContract (1, [65]) = some 0)
    (hassociated : s.associatedDominator 0 = none) (hnonce : s.accountNonce Token.alice ≠ 0)
    (hmint : Token.doMint 0 Token.alice 1 s.verifier.asset = .ok asset) :
    transferIn (.signed Verifier.operator) Token.alice 1 foreignResource s =
      .ok { s with verifier := { s.verifier with asset } } := by
  have hdecode : decodeResourceId foreignResource = some (1, 0, [65]) := by decide
  have hforeign : ¬ isNativeResource plainConfig foreignResource = true := by decide
  have hbridge : ensureBridge plainConfig (.signed Verifier.operator) = .ok Verifier.operator := rfl
  have hminted : doMintAssets Token.alice 1 foreignResource s =
      .ok { s with verifier := { s.verifier with asset } } := by
    rw [doMintAssets, hdecode]
    simp only [okOr_some, ok_bind, hcontract, hmint]
    rfl
  rw [transferIn, hbridge, ok_bind, bringIn, if_neg hforeign, hminted, ok_bind, hdecode, okOr_some, ok_bind]
  simp only [hassociated]
  exact if_neg hnonce

/-- A transfer that leaves the native ledger as it is credits nobody with the native token. -/
theorem not_creditsAndHosts {associated : Option AccountId}
    (hnative : s'.verifier.asset.native = s.verifier.asset.native) (hvalue : value ≠ 0) :
    ¬ CreditsAndHosts target associated cfg.verifier.token.nativeTokenId value donated s s' := by
  intro h
  have hbalances (asset : Token.State cfg.verifier.token) :
      balancesOf cfg.verifier.token.nativeTokenId target asset =
        (cfg.verifier.token.balances.free asset.native target,
          cfg.verifier.token.balances.reserved asset.native target) :=
    Prod.ext (if_pos rfl) (if_pos rfl)
  have hcredited := h.credited
  rw [totalOf, totalOf, hbalances, hbalances, hnative] at hcredited
  exact hvalue (BitVec.eq_of_toNat_eq (show value.toNat = 0 by omega))

/-- The amount arrives nowhere, and an amount of nothing is minted of a token that does not exist. -/
theorem native_id_is_taken :
    (∃ (s s' : State plainConfig) (n : Nat),
      Transition.Reachable Token.Genesis Token.Touched (s.verifier.asset, n) ∧
      transferIn (.signed Verifier.operator) Token.alice 1 foreignResource s = .ok s' ∧
      ¬ ∃ token donated, resourceToken foreignResource s = some token ∧
        CreditsAndHosts Token.alice (resourceDominator foreignResource s) token
          (standardValue 1 token s.verifier.asset) donated s s') ∧
    Token.doMint 1 Token.alice 0 Token.emptyState = .ok Token.emptyState ∧
      Token.toAssetBalance 0 1 Token.emptyState = .error TokenError.tokenNotFound := by
  refine ⟨?_, rfl, rfl⟩
  obtain ⟨asset, hreach, htoken, hbalances⟩ := reachable_token_zero
  let named : Token.State Token.plainConfig := Token.associateToken 1 [65] 0 asset
  have hcontract : named.tokenByContract (1, [65]) = some 0 :=
    StorageMap.insert_self asset.tokenByContract (1, [65]) 0
  have hnonce : (stateOf named).accountNonce Token.alice ≠ 0 :=
    show (1 : U32) ≠ 0 by decide
  obtain ⟨minted, hmint, hnative⟩ : ∃ minted, Token.doMint 0 Token.alice 1 named = .ok minted ∧
      minted.native = named.native := by
    rw [Token.doMint, if_neg (by decide), show named.tokens 0 = some Token.unitToken from htoken]
    have hbalance : named.balances (0, Token.alice) = none := congrFun hbalances _
    rw [hbalance]
    exact ⟨_, rfl, rfl⟩
  refine ⟨stateOf named, _, 2 ^ 32, ?_, transferIn_foreign hcontract rfl hnonce hmint, ?_⟩
  · obtain ⟨p, hgenesis, hrun⟩ := hreach.mono fun _ _ => Token.Touched.call
    exact ⟨p, hgenesis, hrun.tail (.write asset _ asset.balances asset.native named.tokenByContract)⟩
  · rintro ⟨token, donated, hresource, hcredits⟩
    have hforeign : ¬ isNativeResource plainConfig foreignResource = true := by decide
    have hdecode : decodeResourceId foreignResource = some (1, 0, [65]) := by decide
    rw [resourceToken, if_neg hforeign, hdecode] at hresource
    obtain rfl : 0 = token := Option.some.inj (hcontract.symm.trans hresource)
    have hvalue : @standardValue plainConfig 1 0 named = 1 := if_pos rfl
    exact not_creditsAndHosts hnative (show @standardValue plainConfig 1 0 named ≠ 0 by
      rw [hvalue]
      decide) hcredits

end Fusotao.ChainBridgeHandler
