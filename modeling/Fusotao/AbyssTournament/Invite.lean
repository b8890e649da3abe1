import Fusotao.AbyssTournament.Runtime
import Fusotao.AbyssTournament.Tickets

/-!
# Invite codes

The code of an account is its address, reversed, in base64. A code is decoded by adding zeros to what is too short and
cutting off what is too long, so that every text in base64 names some account.
-/

namespace Fusotao.AbyssTournament

open Exec
open Token (freeBalance)

variable {cfg : Config} {s s' : State cfg} {who a : AccountId} {code bytes : List UInt8}

/-- Each byte string has one text, and no other text is decoded. -/
def Config.CanonicalBase64 (cfg : Config) : Prop :=
  ∀ code bytes, cfg.base64Decode code = some bytes ↔ code = cfg.base64Encode bytes

/-- The code is the text of no byte string but of one as long as an address. -/
def OfAddressLength (cfg : Config) (code : List UInt8) : Prop :=
  ∀ bytes, code = cfg.base64Encode bytes → bytes.length = 32

theorem plainConfig_canonicalBase64 : plainConfig.CanonicalBase64 := fun _ _ => Base64.decode_eq_some

theorem toList_toAccountId (h : bytes.length = 32) : (toAccountId bytes).toList = bytes := by
  show (bytes ++ List.replicate 32 0).take 32 = bytes
  rw [← h, List.take_left]

theorem toAccountId_toList (a : AccountId) : toAccountId a.toList = a := by
  apply List.Vector.toList_injective
  exact toList_toAccountId a.toList_length

theorem inviteCodeToAddr_eq_some (hbase64 : cfg.CanonicalBase64) :
    inviteCodeToAddr cfg code = some a ↔ ∃ bytes, code = cfg.base64Encode bytes ∧ toAccountId bytes.reverse = a := by
  simp only [inviteCodeToAddr, Option.map_eq_some_iff, hbase64 code]

/-- The owner of a code is found by it. -/
theorem inviteCodeToAddr_addrToInviteCode (hbase64 : cfg.CanonicalBase64) (a : AccountId) :
    inviteCodeToAddr cfg (addrToInviteCode cfg a) = some a := by
  apply (inviteCodeToAddr_eq_some hbase64).mpr
  exact ⟨a.toList.reverse, rfl, by rw [List.reverse_reverse, toAccountId_toList]⟩

/-- Decoding adds nothing and cuts off nothing. -/
theorem eq_addrToInviteCode (hlength : bytes.length = 32) :
    cfg.base64Encode bytes = addrToInviteCode cfg (toAccountId bytes.reverse) := by
  rw [addrToInviteCode, toList_toAccountId (by rw [List.length_reverse, hlength]), List.reverse_reverse]

theorem encode_injective (hbase64 : cfg.CanonicalBase64) : Function.Injective cfg.base64Encode := by
  intro bytes bytes' h
  have hleft := (hbase64 (cfg.base64Encode bytes) bytes).mpr rfl
  have hright := (hbase64 (cfg.base64Encode bytes) bytes').mpr h
  exact Option.some.inj (hleft.symm.trans hright)

theorem ne_addrToInviteCode (hbase64 : cfg.CanonicalBase64) (hlength : bytes.length ≠ 32) (a : AccountId) :
    cfg.base64Encode bytes ≠ addrToInviteCode cfg a := by
  intro h
  have hbytes := encode_injective hbase64 h
  apply hlength
  rw [hbytes, List.length_reverse, a.toList_length]

/-- The codes that are decoded to the account they belong to, and to no other. -/
theorem decoded_iff_owned (hbase64 : cfg.CanonicalBase64) :
    (∀ a, inviteCodeToAddr cfg code = some a ↔ code = addrToInviteCode cfg a) ↔ OfAddressLength cfg code := by
  constructor
  · intro howned bytes hcode
    by_contra hlength
    have hdecoded := (inviteCodeToAddr_eq_some hbase64).mpr ⟨bytes, hcode, rfl⟩
    exact ne_addrToInviteCode hbase64 hlength _ (hcode ▸ (howned _).mp hdecoded)
  · intro hlength a
    constructor
    · intro hdecoded
      obtain ⟨bytes, rfl, rfl⟩ := (inviteCodeToAddr_eq_some hbase64).mp hdecoded
      exact eq_addrToInviteCode (hlength bytes rfl)
    · rintro rfl
      exact inviteCodeToAddr_addrToInviteCode hbase64 a

/-! ### Who is paid -/

theorem payInvitor_none {m : U128} (h : inviteCodeToAddr cfg code = none) :
    payInvitor who m code s = .ok (0, s) := by
  simp only [payInvitor, h]
  rfl

theorem goBetWithInvite_none (h : inviteCodeToAddr cfg code = none) (origin : Origin) (id : BettingId)
    (itemIndex : SelectIndex) (amount : U128) (s : State cfg) :
    goBetWithInvite origin id itemIndex amount code s = goBet origin id itemIndex amount s := by
  simp only [goBetWithInvite, goBet, h]

/-- Nothing of the price goes to somebody outside the sale, and no purchase is credited to anybody. -/
structure NoInvitor (who : AccountId) (season : Season) (s s' : State cfg) : Prop where
  inviteCode : s'.inviteCode = s.inviteCode
  inviteRecords : s'.inviteRecords = s.inviteRecords
  others : ∀ a, a ≠ who → a ≠ season.treasury → a ≠ cfg.bvbTreasury →
    freeBalance cfg.awtTokenId a s'.asset = freeBalance cfg.awtTokenId a s.asset

theorem payAwt_other (hexact : cfg.token.balances.Exact) {target other : AccountId} {amount : U128}
    (h : payAwt who target amount s = .ok s') (hwho : other ≠ who) (htarget : other ≠ target) :
    freeBalance cfg.awtTokenId other s'.asset = freeBalance cfg.awtTokenId other s.asset := by
  have hfree := payAwt_free hexact h other
  rw [if_neg hwho, if_neg htarget] at hfree
  exact BitVec.eq_of_toNat_eq hfree

theorem buyTicket_none (hexact : cfg.token.balances.Exact) {amount : U32} {season : Season}
    (hcode : inviteCodeToAddr cfg code = none) (hseason : s.seasons s.defaultSeason = some season)
    (h : buyTicket (.signed who) amount code s = .ok s') : NoInvitor who season s s' := by
  simp only [buyTicket, bind_eq_ok, ensureSigned_eq_ok, okOr_eq_ok, pure_eq_ok, Prod.exists, payInvitor_none hcode] at h
  obtain ⟨_, hwho, _, hseason', _, -, _, -, _, -, first, hfirst, part, second, hsecond, third, hthird, rfl⟩ := h
  obtain rfl := Origin.signed.inj hwho
  obtain rfl := Option.some.inj (hseason.symm.trans hseason')
  obtain ⟨rfl, rfl⟩ := Prod.mk.inj (Except.ok.inj hsecond)
  constructor
  · show third.inviteCode = s.inviteCode
    rw [idle_payAwt hthird, idle_payAwt hfirst]
  · show third.inviteRecords = s.inviteRecords
    rw [idle_payAwt hthird, idle_payAwt hfirst]
  · intro a ha htreasury hbvb
    show freeBalance cfg.awtTokenId a third.asset = _
    rw [payAwt_other hexact hthird ha hbvb, payAwt_other hexact hfirst ha htreasury]

/-- Whoever a code is decoded to is credited with a twentieth of the price. -/
theorem buyTicket_some {amount : U32} {season : Season} (hcode : inviteCodeToAddr cfg code = some a) (hne : a ≠ who)
    (hseason : s.seasons s.defaultSeason = some season) (h : buyTicket (.signed who) amount code s = .ok s') :
    s'.inviteCode = s.inviteCode.insert a (((s.inviteCode a).getD (0, 0)).1 + 1,
      ((s.inviteCode a).getD (0, 0)).2 + season.ticketPrice * amount.setWidth 128 * 5 / 100) := by
  simp only [buyTicket, bind_eq_ok, ensureSigned_eq_ok, okOr_eq_ok, pure_eq_ok, Prod.exists, payInvitor, hcode]
    at h
  obtain ⟨_, hwho, _, hseason', _, -, _, -, _, -, first, hfirst, part, second, hsecond, third, hthird, rfl⟩ := h
  obtain rfl := Origin.signed.inj hwho
  obtain rfl := Option.some.inj (hseason.symm.trans hseason')
  rw [if_pos hne] at hsecond
  simp only [bind_eq_ok, pure_eq_ok, Prod.mk.injEq] at hsecond
  obtain ⟨mid, hmid, -, rfl⟩ := hsecond
  show third.inviteCode = _
  rw [idle_payAwt hthird, idle_payAwt hmid, idle_payAwt hfirst]

theorem goBetWithInvite_some {id : BettingId} {itemIndex : SelectIndex} {amount : U128}
    (hcode : inviteCodeToAddr cfg code = some a) (hne : a ≠ who)
    (h : goBetWithInvite (.signed who) id itemIndex amount code s = .ok s') : ∃ betting,
      s.bettings id = some betting ∧ s'.bettingInviteAmount = s.bettingInviteAmount.insert
        ((betting.season, a), betting.tokenId)
        ((s.bettingInviteAmount ((betting.season, a), betting.tokenId)).getD 0 + amount) := by
  simp only [goBetWithInvite, bind_eq_ok, ensureSigned_eq_ok, Prod.exists, hcode] at h
  obtain ⟨_, hwho, betting, mid, hmid, h⟩ := h
  obtain rfl := Origin.signed.inj hwho
  obtain ⟨item, paid, hbetting, -, -, -, hbet⟩ := bet_eq_ok hmid
  rw [if_pos hne] at h
  obtain rfl := pure_eq_ok.mp h
  refine ⟨betting, hbetting, ?_⟩
  rw [hbet]

/-! ### Codes that belong to nobody -/

/-- A text is decoded to the account it belongs to and to no other if and only if it is the text of no byte string but
of one as long as an address. Such a text that belongs to nobody pays nobody, and any other one pays an account that it
does not belong to. -/
theorem inviteCode_owned_iff (hbase64 : cfg.CanonicalBase64) (hexact : cfg.token.balances.Exact) (code : List UInt8) :
    ((∀ a, inviteCodeToAddr cfg code = some a ↔ code = addrToInviteCode cfg a) ↔ OfAddressLength cfg code) ∧
    (OfAddressLength cfg code → (∀ a, code ≠ addrToInviteCode cfg a) →
      (∀ origin id itemIndex amount s, goBetWithInvite origin id itemIndex amount code s =
        (goBet origin id itemIndex amount s : Result (State cfg))) ∧
      ∀ who amount season (s s' : State cfg), s.seasons s.defaultSeason = some season →
        buyTicket (.signed who) amount code s = .ok s' → NoInvitor who season s s') ∧
    (¬ OfAddressLength cfg code → (∀ a, code ≠ addrToInviteCode cfg a) ∧ ∃ a, ∀ who, a ≠ who →
      (∀ id itemIndex amount (s s' : State cfg), goBetWithInvite (.signed who) id itemIndex amount code s = .ok s' →
        ∃ betting, s.bettings id = some betting ∧ s'.bettingInviteAmount = s.bettingInviteAmount.insert
          ((betting.season, a), betting.tokenId)
          ((s.bettingInviteAmount ((betting.season, a), betting.tokenId)).getD 0 + amount)) ∧
      ∀ amount season (s s' : State cfg), s.seasons s.defaultSeason = some season →
        buyTicket (.signed who) amount code s = .ok s' →
          s'.inviteCode = s.inviteCode.insert a (((s.inviteCode a).getD (0, 0)).1 + 1,
            ((s.inviteCode a).getD (0, 0)).2 + season.ticketPrice * amount.setWidth 128 * 5 / 100)) := by
  refine ⟨decoded_iff_owned hbase64, ?_, ?_⟩
  · intro hlength hnobody
    have hnone : inviteCodeToAddr cfg code = none := by
      rw [Option.eq_none_iff_forall_ne_some]
      intro a hdecoded
      exact hnobody a (((decoded_iff_owned hbase64).mpr hlength a).mp hdecoded)
    constructor
    · exact goBetWithInvite_none hnone
    · intro who amount season s s' hseason h
      exact buyTicket_none hexact hnone hseason h
  · intro hother
    simp only [OfAddressLength, not_forall] at hother
    obtain ⟨bytes, rfl, hlength⟩ := hother
    have hdecoded : inviteCodeToAddr cfg (cfg.base64Encode bytes) = some (toAccountId bytes.reverse) :=
      (inviteCodeToAddr_eq_some hbase64).mpr ⟨bytes, rfl, rfl⟩
    refine ⟨ne_addrToInviteCode hbase64 hlength, toAccountId bytes.reverse, ?_⟩
    intro who hne
    constructor
    · intro id itemIndex amount s s' h
      exact goBetWithInvite_some hdecoded hne h
    · intro amount season s s' hseason h
      exact buyTicket_some hdecoded hne hseason h

/-- The code of alice is decoded to alice. -/
theorem inviteCode_owned_iff_alice :
    inviteCodeToAddr plainConfig (addrToInviteCode plainConfig Token.alice) = some Token.alice ∧
      OfAddressLength plainConfig (addrToInviteCode plainConfig Token.alice) := by
  have hlength : OfAddressLength plainConfig (addrToInviteCode plainConfig Token.alice) := by
    intro bytes hcode
    have hbytes := encode_injective plainConfig_canonicalBase64 hcode
    rw [← hbytes, List.length_reverse, List.Vector.toList_length]
  have howned := (inviteCode_owned_iff plainConfig_canonicalBase64 Balances.plain_exact
    (addrToInviteCode plainConfig Token.alice)).1
  exact ⟨(howned.mpr hlength Token.alice).mpr rfl, hlength⟩

/-- The empty code belongs to nobody. The account of zeros gets a twentieth of the price for it. -/
theorem empty_code_is_paid : (∀ a, [] ≠ addrToInviteCode plainConfig a) ∧
    ∃ (a : AccountId) (s s' : State plainConfig), inviteCodeToAddr plainConfig [] = some a ∧
      buyTicket (.signed Token.alice) 2 [] s = .ok s' ∧ freeBalance plainConfig.awtTokenId a s.asset = 0 ∧
      freeBalance plainConfig.awtTokenId a s'.asset = 100000000000000000 := by
  have hempty : ([] : List UInt8).length ≠ 32 := by decide
  refine ⟨ne_addrToInviteCode plainConfig_canonicalBase64 hempty, ?_⟩
  obtain ⟨⟨s, s'⟩, hrun, hcheck⟩ := exists_of_succeedsWith
    (x := do
      let s₁ ← createSeason (.signed organizer) [1] .league 1000000000000000001
        (emptyState plainConfig (.genesis fun a => if a = Token.alice then (10 ^ 30, 0) else (0, 0)))
      let s₂ ← setDefaultSeason (.signed organizer) 1 s₁
      let s₃ ← buyTicket (.signed Token.alice) 2 [] s₂
      return (s₂, s₃))
    (p := fun x => decide (freeBalance plainConfig.awtTokenId (toAccountId []) x.1.asset = 0) &&
      decide (freeBalance plainConfig.awtTokenId (toAccountId []) x.2.asset = 100000000000000000)) (by decide +kernel)
  simp only [Bool.and_eq_true, decide_eq_true_eq] at hcheck
  simp only [bind_eq_ok, pure_eq_ok, Prod.mk.injEq] at hrun
  obtain ⟨s₁, -, s₂, -, s₃, hbuy, rfl, rfl⟩ := hrun
  exact ⟨toAccountId [], s₂, s₃, by decide, hbuy, hcheck⟩

end Fusotao.AbyssTournament
