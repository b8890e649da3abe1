import Fusotao.AbyssTournament.Records

/-!
# Bets are booked

While a betting is open, each item has booked what the bets on it are worth, and the pledge account covers each
item. Calls on other bettings, results of battles and whatever else happens in between do not change that.
-/

namespace Fusotao.AbyssTournament

open Exec Word
open Token (balancesOf totalBalance transferToken)

open scoped BigOperators

variable {cfg : Config} {s s' : State cfg} {id : BettingId} {betting : Betting} {hit : SelectIndex}
  {who : AccountId} {itemIndex : SelectIndex} {amount : U128}

/-! ### Before the battle is settled -/

/-- What all bets on an item are worth. -/
def owed (id : BettingId) (hit : SelectIndex) (s : State cfg) : Nat :=
  ∑ who, dueOn hit (recordOf who id s).1

/-- The bets on a betting are booked and covered, and nothing was paid. -/
structure Booked (id : BettingId) (betting : Betting) (s : State cfg) : Prop where
  lookup : s.bettings id = some betting
  pledged : betting.totalPledge.toNat ≤ pledgeOf id s
  covered : ∀ item ∈ betting.odds, item.totalCompensateAmount.toNat ≤ pledgeOf id s
  booked : ∀ (hit : SelectIndex) item, betting.odds[hit.toNat]? = some item →
    owed id hit s ≤ item.totalCompensateAmount.toNat
  placed : ∀ who, ∀ r ∈ (recordOf who id s).1, r.selectIndex.toNat < betting.odds.length
  inRange : ∀ who, InRange (recordOf who id s).1
  unpaid : ∀ who, (recordOf who id s).2 = false

/-- A bet that joins what is there without loss, and fits what is booked. -/
def ExactBet (who : AccountId) (id : BettingId) (itemIndex : SelectIndex) (amount : U128) (s : State cfg) :
    Prop :=
  ∀ betting item, s.bettings id = some betting → betting.odds[itemIndex.toNat]? = some item →
    JoinsExactly itemIndex item.o amount (recordOf who id s).1 ∧
      item.totalCompensateAmount.toNat + worth amount.toNat item.o < 2 ^ 128

theorem owed_congr (h : ∀ who, recordOf who id s' = recordOf who id s) (hit : SelectIndex) :
    owed id hit s' = owed id hit s :=
  Finset.sum_congr rfl fun who _ => by rw [h]

theorem Booked.untouched (hinv : Booked id betting s) (h : Untouched id s s') : Booked id betting s' := by
  refine ⟨h.betting.trans hinv.lookup, hinv.pledged.trans h.pledge, fun item hitem => ?_, fun hit item hitem => ?_,
    fun who => ?_, fun who => ?_, fun who => ?_⟩
  · exact (hinv.covered item hitem).trans h.pledge
  · rw [owed_congr h.records]
    exact hinv.booked hit item hitem
  · rw [h.records]
    exact hinv.placed who
  · rw [h.records]
    exact hinv.inRange who
  · rw [h.records]
    exact hinv.unpaid who

/-- A betting without bets. -/
theorem booked_of_new (hlookup : s.bettings id = some betting)
    (hpledged : betting.totalPledge.toNat ≤ pledgeOf id s)
    (hzero : ∀ item ∈ betting.odds, item.totalCompensateAmount = 0)
    (hnone : ∀ who, recordOf who id s = ([], false)) : Booked id betting s := by
  refine ⟨hlookup, hpledged, fun item hitem => ?_, fun hit item hitem => ?_, fun who r hr => ?_,
    fun who r hr => ?_, fun who => ?_⟩
  · rw [hzero item hitem]
    exact Nat.zero_le _
  · have howed : owed id hit s = 0 := Finset.sum_eq_zero fun who _ => by rw [hnone]; rfl
    rw [howed]
    exact Nat.zero_le _
  · rw [hnone] at hr
    exact absurd hr List.not_mem_nil
  · rw [hnone] at hr
    exact absurd hr List.not_mem_nil
  · rw [hnone]

/-- The items and the total change, and each still covers what it did. -/
theorem Booked.rewrite (hinv : Booked id betting s) {betting' : Betting} (hlookup : s'.bettings id = some betting')
    (hodds : betting'.odds.map OddsItem.totalCompensateAmount = betting.odds.map OddsItem.totalCompensateAmount)
    (hpledged : betting'.totalPledge.toNat ≤ pledgeOf id s') (hpledge : pledgeOf id s ≤ pledgeOf id s')
    (hrecords : ∀ who, recordOf who id s' = recordOf who id s) : Booked id betting' s' := by
  have hitemOf {i : Nat} {item : OddsItem} (hitem : betting'.odds[i]? = some item) : ∃ old,
      betting.odds[i]? = some old ∧ old.totalCompensateAmount = item.totalCompensateAmount := by
    have hmap := congrArg (fun l : List U128 => l[i]?) hodds
    simp only [List.getElem?_map, hitem, Option.map_some] at hmap
    exact Option.map_eq_some_iff.mp hmap.symm
  have hlength : betting'.odds.length = betting.odds.length := by
    simpa using congrArg List.length hodds
  refine ⟨hlookup, hpledged, fun item hitem => ?_, fun hit item hitem => ?_, fun who => ?_, fun who => ?_,
    fun who => ?_⟩
  · obtain ⟨i, hi⟩ := List.mem_iff_getElem?.mp hitem
    obtain ⟨old, hold, hsame⟩ := hitemOf hi
    rw [← hsame]
    exact (hinv.covered old (List.mem_of_getElem? hold)).trans hpledge
  · obtain ⟨old, hold, hsame⟩ := hitemOf hitem
    rw [owed_congr hrecords, ← hsame]
    exact hinv.booked hit old hold
  · rw [hrecords, hlength]
    exact hinv.placed who
  · rw [hrecords]
    exact hinv.inRange who
  · rw [hrecords]
    exact hinv.unpaid who

/-- A bet is booked on its item, and the pledge account was found to cover it. -/
theorem Booked.bet (hexact : cfg.token.balances.Exact) (hwf : Wellformed s) (hinv : Booked id betting s)
    (hwho : ¬ Keyless cfg who) {betting' : Betting} (hbet : ExactBet who id itemIndex amount s)
    (h : bet who id itemIndex amount s = .ok (betting', s')) : ∃ betting, Booked id betting s' := by
  obtain ⟨item, paid, hlookup, hitem, hfree, hasset, hs'⟩ := bet_eq_ok h
  obtain rfl := Option.some.inj (hinv.lookup.symm.trans hlookup)
  obtain ⟨hjoins, hfits⟩ := hbet betting item hlookup hitem
  obtain ⟨-, hpledgeAccount, htoken⟩ := hwf.terms id betting hlookup
  have hcompensate := toNat_compensateAmount hjoins.fits hfits
  have hpledge : pledgeOf id s ≤ pledgeOf id s' :=
    Token.transferToken_free_le hexact hasset _ fun heq => hwho ⟨id, heq.symm⟩
  have hnewCovered : (compensateAmount item amount).toNat ≤ pledgeOf id s := by
    rw [htoken, hpledgeAccount] at hfree
    exact hfree
  have hrecords := @recordOf_insert _ s s' _ _ _ (congrArg State.bettingRecords hs')
  have howed (hit : SelectIndex) : owed id hit s' =
      owed id hit s + if itemIndex = hit then worth amount.toNat item.o else 0 := by
    have hupdate : (fun who => dueOn hit (recordOf who id s').1) = Function.update
        (fun who => dueOn hit (recordOf who id s).1) who
        (dueOn hit (addRecord itemIndex item.o amount (recordOf who id s).1)) := by
      funext other
      rw [hrecords, Function.update_apply]
      by_cases hother : other = who
      · rw [if_pos (by rw [hother]), if_pos hother]
      · rw [if_neg (by simp [hother]), if_neg hother]
    have hsum := sum_update_add (fun who => dueOn hit (recordOf who id s).1) who
      (dueOn hit (addRecord itemIndex item.o amount (recordOf who id s).1))
    rw [← hupdate, dueOn_addRecord hjoins] at hsum
    change owed id hit s' + dueOn hit (recordOf who id s).1 = owed id hit s + _ at hsum
    omega
  refine ⟨_, ⟨(congrArg (fun s : State cfg => s.bettings id) hs').trans (StorageMap.insert_self _ _ _),
    hinv.pledged.trans hpledge, fun item' hitem' => ?_, fun hit item' hitem' => ?_, fun other r hr => ?_,
    fun other => ?_, fun other => ?_⟩⟩
  · rcases List.mem_or_eq_of_mem_set hitem' with hitem' | rfl
    · exact (hinv.covered item' hitem').trans hpledge
    · exact hnewCovered.trans hpledge
  · rw [howed]
    rw [List.getElem?_set] at hitem'
    split at hitem'
    · rename_i heq
      obtain rfl := BitVec.eq_of_toNat_eq heq
      rw [if_pos (List.getElem?_eq_some_iff.mp hitem).1] at hitem'
      obtain rfl := Option.some.inj hitem'
      have hold := hinv.booked itemIndex item hitem
      rw [if_pos rfl]
      simp only [hcompensate]
      omega
    · rename_i hne
      rw [if_neg fun heq => hne (by rw [heq]), Nat.add_zero]
      exact hinv.booked hit item' hitem'
  · rw [List.length_set]
    rw [hrecords] at hr
    split at hr
    · rcases selectIndex_of_mem_addRecord hr with hself | ⟨r', hr', hsame⟩
      · rw [hself]
        exact (List.getElem?_eq_some_iff.mp hitem).1
      · rw [← hsame]
        exact hinv.placed who r' hr'
    · exact hinv.placed other r hr
  · rw [hrecords]
    split
    · exact inRange_addRecord hjoins (hinv.inRange who)
    · exact hinv.inRange other
  · rw [hrecords]
    split
    · exact hinv.unpaid who
    · exact hinv.unpaid other

theorem booked_of_created (hexact : cfg.token.balances.Exact) (horganizer : ¬ Keyless cfg cfg.bvbOrganizer)
    (hwf : Wellformed s) (hfresh : s.bettings s.nextBettingId = none) {origin : Origin}
    {bettingType : BettingType} {battles : List BattleId} {odditemParams : List OddsItemPrams}
    {seasonId : SeasonId} {pledgeAmount : U128}
    (h : createBetting origin bettingType battles odditemParams seasonId pledgeAmount s = .ok s') :
    ∃ betting, Booked s.nextBettingId betting s' := by
  obtain ⟨betting, paid, -, -, -, hpledge, hzero, hasset, hs'⟩ := createBetting_eq_ok h
  refine ⟨betting, booked_of_new ?_ ?_ hzero fun who => ?_⟩
  · rw [hs']
    exact StorageMap.insert_self _ _ _
  · have hne : cfg.bvbOrganizer ≠ cfg.getBettingTreasury s.nextBettingId := fun heq => horganizer ⟨_, heq⟩
    have htarget := (Token.transferToken_eq_ok hexact hne hasset).2.1
    rw [hpledge, pledgeOf, htarget]
    exact Nat.le_add_left _ _
  · rw [recordOf_congr (congrArg State.bettingRecords hs')]
    exact hwf.unrecorded _ who hfresh

/-! ### The parts of a run -/

/-- While it is open, a betting is bet on, its pledge is raised and its odds are changed. -/
def OpenCall (id : BettingId) (s : State cfg) (c : Call) : Prop :=
  c.betting? s = some id → match c with
    | .goBet .. | .goBetWithInvite .. | .appendBettingPledge .. | .updateOdds .. => True
    | _ => False

/-- When its battles are settled, a betting is claimed from, and the creator takes the rest. -/
def ClosedCall (id : BettingId) (betting : Betting) (s : State cfg) (c : Call) : Prop :=
  (c.betting? s = some id → match c with
    | .bettingClaim _ | .revokeRemainCompensate _ => True
    | _ => False) ∧
  ∀ battleId ∈ betting.battles, c.battle? ≠ some battleId

/-- Bets are exact, and the creator does not take the rest twice. -/
def SoundCall (id : BettingId) (origin : Origin) (s : State cfg) : Call → Prop
  | .goBet bettingId itemIndex amount | .goBetWithInvite bettingId itemIndex amount _ =>
      bettingId = id → ∀ who, origin = .signed who → ExactBet who id itemIndex amount s
  | .revokeRemainCompensate bettingId => bettingId = id → id ∉ s.refunds
  | _ => True

/-- One of the battles of a betting is settled. -/
def Settled (betting : Betting) (s s' : State cfg) : Prop :=
  ∃ origin, Signable cfg origin ∧ ∃ battleId ∈ betting.battles,
    dispatch origin s (.finalsSettle battleId) = .ok s' ∨ dispatch origin s (.leagueSettle battleId) = .ok s'

/-- A betting is created from `s₀` to `s₁` and open until `s₂`, where its battle is settled. All calls on it are as
in `sound`; other things happen at any time. -/
structure Played (sound : Origin → State cfg → Call → Prop) (id : BettingId) (betting : Betting)
    (s₀ s₁ s₂ s₃ s : State cfg) : Prop where
  reached : Transition.Reachable Init AnyStep s₀
  fresh : s₀.bettings id = none
  created : id = s₀.nextBettingId ∧ ∃ origin, Signable cfg origin ∧
    ∃ bettingType battles odditemParams seasonId pledgeAmount,
      dispatch origin s₀ (.createBetting bettingType battles odditemParams seasonId pledgeAmount) = .ok s₁
  bets : Relation.ReflTransGen (Step (fun origin s c => OpenCall id s c ∧ sound origin s c) []) s₁ s₂
  lookup : s₂.bettings id = some betting
  settled : Settled betting s₂ s₃
  claims : Relation.ReflTransGen
    (Step (fun origin s c => ClosedCall id betting s c ∧ sound origin s c) betting.battles) s₃ s

theorem Step.mono {allowed allowed' : Origin → State cfg → Call → Prop} {fixed : List BattleId}
    (hallowed : ∀ origin s c, allowed origin s c → allowed' origin s c) (h : Step allowed fixed s s') :
    Step allowed' fixed s s' := by
  cases h with
  | call origin c hsigned h hcall => exact .call origin c hsigned (hallowed origin _ c h) hcall
  | outside h hfixed => exact .outside h hfixed

theorem Played.mono {sound sound' : Origin → State cfg → Call → Prop}
    (hsound : ∀ origin s c, sound origin s c → sound' origin s c) {s₀ s₁ s₂ s₃ : State cfg}
    (h : Played sound id betting s₀ s₁ s₂ s₃ s) : Played sound' id betting s₀ s₁ s₂ s₃ s :=
  { h with
    bets := Relation.ReflTransGen.mono (fun _ _ hstep => hstep.mono fun origin s c hcall => ⟨hcall.1, hsound origin s c hcall.2⟩) _ _ h.bets
    claims := Relation.ReflTransGen.mono (fun _ _ hstep => hstep.mono fun origin s c hcall => ⟨hcall.1, hsound origin s c hcall.2⟩) _ _ h.claims }

section Runs

variable (hexact : cfg.token.balances.Exact) (hinj : Function.Injective cfg.getBettingTreasury)
  (horganizer : ¬ Keyless cfg cfg.bvbOrganizer)

include hexact hinj horganizer

theorem untouched_of_dispatch (hwf : Wellformed s) {origin : Origin} {c : Call}
    (hsigned : Signable cfg origin) (hc : c.betting? s ≠ some id)
    (h : dispatch origin s c = .ok s') : Untouched id s s' := by
  cases hbetting : c.betting? s with
  | some id' =>
      exact (touched_of_dispatch hinj horganizer hwf hsigned hbetting h).untouched hexact
        fun heq => hc (heq ▸ hbetting)
  | none =>
      obtain ⟨battleId, hbattle⟩ := exists_battle_of_betting?_eq_none hbetting
      exact (judged_of_dispatch hbattle h).untouched id

/-- A step keeps what is booked. -/
theorem Booked.step (hwf : Wellformed s) (hinv : Booked id betting s)
    (h : Step (fun origin s c => OpenCall id s c ∧ SoundCall id origin s c) [] s s') :
    ∃ betting, Booked id betting s' := by
  cases h with
  | outside h => exact ⟨betting, hinv.untouched (h.untouched id)⟩
  | call origin c hsigned hallowed h =>
      obtain ⟨hopen, hsound⟩ := hallowed
      by_cases hc : c.betting? s = some id
      · have hkind := hopen hc
        cases c with
        | goBet bettingId itemIndex amount =>
            obtain rfl := Option.some.inj hc
            obtain ⟨who, betting', horigin, hbet⟩ := goBet_eq_ok h
            exact hinv.bet hexact hwf (hsigned who horigin) (hsound rfl who horigin) hbet
        | goBetWithInvite bettingId itemIndex amount inviteCode =>
            obtain rfl := Option.some.inj hc
            obtain ⟨who, betting', mid, horigin, hbet, hs'⟩ := goBetWithInvite_eq_ok h
            obtain ⟨betting'', hmid⟩ := hinv.bet hexact hwf (hsigned who horigin) (hsound rfl who horigin) hbet
            rw [hs']
            exact ⟨betting'', hmid.lookup, hmid.pledged, hmid.covered, hmid.booked, hmid.placed, hmid.inRange,
              hmid.unpaid⟩
        | appendBettingPledge bettingId amount =>
            obtain rfl := Option.some.inj hc
            obtain ⟨who, betting', paid, horigin, hlookup, hasset, hs'⟩ := appendBettingPledge_eq_ok h
            obtain rfl := Option.some.inj (hinv.lookup.symm.trans hlookup)
            obtain ⟨-, hpledgeAccount, htoken⟩ := hwf.terms _ betting hlookup
            have hnew : s'.bettings bettingId = some { betting with
                totalPledge := Token.freeBalance betting.tokenId betting.pledgeAccount s'.asset } := by
              rw [hs']
              exact StorageMap.insert_self _ _ _
            refine ⟨_, hinv.rewrite hnew rfl ?_ ?_ fun who => recordOf_congr (congrArg State.bettingRecords hs') who _⟩
            · rw [htoken, hpledgeAccount]
              exact Nat.le_refl _
            · exact Token.transferToken_free_le hexact hasset _ fun heq => hsigned who horigin ⟨_, heq.symm⟩
        | updateOdds bettingId odds =>
            obtain rfl := Option.some.inj hc
            obtain ⟨betting', items, hlookup, hsame, rfl⟩ := updateOdds_eq_ok h
            obtain rfl := Option.some.inj (hinv.lookup.symm.trans hlookup)
            exact ⟨_, hinv.rewrite (StorageMap.insert_self _ _ _) hsame hinv.pledged (Nat.le_refl _) fun _ => rfl⟩
        | _ => exact hkind.elim
      · exact ⟨betting, hinv.untouched (untouched_of_dispatch hexact hinj horganizer hwf hsigned hc h)⟩

theorem Wellformed.run {allowed : Origin → State cfg → Call → Prop} {fixed : List BattleId} (hwf : Wellformed s)
    (h : Relation.ReflTransGen (Step allowed fixed) s s') : Wellformed s' := by
  induction h with
  | refl => exact hwf
  | tail _ hlast ih => exact ih.step hexact hinj horganizer hlast.any

theorem Booked.run (hwf : Wellformed s) (hinv : Booked id betting s)
    (h : Relation.ReflTransGen (Step (fun origin s c => OpenCall id s c ∧ SoundCall id origin s c) []) s s') :
    ∃ betting, Booked id betting s' := by
  induction h with
  | refl => exact ⟨betting, hinv⟩
  | tail hrun hlast ih =>
      obtain ⟨betting, hmid⟩ := ih
      exact hmid.step hexact hinj horganizer (hwf.run hexact hinj horganizer hrun) hlast

/-- When the battle is settled, everything is booked. -/
theorem booked_of_played {s₀ s₁ s₂ s₃ : State cfg} (h : Played (SoundCall id) id betting s₀ s₁ s₂ s₃ s) :
    Wellformed s₃ ∧ Booked id betting s₃ := by
  obtain ⟨rfl, origin, hsigned, bettingType, battles, odditemParams, seasonId, pledgeAmount, hcreated⟩ :=
    h.created
  have hwf₀ := wellformed_of_reachable hexact hinj horganizer h.reached
  have hwf₁ := hwf₀.step hexact hinj horganizer (.call origin _ hsigned trivial hcreated)
  obtain ⟨betting₁, hbooked₁⟩ := booked_of_created hexact horganizer hwf₀ h.fresh hcreated
  have hwf₂ := hwf₁.run hexact hinj horganizer h.bets
  obtain ⟨betting₂, hbooked₂⟩ := hbooked₁.run hexact hinj horganizer hwf₁ h.bets
  obtain rfl := Option.some.inj (h.lookup.symm.trans hbooked₂.lookup)
  obtain ⟨origin, hsigned, battleId, -, hsettled⟩ := h.settled
  rcases hsettled with hsettled | hsettled
  · exact ⟨hwf₂.step hexact hinj horganizer (.call origin _ hsigned trivial hsettled),
      hbooked₂.untouched ((judged_of_dispatch rfl hsettled).untouched _)⟩
  · exact ⟨hwf₂.step hexact hinj horganizer (.call origin _ hsigned trivial hsettled),
      hbooked₂.untouched ((judged_of_dispatch rfl hsettled).untouched _)⟩

end Runs

end Fusotao.AbyssTournament
