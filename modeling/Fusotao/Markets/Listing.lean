import Fusotao.Base.Transition
import Fusotao.Markets.Pallet
import Fusotao.Verifier.Plain

/-!
# Markets and what was registered

A market is opened with the parameters of the call. As long as these are the ones the market has, an open market is the
one that was registered last, and from then on it does not change.
-/

namespace Fusotao.Markets

open Exec

/-- The parameters of a registration, and the tokens that there were then. -/
structure Listing (cfg : Config) where
  minBase : U128
  baseScale : U8
  quoteScale : U8
  asset : Token.State cfg.verifier.token

/-- The storage, and the last registration of each market, which the pallet does not keep. -/
structure Board (cfg : Config) where
  state : State cfg
  listings : StorageMap (AccountId × Symbol) (Listing cfg)

variable {cfg : Config} {b b' : Board cfg} {s s' : State cfg} {dominator : AccountId} {base quote : TokenId}
  {baseScale quoteScale : U8} {minBase : U128}

/-- The parameters are those that the market has. -/
def Confirms (dominator : AccountId) (base quote : TokenId) (baseScale quoteScale : U8) (minBase : U128)
    (s : State cfg) : Prop :=
  ∀ m, s.markets (dominator, base, quote) = some m →
    m.minBase = minBase ∧ m.baseScale = baseScale ∧ m.quoteScale = quoteScale

/-- One call, in which an opening meets the condition. Other pallets, and the other calls of the verifier, leave the
markets alone. -/
inductive Step (P : AccountId → TokenId → TokenId → U8 → U8 → U128 → State cfg → Prop) : Board cfg → Board cfg → Prop
  | applyForTokenListing {b : Board cfg} {s' : State cfg} (origin : Origin) (dominator : AccountId)
      (base quote : TokenId) (baseScale quoteScale : U8) (minBase : U128)
      (hcall : applyForTokenListing origin dominator base quote baseScale quoteScale minBase b.state = .ok s') :
      Step P b ⟨s', b.listings.insert (dominator, base, quote)
        ⟨minBase, baseScale, quoteScale, b.state.verifier.asset⟩⟩
  | openMarket {b : Board cfg} {s' : State cfg} (dominator : AccountId) (base quote : TokenId)
      (baseScale quoteScale : U8) (minBase : U128)
      (hcond : P dominator base quote baseScale quoteScale minBase b.state)
      (hcall : openMarket dominator base quote baseScale quoteScale minBase b.state = .ok s') :
      Step P b ⟨s', b.listings⟩
  | closeMarket {b : Board cfg} {s' : State cfg} (dominator : AccountId) (base quote : TokenId) (now : BlockNumber)
      (hcall : closeMarket dominator base quote now b.state = .ok s') : Step P b ⟨s', b.listings⟩
  | other {b : Board cfg} (verifier : Verifier.State cfg.verifier) : Step P b ⟨{ b.state with verifier }, b.listings⟩

def NoMarket (b : Board cfg) : Prop := ∀ key, b.state.markets key = none

/-! ### What the calls write -/

theorem registerMarket_eq_ok (h : registerMarket dominator base quote baseScale quoteScale minBase s = .ok s') :
    Token.isStable quote s.verifier.asset = true ∧ Token.existsToken base s.verifier.asset = true ∧
      (∀ m, s.markets (dominator, base, quote) = some m → m.status = .registered) ∧
      s' = { s with
        markets := s.markets.insert (dominator, base, quote)
          (listedMarket minBase baseScale quoteScale .registered) } := by
  simp only [registerMarket, bind_eq_ok, ensure_eq_ok, exists_const] at h
  obtain ⟨hstable, hexists, -, h⟩ := h
  refine ⟨hstable, hexists, ?_⟩
  split at h
  · rename_i hnone
    refine ⟨?_, (pure_eq_ok.mp h).symm⟩
    intro m hm
    exact absurd (hnone.symm.trans hm) (by simp)
  · rename_i pair hpair
    split at h
    · rename_i hregistered
      refine ⟨?_, (pure_eq_ok.mp h).symm⟩
      intro m hm
      obtain rfl := Option.some.inj (hpair.symm.trans hm)
      exact hregistered
    · cases h

theorem openMarket_eq_ok (h : openMarket dominator base quote baseScale quoteScale minBase s = .ok s') :
    (∃ m, s.markets (dominator, base, quote) = some m) ∧ s' = { s with
      markets := s.markets.insert (dominator, base, quote) (listedMarket minBase baseScale quoteScale .opened) } := by
  simp only [openMarket, bind_eq_ok, ensure_eq_ok, exists_const, pure_eq_ok, Option.isSome_iff_exists] at h
  exact ⟨h.1, h.2.2.symm⟩

theorem closeMarket_eq_ok {now : BlockNumber} (h : closeMarket dominator base quote now s = .ok s') :
    ∃ pair deadline, s.markets (dominator, base, quote) = some pair ∧ s' = { s with
      markets := s.markets.insert (dominator, base, quote)
        { pair with status := .closed, unavailableAfter := deadline } } := by
  simp only [closeMarket, bind_eq_ok, okOr_eq_ok, pure_eq_ok] at h
  obtain ⟨pair, hpair, rfl⟩ := h
  exact ⟨pair, _, hpair, rfl⟩

/-! ### One step -/

def SameParameters (m m' : Market) : Prop :=
  m'.minBase = m.minBase ∧ m'.baseScale = m.baseScale ∧ m'.quoteScale = m.quoteScale

/-- The market is the one that was registered, and the tokens were there for it. -/
structure Listing.Lists (l : Listing cfg) (base quote : TokenId) (m : Market) : Prop where
  minBase : m.minBase = l.minBase
  baseScale : m.baseScale = l.baseScale
  quoteScale : m.quoteScale = l.quoteScale
  stable : Token.isStable quote l.asset = true
  exists_base : Token.existsToken base l.asset = true

theorem Listing.Lists.congr {l : Listing cfg} {m m' : Market} (h : l.Lists base quote m) (hsame : SameParameters m m') :
    l.Lists base quote m' :=
  ⟨hsame.1.trans h.minBase, hsame.2.1.trans h.baseScale, hsame.2.2.trans h.quoteScale, h.stable, h.exists_base⟩

/-- Every market, open or not, is the one that was registered last. -/
def Listed (b : Board cfg) : Prop :=
  ∀ dominator base quote m, b.state.markets (dominator, base, quote) = some m →
    ∃ l, b.listings (dominator, base, quote) = some l ∧ l.Lists base quote m

/-- What a step does to a market that is there afterwards: it registers the market anew, or keeps its parameters. -/
theorem Step.market (h : Step Confirms b b') {m' : Market}
    (hm' : b'.state.markets (dominator, base, quote) = some m') :
    (m'.status = .registered ∧ (∀ m, b.state.markets (dominator, base, quote) = some m → m.status = .registered) ∧
      ∃ l, b'.listings (dominator, base, quote) = some l ∧ l.Lists base quote m') ∨
    ∃ m, b.state.markets (dominator, base, quote) = some m ∧ SameParameters m m' ∧
      (m.status ≠ .registered → m'.status ≠ .registered) ∧
      b'.listings (dominator, base, quote) = b.listings (dominator, base, quote) := by
  cases h with
  | applyForTokenListing origin dominator' base' quote' baseScale quoteScale minBase hcall =>
      simp only [Markets.applyForTokenListing, bind_eq_ok] at hcall
      obtain ⟨_, -, hcall⟩ := hcall
      obtain ⟨hstable, hexists, hregistered, rfl⟩ := registerMarket_eq_ok hcall
      dsimp only at hm'
      by_cases hkey : (dominator, base, quote) = (dominator', base', quote')
      · obtain ⟨rfl, rfl, rfl⟩ : dominator = dominator' ∧ base = base' ∧ quote = quote' := by simpa using hkey
        rw [StorageMap.insert_self] at hm'
        obtain rfl := Option.some.inj hm'
        exact .inl ⟨rfl, hregistered, _, StorageMap.insert_self _ _ _, rfl, rfl, rfl, hstable, hexists⟩
      · rw [StorageMap.insert_of_ne _ _ hkey] at hm'
        exact .inr ⟨m', hm', ⟨rfl, rfl, rfl⟩, id, StorageMap.insert_of_ne _ _ hkey⟩
  | openMarket dominator' base' quote' baseScale quoteScale minBase hcond hcall =>
      obtain ⟨⟨m, hm⟩, rfl⟩ := openMarket_eq_ok hcall
      dsimp only at hm'
      by_cases hkey : (dominator, base, quote) = (dominator', base', quote')
      · obtain ⟨rfl, rfl, rfl⟩ : dominator = dominator' ∧ base = base' ∧ quote = quote' := by simpa using hkey
        rw [StorageMap.insert_self] at hm'
        obtain rfl := Option.some.inj hm'
        -- the condition: the parameters of the call are those of the market
        obtain ⟨hmin, hbase, hquote⟩ := hcond m hm
        exact .inr ⟨m, hm, ⟨hmin.symm, hbase.symm, hquote.symm⟩, fun _ => by simp [listedMarket], rfl⟩
      · rw [StorageMap.insert_of_ne _ _ hkey] at hm'
        exact .inr ⟨m', hm', ⟨rfl, rfl, rfl⟩, id, rfl⟩
  | closeMarket dominator' base' quote' now hcall =>
      obtain ⟨pair, deadline, hpair, rfl⟩ := closeMarket_eq_ok hcall
      dsimp only at hm'
      by_cases hkey : (dominator, base, quote) = (dominator', base', quote')
      · obtain ⟨rfl, rfl, rfl⟩ : dominator = dominator' ∧ base = base' ∧ quote = quote' := by simpa using hkey
        rw [StorageMap.insert_self] at hm'
        obtain rfl := Option.some.inj hm'
        exact .inr ⟨pair, hpair, ⟨rfl, rfl, rfl⟩, fun _ => by simp, rfl⟩
      · rw [StorageMap.insert_of_ne _ _ hkey] at hm'
        exact .inr ⟨m', hm', ⟨rfl, rfl, rfl⟩, id, rfl⟩
  | other verifier => exact .inr ⟨m', hm', ⟨rfl, rfl, rfl⟩, id, rfl⟩

/-- No call removes a market. -/
theorem Step.keeps {P : AccountId → TokenId → TokenId → U8 → U8 → U128 → State cfg → Prop} (h : Step P b b')
    {key : AccountId × Symbol} {m : Market} (hm : b.state.markets key = some m) :
    ∃ m', b'.state.markets key = some m' := by
  have hinsert : ∀ (markets : StorageMap (AccountId × Symbol) Market) (key' : AccountId × Symbol) (m' : Market),
      markets key = some m → ∃ m'', markets.insert key' m' key = some m'' := by
    intro markets key' m' hmarket
    by_cases hkey : key = key'
    · subst hkey
      exact ⟨m', StorageMap.insert_self _ _ _⟩
    · exact ⟨m, (StorageMap.insert_of_ne _ _ hkey).trans hmarket⟩
  cases h with
  | applyForTokenListing origin dominator base quote baseScale quoteScale minBase hcall =>
      simp only [Markets.applyForTokenListing, bind_eq_ok] at hcall
      obtain ⟨_, -, hcall⟩ := hcall
      obtain ⟨-, -, -, rfl⟩ := registerMarket_eq_ok hcall
      exact hinsert _ _ _ hm
  | openMarket dominator base quote baseScale quoteScale minBase hcond hcall =>
      obtain ⟨-, rfl⟩ := openMarket_eq_ok hcall
      exact hinsert _ _ _ hm
  | closeMarket dominator base quote now hcall =>
      obtain ⟨pair, deadline, -, rfl⟩ := closeMarket_eq_ok hcall
      exact hinsert _ _ _ hm
  | other verifier => exact ⟨m, hm⟩

theorem Listed.step (hlisted : Listed b) (h : Step Confirms b b') : Listed b' := by
  intro dominator base quote m' hm'
  obtain ⟨-, -, hnew⟩ | ⟨m, hm, hsame, -, hlisting⟩ := h.market hm'
  · exact hnew
  · obtain ⟨l, hl, hlists⟩ := hlisted dominator base quote m hm
    exact ⟨l, hlisting.trans hl, hlists.congr hsame⟩

/-! ### Runs -/

theorem listed_of_reachable (h : Transition.Reachable NoMarket (Step Confirms) b) : Listed b := by
  apply h.invariant Listed
  · intro b₀ hnone dominator base quote m hm
    exact absurd ((hnone _).symm.trans hm) (by simp)
  · intro b b' hlisted hstep
    exact hlisted.step hstep

/-- A market that was opened or closed is not registered again, and keeps its parameters. -/
theorem settled_of_run (h : Relation.ReflTransGen (Step Confirms) b b') {m : Market}
    (hm : b.state.markets (dominator, base, quote) = some m) (hstatus : m.status ≠ .registered) :
    ∃ m', b'.state.markets (dominator, base, quote) = some m' ∧ m'.status ≠ .registered ∧ SameParameters m m' := by
  induction h with
  | refl => exact ⟨m, hm, hstatus, rfl, rfl, rfl⟩
  | tail _ hlast ih =>
      obtain ⟨mid, hmid, hstatus', hsame⟩ := ih
      obtain ⟨m', hm'⟩ := hlast.keeps hmid
      refine ⟨m', hm', ?_⟩
      obtain ⟨-, hregistered, -⟩ | ⟨mid', hmid', hsame', hkept, -⟩ := hlast.market hm'
      · exact absurd (hregistered mid hmid) hstatus'
      · obtain rfl := Option.some.inj (hmid.symm.trans hmid')
        exact ⟨hkept hstatus', hsame'.1.trans hsame.1, hsame'.2.1.trans hsame.2.1, hsame'.2.2.trans hsame.2.2⟩

/-- Where every market is as it was registered, one that is opened is so if and only if the call names the parameters of
the market. -/
theorem Listed.openMarket_iff (hlisted : Listed b)
    (h : openMarket dominator base quote baseScale quoteScale minBase b.state = .ok s') :
    (∃ l m, b.listings (dominator, base, quote) = some l ∧ s'.markets (dominator, base, quote) = some m ∧
      l.Lists base quote m) ↔ Confirms dominator base quote baseScale quoteScale minBase b.state := by
  constructor
  · rintro ⟨l, m', hl, hm', hlists'⟩ m hm
    obtain ⟨-, rfl⟩ := openMarket_eq_ok h
    obtain rfl := Option.some.inj ((StorageMap.insert_self _ _ _).symm.trans hm')
    obtain ⟨l', hl', hlists⟩ := hlisted dominator base quote m hm
    obtain rfl := Option.some.inj (hl.symm.trans hl')
    exact ⟨hlists.minBase.trans hlists'.minBase.symm, hlists.baseScale.trans hlists'.baseScale.symm,
      hlists.quoteScale.trans hlists'.quoteScale.symm⟩
  · intro hcond
    have hafter := hlisted.step (.openMarket dominator base quote baseScale quoteScale minBase hcond h)
    obtain ⟨-, rfl⟩ := openMarket_eq_ok h
    have hm' := StorageMap.insert_self b.state.markets (dominator, base, quote)
      (listedMarket minBase baseScale quoteScale .opened)
    obtain ⟨l, hl, hlists⟩ := hafter dominator base quote _ hm'
    exact ⟨l, _, hl, hm', hlists⟩

/-- In every run whose openings name the parameters of the market, an open market is the one that was registered last,
and its tokens were there for it; once opened or closed, its parameters do not change. An opening with other
parameters leaves an open market that is not the one that was registered. -/
theorem markets_as_registered (h : Transition.Reachable NoMarket (Step Confirms) b) :
    (∀ dominator base quote m, b.state.markets (dominator, base, quote) = some m → m.status = .opened →
      ∃ l, b.listings (dominator, base, quote) = some l ∧ l.Lists base quote m) ∧
    (∀ b', Relation.ReflTransGen (Step Confirms) b b' → ∀ dominator base quote m,
      b.state.markets (dominator, base, quote) = some m → m.status ≠ .registered →
        ∃ m', b'.state.markets (dominator, base, quote) = some m' ∧ m'.status ≠ .registered ∧
          SameParameters m m') ∧
    ∀ dominator base quote baseScale quoteScale minBase s',
      openMarket dominator base quote baseScale quoteScale minBase b.state = .ok s' →
        ((∃ l m, b.listings (dominator, base, quote) = some l ∧ s'.markets (dominator, base, quote) = some m ∧
          l.Lists base quote m) ↔ Confirms dominator base quote baseScale quoteScale minBase b.state) := by
  have hlisted := listed_of_reachable h
  refine ⟨fun dominator base quote m hm _ => hlisted dominator base quote m hm, ?_, ?_⟩
  · intro b' hrun dominator base quote m hm hstatus
    exact settled_of_run hrun hm hstatus
  · intro dominator base quote baseScale quoteScale minBase s' hopen
    exact hlisted.openMarket_iff hopen

/-! ### Runs on given inputs -/

def plainConfig : Config where
  verifier := Verifier.plainConfig []
  marketCloseGracePeriod := 10

theorem verifier_openMarket_eq_ok {origin : Origin}
    (h : Verifier.openMarket origin base quote baseScale quoteScale minBase s = .ok s') :
    ∃ dominator, origin = .signed dominator ∧
      openMarket dominator base quote baseScale quoteScale minBase s = .ok s' := by
  simp only [Verifier.openMarket, bind_eq_ok, ensureSigned_eq_ok, ensure_eq_ok, exists_const] at h
  obtain ⟨dominator, rfl, -, h⟩ := h
  exact ⟨dominator, rfl, h⟩

/-- Two tokens, the second one stable, and the operator as a dominator. -/
def readyVerifier : Result (Verifier.State plainConfig.verifier) := do
  let (_, a₁) ← Token.create (.nep141 [84, 75] [1, 1, 1] 0 false 18) (Verifier.plainAssets (10 ^ 30))
  let (_, a₂) ← Token.create (.nep141 [85, 83] [2, 2, 2] 0 false 6) a₁
  let a₃ ← Token.markStable 2 a₂
  Verifier.register Verifier.operator [100, 101, 120] { Verifier.State.genesis a₃ () with now := 1 }

/-- A market that is opened as it was registered. -/
theorem markets_as_registered_opened : ∃ b : Board plainConfig, ∃ m l,
    b.state.markets (Verifier.operator, 1, 2) = some m ∧ m.status = .opened ∧
      b.listings (Verifier.operator, 1, 2) = some l ∧ l.Lists 1 2 m := by
  obtain ⟨⟨v, s₁, s₂⟩, hrun, hcheck⟩ := exists_of_succeedsWith
    (x := do
      let v ← readyVerifier
      let s₁ ← applyForTokenListing (.signed Verifier.bob) Verifier.operator 1 2 5 3 100
        (⟨fun _ => none, v⟩ : State plainConfig)
      let s₂ ← Verifier.openMarket (.signed Verifier.operator) 1 2 5 3 100 s₁
      return (v, s₁, s₂))
    (p := fun x => decide (x.2.1.markets (Verifier.operator, 1, 2) = some (listedMarket 100 5 3 .registered)) &&
      decide (x.2.2.markets (Verifier.operator, 1, 2) = some (listedMarket 100 5 3 .opened))) (by decide +kernel)
  simp only [Bool.and_eq_true, decide_eq_true_eq] at hcheck
  simp only [bind_eq_ok, pure_eq_ok, Prod.mk.injEq] at hrun
  obtain ⟨v, -, s₁, hlist, s₂, hopen, rfl, rfl, rfl⟩ := hrun
  obtain ⟨dominator, hdominator, hopen⟩ := verifier_openMarket_eq_ok hopen
  obtain rfl := Origin.signed.inj hdominator
  have hreach : Transition.Reachable NoMarket (Step Confirms)
      (⟨s₂, StorageMap.insert (fun _ => none) (Verifier.operator, 1, 2) ⟨100, 5, 3, v.asset⟩⟩ : Board plainConfig) :=
    ⟨⟨⟨fun _ => none, v⟩, fun _ => none⟩, fun _ => rfl, (Relation.ReflTransGen.single
      (.applyForTokenListing _ _ _ _ _ _ _ hlist)).tail (.openMarket _ _ _ _ _ _ (fun m hm => by
        obtain rfl := Option.some.inj (hcheck.1.symm.trans hm)
        exact ⟨rfl, rfl, rfl⟩) hopen)⟩
  obtain ⟨l, hl, hlists⟩ := (markets_as_registered hreach).1 Verifier.operator 1 2 _ hcheck.2 rfl
  exact ⟨_, _, l, hcheck.2, rfl, hl, hlists⟩

/-- Carol registers the market anew before the operator opens it with what bob has registered. -/
theorem stale_opening : ∃ b : Board plainConfig, Transition.Reachable NoMarket (Step fun _ _ _ _ _ _ _ => True) b ∧
    ∃ m l, b.state.markets (Verifier.operator, 1, 2) = some m ∧ m.status = .opened ∧ m.minBase = 100 ∧
      b.listings (Verifier.operator, 1, 2) = some l ∧ l.minBase = 1 := by
  obtain ⟨⟨v, s₁, s₂, s₃⟩, hrun, hcheck⟩ := exists_of_succeedsWith
    (x := do
      let v ← readyVerifier
      let s₁ ← applyForTokenListing (.signed Verifier.bob) Verifier.operator 1 2 5 3 100
        (⟨fun _ => none, v⟩ : State plainConfig)
      let s₂ ← applyForTokenListing (.signed Verifier.carol) Verifier.operator 1 2 5 3 1 s₁
      let s₃ ← Verifier.openMarket (.signed Verifier.operator) 1 2 5 3 100 s₂
      return (v, s₁, s₂, s₃))
    (p := fun x =>
      decide (x.2.2.2.markets (Verifier.operator, 1, 2) = some (listedMarket 100 5 3 .opened))) (by decide +kernel)
  rw [decide_eq_true_eq] at hcheck
  simp only [bind_eq_ok, pure_eq_ok, Prod.mk.injEq] at hrun
  obtain ⟨v, -, s₁, hbob, s₂, hcarol, s₃, hopen, rfl, rfl, rfl, rfl⟩ := hrun
  obtain ⟨dominator, hdominator, hopen⟩ := verifier_openMarket_eq_ok hopen
  obtain rfl := Origin.signed.inj hdominator
  have hreach : Transition.Reachable NoMarket (Step fun _ _ _ _ _ _ _ => True)
      (⟨s₃, StorageMap.insert (StorageMap.insert (fun _ => none) (Verifier.operator, 1, 2) ⟨100, 5, 3, v.asset⟩)
        (Verifier.operator, 1, 2) ⟨1, 5, 3, s₁.verifier.asset⟩⟩ : Board plainConfig) :=
    ⟨⟨⟨fun _ => none, v⟩, fun _ => none⟩, fun _ => rfl, ((Relation.ReflTransGen.single
      (.applyForTokenListing _ _ _ _ _ _ _ hbob)).tail (.applyForTokenListing _ _ _ _ _ _ _ hcarol)).tail
      (.openMarket _ _ _ _ _ _ trivial hopen)⟩
  have hlisting := @StorageMap.insert_self (AccountId × Symbol) (Listing plainConfig) _
    (StorageMap.insert (fun _ => none) (Verifier.operator, 1, 2) ⟨100, 5, 3, v.asset⟩) (Verifier.operator, 1, 2)
    ⟨1, 5, 3, s₁.verifier.asset⟩
  exact ⟨_, hreach, _, _, hcheck, rfl, rfl, hlisting, rfl⟩

end Fusotao.Markets
