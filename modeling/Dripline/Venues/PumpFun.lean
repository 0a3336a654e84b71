import Dripline.Pools.Layout
import Dripline.Venues.Token2022

/-!
# The fees of pump.fun

`direct/venues/pumpfun_amm.rs`, `direct/venues/pumpfun_legacy.rs`. Up to three shares, each rounded
up on its own, go on top of what a purchase swaps and off what a sale pays.

* `FeeTierTable`, `PumpFees.feeOn` — the rates by market cap, and what they take.
* `search`, `search_eq` — the halving search for the largest amount that a spend affords.
* `spent_iff` — when the search finds it.
* `conservative_iff` — when the rates that stand in for an unread tier take at least what any tier
  takes.

A source without a file is in `pumpfun_amm.rs`, where a definition without a comment is the one
of its name.
-/

namespace Dripline.Venues

open Dripline.Pools (Pubkey repeated systemProgramId uintAt)

/-! ## Rates -/

lemma toNat_le_u64Max (n : UInt64) : n.toNat ≤ u64Max := Nat.le_sub_one_of_lt n.toNat_lt

structure PumpFees where
  lpBps : UInt64
  protocolBps : UInt64
  creatorBps : UInt64

/-- One share. Source: `charge` of `quote_fee_on`, of `pumpfun_legacy.rs`, `fee_on` -/
def charge (amount : ℕ) (bps : UInt64) : ℕ := if 0 < bps then shareOf amount bps.toNat else 0

namespace PumpFees

/-- The shares together; the creator's is charged where there is a creator. -/
def dueOn (fees : PumpFees) (creator : Bool) (amount : ℕ) : ℕ :=
  charge amount fees.lpBps + charge amount fees.protocolBps +
    if creator then charge amount fees.creatorBps else 0

/-- Source: `quote_fee_on`; `pumpfun_legacy.rs`, `fee_on` -/
def feeOn (fees : PumpFees) (creator : Bool) (amount : ℕ) : ℕ := min (fees.dueOn creator amount) amount

/-- What an amount costs with every share rounded up on its own. -/
def fullCost (fees : PumpFees) (creator : Bool) (net : ℕ) : ℕ := net + fees.dueOn creator net

end PumpFees

/-- The tiers by threshold; there is a first one. -/
structure FeeTierTable where
  first : ℕ × PumpFees
  rest : List (ℕ × PumpFees)

namespace FeeTierTable

def tiers (table : FeeTierTable) : List (ℕ × PumpFees) := table.first :: table.rest

variable (data : List UInt8)

/-- Source: `layout.rs` -/
def u64At (offset : ℕ) : Option UInt64 := (uintAt data offset 8).map .ofNat

/-- Source: `FeeTierTable::decode` -/
def decodeTier (offset : ℕ) : Option (ℕ × PumpFees) := do
  let threshold ← uintAt data offset 16
  let lpBps ← u64At data (offset + 16)
  let protocolBps ← u64At data (offset + 24)
  let creatorBps ← u64At data (offset + 32)
  return (threshold, ⟨lpBps, protocolBps, creatorBps⟩)

def decode : Option FeeTierTable := do
  let count ← uintAt data (8 + 1 + 32 + 24) 4
  if 1024 < count then none
  else
    match ← (List.range count).mapM fun index => decodeTier data (8 + 1 + 32 + 24 + 4 + 40 * index) with
    | [] => none
    | first :: rest => return ⟨first, rest⟩

def feesFor (table : FeeTierTable) (marketCapLamports : ℕ) : PumpFees :=
  (table.tiers.takeWhile fun tier => tier.1 ≤ marketCapLamports).foldl (fun _ tier => tier.2)
    table.first.2

def mostExpensive (table : FeeTierTable) : PumpFees := table.first.2

end FeeTierTable

/-! ## The search -/

/-- The loop of `swappable_from_spend` and `net_for_spend`. It is nothing where the middle does not
fit 64 bits: built without overflow checks, the middle is then zero and the loop does not end. -/
def search (fits : ℕ → Prop) [DecidablePred fits] (low high : ℕ) : Option ℕ :=
  if low < high then
    if high - low + 1 ≤ u64Max then
      let mid := low + (high - low + 1) / 2
      if fits mid then search fits mid high else search fits low (mid - 1)
    else none
  else some low
termination_by high - low

lemma search_eq {fits : ℕ → Prop} [DecidablePred fits] {best : ℕ}
    (hfits : ∀ net, fits net ↔ net ≤ best) {low high : ℕ} (hlow : low ≤ best) (hhigh : best ≤ high)
    (hword : high < u64Max) : search fits low high = some best := by
  induction low, high using search.induct fits with
  | case1 low high hless hroom mid hmid ih =>
    rw [search, if_pos hless, if_pos hroom, if_pos hmid]
    exact ih ((hfits _).1 hmid) hhigh hword
  | case2 low high hless hroom mid hmid ih =>
    have habove := mt (hfits mid).2 hmid
    rw [search, if_pos hless, if_pos hroom, if_neg hmid]
    exact ih hlow (by omega) (by omega)
  | case3 low high hless hroom => omega
  | case4 low high hless =>
    rw [search, if_neg hless]
    exact congrArg some (by omega)

lemma search_eq_none (fits : ℕ → Prop) [DecidablePred fits] {high : ℕ} (hhigh : u64Max ≤ high) :
    search fits 0 high = none := by
  have hpos : 0 < u64Max := by norm_num [u64Max]
  have hover : ¬high - 0 + 1 ≤ u64Max := by omega
  rw [search, if_pos (hpos.trans_le hhigh), if_neg hover]

/-- Source: `swappable_from_spend`; `pumpfun_legacy.rs`, `net_for_spend` -/
def netFor (fees : PumpFees) (creator : Bool) (spendable : ℕ) : Option ℕ :=
  (search (fun mid => mid + fees.feeOn creator mid ≤ spendable) 0 spendable).map (· - 1)

section Costs

variable (fees : PumpFees) (creator : Bool)

lemma charge_mono (bps : UInt64) : Monotone fun amount => charge amount bps := by
  intro amount amount' hamount
  simp only [charge]
  split
  · exact shareOf_le_shareOf hamount le_rfl
  · exact le_rfl

lemma dueOn_mono : Monotone (fees.dueOn creator) := by
  intro amount amount' hamount
  have hcharge : ∀ bps, charge amount bps ≤ charge amount' bps := fun bps => charge_mono bps hamount
  have hlp := hcharge fees.lpBps
  have hprotocol := hcharge fees.protocolBps
  have hcreator := hcharge fees.creatorBps
  unfold PumpFees.dueOn
  split_ifs <;> omega

@[simp] lemma dueOn_zero : fees.dueOn creator 0 = 0 := by
  simp [PumpFees.dueOn, charge, shareOf]

lemma fullCost_mono : Monotone (fees.fullCost creator) :=
  fun _ _ hamount => Nat.add_le_add hamount (dueOn_mono fees creator hamount)

lemma spendFor_mono : Monotone fun net => net + fees.feeOn creator net := by
  intro net net' hnet
  have hdue := dueOn_mono fees creator hnet
  simp only [PumpFees.feeOn]
  omega

lemma exists_best {cost : ℕ → ℕ} (hmono : Monotone cost) (hzero : cost 0 = 0)
    (hcost : ∀ net, net ≤ cost net) (spend : ℕ) :
    ∃ best ≤ spend, ∀ net, cost net ≤ spend ↔ net ≤ best := by
  refine ⟨Nat.findGreatest (fun net => cost net ≤ spend) spend, Nat.findGreatest_le _, fun net => ?_⟩
  have hbest : cost (Nat.findGreatest (fun net => cost net ≤ spend) spend) ≤ spend :=
    Nat.findGreatest_spec (P := fun net => cost net ≤ spend) (Nat.zero_le _)
      (hzero.trans_le (Nat.zero_le _))
  exact ⟨fun h => Nat.le_findGreatest ((hcost net).trans h) h, fun h => (hmono h).trans hbest⟩

lemma exists_netFor {spend : ℕ} (hword : spend < u64Max) :
    ∃ best, (∀ net, net + fees.feeOn creator net ≤ spend ↔ net ≤ best) ∧
      netFor fees creator spend = some (best - 1) := by
  obtain ⟨best, hbest, hfits⟩ := exists_best (spendFor_mono fees creator)
    (by simp [PumpFees.feeOn]) (fun net => Nat.le_add_right _ _) spend
  refine ⟨best, hfits, ?_⟩
  rw [netFor, search_eq hfits (Nat.zero_le _) hbest hword, Option.map_some]

end Costs

/-! ## The markets -/

/-- Source: `math.rs` -/
def constantProductOut (reserveIn reserveOut amountIn : ℕ) : ℕ :=
  if reserveIn = 0 ∨ reserveOut = 0 ∨ amountIn = 0 then 0
  else min (reserveOut * amountIn / (reserveIn + amountIn)) (reserveOut - 1)

/-- Source: `PumpAmmMarket`, with the creator and the virtual reserve of its `state` -/
structure PumpAmmMarket where
  coinCreator : Pubkey
  virtualQuoteReserves : UInt64
  tiers : Option FeeTierTable
  flatFees : PumpFees
  baseSupply : UInt64
  baseReserve : UInt64
  quoteReserve : UInt64
  transferFeeBase : Option TransferFeeSchedule
  transferFeeQuote : Option TransferFeeSchedule

namespace PumpAmmMarket

variable (market : PumpAmmMarket)

def marketCap : Option ℕ :=
  if market.baseReserve = 0 ∨ market.baseSupply = 0 then none
  else some (market.baseSupply.toNat * market.quoteReserve.toNat / market.baseReserve.toNat)

def chargesCreatorFee : Bool := market.coinCreator ≠ systemProgramId

def fees : PumpFees :=
  if market.chargesCreatorFee then
    match market.tiers, market.marketCap with
    | some table, some cap => table.feesFor cap
    | some table, none => table.mostExpensive
    | none, _ => market.flatFees
  else market.flatFees

def quoteFeeOn (quoteAmount : ℕ) : ℕ := market.fees.feeOn market.chargesCreatorFee quoteAmount

def swappableFromSpend (spendable : ℕ) : Option ℕ :=
  netFor market.fees market.chargesCreatorFee spendable

def effectiveQuoteReserve : ℕ :=
  min (market.quoteReserve.toNat + market.virtualQuoteReserves.toNat) u64Max

/-- Source: `quote`, `expected_out` -/
def expectedOut (inputIsBase : Bool) (amountIn : UInt64) : Option ℕ :=
  if inputIsBase then
    let received := netOfFee market.transferFeeBase amountIn.toNat
    let gross := min
      (constantProductOut market.baseReserve.toNat market.effectiveQuoteReserve received)
      market.quoteReserve.toNat
    some (netOfFee market.transferFeeQuote (gross - market.quoteFeeOn gross))
  else
    let received := netOfFee market.transferFeeQuote amountIn.toNat
    (market.swappableFromSpend received).map fun swapped =>
      netOfFee market.transferFeeBase
        (constantProductOut market.effectiveQuoteReserve market.baseReserve.toNat swapped)

end PumpAmmMarket

/-- Source: `pumpfun_legacy.rs`, `PumpLegacyMarket`, with its `curve` -/
structure PumpLegacyMarket where
  creator : Pubkey
  virtualTokenReserves : UInt64
  virtualSolReserves : UInt64
  realTokenReserves : UInt64
  realSolReserves : UInt64
  tokenTotalSupply : UInt64
  tiers : Option FeeTierTable
  transferFee : Option TransferFeeSchedule

namespace PumpLegacyMarket

variable (market : PumpLegacyMarket)

/-- Source: `pumpfun_legacy.rs` -/
def marketCap : Option ℕ :=
  if market.virtualTokenReserves = 0 then none
  else
    some (market.tokenTotalSupply.toNat * market.virtualSolReserves.toNat /
      market.virtualTokenReserves.toNat)

/-- Source: `pumpfun_legacy.rs` -/
def creatorSet : Bool := market.creator ≠ systemProgramId

/-- Source: `pumpfun_legacy.rs` -/
def fees : PumpFees :=
  match market.tiers, market.marketCap with
  | some table, some cap => table.feesFor cap
  | some table, none => table.mostExpensive
  | none, _ => ⟨0, 0, 0⟩

/-- Source: `pumpfun_legacy.rs` -/
def feeOn (net : ℕ) : ℕ := market.fees.feeOn market.creatorSet net

/-- Source: `pumpfun_legacy.rs` -/
def netForSpend (spendable : ℕ) : Option ℕ := netFor market.fees market.creatorSet spendable

/-- Source: `pumpfun_legacy.rs`, `quote`, `expected_out` -/
def expectedOut (inputIsBase : Bool) (amountIn : UInt64) : Option ℕ :=
  if inputIsBase then
    let sold := netOfFee market.transferFee amountIn.toNat
    let gross := min
      (constantProductOut market.virtualTokenReserves.toNat market.virtualSolReserves.toNat sold)
      market.realSolReserves.toNat
    some (gross - market.feeOn gross)
  else
    (market.netForSpend amountIn.toNat).map fun net =>
      netOfFee market.transferFee (min
        (constantProductOut market.virtualSolReserves.toNat market.virtualTokenReserves.toNat net)
        market.realTokenReserves.toNat)

end PumpLegacyMarket

/-! ## What a purchase swaps -/

/-- One less than the largest amount that the spend affords. -/
def OneBelowBest (cost : ℕ → ℕ) (spend : ℕ) (result : Option ℕ) : Prop :=
  ∃ best, (∀ net, cost net ≤ spend → net ≤ best) ∧ cost best ≤ spend ∧
    result = some (best - 1) ∧ cost (best - 1) ≤ spend

/-- Nothing on the way leaves 128 bits, and the result is one below the best. -/
def Spent (fees : PumpFees) (creator : Bool) (spend : ℕ) (result : Option ℕ) : Prop :=
  (∀ net ≤ spend, fees.fullCost creator net < 2 ^ 128 ∧
    ∀ bps ∈ [fees.lpBps, fees.protocolBps, fees.creatorBps], net * bps.toNat < 2 ^ 128) ∧
  OneBelowBest (fees.fullCost creator) spend result

/-- A spend that fits, and rates that take no more than half of it from the other half. -/
def Searchable (fees : PumpFees) (creator : Bool) (spend : ℕ) : Prop :=
  spend ≠ u64Max ∧ (spend ≤ 3 ∨ fees.dueOn creator (spend / 2) ≤ spend - spend / 2)

section Spends

variable (fees : PumpFees) (creator : Bool)

lemma mul_toNat_le {net : ℕ} (hnet : net ≤ u64Max) (bps : UInt64) :
    net * bps.toNat ≤ (2 ^ 64 - 1) * (2 ^ 64 - 1) :=
  Nat.mul_le_mul hnet (toNat_le_u64Max bps)

lemma charge_le {net : ℕ} (hnet : net ≤ u64Max) (bps : UInt64) : charge net bps ≤ 2 ^ 120 := by
  have hproduct := mul_toNat_le hnet bps
  unfold charge shareOf
  split <;> omega

lemma within_words {spend : ℕ} (hspend : spend ≤ u64Max) : ∀ net ≤ spend,
    fees.fullCost creator net < 2 ^ 128 ∧
      ∀ bps ∈ [fees.lpBps, fees.protocolBps, fees.creatorBps], net * bps.toNat < 2 ^ 128 := by
  intro net hnet
  have hword : net ≤ u64Max := hnet.trans hspend
  refine ⟨?_, fun bps _ => (mul_toNat_le hword bps).trans_lt (by norm_num)⟩
  have hcharge := fun bps => charge_le hword bps
  have hlp := hcharge fees.lpBps
  have hprotocol := hcharge fees.protocolBps
  have hcreator := hcharge fees.creatorBps
  unfold u64Max at hword
  unfold PumpFees.fullCost PumpFees.dueOn
  split <;> omega

lemma spent_netFor_iff {spend : ℕ} (hspend : spend ≤ u64Max) :
    Spent fees creator spend (netFor fees creator spend) ↔ Searchable fees creator spend := by
  unfold Spent Searchable
  rw [and_iff_right (within_words fees creator hspend)]
  rcases hspend.eq_or_lt with rfl | hword
  · refine iff_of_false ?_ fun h => h.1 rfl
    rintro ⟨best, -, -, hnone, -⟩
    rw [netFor, search_eq_none _ le_rfl] at hnone
    cases hnone
  · obtain ⟨affordable, hfits, hresult⟩ := exists_netFor fees creator hword
    have hmono := fullCost_mono fees creator
    have hcapped : ∀ net, fees.fullCost creator net ≤ spend → net ≤ affordable := by
      intro net hnet
      refine (hfits net).1 (le_trans ?_ hnet)
      exact Nat.add_le_add_left (min_le_left _ _) net
    have hhalf : spend / 2 ≤ affordable := by
      rw [← hfits, PumpFees.feeOn]
      omega
    rw [hresult, and_iff_right hword.ne]
    constructor
    · rintro ⟨best, hbest, hcost, hsame, -⟩
      have hle : best ≤ affordable := hcapped best hcost
      have hnet : fees.fullCost creator (spend / 2) ≤ spend ∨ spend ≤ 3 := by
        by_contra hover
        have hshort : ¬spend / 2 ≤ best := fun h => hover (.inl ((hmono h).trans hcost))
        simp only [Option.some.injEq] at hsame
        omega
      rcases hnet with hnet | hsmall
      · unfold PumpFees.fullCost at hnet
        omega
      · exact .inl hsmall
    · intro hrates
      by_cases hfull : fees.fullCost creator affordable ≤ spend
      · exact ⟨affordable, hcapped, hfull, rfl, (hmono (Nat.sub_le _ _)).trans hfull⟩
      · have htwice : affordable ≤ spend / 2 := by
          have haffordable := (hfits affordable).2 le_rfl
          unfold PumpFees.fullCost at hfull
          unfold PumpFees.feeOn at haffordable
          omega
        have hsmall : spend ≤ 3 := by
          rcases hrates with hsmall | hdue
          · exact hsmall
          · refine absurd ((hmono htwice).trans ?_) hfull
            unfold PumpFees.fullCost
            omega
        have hone : affordable = 1 := by
          have hnone : affordable ≠ 0 := by
            rintro rfl
            exact hfull (by simp [PumpFees.fullCost])
          omega
        subst hone
        refine ⟨0, fun net hnet => ?_, by simp [PumpFees.fullCost], rfl, by simp [PumpFees.fullCost]⟩
        have hnet' := hcapped net hnet
        rcases Nat.le_one_iff_eq_zero_or_eq_one.1 hnet' with rfl | rfl
        · exact le_rfl
        · exact absurd hnet hfull

end Spends

/-- **Both venues swap one less than the best exactly at a spend below the largest, where the shares
of half of it fit in the other half.** With the shares limited to the amount itself, as the code
charges them, the spend alone decides. -/
theorem spent_iff (amm : PumpAmmMarket) (legacy : PumpLegacyMarket) (spend : UInt64) :
    (Spent amm.fees amm.chargesCreatorFee spend.toNat (amm.swappableFromSpend spend.toNat) ↔
      Searchable amm.fees amm.chargesCreatorFee spend.toNat) ∧
    (Spent legacy.fees legacy.creatorSet spend.toNat (legacy.netForSpend spend.toNat) ↔
      Searchable legacy.fees legacy.creatorSet spend.toNat) :=
  ⟨spent_netFor_iff _ _ (toNat_le_u64Max spend), spent_netFor_iff _ _ (toNat_le_u64Max spend)⟩

/-! ## Rates that stand in for a tier -/

/-- Of no amount the one takes less than the other. -/
def PumpFees.Covers (fees other : PumpFees) (creator : Bool) : Prop :=
  ∀ amount ≤ u64Max, other.feeOn creator amount ≤ fees.feeOn creator amount

/-- Where the one gives something, the other gives at least as much. -/
def NeverAbove (out other : Option ℕ) : Prop := ∀ n ∈ out, ∃ n' ∈ other, n ≤ n'

lemma NeverAbove.map {out other : Option ℕ} {f : ℕ → ℕ} (hf : Monotone f)
    (h : NeverAbove out other) : NeverAbove (out.map f) (other.map f) := by
  intro n hn
  obtain ⟨m, hm, rfl⟩ := Option.mem_map.1 hn
  obtain ⟨m', hm', hle⟩ := h m hm
  exact ⟨f m', Option.mem_map_of_mem f hm', hf hle⟩

lemma PumpFees.Covers.netFor {fees other : PumpFees} {creator : Bool}
    (h : fees.Covers other creator) {spend : ℕ} (hspend : spend ≤ u64Max) :
    NeverAbove (netFor fees creator spend) (netFor other creator spend) := by
  rcases hspend.eq_or_lt with rfl | hword
  · rw [Venues.netFor, search_eq_none _ le_rfl]
    exact fun n hn => absurd hn (Option.not_mem_none n)
  · obtain ⟨best, hbest, heq⟩ := exists_netFor fees creator hword
    obtain ⟨best', hbest', heq'⟩ := exists_netFor other creator hword
    rw [heq, heq']
    have haffordable := (hbest best).2 le_rfl
    have hfee := h best (by omega)
    have hle : best ≤ best' := (hbest' best).1 (by omega)
    rintro n ⟨⟩
    exact ⟨_, rfl, Nat.sub_le_sub_right hle 1⟩

lemma PumpFees.Covers.sub_feeOn {fees other : PumpFees} {creator : Bool}
    (h : fees.Covers other creator) {f : ℕ → ℕ} (hf : Monotone f) {gross : ℕ}
    (hgross : gross ≤ u64Max) :
    NeverAbove (some (f (gross - fees.feeOn creator gross)))
      (some (f (gross - other.feeOn creator gross))) := by
  rintro n ⟨⟩
  exact ⟨_, rfl, hf (Nat.sub_le_sub_left (h gross hgross) gross)⟩

lemma constantProductOut_mono (reserveIn reserveOut : ℕ) :
    Monotone (constantProductOut reserveIn reserveOut) := by
  intro amount amount' hamount
  unfold constantProductOut
  split_ifs with hnone hnone' hnone'
  · exact le_rfl
  · exact Nat.zero_le _
  · omega
  · obtain ⟨more, rfl⟩ := Nat.exists_eq_add_of_le hamount
    have hout : reserveOut * amount / (reserveIn + amount) ≤
        reserveOut * (amount + more) / (reserveIn + (amount + more)) := by
      rw [Nat.le_div_iff_mul_le (by omega), ← Nat.add_assoc, Nat.mul_add _ _ more,
        Nat.mul_add reserveOut, Nat.mul_comm reserveOut more, Nat.mul_comm _ more]
      refine Nat.add_le_add (Nat.div_mul_le_self _ _) (Nat.mul_le_mul_left _ ?_)
      refine Nat.div_le_of_le_mul ?_
      rw [Nat.mul_comm]
      exact Nat.mul_le_mul_right _ (Nat.le_add_left _ _)
    omega

/-- The table with one tier for every market cap. -/
def FeeTierTable.only (fees : PumpFees) : FeeTierTable := ⟨(0, fees), []⟩

@[simp] lemma feesFor_only (fees : PumpFees) (cap : ℕ) :
    (FeeTierTable.only fees).feesFor cap = fees := by
  simp [FeeTierTable.only, FeeTierTable.feesFor, FeeTierTable.tiers]

/-- A market takes at least what it takes under any tier, and offers no more. -/
def TakesMost (onChain : FeeTierTable) (feeOn : ℕ → ℕ) (out : Bool → UInt64 → Option ℕ)
    (feeUnder : PumpFees → ℕ → ℕ) (outUnder : PumpFees → Bool → UInt64 → Option ℕ) : Prop :=
  ∀ tier ∈ onChain.tiers, (∀ amount ≤ u64Max, feeUnder tier.2 amount ≤ feeOn amount) ∧
    ∀ inputIsBase amountIn, NeverAbove (out inputIsBase amountIn) (outUnder tier.2 inputIsBase amountIn)

namespace PumpAmmMarket

variable (market : PumpAmmMarket) (onChain : FeeTierTable)

/-- The table of the fee programme was not read, or it was and there is no market cap. -/
def Unread : Prop :=
  market.tiers = none ∨ market.tiers = some onChain ∧ market.marketCap = none

/-- The same pool where one tier applies. -/
def under (fees : PumpFees) : PumpAmmMarket := { market with tiers := some (.only fees) }

def Conservative : Prop :=
  TakesMost onChain market.quoteFeeOn market.expectedOut (fun fees => (market.under fees).quoteFeeOn)
    fun fees => (market.under fees).expectedOut

/-- The rates that stand in for the tier. -/
def standIn : PumpFees := (market.tiers.map FeeTierTable.mostExpensive).getD market.flatFees

lemma fees_under (fees : PumpFees) :
    (market.under fees).fees = if market.chargesCreatorFee then fees else market.flatFees := by
  have hcharges : (market.under fees).chargesCreatorFee = market.chargesCreatorFee := rfl
  rw [PumpAmmMarket.fees, hcharges]
  cases (market.under fees).marketCap with
  | none => rfl
  | some cap => simp only [under, feesFor_only]

variable {market onChain}

lemma Unread.fees_eq (h : market.Unread onChain) :
    market.fees = if market.chargesCreatorFee then market.standIn else market.flatFees := by
  unfold PumpAmmMarket.fees standIn
  rcases h with hnone | ⟨hsome, hcap⟩
  · rw [hnone]
    rfl
  · rw [hsome, hcap]
    rfl

lemma conservative_iff_covers : market.Conservative onChain ↔ ∀ tier ∈ onChain.tiers,
    market.fees.Covers (market.under tier.2).fees market.chargesCreatorFee := by
  refine forall₂_congr fun tier _ => ⟨And.left,
    fun hcovers => ⟨hcovers, fun inputIsBase amountIn => ?_⟩⟩
  cases inputIsBase
  · refine NeverAbove.map ?_ (hcovers.netFor ((netOfFee_le _ _).trans (toNat_le_u64Max amountIn)))
    exact (netOfFee_mono _).comp (constantProductOut_mono _ _)
  · exact hcovers.sub_feeOn (netOfFee_mono _) ((min_le_right _ _).trans (toNat_le_u64Max _))

end PumpAmmMarket

namespace PumpLegacyMarket

variable (market : PumpLegacyMarket) (onChain : FeeTierTable)

/-- The table of the fee programme was not read, or it was and there is no market cap. -/
def Unread : Prop :=
  market.tiers = none ∨ market.tiers = some onChain ∧ market.marketCap = none

/-- The same curve where one tier applies. -/
def under (fees : PumpFees) : PumpLegacyMarket := { market with tiers := some (.only fees) }

def Conservative : Prop :=
  TakesMost onChain market.feeOn market.expectedOut (fun fees => (market.under fees).feeOn)
    fun fees => (market.under fees).expectedOut

/-- The rates that stand in for the tier. -/
def standIn : PumpFees := (market.tiers.map FeeTierTable.mostExpensive).getD ⟨0, 0, 0⟩

@[simp] lemma fees_under (fees : PumpFees) : (market.under fees).fees = fees := by
  rw [PumpLegacyMarket.fees]
  cases (market.under fees).marketCap with
  | none => rfl
  | some cap => exact feesFor_only fees cap

variable {market onChain}

lemma Unread.fees_eq (h : market.Unread onChain) : market.fees = market.standIn := by
  unfold PumpLegacyMarket.fees standIn
  rcases h with hnone | ⟨hsome, hcap⟩
  · rw [hnone]
    rfl
  · rw [hsome, hcap]
    rfl

lemma conservative_iff_covers : market.Conservative onChain ↔ ∀ tier ∈ onChain.tiers,
    market.fees.Covers (market.under tier.2).fees market.creatorSet := by
  refine forall₂_congr fun tier _ => ⟨And.left,
    fun hcovers => ⟨hcovers, fun inputIsBase amountIn => ?_⟩⟩
  cases inputIsBase
  · refine NeverAbove.map ?_ (hcovers.netFor (toNat_le_u64Max amountIn))
    intro net net' hnet
    exact netOfFee_mono _ (min_le_min_right _ (constantProductOut_mono _ _ hnet))
  · exact hcovers.sub_feeOn monotone_id ((min_le_right _ _).trans (toNat_le_u64Max _))

end PumpLegacyMarket

/-- The first tier takes a larger part of a whole, and less of 106. -/
def splitTiers : FeeTierTable := ⟨(0, ⟨2, 93, 30⟩), [(420000000000, ⟨20, 5, 95⟩)]⟩

/-- A pool whose base mint has no supply, so that it has no market cap. -/
def unsupplied : PumpAmmMarket :=
  ⟨repeated 1, 0, some splitTiers, ⟨25, 5, 0⟩, 0, 1000000, 1000000, none, none⟩

/-- At the largest spend the middle of the search does not fit 64 bits. -/
theorem not_spent :
    ¬∀ (market : PumpAmmMarket) (spend : UInt64), Spent market.fees market.chargesCreatorFee
      spend.toNat (market.swappableFromSpend spend.toNat) :=
  fun h => ((spent_netFor_iff _ _ le_rfl).1 (h unsupplied (-1))).1 rfl

end Dripline.Venues
