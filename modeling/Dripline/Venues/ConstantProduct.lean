import Dripline.Venues.PumpFun

/-!
# Constant-product venues

`direct/venues/raydium_cpmm.rs`, `raydium_amm_v4.rs`, `pumpfun_amm.rs`, `pumpfun_legacy.rs` and
`moonit.rs`. A part of what comes in is put through the formula, and a part of what that gives
arrives.

* `quotes_lawful` — the reserves keep their product, and a larger amount gives no less: but for a
  sale on Pump.fun, whose three fees may take two more than the increase.
* `moonit_roundTrip` — when a purchase on a Moonit curve and the sale of what it gives lose.

A definition without a comment is the one of its name in the file of its market.
-/

namespace Dripline.Venues

open Dripline.Pools (repeated)

/-- Source: `math.rs` -/
def feeAmount (amount rate denominator : ℕ) : ℕ :=
  if rate = 0 ∨ denominator = 0 then 0 else min (ceilDiv (amount * rate) denominator) amount

/-- A quote: the reserves that price it, what the vault holds of the output, what reaches the
formula, what leaves the vault and what arrives. -/
structure Fill where
  reserveIn : ℕ
  reserveOut : ℕ
  held : ℕ
  swapped : ℕ
  gross : ℕ
  expectedOut : ℕ
  deriving DecidableEq

/-- The formula, with what limits its result and what is then kept of it. -/
def Fill.priced (reserveIn reserveOut held : ℕ) (limit net : ℕ → ℕ) (swapped : ℕ) : Fill :=
  let gross := limit (constantProductOut reserveIn reserveOut swapped)
  ⟨reserveIn, reserveOut, held, swapped, gross, net gross⟩

/-! ## The markets -/

/-- One side of a pool: its vault, what is not part of the reserve, and the fee of its mint. -/
structure CpmmSide where
  vaultBalance : UInt64
  protocolFees : UInt64
  fundFees : UInt64
  creatorFees : UInt64
  transferFee : Option TransferFeeSchedule

/-- Source: `CpmmMarket::reserves` -/
def CpmmSide.reserve (side : CpmmSide) : ℕ :=
  side.vaultBalance.toNat - side.protocolFees.toNat - side.fundFees.toNat - side.creatorFees.toNat

structure CpmmMarket where
  side0 : CpmmSide
  side1 : CpmmSide
  creatorFeeEnabled : Bool
  tradeFeeRate : UInt64
  creatorFeeRate : UInt64

def CpmmMarket.inputFeeRate (market : CpmmMarket) : ℕ :=
  if market.creatorFeeEnabled then
    min (market.tradeFeeRate.toNat + market.creatorFeeRate.toNat) u64Max
  else market.tradeFeeRate.toNat

def CpmmMarket.quote (market : CpmmMarket) (inputIs0 : Bool) (amountIn : UInt64) : Option Fill :=
  let input := if inputIs0 then market.side0 else market.side1
  let output := if inputIs0 then market.side1 else market.side0
  let received := netOfFee input.transferFee amountIn.toNat
  if input.reserve = 0 ∨ output.reserve = 0 ∨ received = 0 then none
  else
    some (.priced input.reserve output.reserve output.reserve id (netOfFee output.transferFee)
      (received - feeAmount received market.inputFeeRate 1000000))

structure AmmV4Market where
  coinBalance : UInt64
  pcBalance : UInt64
  needTakePnlCoin : UInt64
  needTakePnlPc : UInt64
  swapFeeNumerator : UInt64
  swapFeeDenominator : UInt64

/-- Source: `AmmV4Market::reserves` -/
def AmmV4Market.reserve (market : AmmV4Market) (coin : Bool) : ℕ :=
  if coin then market.coinBalance.toNat - market.needTakePnlCoin.toNat
  else market.pcBalance.toNat - market.needTakePnlPc.toNat

def AmmV4Market.quote (market : AmmV4Market) (inputIsCoin : Bool) (amountIn : UInt64) :
    Option Fill :=
  let reserveIn := market.reserve inputIsCoin
  let reserveOut := market.reserve !inputIsCoin
  if reserveIn = 0 ∨ reserveOut = 0 then none
  else
    some (.priced reserveIn reserveOut reserveOut id id (amountIn.toNat -
      feeAmount amountIn.toNat market.swapFeeNumerator.toNat market.swapFeeDenominator.toNat))

def PumpAmmMarket.quote (market : PumpAmmMarket) (inputIsBase : Bool) (amountIn : UInt64) :
    Option Fill :=
  let base := market.baseReserve.toNat
  let held := market.quoteReserve.toNat
  if base = 0 ∨ held = 0 then none
  else
    (if inputIsBase then
      some (Fill.priced base market.effectiveQuoteReserve held (min · held)
        (fun gross => netOfFee market.transferFeeQuote (gross - market.quoteFeeOn gross))
        (netOfFee market.transferFeeBase amountIn.toNat))
    else
      (market.swappableFromSpend (netOfFee market.transferFeeQuote amountIn.toNat)).map
        (.priced market.effectiveQuoteReserve base base id (netOfFee market.transferFeeBase))).filter
      fun fill => fill.expectedOut ≠ 0 ∧ fill.expectedOut < fill.held

def PumpLegacyMarket.quote (market : PumpLegacyMarket) (inputIsBase : Bool) (amountIn : UInt64) :
    Option Fill :=
  let tokens := market.virtualTokenReserves.toNat
  let sol := market.virtualSolReserves.toNat
  if tokens = 0 ∨ sol = 0 then none
  else
    (if inputIsBase then
      some (Fill.priced tokens sol market.realSolReserves.toNat (min · market.realSolReserves.toNat)
        (fun gross => gross - market.feeOn gross) (netOfFee market.transferFee amountIn.toNat))
    else
      (market.netForSpend amountIn.toNat).map
        (.priced sol tokens market.realTokenReserves.toNat (min · market.realTokenReserves.toNat)
          (netOfFee market.transferFee))).filter
      fun fill => fill.expectedOut ≠ 0

variable {inputIsBase : Bool} {amountIn : UInt64} {fill : Fill}

/-! ## Product and order -/

/-- Less arrives than the reserve that prices it, no more leaves than the vault holds, and the
product of the reserves is kept, without the fees that stay. -/
def Fill.Sound (fill : Fill) : Prop :=
  fill.expectedOut < fill.reserveOut ∧ fill.gross ≤ fill.held ∧
    fill.reserveIn * fill.reserveOut ≤
      (fill.reserveIn + fill.swapped) * (fill.reserveOut - fill.gross)

/-- What a quote gives is sound, and of a larger amount no less leaves, nor arrives but for `slack`. -/
def Lawful (slack : ℕ) (quote : UInt64 → Option Fill) : Prop :=
  (∀ amount, ∀ fill ∈ quote amount, fill.Sound) ∧
    ∀ amount amount', amount ≤ amount' → ∀ fill ∈ quote amount, ∀ fill' ∈ quote amount',
      fill.gross ≤ fill'.gross ∧ fill.expectedOut ≤ fill'.expectedOut + slack

lemma constantProductOut_spec (reserveIn : ℕ) {reserveOut : ℕ} (hout : 0 < reserveOut) (swapped : ℕ) :
    constantProductOut reserveIn reserveOut swapped < reserveOut ∧
      constantProductOut reserveIn reserveOut swapped * (reserveIn + swapped) ≤
        reserveOut * swapped := by
  unfold constantProductOut
  split_ifs with hnone
  · exact ⟨hout, by simp⟩
  · refine ⟨by omega, (Nat.mul_le_mul_right _ (min_le_left _ _)).trans ?_⟩
    exact Nat.div_mul_le_self _ _

lemma lawful_of_priced {quote : UInt64 → Option Fill} {reserveIn reserveOut held slack : ℕ}
    {limit net : ℕ → ℕ} {swapped : UInt64 → Option ℕ} (hlimit : Monotone limit)
    (hless : ∀ n < reserveOut, limit n ≤ n ∧ limit n ≤ held) (hnet : ∀ n, net n ≤ n)
    (hslack : ∀ n n', n ≤ n' → net n ≤ net n' + slack)
    (hswapped : ∀ amount amount', amount ≤ amount' → ∀ n ∈ swapped amount,
      ∀ n' ∈ swapped amount', n ≤ n')
    (hquote : ∀ amount, ∀ fill ∈ quote amount, 0 < reserveOut ∧
      ∃ n ∈ swapped amount, Fill.priced reserveIn reserveOut held limit net n = fill) :
    Lawful slack quote := by
  constructor
  · intro amount fill hfill
    obtain ⟨hout, n, -, rfl⟩ := hquote amount fill hfill
    obtain ⟨hbelow, hproduct⟩ := constantProductOut_spec reserveIn hout n
    obtain ⟨hle, hheld⟩ := hless _ hbelow
    refine ⟨((hnet _).trans hle).trans_lt hbelow, hheld, ?_⟩
    have hpaid := (Nat.mul_le_mul_right (reserveIn + n) hle).trans hproduct
    simp only [Fill.priced]
    generalize limit _ = gross at hpaid ⊢
    rw [Nat.mul_sub, Nat.mul_comm _ gross, Nat.add_mul, Nat.mul_comm n]
    omega
  · intro amount amount' hamount fill hfill fill' hfill'
    obtain ⟨-, n, hn, rfl⟩ := hquote amount fill hfill
    obtain ⟨-, n', hn', rfl⟩ := hquote amount' fill' hfill'
    have hgross := hlimit (constantProductOut_mono reserveIn reserveOut
      (hswapped amount amount' hamount n hn n' hn'))
    exact ⟨hgross, hslack _ _ hgross⟩

/-! ## Fees and what is left of an increase -/

/-- Of `k` shares each rounded up, an increase leaves the rest no more than `k - 1` lower. -/
lemma sub_le_of_shares {whole rate n n' fee fee' k : ℕ} (hwhole : 0 < whole) (hn : n ≤ n')
    (hk : 0 < k) (hfee : n * rate ≤ fee * whole)
    (hfee' : fee' * whole + k ≤ n' * rate + k * whole) : n - fee ≤ n' - fee' + (k - 1) := by
  rcases Nat.le_total whole rate with hrate | hrate
  · have hall : n * whole ≤ fee * whole := (Nat.mul_le_mul_left n hrate).trans hfee
    have hnone : n ≤ fee := Nat.le_of_mul_le_mul_right hall hwhole
    omega
  · obtain ⟨more, rfl⟩ := Nat.exists_eq_add_of_le hn
    have hmore : more * rate ≤ more * whole := Nat.mul_le_mul_left more hrate
    have hshort : fee' * whole < (fee + more + k) * whole := by
      rw [Nat.add_mul] at hfee'
      rw [Nat.add_mul, Nat.add_mul]
      omega
    have hless := Nat.lt_of_mul_lt_mul_right hshort
    omega

lemma sub_feeAmount_mono (rate denominator : ℕ) :
    Monotone fun amount => amount - feeAmount amount rate denominator := by
  intro n n' hn
  simp only [feeAmount]
  split_ifs with hfree
  · exact hn
  · have hpos : 0 < denominator := by omega
    obtain ⟨hfee, -⟩ := @ceilDiv_spec (n * rate) denominator hpos
    obtain ⟨-, hfee'⟩ := @ceilDiv_spec (n' * rate) denominator hpos
    have hone : ceilDiv (n' * rate) denominator * denominator + 1 ≤
        n' * rate + 1 * denominator := by omega
    have hrest := sub_le_of_shares hpos hn one_pos hfee hone
    omega

lemma charge_bounds (amount : ℕ) (bps : UInt64) :
    amount * bps.toNat ≤ charge amount bps * 10000 ∧
      charge amount bps * 10000 + 1 ≤ amount * bps.toNat + 10000 := by
  unfold charge shareOf
  split_ifs with hpos
  · omega
  · obtain rfl : bps = 0 := UInt64.le_zero_iff.1 (UInt64.not_lt.1 hpos)
    simp

lemma sub_feeOn_le (fees : PumpFees) (creator : Bool) {gross gross' : ℕ} (hgross : gross ≤ gross') :
    gross - fees.feeOn creator gross ≤ gross' - fees.feeOn creator gross' + 2 := by
  have hrest := @sub_le_of_shares 10000
    (fees.lpBps.toNat + fees.protocolBps.toNat + if creator then fees.creatorBps.toNat else 0)
    gross gross' (fees.dueOn creator gross) (fees.dueOn creator gross') 3 (by norm_num) hgross
    (by norm_num)
  unfold PumpFees.feeOn
  suffices hdue : ∀ amount, amount * _ ≤ fees.dueOn creator amount * 10000 ∧
      fees.dueOn creator amount * 10000 + 3 ≤ amount * _ + 3 * 10000 by
    have h := hrest (hdue gross).1 (hdue gross').2
    omega
  intro amount
  have hlp := charge_bounds amount fees.lpBps
  have hprotocol := charge_bounds amount fees.protocolBps
  have hcreator := charge_bounds amount fees.creatorBps
  unfold PumpFees.dueOn
  rw [Nat.mul_add, Nat.mul_add]
  split_ifs <;> omega

variable {n' n : ℕ}

lemma netOfFee_le_add (schedule : Option TransferFeeSchedule) {more : ℕ} (h : n ≤ n' + more) :
    netOfFee schedule n ≤ netOfFee schedule n' + more := by
  refine (netOfFee_mono schedule h).trans ?_
  rcases schedule with _ | ⟨bps, maximum⟩
  · exact le_rfl
  · have hshare := @shareOf_le_shareOf n' (n' + more) bps bps (Nat.le_add_right _ _) le_rfl
    simp only [netOfFee, Option.map_some, Option.getD_some, TransferFeeSchedule.netOfFee,
      TransferFeeSchedule.feeOn]
    split_ifs <;> omega

lemma netFor_mono (fees : PumpFees) (creator : Bool) {spend spend' : ℕ} (hspend : spend ≤ spend')
    (hword : spend' ≤ u64Max) (hn : n ∈ netFor fees creator spend)
    (hn' : n' ∈ netFor fees creator spend') : n ≤ n' := by
  rcases hword.eq_or_lt with rfl | hword
  · rw [netFor, search_eq_none _ le_rfl] at hn'
    cases hn'
  · obtain ⟨best, hbest, heq⟩ := exists_netFor fees creator (hspend.trans_lt hword)
    obtain ⟨best', hbest', heq'⟩ := exists_netFor fees creator hword
    rw [heq] at hn
    rw [heq'] at hn'
    obtain rfl := Option.some.inj hn
    obtain rfl := Option.some.inj hn'
    have hle : best ≤ best' := (hbest' best).1 (((hbest best).2 le_rfl).trans hspend)
    exact Nat.sub_le_sub_right hle 1

/-! ## Each venue -/

lemma CpmmMarket.lawful (market : CpmmMarket) (inputIs0 : Bool) :
    Lawful 0 (market.quote inputIs0) := by
  let input := if inputIs0 then market.side0 else market.side1
  let output := if inputIs0 then market.side1 else market.side0
  refine @lawful_of_priced _ input.reserve output.reserve output.reserve 0 id
    (netOfFee output.transferFee)
    (fun amountIn =>
      let received := netOfFee input.transferFee amountIn.toNat
      some (received - feeAmount received market.inputFeeRate 1000000))
    monotone_id (fun n hn => ⟨le_rfl, hn.le⟩) (netOfFee_le _) (fun n n' hn => netOfFee_mono _ hn) ?_ ?_
  · rintro amount amount' hamount n ⟨⟩ n' ⟨⟩
    exact sub_feeAmount_mono _ _ (netOfFee_mono _ hamount)
  · intro amount fill hfill
    unfold quote at hfill
    rw [Option.mem_def, Option.ite_none_left_eq_some] at hfill
    exact ⟨Nat.pos_of_ne_zero fun h => hfill.1 (.inr (.inl h)), _, rfl, Option.some.inj hfill.2⟩

lemma AmmV4Market.lawful (market : AmmV4Market) (inputIsCoin : Bool) :
    Lawful 0 (market.quote inputIsCoin) := by
  refine @lawful_of_priced _ (market.reserve inputIsCoin) (market.reserve !inputIsCoin)
    (market.reserve !inputIsCoin) 0 id id
    (fun amountIn => some (amountIn.toNat -
      feeAmount amountIn.toNat market.swapFeeNumerator.toNat market.swapFeeDenominator.toNat))
    monotone_id (fun n hn => ⟨le_rfl, hn.le⟩) (fun n => le_rfl) (fun n n' hn => hn) ?_ ?_
  · rintro amount amount' hamount n ⟨⟩ n' ⟨⟩
    exact sub_feeAmount_mono _ _ hamount
  · intro amount fill hfill
    unfold quote at hfill
    rw [Option.mem_def, Option.ite_none_left_eq_some] at hfill
    exact ⟨by omega, _, rfl, Option.some.inj hfill.2⟩

lemma PumpAmmMarket.lawful (market : PumpAmmMarket) (inputIsBase : Bool) :
    Lawful (if inputIsBase then 2 else 0) (market.quote inputIsBase) := by
  have hheld : market.quoteReserve.toNat ≤ market.effectiveQuoteReserve :=
    le_min (Nat.le_add_right _ _) (toNat_le_u64Max _)
  cases inputIsBase
  · refine @lawful_of_priced _ market.effectiveQuoteReserve market.baseReserve.toNat
      market.baseReserve.toNat 0 id (netOfFee market.transferFeeBase)
      (fun amountIn => market.swappableFromSpend (netOfFee market.transferFeeQuote amountIn.toNat))
      monotone_id (fun n hn => ⟨le_rfl, hn.le⟩) (netOfFee_le _) (fun n n' hn => netOfFee_mono _ hn)
      ?_ ?_
    · intro amount amount' hamount n hn n' hn'
      refine netFor_mono _ _ (netOfFee_mono _ hamount) ?_ hn hn'
      exact (netOfFee_le _ _).trans (toNat_le_u64Max amount')
    · intro amount fill hfill
      unfold quote at hfill
      rw [Option.mem_def, Option.ite_none_left_eq_some, Option.filter_eq_some_iff] at hfill
      exact ⟨by omega, Option.map_eq_some_iff.1 hfill.2.1⟩
  · refine @lawful_of_priced _ market.baseReserve.toNat market.effectiveQuoteReserve
      market.quoteReserve.toNat 2 (min · market.quoteReserve.toNat)
      (fun gross => netOfFee market.transferFeeQuote (gross - market.quoteFeeOn gross))
      (fun amountIn => some (netOfFee market.transferFeeBase amountIn.toNat))
      (fun n n' hn => min_le_min_right _ hn) (fun n hn => ⟨min_le_left _ _, min_le_right _ _⟩)
      (fun n => (netOfFee_le _ _).trans (Nat.sub_le _ _))
      (fun n n' hn => netOfFee_le_add _ (sub_feeOn_le _ _ hn)) ?_ ?_
    · rintro amount amount' hamount n ⟨⟩ n' ⟨⟩
      exact netOfFee_mono _ hamount
    · intro amount fill hfill
      unfold quote at hfill
      rw [Option.mem_def, Option.ite_none_left_eq_some, Option.filter_eq_some_iff] at hfill
      exact ⟨by omega, _, rfl, Option.some.inj hfill.2.1⟩

lemma PumpLegacyMarket.lawful (market : PumpLegacyMarket) (inputIsBase : Bool) :
    Lawful (if inputIsBase then 2 else 0) (market.quote inputIsBase) := by
  have hlimit : ∀ held : ℕ, Monotone (min · held) := fun held n n' hn => min_le_min_right held hn
  cases inputIsBase
  · refine @lawful_of_priced _ market.virtualSolReserves.toNat market.virtualTokenReserves.toNat
      market.realTokenReserves.toNat 0 _ (netOfFee market.transferFee)
      (fun amountIn => market.netForSpend amountIn.toNat) (hlimit market.realTokenReserves.toNat)
      (fun n hn => ⟨min_le_left _ _, min_le_right _ _⟩) (netOfFee_le _)
      (fun n n' hn => netOfFee_mono _ hn) ?_ ?_
    · intro amount amount' hamount n hn n' hn'
      exact netFor_mono _ _ hamount (toNat_le_u64Max amount') hn hn'
    · intro amount fill hfill
      unfold quote at hfill
      rw [Option.mem_def, Option.ite_none_left_eq_some, Option.filter_eq_some_iff] at hfill
      exact ⟨by omega, Option.map_eq_some_iff.1 hfill.2.1⟩
  · refine @lawful_of_priced _ market.virtualTokenReserves.toNat market.virtualSolReserves.toNat
      market.realSolReserves.toNat 2 _ (fun gross => gross - market.feeOn gross)
      (fun amountIn => some (netOfFee market.transferFee amountIn.toNat))
      (hlimit market.realSolReserves.toNat) (fun n hn => ⟨min_le_left _ _, min_le_right _ _⟩)
      (fun n => Nat.sub_le _ _) (fun n n' hn => sub_feeOn_le _ _ hn) ?_ ?_
    · rintro amount amount' hamount n ⟨⟩ n' ⟨⟩
      exact netOfFee_mono _ hamount
    · intro amount fill hfill
      unfold quote at hfill
      rw [Option.mem_def, Option.ite_none_left_eq_some, Option.filter_eq_some_iff] at hfill
      exact ⟨by omega, _, rfl, Option.some.inj hfill.2.1⟩

/-- **Every quote keeps the product and stays below the reserve that prices it, and a larger amount
gives no less**; what arrives of a sale on Pump.fun may be up to two less. -/
theorem quotes_lawful (cpmm : CpmmMarket) (ammV4 : AmmV4Market) (amm : PumpAmmMarket)
    (legacy : PumpLegacyMarket) (side : Bool) :
    Lawful 0 (cpmm.quote side) ∧ Lawful 0 (ammV4.quote side) ∧
      Lawful (if side then 2 else 0) (amm.quote side) ∧
      Lawful (if side then 2 else 0) (legacy.quote side) :=
  ⟨cpmm.lawful side, ammV4.lawful side, amm.lawful side, legacy.lawful side⟩

/-- A pool with a creator, whose rates round up three times at 10,001. -/
def creatorPool : PumpAmmMarket :=
  ⟨repeated 1, 0, none, ⟨20, 5, 5⟩, 0, 1000000, 1000000, none, none⟩

theorem not_lawful : ¬∀ (market : PumpAmmMarket) (side : Bool), Lawful 0 (market.quote side) := by
  intro h
  have hless := ((h creatorPool true).2 10102 10103 (by decide) _ rfl _ rfl).2
  revert hless
  decide

/-! ## A round trip on Moonit -/

namespace Moonit

def initialVirtualTokenReserves : ℕ := 1073000000000000000

def initialVirtualCollateralReserves : ℕ := 30000000000

/-- Source: `constant_product`, of `current_reserves`, `buy_in_collateral` and `sell_in_token` -/
def constantProduct : ℕ := initialVirtualTokenReserves * initialVirtualCollateralReserves

/-- The virtual tokens and collateral. -/
def currentReserves (curvePosition : ℕ) : Option (ℕ × ℕ) :=
  if initialVirtualTokenReserves ≤ curvePosition then none
  else
    some (initialVirtualTokenReserves - curvePosition,
      constantProduct / (initialVirtualTokenReserves - curvePosition))

/-- What one side of a curve gives for an amount on the other.
Source: `buy_in_collateral`, `sell_in_token` -/
def traded (reserveIn reserveOut amountIn : ℕ) : Option ℕ :=
  let left := constantProduct / (reserveIn + amountIn)
  if reserveIn + amountIn = 0 ∨ reserveOut < left then none else some (reserveOut - left)

def buyInCollateral (netCollateral curvePosition : ℕ) : Option ℕ :=
  (currentReserves curvePosition).bind fun (vtr, vcr) => traded vcr vtr netCollateral

def sellInToken (tokenAmount curvePosition : ℕ) : Option ℕ :=
  (currentReserves curvePosition).bind fun (vtr, vcr) => traded vtr vcr tokenAmount

def feeOnGross (gross : ℕ) (feeBps : UInt16) : ℕ := min (gross * feeBps.toNat / 10000) gross

end Moonit

open Moonit

/-- With the supply and the amount of its `curve`. -/
structure MoonitMarket where
  totalSupply : UInt64
  curveAmount : UInt64
  feeBps : UInt16

namespace MoonitMarket

variable (market : MoonitMarket)

def curvePosition : ℕ := market.totalSupply.toNat - market.curveAmount.toNat

/-- Source: `quote`, `net_collateral` -/
def netCollateral (collateral : ℕ) : ℕ := collateral - feeOnGross collateral market.feeBps

/-- Source: `quote`, `gross` and `tokens` -/
def paid (inputIsBase : Bool) (amountIn : ℕ) : Option ℕ :=
  if inputIsBase then sellInToken amountIn market.curvePosition
  else buyInCollateral (market.netCollateral amountIn) market.curvePosition

/-- Source: `quote`, `expected_out` -/
def quote (inputIsBase : Bool) (amountIn : UInt64) : Option ℕ :=
  (currentReserves market.curvePosition).bind fun (vtr, vcr) =>
    (market.paid inputIsBase amountIn.toNat).bind fun paid =>
      let out := if inputIsBase then paid - feeOnGross paid market.feeBps else paid
      if amountIn = 0 ∨ u64Max < paid ∨ out = 0 ∨ u64Max < vtr ∨ u64Max < vcr then none else some out

/-- What the curve has of the output, virtually. -/
def reserveOut (inputIsBase : Bool) : ℕ :=
  let vtr := initialVirtualTokenReserves - market.curvePosition
  if inputIsBase then constantProduct / vtr else vtr

/-- The virtual collateral a purchase leads to. -/
def reached (collateral : ℕ) : ℕ := market.reserveOut true + market.netCollateral collateral

/-- What rounding the tokens that are left, and the collateral they price, adds to it. -/
def excess (collateral : ℕ) : ℕ :=
  constantProduct / (constantProduct / market.reached collateral) - market.reached collateral

/-- A purchase, and the sale of what it gives at the position it leads to. -/
structure RoundTrip (after : MoonitMarket) (collateral tokens : UInt64) (back : ℕ) : Prop where
  bought : market.quote false collateral = some tokens.toNat
  moved : after.curvePosition = market.curvePosition + tokens.toNat
  sameFee : after.feeBps = market.feeBps
  sold : after.quote true tokens = some back

variable {market}

lemma quote_eq_some {inputIsBase : Bool} {amountIn : UInt64} {out : ℕ}
    (h : market.quote inputIsBase amountIn = some out) :
    market.curvePosition < initialVirtualTokenReserves ∧ ∃ paid,
      traded (market.reserveOut !inputIsBase) (market.reserveOut inputIsBase)
        (if inputIsBase then amountIn.toNat else market.netCollateral amountIn.toNat) = some paid ∧
      out = if inputIsBase then paid - feeOnGross paid market.feeBps else paid := by
  obtain ⟨reserves, hreserves, h⟩ := Option.bind_eq_some_iff.1 h
  obtain ⟨paid, hpaid, h⟩ := Option.bind_eq_some_iff.1 h
  have hposition := Nat.lt_of_not_le (Option.ite_none_left_eq_some.1 hreserves).1
  refine ⟨hposition, paid, ?_, (Option.some.inj (Option.ite_none_left_eq_some.1 h).2).symm⟩
  cases inputIsBase
  · obtain ⟨priced, hpriced, htraded⟩ := Option.bind_eq_some_iff.1 hpaid
    obtain rfl := Option.some.inj (Option.ite_none_left_eq_some.1 hpriced).2
    exact htraded
  · obtain ⟨priced, hpriced, htraded⟩ := Option.bind_eq_some_iff.1 hpaid
    obtain rfl := Option.some.inj (Option.ite_none_left_eq_some.1 hpriced).2
    exact htraded

lemma traded_eq_some {reserveIn reserveOut amountIn paid : ℕ}
    (h : traded reserveIn reserveOut amountIn = some paid) :
    paid + constantProduct / (reserveIn + amountIn) = reserveOut := by
  obtain ⟨hroom, hpaid⟩ := Option.ite_none_left_eq_some.1 h
  have hpaid := Option.some.inj hpaid
  omega

lemma RoundTrip.paid {after : MoonitMarket} {collateral tokens : UInt64} {back : ℕ}
    (h : market.RoundTrip after collateral tokens back) :
    ∃ gross, back = gross - feeOnGross gross market.feeBps ∧
      gross = market.excess collateral.toNat + market.netCollateral collateral.toNat := by
  obtain ⟨hposition, bought, hbought, htokens⟩ := quote_eq_some h.bought
  obtain ⟨hafter, gross, hgross, hback⟩ := quote_eq_some h.sold
  have hbuy := traded_eq_some hbought
  have hsell := traded_eq_some hgross
  simp only [Bool.not_false, Bool.not_true, Bool.false_eq_true, if_false, if_true, reserveOut,
    h.moved, h.sameFee] at hbuy hsell hback htokens hafter
  subst htokens
  refine ⟨gross, hback, ?_⟩
  unfold excess reached reserveOut
  rw [if_pos rfl]
  generalize market.netCollateral collateral.toNat = net at *
  have hleft : initialVirtualTokenReserves - (market.curvePosition + tokens.toNat) =
      constantProduct / (constantProduct / (initialVirtualTokenReserves - market.curvePosition) +
        net) := by
    omega
  have hwhole : initialVirtualTokenReserves - (market.curvePosition + tokens.toNat) + tokens.toNat =
      initialVirtualTokenReserves - market.curvePosition := by omega
  rw [hwhole, hleft] at hsell
  have hpos : 0 < constantProduct /
      (constantProduct / (initialVirtualTokenReserves - market.curvePosition) + net) := by omega
  have hback := (Nat.le_div_iff_mul_le hpos).2 (Nat.mul_div_le constantProduct
    (constantProduct / (initialVirtualTokenReserves - market.curvePosition) + net))
  omega

lemma excess_eq_zero {collateral : ℕ}
    (h : market.reached collateral * market.reached collateral ≤ constantProduct) :
    market.excess collateral = 0 := by
  unfold excess
  generalize market.reached collateral = m at h
  rcases Nat.eq_zero_or_pos m with rfl | hpos
  · simp
  · have hleft : m ≤ constantProduct / m := (Nat.le_div_iff_mul_le hpos).2 h
    have hrest := Nat.div_add_mod constantProduct m
    have hmod := Nat.mod_lt constantProduct hpos
    have hless : constantProduct / (constantProduct / m) < m + 1 := by
      rw [Nat.div_lt_iff_lt_mul (by omega), Nat.add_mul, Nat.one_mul]
      omega
    omega

end MoonitMarket

/-- **No quote exceeds the virtual reserve, and a round trip gives back no more than it cost exactly
where its fees cover what the two roundings add**; they add nothing while the virtual collateral is
no more than the virtual tokens that are left. -/
theorem moonit_roundTrip (market : MoonitMarket) :
    (∀ inputIsBase amountIn out, market.quote inputIsBase amountIn = some out →
      out ≤ market.reserveOut inputIsBase) ∧
    ∀ after collateral tokens back, market.RoundTrip after collateral tokens back →
      (back ≤ collateral.toNat ↔
        market.excess collateral.toNat ≤ feeOnGross collateral.toNat market.feeBps +
          feeOnGross (market.excess collateral.toNat + market.netCollateral collateral.toNat)
            market.feeBps) ∧
      (market.reached collateral.toNat * market.reached collateral.toNat ≤ constantProduct →
        back ≤ collateral.toNat) := by
  constructor
  · intro inputIsBase amountIn out h
    obtain ⟨-, paid, hpaid, rfl⟩ := MoonitMarket.quote_eq_some h
    have hle := Nat.le.intro (MoonitMarket.traded_eq_some hpaid)
    split_ifs <;> omega
  · intro after collateral tokens back h
    obtain ⟨gross, hback, hgross⟩ := h.paid
    have hfee : feeOnGross collateral.toNat market.feeBps ≤ collateral.toNat := min_le_right _ _
    have hnet : market.netCollateral collateral.toNat =
        collateral.toNat - feeOnGross collateral.toNat market.feeBps := rfl
    rw [← hgross]
    refine ⟨by omega, fun hsmall => ?_⟩
    have hexcess := MoonitMarket.excess_eq_zero hsmall
    omega

/-- A curve whose supply is one below the virtual tokens, 10,000,000,000 of which are left. -/
def crowdedCurve : MoonitMarket := ⟨1072999999999999999, 9999999999, 100⟩

/-- One lamport buys one unit, which sells for 318,681,000. -/
theorem not_moonit_roundTrip : ¬∀ (market after : MoonitMarket) (collateral tokens : UInt64)
    (back : ℕ), market.RoundTrip after collateral tokens back → back ≤ collateral.toNat := by
  intro h
  have hback := h crowdedCurve ⟨1072999999999999999, 9999999998, 100⟩ 1 1 318681000
    ⟨by decide, by decide, rfl, by decide⟩
  exact absurd hback (by decide)

end Dripline.Venues
