import Dripline.Found.Outcome
import Dripline.Venues.ClmmCurve

/-!
# What a walk over ticks has done
-/

namespace Dripline.Venues

open List

open Dripline.Found (bind_eq_ok along along_nonneg add_le_along le_along)
open Dripline.Swaps (DirectSwapError Pubkey)

@[simp] lemma orQuoteMath_eq_ok {α : Type} {detail : String} {answer : Option α} {a : α} :
    orQuoteMath detail answer = .ok a ↔ answer = some a := by
  cases answer <;> simp [orQuoteMath]

lemma checkedShl64_spec {value shifted : ℕ} (h : checkedShl64 value = some shifted) :
    shifted ≤ value * 2 ^ 64 ∧ (value < 2 ^ 64 → shifted = value * 2 ^ 64) := by
  obtain rfl := Option.some.inj h
  exact ⟨Nat.mod_le _ _, fun hsmall => Nat.mod_eq_of_lt (by omega)⟩

lemma word_two_pow_64 : Word (2 ^ 64) := by
  unfold Word
  norm_num

/-! ## One stretch in integers -/

variable {liquidity sqrtFrom sqrtTo amount : ℕ}

lemma inputForMove_falling (hliquidity : liquidity < 2 ^ 64) (hword : Word sqrtFrom)
    (hto : 0 < sqrtTo) (hle : sqrtTo ≤ sqrtFrom)
    (h : inputForMove true liquidity sqrtFrom sqrtTo = .ok amount) :
    liquidity * 2 ^ 64 * (sqrtFrom - sqrtTo) ≤ amount * (sqrtTo * sqrtFrom) ∧
      amount * (sqrtTo * sqrtFrom) <
        liquidity * 2 ^ 64 * (sqrtFrom - sqrtTo) + sqrtTo * sqrtFrom := by
  have hfrom : 0 < sqrtFrom := by omega
  have hprod : 0 < sqrtTo * sqrtFrom := Nat.mul_pos hto hfrom
  simp only [inputForMove, if_true] at h
  split at h
  · rename_i hback
    obtain rfl := Except.ok.inj h
    have hspread : sqrtFrom - sqrtTo = 0 := by omega
    rw [hspread]
    omega
  · obtain ⟨numerator, hnumerator, h⟩ := bind_eq_ok.mp h
    obtain ⟨step, hstep, h⟩ := bind_eq_ok.mp h
    obtain rfl := Except.ok.inj h
    rw [(checkedShl64_spec (orQuoteMath_eq_ok.mp hnumerator)).2 hliquidity] at hstep
    exact mulDivCeil_ceilDiv_spec hword hto (orQuoteMath_eq_ok.mp hstep)

lemma inputForMove_rising (hle : sqrtFrom ≤ sqrtTo)
    (h : inputForMove false liquidity sqrtFrom sqrtTo = .ok amount) :
    liquidity * (sqrtTo - sqrtFrom) ≤ amount * 2 ^ 64 ∧
      amount * 2 ^ 64 < liquidity * (sqrtTo - sqrtFrom) + 2 ^ 64 := by
  simp only [inputForMove, Bool.false_eq_true, if_false] at h
  split at h
  · rename_i hback
    obtain rfl := Except.ok.inj h
    have hspread : sqrtTo - sqrtFrom = 0 := by omega
    rw [hspread]
    omega
  · obtain ⟨_, hcovers, hshort, _⟩ := mulDivCeil_spec word_two_pow_64 (orQuoteMath_eq_ok.mp h)
    exact ⟨hcovers, hshort⟩

variable {zeroForOne : Bool}

lemma inputForMove_spec (hliquidity : zeroForOne = true → liquidity < 2 ^ 64)
    (hword : Word sqrtFrom) (hfrom : 0 < sqrtFrom) (hto : 0 < sqrtTo)
    (htoward : Toward zeroForOne sqrtFrom sqrtTo)
    (h : inputForMove zeroForOne liquidity sqrtFrom sqrtTo = .ok amount) :
    exactIn zeroForOne liquidity sqrtFrom sqrtTo ≤ amount ∧
      (amount : ℚ) < exactIn zeroForOne liquidity sqrtFrom sqrtTo + 1 := by
  have hfrom' : (0 : ℚ) < sqrtFrom := by exact_mod_cast hfrom
  have hto' : (0 : ℚ) < sqrtTo := by exact_mod_cast hto
  cases zeroForOne with
  | false =>
    have hle := toward_rising.mp htoward
    obtain ⟨hcovers, hshort⟩ := inputForMove_rising hle h
    rw [← Nat.cast_le (α := ℚ)] at hcovers
    rw [← Nat.cast_lt (α := ℚ)] at hshort
    push_cast [Nat.cast_sub hle] at hcovers hshort
    simp only [exactIn, Bool.false_eq_true, if_false]
    constructor
    · rw [div_le_iff₀ (by norm_num)]
      exact hcovers
    · rw [← sub_lt_iff_lt_add, lt_div_iff₀ (by norm_num)]
      linarith
  | true =>
    have hle := toward_falling.mp htoward
    obtain ⟨hcovers, hshort⟩ := inputForMove_falling (hliquidity rfl) hword hto hle h
    rw [← Nat.cast_le (α := ℚ)] at hcovers
    rw [← Nat.cast_lt (α := ℚ)] at hshort
    push_cast [Nat.cast_sub hle] at hcovers hshort
    have hexact : exactIn true liquidity sqrtFrom sqrtTo =
        liquidity * 2 ^ 64 * (sqrtFrom - sqrtTo) / (sqrtTo * sqrtFrom : ℚ) := by
      simp only [exactIn, if_true]
      field_simp
    rw [hexact]
    constructor
    · rw [div_le_iff₀ (by positivity)]
      exact hcovers
    · rw [← sub_lt_iff_lt_add, lt_div_iff₀ (by positivity)]
      linarith

lemma outputForMove_spec {out : ℕ} (hword : Word sqrtTo) (hfrom : 0 < sqrtFrom) (hto : 0 < sqrtTo)
    (htoward : Toward zeroForOne sqrtFrom sqrtTo)
    (h : outputForMove zeroForOne liquidity sqrtFrom sqrtTo = .ok out) :
    (out : ℚ) ≤ exactOut zeroForOne liquidity sqrtFrom sqrtTo := by
  have hfrom' : (0 : ℚ) < sqrtFrom := by exact_mod_cast hfrom
  have hto' : (0 : ℚ) < sqrtTo := by exact_mod_cast hto
  have hclipped : ∀ given : ℕ, ((min given u64Max : ℕ) : ℚ) ≤ given := by
    intro given
    exact_mod_cast min_le_left _ _
  cases zeroForOne with
  | false =>
    have hle := toward_rising.mp htoward
    simp only [outputForMove, Bool.false_eq_true, if_false] at h
    obtain ⟨numerator, hnumerator, h⟩ := bind_eq_ok.mp h
    obtain ⟨intermediate, hintermediate, h⟩ := bind_eq_ok.mp h
    obtain rfl := Except.ok.inj h
    refine (hclipped _).trans ?_
    have hshifted := (checkedShl64_spec (orQuoteMath_eq_ok.mp hnumerator)).1
    have hbound : intermediate / max sqrtFrom 1 * (sqrtTo * sqrtFrom) ≤
        liquidity * 2 ^ 64 * (sqrtTo - sqrtFrom) :=
      (mulDivFloor_div_le hword hfrom (orQuoteMath_eq_ok.mp hintermediate)).trans
        (Nat.mul_le_mul_right _ hshifted)
    rw [← Nat.cast_le (α := ℚ)] at hbound
    push_cast [Nat.cast_sub hle] at hbound
    have hexact : exactOut false liquidity sqrtFrom sqrtTo =
        liquidity * 2 ^ 64 * (sqrtTo - sqrtFrom) / (sqrtTo * sqrtFrom : ℚ) := by
      simp only [exactOut, Bool.false_eq_true, if_false]
      field_simp
    rw [hexact, le_div_iff₀ (by positivity)]
    exact_mod_cast hbound
  | true =>
    have hle := toward_falling.mp htoward
    simp only [outputForMove, if_true] at h
    obtain ⟨given, hgiven, h⟩ := bind_eq_ok.mp h
    obtain rfl := Except.ok.inj h
    refine (hclipped _).trans ?_
    obtain ⟨_, rfl, _⟩ := mulDivFloor_spec word_two_pow_64 (orQuoteMath_eq_ok.mp hgiven)
    have hbound := Nat.div_mul_le_self (liquidity * (sqrtFrom - sqrtTo)) (2 ^ 64)
    rw [← Nat.cast_le (α := ℚ)] at hbound
    push_cast [Nat.cast_sub hle] at hbound
    simp only [exactOut, if_true]
    rw [le_div_iff₀ (by norm_num)]
    exact_mod_cast hbound

variable {sqrtPrice amountIn : ℕ}

lemma nextSqrtPriceFromInput_spec {next : ℕ} (hfits : zeroForOne = true → liquidity < 2 ^ 64)
    (hliquidity : 0 < liquidity) (hwordL : Word liquidity) (hprice : 0 < sqrtPrice)
    (h : nextSqrtPriceFromInput zeroForOne liquidity sqrtPrice amountIn = .ok next) :
    0 < next ∧ Word next ∧ Toward zeroForOne sqrtPrice next ∧
      Toward zeroForOne next (priceAfter zeroForOne liquidity sqrtPrice amountIn) := by
  have hprice' : (0 : ℚ) < sqrtPrice := by exact_mod_cast hprice
  have hliquidity' : (0 : ℚ) < liquidity := by exact_mod_cast hliquidity
  cases zeroForOne with
  | false =>
    simp only [nextSqrtPriceFromInput, Bool.false_eq_true, if_false] at h
    obtain ⟨delta, hdelta, h⟩ := bind_eq_ok.mp h
    obtain ⟨_, rfl, _⟩ := mulDivFloor_spec hwordL (orQuoteMath_eq_ok.mp hdelta)
    split at h
    · rename_i hword
      obtain rfl := Except.ok.inj h
      refine ⟨Nat.add_pos_left hprice _, hword, toward_rising.mpr (Nat.le_add_right _ _), ?_⟩
      have hbound := Nat.div_mul_le_self (amountIn * 2 ^ 64) liquidity
      rw [← Nat.cast_le (α := ℚ)] at hbound
      push_cast at hbound
      simp only [Toward, priceAfter, Bool.false_eq_true, if_false, Nat.cast_add]
      refine add_le_add_right ?_ _
      rw [le_div_iff₀ hliquidity']
      exact_mod_cast hbound
    · cases h
  | true =>
    simp only [nextSqrtPriceFromInput, if_true] at h
    obtain ⟨numerator, hnumerator, h⟩ := bind_eq_ok.mp h
    obtain rfl := (checkedShl64_spec (orQuoteMath_eq_ok.mp hnumerator)).2 (hfits rfl)
    split at h
    · rename_i hsum
      have hscaled : 0 < liquidity * 2 ^ 64 := Nat.mul_pos hliquidity (by norm_num)
      obtain ⟨hnext, hword, hback, hcovers⟩ :=
        mulDivCeil_back_spec hscaled hprice hsum.2 (orQuoteMath_eq_ok.mp h)
      refine ⟨hnext, hword, toward_falling.mpr hback, ?_⟩
      rw [← Nat.cast_le (α := ℚ)] at hcovers
      push_cast at hcovers
      simp only [Toward, priceAfter, if_true]
      have hexact : 1 / (1 / (sqrtPrice : ℚ) + amountIn / (liquidity * 2 ^ 64)) =
          liquidity * 2 ^ 64 * sqrtPrice / (liquidity * 2 ^ 64 + amountIn * sqrtPrice) := by
        field_simp
      rw [hexact, div_le_iff₀ (by positivity)]
      exact hcovers
    · cases h

variable {pool : Pubkey} {tick : InitializedTick}

lemma crossTick_spec {liquidity' : ℕ} (hfits : zeroForOne = true → liquidity < 2 ^ 64)
    (h : crossTick pool liquidity tick zeroForOne = .ok liquidity') :
    (liquidity' : ℤ) = liquidityPast zeroForOne liquidity tick ∧ Word liquidity' := by
  unfold crossTick at h
  cases zeroForOne with
  | false =>
    simp only [Bool.false_eq_true, if_false] at h
    split at h
    · rename_i hrange
      obtain rfl := Except.ok.inj h
      simp only [liquidityPast, Word, Bool.false_eq_true, if_false]
      omega
    · cases h
  | true =>
    have hsmall := hfits rfl
    simp only [if_true] at h
    split at h
    · rename_i hrange
      obtain rfl := Except.ok.inj h
      simp only [liquidityPast, Word, wrappingNeg, if_true] at hrange ⊢
      split_ifs at hrange ⊢ <;> omega
    · cases h

variable {feeRateDenominator feeRate : ℕ}

lemma grossUp_spec {gross : ℕ} (hword : Word feeRateDenominator)
    (h : grossUp feeRate feeRateDenominator amount = .ok gross) :
    amount ≤ gross ∧ ∀ remaining, remaining < gross →
      remaining * (feeRateDenominator - feeRate) / feeRateDenominator < amount := by
  have hleft : feeRateDenominator - feeRate ≤ feeRateDenominator := Nat.sub_le _ _
  unfold grossUp at h
  split at h
  · rename_i hzero
    obtain rfl := Except.ok.inj h
    exact ⟨by omega, fun remaining hremaining => absurd hremaining (by omega)⟩
  · have hword' : Word (feeRateDenominator - feeRate) := hleft.trans_lt hword
    obtain ⟨hpos, hcovers, hshort, _⟩ := mulDivCeil_spec hword' (orQuoteMath_eq_ok.mp h)
    constructor
    · have hscaled : amount * feeRateDenominator ≤ gross * feeRateDenominator :=
        hcovers.trans (Nat.mul_le_mul_left _ hleft)
      exact Nat.le_of_mul_le_mul_right hscaled (by omega)
    · intro remaining hremaining
      rw [Nat.div_lt_iff_lt_mul (by omega)]
      have hnext : (remaining + 1) * (feeRateDenominator - feeRate) ≤
          gross * (feeRateDenominator - feeRate) := Nat.mul_le_mul_right _ hremaining
      rw [Nat.add_mul] at hnext
      omega

/-! ## The turns -/

/-- Two states between which the turns of the loop lead. -/
inductive Walks (pool : Pubkey) (feeRate feeRateDenominator : ℕ) (zeroForOne : Bool) :
    List InitializedTick → WalkState → List Step → WalkState → Prop
  | done {candidates state} (hspent : state.remaining = 0) :
      Walks pool feeRate feeRateDenominator zeroForOne candidates state [] state
  | cross {tick candidates state target amount gross out liquidity steps ended}
      (hliquidity : 0 < state.liquidity) (hprice : 0 < state.sqrtPrice)
      (htarget : getSqrtPriceAtTick tick.tick = some target)
      (hamount : inputForMove zeroForOne state.liquidity state.sqrtPrice target = .ok amount)
      (hgross : grossUp feeRate feeRateDenominator amount = .ok gross) (hfits : gross ≤ state.remaining)
      (hout : outputForMove zeroForOne state.liquidity state.sqrtPrice target = .ok out)
      (hcross : crossTick pool state.liquidity tick zeroForOne = .ok liquidity)
      (hrest : Walks pool feeRate feeRateDenominator zeroForOne candidates
        { liquidity := liquidity
          sqrtPrice := target
          remaining := state.remaining - gross
          totalOut := state.totalOut + out
          totalFee := state.totalFee + min (gross - amount) u64Max } steps ended) :
      Walks pool feeRate feeRateDenominator zeroForOne (tick :: candidates) state
        (⟨tick, target, state.liquidity, amount, true⟩ :: steps) ended
  | stay {tick candidates state target amount gross}
      (hliquidity : 0 < state.liquidity) (hprice : 0 < state.sqrtPrice)
      (htarget : getSqrtPriceAtTick tick.tick = some target)
      (hamount : inputForMove zeroForOne state.liquidity state.sqrtPrice target = .ok amount)
      (hgross : grossUp feeRate feeRateDenominator amount = .ok gross)
        (hshort : state.remaining < gross)
      (hnothing : mulDivFloor state.remaining (feeRateDenominator - feeRate) feeRateDenominator =
        some 0) :
      Walks pool feeRate feeRateDenominator zeroForOne (tick :: candidates) state
        [⟨tick, target, state.liquidity, 0, false⟩]
        { state with totalFee := state.totalFee + state.remaining }
  | stop {tick candidates state target amount gross swappable next out}
      (hliquidity : 0 < state.liquidity) (hprice : 0 < state.sqrtPrice)
      (htarget : getSqrtPriceAtTick tick.tick = some target)
      (hamount : inputForMove zeroForOne state.liquidity state.sqrtPrice target = .ok amount)
      (hgross : grossUp feeRate feeRateDenominator amount = .ok gross)
        (hshort : state.remaining < gross)
      (hswappable : mulDivFloor state.remaining (feeRateDenominator - feeRate) feeRateDenominator =
        some swappable)
      (hnext : nextSqrtPriceFromInput zeroForOne state.liquidity state.sqrtPrice swappable = .ok next)
      (hout : outputForMove zeroForOne state.liquidity state.sqrtPrice next = .ok out) :
      Walks pool feeRate feeRateDenominator zeroForOne (tick :: candidates) state
        [⟨tick, target, state.liquidity, swappable, false⟩]
        { state with
          sqrtPrice := next
          remaining := 0
          totalOut := state.totalOut + out
          totalFee := state.totalFee + (state.remaining - swappable) }

variable {candidates : List InitializedTick} {state ended : WalkState} {steps : List Step}

lemma walks_of_walkLoop
    (h : walkLoop pool feeRate feeRateDenominator zeroForOne amountIn candidates state =
      .ok (steps, ended)) :
    Walks pool feeRate feeRateDenominator zeroForOne candidates state steps ended := by
  induction candidates generalizing state steps with
  | nil =>
    simp only [walkLoop] at h
    split_ifs at h with hspent
    obtain ⟨rfl, rfl⟩ := Prod.mk.inj (Except.ok.inj h)
    exact .done hspent
  | cons tick candidates ih =>
    simp only [walkLoop] at h
    split_ifs at h with hspent hexhausted
    · obtain ⟨rfl, rfl⟩ := Prod.mk.inj (Except.ok.inj h)
      exact .done hspent
    · obtain ⟨target, htarget, h⟩ := bind_eq_ok.mp h
      obtain ⟨amount, hamount, h⟩ := bind_eq_ok.mp h
      obtain ⟨gross, hgross, h⟩ := bind_eq_ok.mp h
      have hliquidity : 0 < state.liquidity := by omega
      have hprice : 0 < state.sqrtPrice := by omega
      rw [orQuoteMath_eq_ok] at htarget
      split_ifs at h with hfits
      · obtain ⟨out, hout, h⟩ := bind_eq_ok.mp h
        obtain ⟨liquidity, hcross, h⟩ := bind_eq_ok.mp h
        obtain ⟨rest, hrest, h⟩ := bind_eq_ok.mp h
        obtain ⟨rfl, rfl⟩ := Prod.mk.inj (Except.ok.inj h)
        exact .cross hliquidity hprice htarget hamount hgross hfits hout hcross (ih hrest)
      · obtain ⟨swappable, hswappable, h⟩ := bind_eq_ok.mp h
        rw [orQuoteMath_eq_ok] at hswappable
        have hshort : state.remaining < gross := not_le.mp hfits
        split_ifs at h with hnothing
        · subst hnothing
          obtain ⟨rfl, rfl⟩ := Prod.mk.inj (Except.ok.inj h)
          exact .stay hliquidity hprice htarget hamount hgross hshort hswappable
        · obtain ⟨next, hnext, h⟩ := bind_eq_ok.mp h
          obtain ⟨out, hout, h⟩ := bind_eq_ok.mp h
          obtain ⟨rfl, rfl⟩ := Prod.mk.inj (Except.ok.inj h)
          exact .stop hliquidity hprice htarget hamount hgross hshort hswappable hnext hout

/-! ## What the turns have done -/

/-- What the turns have taken in, net of the fee. -/
def netIn (steps : List Step) : ℕ := (steps.map (·.net)).sum

/-- The ticks that the turns have crossed. -/
def crossedTicks (steps : List Step) : List InitializedTick :=
  (steps.filter (·.crossed)).map (·.tick)

/-- A walk from one state to another: nothing that was paid is lost, the output is within the curve,
the price stays on the way, and the liquidity is that of the ticks crossed. -/
structure Walked (zeroForOne : Bool) (candidates : List InitializedTick) (state : WalkState)
    (steps : List Step) (ended : WalkState) : Prop where
  input : netIn steps + ended.totalFee = state.remaining + state.totalFee
  output : (ended.totalOut : ℚ) ≤
    state.totalOut + along (curve zeroForOne candidates state.liquidity state.sqrtPrice) (netIn steps)
  onward : Toward zeroForOne state.sqrtPrice ended.sqrtPrice
  still : steps = [] → ended.sqrtPrice = state.sqrtPrice
  reached : ∀ step ∈ steps.getLast?, Toward zeroForOne ended.sqrtPrice step.target
  passed : ∀ step ∈ steps, step.crossed = true → Toward zeroForOne step.target ended.sqrtPrice
  crossed : ∀ step ∈ steps.dropLast, step.crossed = true
  inOrder : steps.map (·.tick) <+: candidates
  liquid : (ended.liquidity : ℤ) = (crossedTicks steps).foldl (liquidityPast zeroForOne) state.liquidity

lemma curve_cons {target : ℕ} (hprice : 0 < sqrtPrice)
    (htarget : getSqrtPriceAtTick tick.tick = some target) :
    curve zeroForOne (tick :: candidates) liquidity sqrtPrice =
      move zeroForOne liquidity sqrtPrice target ::
        curve zeroForOne candidates (liquidityPast zeroForOne liquidity tick) target := by
  have hpresent : ¬((liquidity : ℤ) < 0 ∨ sqrtPrice = 0) := by omega
  rw [curve, htarget]
  simp only [hpresent, if_false, Int.cast_natCast]

section

variable {zeroForOne : Bool} {tick : InitializedTick} {candidates : List InitializedTick}
  {state ended : WalkState} {steps : List Step}

lemma Walked.done (hahead : Ahead zeroForOne state.sqrtPrice candidates)
    (hspent : state.remaining = 0) : Walked zeroForOne candidates state [] state := by
  have hcurve := along_nonneg (curve_sound hahead state.liquidity) (le_refl 0)
  constructor
  case input => simp [netIn, hspent]
  case output => simpa [netIn] using hcurve
  all_goals simp [Toward.refl, crossedTicks]

lemma Walked.cross {target amount fee out liquidity : ℕ} (hprice : 0 < state.sqrtPrice)
    (htarget : getSqrtPriceAtTick tick.tick = some target)
    (htoward : Toward zeroForOne state.sqrtPrice target) (hahead : Ahead zeroForOne target candidates)
    (hcost : exactIn zeroForOne state.liquidity state.sqrtPrice target ≤ amount)
    (hgiven : (out : ℚ) ≤ exactOut zeroForOne state.liquidity state.sqrtPrice target)
    (hpast : (liquidity : ℤ) = liquidityPast zeroForOne state.liquidity tick)
    (hfits : amount + fee ≤ state.remaining)
    (h : Walked zeroForOne candidates
      { liquidity := liquidity
        sqrtPrice := target
        remaining := state.remaining - (amount + fee)
        totalOut := state.totalOut + out
        totalFee := state.totalFee + fee } steps ended) :
    Walked zeroForOne (tick :: candidates) state
      (⟨tick, target, state.liquidity, amount, true⟩ :: steps)
      ended := by
  obtain ⟨hinput, houtput, honward, hstill, hreached, hpassed, hcrossed, hinOrder, hliquid⟩ := h
  constructor
  case input =>
    simp only [netIn, map_cons, sum_cons] at hinput ⊢
    omega
  case output =>
    have hsplit : (netIn (⟨tick, target, state.liquidity, amount, true⟩ :: steps) : ℚ) =
        amount + netIn steps := by
      simp [netIn]
    have hadd : _ ≤ along (move zeroForOne state.liquidity state.sqrtPrice target :: _) _ :=
      add_le_along (curve_sound hahead (liquidityPast zeroForOne state.liquidity tick)) hcost hgiven
        (Nat.cast_nonneg (netIn steps)) le_rfl
    rw [curve_cons hprice htarget, hsplit]
    rw [hpast] at houtput
    push_cast at houtput
    linarith
  case onward => exact htoward.trans honward
  case still => simp
  case reached =>
    intro step hstep
    cases steps with
    | nil =>
      obtain rfl : _ = step := by simpa using hstep
      rw [hstill rfl]
      exact Toward.refl _ _
    | cons next steps => exact hreached step (by simpa using hstep)
  case passed =>
    intro step hstep hdone
    obtain rfl | hstep := mem_cons.mp hstep
    · exact honward
    · exact hpassed step hstep hdone
  case crossed =>
    cases steps with
    | nil => simp
    | cons next steps =>
      intro step hstep
      rw [dropLast_cons_cons] at hstep
      obtain rfl | hstep := mem_cons.mp hstep
      · rfl
      · exact hcrossed step hstep
  case inOrder => exact cons_prefix_cons.mpr ⟨rfl, hinOrder⟩
  case liquid => simpa [crossedTicks, hpast] using hliquid

lemma Walked.last {target amount fee out next left : ℕ} (hprice : 0 < state.sqrtPrice)
    (htarget : getSqrtPriceAtTick tick.tick = some target)
    (honward : Toward zeroForOne state.sqrtPrice next) (hreached : Toward zeroForOne next target)
    (hgiven : (out : ℚ) ≤ along (move zeroForOne state.liquidity state.sqrtPrice target ::
      curve zeroForOne candidates (liquidityPast zeroForOne state.liquidity tick) target) amount)
    (hspent : amount + fee = state.remaining) :
    Walked zeroForOne (tick :: candidates) state [⟨tick, target, state.liquidity, amount, false⟩]
      { state with
        sqrtPrice := next
        remaining := left
        totalOut := state.totalOut + out
        totalFee := state.totalFee + fee } := by
  constructor
  case input =>
    simp only [netIn, map_cons, map_nil, sum_cons, sum_nil]
    omega
  case output =>
    rw [curve_cons hprice htarget]
    simpa [netIn] using hgiven
  case onward => exact honward
  case reached =>
    intro step hstep
    obtain rfl : _ = step := by simpa using hstep
    exact hreached
  case inOrder => simp
  all_goals simp [crossedTicks]

end

lemma walks_walked (hrate : Word feeRateDenominator)
    (h : Walks pool feeRate feeRateDenominator zeroForOne candidates state steps ended)
    (hwordL : Word state.liquidity) (hwordP : Word state.sqrtPrice)
    (hsmall : state.remaining ≤ u64Max) (hahead : Ahead zeroForOne state.sqrtPrice candidates)
    (hfits : zeroForOne = true → ∀ step ∈ steps, step.liquidity < 2 ^ 64) :
    Walked zeroForOne candidates state steps ended := by
  induction h with
  | done hspent => exact .done hahead hspent
  | cross hliquidity hprice htarget hamount hgross hfitsIn hout hcross hrest ih =>
    rename_i tick candidates state target amount gross out liquidity steps ended
    have hfit : zeroForOne = true → state.liquidity < 2 ^ 64 := fun hfalls =>
      hfits hfalls _ mem_cons_self
    obtain ⟨hpos, hword⟩ := getSqrtPriceAtTick_spec htarget
    obtain ⟨htoward, hrest'⟩ := hahead target htarget
    obtain ⟨hcost, _⟩ := inputForMove_spec hfit hwordP hprice hpos htoward hamount
    have hgiven := outputForMove_spec hword hprice hpos htoward hout
    obtain ⟨hcharged, _⟩ := grossUp_spec hrate hgross
    obtain ⟨hpast, hwordL'⟩ := crossTick_spec hfit hcross
    have hfee : min (gross - amount) u64Max = gross - amount := by omega
    have htotal : amount + (gross - amount) = gross := by omega
    have hwalked := ih hwordL' hword (by simp only; omega) hrest'
      (fun hfalls step hstep => hfits hfalls step (by simp [hstep]))
    rw [hfee] at hwalked
    exact .cross hprice htarget htoward hrest' hcost hgiven hpast (htotal.trans_le hfitsIn)
      (by rwa [htotal])
  | stay hliquidity hprice htarget hamount hgross hshort hnothing =>
    rename_i tick candidates state target amount gross
    obtain ⟨htoward, _⟩ := hahead target htarget
    have hcurve := along_nonneg (curve_sound hahead state.liquidity) (le_refl 0)
    rw [curve_cons hprice htarget] at hcurve
    have hnone : ((0 : ℕ) : ℚ) ≤ along (move zeroForOne state.liquidity state.sqrtPrice target ::
        curve zeroForOne candidates (liquidityPast zeroForOne state.liquidity tick) target)
          (0 : ℕ) := by
      simpa using hcurve
    exact .last hprice htarget (Toward.refl _ _) htoward hnone (Nat.zero_add _)
  | stop hliquidity hprice htarget hamount hgross hshort hswappable hnext hout =>
    rename_i tick candidates state target amount gross swappable next out
    have hfit : zeroForOne = true → state.liquidity < 2 ^ 64 := fun hfalls =>
      hfits hfalls _ mem_cons_self
    have hliquidity' : (0 : ℚ) < state.liquidity := by exact_mod_cast hliquidity
    have hprice' : (0 : ℚ) < state.sqrtPrice := by exact_mod_cast hprice
    obtain ⟨hpos, _⟩ := getSqrtPriceAtTick_spec htarget
    obtain ⟨htoward, _⟩ := hahead target htarget
    obtain ⟨_, hceiling⟩ := inputForMove_spec hfit hwordP hprice hpos htoward hamount
    obtain ⟨_, hfloor, _⟩ := mulDivFloor_spec hrate hswappable
    have hless : swappable < amount := by
      rw [hfloor]
      exact (grossUp_spec hrate hgross).2 state.remaining hshort
    have hleft : swappable ≤ state.remaining := by
      rw [hfloor]
      refine Nat.div_le_of_le_mul ?_
      rw [Nat.mul_comm feeRateDenominator]
      exact Nat.mul_le_mul_left _ (Nat.sub_le _ _)
    -- the charge is the cost rounded up: what is below the charge is below the cost
    have hcost : (swappable : ℚ) < exactIn zeroForOne state.liquidity state.sqrtPrice target := by
      have hunit : (swappable : ℚ) + 1 ≤ amount := by exact_mod_cast hless
      linarith
    obtain ⟨hnextPos, hnextWord, honward, hback⟩ :=
      nextSqrtPriceFromInput_spec hfit hliquidity hwordL hprice hnext
    have hgiven := outputForMove_spec hnextWord hprice hnextPos honward hout
    have hwithin := hgiven.trans
      (exactOut_mono hliquidity'.le (by exact_mod_cast hnextPos) hback)
    exact .last hprice htarget honward
      (hback.trans (priceAfter_toward hliquidity' hprice' (Nat.cast_nonneg _) hcost))
      (le_along hcost hwithin) (by omega)

/-! ## The swap -/

/-- A swap whose answer can be kept: everything paid went into the pool or into the fee, the output
is one that the curve gives for what went in, the price ended on the way from the start to the last
tick that the walk went for, and the liquidity is the start's with the ticks crossed. -/
structure Honoured (zeroForOne : Bool) (amountIn : ℕ) (candidates : List InitializedTick)
    (liquidity sqrtPrice : ℕ) (steps : List Step) (ended : WalkState) (out fee price : ℕ) : Prop where
  input : netIn steps + fee = amountIn
  output : (out : ℚ) ≤ along (curve zeroForOne candidates liquidity sqrtPrice) (netIn steps)
  onward : Toward zeroForOne sqrtPrice price
  still : steps = [] → price = sqrtPrice
  reached : ∀ step ∈ steps.getLast?, Toward zeroForOne price step.target
  passed : ∀ step ∈ steps, step.crossed = true → Toward zeroForOne step.target price
  crossed : ∀ step ∈ steps.dropLast, step.crossed = true
  inOrder : steps.map (·.tick) <+: candidates
  liquid : (ended.liquidity : ℤ) = (crossedTicks steps).foldl (liquidityPast zeroForOne) liquidity

/-- **A swap over ticks that lie ahead can be kept**, where the price rises or every turn has less
than `2 ^ 64` of liquidity. -/
theorem walkTicks_honoured {pool : Pubkey} {feeRate feeRateDenominator : ℕ} {zeroForOne : Bool}
    {amountIn : ℕ} {candidates : List InitializedTick} {liquidity sqrtPrice : ℕ} {steps : List Step}
    {ended : WalkState} {out fee price : ℕ} (hrate : Word feeRateDenominator)
    (hliquidity : Word liquidity) (hprice : Word sqrtPrice) (hamount : amountIn ≤ u64Max)
    (hahead : Ahead zeroForOne sqrtPrice candidates)
    (hwalk : walk pool feeRate feeRateDenominator zeroForOne amountIn candidates liquidity sqrtPrice =
      .ok (steps, ended))
    (h : walkTicks pool feeRate feeRateDenominator zeroForOne amountIn candidates liquidity sqrtPrice =
      .ok (out, fee, price))
    (hfits : zeroForOne = true → ∀ step ∈ steps, step.liquidity < 2 ^ 64) :
    Honoured zeroForOne amountIn candidates liquidity sqrtPrice steps ended out fee price := by
  rw [walkTicks, hwalk] at h
  obtain ⟨rfl, rfl, rfl⟩ : min ended.totalOut u64Max = out ∧ min ended.totalFee u64Max = fee ∧
      ended.sqrtPrice = price := by
    simpa using Except.ok.inj h
  unfold walk at hwalk
  split_ifs at hwalk
  obtain ⟨hinput, houtput, honward, hstill, hreached, hpassed, hcrossed, hinOrder, hliquid⟩ :=
    walks_walked hrate (walks_of_walkLoop hwalk) hliquidity hprice hamount hahead hfits
  simp only [Nat.add_zero] at hinput
  have hfee : min ended.totalFee u64Max = ended.totalFee := by omega
  have hclipped : ((min ended.totalOut u64Max : ℕ) : ℚ) ≤ ended.totalOut := by
    exact_mod_cast min_le_left _ _
  refine ⟨by omega, ?_, honward, hstill, hreached, hpassed, hcrossed, hinOrder, hliquid⟩
  simpa using hclipped.trans houtput

theorem walkTicks_honoured_two :
    Honoured true 1000 [⟨-1, 400000⟩, ⟨-100, 0⟩] 1000000 (2 ^ 64)
      [⟨⟨-1, 400000⟩, 18445821805675395072, 1000000, 50, true⟩,
        ⟨⟨-100, 0⟩, 18354745142194513203, 600000, 946, false⟩]
      ⟨600000, 18416786124633315857, 0, 993, 4⟩ 993 4 18416786124633315857 := by
  have hahead : Ahead true (2 ^ 64) [⟨-1, 400000⟩, ⟨-100, 0⟩] := by
    have hfirst : getSqrtPriceAtTick (-1) = some 18445821805675395072 := by decide +kernel
    have hsecond : getSqrtPriceAtTick (-100) = some 18354745142194513203 := by decide +kernel
    simp [Ahead, hfirst, hsecond, Toward]
  have hwalk : walk "pool" 2500 1000000 true 1000 [⟨-1, 400000⟩, ⟨-100, 0⟩] 1000000 (2 ^ 64) =
      .ok ([⟨⟨-1, 400000⟩, 18445821805675395072, 1000000, 50, true⟩,
        ⟨⟨-100, 0⟩, 18354745142194513203, 600000, 946, false⟩],
      ⟨600000, 18416786124633315857, 0, 993, 4⟩) := by
    decide +kernel
  refine walkTicks_honoured (by norm_num [Word]) (by norm_num [Word]) (by norm_num [Word]) (by decide)
    hahead hwalk (by decide +kernel) ?_
  intro _
  decide

/-- A pool with `2 ^ 64` of liquidity, of which a tick below the price takes all but a million. -/
def deepCandidates : List InitializedTick := [⟨-1, 2 ^ 64 - 10 ^ 6⟩, ⟨-100, 0⟩]

/-- **Not every swap can be kept**: one is let across a tick for nothing, and is paid for it. -/
theorem not_honoured :
    ¬∀ (pool : Pubkey) (feeRate feeRateDenominator : ℕ) (zeroForOne : Bool) (amountIn : ℕ)
      (candidates : List InitializedTick) (liquidity sqrtPrice : ℕ) (steps : List Step)
      (ended : WalkState) (out fee price : ℕ),
      Word feeRateDenominator → Word liquidity → Word sqrtPrice → amountIn ≤ u64Max →
      Ahead zeroForOne sqrtPrice candidates →
      walk pool feeRate feeRateDenominator zeroForOne amountIn candidates liquidity sqrtPrice =
        .ok (steps, ended) →
      walkTicks pool feeRate feeRateDenominator zeroForOne amountIn candidates liquidity sqrtPrice =
        .ok (out, fee, price) →
      Honoured zeroForOne amountIn candidates liquidity sqrtPrice steps ended out fee price := by
  intro hall
  have hahead : Ahead true (2 ^ 64) deepCandidates := by
    have hfirst : getSqrtPriceAtTick (-1) = some 18445821805675395072 := by decide +kernel
    have hsecond : getSqrtPriceAtTick (-100) = some 18354745142194513203 := by decide +kernel
    simp [Ahead, deepCandidates, hfirst, hsecond, Toward]
  have hswap := hall "pool" 2500 1000000 true 1000 deepCandidates (2 ^ 64) (2 ^ 64)
    [⟨⟨-1, 2 ^ 64 - 10 ^ 6⟩, 18445821805675395072, 2 ^ 64, 0, true⟩,
      ⟨⟨-100, 0⟩, 18354745142194513203, 1000000, 997, false⟩]
    ⟨1000000, 18427450556010572856, 0, 922268034157539, 3⟩ 922268034157539 3 18427450556010572856
    (by norm_num [Word]) (by norm_num [Word]) (by norm_num [Word]) (by decide) hahead
    (by decide +kernel) (by decide +kernel)
  have hbound : ¬((922268034157539 : ℕ) : ℚ) ≤
      along (curve true deepCandidates (2 ^ 64 : ℕ) (2 ^ 64)) (997 : ℕ) := by
    decide +kernel
  exact hbound hswap.output

end Dripline.Venues
