import Dripline.Swaps.Solvency

/-!
# A direct plan is solvent

The instructions of a whole plan, run on the wallet's balances.

* `planOf_solvent_iff` — it is true of all others.
-/

namespace Dripline.Swaps

open Dripline.Chain Option
open Dripline.Found (bind_eq_ok)

/-! ## Plans -/

/-- The plans of an intent: of its quote, and of the second quote of what was accepted. -/
inductive PlanOf (associatedAddress : AssociatedAddress) (priorityFeeMicroLamports : ℕ)
    (maxImpact : ℚ) (intent : DirectSwapIntent) (market : PoolMarket) :
    Option DirectExecutionData → SwapPlan → Prop
  | first {quote : DirectQuote} {plan : SwapPlan} (hquote : quoteWithMarket intent market = .ok quote)
      (hplan : buildPlan associatedAddress priorityFeeMicroLamports intent market quote = .ok plan) :
      PlanOf associatedAddress priorityFeeMicroLamports maxImpact intent market none plan
  | second {data : DirectExecutionData} {plan : SwapPlan}
      (hplan : freshPlan associatedAddress priorityFeeMicroLamports maxImpact intent data market =
        .ok plan) :
      PlanOf associatedAddress priorityFeeMicroLamports maxImpact intent market (some data) plan

/-- The pool's floor that was accepted; none before anything is. -/
def acceptedMinOut (accepted : Option DirectExecutionData) : ℕ :=
  (accepted.map (·.acceptedMinOut)).getD 0

/-- The guaranteed net output that was accepted; none before anything is. -/
def acceptedMinNetOut (accepted : Option DirectExecutionData) : ℕ :=
  (accepted.map (·.acceptedMinNetOut)).getD 0

/-- The fee is taken in USDC from a pool that settles in native SOL. -/
def FeeInUsdcNatively (intent : DirectSwapIntent) (market : PoolMarket)
    (accepted : Option DirectExecutionData) : Prop :=
  market.settlesNativeSol = true ∧ intent.outputMint = usdcMint ∧
    ∃ venueQuote, market.quote intent.inputMint intent.amountIn = .ok venueQuote ∧
      0 < platformFeeAmount (max (minOutAfterSlippage venueQuote.expectedOut intent.slippageBps)
        (acceptedMinOut accepted))

/-! ## What a plan is for -/

/-- What the wallet has of a mint: of SOL its lamports, the wrapped ones with the others. -/
def holding (ledger : Ledger) (owner mint account : Pubkey) : ℕ :=
  if isWsol mint then ledger.lamports owner + ledger.lamports account else ledger.tokens account

/-- **A plan has been executed as it should be.** -/
structure Solvent (intent : DirectSwapIntent) (plan : SwapPlan) (payout : ℕ)
    (ledger ledger' : Ledger) : Prop where
  /-- exactly what was asked is taken from the wallet -/
  paid : holding ledger' intent.owner intent.inputMint plan.inputAccount + intent.amountIn =
    holding ledger intent.owner intent.inputMint plan.inputAccount
  /-- exactly the payout less the output fee is credited to it -/
  received : holding ledger' intent.owner intent.outputMint plan.outputAccount =
    holding ledger intent.owner intent.outputMint plan.outputAccount +
      (payout - plan.quote.fee.onOutput)
  /-- which is no less than what was guaranteed -/
  guaranteed : plan.quote.minNetOut ≤ payout - plan.quote.fee.onOutput
  /-- the platform has its fee -/
  collected : ∀ destination, plan.quote.fee.destination = some destination →
    ledger'.tokens destination = ledger.tokens destination + plan.quote.fee.amount
  /-- nothing is left in the wrapped-SOL account -/
  inputUnwrapped : isWsol intent.inputMint = true →
    ledger'.lamports plan.inputAccount = 0 ∧ ledger'.tokens plan.inputAccount = 0
  outputUnwrapped : isWsol intent.outputMint = true →
    ledger'.lamports plan.outputAccount = 0 ∧ ledger'.tokens plan.outputAccount = 0

/-- What address derivation is relied on for: the wallet's token accounts of the two mints are two
accounts, neither of them the wallet's or the platform's; and whose wallet it is. -/
structure Separate (associatedAddress : AssociatedAddress) (intent : DirectSwapIntent) : Prop where
  legs : ∀ program program', associatedAddress intent.owner intent.inputMint program ≠
    associatedAddress intent.owner intent.outputMint program'
  owner : ∀ mint program, associatedAddress intent.owner mint program ≠ intent.owner
  platform : ∀ mint program,
    associatedAddress intent.owner mint program ∉ [feeTokenAccountWsol, feeTokenAccountUsdc]
  wallet : intent.owner ∉ [feeTokenAccountWsol, feeTokenAccountUsdc]

/-- The balances a plan is run on: token accounts are of their mints where they exist, and the
wallet has what is asked for. -/
structure Funded (intent : DirectSwapIntent) (plan : SwapPlan) (ledger : Ledger) : Prop where
  input : ∀ mint, ledger.mint plan.inputAccount = some mint → mint = intent.inputMint
  output : ∀ mint, ledger.mint plan.outputAccount = some mint → mint = intent.outputMint
  wsol : ledger.mint feeTokenAccountWsol = some solMint
  usdc : ledger.mint feeTokenAccountUsdc = some usdcMint
  covers : intent.amountIn ≤
    if isWsol intent.inputMint then ledger.lamports intent.owner
    else ledger.tokens plan.inputAccount

/-! ## From a plan to its parts -/

section parts

variable {associatedAddress : AssociatedAddress} {priorityFeeMicroLamports : ℕ} {maxImpact : ℚ}
  {intent : DirectSwapIntent} {market : PoolMarket} {accepted : Option DirectExecutionData}
  {quote : DirectQuote} {plan : SwapPlan}

lemma buildPlan_eq_ok
    (h : buildPlan associatedAddress priorityFeeMicroLamports intent market quote = .ok plan) :
    ∃ inputProgram outputProgram legs data,
      legs = WalletLegs.mk (associatedAddress intent.owner intent.inputMint inputProgram)
        inputProgram (associatedAddress intent.owner intent.outputMint outputProgram)
        outputProgram ∧
      plan.inputAccount = legs.inputAccount ∧ plan.outputAccount = legs.outputAccount ∧
      plan.quote = quote ∧
      plan.instructions =
        computeBudgetInstructions market.computeUnits priorityFeeMicroLamports ++
        legs.ensureInstructions intent.owner intent.owner intent.inputMint intent.outputMint ++
        inputWrap intent market quote legs ++
        inputFee intent quote legs ++
        [.swap ⟨intent.owner, intent.inputMint, intent.outputMint, legs.inputAccount,
          legs.outputAccount⟩ quote.swapAmountIn quote.minOut data] ++
        outputFee intent market quote legs ++
        closeWsol intent legs := by
  unfold buildPlan at h
  obtain ⟨legs, hlegs, h⟩ := bind_eq_ok.mp h
  obtain ⟨data, -, h⟩ := bind_eq_ok.mp h
  obtain rfl := Except.ok.inj h
  unfold WalletLegs.resolve at hlegs
  split at hlegs
  next inputProgram outputProgram _ _ =>
    exact ⟨inputProgram, outputProgram, legs, data, (Except.ok.inj hlegs).symm, rfl, rfl, rfl, rfl⟩
  next => cases hlegs

section

variable (h : PlanOf associatedAddress priorityFeeMicroLamports maxImpact intent market accepted plan)
include h

lemma PlanOf.spec :
    intent.inputMint ≠ intent.outputMint ∧ QuoteOf intent plan.quote ∧
      buildPlan associatedAddress priorityFeeMicroLamports intent market plan.quote = .ok plan ∧
      (∃ venueQuote, market.quote intent.inputMint plan.quote.swapAmountIn = .ok venueQuote ∧
        plan.quote.minOut = max (minOutAfterSlippage venueQuote.expectedOut intent.slippageBps)
          (acceptedMinOut accepted)) ∧
      acceptedMinNetOut accepted ≤ plan.quote.minNetOut := by
  cases h with
  | first hquote hplan =>
    obtain ⟨-, -, -, -, -, -, -, hsame, -⟩ := buildPlan_eq_ok hplan
    obtain ⟨hne, hof, venueQuote, hvenue, hmin⟩ := quoteWithMarket_spec hquote
    rw [hsame]
    exact ⟨hne, hof, hplan, ⟨venueQuote, hvenue, by rw [hmin]; exact (max_eq_left
      (Nat.zero_le _)).symm⟩, Nat.zero_le _⟩
  | @second data _ hplan =>
    unfold freshPlan at hplan
    obtain ⟨fresh, hfresh, hplan⟩ := bind_eq_ok.mp hplan
    obtain ⟨held, hheld, hplan⟩ := bind_eq_ok.mp hplan
    obtain ⟨-, -, -, -, -, -, -, hsame, -⟩ := buildPlan_eq_ok hplan
    obtain ⟨hne, hof, venueQuote, hvenue, hmin⟩ := quoteWithMarket_spec hfresh
    obtain ⟨hheldof, hswapIn, hfloor, haccepted⟩ := holdFloors_spec hof hheld
    rw [hsame]
    rw [hmin] at hfloor
    exact ⟨hne, hheldof, hplan, ⟨venueQuote, hswapIn ▸ hvenue, hfloor⟩, haccepted⟩

lemma PlanOf.feeInUsdcNatively_iff :
    FeeInUsdcNatively intent market accepted ↔
      market.settlesNativeSol = true ∧ intent.outputMint = usdcMint ∧ 0 < plan.quote.fee.amount := by
  obtain ⟨-, hof, -, ⟨venueQuote, hvenue, hfloor⟩, -⟩ := h.spec
  refine and_congr_right fun _ => and_congr_right fun husdc => ?_
  have hside : plan.quote.fee.side = .output := by
    rw [hof.side, husdc]
    rfl
  have hamount : plan.quote.fee.amount = platformFeeAmount plan.quote.minOut := by
    have hfee := hof.fee
    rw [if_neg (by rw [hside]; decide)] at hfee
    generalize plan.quote.fee = fee at hfee hside
    cases hfee with
    | none => cases hside
    | inputWsol _ => cases hside
    | inputUsdc _ => cases hside
    | outputWsol _ => rfl
    | outputUsdc _ => rfl
  have hwhole : plan.quote.swapAmountIn = intent.amountIn := by
    rw [hof.swapAmountIn, if_neg (by rw [hside]; decide)]
  rw [hwhole] at hvenue
  rw [hamount, hfloor]
  constructor
  · rintro ⟨other, hother, hpos⟩
    obtain rfl := Except.ok.inj (hvenue.symm.trans hother)
    exact hpos
  · exact fun hpos => ⟨venueQuote, hvenue, hpos⟩

end

lemma Separate.roles (h : Separate associatedAddress intent) {legs : WalletLegs}
    {inputProgram outputProgram : Pubkey}
    (hlegs : legs = ⟨associatedAddress intent.owner intent.inputMint inputProgram, inputProgram,
      associatedAddress intent.owner intent.outputMint outputProgram, outputProgram⟩)
    (hof : QuoteOf intent quote) :
    ∃ r : Roles, r.Play intent legs quote.fee ∧
      ((r.platform = feeTokenAccountWsol ∧ r.feeMint = solMint) ∨
        (r.platform = feeTokenAccountUsdc ∧ r.feeMint = usdcMint)) := by
  subst hlegs
  -- whose account the fee goes to, and an account of the platform's where there is no fee
  have hplatform : ∃ platform feeMint,
      (∀ mint, quote.fee.mint = some mint → feeMint = mint) ∧
      (∀ destination, quote.fee.destination = some destination → platform = destination) ∧
      ((platform = feeTokenAccountWsol ∧ feeMint = solMint) ∨
        (platform = feeTokenAccountUsdc ∧ feeMint = usdcMint)) := by
    have hfee := hof.fee
    generalize (if quote.fee.side = .input then intent.amountIn else quote.minOut) = base at hfee
    generalize quote.fee = fee at hfee
    cases hfee with
    | none => exact ⟨_, _, by simp [PlatformFee.none], by simp [PlatformFee.none], .inl ⟨rfl, rfl⟩⟩
    | inputWsol _ | outputWsol _ => exact ⟨_, _, by simp, by simp, .inl ⟨rfl, rfl⟩⟩
    | inputUsdc _ | outputUsdc _ => exact ⟨_, _, by simp, by simp, .inr ⟨rfl, rfl⟩⟩
  obtain ⟨platform, feeMint, hmint, hdestination, haccount⟩ := hplatform
  have hknown : platform ∈ [feeTokenAccountWsol, feeTokenAccountUsdc] := by
    rcases haccount with ⟨rfl, -⟩ | ⟨rfl, -⟩ <;> simp
  exact ⟨{
    owner := intent.owner
    input := associatedAddress intent.owner intent.inputMint inputProgram
    output := associatedAddress intent.owner intent.outputMint outputProgram
    platform := platform
    inputMint := intent.inputMint
    outputMint := intent.outputMint
    feeMint := feeMint
    owner_ne_input := (h.owner _ _).symm
    owner_ne_output := (h.owner _ _).symm
    input_ne_output := h.legs _ _
    platform_ne_owner := fun heq => h.wallet (heq ▸ hknown)
    platform_ne_input := fun heq => h.platform _ _ (heq ▸ hknown)
    platform_ne_output := fun heq => h.platform _ _ (heq ▸ hknown) },
    ⟨rfl, rfl, rfl, rfl, rfl, hmint, hdestination⟩, haccount⟩

end parts

/-! ## The whole plan -/

/-- The balances of the roles, as they are. -/
def Roles.view (r : Roles) (ledger : Ledger) : View :=
  ⟨ledger.lamports r.owner, ledger.lamports r.input, ledger.tokens r.input,
    ledger.lamports r.output, ledger.tokens r.output, ledger.tokens r.platform⟩

section whole

variable {associatedAddress : AssociatedAddress} {priorityFeeMicroLamports : ℕ} {maxImpact : ℚ}
  {intent : DirectSwapIntent} {market : PoolMarket} {accepted : Option DirectExecutionData}
  {plan : SwapPlan} {ledger : Ledger} {payout : ℕ}

lemma PlanOf.stranded
    (h : PlanOf associatedAddress priorityFeeMicroLamports maxImpact intent market accepted plan)
    (hnot : ¬ FeeInUsdcNatively intent market accepted)
    (hnative : market.settlesNativeSol = true) (hnotwsol : isWsol intent.outputMint = false)
    (hside : plan.quote.fee.side = .output) : plan.quote.fee.amount = 0 := by
  by_contra hne
  refine hnot (h.feeInUsdcNatively_iff.mpr ⟨hnative, ?_, Nat.pos_of_ne_zero hne⟩)
  have hfee := h.spec.2.1.fee
  generalize (if plan.quote.fee.side = .input then intent.amountIn else plan.quote.minOut) = base
    at hfee
  generalize plan.quote.fee = fee at hfee hside
  cases hfee with
  | none => cases hside
  | inputWsol _ => cases hside
  | inputUsdc _ => cases hside
  | outputWsol hmint => rw [hmint] at hnotwsol; cases hnotwsol
  | outputUsdc hmint => exact hmint

lemma QuoteOf.fee_amount {quote : DirectQuote} (hof : QuoteOf intent quote) :
    quote.fee.onInput + quote.fee.onOutput = quote.fee.amount := by
  unfold PlatformFee.onInput PlatformFee.onOutput
  cases hside : quote.fee.side with
  | input => simp
  | output => simp
  | none => simp [hof.noFee hside, PlatformFee.none]

lemma Paid.closed {fee fee' : ℕ} {v₀ v₁ v₂ : View}
    (hpaid : Paid intent.inputMint intent.amountIn fee v₀ v₁)
    (hreceived : Received intent.outputMint payout fee' v₁ v₂)
    (hnotboth : isWsol intent.inputMint = true → isWsol intent.outputMint = false) :
    (if isWsol intent.inputMint then (v₂.closed intent).native + (v₂.closed intent).inLamports
      else (v₂.closed intent).inTokens) + intent.amountIn =
      if isWsol intent.inputMint then v₀.native + v₀.inLamports else v₀.inTokens := by
  cases hin : isWsol intent.inputMint with
  | true =>
    have hpaidsol := hpaid.wsol hin
    have hnative := hreceived.native (hnotboth hin)
    have hlamports := hreceived.inLamports
    simp only [View.closed, hin, if_true]
    omega
  | false =>
    have hpaidtokens := hpaid.tokens hin
    have htokens := hreceived.inTokens
    have hsame : (v₂.closed intent).inTokens = v₂.inTokens := by
      unfold View.closed
      rw [hin]
      cases isWsol intent.outputMint <;> rfl
    simp only [Bool.false_eq_true, if_false, hsame]
    omega

lemma Received.closed {fee fee' : ℕ} {v₀ v₁ v₂ : View}
    (hpaid : Paid intent.inputMint intent.amountIn fee v₀ v₁)
    (hreceived : Received intent.outputMint payout fee' v₁ v₂)
    (hnotboth : isWsol intent.inputMint = true → isWsol intent.outputMint = false)
    (hle : fee' ≤ payout) :
    (if isWsol intent.outputMint then (v₂.closed intent).native + (v₂.closed intent).outLamports
      else (v₂.closed intent).outTokens) =
      (if isWsol intent.outputMint then v₀.native + v₀.outLamports else v₀.outTokens) +
        (payout - fee') := by
  cases hout : isWsol intent.outputMint with
  | true =>
    have hin : isWsol intent.inputMint = false := by
      by_contra h
      rw [hnotboth (Bool.not_eq_false _ ▸ h)] at hout
      cases hout
    have hreceivedsol := hreceived.wsol hout
    have hnative := hpaid.native hin
    have hlamports := hpaid.outLamports
    simp only [View.closed, hin, hout, if_true, Bool.false_eq_true, if_false]
    omega
  | false =>
    have hreceivedtokens := hreceived.tokens hout
    have htokens := hpaid.outTokens
    have hsame : (v₂.closed intent).outTokens = v₂.outTokens := by
      unfold View.closed
      rw [hout]
      cases isWsol intent.inputMint <;> rfl
    simp only [Bool.false_eq_true, if_false, hsame]
    omega

lemma View.closed_collected (v : View) : (v.closed intent).collected = v.collected := by
  unfold View.closed
  cases isWsol intent.inputMint <;> cases isWsol intent.outputMint <;> rfl

section

variable (hplan : PlanOf associatedAddress priorityFeeMicroLamports maxImpact intent market accepted
  plan)
include hplan

lemma PlanOf.ensured (hseparate : Separate associatedAddress intent)
    (hfunded : Funded intent plan ledger) (payout : ℕ) :
    ∃ (r : Roles) (legs : WalletLegs) (data : List UInt8) (ensured : Ledger),
      plan.inputAccount = legs.inputAccount ∧ plan.outputAccount = legs.outputAccount ∧
      r.Play intent legs plan.quote.fee ∧ r.Minted ensured ∧
      r.Shows ensured (r.view ledger) ∧
      ledger.run market.settlesNativeSol payout plan.instructions =
        ensured.run market.settlesNativeSol payout
          (inputWrap intent market plan.quote legs ++ inputFee intent plan.quote legs ++
            [.swap ⟨intent.owner, intent.inputMint, intent.outputMint, legs.inputAccount,
              legs.outputAccount⟩ plan.quote.swapAmountIn plan.quote.minOut data] ++
            outputFee intent market plan.quote legs ++ closeWsol intent legs) := by
  obtain ⟨-, hof, hbuilt, -, -⟩ := hplan.spec
  obtain ⟨inputProgram, outputProgram, legs, data, hlegs, hinacc, houtacc, -, hinstructions⟩ :=
    buildPlan_eq_ok hbuilt
  obtain ⟨r, hplay, haccount⟩ := hseparate.roles hlegs hof
  obtain ⟨ensured, hensured, hminted, hshows⟩ := Roles.ensures (v := r.view ledger) hplay
    market.settlesNativeSol payout market.computeUnits priorityFeeMicroLamports
    (by rw [hplay.input, ← hinacc, hplay.inputMint]; exact hfunded.input)
    (by rw [hplay.output, ← houtacc, hplay.outputMint]; exact hfunded.output)
    (by
      rcases haccount with ⟨hplatform, hmint⟩ | ⟨hplatform, hmint⟩ <;> rw [hplatform, hmint]
      · exact hfunded.wsol
      · exact hfunded.usdc)
    ⟨rfl, rfl, rfl, rfl, rfl, rfl⟩
  refine ⟨r, legs, data, ensured, hinacc, houtacc, hplay, hminted, hshows, ?_⟩
  have hassoc : plan.instructions =
      (computeBudgetInstructions market.computeUnits priorityFeeMicroLamports ++
        legs.ensureInstructions intent.owner intent.owner intent.inputMint intent.outputMint) ++
      (inputWrap intent market plan.quote legs ++ inputFee intent plan.quote legs ++
        [.swap ⟨intent.owner, intent.inputMint, intent.outputMint, legs.inputAccount,
          legs.outputAccount⟩ plan.quote.swapAmountIn plan.quote.minOut data] ++
        outputFee intent market plan.quote legs ++ closeWsol intent legs) := by
    rw [hinstructions]
    simp only [List.append_assoc]
  rw [hassoc, Ledger.run_append, hensured, bind_some]

lemma PlanOf.solvent (hseparate : Separate associatedAddress intent)
    (hfunded : Funded intent plan ledger) (hpayout : plan.quote.minOut ≤ payout)
    (hnot : ¬ FeeInUsdcNatively intent market accepted) :
    ∃ ledger', ledger.run market.settlesNativeSol payout plan.instructions = some ledger' ∧
      Solvent intent plan payout ledger ledger' := by
  obtain ⟨hne, hof, -, -, -⟩ := hplan.spec
  obtain ⟨r, legs, data, ensured, hinacc, houtacc, hplay, hminted, hshows, hrest⟩ :=
    hplan.ensured hseparate hfunded payout
  have hnotboth : isWsol intent.inputMint = true → isWsol intent.outputMint = false := by
    intro hin
    refine beq_eq_false_iff_ne.mpr fun hout => hne ?_
    rw [hout]
    exact beq_iff_eq.mp hin
  -- what is paid
  obtain ⟨ledger₁, paid, v₁, hrun₁, hpaid, hmint₁, hshows₁, hpays⟩ := Roles.pays
    market payout hplay hof hshows hminted
    (by
      have hcovers := hfunded.covers
      rw [hinacc, ← hplay.input, ← hplay.owner] at hcovers
      exact hcovers)
    (fun hnative hin => hplan.stranded hnot hnative (hnotboth hin))
  -- what is received
  obtain ⟨received, ledger₂, v₂, hreceived, hrun₂, hmint₂, hshows₂, hreceives⟩ := Roles.receives
    market hplay hof hshows₁ (hminted.of_eq hmint₁) hpayout
    (fun hnative hout => hplan.stranded hnot hnative hout)
  -- what is closed
  obtain ⟨ledger', hclosed, hshows'⟩ := Roles.closes hplay market.settlesNativeSol payout hshows₂
    ((hminted.of_eq hmint₁).of_eq hmint₂)
  refine ⟨ledger', ?_, ?_⟩
  · have hswap : ledger₁.run market.settlesNativeSol payout [.swap ⟨intent.owner,
        intent.inputMint, intent.outputMint, legs.inputAccount, legs.outputAccount⟩
        plan.quote.swapAmountIn plan.quote.minOut data] = some received := by
      show (Ledger.swap _ _ _ _ _ _).bind some = some received
      unfold Ledger.swap
      dsimp only
      rw [if_pos hpayout, hpaid, bind_some, hreceived, bind_some]
    simp only [hrest, Ledger.run_append _ _ _ (closeWsol intent legs),
      Ledger.run_append _ _ _ (outputFee intent market plan.quote legs),
      Ledger.run_append _ _ _ [_], bind_some, hrun₁, hswap, hrun₂, hclosed]
  · have hvin : ∀ ledger, holding ledger intent.owner intent.inputMint plan.inputAccount =
        if isWsol intent.inputMint then ledger.lamports r.owner + ledger.lamports r.input
        else ledger.tokens r.input := by
      intro ledger
      rw [hinacc, ← hplay.input, ← hplay.owner]
      rfl
    have hvout : ∀ ledger, holding ledger intent.owner intent.outputMint plan.outputAccount =
        if isWsol intent.outputMint then ledger.lamports r.owner + ledger.lamports r.output
        else ledger.tokens r.output := by
      intro ledger
      rw [houtacc, ← hplay.output, ← hplay.owner]
      rfl
    have hfloor := hof.onOutput_le
    refine ⟨?_, ?_, ?_, ?_, ?_, ?_⟩
    · rw [hvin, hvin, hshows'.native, hshows'.inLamports, hshows'.inTokens]
      exact hpays.closed hreceives hnotboth
    · rw [hvout, hvout, hshows'.native, hshows'.outLamports, hshows'.outTokens]
      exact hreceives.closed hpays hnotboth (hfloor.trans hpayout)
    · rw [hof.minNetOut]
      omega
    · intro destination hdestination
      rw [← hplay.platform _ hdestination, hshows'.collected, View.closed_collected,
        hreceives.collected, hpays.collected, ← hof.fee_amount, ← Nat.add_assoc]
      rfl
    · intro hin
      rw [hinacc, ← hplay.input, hshows'.inLamports, hshows'.inTokens]
      simp [View.closed, hin]
    · intro hout
      have hin : isWsol intent.inputMint = false := by
        by_contra h
        rw [hnotboth (Bool.not_eq_false _ ▸ h)] at hout
        cases hout
      rw [houtacc, ← hplay.output, hshows'.outLamports, hshows'.outTokens]
      simp [View.closed, hin, hout]

lemma PlanOf.reverted (hseparate : Separate associatedAddress intent)
    (hfunded : Funded intent plan ledger) (payout : ℕ)
    (husdc : FeeInUsdcNatively intent market accepted) :
    ledger.run market.settlesNativeSol payout plan.instructions = none := by
  obtain ⟨hnative, houtput, hpos⟩ := hplan.feeInUsdcNatively_iff.mp husdc
  obtain ⟨-, hof, -, -, -⟩ := hplan.spec
  obtain ⟨r, legs, data, ensured, -, -, hplay, hminted, -, hrest⟩ :=
    hplan.ensured hseparate hfunded payout
  have hside : plan.quote.fee.side = .output := by
    rw [hof.side, houtput]
    rfl
  rw [hrest]
  refine eq_none_iff_forall_ne_some.mpr fun ledger' hrun => ?_
  rw [Ledger.run_append] at hrun
  obtain ⟨_, hrun, -⟩ := bind_eq_some_iff.mp hrun
  rw [Ledger.run_append] at hrun
  obtain ⟨swapped, hswapped, hfee⟩ := bind_eq_some_iff.mp hrun
  -- the output account is still the USDC account it was created as
  have hkept : swapped.mint legs.outputAccount = some usdcMint := by
    have hsame := Ledger.run_mint (by
      intro i hi
      rw [List.mem_append, List.mem_append] at hi
      rcases hi with (hi | hi) | hi
      · unfold inputWrap at hi
        split at hi
        next => exact keepsMints_of_mem_wrap hi
        next => cases hi
      · unfold inputFee at hi
        split at hi
        next => exact keepsMints_of_mem_transfer hi
        next => cases hi
      · obtain rfl := List.mem_singleton.mp hi
        rfl) hswapped
    rw [hsame, ← hplay.output, hminted.output, hplay.outputMint, houtput]
  unfold outputFee at hfee
  rw [if_pos hside, if_pos hnative, Ledger.run_append] at hfee
  obtain ⟨_, hwrapped, -⟩ := bind_eq_some_iff.mp hfee
  unfold wrapInstructions at hwrapped
  rw [if_pos hpos] at hwrapped
  obtain ⟨moved, hmoved, hsynced⟩ := bind_eq_some_iff.mp hwrapped
  have hmint : moved.mint legs.outputAccount = some usdcMint := by
    rw [Ledger.step_mint rfl hmoved, hkept]
  obtain ⟨_, hsync, -⟩ := bind_eq_some_iff.mp hsynced
  simp only [Ledger.step, hmint] at hsync
  rw [if_neg (by decide)] at hsync
  cases hsync

end

/-- **A direct plan is solvent, and at what was accepted**, unless its fee is taken in USDC from a
pool that settles in native SOL. -/
theorem planOf_solvent_iff
    (hplan : PlanOf associatedAddress priorityFeeMicroLamports maxImpact intent market accepted plan)
    (hseparate : Separate associatedAddress intent) (hfunded : Funded intent plan ledger)
    (hpayout : plan.quote.minOut ≤ payout) :
    ((∃ ledger', ledger.run market.settlesNativeSol payout plan.instructions = some ledger' ∧
        Solvent intent plan payout ledger ledger') ∧
      acceptedMinOut accepted ≤ plan.quote.minOut ∧
      acceptedMinNetOut accepted ≤ plan.quote.minNetOut) ↔
      ¬ FeeInUsdcNatively intent market accepted := by
  obtain ⟨-, -, -, ⟨venueQuote, -, hfloor⟩, hnet⟩ := hplan.spec
  constructor
  · rintro ⟨⟨ledger', hrun, -⟩, -⟩ husdc
    rw [hplan.reverted hseparate hfunded payout husdc] at hrun
    cases hrun
  · intro hnot
    refine ⟨hplan.solvent hseparate hfunded hpayout hnot, ?_, hnet⟩
    rw [hfloor]
    exact le_max_right _ _

end whole

/-! ## On concrete pools -/

/-- The token accounts of one wallet, of the mints below. -/
def walletTokenAccount : AssociatedAddress := fun _ mint _ =>
  if mint = solMint then "8LjUgMjzZuHj8VdyxzkmLLQVmW4C3gd56md1nLd76TNW"
  else if mint = usdcMint then "FGETo8T8wMcN2wCjav8VK6eh3dLk63evNDPxzLSJra8B"
  else "5hpfC9VBxVcoW9opCnM2PqR6YWRLBzrBpabJTZnwwNiw"

/-- A mint the platform takes no fee in. -/
def tokenMint : Pubkey := "DezXAZ8z7PnrnRJjz3wXBoRgixCa6xjnB7YaB1pPB263"

/-- One SOL of this wallet, for a mint. -/
def oneSolFor (outputMint : Pubkey) : DirectSwapIntent where
  pool := "pool"
  owner := "9WzDXwBbmkg8ZTbNMqUxvQRAyrZzDsGYdLVL9zYtAWWM"
  inputMint := solMint
  outputMint := outputMint
  amountIn := 1000000000
  slippageBps := 500

/-- A pool of a mint and SOL that pays a million of it for whatever comes. -/
def millionPool (settlesNativeSol : Bool) (mint : Pubkey) : PoolMarket where
  program := "pumpfun-legacy"
  pool := "pool"
  mints := (mint, solMint)
  tokenProgram := fun _ => some "TokenkegQfeZyiNwAJbNbGKPFXCWuBvf9Ss623VQ5DA"
  quote := fun _ amountIn => .ok ⟨amountIn, 1000000, 0, some 0⟩
  swapInstruction := fun _ _ _ => .ok []
  computeUnits := 100000
  settlesNativeSol := settlesNativeSol

/-- Two SOL in the wallet, and the platform's token accounts. -/
def twoSol : Ledger where
  lamports := fun address =>
    if address = "9WzDXwBbmkg8ZTbNMqUxvQRAyrZzDsGYdLVL9zYtAWWM" then 2000000000 else 0
  mint := fun account =>
    if account = feeTokenAccountWsol then some solMint
    else if account = feeTokenAccountUsdc then some usdcMint
    else none
  tokens := fun _ => 0

lemma walletTokenAccount_separate (mint : Pubkey) (h : mint ≠ solMint) :
    Separate walletTokenAccount (oneSolFor mint) := by
  refine ⟨fun _ _ => ?_, fun other _ => ?_, fun other _ => ?_, ?_⟩
  · show walletTokenAccount _ solMint _ ≠ walletTokenAccount _ mint _
    unfold walletTokenAccount
    rw [if_pos rfl, if_neg h]
    split <;> decide
  · simp only [walletTokenAccount, oneSolFor]
    split
    next => decide
    next => split <;> decide
  · simp only [walletTokenAccount]
    split
    next => decide
    next => split <;> decide
  · simp only [oneSolFor]
    decide

/-- A million of a token, accepted and quoted again: solvent, for any payout from the floor up. -/
theorem planOf_solvent_million :
    ∃ plan : SwapPlan, plan.quote.minOut = 980000 ∧
      (((∃ ledger', twoSol.run false 1000000 plan.instructions = some ledger' ∧
          Solvent (oneSolFor tokenMint) plan 1000000 twoSol
            ledger') ∧
        980000 ≤ plan.quote.minOut ∧ 980000 ≤ plan.quote.minNetOut) ↔
        ¬ FeeInUsdcNatively (oneSolFor tokenMint)
          (millionPool false tokenMint)
          (some ⟨"pool", 1000000000, 500, 980000, 980000⟩)) := by
  obtain ⟨plan, hplan, hinput, houtput, hfloor⟩ : ∃ plan : SwapPlan,
      PlanOf walletTokenAccount 0 1 (oneSolFor tokenMint)
        (millionPool false tokenMint)
        (some ⟨"pool", 1000000000, 500, 980000, 980000⟩) plan ∧
      plan.inputAccount = "8LjUgMjzZuHj8VdyxzkmLLQVmW4C3gd56md1nLd76TNW" ∧
      plan.outputAccount = "5hpfC9VBxVcoW9opCnM2PqR6YWRLBzrBpabJTZnwwNiw" ∧
      plan.quote.minOut = 980000 :=
    ⟨_, .second rfl, rfl, rfl, rfl⟩
  have hfunded : Funded (oneSolFor tokenMint) plan
      twoSol := by
    constructor
    · rw [hinput]
      exact fun mint hmint => nomatch hmint
    · rw [houtput]
      exact fun mint hmint => nomatch hmint
    · rfl
    · rfl
    · show (1000000000 : ℕ) ≤ 2000000000
      omega
  exact ⟨plan, hfloor, planOf_solvent_iff hplan (walletTokenAccount_separate _ (by decide)) hfunded
    (by rw [hfloor]; decide)⟩

/-- **A pool of USDC and SOL that settles in native SOL**: the quote is accepted, the plan is built,
and it is reverted when the fee is wrapped into the USDC account. -/
theorem not_planOf_solvent :
    ¬ ∀ (associatedAddress : AssociatedAddress) (priorityFeeMicroLamports : ℕ) (maxImpact : ℚ)
      (intent : DirectSwapIntent) (market : PoolMarket) (accepted : Option DirectExecutionData)
      (plan : SwapPlan) (ledger : Ledger) (payout : ℕ),
      PlanOf associatedAddress priorityFeeMicroLamports maxImpact intent market accepted plan →
      Separate associatedAddress intent → Funded intent plan ledger →
      plan.quote.minOut ≤ payout →
      (∃ ledger', ledger.run market.settlesNativeSol payout plan.instructions = some ledger' ∧
          Solvent intent plan payout ledger ledger') ∧
        acceptedMinOut accepted ≤ plan.quote.minOut ∧
        acceptedMinNetOut accepted ≤ plan.quote.minNetOut := by
  intro h
  obtain ⟨plan, hplan, hinput, houtput, hfloor⟩ : ∃ plan : SwapPlan,
      PlanOf walletTokenAccount 0 1 (oneSolFor usdcMint) (millionPool true usdcMint) none plan ∧
      plan.inputAccount = "8LjUgMjzZuHj8VdyxzkmLLQVmW4C3gd56md1nLd76TNW" ∧
      plan.outputAccount = "FGETo8T8wMcN2wCjav8VK6eh3dLk63evNDPxzLSJra8B" ∧
      plan.quote.minOut = 950000 :=
    ⟨_, .first rfl rfl, rfl, rfl, rfl⟩
  have hseparate := walletTokenAccount_separate usdcMint (by decide)
  have hfunded : Funded (oneSolFor usdcMint) plan twoSol := by
    constructor
    · rw [hinput]
      exact fun mint hmint => nomatch hmint
    · rw [houtput]
      exact fun mint hmint => nomatch hmint
    · rfl
    · rfl
    · show (1000000000 : ℕ) ≤ 2000000000
      omega
  have husdc : FeeInUsdcNatively (oneSolFor usdcMint) (millionPool true usdcMint) none :=
    ⟨rfl, rfl, _, rfl, by decide⟩
  obtain ⟨⟨ledger', hrun, -⟩, -⟩ := h _ _ _ _ _ _ _ _ 1000000 hplan hseparate hfunded
    (by rw [hfloor]; decide)
  rw [hplan.reverted hseparate hfunded 1000000 husdc] at hrun
  cases hrun

end Dripline.Swaps
