import Dripline.Swaps.Plan

/-!
# A direct plan can be paid

What the instructions of a plan do to the wallet, step by step.
-/

namespace Dripline.Swaps

open Dripline.Chain Option Function

/-! ## Views of a ledger -/

/-- The addresses a plan moves balances between, and what the token accounts hold. -/
structure Roles where
  owner : Pubkey
  input : Pubkey
  output : Pubkey
  platform : Pubkey
  inputMint : Pubkey
  outputMint : Pubkey
  feeMint : Pubkey
  owner_ne_input : owner ≠ input
  owner_ne_output : owner ≠ output
  input_ne_output : input ≠ output
  platform_ne_owner : platform ≠ owner
  platform_ne_input : platform ≠ input
  platform_ne_output : platform ≠ output

/-- The other direction. -/
def Roles.swapped (r : Roles) : Roles where
  owner := r.owner
  input := r.output
  output := r.input
  platform := r.platform
  inputMint := r.outputMint
  outputMint := r.inputMint
  feeMint := r.feeMint
  owner_ne_input := r.owner_ne_output
  owner_ne_output := r.owner_ne_input
  input_ne_output := r.input_ne_output.symm
  platform_ne_owner := r.platform_ne_owner
  platform_ne_input := r.platform_ne_output
  platform_ne_output := r.platform_ne_input

/-- The balances of a plan's addresses. -/
structure View where
  native : ℕ
  inLamports : ℕ
  inTokens : ℕ
  outLamports : ℕ
  outTokens : ℕ
  collected : ℕ

/-- The other direction. -/
def View.swapped (v : View) : View where
  native := v.native
  inLamports := v.outLamports
  inTokens := v.outTokens
  outLamports := v.inLamports
  outTokens := v.inTokens
  collected := v.collected

/-- A ledger has these balances. -/
structure Roles.Shows (r : Roles) (ledger : Ledger) (v : View) : Prop where
  native : ledger.lamports r.owner = v.native
  inLamports : ledger.lamports r.input = v.inLamports
  inTokens : ledger.tokens r.input = v.inTokens
  outLamports : ledger.lamports r.output = v.outLamports
  outTokens : ledger.tokens r.output = v.outTokens
  collected : ledger.tokens r.platform = v.collected

/-- A ledger has the token accounts. -/
structure Roles.Minted (r : Roles) (ledger : Ledger) : Prop where
  input : ledger.mint r.input = some r.inputMint
  output : ledger.mint r.output = some r.outputMint
  platform : ledger.mint r.platform = some r.feeMint

section effects

variable {r : Roles} {ledger : Ledger} {v : View}

lemma Roles.Shows.swap (h : r.Shows ledger v) : r.swapped.Shows ledger v.swapped :=
  ⟨h.native, h.outLamports, h.outTokens, h.inLamports, h.inTokens, h.collected⟩

lemma Roles.Minted.swap (h : r.Minted ledger) : r.swapped.Minted ledger :=
  ⟨h.output, h.input, h.platform⟩

lemma Roles.Minted.of_eq {ledger' : Ledger} (h : r.Minted ledger)
    (heq : ledger'.mint = ledger.mint) : r.Minted ledger' := by
  constructor <;> rw [heq]
  · exact h.input
  · exact h.output
  · exact h.platform

section

variable (h : r.Shows ledger v)
include h

lemma Roles.Shows.setNative (amount : ℕ) :
    r.Shows (ledger.setLamports r.owner amount) { v with native := amount } := by
  constructor <;>
    simp [Ledger.setLamports, update_of_ne, r.owner_ne_input.symm,
      r.owner_ne_output.symm, h.inLamports, h.inTokens, h.outLamports, h.outTokens, h.collected]

lemma Roles.Shows.setInLamports (amount : ℕ) :
    r.Shows (ledger.setLamports r.input amount) { v with inLamports := amount } := by
  constructor <;>
    simp [Ledger.setLamports, update_of_ne, r.owner_ne_input, r.input_ne_output.symm,
      h.native, h.inTokens, h.outLamports, h.outTokens, h.collected]

lemma Roles.Shows.setInTokens (amount : ℕ) :
    r.Shows (ledger.setTokens r.input amount) { v with inTokens := amount } := by
  constructor <;>
    simp [Ledger.setTokens, update_of_ne, r.input_ne_output.symm, r.platform_ne_input,
      h.native, h.inLamports, h.outLamports, h.outTokens, h.collected]

lemma Roles.Shows.setCollected (amount : ℕ) :
    r.Shows (ledger.setTokens r.platform amount) { v with collected := amount } := by
  constructor <;>
    simp [Ledger.setTokens, update_of_ne, r.platform_ne_input.symm,
      r.platform_ne_output.symm, h.native, h.inLamports, h.inTokens, h.outLamports, h.outTokens]

lemma Roles.Shows.setPlatformLamports (amount : ℕ) :
    r.Shows (ledger.setLamports r.platform amount) v := by
  constructor <;>
    simp [Ledger.setLamports, update_of_ne, r.platform_ne_owner.symm,
      r.platform_ne_input.symm, r.platform_ne_output.symm, h.native, h.inLamports, h.inTokens,
      h.outLamports, h.outTokens, h.collected]

lemma Roles.Shows.spendNative (amount : ℕ) (hle : amount ≤ v.native) :
    ∃ ledger', ledger.spend r.owner amount = some ledger' ∧ ledger'.mint = ledger.mint ∧
      r.Shows ledger' { v with native := v.native - amount } := by
  refine ⟨_, if_pos (by rwa [h.native]), rfl, ?_⟩
  rw [h.native]
  exact h.setNative _

lemma Roles.Shows.debitInput (hmint : r.Minted ledger) (amount : ℕ) (hle : amount ≤ v.inTokens)
    (hlamports : isWsol r.inputMint = true → amount ≤ v.inLamports) :
    ∃ ledger', ledger.debit r.input r.inputMint amount = some ledger' ∧
      ledger'.mint = ledger.mint ∧
      r.Shows ledger' { v with
        inTokens := v.inTokens - amount
        inLamports := if isWsol r.inputMint then v.inLamports - amount else v.inLamports } := by
  have htokens := h.setInTokens (v.inTokens - amount)
  unfold Ledger.debit
  rw [if_pos ⟨hmint.input, by rwa [h.inTokens]⟩, h.inTokens]
  cases hwsol : isWsol r.inputMint with
  | true =>
    simp only [if_true]
    refine ⟨_, if_pos ?_, rfl, ?_⟩
    · rw [htokens.inLamports]
      exact hlamports hwsol
    · rw [htokens.inLamports]
      exact htokens.setInLamports _
  | false => exact ⟨_, rfl, rfl, htokens⟩

lemma Roles.Shows.creditInput (hmint : r.Minted ledger) (amount : ℕ) :
    ∃ ledger', ledger.credit r.input r.inputMint amount = some ledger' ∧
      ledger'.mint = ledger.mint ∧
      r.Shows ledger' { v with
        inTokens := v.inTokens + amount
        inLamports := if isWsol r.inputMint then v.inLamports + amount else v.inLamports } := by
  have htokens := h.setInTokens (v.inTokens + amount)
  unfold Ledger.credit
  rw [if_pos hmint.input, h.inTokens]
  cases hwsol : isWsol r.inputMint with
  | true =>
    refine ⟨_, rfl, rfl, ?_⟩
    simp only [if_true, Ledger.receive]
    rw [htokens.inLamports]
    exact htokens.setInLamports _
  | false => exact ⟨_, rfl, rfl, htokens⟩

lemma Roles.Shows.creditPlatform (hmint : r.Minted ledger) (amount : ℕ) :
    ∃ ledger', ledger.credit r.platform r.feeMint amount = some ledger' ∧
      ledger'.mint = ledger.mint ∧
      r.Shows ledger' { v with collected := v.collected + amount } := by
  have htokens := h.setCollected (v.collected + amount)
  unfold Ledger.credit
  rw [if_pos hmint.platform, h.collected]
  cases hwsol : isWsol r.feeMint with
  | true =>
    refine ⟨_, rfl, rfl, ?_⟩
    exact htokens.setPlatformLamports _
  | false => exact ⟨_, rfl, rfl, htokens⟩

end

variable (native : Bool) (payout : ℕ)

lemma Roles.wrap (h : r.Shows ledger v) (hmint : r.Minted ledger) (hsol : r.inputMint = solMint)
    (amount : ℕ) (hle : amount ≤ v.native) :
    ∃ ledger' tokens,
      ledger.run native payout (wrapInstructions r.owner r.input amount) = some ledger' ∧
      ledger'.mint = ledger.mint ∧ amount ≤ tokens ∧
      r.Shows ledger' { v with
        native := v.native - amount
        inLamports := v.inLamports + amount
        inTokens := tokens } := by
  unfold wrapInstructions
  by_cases hpos : 0 < amount
  · obtain ⟨paid, hpaid, hmints, hshows⟩ := h.spendNative amount hle
    have hreceived := hshows.setInLamports (v.inLamports + amount)
    have hsynced := hreceived.setInTokens (v.inLamports + amount)
    refine ⟨(paid.setLamports r.input (v.inLamports + amount)).setTokens r.input
      (v.inLamports + amount), v.inLamports + amount, ?_, hmints, Nat.le_add_left _ _, hsynced⟩
    rw [if_pos hpos]
    have hin : paid.lamports r.input = v.inLamports := hshows.inLamports
    have hm : paid.mint r.input = some solMint := by rw [hmints, hmint.input, hsol]
    simp [Ledger.run, Ledger.step, hpaid, Ledger.receive, hin, Ledger.setLamports, hm]
  · obtain rfl : amount = 0 := by omega
    refine ⟨ledger, v.inTokens, ?_, rfl, Nat.zero_le _, ?_⟩
    · rw [if_neg hpos]
      rfl
    · simpa using h

lemma Roles.transferFee (h : r.Shows ledger v) (hmint : r.Minted ledger) (fee : PlatformFee)
    (hfeeMint : fee.mint = some r.feeMint) (hdestination : fee.destination = some r.platform)
    (hsame : r.feeMint = r.inputMint) (hle : fee.amount ≤ v.inTokens)
    (hlamports : isWsol r.inputMint = true → fee.amount ≤ v.inLamports) :
    ∃ ledger',
      ledger.run native payout (fee.transferInstruction r.input r.owner) = some ledger' ∧
      ledger'.mint = ledger.mint ∧
      r.Shows ledger' { v with
        inTokens := v.inTokens - fee.amount
        inLamports :=
          if isWsol r.inputMint then v.inLamports - fee.amount else v.inLamports
        collected := v.collected + fee.amount } := by
  unfold PlatformFee.transferInstruction PlatformFee.isCollectible
  simp only [hfeeMint, hdestination, isSome_some, Bool.and_true, decide_eq_true_eq]
  by_cases hpos : 0 < fee.amount
  · obtain ⟨paid, hpaid, hmint₁, hshows₁⟩ := h.debitInput hmint fee.amount hle hlamports
    obtain ⟨ledger', hcredit, hmint₂, hshows₂⟩ :=
      hshows₁.creditPlatform (hmint.of_eq hmint₁) fee.amount
    refine ⟨ledger', ?_, hmint₂.trans hmint₁, hshows₂⟩
    rw [if_pos hpos]
    simp only [Ledger.run, List.foldlM_cons, List.foldlM_nil, Ledger.step]
    rw [hsame, hpaid]
    simpa [hsame] using hcredit
  · have hzero : fee.amount = 0 := by omega
    refine ⟨ledger, ?_, rfl, ?_⟩
    · rw [if_neg hpos]
      rfl
    · simpa [hzero] using h

lemma Roles.close (h : r.Shows ledger v) (hmint : r.Minted ledger) (hsol : r.inputMint = solMint) :
    ∃ ledger',
      ledger.run native payout [.closeAccount r.input r.owner r.owner] = some ledger' ∧
      r.Shows ledger' { v with
        native := v.native + v.inLamports
        inLamports := 0
        inTokens := 0 } := by
  have hemptied := (h.setInTokens 0).setInLamports 0
  have hclosed := hemptied.setNative (v.native + v.inLamports)
  refine ⟨{ ((ledger.setTokens r.input 0).setLamports r.input 0).setLamports r.owner
    (v.native + v.inLamports) with mint := Function.update ledger.mint r.input none }, ?_,
    ⟨hclosed.native, hclosed.inLamports, hclosed.inTokens, hclosed.outLamports,
      hclosed.outTokens, hclosed.collected⟩⟩
  have hm : ledger.mint r.input = some solMint := by rw [hmint.input, hsol]
  simp only [Ledger.run, List.foldlM_cons, List.foldlM_nil, Ledger.step, hm, true_or, if_true]
  simp only [Ledger.receive, h.inLamports, hemptied.native]
  rfl

end effects

/-! ## Token accounts stay -/

variable {ledger' : Ledger} {amount : ℕ} {ledger : Ledger}

lemma Ledger.spend_mint {address : Pubkey} (h : ledger.spend address amount = some ledger') :
    ledger'.mint = ledger.mint := by
  unfold Ledger.spend at h
  split at h
  next => obtain rfl := Option.some.inj h; rfl
  next => cases h

variable {account mint : Pubkey}

lemma Ledger.debit_mint (h : ledger.debit account mint amount = some ledger') :
    ledger'.mint = ledger.mint := by
  unfold Ledger.debit at h
  split at h
  next =>
    dsimp only at h
    split at h
    next =>
      have hspent := Ledger.spend_mint h
      exact hspent
    next => obtain rfl := Option.some.inj h; rfl
  next => cases h

lemma Ledger.credit_mint (h : ledger.credit account mint amount = some ledger') :
    ledger'.mint = ledger.mint := by
  unfold Ledger.credit at h
  split at h
  next =>
    obtain rfl := Option.some.inj h
    split <;> rfl
  next => cases h

/-- Only these two create and close token accounts. -/
def Instruction.keepsMints : Instruction → Bool
  | .createAssociatedTokenAccountIdempotent .. => false
  | .closeAccount .. => false
  | _ => true

variable {native : Bool} {payout : ℕ}

lemma Ledger.step_mint {instruction : Instruction} (hkeeps : instruction.keepsMints = true)
    (h : ledger.step native payout instruction = some ledger') : ledger'.mint = ledger.mint := by
  cases instruction with
  | setComputeUnitLimit units | setComputeUnitPrice price => obtain rfl := Option.some.inj h; rfl
  | createAssociatedTokenAccountIdempotent | closeAccount => cases hkeeps
  | transfer source destination lamports =>
    obtain ⟨paid, hpaid, rfl⟩ := map_eq_some_iff.mp h
    show paid.mint = ledger.mint
    exact Ledger.spend_mint hpaid
  | syncNative account =>
    simp only [Ledger.step] at h
    split at h
    next => obtain rfl := Option.some.inj h; rfl
    next => cases h
  | transferChecked source mint destination authority amount decimals =>
    obtain ⟨paid, hpaid, hcredit⟩ := bind_eq_some_iff.mp h
    exact (Ledger.credit_mint hcredit).trans (Ledger.debit_mint hpaid)
  | swap accounts amountIn minOut data =>
    simp only [Ledger.step, Ledger.swap] at h
    split at h
    next =>
      obtain ⟨paid, hpaid, hreceived⟩ := bind_eq_some_iff.mp h
      have hpaidmint : paid.mint = ledger.mint := by
        split at hpaid
        next => exact Ledger.spend_mint hpaid
        next => exact Ledger.debit_mint hpaid
      rw [← hpaidmint]
      split at hreceived
      next => obtain rfl := Option.some.inj hreceived; rfl
      next => exact Ledger.credit_mint hreceived
    next => cases h

lemma Ledger.run_mint {instructions : List Instruction} :
    ∀ {ledger ledger' : Ledger}, (∀ i ∈ instructions, i.keepsMints = true) →
      ledger.run native payout instructions = some ledger' → ledger'.mint = ledger.mint := by
  induction instructions with
  | nil =>
    intro ledger ledger' _ h
    obtain rfl := Option.some.inj h
    rfl
  | cons i rest ih =>
    intro ledger ledger' hkeeps h
    obtain ⟨next, hnext, hrest⟩ := bind_eq_some_iff.mp h
    rw [ih (fun j hj => hkeeps j (List.mem_cons_of_mem _ hj)) hrest]
    exact Ledger.step_mint (hkeeps i List.mem_cons_self) hnext

variable {i : Instruction}

lemma keepsMints_of_mem_wrap {owner : Pubkey} (h : i ∈ wrapInstructions owner account amount) :
    i.keepsMints = true := by
  unfold wrapInstructions at h
  split at h
  next => rcases List.mem_pair.mp h with rfl | rfl <;> rfl
  next => cases h

lemma keepsMints_of_mem_transfer {fee : PlatformFee} {source authority : Pubkey}
    (h : i ∈ fee.transferInstruction source authority) : i.keepsMints = true := by
  unfold PlatformFee.transferInstruction at h
  split at h
  next =>
    split at h
    next => obtain rfl := List.mem_singleton.mp h; rfl
    next => cases h
  next => cases h

/-! ## The parts of a plan -/

/-- The addresses of a plan play the roles. -/
structure Roles.Play (r : Roles) (intent : DirectSwapIntent) (legs : WalletLegs)
    (fee : PlatformFee) : Prop where
  owner : r.owner = intent.owner
  input : r.input = legs.inputAccount
  output : r.output = legs.outputAccount
  inputMint : r.inputMint = intent.inputMint
  outputMint : r.outputMint = intent.outputMint
  feeMint : ∀ mint, fee.mint = some mint → r.feeMint = mint
  platform : ∀ destination, fee.destination = some destination → r.platform = destination

/-- Everything that was asked has been paid from the input, an input fee with it. -/
structure Paid (inputMint : Pubkey) (amountIn fee : ℕ) (v v' : View) : Prop where
  wsol : isWsol inputMint = true →
    v'.native + v'.inLamports + amountIn = v.native + v.inLamports
  native : isWsol inputMint = false → v'.native = v.native
  tokens : isWsol inputMint = false → v'.inTokens + amountIn = v.inTokens
  outLamports : v'.outLamports = v.outLamports
  outTokens : v'.outTokens = v.outTokens
  collected : v'.collected = v.collected + fee

/-- The whole payout has been received in the output, less an output fee. -/
structure Received (outputMint : Pubkey) (payout fee : ℕ) (v v' : View) : Prop where
  wsol : isWsol outputMint = true →
    v'.native + v'.outLamports + fee = v.native + v.outLamports + payout
  native : isWsol outputMint = false → v'.native = v.native
  tokens : isWsol outputMint = false → v'.outTokens + fee = v.outTokens + payout
  inLamports : v'.inLamports = v.inLamports
  inTokens : v'.inTokens = v.inTokens
  collected : v'.collected = v.collected + fee

lemma Ledger.run_append (native : Bool) (payout : ℕ) (a b : List Instruction) (ledger : Ledger) :
    ledger.run native payout (a ++ b) =
      (ledger.run native payout a).bind (Ledger.run native payout b) := by
  unfold Ledger.run
  rw [List.foldlM_append]
  rfl

section parts

variable {r : Roles} {intent : DirectSwapIntent} {market : PoolMarket} {quote : DirectQuote}
  {legs : WalletLegs} {ledger : Ledger} {v : View} {payout : ℕ}

lemma Ledger.step_create (ledger : Ledger) (native : Bool) (payout : ℕ)
    (payer owner mint program account : Pubkey)
    (hmint : ∀ existing, ledger.mint account = some existing → existing = mint) :
    ∃ ledger', ledger.step native payout
        (.createAssociatedTokenAccountIdempotent payer owner mint program account) =
          some ledger' ∧
      ledger'.lamports = ledger.lamports ∧ ledger'.tokens = ledger.tokens ∧
      ledger'.mint = Function.update ledger.mint account (some mint) := by
  simp only [Ledger.step]
  cases h : ledger.mint account with
  | none => exact ⟨_, rfl, rfl, rfl, rfl⟩
  | some existing =>
    obtain rfl := hmint existing h
    refine ⟨ledger, if_pos rfl, rfl, rfl, ?_⟩
    rw [← h, update_eq_self]

lemma Roles.ensures (hplay : r.Play intent legs quote.fee) (native : Bool) (payout units price : ℕ)
    (hinput : ∀ mint, ledger.mint r.input = some mint → mint = r.inputMint)
    (houtput : ∀ mint, ledger.mint r.output = some mint → mint = r.outputMint)
    (hplatform : ledger.mint r.platform = some r.feeMint) (hshows : r.Shows ledger v) :
    ∃ ledger',
      ledger.run native payout (computeBudgetInstructions units price ++
        legs.ensureInstructions intent.owner intent.owner intent.inputMint intent.outputMint) =
          some ledger' ∧
      r.Minted ledger' ∧ r.Shows ledger' v := by
  obtain ⟨created, hcreated, hlamports₁, htokens₁, hmint₁⟩ :=
    ledger.step_create native payout intent.owner intent.owner r.inputMint legs.inputProgram r.input
      hinput
  obtain ⟨ledger', hcreated', hlamports₂, htokens₂, hmint₂⟩ :=
    created.step_create native payout intent.owner intent.owner r.outputMint legs.outputProgram
      r.output (by
        rw [hmint₁, update_of_ne r.input_ne_output.symm]
        exact houtput)
  refine ⟨ledger', ?_, ?_, ?_⟩
  · rw [hplay.input, hplay.inputMint] at hcreated
    rw [hplay.output, hplay.outputMint] at hcreated'
    -- the compute budget moves nothing
    show (ledger.step native payout _).bind
      (fun created => (created.step native payout _).bind some) = some ledger'
    rw [hcreated, bind_some, hcreated', bind_some]
  · constructor
    · rw [hmint₂, update_of_ne r.input_ne_output, hmint₁, update_self]
    · rw [hmint₂, update_self]
    · rw [hmint₂, update_of_ne r.platform_ne_output, hmint₁,
        update_of_ne r.platform_ne_input, hplatform]
  · have hlamports : ledger'.lamports = ledger.lamports := hlamports₂.trans hlamports₁
    have htokens : ledger'.tokens = ledger.tokens := htokens₂.trans htokens₁
    constructor
    · rw [hlamports, hshows.native]
    · rw [hlamports, hshows.inLamports]
    · rw [htokens, hshows.inTokens]
    · rw [hlamports, hshows.outLamports]
    · rw [htokens, hshows.outTokens]
    · rw [htokens, hshows.collected]

lemma QuoteOf.inputFee (hquote : QuoteOf intent quote) (hside : quote.fee.side = .input) :
    quote.fee.mint = some intent.inputMint ∧ quote.fee.destination.isSome = true ∧
      quote.fee.amount ≤ intent.amountIn := by
  have hfee := hquote.fee
  rw [if_pos hside] at hfee
  generalize quote.fee = fee at hfee hside
  cases hfee with
  | none => cases hside
  | inputWsol hmint | inputUsdc hmint => exact ⟨by rw [hmint], rfl, platformFeeAmount_le _⟩
  | outputWsol _ => cases hside
  | outputUsdc _ => cases hside

lemma QuoteOf.outputFee (hquote : QuoteOf intent quote) (hside : quote.fee.side = .output) :
    quote.fee.mint = some intent.outputMint ∧ quote.fee.destination.isSome = true ∧
      quote.fee.amount ≤ quote.minOut := by
  have hfee := hquote.fee
  rw [if_neg (by rw [hside]; decide)] at hfee
  generalize quote.fee = fee at hfee hside
  cases hfee with
  | none => cases hside
  | inputWsol _ => cases hside
  | inputUsdc _ => cases hside
  | outputWsol hmint | outputUsdc hmint => exact ⟨by rw [hmint], rfl, platformFeeAmount_le _⟩

lemma QuoteOf.noFee (hquote : QuoteOf intent quote) (hside : quote.fee.side = .none) :
    quote.fee = PlatformFee.none := by
  have hfee := hquote.fee
  rw [if_neg (by rw [hside]; decide)] at hfee
  generalize quote.fee = fee at hfee hside
  cases hfee with
  | none => rfl
  | inputWsol _ => cases hside
  | inputUsdc _ => cases hside
  | outputWsol _ => cases hside
  | outputUsdc _ => cases hside

/-- What an input fee takes from the amount asked for. -/
def PlatformFee.onInput (fee : PlatformFee) : ℕ := if fee.side = .input then fee.amount else 0

lemma Roles.paysFee (hplay : r.Play intent legs quote.fee) (hquote : QuoteOf intent quote)
    (hshows : r.Shows ledger v) (hminted : r.Minted ledger) (native : Bool) (payout : ℕ)
    (hle : quote.fee.onInput ≤ v.inTokens)
    (hlamports : isWsol intent.inputMint = true → quote.fee.onInput ≤ v.inLamports) :
    ∃ ledger',
      ledger.run native payout (Swaps.inputFee intent quote legs) = some ledger' ∧
      ledger'.mint = ledger.mint ∧
      r.Shows ledger' { v with
        inTokens := v.inTokens - quote.fee.onInput
        inLamports :=
          if isWsol intent.inputMint then v.inLamports - quote.fee.onInput else v.inLamports
        collected := v.collected + quote.fee.onInput } := by
  unfold Swaps.inputFee
  by_cases hside : quote.fee.side = .input
  · obtain ⟨hmint, hdestination, -⟩ := hquote.inputFee hside
    obtain ⟨destination, hdestination⟩ := isSome_iff_exists.mp hdestination
    have hfeeMint := hplay.feeMint _ hmint
    simp only [PlatformFee.onInput, if_pos hside] at hle hlamports ⊢
    rw [← hplay.input, ← hplay.owner, ← hplay.inputMint]
    refine Roles.transferFee native payout hshows hminted _ ?_ ?_ ?_ hle ?_
    · rw [hmint, hfeeMint]
    · rw [hdestination, hplay.platform _ hdestination]
    · rw [hfeeMint, hplay.inputMint]
    · rwa [hplay.inputMint]
  · simp only [PlatformFee.onInput, if_neg hside]
    exact ⟨ledger, rfl, rfl, by simpa using hshows⟩

variable (market) (payout) in
lemma Roles.pays (hplay : r.Play intent legs quote.fee) (hquote : QuoteOf intent quote)
    (hshows : r.Shows ledger v) (hminted : r.Minted ledger)
    (hcovers : intent.amountIn ≤ if isWsol intent.inputMint then v.native else v.inTokens)
    (hstranded : market.settlesNativeSol = true → isWsol intent.inputMint = true →
      quote.fee.side = .output → quote.fee.amount = 0) :
    ∃ ledger₁ paid v',
      ledger.run market.settlesNativeSol payout
        (inputWrap intent market quote legs ++ Swaps.inputFee intent quote legs) =
          some ledger₁ ∧
      (if market.settlesNativeSol && isWsol intent.inputMint then
        ledger₁.spend intent.owner quote.swapAmountIn
      else ledger₁.debit legs.inputAccount intent.inputMint quote.swapAmountIn) = some paid ∧
      paid.mint = ledger.mint ∧ r.Shows paid v' ∧
      Paid intent.inputMint intent.amountIn quote.fee.onInput v v' := by
  have hswap : quote.swapAmountIn + quote.fee.onInput = intent.amountIn := by
    rw [hquote.swapAmountIn]
    unfold PlatformFee.onInput
    split
    next hside => exact Nat.sub_add_cancel (hquote.inputFee hside).2.2
    next => rfl
  rw [Ledger.run_append]
  cases hwsol : isWsol intent.inputMint with
  | false =>
    -- nothing is wrapped: fee and swap are paid in tokens
    rw [hwsol] at hcovers
    simp only [Bool.false_eq_true, if_false] at hcovers
    obtain ⟨ledger₁, hrun, hmint₁, hshows₁⟩ := Roles.paysFee hplay hquote
      hshows hminted market.settlesNativeSol payout (by omega) (by simp [hwsol])
    obtain ⟨paid, hpaid, hmint₂, hshows₂⟩ :=
      hshows₁.debitInput (hminted.of_eq hmint₁) quote.swapAmountIn
        (show quote.swapAmountIn ≤ v.inTokens - quote.fee.onInput by omega)
        (by simp [hplay.inputMint, hwsol])
    refine ⟨ledger₁, paid, _, ?_, ?_, hmint₂.trans hmint₁, hshows₂, ?_⟩
    · simp only [inputWrap, DirectSwapIntent.wrapsNative, hwsol]
      exact hrun
    · rw [← hplay.input, ← hplay.inputMint]
      simpa using hpaid
    · refine ⟨by simp [hwsol], fun _ => rfl, fun _ => ?_, ?_, rfl, rfl⟩
      · show v.inTokens - quote.fee.onInput - quote.swapAmountIn + intent.amountIn = v.inTokens
        omega
      · rfl
  | true =>
    have hsol : r.inputMint = solMint := by
      rw [hplay.inputMint]
      exact beq_iff_eq.mp hwsol
    rw [hwsol] at hcovers
    simp only [if_true] at hcovers
    have hwrapped : inputWrap intent market quote legs = wrapInstructions r.owner r.input
        (if market.settlesNativeSol then quote.fee.amount else intent.amountIn) := by
      simp only [inputWrap, DirectSwapIntent.wrapsNative, hwsol, if_true, hplay.owner,
        hplay.input]
    rw [hwrapped]
    cases hnative : market.settlesNativeSol with
    | false =>
      -- everything is wrapped: fee and swap are paid from the wrapped account
      obtain ⟨wrapped, tokens, hrun, hmint₀, hle, hshows₀⟩ :=
        Roles.wrap false payout hshows hminted hsol intent.amountIn (by omega)
      obtain ⟨ledger₁, hrun₁, hmint₁, hshows₁⟩ := Roles.paysFee hplay hquote
        hshows₀ (hminted.of_eq hmint₀) false payout
        (show quote.fee.onInput ≤ tokens by omega)
        (fun _ => show quote.fee.onInput ≤ v.inLamports + intent.amountIn by omega)
      simp only [hwsol, if_true] at hshows₁
      obtain ⟨paid, hpaid, hmint₂, hshows₂⟩ :=
        hshows₁.debitInput ((hminted.of_eq hmint₀).of_eq hmint₁)
          quote.swapAmountIn
          (show quote.swapAmountIn ≤ tokens - quote.fee.onInput by omega)
          (fun _ => show quote.swapAmountIn ≤
            v.inLamports + intent.amountIn - quote.fee.onInput by omega)
      refine ⟨ledger₁, paid, _, ?_, ?_, hmint₂.trans (hmint₁.trans hmint₀), hshows₂, ?_⟩
      · simp only [Bool.false_eq_true, if_false, hrun, bind_some, hrun₁]
      · rw [← hplay.input, ← hplay.inputMint]
        simpa using hpaid
      · refine ⟨fun _ => ?_, by simp [hwsol], by simp [hwsol], rfl, rfl, rfl⟩
        simp only [hplay.inputMint, hwsol, if_true]
        omega
    | true =>
      -- only the fee is wrapped: the pool takes lamports
      have hfee : quote.fee.amount = quote.fee.onInput := by
        unfold PlatformFee.onInput
        split
        next => rfl
        next hside =>
          cases hcase : quote.fee.side with
          | input => exact absurd hcase hside
          | output => exact hstranded hnative hwsol hcase
          | none => rw [hquote.noFee hcase]; rfl
      obtain ⟨wrapped, tokens, hrun, hmint₀, hle, hshows₀⟩ :=
        Roles.wrap true payout hshows hminted hsol quote.fee.onInput (by omega)
      obtain ⟨ledger₁, hrun₁, hmint₁, hshows₁⟩ := Roles.paysFee hplay hquote
        hshows₀ (hminted.of_eq hmint₀) true payout hle
        (fun _ => Nat.le_add_left _ _)
      simp only [hwsol, if_true] at hshows₁
      obtain ⟨paid, hpaid, hmint₂, hshows₂⟩ :=
        hshows₁.spendNative quote.swapAmountIn
          (show quote.swapAmountIn ≤ v.native - quote.fee.onInput by omega)
      refine ⟨ledger₁, paid, _, ?_, ?_, hmint₂.trans (hmint₁.trans hmint₀), hshows₂, ?_⟩
      · simp only [if_true, hfee, hrun, bind_some, hrun₁]
      · rw [← hplay.owner]
        simpa using hpaid
      · refine ⟨fun _ => ?_, by simp [hwsol], by simp [hwsol], rfl, rfl, rfl⟩
        show v.native - quote.fee.onInput - quote.swapAmountIn +
          (v.inLamports + quote.fee.onInput - quote.fee.onInput) + intent.amountIn =
            v.native + v.inLamports
        omega

variable (market) in
lemma Roles.receives (hplay : r.Play intent legs quote.fee) (hquote : QuoteOf intent quote)
    (hshows : r.Shows ledger v) (hminted : r.Minted ledger) (hfloor : quote.minOut ≤ payout)
    (hstranded : market.settlesNativeSol = true → isWsol intent.outputMint = false →
      quote.fee.side = .output → quote.fee.amount = 0) :
    ∃ received ledger' v',
      (if market.settlesNativeSol && isWsol intent.outputMint then
        some (ledger.receive intent.owner payout)
      else ledger.credit legs.outputAccount intent.outputMint payout) = some received ∧
      received.run market.settlesNativeSol payout (Swaps.outputFee intent market quote legs) =
        some ledger' ∧
      ledger'.mint = ledger.mint ∧ r.Shows ledger' v' ∧
      Received intent.outputMint payout quote.fee.onOutput v v' := by
  have hswapped := hshows.swap
  have hmswapped := hminted.swap
  have hfeele : quote.fee.onOutput ≤ payout := hquote.onOutput_le.trans hfloor
  -- the fee, from an output account that has the payout in it
  have hfeepart : ∀ {received : Ledger} {w : View}, received.mint = ledger.mint →
      r.swapped.Shows received w → quote.fee.onOutput ≤ w.inTokens →
      (isWsol intent.outputMint = true → quote.fee.onOutput ≤ w.inLamports) →
      ∃ ledger',
        received.run market.settlesNativeSol payout
          (if quote.fee.side = .output then
            quote.fee.transferInstruction legs.outputAccount intent.owner
          else []) = some ledger' ∧
        ledger'.mint = ledger.mint ∧
        r.swapped.Shows ledger' { w with
          inTokens := w.inTokens - quote.fee.onOutput
          inLamports :=
            if isWsol intent.outputMint then w.inLamports - quote.fee.onOutput else w.inLamports
          collected := w.collected + quote.fee.onOutput } := by
    intro received w hmint hw hle hlamports
    by_cases hside : quote.fee.side = .output
    · obtain ⟨hfmint, hdestination, -⟩ := hquote.outputFee hside
      obtain ⟨destination, hdestination⟩ := isSome_iff_exists.mp hdestination
      have hfeeMint := hplay.feeMint _ hfmint
      simp only [PlatformFee.onOutput, if_pos hside] at hle hlamports ⊢
      obtain ⟨ledger', hrun, hmint', hshows'⟩ := Roles.transferFee
        market.settlesNativeSol payout hw (hmswapped.of_eq hmint) quote.fee
        (by rw [hfmint]; exact congrArg some hfeeMint.symm)
        (by rw [hdestination]; exact congrArg some (hplay.platform _ hdestination).symm)
        (hfeeMint.trans hplay.outputMint.symm) hle (by
          show isWsol r.outputMint = true → _
          rwa [hplay.outputMint])
      refine ⟨ledger', ?_, hmint'.trans hmint, ?_⟩
      · rw [← hplay.output, ← hplay.owner]
        exact hrun
      · rw [← hplay.outputMint]
        exact hshows'
    · simp only [PlatformFee.onOutput, if_neg hside]
      exact ⟨received, rfl, hmint, by simpa using hw⟩
  cases hwsol : isWsol intent.outputMint with
  | false =>
    -- tokens are received, and the fee is paid from them
    obtain ⟨received, hreceived, hmint₁, hshows₁⟩ := hswapped.creditInput hmswapped payout
    have hnotwsol : isWsol r.swapped.inputMint = false := by
      show isWsol r.outputMint = false
      rw [hplay.outputMint, hwsol]
    simp only [hnotwsol, Bool.false_eq_true, if_false] at hshows₁
    obtain ⟨ledger', hrun, hmint₂, hshows₂⟩ := hfeepart hmint₁ hshows₁
      (show quote.fee.onOutput ≤ v.outTokens + payout by omega) (by simp [hwsol])
    simp only [hwsol, Bool.false_eq_true, if_false] at hshows₂
    refine ⟨received, ledger', _, ?_, ?_, hmint₂, hshows₂.swap, ?_⟩
    · rw [← hplay.output, ← hplay.outputMint]
      simp only [Bool.and_false, Bool.false_eq_true, if_false]
      exact hreceived
    · rw [← hrun]
      unfold Swaps.outputFee
      by_cases hside : quote.fee.side = .output
      · cases hnative : market.settlesNativeSol with
        | false => simp [hside]
        | true => simp [hside, hstranded hnative hwsol hside, wrapInstructions]
      · simp [hside]
    · refine ⟨by simp [hwsol], fun _ => rfl, fun _ => ?_, rfl, rfl, rfl⟩
      show v.outTokens + payout - quote.fee.onOutput + quote.fee.onOutput =
        v.outTokens + payout
      omega
  | true =>
    have hsol : r.swapped.inputMint = solMint := by
      show r.outputMint = solMint
      rw [hplay.outputMint]
      exact beq_iff_eq.mp hwsol
    have hiswsol : isWsol r.swapped.inputMint = true := by rw [hsol]; decide
    cases hnative : market.settlesNativeSol with
    | false =>
      -- wrapped SOL is received, and the fee is paid from it
      obtain ⟨received, hreceived, hmint₁, hshows₁⟩ := hswapped.creditInput hmswapped payout
      simp only [hiswsol, if_true] at hshows₁
      obtain ⟨ledger', hrun, hmint₂, hshows₂⟩ := hfeepart hmint₁ hshows₁
        (show quote.fee.onOutput ≤ v.outTokens + payout by omega)
        (fun _ => show quote.fee.onOutput ≤ v.outLamports + payout by omega)
      simp only [hwsol, if_true] at hshows₂
      refine ⟨received, ledger', _, ?_, ?_, hmint₂, hshows₂.swap, ?_⟩
      · rw [← hplay.output, ← hplay.outputMint]
        simp only [Bool.false_and, Bool.false_eq_true, if_false]
        exact hreceived
      · rw [hnative] at hrun
        rw [← hrun]
        unfold Swaps.outputFee
        simp [hnative]
      · refine ⟨fun _ => ?_, by simp [hwsol], by simp [hwsol], rfl, rfl, rfl⟩
        show v.native + (v.outLamports + payout - quote.fee.onOutput) +
          quote.fee.onOutput = v.native + v.outLamports + payout
        omega
    | true =>
      -- lamports are received, and the fee is wrapped first
      have hnativeshows := hswapped.setNative (v.native + payout)
      obtain ⟨wrapped, tokens, hwrap, hmint₁, hle, hshows₁⟩ :=
        Roles.wrap true payout hnativeshows
          (hmswapped.of_eq rfl) hsol quote.fee.onOutput
          (show quote.fee.onOutput ≤ v.native + payout by omega)
      obtain ⟨ledger', hrun, hmint₂, hshows₂⟩ := hfeepart hmint₁ hshows₁ hle
        (fun _ => Nat.le_add_left _ _)
      simp only [hwsol, if_true] at hshows₂
      have hreceive : ledger.receive intent.owner payout =
          ledger.setLamports r.swapped.owner (v.native + payout) := by
        show _ = ledger.setLamports r.owner (v.native + payout)
        rw [← hplay.owner, Ledger.receive, hshows.native]
      refine ⟨ledger.receive intent.owner payout, ledger', _, by simp, ?_, hmint₂,
        hshows₂.swap, ?_⟩
      · rw [hnative] at hrun
        unfold Swaps.outputFee
        by_cases hside : quote.fee.side = .output
        · have hamount : quote.fee.onOutput = quote.fee.amount := by
            simp [PlatformFee.onOutput, hside]
          rw [if_pos hside] at hrun
          rw [if_pos hside, hnative, if_pos rfl, Ledger.run_append, ← hplay.output,
            ← hplay.owner, ← hamount, hplay.owner, hreceive]
          have hwrap' : (ledger.setLamports r.swapped.owner (v.native + payout)).run true payout
              (wrapInstructions intent.owner r.output quote.fee.onOutput) = some wrapped := by
            rw [← hplay.owner]
            exact hwrap
          rw [hwrap', bind_some, hplay.output, hrun]
        · have hzero : quote.fee.onOutput = 0 := by simp [PlatformFee.onOutput, hside]
          rw [if_neg hside] at hrun ⊢
          rw [hzero] at hwrap
          have hsame : wrapped = ledger.setLamports r.swapped.owner (v.native + payout) :=
            (Option.some.inj hwrap).symm
          rw [hreceive, ← hsame]
          exact hrun
      · refine ⟨fun _ => ?_, by simp [hwsol], by simp [hwsol], rfl, rfl, rfl⟩
        show v.native + payout - quote.fee.onOutput +
          (v.outLamports + quote.fee.onOutput - quote.fee.onOutput) + quote.fee.onOutput =
            v.native + v.outLamports + payout
        omega

/-- The balances once the wrapped-SOL account of a plan is closed. -/
def View.closed (intent : DirectSwapIntent) (v : View) : View :=
  if isWsol intent.inputMint then
    { v with native := v.native + v.inLamports, inLamports := 0, inTokens := 0 }
  else if isWsol intent.outputMint then
    { v with native := v.native + v.outLamports, outLamports := 0, outTokens := 0 }
  else v

lemma Roles.closes (hplay : r.Play intent legs quote.fee) (native : Bool) (payout : ℕ)
    (hshows : r.Shows ledger v) (hminted : r.Minted ledger) :
    ∃ ledger', ledger.run native payout (closeWsol intent legs) = some ledger' ∧
      r.Shows ledger' (v.closed intent) := by
  unfold closeWsol wsolAccount View.closed
  by_cases hin : isWsol intent.inputMint = true
  · have hsol : r.inputMint = solMint := hplay.inputMint.trans (beq_iff_eq.mp hin)
    rw [if_pos hin, if_pos hin, ← hplay.input, ← hplay.owner]
    exact Roles.close native payout hshows hminted hsol
  · rw [if_neg hin, if_neg hin]
    by_cases hout : isWsol intent.outputMint = true
    · have hsol : r.swapped.inputMint = solMint := hplay.outputMint.trans (beq_iff_eq.mp hout)
      rw [if_pos hout, if_pos hout, ← hplay.output, ← hplay.owner]
      obtain ⟨ledger', hrun, hclosed⟩ := Roles.close native payout hshows.swap hminted.swap hsol
      exact ⟨ledger', hrun, hclosed.swap⟩
    · rw [if_neg hout, if_neg hout]
      exact ⟨ledger, rfl, hshows⟩

end parts

end Dripline.Swaps
