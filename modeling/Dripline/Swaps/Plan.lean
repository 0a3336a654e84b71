import Dripline.Swaps.Quote

/-!
# The plan of a direct swap

`direct/accounts.rs`, `direct/compute.rs` and `direct/plan.rs`: a quote expanded into instructions,
and what the instructions do to balances.

* `Instruction` — the instructions a plan is made of.
* `buildPlan` — their order.
* `freshPlan` — from an accepted quote to the plan that is executed.
* `Ledger`, `Ledger.step`, `Ledger.run` — lamports and token amounts, rent and network fees apart.
-/

namespace Dripline.Swaps

open Dripline.Chain

/-! ## Instructions -/

/-- The instructions of a plan, and of the venue's own its data. -/
inductive Instruction
  | setComputeUnitLimit (units : ℕ)
  | setComputeUnitPrice (microLamports : ℕ)
  | createAssociatedTokenAccountIdempotent (payer owner mint program account : Pubkey)
  | transfer (source destination : Pubkey) (lamports : ℕ)
  | syncNative (account : Pubkey)
  | transferChecked (source mint destination authority : Pubkey) (amount decimals : ℕ)
  | swap (accounts : SwapAccounts) (amountIn minOut : ℕ) (data : List UInt8)
  | closeAccount (account destination owner : Pubkey)

/-- The wallet's token account of a mint, by its owner, the mint and the mint's token program. -/
abbrev AssociatedAddress := Pubkey → Pubkey → Pubkey → Pubkey

/-- Source: `direct/compute.rs` -/
def computeUnitLimit (venueUnits : ℕ) : ℕ :=
  max 60000 (min 1400000 (min (venueUnits * 130) (2 ^ 32 - 1) / 100))

/-- Source: `direct/compute.rs` -/
def computeBudgetInstructions (venueUnits priorityFeeMicroLamports : ℕ) : List Instruction :=
  [.setComputeUnitLimit (computeUnitLimit venueUnits),
    .setComputeUnitPrice priorityFeeMicroLamports]

/-- The wallet's token accounts of both legs. Source: `direct/accounts.rs` -/
structure WalletLegs where
  inputAccount : Pubkey
  inputProgram : Pubkey
  outputAccount : Pubkey
  outputProgram : Pubkey

/-- Source: `direct/accounts.rs` -/
def WalletLegs.resolve (associatedAddress : AssociatedAddress) (owner : Pubkey)
    (market : PoolMarket) (inputMint outputMint : Pubkey) : Except DirectSwapError WalletLegs :=
  match market.tokenProgram inputMint, market.tokenProgram outputMint with
  | some inputProgram, some outputProgram => .ok {
      inputAccount := associatedAddress owner inputMint inputProgram
      inputProgram := inputProgram
      outputAccount := associatedAddress owner outputMint outputProgram
      outputProgram := outputProgram }
  | _, _ => .error (.pairNotInPool market.pool inputMint outputMint)

/-- Source: `direct/accounts.rs` -/
def WalletLegs.ensureInstructions (legs : WalletLegs) (payer owner inputMint outputMint : Pubkey) :
    List Instruction :=
  [.createAssociatedTokenAccountIdempotent payer owner inputMint legs.inputProgram
      legs.inputAccount,
    .createAssociatedTokenAccountIdempotent payer owner outputMint legs.outputProgram
      legs.outputAccount]

/-- Lamports moved into a wrapped-SOL account and counted there; nothing for no lamports. -/
def wrapInstructions (owner account : Pubkey) (amount : ℕ) : List Instruction :=
  if 0 < amount then [.transfer owner account amount, .syncNative account] else []

/-- Source: `direct/fee.rs` -/
def PlatformFee.transferInstruction (fee : PlatformFee) (source authority : Pubkey) :
    List Instruction :=
  match fee.mint, fee.destination with
  | some mint, some destination =>
    if fee.isCollectible then
      [.transferChecked source mint destination authority fee.amount fee.decimals]
    else []
  | _, _ => []

/-- Source: `direct/plan.rs` -/
def wsolAccount (intent : DirectSwapIntent) (legs : WalletLegs) : Option Pubkey :=
  if isWsol intent.inputMint then some legs.inputAccount
  else if isWsol intent.outputMint then some legs.outputAccount
  else none

/-- Source: `direct/plan.rs` -/
structure SwapPlan where
  instructions : List Instruction
  venueComputeUnits : ℕ
  inputAccount : Pubkey
  outputAccount : Pubkey
  outputIsNative : Bool
  quote : DirectQuote

variable (intent : DirectSwapIntent)

/-- The wrap of the input. A venue that settles in native SOL reads no wrapped account, so for it
only the fee is wrapped. Source: `direct/plan.rs`, step 4 of `build_plan` -/
def inputWrap (market : PoolMarket) (quote : DirectQuote) (legs : WalletLegs) : List Instruction :=
  if intent.wrapsNative then
    wrapInstructions intent.owner legs.inputAccount
      (if market.settlesNativeSol then quote.fee.amount else intent.amountIn)
  else []

/-- The fee, when the input leg pays it. Source: `direct/plan.rs`, step 5 of `build_plan` -/
def inputFee (quote : DirectQuote) (legs : WalletLegs) :
    List Instruction :=
  if quote.fee.side = .input then
    quote.fee.transferInstruction legs.inputAccount intent.owner
  else []

/-- The fee, when the output leg pays it, wrapped first where the proceeds are lamports.
Source: `direct/plan.rs`, steps 6a and 7 of `build_plan` -/
def outputFee (market : PoolMarket) (quote : DirectQuote) (legs : WalletLegs) : List Instruction :=
  if quote.fee.side = .output then
    (if market.settlesNativeSol then
      wrapInstructions intent.owner legs.outputAccount quote.fee.amount
    else []) ++
    quote.fee.transferInstruction legs.outputAccount intent.owner
  else []

/-- The close of the wrapped account. Source: `direct/plan.rs`, step 8 of `build_plan` -/
def closeWsol (legs : WalletLegs) : List Instruction :=
  match wsolAccount intent legs with
  | some account => [.closeAccount account intent.owner intent.owner]
  | none => []

/-- Source: `direct/plan.rs` -/
def buildPlan (associatedAddress : AssociatedAddress) (priorityFeeMicroLamports : ℕ)
    (intent : DirectSwapIntent) (market : PoolMarket) (quote : DirectQuote) :
    Except DirectSwapError SwapPlan := do
  let legs ← WalletLegs.resolve associatedAddress intent.owner market intent.inputMint
    intent.outputMint
  let accounts : SwapAccounts := {
    owner := intent.owner
    inputMint := intent.inputMint
    outputMint := intent.outputMint
    inputTokenAccount := legs.inputAccount
    outputTokenAccount := legs.outputAccount }
  let data ← market.swapInstruction accounts quote.swapAmountIn quote.minOut
  return {
    instructions :=
      computeBudgetInstructions market.computeUnits priorityFeeMicroLamports ++
      legs.ensureInstructions intent.owner intent.owner intent.inputMint intent.outputMint ++
      inputWrap intent market quote legs ++
      inputFee intent quote legs ++
      [.swap accounts quote.swapAmountIn quote.minOut data] ++
      outputFee intent market quote legs ++
      closeWsol intent legs
    venueComputeUnits := market.computeUnits
    inputAccount := legs.inputAccount
    outputAccount := legs.outputAccount
    outputIsNative := intent.unwrapsNative
    quote := quote }

/-- The plan an accepted quote is executed by: quoted again on the market as it is now, held to
what was accepted, and built. Source: `direct_pool.rs`, `execute_with_keypair` -/
def freshPlan (associatedAddress : AssociatedAddress) (priorityFeeMicroLamports : ℕ)
    (maxImpact : ℚ) (intent : DirectSwapIntent) (data : DirectExecutionData)
    (market : PoolMarket) : Except DirectSwapError SwapPlan := do
  let fresh ← quoteWithMarket intent market
  let held ← holdFloors maxImpact intent.pool data fresh
  buildPlan associatedAddress priorityFeeMicroLamports intent market held

/-! ## Balances -/

/-- Lamports by address, rent apart, and the token accounts: their mint and their amount. A
wrapped-SOL account holds its amount in lamports, too. -/
structure Ledger where
  lamports : Pubkey → ℕ
  mint : Pubkey → Option Pubkey
  tokens : Pubkey → ℕ

variable (ledger : Ledger)

/-- The lamports of an address, set. -/
def Ledger.setLamports (address : Pubkey) (amount : ℕ) : Ledger :=
  { ledger with lamports := Function.update ledger.lamports address amount }

/-- The amount of a token account, set. -/
def Ledger.setTokens (account : Pubkey) (amount : ℕ) : Ledger :=
  { ledger with tokens := Function.update ledger.tokens account amount }

/-- Lamports leave an address; they have to be there. -/
def Ledger.spend (address : Pubkey) (amount : ℕ) : Option Ledger :=
  if amount ≤ ledger.lamports address then
    some (ledger.setLamports address (ledger.lamports address - amount))
  else none

/-- Lamports arrive at an address. -/
def Ledger.receive (address : Pubkey) (amount : ℕ) : Ledger :=
  ledger.setLamports address (ledger.lamports address + amount)

/-- Tokens leave an account of the mint, wrapped SOL with its lamports; they have to be there. -/
def Ledger.debit (account mint : Pubkey) (amount : ℕ) : Option Ledger :=
  if ledger.mint account = some mint ∧ amount ≤ ledger.tokens account then
    let debited := ledger.setTokens account (ledger.tokens account - amount)
    if isWsol mint then debited.spend account amount else some debited
  else none

/-- Tokens arrive in an account of the mint, wrapped SOL with its lamports. -/
def Ledger.credit (account mint : Pubkey) (amount : ℕ) : Option Ledger :=
  if ledger.mint account = some mint then
    let credited := ledger.setTokens account (ledger.tokens account + amount)
    some (if isWsol mint then credited.receive account amount else credited)
  else none

/-- The wallet's side of the venue's instruction: the pool takes the amount and pays `payout`, in
lamports where it settles in native SOL, and nothing less than the floor. -/
def Ledger.swap (native : Bool) (payout : ℕ) (ledger : Ledger) (accounts : SwapAccounts)
    (amountIn minOut : ℕ) : Option Ledger :=
  let paid :=
    if native && isWsol accounts.inputMint then ledger.spend accounts.owner amountIn
    else ledger.debit accounts.inputTokenAccount accounts.inputMint amountIn
  if minOut ≤ payout then
    paid.bind fun paid =>
      if native && isWsol accounts.outputMint then some (paid.receive accounts.owner payout)
      else paid.credit accounts.outputTokenAccount accounts.outputMint payout
  else none

/-- One instruction; a transaction whose instruction fails leaves nothing behind. -/
def Ledger.step (native : Bool) (payout : ℕ) (ledger : Ledger) : Instruction → Option Ledger
  | .setComputeUnitLimit _ => some ledger
  | .setComputeUnitPrice _ => some ledger
  | .createAssociatedTokenAccountIdempotent _ _ mint _ account =>
    match ledger.mint account with
    | none => some { ledger with mint := Function.update ledger.mint account (some mint) }
    | some existing => if existing = mint then some ledger else none
  | .transfer source destination lamports =>
    (ledger.spend source lamports).map (·.receive destination lamports)
  | .syncNative account =>
    if ledger.mint account = some solMint then
      some (ledger.setTokens account (ledger.lamports account))
    else none
  | .transferChecked source mint destination _ amount _ =>
    (ledger.debit source mint amount).bind (·.credit destination mint amount)
  | .swap accounts amountIn minOut _ => ledger.swap native payout accounts amountIn minOut
  | .closeAccount account destination _ =>
    -- a token account other than a wrapped-SOL one has to be empty
    if ledger.mint account = some solMint ∨ ledger.tokens account = 0 then
      let emptied := (ledger.setTokens account 0).setLamports account 0
      let closed := emptied.receive destination (ledger.lamports account)
      some { closed with mint := Function.update closed.mint account none }
    else none

/-- The instructions of a transaction, in order. -/
def Ledger.run (native : Bool) (payout : ℕ) (instructions : List Instruction) (ledger : Ledger) :
    Option Ledger :=
  instructions.foldlM (Ledger.step native payout) ledger

end Dripline.Swaps
