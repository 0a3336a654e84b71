import Dripline.Swaps.Plan

/-!
# The receipt of a direct swap

`direct/verify.rs` and the reads of it in `direct/execute.rs`: what a confirmed transaction is said
to have delivered.

* `TransactionDetails` — what a node reports of a transaction.
* `tokenDelta`, `nativeReceipt`, `receiptFromTransaction` — the measurement.
* `readReceipt` — up to six reads of it.
* `Unlocated` — the report that makes a landed swap a failed one.

A source without a file is in `direct/verify.rs`, where a definition without a comment is the one
of its name.
-/

namespace Dripline.Swaps

/-! ## What is reported -/

/-- The amount is a text. Source: `rpc/types.rs` -/
structure TokenBalance where
  accountIndex : ℕ
  mint : String
  owner : Option String
  amount : String

/-- The `info` of a parsed instruction. -/
structure ParsedInfo where
  destination : Option String
  amount : Option String
  tokenAmount : Option String

/-- An inner instruction the node could parse. -/
structure ParsedInstruction where
  kind : Option String
  info : Option ParsedInfo

/-- An inner instruction, where it has a `parsed`. -/
abbrev InnerInstruction := Option ParsedInstruction

/-- The metadata of a transaction, its error by its text; a group of inner instructions is `none`
where it has no list of them. Source: `rpc/types.rs` -/
structure TransactionMeta where
  err : Option String
  preBalances : List ℕ
  postBalances : List ℕ
  preTokenBalances : Option (List TokenBalance)
  postTokenBalances : Option (List TokenBalance)
  fee : ℕ
  innerInstructions : Option (List (Option (List InnerInstruction)))

/-- An entry of `accountKeys`: a text, an object with or without a `pubkey`, or something else. -/
inductive AccountKey
  | text (key : String)
  | object (pubkey : Option String)
  | other

/-- Source: `rpc/types.rs`, `TransactionDetails`, of its message the `accountKeys` -/
structure TransactionDetails where
  slot : ℕ
  accountKeys : Option (List AccountKey)
  metadata : Option TransactionMeta

structure Receipt where
  received : ℕ
  exact : Bool
  networkFeeLamports : ℕ
  slot : ℕ
  deriving DecidableEq

/-! ## The measurement -/

/-- An unsigned number of so many bits, by its text. -/
def parseUnsigned (bits : ℕ) (text : String) : Option ℕ :=
  let digits :=
    match text.toList with
    | '+' :: rest => rest
    | all => all
  if digits = [] ∨ digits.all Char.isDigit = false then none
  else
    let value := digits.foldl (fun n d => 10 * n + (d.toNat - '0'.toNat)) 0
    if value < 2 ^ bits then some value else none

def accountKeysFromMessage (details : TransactionDetails) : List String :=
  (details.accountKeys.getD []).filterMap fun
    | .text key => some key
    | .object pubkey => pubkey
    | .other => none

def accountIndexOf (details : TransactionDetails) (account : Pubkey) : Option ℕ :=
  (accountKeysFromMessage details).findIdx? (· == account)

/-- The sum of the balances that are kept; none where none is kept or one is no number. Source:
`sum` of `token_delta` -/
def sumBalances (keep : TokenBalance → Bool) (balances : Option (List TokenBalance)) : Option ℕ :=
  balances.bind fun list =>
    let kept := list.filter keep
    if kept = [] then none
    else (kept.mapM fun balance => parseUnsigned 128 balance.amount).map fun amounts =>
      amounts.foldl (fun total amount => min (total + amount) (2 ^ 128 - 1)) 0

/-- What the balances that are kept gained. -/
def deltaOf (info : TransactionMeta) (keep : TokenBalance → Bool) : Option ℕ :=
  (sumBalances keep info.postTokenBalances).map fun post =>
    (post - (sumBalances keep info.preTokenBalances).getD 0) % 2 ^ 64

/-- The output account's balances by its index, or by mint and owner. -/
def tokenDelta (info : TransactionMeta) (details : TransactionDetails) (owner : Pubkey)
    (plan : SwapPlan) : Option ℕ :=
  let byIndex := (accountIndexOf details plan.outputAccount).bind fun index =>
    deltaOf info fun balance => balance.accountIndex == index
  byIndex.orElse fun _ =>
    deltaOf info fun balance =>
      balance.mint == plan.quote.outputMint && balance.owner == some owner

/-- The amount of one inner instruction, if it is a transfer to the account. Source:
`direct/verify.rs`, the inner loop of `swap_output_transfer_amount` -/
def transferAmount (outputAccount : Pubkey) (instruction : InnerInstruction) : Option ℕ :=
  instruction.bind fun parsed =>
    let kind := parsed.kind.getD ""
    if kind ≠ "transfer" ∧ kind ≠ "transferChecked" then none
    else parsed.info.bind fun info =>
      if info.destination ≠ some outputAccount then none
      else (if kind = "transferChecked" then info.tokenAmount else info.amount).bind
        (parseUnsigned 64)

def swapOutputTransferAmount (info : TransactionMeta) (outputAccount : Pubkey) : Option ℕ :=
  info.innerInstructions.bind fun groups =>
    (groups.filterMap id).flatten.findSome? (transferAmount outputAccount)

/-- A sum of unsigned 64-bit numbers that stops at the largest. -/
def saturatingAdd (a b : ℕ) : ℕ := min (a + b) (2 ^ 64 - 1)

variable (signature : String)

/-- The gain in lamports, by the index of the owner, whom it takes to attribute it. Source:
`direct/verify.rs`, the fallback of `native_receipt` -/
def lamportReceipt (owner : Pubkey) (details : TransactionDetails) (info : TransactionMeta) :
    Except DirectSwapError Receipt :=
  match accountIndexOf details owner with
  | none => .error (.transactionFailed signature
      ("the owner account could not be located in the transaction's own account " ++
        "keys, so the native-SOL lamport delta cannot be attributed"))
  | some index =>
    let pre := info.preBalances.getD index 0
    let post := info.postBalances.getD index 0
    .ok ⟨saturatingAdd (post - pre) info.fee, false, info.fee, details.slot⟩

def nativeReceipt (owner : Pubkey) (plan : SwapPlan) (details : TransactionDetails)
    (info : TransactionMeta) : Except DirectSwapError Receipt :=
  match swapOutputTransferAmount info plan.outputAccount with
  | some gross =>
    let received := gross - plan.quote.fee.amount
    if plan.quote.minNetOut ≤ received then .ok ⟨received, true, info.fee, details.slot⟩
    else lamportReceipt signature owner details info
  | none => lamportReceipt signature owner details info

def receiptFromTransaction (owner : Pubkey) (plan : SwapPlan) (details : TransactionDetails) :
    Except DirectSwapError Receipt :=
  match details.metadata with
  | none => .ok ⟨plan.quote.minNetOut, false, 0, details.slot⟩
  | some info =>
    match info.err with
    | some err => .error (.transactionFailed signature err)
    | none =>
      if plan.outputIsNative then nativeReceipt signature owner plan details info
      else
        match tokenDelta info details owner plan with
        | none => .ok ⟨plan.quote.minNetOut, false, info.fee, details.slot⟩
        | some received =>
          if received < plan.quote.minNetOut then
            .error (.outputNotReceived signature plan.quote.minNetOut received)
          else .ok ⟨received, true, info.fee, details.slot⟩

/-! ## The reads -/

/-- Source: `direct/execute.rs` -/
def receiptReadAttempts : ℕ := 6

/-- The first of so many reads that is answered. -/
def firstDetails (details : ℕ → Except Error TransactionDetails) (attempts : ℕ) :
    Option TransactionDetails :=
  (List.range attempts).findSome? fun n => (details n).toOption

/-- Source: `direct/execute.rs` -/
def readReceipt (signature : String) (owner : Pubkey) (plan : SwapPlan)
    (details : ℕ → Except Error TransactionDetails) : Except DirectSwapError Receipt :=
  match firstDetails details receiptReadAttempts with
  | some details => receiptFromTransaction signature owner plan details
  | none => .ok ⟨plan.quote.minNetOut, false, 0, 0⟩

/-! ## When a landed swap is called failed -/

/-- The transaction is reported without an error and with native proceeds, and the report names the
owner nowhere and no transfer that pays him. -/
def Unlocated (owner : Pubkey) (plan : SwapPlan) (details : TransactionDetails) : Prop :=
  plan.outputIsNative = true ∧
    ∃ info, details.metadata = some info ∧ info.err = none ∧ accountIndexOf details owner = none ∧
      ∀ gross, swapOutputTransferAmount info plan.outputAccount = some gross →
        gross - plan.quote.fee.amount < plan.quote.minNetOut

lemma receiptFromTransaction_refused {signature : String} {owner : Pubkey} {plan : SwapPlan}
    {details : TransactionDetails} {e : DirectSwapError}
    (h : receiptFromTransaction signature owner plan details = .error e)
    (hsettled : e.settledSignature = none) :
    (∃ info, details.metadata = some info ∧ info.err.isSome = true) ∨ Unlocated owner plan details := by
  unfold receiptFromTransaction at h
  split at h
  next => cases h
  next info hinfo =>
    split at h
    next err herr => exact Or.inl ⟨info, hinfo, by rw [herr]; rfl⟩
    next herr =>
      split at h
      next hnative =>
        -- the owner is looked for only where no transfer accounts for the floor
        have hlamports : ∀ {r}, lamportReceipt signature owner details info = .error r →
            accountIndexOf details owner = none := by
          intro r hr
          unfold lamportReceipt at hr
          split at hr
          next hnone => exact hnone
          next => cases hr
        refine Or.inr ⟨hnative, info, hinfo, herr, ?_⟩
        unfold nativeReceipt at h
        split at h
        next gross hgross =>
          dsimp only at h
          split at h
          next => cases h
          next hfloor =>
            refine ⟨hlamports h, fun other hother => ?_⟩
            obtain rfl := Option.some.inj (hgross.symm.trans hother)
            exact not_le.mp hfloor
        next hgross => exact ⟨hlamports h, fun other hother => by rw [hgross] at hother; cases hother⟩
      next =>
        split at h
        next => cases h
        next =>
          split at h
          next =>
            obtain rfl := Except.error.inj h
            cases hsettled
          next => cases h

end Dripline.Swaps
