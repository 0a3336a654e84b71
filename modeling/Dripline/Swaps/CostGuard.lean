import Dripline.Found.Tally
import Dripline.Swaps.Receipt
import Mathlib

/-!
# What a swap costs beyond the trade

`swaps/cost_guard.rs`. A simulated run is read for the lamports that leave the wallet, and each is
classified by the program that ends up owning the account it went to.

* `Instruction`, `SystemInstruction`, `systemInstructions` — what is read of the inner instructions.
* `assessInstruction`, `assessInnerInstructions` — the charges that the instructions alone
  establish.
* `resolveOwners`, `attributeUnresolved` — the charges that the owners on chain establish.
* `assessedCost` — what `preflight` compares with the allowance.

A source without a file is in `cost_guard.rs`, where a definition without a comment is the one
of its name.
-/

namespace Dripline.Swaps.CostGuard

open Dripline.Chain (systemProgramId)

/-- Source: `chains/solana/constants.rs` -/
def splTokenProgramId : String := "TokenkegQfeZyiNwAJbNbGKPFXCWuBvf9Ss623VQ5DA"

/-- Source: `chains/solana/constants.rs`, `TOKEN_2022_PROGRAM_ID` -/
def token2022ProgramId : String := "TokenzQdBNbLqP5VEhdkAS6EPFLC1PHnBqCXEpPxuEb"

/-! ## What is read -/

/-- The `lamports` of an instruction: a number, by its `as_u64`, a text, or something else. -/
inductive LamportsField
  | number (value : Option ℕ)
  | text (value : String)
  | other

/-- The `info` of a parsed instruction, as far as the guard reads it. -/
structure Info where
  source : Option String
  destination : Option String
  newAccount : Option String
  account : Option String
  owner : Option String
  lamports : Option LamportsField

/-- An inner instruction; its `parsed`, where it has one, by its `type` and its `info`. -/
structure Instruction where
  program : Option String
  programId : Option String
  parsed : Option (Option String × Option Info)

/-- A group of inner instructions, `none` where it has no list of them. -/
abbrev Group := Option (List Instruction)

def infoLamports : Option LamportsField → ℕ
  | some (.number value) => value.getD 0
  | some (.text text) => (parseUnsigned 64 text).getD 0
  | _ => 0

/-- The instructions of the system program that the guard tells apart. -/
inductive SystemInstruction
  | createAccount (source newAccount owner : Option String) (lamports : ℕ)
  | transfer (source destination : Option String) (lamports : ℕ)
  | assign (account owner : Option String)
  deriving DecidableEq

/-- What an instruction is read as. Source: `cost_guard.rs`, the head of the loop of
`assess_inner_instructions` -/
def systemInstruction (instruction : Instruction) : Option SystemInstruction :=
  if instruction.program ≠ some "system" ∧ instruction.programId ≠ some systemProgramId then none
  else
    match instruction.parsed with
    | some (some kind, some info) =>
      if kind = "createAccount" ∨ kind = "createAccountWithSeed" then
        some (.createAccount info.source info.newAccount info.owner (infoLamports info.lamports))
      else if kind = "transfer" then
        some (.transfer info.source info.destination (infoLamports info.lamports))
      else if kind = "assign" then some (.assign info.account info.owner)
      else none
    | _ => none

/-- The instructions of a run, in their order. -/
def systemInstructions (groups : List Group) : List SystemInstruction :=
  (groups.filterMap id).flatten.filterMap systemInstruction

/-! ## The charges of the instructions -/

def ownerReturnsRent (owner : String) : Bool :=
  owner == splTokenProgramId || owner == token2022ProgramId

structure SwapCostAssessment where
  unrecoverableLamports : ℕ
  recoverableRentLamports : ℕ
  venueProgram : Option String
  unresolved : List (String × ℕ)

/-- The locals of the loop. Source: `assess_inner_instructions` -/
structure Books where
  recoverable : ℕ
  byProgram : List (String × ℕ)
  funded : List (String × ℕ)

/-- `*by_program.entry(program).or_default() += lamports`, unchecked. -/
def charge (program : String) (lamports : ℕ) : List (String × ℕ) → List (String × ℕ)
  | [] => [(program, lamports % 2 ^ 64)]
  | row :: rows =>
    if row.1 = program then (program, (row.2 + lamports) % 2 ^ 64) :: rows
    else row :: charge program lamports rows

/-- The first entry of the account grows, or there is a new one. -/
def fund (account : String) (lamports : ℕ) : List (String × ℕ) → List (String × ℕ)
  | [] => [(account, lamports)]
  | row :: rows =>
    if row.1 = account then (account, saturatingAdd row.2 lamports) :: rows
    else row :: fund account lamports rows

/-- The first entry of the account is taken out. -/
def take (account : String) : List (String × ℕ) → Option (ℕ × List (String × ℕ))
  | [] => none
  | row :: rows =>
    if row.1 = account then some (row.2, rows)
    else (take account rows).map fun taken => (taken.1, row :: taken.2)

namespace Books

/-- Source: `cost_guard.rs`, the locals before the loop -/
def empty : Books := ⟨0, [], []⟩

/-- Lamports of an account that now has an owner. -/
def settle (books : Books) (owner : String) (lamports : ℕ) : Books :=
  if ownerReturnsRent owner then
    { books with recoverable := saturatingAdd books.recoverable lamports }
  else if owner = systemProgramId then books
  else { books with byProgram := charge owner lamports books.byProgram }

end Books

/-- One turn of the loop. Source: `assess_inner_instructions` -/
def assessInstruction (wallet : String) (books : Books) : SystemInstruction → Books
  | .createAccount source newAccount owner lamports =>
    if source ≠ some wallet then books
    else
      let account := newAccount.getD ""
      match owner with
      | none =>
        if 0 < lamports ∧ account ≠ "" then { books with funded := books.funded ++
          [(account, lamports)] }
        else books
      | some owner =>
        if owner = systemProgramId then
          if 0 < lamports ∧ account ≠ "" then
            { books with funded := books.funded ++ [(account, lamports)] }
          else books
        else books.settle owner lamports
  | .transfer source destination lamports =>
    if source ≠ some wallet then books
    else
      match destination with
      | none => books
      | some destination =>
        if lamports = 0 then books else { books with funded := fund destination lamports books.funded }
  | .assign account owner =>
    match account, owner with
    | some account, some owner =>
      match take account books.funded with
      | none => books
      | some (lamports, funded) => { books with funded := funded }.settle owner lamports
    | _, _ => books

/-- The locals after the loop. -/
def assessRun (wallet : String) (books : Books) (run : List SystemInstruction) : Books :=
  run.foldl (assessInstruction wallet) books

/-- Largest first, then by address. Source: `cost_guard.rs`, the comparison of `finalise` -/
def chargedBefore (left right : String × ℕ) : Bool :=
  right.2 < left.2 || (left.2 == right.2 && left.1 ≤ right.1)

def finalise (assessment : SwapCostAssessment) (byProgram : List (String × ℕ)) : SwapCostAssessment :=
  let charged := byProgram.mergeSort chargedBefore
  { assessment with
    unrecoverableLamports :=
      charged.foldl (fun total row => saturatingAdd total row.2) assessment.unrecoverableLamports
    venueProgram := assessment.venueProgram.or (charged.head?.map (·.1)) }

def assessInnerInstructions (wallet : String) (groups : List Group) : SwapCostAssessment :=
  let books := assessRun wallet .empty (systemInstructions groups)
  finalise ⟨0, books.recoverable, none, books.funded⟩ books.byProgram

/-! ## The charges of the chain -/

/-- The owners that the node answers, by the text of the account; `parse` gives the canonical text
of an address. -/
def resolveOwners (parse : String → Option Pubkey)
    (getMultipleAccounts : List Pubkey → Option (List (Option Pubkey)))
    (unresolved : List (String × ℕ)) :
    List (Pubkey × Pubkey) :=
  let keys := unresolved.filterMap fun entry => parse entry.1
  if keys = [] then []
  else
    match getMultipleAccounts keys with
    | some accounts =>
      (keys.zip accounts).filterMap fun (key, account) => account.map fun owner => (key, owner)
    | none => []

/-- The value under a key of a map that was collected from these pairs. -/
def ownerOf (owners : List (Pubkey × Pubkey)) (account : String) : Option Pubkey :=
  owners.reverse.lookup account

/-- An account that the instructions left open. Source: `cost_guard.rs`, the loop of
`attribute_unresolved` -/
def attributeEntry (owners : List (Pubkey × Pubkey)) (books : Books) (entry : String × ℕ) : Books :=
  match ownerOf owners entry.1 with
  | some owner => books.settle owner entry.2
  | none => books

def attributeUnresolved (assessment : SwapCostAssessment) (owners : List (Pubkey × Pubkey)) :
    SwapCostAssessment :=
  let books := assessment.unresolved.foldl (attributeEntry owners)
      ⟨assessment.recoverableRentLamports, [], []⟩
  let settled := { assessment with recoverableRentLamports := books.recoverable, unresolved := [] }
  match assessment.venueProgram with
  | some existing =>
    finalise { settled with venueProgram := none, unrecoverableLamports := 0 }
      (charge existing assessment.unrecoverableLamports books.byProgram)
  | none => finalise settled books.byProgram

/-- What a run is found to cost. Source: `preflight`, between the simulation and the allowance -/
def assessedCost (parse : String → Option Pubkey)
    (getMultipleAccounts : List Pubkey → Option (List (Option Pubkey))) (wallet : String)
    (groups : List Group) : SwapCostAssessment :=
  let assessment := assessInnerInstructions wallet groups
  if assessment.unresolved = [] then assessment
  else
    attributeUnresolved assessment (resolveOwners parse getMultipleAccounts assessment.unresolved)

end Dripline.Swaps.CostGuard
