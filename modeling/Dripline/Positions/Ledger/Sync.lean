import Mathlib.Data.Finset.Option
import Dripline.Found.StableSort
import Dripline.Positions.Position
import Dripline.Positions.Ledger.Round

/-!
# The planner: rounds in, row writes out

`positions/ledger/sync.rs`, its pure half, function by function.

* `planPositionWrites` — every round claims a row, by its key or by an acquisition signature, and
  is written over it, reconciled with it, or inserted.
* `adoptRow` — the claim by signature: a row without a key is claimed at most once.
* `buildPosition` — the row a round implies.
* `reconcileOwnedPosition`, `adoptExternalGrowth` — what the chain may change on a row the bot owns.
* `differs`, `differsOwned` — what counts as a change.
* `applyPlan` — the rows after a plan: updates replace the row of their id, inserts get fresh ids.

A source without a file is in `sync.rs`, where a definition without a comment is the one
of its name.
-/

namespace Dripline.Positions.Ledger

open Dripline.Found.StableSort

/-! ## Inputs -/

/-- The swap legs the trader itself executed for one position. -/
structure TraderLegs where
  entrySignatures : Finset String
  bookedInvestedSol : ℚ

/-- Display metadata for a mint. -/
structure RoundMetadata where
  symbol : Option String
  name : Option String
  frozen : Bool

/-- `RoundMetadata::default`. -/
def RoundMetadata.default : RoundMetadata := ⟨none, none, false⟩

/-- What the planner reads besides the rounds and the rows. Source: `sync.rs`, the parameters of
`plan_position_writes` -/
structure SyncContext where
  metadata : String → Option RoundMetadata
  traderLegs : ℤ → Option TraderLegs
  busyMints : Finset String
  now : DateTime

/-- What a sync must write. -/
structure SyncPlan where
  inserts : List Position
  updates : List Position

def SyncPlan.isEmpty (plan : SyncPlan) : Bool :=
  plan.inserts.isEmpty && plan.updates.isEmpty

/-- The per-position map of legs, from `(position_id, signature, is_exit, sol)` rows: exits are
skipped, and a signature counts once. -/
def TraderLegs.fromRows (rows : List (ℤ × String × Bool × ℚ)) : ℤ → Option TraderLegs :=
  rows.foldl
    (fun map row =>
      let (positionId, signature, isExit, sol) := row
      if isExit then map
      else
        let legs := (map positionId).getD ⟨∅, 0⟩
        Function.update map positionId (some {
          entrySignatures := insert signature legs.entrySignatures
          bookedInvestedSol :=
            if signature ∈ legs.entrySignatures then legs.bookedInvestedSol
            else legs.bookedInvestedSol + sol }))
    fun _ => none

/-! ## Small pieces -/

def closedExternally : String := "closed_externally"

/-- A raw balance as the schema stores it. -/
def clampRaw (raw : ℕ) : ℕ := min raw (2 ^ 64 - 1)

def shortMint (mint : String) : String :=
  if mint.utf8ByteSize ≤ 8 then mint
  else String.ofList (mint.toList.take 4) ++ "…" ++
    String.ofList (mint.toList.drop (mint.toList.length - 4))

def sameMoney (a b : ℚ) : Bool := |a - b| ≤ dust

def sameOptMoney : Option ℚ → Option ℚ → Bool
  | none, none => true
  | some a, some b => sameMoney a b
  | _, _ => false

/-- The flag of a token account that is frozen and still holds the round. -/
def holdingStateFor (frozen isOpen : Bool) : Option String :=
  if frozen && isOpen then some holdingStateFrozen else none

/-- The trader still has work in flight on this position. -/
def isBusy (position : Position) (busyMints : Finset String) : Bool :=
  let exitInFlight :=
    position.exitTransactionSignature.isSome && !position.transactionExitVerified
  !position.transactionEntryVerified || exitInFlight || decide (position.mint ∈ busyMints)

/-! ## Claiming a row -/

/-- The row an earlier sync stamped with this key. Source: `by_round_key` in
`plan_position_writes` -/
def byRoundKey (existing : List Position) (roundKey : String) : Option Position :=
  (existing.filter (·.roundKey == some roundKey)).getLast?

/-- The order of the candidates for adoption. Source: `candidates.sort_by_key` -/
def candidateCmp : Position → Position → Ordering :=
  compareLex (compareOn fun p => p.entryTime) (compareOn fun p => p.id)

/-- The rows without a key that hold the mint and were opened by the signature. Source: `adoptable`
in `plan_position_writes` -/
def adoptable (existing : List Position) (mint signature : String) : List Position :=
  sortBy candidateCmp <| existing.filter fun position =>
    position.roundKey.isNone && position.id.isSome && position.mint == mint &&
      position.entryTransactionSignature == some signature

/-- The signatures a round can claim a row by: its entry, then its other acquisitions. Source:
`signatures` in `adopt_row` -/
def acquisitionSignatures (round : LedgerRound) : List String :=
  round.events.foldl
    (fun signatures event =>
      if event.kind.isAcquisition && !signatures.contains event.signature then
        signatures ++ [event.signature]
      else signatures)
    round.entrySignature.toList

/-- The rows a round can claim, in the order it tries them. -/
def candidates (existing : List Position) (round : LedgerRound) : List Position :=
  (acquisitionSignatures round).flatMap (adoptable existing round.mint)

/-- A row not claimed by an earlier round of the plan. -/
def isFree (claimed : Finset ℤ) (position : Position) : Bool :=
  match position.id with
  | some id => decide (id ∉ claimed)
  | none => false

/-- Claim the row without a key this round was executed through, if there is one. A row is claimed
at most once a plan. -/
def adoptRow (existing : List Position) (claimed : Finset ℤ) (round : LedgerRound) :
    Option Position :=
  (candidates existing round).find? (isFree claimed)

/-- The claimed ids once a row has been adopted. -/
def claim (claimed : Finset ℤ) (position : Position) : Finset ℤ :=
  match position.id with
  | some id => insert id claimed
  | none => claimed

/-- The row of a round, and what is claimed after it. Source: `current` in `plan_position_writes` -/
def currentRow (existing : List Position) (claimed : Finset ℤ) (round : LedgerRound) :
    Option Position × Finset ℤ :=
  match byRoundKey existing round.roundKey with
  | some position => (some position, claimed)
  | none =>
    match adoptRow existing claimed round with
    | some position => (some position, claim claimed position)
    | none => (none, claimed)

/-! ## The row of a wallet-derived round -/

variable (round : LedgerRound)

/-- When a round opened: its own time, the row's, or now. -/
def entryTimeFor (existing : Option Position) (now : DateTime) : DateTime :=
  ((round.openedAt.bind fromTimestamp).or (existing.map (·.entryTime))).getD now

/-- When a round closed. A closed round whose closing was never seen is dated by the last moment
the holding was seen, then by the row, then by its opening. -/
def exitTimeFor (existing : Option Position) (entryTime : DateTime) :
    Option DateTime :=
  (round.closedAt.bind fromTimestamp).or <|
    if round.isOpen then none
    else ((round.lastSeenAt.bind fromTimestamp).or (existing.bind (·.exitTime))).or (some entryTime)

/-- The row a round implies, everything the ledger does not own carried over from the row that
exists. -/
def buildPosition (metadata : RoundMetadata) (existing : Option Position) (now : DateTime) :
    Position :=
  let entryTime := entryTimeFor round existing now
  -- only a complete basis and history may be presented as a result
  let realizedPnl :=
    if round.basisComplete && round.historyComplete then round.realizedPnlSol else none
  let entryPrice := round.averageEntryPriceSol.getD 0
  { id := existing.bind (·.id)
    mint := round.mint
    symbol := (metadata.symbol.or (existing.map (·.symbol))).getD (shortMint round.mint)
    name := (metadata.name.or (existing.map (·.name))).getD (shortMint round.mint)
    entryPrice := entryPrice
    entryTime := entryTime
    exitPrice := round.averageExitPriceSol
    exitTime := exitTimeFor round existing entryTime
    positionType := "buy"
    entrySizeSol := round.investedSol
    totalSizeSol := round.investedSol
    priceHighest := (existing.map (·.priceHighest)).getD entryPrice
    priceLowest := (existing.map (·.priceLowest)).getD entryPrice
    entryTransactionSignature := round.entrySignature
    exitTransactionSignature := round.exitSignature
    tokenAmount := some (clampRaw round.totalAcquiredRaw)
    effectiveEntryPrice := round.averageEntryPriceSol
    effectiveExitPrice := round.averageExitPriceSol
    solReceived := if 0 < round.exitCount then some round.realizedProceedsSol else none
    profitTargetMin := none
    profitTargetMax := none
    liquidityTier := existing.bind (·.liquidityTier)
    transactionEntryVerified := true
    transactionExitVerified := !round.isOpen
    entryFeeLamports := none
    exitFeeLamports := none
    currentPrice := existing.bind (·.currentPrice)
    currentPriceUpdated := existing.bind (·.currentPriceUpdated)
    phantomRemove := false
    phantomConfirmations := 0
    phantomFirstSeen := none
    syntheticExit := false
    closedReason := if round.isOpen then none else some "wallet_history"
    pnl := realizedPnl
    pnlPercent := realizedPnl.bind fun pnl =>
      if dust < round.realizedCostSol then some (pnl / round.realizedCostSol * 100) else none
    unrealizedPnl := existing.bind (·.unrealizedPnl)
    unrealizedPnlPercent := existing.bind (·.unrealizedPnlPercent)
    remainingTokenAmount := some (clampRaw round.balanceRaw)
    totalExitedAmount := clampRaw round.totalDisposedRaw
    averageExitPrice := round.averageExitPriceSol
    partialExitCount := round.exitCount - if round.isOpen then 0 else 1
    dcaCount := round.entryCount - 1
    averageEntryPrice := entryPrice
    lastDcaTime := existing.bind (·.lastDcaTime)
    archived := (existing.map (·.archived)).getD false
    archivedAt := existing.bind (·.archivedAt)
    origin := .external
    management := .userOnly
    roundKey := some round.roundKey
    basisComplete := round.basisComplete
    historyComplete := round.historyComplete
    holdingState := holdingStateFor metadata.frozen round.isOpen }

/-! ## A row the bot owns -/

/-- The signatures and the SOL that count as booked: the trader's legs, or without any records the
row's entry signature and the row's own total. Source: `(booked_signatures, booked_sol)` in
`adopt_external_growth` -/
def bookedLegs (existing : Position) (legs : Option TraderLegs) : TraderLegs :=
  match legs.filter fun l => l.entrySignatures.Nonempty with
  | some legs => legs
  | none => ⟨existing.entryTransactionSignature.toFinset, existing.totalSizeSol⟩

/-- The SOL of a traded acquisition the trader did not book. -/
def externalSolOf (bookedSignatures : Finset String) (event : LedgerEvent) : Option ℚ :=
  if (event.kind == .entry || event.kind == .add) && decide (event.signature ∉ bookedSignatures) then
    event.quote.bind fun quote => if quote.asset == .sol then some quote.amount else none
  else none

/-- The SOL of all of them. Source: `external_sol` in `adopt_external_growth` -/
def externalSol (bookedSignatures : Finset String) (events : List LedgerEvent) : ℚ :=
  (events.filterMap (externalSolOf bookedSignatures)).sum

/-- Fold acquisitions the user made outside the bot into a row the bot owns. Source:
`adopt_external_growth` -/
def adoptExternalGrowth (position existing : Position) (round : LedgerRound)
    (legs : Option TraderLegs) : Position :=
  let booked := bookedLegs existing legs
  let totalSizeSol := booked.bookedInvestedSol + externalSol booked.entrySignatures round.events
  let acquired := rawToWhole round.totalAcquiredRaw round.decimals
  { position with
    remainingTokenAmount := some (clampRaw round.balanceRaw)
    tokenAmount := some (clampRaw round.totalAcquiredRaw)
    totalExitedAmount := clampRaw round.totalDisposedRaw
    dcaCount := round.entryCount - 1
    -- without a SOL price for the outside buy the trader's basis stays, flagged
    basisComplete := if round.basisComplete then position.basisComplete else false
    totalSizeSol := if round.basisComplete then totalSizeSol else position.totalSizeSol
    averageEntryPrice :=
      if round.basisComplete && decide (dust < acquired) then totalSizeSol / acquired
      else position.averageEntryPrice }

/-- The close of a row the bot owns and did not exit itself. Source: `sync.rs`, the tail of
`reconcile_owned_position` -/
def closeOwnedPosition (position existing : Position) (round : LedgerRound) (now : DateTime) :
    Position :=
  let claimedRemaining := existing.remainingTokenAmount.getD 0
  let priced := round.historyComplete && round.averageExitPriceSol.isSome
  let pnl := round.realizedProceedsSol - position.totalSizeSol
  let sized := priced && decide (dust < position.totalSizeSol)
  { position with
    remainingTokenAmount := some 0
    totalExitedAmount := saturatingAdd64 existing.totalExitedAmount claimedRemaining
    exitTime := some (((round.closedAt.bind fromTimestamp).or
      (round.lastSeenAt.bind fromTimestamp)).getD now)
    exitTransactionSignature := position.exitTransactionSignature.or round.exitSignature
    transactionExitVerified := true
    closedReason := position.closedReason.or (some closedExternally)
    unrealizedPnl := none
    unrealizedPnlPercent := none
    -- proceeds only when the history reconciles and every disposal was priced in SOL
    historyComplete := if round.historyComplete then position.historyComplete else false
    exitPrice := if priced then round.averageExitPriceSol else position.exitPrice
    effectiveExitPrice :=
      if priced then round.averageExitPriceSol else position.effectiveExitPrice
    averageExitPrice := if priced then round.averageExitPriceSol else position.averageExitPrice
    solReceived := if priced then some round.realizedProceedsSol else position.solReceived
    pnl := if sized then some pnl else position.pnl
    pnlPercent := if sized then some (pnl / position.totalSizeSol * 100) else position.pnlPercent }

variable (existing : Position)

/-- The wallet holds more than the row claims, and the round reconciles. Source: `sync.rs`, the
condition of `adopt_external_growth` in `reconcile_owned_position` -/
def growsExternally (round : LedgerRound) : Bool :=
  decide (existing.remainingTokenAmount.getD 0 < clampRaw round.balanceRaw) &&
    round.historyComplete

/-- A row the bot owns, stamped with its round and grown with it. Source: `sync.rs`, the head of
`reconcile_owned_position` -/
def growOwnedPosition (round : LedgerRound) (metadata : RoundMetadata) (legs : Option TraderLegs) :
    Position :=
  let position : Position := { existing with
    roundKey := some round.roundKey
    holdingState := holdingStateFor metadata.frozen round.isOpen }
  if growsExternally existing round then adoptExternalGrowth position existing round legs
  else position

/-- Reconcile a position the bot executed against what the chain says the wallet holds. Source:
`reconcile_owned_position` -/
def reconcileOwnedPosition (round : LedgerRound) (metadata : RoundMetadata)
    (legs : Option TraderLegs) (now : DateTime) : Position :=
  let position := growOwnedPosition existing round metadata legs
  let observedRemaining := clampRaw round.balanceRaw
  let claimedRemaining := existing.remainingTokenAmount.getD 0
  if round.isOpen then
    if observedRemaining < claimedRemaining then
      { position with
        remainingTokenAmount := some observedRemaining
        totalExitedAmount :=
          saturatingAdd64 existing.totalExitedAmount (claimedRemaining - observedRemaining) }
    else position
  else if existing.exitTime.isSome then position
  else closeOwnedPosition position existing round now

/-! ## Changes -/

def differsOwned (existing fresh : Position) : Bool :=
  existing.roundKey != fresh.roundKey ||
  existing.holdingState != fresh.holdingState ||
  existing.remainingTokenAmount != fresh.remainingTokenAmount ||
  existing.tokenAmount != fresh.tokenAmount ||
  existing.totalExitedAmount != fresh.totalExitedAmount ||
  existing.dcaCount != fresh.dcaCount ||
  existing.basisComplete != fresh.basisComplete ||
  !sameMoney existing.totalSizeSol fresh.totalSizeSol ||
  !sameMoney existing.averageEntryPrice fresh.averageEntryPrice ||
  existing.exitTime != fresh.exitTime ||
  existing.exitTransactionSignature != fresh.exitTransactionSignature ||
  existing.transactionExitVerified != fresh.transactionExitVerified ||
  existing.closedReason != fresh.closedReason ||
  existing.unrealizedPnl != fresh.unrealizedPnl ||
  !sameOptMoney existing.exitPrice fresh.exitPrice ||
  !sameOptMoney existing.solReceived fresh.solReceived ||
  !sameOptMoney existing.pnl fresh.pnl

def differs (existing fresh : Position) : Bool :=
  existing.entryTime != fresh.entryTime ||
  existing.exitTime != fresh.exitTime ||
  existing.transactionExitVerified != fresh.transactionExitVerified ||
  existing.remainingTokenAmount != fresh.remainingTokenAmount ||
  existing.totalExitedAmount != fresh.totalExitedAmount ||
  existing.tokenAmount != fresh.tokenAmount ||
  existing.dcaCount != fresh.dcaCount ||
  existing.partialExitCount != fresh.partialExitCount ||
  existing.basisComplete != fresh.basisComplete ||
  existing.historyComplete != fresh.historyComplete ||
  existing.holdingState != fresh.holdingState ||
  existing.entryTransactionSignature != fresh.entryTransactionSignature ||
  existing.exitTransactionSignature != fresh.exitTransactionSignature ||
  existing.symbol != fresh.symbol ||
  existing.name != fresh.name ||
  !sameMoney existing.totalSizeSol fresh.totalSizeSol ||
  !sameMoney existing.entryPrice fresh.entryPrice ||
  !sameOptMoney existing.exitPrice fresh.exitPrice ||
  !sameOptMoney existing.solReceived fresh.solReceived ||
  !sameOptMoney existing.pnl fresh.pnl

/-! ## The plan -/

/-- One planned write. -/
inductive PositionWrite
  | insert (position : Position)
  | update (position : Position)

/-- The row a write inserts. -/
def PositionWrite.inserted : PositionWrite → Option Position
  | .insert position => some position
  | .update _ => none

/-- The row a write updates. -/
def PositionWrite.updated : PositionWrite → Option Position
  | .insert _ => none
  | .update position => some position

/-- What a round and its row make the planner write. Source: `sync.rs`, the `match current` of
`plan_position_writes` -/
def writeFor (context : SyncContext) (round : LedgerRound) (current : Option Position) :
    Option PositionWrite :=
  let metadata := (context.metadata round.mint).getD RoundMetadata.default
  match current with
  | some row =>
    if !row.isWalletDerived then
      if isBusy row context.busyMints then none
      else
        let legs := row.id.bind context.traderLegs
        let fresh := reconcileOwnedPosition row round metadata legs context.now
        if differsOwned row fresh then some (.update fresh) else none
    else
      let fresh := buildPosition round metadata (some row) context.now
      if differs row fresh then some (.update fresh) else none
  | none => some (.insert (buildPosition round metadata none context.now))

/-- The rounds of a plan with the rows they claim, in order. Source: `sync.rs`, the loop of
`plan_position_writes`, its claims -/
def claims (existing : List Position) : Finset ℤ → List LedgerRound →
    List (LedgerRound × Option Position)
  | _, [] => []
  | claimed, round :: rounds =>
    (round, (currentRow existing claimed round).1) ::
      claims existing (currentRow existing claimed round).2 rounds

/-- Decide which position rows must be created, rewritten or reconciled. Source:
`plan_position_writes` -/
def planPositionWrites (rounds : List LedgerRound) (existing : List Position)
    (context : SyncContext) : SyncPlan :=
  let writes := (claims existing ∅ rounds).filterMap fun c => writeFor context c.1 c.2
  { inserts := writes.filterMap PositionWrite.inserted
    updates := writes.filterMap PositionWrite.updated }

/-! ## The rows after a plan -/

/-- The update of a row, if the plan has one: the row of the same id is replaced. -/
def applyUpdate (plan : SyncPlan) (row : Position) : Position :=
  (plan.updates.find? fun update => update.id.isSome && update.id == row.id).getD row

/-- The rows a plan inserts, each under the id the table gave it. -/
def insertedRows (plan : SyncPlan) (freshIds : List ℤ) : List Position :=
  (plan.inserts.zip freshIds).map fun row => { row.1 with id := some row.2 }

/-- The rows after a plan: updates replace the row of their id, inserts are added with fresh ids. -/
def applyPlan (existing : List Position) (plan : SyncPlan) (freshIds : List ℤ) : List Position :=
  existing.map (applyUpdate plan) ++ insertedRows plan freshIds

end Dripline.Positions.Ledger
