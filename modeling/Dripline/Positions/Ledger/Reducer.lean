import Mathlib.Data.List.AList
import Mathlib.Data.Finset.Insert
import Dripline.Found.StableSort
import Dripline.Found.Runs
import Dripline.Positions.Ledger.Round

/-!
# The reducer: deltas in, rounds out

`positions/ledger/reducer.rs`, function by function and in its order.

* `reduceRounds` — the successful rows in chain order, grouped into transactions, each row routed
  into its mint's round; the rounds still open are finished last and everything is sorted by
  `(opened_at, mint, round_key)`.
* `Round` — a round under construction, with `Round.apply` and `Round.finish`.
* `reconcileWithWallet` — the wallet's balances laid over the reduced rounds.

The source keeps open rounds in a `HashMap`, which is an association list here; its iteration
order, which the source does not control, is the argument of `Reduction.rounds` and shown not to
matter by `rounds_eq_of_perm`.

A source without a file is in `reducer.rs`.
-/

namespace Dripline.Positions.Ledger

open Dripline.Chain Dripline.Transactions Dripline.Found.StableSort Dripline.Found.Runs

/-! ## Quote resolution -/

/-- A movement in the same direction as the one being quoted. Source: `same_direction` in
`quote_for` -/
def sameDirection (acquisition : Bool) (raw : ℤ) : Bool :=
  bif acquisition then 0 < raw else raw < 0

/-- A movement that can be the consideration: buying a token spends the quote, selling it receives
the quote. Source: `matches_direction` in `quote_for` -/
def matchesDirection (acquisition : Bool) (raw : ℤ) : Bool :=
  bif acquisition then raw < 0 else 0 < raw

/-- The whole amount of a row that can be the consideration of a movement of `targetMint`. Source:
`candidate` in `quote_for` -/
def quoteCandidate (targetMint : String) (acquisition : Bool) (delta : SubjectAssetDelta) :
    Option ℚ :=
  if delta.mint != targetMint && matchesDirection acquisition delta.deltaRaw then
    some (rawToWhole |delta.deltaRaw| delta.decimals)
  else none

/-- The first consideration among the rows of the wanted mints. Source: `find` in `quote_for` -/
def findQuote (group : List SubjectAssetDelta) (targetMint : String) (acquisition : Bool)
    (wanted : String → Bool) : Option ℚ :=
  group.findSome? fun delta =>
    if wanted delta.mint then quoteCandidate targetMint acquisition delta else none

/-- Find what a movement of `targetMint` was traded against, inside the same transaction: native SOL
first, then wSOL, then a stablecoin. One reference leg cannot be split, so a transaction that moves
several positions in the same direction has no quote at all. Source: `quote_for` -/
def quoteFor (group : List SubjectAssetDelta) (targetMint : String) (acquisition : Bool) :
    Option QuoteLeg :=
  let sameDirectionPositions :=
    (group.filter fun delta =>
      !isReferenceAsset delta.mint && sameDirection acquisition delta.deltaRaw).length
  if 1 < sameDirectionPositions then
    none
  else
    let find := findQuote group targetMint acquisition
    (((find (· == nativeSolSentinel)).or (find isNativeAsset)).map (QuoteLeg.mk .sol)).or
      ((find isStableAsset).map (QuoteLeg.mk .usd))

/-! ## The accumulator -/

/-- `saturating_add(1)` on a `u32` counter. -/
def saturatingSucc (n : ℕ) : ℕ := min (n + 1) (2 ^ 32 - 1)

/-- A round while it is still being built. Source: `Round` -/
structure Round where
  mint : String
  decimals : ℕ
  roundKey : String
  openedAt : Option ℤ
  closedAt : Option ℤ
  balance : ℤ
  totalAcquired : ℤ
  totalDisposed : ℤ
  entryCount : ℕ
  exitCount : ℕ
  quoteAsset : Option QuoteAsset
  invested : ℚ
  remainingBasis : ℚ
  realizedProceeds : ℚ
  realizedCost : ℚ
  pricedAcquired : ℚ
  pricedDisposed : ℚ
  basisComplete : Bool
  historyComplete : Bool
  proceedsComplete : Bool
  entrySignature : Option String
  exitSignature : Option String
  events : List LedgerEvent

namespace Round

/-- A round whose opening acquisition we watched happen from a zero balance. Source:
`Round::grounded` -/
def grounded (delta : SubjectAssetDelta) (roundKey : String) : Round where
  mint := delta.mint
  decimals := delta.decimals
  roundKey := roundKey
  openedAt := delta.blockTime
  closedAt := none
  balance := 0
  totalAcquired := 0
  totalDisposed := 0
  entryCount := 0
  exitCount := 0
  quoteAsset := none
  invested := 0
  remainingBasis := 0
  realizedProceeds := 0
  realizedCost := 0
  pricedAcquired := 0
  pricedDisposed := 0
  basisComplete := true
  historyComplete := true
  proceedsComplete := true
  entrySignature := some delta.signature
  exitSignature := none
  events := []

/-- A round that was already running before the history we hold. Source: `Round::genesis` -/
def genesis (delta : SubjectAssetDelta) (roundKey : String) : Round :=
  let opening := delta.beforeRaw.bind asI128
  { grounded delta roundKey with
    openedAt := none
    entrySignature := none
    basisComplete := false
    historyComplete := false
    balance := opening.getD 0
    totalAcquired := opening.getD 0 }

/-- The chain's own "balance before" is authoritative; a disagreement means a missed transaction.
Source: `Round::reconcile_before` -/
def reconcileBefore (round : Round) (delta : SubjectAssetDelta) : Round :=
  let reported := delta.beforeRaw.bind asI128
  let agrees := reported == some round.balance
  { round with
    balance := reported.getD round.balance
    totalAcquired :=
      if reported.isNone || agrees then round.totalAcquired
      else max round.totalAcquired (reported.getD 0)
    historyComplete := round.historyComplete && agrees
    basisComplete := round.basisComplete && agrees }

/-- Record the quote asset, returning whether it can contribute to a SOL basis: half bought with SOL
and half with a stablecoin is no basis, and neither is a stablecoin alone. Source:
`Round::accept_quote` -/
def acceptQuote (round : Round) (leg : QuoteLeg) : Round × Bool :=
  let mixed := round.quoteAsset.isSome && round.quoteAsset != some leg.asset
  ({ round with
      quoteAsset := if mixed then round.quoteAsset else some leg.asset
      basisComplete := round.basisComplete && (!mixed && leg.asset == .sol)
      proceedsComplete := round.proceedsComplete && !mixed },
    !mixed && leg.asset == .sol)

/-- Source: `kind` in `Round::apply_acquisition` -/
def acquisitionKind (traded : Bool) (before : ℤ) : LedgerEventKind :=
  if traded then if before ≤ 0 then .entry else .add else .receive

/-- Source: `kind` in `Round::apply_disposal` -/
def disposalKind (traded closing : Bool) : LedgerEventKind :=
  if traded then if closing then .exit else .partialExit else .send

/-- Source: `Round::apply_acquisition` -/
def applyAcquisition (round : Round) (group : List SubjectAssetDelta) (delta : SubjectAssetDelta)
    (before after : ℤ) : Round :=
  let traded := delta.kind == .trade
  let kind := acquisitionKind traded before
  let amount := rawToWhole delta.deltaRaw round.decimals
  let quote := if traded then quoteFor group delta.mint true else none
  -- tokens without a trade, and a trade whose consideration we cannot see, have no cost
  let (quoted, accepted) : Round × Bool :=
    match quote with
    | some leg => round.acceptQuote leg
    | none => ({ round with basisComplete := false }, false)
  let paid : Option ℚ :=
    if accepted && decide (dust < amount) then quote.map (·.amount) else none
  { round with
    entryCount := if traded then saturatingSucc round.entryCount else round.entryCount
    totalAcquired := round.totalAcquired + delta.deltaRaw
    entrySignature :=
      if round.entrySignature.isNone && kind == .entry then some delta.signature
      else round.entrySignature
    openedAt :=
      if round.openedAt.isNone && decide (before ≤ 0) then delta.blockTime else round.openedAt
    quoteAsset := quoted.quoteAsset
    basisComplete := quoted.basisComplete
    proceedsComplete := quoted.proceedsComplete
    invested := round.invested + paid.getD 0
    remainingBasis := round.remainingBasis + paid.getD 0
    pricedAcquired := if paid.isSome then round.pricedAcquired + amount else round.pricedAcquired
    events := round.events ++ [{
      signature := delta.signature
      slot := delta.slot
      blockTime := delta.blockTime
      kind := kind
      amount := amount
      balanceAfter := rawToWhole after round.decimals
      quote := quote
      priceSol := paid.map (· / amount)
      venue := delta.venue }] }

/-- The basis a disposal releases, pro rata against the balance standing before it. Source:
`allocated_basis` in `Round::apply_disposal` -/
def allocatedBasis (remainingBasis : ℚ) (amountRaw before : ℤ) : ℚ :=
  if 0 < before then remainingBasis * max 0 (min ((amountRaw : ℚ) / before) 1) else 0

/-- Source: `Round::apply_disposal` -/
def applyDisposal (round : Round) (group : List SubjectAssetDelta) (delta : SubjectAssetDelta)
    (before after : ℤ) : Round :=
  let amountRaw := if 0 < before then min (-delta.deltaRaw) before else -delta.deltaRaw
  let traded := delta.kind == .trade
  let closing := decide (after ≤ 0)
  let kind := disposalKind traded closing
  let allocatedBasis := allocatedBasis round.remainingBasis amountRaw before
  let amount := rawToWhole amountRaw round.decimals
  let quote := if traded then quoteFor group delta.mint false else none
  -- tokens sent out are not proceeds, and neither is what is not priced in SOL
  let received : Option ℚ :=
    match quote with
    | some leg =>
      if leg.asset == .sol && round.quoteAsset != some .usd then some leg.amount else none
    | none => none
  { round with
    exitCount := if traded then saturatingSucc round.exitCount else round.exitCount
    totalDisposed := round.totalDisposed + amountRaw
    exitSignature := if closing && traded then some delta.signature else round.exitSignature
    historyComplete := round.historyComplete && decide (0 < before)
    basisComplete := round.basisComplete && decide (0 < before)
    proceedsComplete := round.proceedsComplete && received.isSome
    remainingBasis := if closing then 0 else max (round.remainingBasis - allocatedBasis) 0
    realizedProceeds := round.realizedProceeds + received.getD 0
    realizedCost :=
      if received.isSome then round.realizedCost + allocatedBasis else round.realizedCost
    pricedDisposed := if received.isSome then round.pricedDisposed + amount else round.pricedDisposed
    events := round.events ++ [{
      signature := delta.signature
      slot := delta.slot
      blockTime := delta.blockTime
      kind := kind
      amount := amount
      balanceAfter := rawToWhole after round.decimals
      quote := quote
      priceSol := if dust < amount then received.map (· / amount) else none
      venue := delta.venue }] }

/-- One row applied to its round. Source: `Round::apply` -/
def apply (round : Round) (group : List SubjectAssetDelta) (delta : SubjectAssetDelta) : Round :=
  let round := { round with
    decimals := if round.decimals == 0 then delta.decimals else round.decimals }
  let round := round.reconcileBefore delta
  let before := max round.balance 0
  let reportedAfter := delta.afterRaw.bind asI128
  let computedAfter := max (before + delta.deltaRaw) 0
  let after := reportedAfter.getD computedAfter
  -- the chain is silent about the resulting balance, or disagrees with our arithmetic
  let agrees := reportedAfter == some computedAfter
  let round := { round with
    historyComplete := round.historyComplete && agrees
    basisComplete := round.basisComplete && agrees }
  let round :=
    if 0 < delta.deltaRaw then round.applyAcquisition group delta before after
    else round.applyDisposal group delta before after
  { round with
    balance := after
    closedAt := if after ≤ 0 then delta.blockTime else round.closedAt }

/-- Source: `Round::finish` -/
def finish (round : Round) (stillOpen : Bool) : LedgerRound :=
  -- every acquisition was priced in SOL, and there was at least one
  let basisComplete :=
    round.basisComplete && round.quoteAsset == some .sol && decide (0 < round.entryCount)
  { mint := round.mint
    decimals := round.decimals
    roundKey := round.roundKey
    openedAt := round.openedAt
    closedAt := if stillOpen then none else round.closedAt
    isOpen := stillOpen
    balanceRaw := (max round.balance 0).toNat
    totalAcquiredRaw := (max round.totalAcquired 0).toNat
    totalDisposedRaw := (max round.totalDisposed 0).toNat
    entryCount := round.entryCount
    exitCount := round.exitCount
    investedSol := if basisComplete then round.invested else 0
    remainingBasisSol := if basisComplete then round.remainingBasis else 0
    realizedProceedsSol := round.realizedProceeds
    realizedCostSol := round.realizedCost
    averageEntryPriceSol :=
      if basisComplete && decide (dust < round.pricedAcquired) then
        some (round.invested / round.pricedAcquired) else none
    averageExitPriceSol :=
      if round.proceedsComplete && decide (dust < round.pricedDisposed) then
        some (round.realizedProceeds / round.pricedDisposed) else none
    realizedPnlSol :=
      if basisComplete && round.proceedsComplete && decide (0 < round.exitCount) then
        some (round.realizedProceeds - round.realizedCost) else none
    basisComplete := basisComplete
    historyComplete := round.historyComplete
    entrySignature := round.entrySignature
    exitSignature := round.exitSignature
    events := round.events }

end Round

/-! ## Round keys -/

/-- The key of a round whose opening acquisition was observed. -/
def groundedKey (delta : SubjectAssetDelta) : String := delta.signature ++ ":" ++ delta.mint

/-- The bare key of the first round of a mint that was open before our history. -/
def genesisKey (mint : String) : String := "genesis:" ++ mint

/-- The key of any further such round, qualified by the row that revealed it. -/
def gapKey (delta : SubjectAssetDelta) : String :=
  "genesis:" ++ delta.signature ++ ":" ++ delta.mint

/-- The key of a synthetic round for a holding whose bare key is taken. -/
def holdingKey (mint : String) : String := "genesis:holding:" ++ mint

/-! ## The reduction -/

/-- The reducer's working state. Source: `reducer.rs`, locals of `reduce_rounds` -/
structure Reduction where
  openRounds : AList fun _ : String => Round
  finished : List LedgerRound
  genesisUsed : Finset String

/-- The state before the first row. -/
def Reduction.empty : Reduction := ⟨∅, [], ∅⟩

/-- A superseded round: whatever it still holds is stale history that was never seen to close.
Source: `reducer.rs`, the `grounded` branch of `apply_delta` -/
def Round.closeStale (stale : Round) : LedgerRound :=
  if 0 < stale.balance then
    { stale.finish false with historyComplete := false, basisComplete := false }
  else stale.finish false

/-- An acquisition the chain says started the transaction at zero. -/
def isGrounded (delta : SubjectAssetDelta) : Bool :=
  decide (0 < delta.deltaRaw) && delta.beforeRaw == some 0

/-- Open the round a row belongs to, when it is not open: a grounded row starts a round of its own
and supersedes what was running, any other row without a round starts a genesis round. Source:
`reducer.rs`, first half of `apply_delta` -/
def openRound (state : Reduction) (delta : SubjectAssetDelta) : Reduction :=
  if isGrounded delta then
    { state with
      openRounds := (state.openRounds.erase delta.mint).insert delta.mint
        (Round.grounded delta (groundedKey delta))
      finished := state.finished ++
        ((state.openRounds.lookup delta.mint).map Round.closeStale).toList }
  else if (state.openRounds.lookup delta.mint).isNone then
    -- the first gap of a mint keeps the bare key, any further one is qualified
    let roundKey := if delta.mint ∈ state.genesisUsed then gapKey delta else genesisKey delta.mint
    { state with
      openRounds := state.openRounds.insert delta.mint (Round.genesis delta roundKey)
      genesisUsed := insert delta.mint state.genesisUsed }
  else state

/-- Route one row into its round, creating and closing rounds as the balance crosses zero. Source:
`apply_delta` -/
def applyDelta (group : List SubjectAssetDelta) (state : Reduction) (delta : SubjectAssetDelta) :
    Reduction :=
  let state := openRound state delta
  match state.openRounds.lookup delta.mint with
  | none => state
  | some round =>
    let round := round.apply group delta
    if round.balance ≤ 0 then
      { state with
        openRounds := state.openRounds.erase delta.mint
        finished := state.finished ++ [round.finish false] }
    else { state with openRounds := state.openRounds.insert delta.mint round }

/-- Chain order: rows without a slot last, then slot, transaction index, signature and mint. Source:
`reducer.rs`, the comparator of `ordered.sort_by` -/
def chainCmp : SubjectAssetDelta → SubjectAssetDelta → Ordering :=
  compareLex (compareOn fun d => d.slot.isNone) <|
  compareLex (compareOn fun d => d.slot) <|
  compareLex (compareOn fun d => d.txIndex) <|
  compareLex (compareOn fun d => d.signature) (compareOn fun d => d.mint)

/-- The successful rows in chain order. Source: `ordered` -/
def chainOrder (deltas : List SubjectAssetDelta) : List SubjectAssetDelta :=
  sortBy chainCmp (deltas.filter (·.success))

/-- A row that moves a position: not a reference asset, and not a zero amount. Source: `reducer.rs`,
the guard of the row loop -/
def isEligible (delta : SubjectAssetDelta) : Bool :=
  !(isReferenceAsset delta.mint || delta.deltaRaw == 0)

/-- One transaction: every eligible row of its group, each applied with the whole group in view.
Source: `reducer.rs`, the row loop of `reduce_rounds` -/
def applyGroup (state : Reduction) (group : List SubjectAssetDelta) : Reduction :=
  group.foldl
    (fun state delta =>
      if isEligible delta then applyDelta group state delta else state)
    state

/-- Every transaction in chain order. Source: `reducer.rs`, the cursor loop of `reduce_rounds` -/
def reduceAll (deltas : List SubjectAssetDelta) : Reduction :=
  (runs (·.signature) (chainOrder deltas)).foldl applyGroup Reduction.empty

/-- The order of the returned rounds. Source: `reducer.rs`, the comparator of `finished.sort_by` -/
def roundCmp : LedgerRound → LedgerRound → Ordering :=
  compareLex (compareOn fun r => r.openedAt) <|
  compareLex (compareOn fun r => r.mint) (compareOn fun r => r.roundKey)

/-- The rounds still open, in the order of the association list. -/
def Reduction.stillOpen (state : Reduction) : List Round :=
  state.openRounds.entries.map (·.2)

/-- Finish the open rounds, drained in the order `drained`, and sort everything. Source:
`reducer.rs`, the tail of `reduce_rounds` -/
def Reduction.rounds (state : Reduction) (drained : List Round) : List LedgerRound :=
  sortBy roundCmp (state.finished ++ drained.map (·.finish true))

/-- Reduce every observed delta into rounds, oldest first. Source: `reduce_rounds` -/
def reduceRounds (deltas : List SubjectAssetDelta) : List LedgerRound :=
  (reduceAll deltas).rounds (reduceAll deltas).stillOpen

/-! ## Reconciliation against the wallet -/

/-- The wallet's amount of a mint as the source looks it up: the holdings are collected into a map
keyed by mint, so the last one of a mint wins. Source: `on_chain` in `reconcile_with_wallet` -/
def onChain (holdings : List WalletHolding) (mint : String) : ℕ :=
  (((holdings.filter (·.mint == mint)).getLast?).map (·.amountRaw)).getD 0

/-- One open round laid against the wallet. Source: `reducer.rs`, first loop of
`reconcile_with_wallet` -/
def reconcileRound (holdings : List WalletHolding) (round : LedgerRound) : LedgerRound :=
  if !round.isOpen then
    round
  else
    let actual := onChain holdings round.mint
    if actual == round.balanceRaw then
      round
    else
      let round := { round with
        balanceRaw := actual
        historyComplete := false
        basisComplete := false
        realizedPnlSol := none
        averageEntryPriceSol := none }
      -- gone from the wallet with no disposal in our history
      if actual == 0 then { round with isOpen := false, remainingBasisSol := 0 } else round

/-- The genesis round of a held mint no transaction explains. Source: `reducer.rs`, second loop of
`reconcile_with_wallet` -/
def syntheticRound (taken : List String) (holding : WalletHolding) : LedgerRound where
  mint := holding.mint
  decimals := holding.decimals
  roundKey :=
    if taken.contains (genesisKey holding.mint) then holdingKey holding.mint
    else genesisKey holding.mint
  openedAt := none
  closedAt := none
  isOpen := true
  balanceRaw := holding.amountRaw
  totalAcquiredRaw := holding.amountRaw
  totalDisposedRaw := 0
  entryCount := 0
  exitCount := 0
  investedSol := 0
  remainingBasisSol := 0
  realizedProceedsSol := 0
  realizedCostSol := 0
  averageEntryPriceSol := none
  averageExitPriceSol := none
  realizedPnlSol := none
  basisComplete := false
  historyComplete := false
  entrySignature := none
  exitSignature := none
  events := []

/-- The holdings the reconciled rounds do not explain. Source: `missing` in
`reconcile_with_wallet` -/
def missingHoldings (rounds : List LedgerRound) (holdings : List WalletHolding) :
    List WalletHolding :=
  let known := (rounds.filter (·.isOpen)).map (·.mint)
  holdings.filter fun h => decide (0 < h.amountRaw) && !known.contains h.mint

/-- Reconcile reduced rounds against the wallet's current on-chain balances. Source:
`reconcile_with_wallet` -/
def reconcileWithWallet (rounds : List LedgerRound) (holdings : List WalletHolding) :
    List LedgerRound :=
  let rounds := rounds.map (reconcileRound holdings)
  -- keys already taken by rounds we reduced, the closed ones included
  let taken := rounds.map (·.roundKey)
  rounds ++ (missingHoldings rounds holdings).map (syntheticRound taken)

end Dripline.Positions.Ledger
