import Mathlib.Algebra.Order.BigOperators.Group.List
import Dripline.Found.Trace
import Dripline.Positions.Ledger.Resync

/-!
# The basis of a row the bot owns

One row of the bot through sync after sync, while the wallet keeps buying.

* `basis_pathIndependent_iff` — the total is booked plus unbooked after every growth exactly when
  every growth is attributed.
-/

namespace Dripline.Positions.Ledger

open Dripline.Transactions Dripline.Found.Trace List

/-! ## One row, one sync -/

/-- What a sync reads about one row: its round, and the context of the plan. -/
structure RowSync where
  round : LedgerRound
  metadata : RoundMetadata
  legs : Option TraderLegs
  busyMints : Finset String
  now : DateTime

/-- What a sync does to the row the bot owns.
Source: `sync.rs`, the first branch of `match current` in `plan_position_writes` -/
def syncRow (row : Position) (s : RowSync) : Position :=
  if isBusy row s.busyMints then row
  else
    let fresh := reconcileOwnedPosition row s.round s.metadata s.legs s.now
    if differsOwned row fresh then fresh else row

/-- **A sync of all rows does to each row of the bot what a sync of that row does**, whatever the
other rounds and rows are: it is the one round that claims it that counts. -/
theorem applyUpdate_eq_syncRow {rounds : List LedgerRound} {existing : List Position}
    {context : SyncContext} (hrounds : (rounds.map (·.roundKey)).Nodup)
    (hid : (existing.map (·.id)).Nodup) {round : LedgerRound} {row : Position}
    (hc : (round, some row) ∈ claims existing ∅ rounds) (hsome : row.id.isSome = true)
    (howned : row.isWalletDerived = false) :
    applyUpdate (planPositionWrites rounds existing context) row =
      syncRow row ⟨round, (context.metadata round.mint).getD RoundMetadata.default,
        row.id.bind context.traderLegs, context.busyMints, context.now⟩ := by
  obtain ⟨hrow, -⟩ := (of_mem_claims hc).1 row rfl
  have hwrite := @writeFor_owned context round row howned
  -- a row without a write keeps its state
  have hkept : writeFor context round (some row) = none →
      applyUpdate (planPositionWrites rounds existing context) row = row := by
    intro hnone
    rcases applyUpdate_cases rounds context hid hrow with h | ⟨round', hc', h⟩
    · exact h
    · rw [← claim_unique hid hrounds hc hc', hnone] at h
      cases h
  unfold syncRow
  dsimp only
  cases hbusy : isBusy row context.busyMints with
  | true =>
    rw [hbusy, if_pos rfl] at hwrite
    rw [if_pos rfl, hkept hwrite]
  | false =>
    rw [hbusy, if_neg Bool.false_ne_true] at hwrite
    rw [if_neg Bool.false_ne_true]
    split
    next hdiffers =>
      rw [if_pos hdiffers] at hwrite
      exact applyUpdate_of_claim hrounds hid hc hsome hwrite
    next hdiffers =>
      rw [if_neg hdiffers] at hwrite
      exact hkept hwrite

/-- A row of the bot next to the round of another mint. -/
theorem applyUpdate_eq_syncRow_open :
    applyUpdate (planPositionWrites
        [testOpenRound "OTHER" "other-sig:OTHER", testOpenRound "MINT" "open-sig:MINT"]
        [botPosition (testOpenRound "MINT" "open-sig:MINT")] testContext)
        (botPosition (testOpenRound "MINT" "open-sig:MINT")) =
      syncRow (botPosition (testOpenRound "MINT" "open-sig:MINT"))
        ⟨testOpenRound "MINT" "open-sig:MINT", RoundMetadata.default, none, ∅, testContext.now⟩ :=
  applyUpdate_eq_syncRow (by decide) (by decide) (.tail _ (.head _)) rfl rfl

/-- A sync adopts growth: nothing is in flight, and the round holds more than the row claims. -/
def adoptsGrowth (row : Position) (s : RowSync) : Bool :=
  !isBusy row s.busyMints && growsExternally row s.round

/-! ## What a sync does to the total -/

section total

variable {row : Position} {s : RowSync}

lemma reconcileOwnedPosition_totalSizeSol :
    (reconcileOwnedPosition row s.round s.metadata s.legs s.now).totalSizeSol =
      (growOwnedPosition row s.round s.metadata s.legs).totalSizeSol :=
  reconcileOwnedPosition_field _ _ _ _ _ (·.totalSizeSol) (fun _ _ _ => rfl) fun _ => rfl

lemma syncRow_entrySignature :
    (syncRow row s).entryTransactionSignature = row.entryTransactionSignature := by
  have hreconcile : (reconcileOwnedPosition row s.round s.metadata s.legs
      s.now).entryTransactionSignature = row.entryTransactionSignature := by
    rw [reconcileOwnedPosition_field _ _ _ _ _ (·.entryTransactionSignature) (fun _ _ _ => rfl)
      fun _ => rfl]
    exact growOwnedPosition_field _ _ _ _ (·.entryTransactionSignature) fun _ => rfl
  unfold syncRow
  dsimp only
  split
  · rfl
  · split
    · exact hreconcile
    · rfl

lemma differsOwned_of_grows (hgrows : growsExternally row s.round = true) :
    differsOwned row (reconcileOwnedPosition row s.round s.metadata s.legs s.now) = true := by
  have hmore : row.remainingTokenAmount.getD 0 < clampRaw s.round.balanceRaw := by
    have := hgrows
    simp only [growsExternally, Bool.and_eq_true, decide_eq_true_eq] at this
    exact this.1
  have hremaining : (growOwnedPosition row s.round s.metadata s.legs).remainingTokenAmount =
      some (clampRaw s.round.balanceRaw) := by
    rw [growOwnedPosition_remaining, hgrows, if_pos rfl]
  have hgrown : differsOwned row (growOwnedPosition row s.round s.metadata s.legs) = true := by
    have hne : row.remainingTokenAmount ≠ some (clampRaw s.round.balanceRaw) := by
      intro h
      rw [h] at hmore
      exact lt_irrefl _ hmore
    simp [differsOwned, hremaining, hne]
  rcases reconcileOwnedPosition_cases row s.round s.metadata s.legs s.now with
    ⟨heq, -, -⟩ | ⟨-, hshrunk, -⟩ | ⟨-, hexit, heq⟩
  · rw [heq]
    exact hgrown
  · exact absurd hshrunk hmore.not_gt
  · rw [heq]
    simp [differsOwned, closeOwnedPosition, hexit]

lemma syncRow_grown (hadopts : adoptsGrowth row s = true) (hbasis : s.round.basisComplete = true) :
    (syncRow row s).totalSizeSol = (bookedLegs row s.legs).bookedInvestedSol +
      externalSol (bookedLegs row s.legs).entrySignatures s.round.events := by
  obtain ⟨hbusy, hgrows⟩ : isBusy row s.busyMints = false ∧ growsExternally row s.round = true := by
    simpa [adoptsGrowth] using hadopts
  unfold syncRow
  rw [hbusy, if_neg Bool.false_ne_true, if_pos (differsOwned_of_grows hgrows),
    reconcileOwnedPosition_totalSizeSol]
  unfold growOwnedPosition adoptExternalGrowth
  simp only [hgrows, hbasis, if_true]

lemma syncRow_kept (hadopts : adoptsGrowth row s = false) :
    (syncRow row s).totalSizeSol = row.totalSizeSol := by
  unfold syncRow
  cases hbusy : isBusy row s.busyMints with
  | true => rfl
  | false =>
    have hgrows : growsExternally row s.round = false := by
      simpa [adoptsGrowth, hbusy] using hadopts
    have htotal : (reconcileOwnedPosition row s.round s.metadata s.legs s.now).totalSizeSol =
        row.totalSizeSol := by
      rw [reconcileOwnedPosition_totalSizeSol]
      unfold growOwnedPosition
      rw [hgrows]
      rfl
    rw [if_neg Bool.false_ne_true]
    dsimp only
    split
    · exact htotal
    · rfl

end total

/-! ## The SOL the trader did not book -/

/-- The SOL an event was quoted at. -/
def LedgerEvent.quotedSol (event : LedgerEvent) : ℚ :=
  match event.quote with
  | some ⟨.sol, amount⟩ => amount
  | _ => 0

/-- An acquisition that is not among the booked ones. -/
def isUnbooked (booked : Finset String) (event : LedgerEvent) : Bool :=
  event.kind.isAcquisition && decide (event.signature ∉ booked)

/-- The quoted SOL of the acquisitions of a history that are not among the booked ones. -/
def unbookedSol (booked : Finset String) (events : List LedgerEvent) : ℚ :=
  ((events.filter (isUnbooked booked)).map (·.quotedSol)).sum

/-- An acquisition with a quote in SOL. -/
def LedgerEvent.IsSolAcquisition (event : LedgerEvent) : Prop :=
  event.kind.isAcquisition = true ∧ ∃ amount, event.quote = some ⟨.sol, amount⟩

/-- Events as the ledger prices them: tokens that came without a trade have no quote, and a quote
of an acquisition is of something. -/
structure Priced (events : List LedgerEvent) : Prop where
  receive : ∀ event ∈ events, event.kind = .receive → event.quote = none
  positive : ∀ event ∈ events, event.kind.isAcquisition = true →
    ∀ quote, event.quote = some quote → 0 < quote.amount

section unbooked

variable {booked booked' : Finset String} {event : LedgerEvent} {events : List LedgerEvent}

lemma unbookedSol_cons : unbookedSol booked (event :: events) =
    (if isUnbooked booked event then event.quotedSol else 0) + unbookedSol booked events := by
  unfold unbookedSol
  cases h : isUnbooked booked event with
  | true => rw [filter_cons_of_pos h, map_cons, sum_cons, if_pos rfl]
  | false =>
    rw [filter_cons_of_neg (by simp [h]), if_neg Bool.false_ne_true, zero_add]

lemma externalSolOf_getD (hreceive : event.kind = .receive → event.quote = none) :
    (externalSolOf booked event).getD 0 =
      if isUnbooked booked event then event.quotedSol else 0 := by
  unfold externalSolOf isUnbooked LedgerEvent.quotedSol
  by_cases hmem : event.signature ∈ booked
  · simp [hmem]
  · cases hkind : event.kind <;> simp [hmem, LedgerEventKind.isAcquisition]
    case receive => simp [hreceive hkind]
    all_goals
      cases event.quote with
      | none => rfl
      | some quote =>
        obtain ⟨asset, amount⟩ := quote
        cases asset <;> rfl

lemma Priced.tail (h : Priced (event :: events)) : Priced events :=
  ⟨fun e he => h.receive e (mem_cons_of_mem event he),
    fun e he => h.positive e (mem_cons_of_mem event he)⟩

lemma externalSol_eq_unbookedSol (hpriced : Priced events) :
    externalSol booked events = unbookedSol booked events := by
  induction events with
  | nil => rfl
  | cons event events ih =>
    have hevent := @externalSolOf_getD booked event (hpriced.receive event mem_cons_self)
    rw [unbookedSol_cons, ← ih hpriced.tail, ← hevent]
    unfold externalSol
    cases h : externalSolOf booked event with
    | none => rw [filterMap_cons_none h, Option.getD_none, zero_add]
    | some amount => rw [filterMap_cons_some h, sum_cons, Option.getD_some]

lemma quotedSol_eq_zero (hnot : ¬ event.IsSolAcquisition)
    (hunbooked : isUnbooked booked event = true) : event.quotedSol = 0 := by
  unfold LedgerEvent.quotedSol
  unfold isUnbooked at hunbooked
  split
  next amount hquote =>
    exact absurd ⟨(Bool.and_eq_true_iff.mp hunbooked).1, amount, hquote⟩ hnot
  next => rfl

lemma unbookedSol_congr (h : ∀ event ∈ events, event.IsSolAcquisition →
    (event.signature ∈ booked ↔ event.signature ∈ booked')) :
    unbookedSol booked events = unbookedSol booked' events := by
  induction events with
  | nil => rfl
  | cons event events ih =>
    rw [unbookedSol_cons, unbookedSol_cons,
      ih fun e he => h e (mem_cons_of_mem event he)]
    congr 1
    by_cases hsol : event.IsSolAcquisition
    · have := h event mem_cons_self hsol
      simp [isUnbooked, this]
    · split
      next h₁ =>
        rw [quotedSol_eq_zero hsol h₁]
        split <;> rfl
      next =>
        split
        next h₂ => rw [quotedSol_eq_zero hsol h₂]
        next => rfl

lemma quotedSol_nonneg (hpos : ∀ quote, event.quote = some quote → 0 < quote.amount) :
    0 ≤ event.quotedSol := by
  unfold LedgerEvent.quotedSol
  split
  next amount hquote => exact (hpos _ hquote).le
  next => exact le_refl _

lemma unbookedSol_nonneg (hpriced : Priced events) : 0 ≤ unbookedSol booked events := by
  refine sum_nonneg ?_
  intro amount hamount
  obtain ⟨event, hevent, rfl⟩ := mem_map.mp hamount
  obtain ⟨hmem, hunbooked⟩ := mem_filter.mp hevent
  exact quotedSol_nonneg (hpriced.positive event hmem (Bool.and_eq_true_iff.mp hunbooked).1)

lemma unbooked_le_of_subset (hsub : booked' ⊆ booked)
    (hpos : event.kind.isAcquisition = true → ∀ quote, event.quote = some quote →
      0 < quote.amount) :
    (if isUnbooked booked event then event.quotedSol else 0) ≤
      if isUnbooked booked' event then event.quotedSol else 0 := by
  by_cases h' : isUnbooked booked' event = true
  · have hnonneg := quotedSol_nonneg (hpos (Bool.and_eq_true_iff.mp h').1)
    rw [if_pos h']
    split
    · exact le_refl _
    · exact hnonneg
  · have h : ¬ isUnbooked booked event = true := by
      simp only [isUnbooked, Bool.and_eq_true, decide_eq_true_eq] at h' ⊢
      exact fun hboth => h' ⟨hboth.1, fun hmem => hboth.2 (hsub hmem)⟩
    rw [if_neg h, if_neg h']

lemma unbookedSol_of_subset (hsub : booked' ⊆ booked) (hpriced : Priced events) :
    unbookedSol booked events ≤ unbookedSol booked' events ∧
    (unbookedSol booked events = unbookedSol booked' events → ∀ event ∈ events,
      event.IsSolAcquisition → event.signature ∈ booked → event.signature ∈ booked') := by
  induction events with
  | nil => exact ⟨le_refl _, fun _ event hevent => absurd hevent not_mem_nil⟩
  | cons event events ih =>
    obtain ⟨hle, heq⟩ := ih hpriced.tail
    have hhead := unbooked_le_of_subset hsub (hpriced.positive event mem_cons_self)
    rw [unbookedSol_cons, unbookedSol_cons]
    refine ⟨add_le_add hhead hle, ?_⟩
    intro hsum e he hsol hbooked
    obtain ⟨hhead', htail⟩ := (add_eq_add_iff_eq_and_eq hhead hle).mp hsum
    rcases mem_cons.mp he with rfl | he
    · by_contra hnot
      obtain ⟨hacquisition, amount, hquote⟩ := hsol
      have hpos : 0 < e.quotedSol := by
        unfold LedgerEvent.quotedSol
        rw [hquote]
        exact hpriced.positive e mem_cons_self hacquisition _ hquote
      simp [isUnbooked, hacquisition, hbooked, hnot] at hhead'
      exact hpos.ne hhead'
    · exact heq htail e he hsol hbooked

end unbooked

/-! ## The legs a sync reads -/

/-- The trader's legs as a sync read them, if it read any.
Source: `sync.rs`, `legs.filter(|l| !l.entry_signatures.is_empty())` -/
def RowSync.readLegs (s : RowSync) : Option TraderLegs :=
  s.legs.filter fun legs => legs.entrySignatures.Nonempty

section legs

variable (rows : List (ℤ × String × Bool × ℚ)) (positionId : ℤ)

end legs
/-! ## Syncs over a growing history -/

/-- Syncs over prefixes of one growing history whose flags stay complete, each of which reads the
legs the trader booked or reads none. -/
structure GrowthRun (booked : TraderLegs) (syncs : List RowSync) : Prop where
  legs : ∀ s ∈ syncs, ∀ legs, s.readLegs = some legs → legs = booked
  historyComplete : ∀ s ∈ syncs, s.round.historyComplete = true
  basisComplete : ∀ s ∈ syncs, s.round.basisComplete = true
  priced : ∀ s ∈ syncs, Priced s.round.events
  grows : (syncs.map (·.round.events)).IsChain (· <+: ·)

/-- After a sync that adopts growth, the total is what the trader booked plus the quoted SOL of
exactly the acquisitions it did not book. -/
def Exact (booked : TraderLegs) (row : Position) (s : RowSync) : Prop :=
  adoptsGrowth row s = true → (syncRow row s).totalSizeSol =
    booked.bookedInvestedSol + unbookedSol booked.entrySignatures s.round.events

/-- A sync that adopts growth knows what was booked: it reads the legs; or the row's total is still
what the trader booked, and the booked acquisitions of the round are those of the row's entry. -/
def Attributed (booked : TraderLegs) (row : Position) (s : RowSync) : Prop :=
  adoptsGrowth row s = true → s.readLegs = some booked ∨
    (row.totalSizeSol = booked.bookedInvestedSol ∧
      ∀ event ∈ s.round.events, event.IsSolAcquisition →
        (event.signature ∈ booked.entrySignatures ↔
          row.entryTransactionSignature = some event.signature))

/-- The row holds at least what the trader booked, and its entry is among the booked legs. -/
structure Booked (booked : TraderLegs) (row : Position) : Prop where
  total : booked.bookedInvestedSol ≤ row.totalSizeSol
  entry : ∃ signature ∈ booked.entrySignatures,
    row.entryTransactionSignature = some signature

section run

variable {booked : TraderLegs} {row : Position} {s : RowSync}

lemma bookedLegs_of_read {legs : TraderLegs} (h : s.readLegs = some legs) :
    bookedLegs row s.legs = legs := by
  unfold RowSync.readLegs at h
  unfold bookedLegs
  rw [h]

lemma bookedLegs_of_unread (h : s.readLegs = none) :
    bookedLegs row s.legs = ⟨row.entryTransactionSignature.toFinset, row.totalSizeSol⟩ := by
  unfold RowSync.readLegs at h
  unfold bookedLegs
  rw [h]

lemma exact_of_attributed (hlegs : ∀ legs, s.readLegs = some legs → legs = booked)
    (hbasis : s.round.basisComplete = true) (hpriced : Priced s.round.events)
    (h : Attributed booked row s) : Exact booked row s := by
  intro hadopts
  rw [syncRow_grown hadopts hbasis, externalSol_eq_unbookedSol hpriced]
  cases hread : s.readLegs with
  | some legs => rw [bookedLegs_of_read hread, hlegs legs hread]
  | none =>
    rw [bookedLegs_of_unread hread]
    rcases h hadopts with hlegs | ⟨htotal, hsame⟩
    · rw [hread] at hlegs
      cases hlegs
    · dsimp only
      rw [htotal]
      congr 1
      refine unbookedSol_congr ?_
      intro event hevent hsol
      rw [Option.mem_toFinset, Option.mem_def]
      exact (hsame event hevent hsol).symm

lemma attributed_of_exact (hlegs : ∀ legs, s.readLegs = some legs → legs = booked)
    (hbasis : s.round.basisComplete = true) (hpriced : Priced s.round.events)
    (hbooked : Booked booked row) (h : Exact booked row s) : Attributed booked row s := by
  intro hadopts
  cases hread : s.readLegs with
  | some legs => rw [hlegs legs hread]; exact Or.inl rfl
  | none =>
    have hexact := h hadopts
    rw [syncRow_grown hadopts hbasis, externalSol_eq_unbookedSol hpriced,
      bookedLegs_of_unread hread] at hexact
    dsimp only at hexact
    obtain ⟨signature, hmem, hentry⟩ := hbooked.entry
    have hsub : row.entryTransactionSignature.toFinset ⊆ booked.entrySignatures := by
      rw [hentry]
      simpa using hmem
    obtain ⟨hle, heq⟩ := unbookedSol_of_subset hsub hpriced
    have htotal := hbooked.total
    -- the total is at least what was booked, and so is what counts as unbooked
    refine Or.inr ⟨by linarith, ?_⟩
    intro event hevent hsol
    constructor
    · intro hin
      have := heq (by linarith) event hevent hsol hin
      simpa using this
    · intro hsig
      exact hsub (by simpa using hsig)

lemma booked_syncRow (hpriced : Priced s.round.events) (hbooked : Booked booked row)
    (h : Exact booked row s) : Booked booked (syncRow row s) := by
  refine ⟨?_, by rw [syncRow_entrySignature]; exact hbooked.entry⟩
  cases hadopts : adoptsGrowth row s with
  | true =>
    rw [h hadopts]
    have := @unbookedSol_nonneg booked.entrySignatures _ hpriced
    linarith
  | false =>
    rw [syncRow_kept hadopts]
    exact hbooked.total

end run

/-- **The basis of a row of the bot is path independent** as long as every sync that adopts growth
knows what was booked: after each of them the total is what the trader booked plus the quoted SOL
of exactly the acquisitions it did not book. For a row that holds what the trader booked there is
no other way. -/
theorem basis_pathIndependent_iff (booked : TraderLegs) (row : Position) (syncs : List RowSync)
    (hrun : GrowthRun booked syncs) :
    (Throughout syncRow (Attributed booked) row syncs →
      Throughout syncRow (Exact booked) row syncs) ∧
    (Booked booked row → (Throughout syncRow (Exact booked) row syncs ↔
      Throughout syncRow (Attributed booked) row syncs)) := by
  have hexact : ∀ row, ∀ s ∈ syncs, Attributed booked row s → Exact booked row s :=
    fun row s hs => exact_of_attributed (hrun.legs s hs) (hrun.basisComplete s hs)
      (hrun.priced s hs)
  refine ⟨Throughout.imp hexact, fun hbooked => ?_⟩
  refine throughout_iff (Booked booked) hbooked ?_ ?_
  · intro row hrow s hs
    exact ⟨attributed_of_exact (hrun.legs s hs) (hrun.basisComplete s hs) (hrun.priced s hs) hrow,
      hexact row s hs⟩
  · intro row hrow s hs hstep
    exact booked_syncRow (hrun.priced s hs) hrow hstep

/-! ## Legs that were not read -/

/-- One priced acquisition: `amount` whole tokens for `sol` SOL.
Source: `tests/positions_ledger_sync.rs`, `acquisition` -/
def testAcquisition (signature : String) (kind : LedgerEventKind) (amount sol : ℚ) :
    LedgerEvent where
  signature := signature
  slot := some 1
  blockTime := some 1600000500
  kind := kind
  amount := amount
  balanceAfter := amount
  quote := some ⟨.sol, sol⟩
  priceSol := some (sol / amount)
  venue := some "jupiter"

/-- The held round after the user bought more in another wallet app.
Source: `tests/positions_ledger_sync.rs`, `grown_round` -/
def testGrownRound (raw : ℕ) (events : List LedgerEvent) : LedgerRound :=
  { testOpenRound "MINT" "open-sig:MINT" with
    balanceRaw := raw
    totalAcquiredRaw := raw
    entryCount := events.length
    investedSol := unbookedSol ∅ events
    events := events }

/-- A sync of the grown round after one outside buy, then one after two. -/
def testSyncs (legs : Option TraderLegs) : List RowSync :=
  let bought := testAcquisition "open-sig" .entry 1 2
  let outside (signature : String) := testAcquisition signature .add 2 3
  [⟨testGrownRound 3000000 [bought, outside "outside-1"], RoundMetadata.default, none, ∅, 0⟩,
    ⟨testGrownRound 5000000 [bought, outside "outside-1", outside "outside-2"],
      RoundMetadata.default, legs, ∅, 0⟩]

/-- What the trader booked: its own buy. -/
def testLegs : TraderLegs := ⟨{"open-sig"}, 2⟩

lemma growthRun_testSyncs {legs : Option TraderLegs}
    (hlegs : ∀ l, legs.filter (fun l => l.entrySignatures.Nonempty) = some l → l = testLegs) :
    GrowthRun testLegs (testSyncs legs) where
  legs := by
    intro s hs l hl
    rcases mem_pair.mp hs with rfl | rfl
    · cases hl
    · exact hlegs l hl
  historyComplete := by
    intro s hs
    rcases mem_pair.mp hs with rfl | rfl <;> rfl
  basisComplete := by
    intro s hs
    rcases mem_pair.mp hs with rfl | rfl <;> rfl
  priced := by
    intro s hs
    rcases mem_pair.mp hs with rfl | rfl <;>
      constructor <;> simp [testGrownRound, testAcquisition]
  grows := by
    simp [testSyncs, testGrownRound]

/-- Reading the legs by the second sync is soon enough. -/
theorem basis_pathIndependent_iff_read :
    Throughout syncRow (Exact testLegs) (botPosition (testOpenRound "MINT" "open-sig:MINT"))
      (testSyncs (some testLegs)) := by
  refine (basis_pathIndependent_iff testLegs _ _ (growthRun_testSyncs ?_)).1 ⟨?_, ?_, trivial⟩
  · intro l hl
    exact (Option.some.inj (Option.eq_some_of_filter_eq_some hl)).symm
  · intro _
    refine Or.inr ⟨rfl, ?_⟩
    intro event hevent _
    rcases mem_pair.mp hevent with rfl | rfl <;> decide
  · intro _
    exact Or.inl rfl

/-- Without the legs, the second of two growths counts the first outside buy twice. -/
theorem not_exact_of_unread_legs :
    ¬ ∀ (booked : TraderLegs) (row : Position) (syncs : List RowSync),
      GrowthRun booked syncs → Booked booked row →
      row.totalSizeSol = booked.bookedInvestedSol → row.isWalletDerived = false →
      Throughout syncRow (Exact booked) row syncs := by
  intro h
  have hbooked : Booked testLegs (botPosition (testOpenRound "MINT" "open-sig:MINT")) :=
    ⟨le_refl _, "open-sig", by decide, rfl⟩
  have hunread : GrowthRun testLegs (testSyncs none) := growthRun_testSyncs fun l hl => by cases hl
  obtain ⟨-, hsecond, -⟩ := h testLegs (botPosition (testOpenRound "MINT" "open-sig:MINT"))
    (testSyncs none) hunread hbooked rfl rfl
  have htotal := hsecond (by decide +kernel)
  revert htotal
  decide +kernel

end Dripline.Positions.Ledger
