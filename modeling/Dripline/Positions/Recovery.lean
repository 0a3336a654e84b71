import Dripline.Positions.Capacity
import Dripline.Positions.Operations
import Dripline.Positions.Settling

/-!
# What a restart recovers

The operations and the verifications of a process one after another, and what a restart loads of
them: the rows of the table, and the adds and partial exits of the metadata.

* `recovers_iff` — a restart recovers everything exactly when no close waits to be written.
-/

namespace Dripline.Positions

open Dripline.Found.Keyed Dripline.Found.StableSort Dripline.Found.Trace List Function

/-! ## Swaps in flight -/

/-- What a swap was sent for. -/
inductive FlightKind
  | entry
  | add
  | partialExit
  | exit
  deriving DecidableEq

/-- A swap that was sent and is not settled, and the position it was sent for. -/
structure Flight where
  signature : String
  positionId : Option ℤ
  kind : FlightKind

/-- What an item verifies. Source: `queue.rs`, `VerificationItem::new`, `new_dca` and
`new_partial_exit` -/
def VerificationItem.flight (item : VerificationItem) : Flight where
  signature := item.signature
  positionId := item.positionId
  kind :=
    match item.kind with
    | .entry => if item.isDca then .add else .entry
    | .exit => if item.isPartialExit then .partialExit else .exit

/-- The add that is pending. -/
def PendingDcaSwap.flight (entry : PendingDcaSwap) : Flight :=
  ⟨entry.signature, some entry.positionId, .add⟩

/-- The partial exit that is pending. -/
def PendingPartialExit.flight (entry : PendingPartialExit) : Flight :=
  ⟨entry.signature, some entry.positionId, .partialExit⟩

namespace Flight

variable (flight : Flight)

/-- The transition settles this swap: it is of its kind, and carries its signature if it carries
one. -/
def Settles : PositionTransition → Prop
  | .entryVerified .. => flight.kind = .entry
  | .exitVerified .. | .exitFailedClearForRetry _ | .exitPermanentFailureSynthetic .. =>
    flight.kind = .exit
  | .exitResidualClearForRetry _ _ _ _ _ _ signature _ =>
    flight.kind = .exit ∧ signature = flight.signature
  | .partialExitVerified _ _ _ _ _ _ signature _ =>
    flight.kind = .partialExit ∧ signature = flight.signature
  | .partialExitFailed .. => flight.kind = .partialExit
  | .dcaVerified _ _ _ _ _ _ signature | .dcaFailed _ signature _ =>
    flight.kind = .add ∧ signature = flight.signature
  | _ => False

end Flight

/-! ## Operations -/

namespace Operation

/-- The signature the operation sent. -/
def sent : Operation → Option String
  | .openPosition _ _ _ _ _ _ _ reply | .addToPosition _ _ _ reply => submittedSignature reply
  | .partialClosePosition _ _ _ _ _ rungs | .closePositionDirect _ _ _ _ rungs => (climb rungs).2

/-- What the operation sends a swap for. -/
def kind : Operation → FlightKind
  | .openPosition .. => .entry
  | .addToPosition .. => .add
  | .partialClosePosition .. => .partialExit
  | .closePositionDirect .. => .exit

/-- A partial close marks its mint before it swaps. Source: `operations/partial_close.rs`,
`mark_partial_exit_pending` -/
def begun (trades : Trades) : Operation → Trades
  | .partialClosePosition mint _ _ _ _ _ => { trades with exits := trades.exits.mark mint }
  | _ => trades

/-- The row an open inserts. -/
def inserted (aftermath : Aftermath) : Operation → List ℤ
  | .openPosition mint _ _ _ _ _ _ _ =>
    (persistPositionWithRetry mint aftermath.save positionSaveMaxRetries).toOption.toList
  | _ => []

/-- The row a close stamps in memory alone. -/
def stamped : Operation → List ℤ
  | .closePositionDirect _ position _ _ _ => position.toList
  | _ => []

/-- What an operation looks for before it swaps: the open position of the mint; a partial exit also
that none is pending, a close that its own is not. Source: `operations/dca.rs`,
`operations/partial_close.rs` and `operations/close.rs`, up to the swap -/
def Guards (trades : Trades) : Operation → Prop
  | .openPosition .. => True
  | .addToPosition mint positionId _ _ =>
    (trades.durable.state.store.getByMint mint).bind (·.id) = some positionId
  | .partialClosePosition mint positionId _ _ _ _ =>
    trades.exits.isPending mint = false ∧
      (trades.durable.state.store.getByMint mint).bind (·.id) = some positionId
  | .closePositionDirect mint position _ _ _ =>
    (trades.durable.state.store.getByMint mint).bind (·.id) = position ∧
      ∀ row, trades.durable.state.store.getByMint mint = some row →
        row.exitTransactionSignature = none

end Operation

/-! ## The process -/

/-- Source: `apply.rs`, the calls of `clear_pending_dca_swap` -/
def PendingDcas.apply (pending : PendingDcas) (answers : Answers) (store : Store) :
    PositionTransition → PendingDcas
  | .dcaVerified id _ _ _ _ _ signature =>
    if (store.get id).isSome && answers.rowWrite.isOk then
      (pending.clear answers.pendingWrite signature).1
    else pending
  | .dcaFailed _ signature _ => (pending.clear answers.pendingWrite signature).1
  | _ => pending

/-- The trades, the ids of the table in the order they were inserted, the swaps in flight, and the
rows that were stamped and not written since. -/
structure Process where
  trades : Trades
  ids : List ℤ
  flying : List Flight
  unsaved : List ℤ

/-- An operation runs, a swap in flight is verified, or the process stops and starts again. -/
inductive ProcessEvent
  | operated (operation : Operation) (aftermath : Aftermath)
  | verified (flight : Flight) (transition : PositionTransition) (answers again : Answers)
  | restarted (maxOpen : ℕ) (now : DateTime)

/-- The items of a row that is loaded. Source: `worker.rs`, the loop of
`initialize_positions_system` -/
def Position.pendingItems (now : DateTime) (row : Position) : List VerificationItem :=
  (row.entering.map fun signature => .new signature row.mint row.id .entry none now).toList ++
    (row.closing.map fun signature => .new signature row.mint row.id .exit none now).toList

/-- Source: `worker.rs`, the adds of `initialize_positions_system` -/
def PendingDcaSwap.item (now : DateTime) (entry : PendingDcaSwap) : VerificationItem :=
  .newDca entry.signature entry.mint (some entry.positionId) entry.expiryHeight now

/-- Source: `worker.rs`, the partial exits of `initialize_positions_system` -/
def PendingPartialExit.item (now : DateTime) (entry : PendingPartialExit) : VerificationItem :=
  .newPartialExit entry.signature entry.mint (some entry.positionId) entry.expectedExitAmount
    entry.requestedExitPercentage entry.expiryHeight now

namespace Process

variable (process : Process)

/-- The rows in memory. -/
def store : Store := process.trades.durable.state.store

/-- The table, newest first. Source: `database/convenience.rs`, `load_all_positions` -/
def loaded : List Position :=
  sortBy (fun a b => compare b.entryTime a.entryTime)
    (process.ids.filterMap process.trades.durable.rows)

/-- The items a start enqueues, in order. Source: `worker.rs`, `initialize_positions_system` -/
def recoveredItems (now : DateTime) : List VerificationItem :=
  process.loaded.flatMap (·.pendingItems now) ++
    (process.trades.dcas.stored.map (·.item now) ++ process.trades.exits.stored.map (·.item now))

/-- The memory of a process that was started again; records are kept by the database.
Source: `worker.rs`, `initialize_positions_system` -/
def restarted (maxOpen : ℕ) (now : DateTime) : Trades :=
  let started := (Trading.started maxOpen process.loaded).state
  { durable :=
      { state := { started with
          store := { process.store with positions := process.loaded, losses := [] } }
        rows := process.trades.durable.rows }
    exits := process.trades.exits.forgotten.rehydrate (.ok ())
    dcas := process.trades.dcas.rehydrate
    queue := (process.recoveredItems now).foldl VerificationQueue.enqueue ⟨[]⟩ }

/-- One event. -/
def step : ProcessEvent → Process
  | .operated operation aftermath =>
    let trades := (operation.run aftermath (operation.begun process.trades)).1
    match operation.sent with
    | none => { process with trades := trades }
    | some signature =>
      { trades := trades
        ids := process.ids ++ operation.inserted aftermath
        flying := process.flying ++ [⟨signature, operation.position aftermath, operation.kind⟩]
        unsaved := process.unsaved ++ operation.stamped }
  | .verified flight transition answers again =>
    { trades :=
        { durable := (process.trades.durable.apply answers again transition).1
          exits := (process.trades.exits.apply answers process.store transition).1
          dcas := process.trades.dcas.apply answers process.store transition
          queue := process.trades.queue.remove flight.signature }
      ids := process.ids
      flying := process.flying.filter (·.signature != flight.signature)
      unsaved := process.unsaved.filter fun id => process.store.saves answers transition != some id }
  | .restarted maxOpen now => { process with trades := process.restarted maxOpen now }

/-- What is compared of a row: its id, whether it is open, its amounts and its signatures. -/
def outline (row : Position) :=
  (row.id, row.isOpen, row.tokenAmount, row.remainingTokenAmount, row.totalExitedAmount,
    row.entrySizeSol, row.totalSizeSol, row.entryTransactionSignature,
    row.exitTransactionSignature)

/-- A restart has the rows there are in memory, and enqueues the swaps in flight. -/
structure Recovers (maxOpen : ℕ) (now : DateTime) : Prop where
  rows : ((process.restarted maxOpen now).durable.state.store.positions.map outline).Perm
    (process.store.positions.map outline)
  items : ((process.restarted maxOpen now).queue.items.map (·.flight)).Perm process.flying

/-- What the program and the database see to: every write succeeds; a swap has a signature of its
own, and a row that is inserted a new id; an operation finds what it looks for, and a verification
is of a swap in flight and about its position. -/
def Admits : ProcessEvent → Prop
  | .operated operation aftermath =>
    (aftermath.save 1).isOk = true ∧ aftermath.metadataWrite = .ok () ∧
      aftermath.rollbackWrite = .ok () ∧ operation.Guards process.trades ∧
      (∀ signature, operation.sent = some signature →
        ∀ flight ∈ process.flying, flight.signature ≠ signature) ∧
      ∀ id ∈ operation.inserted aftermath, id ∉ process.ids
  | .verified flight transition answers again =>
    answers.Succeeds ∧ again.Succeeds ∧ flight ∈ process.flying ∧
      transition.positionId = flight.positionId
  | .restarted _ _ => True

/-- The position of a close is the first row of its mint, so that it is the one that is stamped; a
swap is settled by a transition of its own, an orphan is not removed, and a partial exit that fails
is the only one of its mint; nothing that is not written is forgotten. -/
def Spares : ProcessEvent → Prop
  | .operated operation _ =>
    match operation with
    | .closePositionDirect mint position _ _ _ =>
      operation.sent.isSome = true →
        ∃ id, position = some id ∧
          (process.store.positions.find? (·.mint == mint)).bind (·.id) = some id
    | _ => True
  | .verified flight transition _ _ =>
    flight.Settles transition ∧
      match transition with
      | .partialExitFailed id _ =>
        ∀ row, process.store.get id = some row →
          ∀ entry ∈ process.trades.exits.details, entry.mint = row.mint →
            entry.signature = flight.signature
      | _ => True
  | .restarted _ _ => process.unsaved = []

end Process

/-! ## What is in flight, and where it is told -/

/-- The value tells of the swap of a kind that is in flight for a position. -/
def Tells (flying : List Flight) (positionId : ℤ) (kind : FlightKind) (value : Option String) :
    Prop :=
  ∀ signature, value = some signature ↔ ⟨signature, some positionId, kind⟩ ∈ flying

section tells

variable {flying : List Flight} {positionId : ℤ} {kind : FlightKind} {value : Option String}
  {flight : Flight}

lemma Tells.append (h : Tells flying positionId kind value)
    (hother : flight.positionId ≠ some positionId ∨ flight.kind ≠ kind) :
    Tells (flying ++ [flight]) positionId kind value := by
  intro signature
  rw [h signature, mem_append, mem_singleton]
  refine ⟨Or.inl, fun hmem => hmem.resolve_right ?_⟩
  rintro rfl
  rcases hother with hother | hother <;> exact hother rfl

lemma Tells.append_self (h : Tells flying positionId kind none) (signature : String) :
    Tells (flying ++ [⟨signature, some positionId, kind⟩]) positionId kind (some signature) := by
  intro other
  rw [mem_append, mem_singleton]
  constructor
  · rintro ⟨⟩
    exact Or.inr rfl
  · rintro (hmem | heq)
    · exact absurd ((h other).mpr hmem) (Option.some_ne_none other).symm
    · cases heq
      rfl

variable {other : Flight}

lemma eq_of_signature (hnodup : (flying.map (·.signature)).Nodup) (hflight : flight ∈ flying)
    (hother : other ∈ flying) (hsignature : other.signature = flight.signature) : other = flight :=
  inj_on_of_nodup_map hnodup hother hflight hsignature

lemma mem_settled (hnodup : (flying.map (·.signature)).Nodup) (hflight : flight ∈ flying) :
    other ∈ flying.filter (·.signature != flight.signature) ↔ other ∈ flying ∧ other ≠ flight := by
  rw [mem_filter, bne_iff_ne]
  refine and_congr_right fun hother => not_congr ⟨eq_of_signature hnodup hflight hother, ?_⟩
  rintro rfl
  rfl

lemma Tells.settled (h : Tells flying positionId kind value)
    (hnodup : (flying.map (·.signature)).Nodup) (hflight : flight ∈ flying) {ends : Bool}
    (hends : ends = true ↔ flight.positionId = some positionId ∧ flight.kind = kind) :
    Tells (flying.filter (·.signature != flight.signature)) positionId kind
      (if ends then none else value) := by
  intro signature
  rw [mem_settled hnodup hflight, ← h signature]
  cases ends with
  | false =>
    rw [if_neg Bool.false_ne_true]
    refine ⟨fun hvalue => ⟨hvalue, ?_⟩, And.left⟩
    rintro rfl
    exact Bool.false_ne_true (hends.mpr ⟨rfl, rfl⟩)
  | true =>
    obtain ⟨hposition, hkind⟩ := hends.mp rfl
    rw [if_pos rfl]
    refine iff_of_false (Option.some_ne_none signature).symm ?_
    rintro ⟨hvalue, hne⟩
    -- the value tells of the swap that is settled
    obtain ⟨settled, position, kind'⟩ := flight
    obtain rfl := hposition
    obtain rfl := hkind
    have hsettled := (h settled).mpr hflight
    rw [hvalue] at hsettled
    cases hsettled
    exact hne rfl

end tells

/-- What a row in memory has in the table: itself, or, as long as its stamp is not written, a row
without it. -/
structure Process.Backed (process : Process) (id : ℤ) (row saved : Position) : Prop where
  table : process.trades.durable.rows id = some saved
  same : saved.id = row.id
  owned : row.savedOver saved = row
  stamp : if id ∈ process.unsaved then
      saved.exitTransactionSignature = none ∧ row.exitTransactionSignature.isSome = true
    else saved = row

/-- What memory and table tell of the swaps in flight, in any run. -/
structure Process.Sound (process : Process) : Prop where
  keys : (process.store.positions.map (·.id)).Perm (process.ids.map some)
  distinct : process.ids.Nodup
  stamped : ∀ id ∈ process.unsaved, id ∈ process.ids
  backed : ∀ id row, process.store.get id = some row → ∃ saved, process.Backed id row saved
  timed : ∀ id row, process.store.get id = some row → row.Timed
  entries : ∀ id row, process.store.get id = some row →
    Tells process.flying id .entry row.entering
  closes : ∀ id row, process.store.get id = some row → Tells process.flying id .exit row.closing
  held : ∀ flight ∈ process.flying,
    ∃ id row, flight.positionId = some id ∧ process.store.get id = some row
  adds : process.flying.filter (·.kind == .add) = process.trades.dcas.swaps.map (·.flight)
  partials : process.flying.filter (·.kind == .partialExit) =
    process.trades.exits.details.map (·.flight)
  mints : ∀ entry ∈ process.trades.exits.details, ∀ row,
    process.store.get entry.positionId = some row → entry.mint = row.mint
  storedAdds : process.trades.dcas.stored = process.trades.dcas.swaps
  storedPartials : process.trades.exits.stored = process.trades.exits.details
  signatures : (process.flying.map (·.signature)).Nodup

variable {store : Store} {row : Position}

lemma Store.open_of_getByMint {mint : String} (hrow : store.getByMint mint = some row) :
    row.mint = mint ∧ row.isOpen = true := by
  unfold Store.getByMint at hrow
  simpa using List.find?_some hrow

lemma Store.get_updateFirst {test : Position → Bool} {updater : Position → Position}
    (hkeeps : ∀ position, (updater position).id = position.id) {id : ℤ}
    (hfirst : store.positions.find? test = some row) (hrow : store.get id = some row) (other : ℤ) :
    Store.get { store with positions := Store.updateFirst test updater store.positions } other =
      if other = id then some (updater row) else store.get other := by
  have hid : row.id = some id := by simpa [Store.isRow] using List.find?_some hrow
  unfold Store.get at hrow ⊢
  dsimp only
  generalize store.positions = positions at hfirst hrow
  induction positions with
  | nil => cases hfirst
  | cons position positions ih =>
    unfold Store.updateFirst
    cases htest : test position with
    | true =>
      rw [List.find?_cons_of_pos htest] at hfirst
      obtain rfl := Option.some.inj hfirst
      rw [if_pos rfl]
      by_cases hother : other = id
      · subst hother
        rw [if_pos rfl, List.find?_cons_of_pos (by simp [Store.isRow, hkeeps, hid])]
      · have hne : ∀ written : Position, written.id = position.id →
            ¬ Store.isRow other written = true := by
          intro written hsame
          simpa [Store.isRow, hsame, hid] using Ne.symm hother
        rw [if_neg hother, List.find?_cons_of_neg (hne _ (hkeeps position)),
          List.find?_cons_of_neg (hne _ rfl)]
    | false =>
      rw [List.find?_cons_of_neg (by simp [htest])] at hfirst
      rw [if_neg Bool.false_ne_true]
      cases hfound : Store.isRow id position with
      | true =>
        -- the row of the id would be an earlier one, which does not pass the test
        rw [List.find?_cons_of_pos hfound] at hrow
        obtain rfl := Option.some.inj hrow
        rw [List.find?_some hfirst] at htest
        cases htest
      | false =>
        rw [List.find?_cons_of_neg (by simp [hfound])] at hrow
        have hrest := ih hfirst hrow
        cases hfoundOther : Store.isRow other position with
        | true =>
          have hother : other ≠ id := by
            rintro rfl
            rw [hfound] at hfoundOther
            cases hfoundOther
          rw [List.find?_cons_of_pos hfoundOther, List.find?_cons_of_pos hfoundOther,
            if_neg hother]
        | false =>
          rw [List.find?_cons_of_neg (by simp [hfoundOther]), hrest,
            List.find?_cons_of_neg (by simp [hfoundOther])]

namespace Process

variable {process : Process}

/-! ### Rows by their ids -/

lemma Sound.nodup_ids (h : process.Sound) : (process.store.positions.filterMap (·.id)).Nodup :=
  nodup_filterMap_of_map (h.keys.nodup_iff.mpr (h.distinct.map (Option.some_injective ℤ)))

variable {id : ℤ} {row : Position}

lemma Sound.get_iff (h : process.Sound) :
    process.store.get id = some row ↔ row ∈ process.store.positions ∧ row.id = some id := by
  constructor
  · intro hrow
    exact ⟨mem_of_find?_eq_some hrow, by simpa [Store.isRow] using List.find?_some hrow⟩
  · rintro ⟨hmem, hid⟩
    exact find?_key h.nodup_ids hmem hid

lemma Sound.mem_ids (h : process.Sound) :
    id ∈ process.ids ↔ ∃ row, process.store.get id = some row := by
  have hmem : id ∈ process.ids ↔ some id ∈ process.store.positions.map (·.id) := by
    rw [h.keys.mem_iff]
    simp
  rw [hmem, mem_map]
  exact ⟨fun ⟨row, hrow⟩ => ⟨row, h.get_iff.mpr hrow⟩, fun ⟨row, hrow⟩ => ⟨row, h.get_iff.mp hrow⟩⟩

lemma Sound.exists_id (h : process.Sound) (hrow : row ∈ process.store.positions) :
    ∃ id ∈ process.ids, row.id = some id := by
  have hmem := h.keys.mem_iff.mp (mem_map_of_mem hrow)
  obtain ⟨id, hid, heq⟩ := mem_map.mp hmem
  exact ⟨id, hid, heq.symm⟩

lemma Sound.add_mem (h : process.Sound) {entry : PendingDcaSwap}
    (hentry : entry ∈ process.trades.dcas.swaps) : entry.flight ∈ process.flying := by
  have hmem := mem_map_of_mem (f := PendingDcaSwap.flight) hentry
  rw [← h.adds] at hmem
  exact mem_of_mem_filter hmem

lemma Sound.partial_mem (h : process.Sound) {entry : PendingPartialExit}
    (hentry : entry ∈ process.trades.exits.details) : entry.flight ∈ process.flying := by
  have hmem := mem_map_of_mem (f := PendingPartialExit.flight) hentry
  rw [← h.partials] at hmem
  exact mem_of_mem_filter hmem

variable {signature : String}

lemma Sound.fresh_add (h : process.Sound)
    (hfresh : ∀ flight ∈ process.flying, flight.signature ≠ signature) :
    process.trades.dcas.swaps.filter (·.signature != signature) = process.trades.dcas.swaps :=
  filter_eq_self.mpr fun _ hentry => bne_iff_ne.mpr (hfresh _ (h.add_mem hentry))

lemma Sound.fresh_partialExit (h : process.Sound)
    (hfresh : ∀ flight ∈ process.flying, flight.signature ≠ signature) :
    ∀ entry ∈ process.trades.exits.details, entry.signature ≠ signature :=
  fun _ hentry => hfresh _ (h.partial_mem hentry)

/-! ### A swap is sent -/

variable {trades : Trades}

lemma Sound.of_same (h : process.Sound)
    (hpositions : trades.durable.state.store.positions.Perm process.store.positions)
    (hget : ∀ id, trades.durable.state.store.get id = process.store.get id)
    (hrows : trades.durable.rows = process.trades.durable.rows)
    (hdcas : trades.dcas = process.trades.dcas)
    (hdetails : trades.exits.details = process.trades.exits.details)
    (hstored : trades.exits.stored = process.trades.exits.stored) :
    Sound { process with trades := trades } where
  keys := (hpositions.map _).trans h.keys
  distinct := h.distinct
  stamped := h.stamped
  backed := by
    intro id row hrow
    obtain ⟨saved, hsaved⟩ := h.backed id row ((hget id).symm.trans hrow)
    exact ⟨saved, hrows ▸ hsaved.table, hsaved.same, hsaved.owned, hsaved.stamp⟩
  timed := fun id row hrow => h.timed id row ((hget id).symm.trans hrow)
  entries := fun id row hrow => h.entries id row ((hget id).symm.trans hrow)
  closes := fun id row hrow => h.closes id row ((hget id).symm.trans hrow)
  held := by
    intro flight hflight
    obtain ⟨id, row, hid, hrow⟩ := h.held flight hflight
    exact ⟨id, row, hid, (hget id).trans hrow⟩
  adds := hdcas ▸ h.adds
  partials := h.partials.trans (congrArg _ hdetails).symm
  mints := fun entry hentry row hrow =>
    h.mints entry (hdetails ▸ hentry) row ((hget _).symm.trans hrow)
  storedAdds := hdcas ▸ h.storedAdds
  storedPartials := hstored.trans (h.storedPartials.trans hdetails.symm)
  signatures := h.signatures

lemma Sound.signatures_send (h : process.Sound) {flight : Flight}
    (hfresh : ∀ other ∈ process.flying, other.signature ≠ flight.signature) :
    ((process.flying ++ [flight]).map (·.signature)).Nodup := by
  rw [map_append, nodup_append]
  refine ⟨h.signatures, nodup_singleton _, ?_⟩
  rintro a ha b hb rfl
  obtain ⟨other, hother, rfl⟩ := mem_map.mp ha
  exact hfresh other hother (mem_singleton.mp hb)

lemma Sound.send_aside (h : process.Sound) {flight : Flight}
    (hstore : trades.durable.state.store = process.store)
    (hrows : trades.durable.rows = process.trades.durable.rows)
    (hfresh : ∀ other ∈ process.flying, other.signature ≠ flight.signature)
    (hheld : ∃ id row, flight.positionId = some id ∧ process.store.get id = some row)
    (hentry : flight.kind ≠ .entry) (hexit : flight.kind ≠ .exit)
    (hadds : (process.flying ++ [flight]).filter (·.kind == .add) = trades.dcas.swaps.map (·.flight))
    (hpartials : (process.flying ++ [flight]).filter (·.kind == .partialExit) =
      trades.exits.details.map (·.flight))
    (hmints : ∀ entry ∈ trades.exits.details, ∀ row, process.store.get entry.positionId = some row →
      entry.mint = row.mint)
    (hstoredAdds : trades.dcas.stored = trades.dcas.swaps)
    (hstoredPartials : trades.exits.stored = trades.exits.details) :
    Sound ⟨trades, process.ids, process.flying ++ [flight], process.unsaved⟩ where
  keys := (congrArg (fun store => store.positions.map (·.id)) hstore) ▸ h.keys
  distinct := h.distinct
  stamped := h.stamped
  backed := by
    intro id row hrow
    obtain ⟨saved, hsaved⟩ := h.backed id row (hstore ▸ hrow)
    exact ⟨saved, hrows ▸ hsaved.table, hsaved.same, hsaved.owned, hsaved.stamp⟩
  timed := fun id row hrow => h.timed id row (hstore ▸ hrow)
  entries := fun id row hrow => (h.entries id row (hstore ▸ hrow)).append (Or.inr hentry)
  closes := fun id row hrow => (h.closes id row (hstore ▸ hrow)).append (Or.inr hexit)
  held := by
    intro other hother
    show ∃ id row, other.positionId = some id ∧ trades.durable.state.store.get id = some row
    rw [hstore]
    rcases mem_append.mp hother with hother | hother
    · exact h.held other hother
    · rwa [mem_singleton.mp hother]
  adds := hadds
  partials := hpartials
  mints := fun entry hentry row hrow => hmints entry hentry row (hstore ▸ hrow)
  storedAdds := hstoredAdds
  storedPartials := hstoredPartials
  signatures := h.signatures_send hfresh

variable {mint : String} {aftermath : Aftermath}

lemma Sound.sound_add (h : process.Sound) {positionId : ℤ} (amount : ℚ)
    (hwrite : aftermath.metadataWrite = .ok ())
    (hguard : (process.store.getByMint mint).bind (·.id) = some positionId)
    (hfresh : ∀ flight ∈ process.flying, flight.signature ≠ signature) :
    Sound ⟨(process.trades.added aftermath mint positionId amount signature).1, process.ids,
      process.flying ++ [⟨signature, some positionId, .add⟩], process.unsaved⟩ := by
  have hafter : ∃ entry : PendingDcaSwap, entry.flight = ⟨signature, some positionId, .add⟩ ∧
      let after := (process.trades.added aftermath mint positionId amount signature).1
      after.durable = process.trades.durable ∧ after.exits = process.trades.exits ∧
        after.dcas.swaps = process.trades.dcas.swaps.filter (·.signature != signature) ++ [entry] ∧
        after.dcas.stored = after.dcas.swaps := by
    refine ⟨⟨signature, mint, positionId, aftermath.height.map expiryHeightAt, aftermath.now,
      amount⟩, rfl, ?_⟩
    unfold Trades.added
    rw [hwrite]
    cases aftermath.price <;> exact ⟨rfl, rfl, rfl, rfl⟩
  obtain ⟨entry, hentry, hdurable, hexits, hswaps, hstored⟩ := hafter
  rw [h.fresh_add hfresh] at hswaps
  obtain ⟨row, hfound, hid⟩ := Option.bind_eq_some_iff.mp hguard
  have hrow := h.get_iff.mpr ⟨mem_of_find?_eq_some hfound, hid⟩
  refine h.send_aside (congrArg (·.state.store) hdurable) (congrArg (·.rows) hdurable) hfresh
    ⟨positionId, row, rfl, hrow⟩ (by simp) (by simp) ?_ ?_ ?_ hstored ?_
  · rw [hswaps, map_append, ← h.adds, filter_append, ← hentry]
    rfl
  · rw [hexits, ← h.partials, filter_append]
    exact append_nil _
  · rw [hexits]
    exact h.mints
  · rw [hexits]
    exact h.storedPartials

lemma Sound.sound_partialExit (h : process.Sound) {positionId : ℤ} (amount : ℕ)
    (percentage price : ℚ) (hwrite : aftermath.metadataWrite = .ok ())
    (hguard : (process.store.getByMint mint).bind (·.id) = some positionId)
    (hfresh : ∀ flight ∈ process.flying, flight.signature ≠ signature) :
    Sound ⟨(Trades.soldPartly { process.trades with exits := process.trades.exits.mark mint }
        aftermath mint positionId amount percentage price signature).1, process.ids,
      process.flying ++ [⟨signature, some positionId, .partialExit⟩], process.unsaved⟩ := by
  have hafter : ∃ entry : PendingPartialExit,
      entry.flight = ⟨signature, some positionId, .partialExit⟩ ∧ entry.mint = mint ∧
      let after := (Trades.soldPartly
        { process.trades with exits := process.trades.exits.mark mint } aftermath mint positionId
        amount percentage price signature).1
      after.durable.state.store = process.store ∧
        after.durable.rows = process.trades.durable.rows ∧ after.dcas = process.trades.dcas ∧
        after.exits.details =
          process.trades.exits.details.filter (·.signature != signature) ++ [entry] ∧
        after.exits.stored = after.exits.details := by
    refine ⟨⟨signature, mint, positionId, amount, percentage,
      some (expiryHeightAt (aftermath.height.getD 0)), aftermath.now⟩, rfl, rfl, ?_⟩
    unfold Trades.soldPartly
    rw [hwrite]
    exact ⟨rfl, rfl, rfl, rfl, rfl⟩
  obtain ⟨entry, hentry, hmint, hstore, hrows, hdcas, hdetails, hstored⟩ := hafter
  have hold := congrArg PendingExits.details
    (@PendingExits.remove_of_fresh process.trades.exits _ (h.fresh_partialExit hfresh))
  rw [show process.trades.exits.details.filter (·.signature != signature) = _ from hold] at hdetails
  obtain ⟨row, hfound, hid⟩ := Option.bind_eq_some_iff.mp hguard
  have hrow := h.get_iff.mpr ⟨mem_of_find?_eq_some hfound, hid⟩
  refine h.send_aside hstore hrows hfresh ⟨positionId, row, rfl, hrow⟩ (by simp) (by simp) ?_ ?_ ?_
    ?_ hstored
  · rw [hdcas, ← h.adds, filter_append]
    exact append_nil _
  · rw [hdetails, map_append, ← h.partials, filter_append, ← hentry]
    rfl
  · rw [hdetails]
    intro other hother found hget
    rcases mem_append.mp hother with hother | hother
    · exact h.mints other hother found hget
    · -- the new one is of the mint it was found by
      obtain rfl := mem_singleton.mp hother
      have hposition : other.positionId = positionId :=
        Option.some.inj (congrArg Flight.positionId hentry)
      rw [hposition, hrow] at hget
      obtain rfl := Option.some.inj hget
      exact hmint.trans (Store.open_of_getByMint hfound).1.symm
  · rw [hdcas]
    exact h.storedAdds

lemma Sound.sound_open (h : process.Sound) {position : Position}
    (hpositions : trades.durable.state.store.positions = process.store.positions ++ [position])
    (hrows : trades.durable.rows = Function.update process.trades.durable.rows id (some position))
    (hdcas : trades.dcas = process.trades.dcas) (hexits : trades.exits = process.trades.exits)
    (hid : position.id = some id) (hnew : id ∉ process.ids) (htimed : position.Timed)
    (hentering : position.entering = some signature) (hclosing : position.closing = none)
    (hfresh : ∀ flight ∈ process.flying, flight.signature ≠ signature) :
    Sound ⟨trades, process.ids ++ [id], process.flying ++ [⟨signature, some id, .entry⟩],
      process.unsaved⟩ := by
  have hnone : process.store.get id = none := by
    refine Option.eq_none_iff_forall_ne_some.mpr fun row hrow => hnew ?_
    exact h.mem_ids.mpr ⟨row, hrow⟩
  -- the row of an id is the one it was, or the new one
  have hget : ∀ other row, trades.durable.state.store.get other = some row ↔
      process.store.get other = some row ∨ other = id ∧ row = position := by
    intro other row
    have happend : trades.durable.state.store.get other = (process.store.get other).or
        ([position].find? (Store.isRow other)) := by
      unfold Store.get
      rw [hpositions, List.find?_append]
    rw [happend]
    by_cases hother : other = id
    · subst hother
      rw [hnone, Option.none_or, List.find?_cons_of_pos (by simp [Store.isRow, hid])]
      simp [eq_comm]
    · rw [List.find?_cons_of_neg (by simpa [Store.isRow, hid] using Ne.symm hother),
        List.find?_nil, Option.or_none]
      simp [hother]
  -- nothing in flight is of the new position
  have hnobody : ∀ flight ∈ process.flying, flight.positionId ≠ some id := by
    intro flight hflight heq
    obtain ⟨other, row, hother, hrow⟩ := h.held flight hflight
    rw [heq] at hother
    rw [← Option.some.inj hother, hnone] at hrow
    cases hrow
  have htells : ∀ kind, Tells process.flying id kind none := fun kind signature =>
    iff_of_false (Option.some_ne_none signature).symm fun hmem => hnobody _ hmem rfl
  refine ⟨?_, ?_, ?_, ?_, ?_, ?_, ?_, ?_, ?_, ?_, ?_, ?_, ?_, ?_⟩
  · show (trades.durable.state.store.positions.map (·.id)).Perm _
    rw [hpositions, map_append, map_append]
    exact h.keys.append (by rw [map_singleton, hid]; exact List.Perm.refl _)
  · exact nodup_append.mpr ⟨h.distinct, nodup_singleton _, fun a ha b hb heq =>
      hnew (mem_singleton.mp hb ▸ heq ▸ ha)⟩
  · exact fun other hother => mem_append_left _ (h.stamped other hother)
  · intro other row hrow
    rcases (hget other row).mp hrow with hold | ⟨rfl, rfl⟩
    · obtain ⟨saved, hsaved⟩ := h.backed other row hold
      have hother : other ≠ id := by
        rintro rfl
        rw [hnone] at hold
        cases hold
      refine ⟨saved, ?_, hsaved.same, hsaved.owned, hsaved.stamp⟩
      show trades.durable.rows other = some saved
      rw [hrows, update_of_ne hother, hsaved.table]
    · refine ⟨row, ?_, rfl, rfl, ?_⟩
      · show trades.durable.rows other = some row
        rw [hrows, update_self]
      · exact (if_neg fun hstamped => hnew (h.stamped other hstamped)) ▸ rfl
  · intro other row hrow
    rcases (hget other row).mp hrow with hrow | ⟨rfl, rfl⟩
    · exact h.timed other row hrow
    · exact htimed
  · intro other row hrow
    rcases (hget other row).mp hrow with hold | ⟨rfl, rfl⟩
    · refine (h.entries other row hold).append (Or.inl fun heq => ?_)
      rw [← Option.some.inj heq, hnone] at hold
      cases hold
    · rw [hentering]
      exact (htells .entry).append_self signature
  · intro other row hrow
    rcases (hget other row).mp hrow with hrow | ⟨rfl, rfl⟩
    · exact (h.closes other row hrow).append (Or.inr (by simp))
    · rw [hclosing]
      exact (htells .exit).append (Or.inr (by simp))
  · intro flight hflight
    rcases mem_append.mp hflight with hflight | hflight
    · obtain ⟨other, row, hother, hrow⟩ := h.held flight hflight
      exact ⟨other, row, hother, (hget other row).mpr (Or.inl hrow)⟩
    · rw [mem_singleton.mp hflight]
      exact ⟨id, position, rfl, (hget id position).mpr (Or.inr ⟨rfl, rfl⟩)⟩
  · show (process.flying ++ [_]).filter _ = trades.dcas.swaps.map _
    rw [hdcas, ← h.adds, filter_append]
    exact append_nil _
  · show (process.flying ++ [_]).filter _ = trades.exits.details.map _
    rw [hexits, ← h.partials, filter_append]
    exact append_nil _
  · show ∀ entry ∈ trades.exits.details, ∀ row, _ → _
    rw [hexits]
    intro entry hentry row hrow
    rcases (hget entry.positionId row).mp hrow with hrow | ⟨heq, -⟩
    · exact h.mints entry hentry row hrow
    · exact absurd (congrArg some heq) (hnobody _ (h.partial_mem hentry))
  · exact hdcas ▸ h.storedAdds
  · exact hexits ▸ h.storedPartials
  · exact h.signatures_send hfresh

lemma Sound.sound_close (h : process.Sound) {reason : String} {price : ℚ}
    (hstore : trades.durable.state.store = process.store.updateMint mint
      (·.exitStamped signature price reason))
    (hrows : trades.durable.rows = process.trades.durable.rows)
    (hdcas : trades.dcas = process.trades.dcas) (hexits : trades.exits = process.trades.exits)
    (hguard : (process.store.getByMint mint).bind (·.id) = some id)
    (hunstamped : ∀ row, process.store.getByMint mint = some row → row.exitTransactionSignature = none)
    (hfirst : (process.store.positions.find? (·.mint == mint)).bind (·.id) = some id)
    (hfresh : ∀ flight ∈ process.flying, flight.signature ≠ signature) :
    Sound ⟨trades, process.ids, process.flying ++ [⟨signature, some id, .exit⟩],
      process.unsaved ++ [id]⟩ := by
  obtain ⟨row, hfound, hid⟩ := Option.bind_eq_some_iff.mp hguard
  have hrow := h.get_iff.mpr ⟨mem_of_find?_eq_some hfound, hid⟩
  have hnone := hunstamped row hfound
  -- the row that is stamped is the open one
  obtain ⟨first, hstamped, hfirstId⟩ := Option.bind_eq_some_iff.mp hfirst
  have hfirstRow := h.get_iff.mpr ⟨mem_of_find?_eq_some hstamped, hfirstId⟩
  obtain rfl : first = row := Option.some.inj (hfirstRow.symm.trans hrow)
  have hkeeps : ∀ position : Position,
      (position.exitStamped signature price reason).id = position.id := fun _ => rfl
  have hget : ∀ other, trades.durable.state.store.get other =
      if other = id then some (first.exitStamped signature price reason)
      else process.store.get other := by
    rw [hstore]
    exact Store.get_updateFirst hkeeps hstamped hrow
  have hids : trades.durable.state.store.positions.map (·.id) =
      process.store.positions.map (·.id) := by
    rw [hstore]
    exact map_id_updateFirst hkeeps _
  have hcases : ∀ other row, trades.durable.state.store.get other = some row →
      other = id ∧ row = first.exitStamped signature price reason ∨
        other ≠ id ∧ process.store.get other = some row := by
    intro other row hafter
    rw [hget] at hafter
    split at hafter
    case isTrue hother => exact Or.inl ⟨hother, (Option.some.inj hafter).symm⟩
    case isFalse hother => exact Or.inr ⟨hother, hafter⟩
  have hopen : first.exitTime = none := by
    have hopen := (Store.open_of_getByMint hfound).2
    simp only [Position.isOpen, Bool.and_eq_true, Option.isNone_iff_eq_none] at hopen
    exact hopen.1.2
  have hverified : first.transactionExitVerified = false := by
    refine Bool.eq_false_of_not_eq_true fun hverified => ?_
    have htime := h.timed id first hrow hverified
    rw [hopen] at htime
    cases htime
  refine ⟨hids ▸ h.keys, h.distinct, ?_, ?_, ?_, ?_, ?_, ?_, ?_, ?_, ?_, ?_, ?_, ?_⟩
  · intro other hother
    rcases mem_append.mp hother with hother | hother
    · exact h.stamped other hother
    · rw [mem_singleton.mp hother]
      exact h.mem_ids.mpr ⟨first, hrow⟩
  · intro other row hafter
    rcases hcases other row hafter with ⟨rfl, rfl⟩ | ⟨hother, hbefore⟩
    · obtain ⟨saved, hsaved⟩ := h.backed other first hrow
      have hequal : saved = first := by
        have hstamp := hsaved.stamp
        split at hstamp
        · rw [hnone] at hstamp
          cases hstamp.2
        · exact hstamp
      subst hequal
      refine ⟨saved, hrows ▸ hsaved.table, rfl, rfl, ?_⟩
      rw [if_pos (mem_append_right _ (mem_singleton_self _))]
      exact ⟨hnone, rfl⟩
    · obtain ⟨saved, hsaved⟩ := h.backed other row hbefore
      refine ⟨saved, hrows ▸ hsaved.table, hsaved.same, hsaved.owned, ?_⟩
      have hmem : other ∈ process.unsaved ++ [id] ↔ other ∈ process.unsaved := by
        simp [hother]
      simp only [hmem]
      exact hsaved.stamp
  · intro other row hafter
    rcases hcases other row hafter with ⟨rfl, rfl⟩ | ⟨hother, hbefore⟩
    · exact h.timed other first hrow
    · exact h.timed other row hbefore
  · intro other row hafter
    rcases hcases other row hafter with ⟨rfl, rfl⟩ | ⟨hother, hbefore⟩
    · exact Tells.append (h.entries other first hrow) (Or.inr (by simp))
    · exact (h.entries other row hbefore).append (Or.inr (by simp))
  · intro other row hafter
    rcases hcases other row hafter with ⟨rfl, rfl⟩ | ⟨hother, hbefore⟩
    · have hbefore := h.closes other first hrow
      have hclosing : first.closing = none := by
        unfold Position.closing
        rw [hverified, hnone]
        rfl
      have hstampedClosing : (first.exitStamped signature price reason).closing =
          some signature := by
        show (if first.transactionExitVerified then none else some signature) = some signature
        rw [hverified]
        rfl
      rw [hclosing] at hbefore
      rw [hstampedClosing]
      exact hbefore.append_self signature
    · exact (h.closes other row hbefore).append
        (Or.inl fun heq => hother (Option.some.inj heq).symm)
  · intro flight hflight
    have hheld : ∀ other row, process.store.get other = some row →
        ∃ after, trades.durable.state.store.get other = some after := by
      intro other row hrow
      rw [hget]
      split
      · exact ⟨_, rfl⟩
      · exact ⟨row, hrow⟩
    rcases mem_append.mp hflight with hflight | hflight
    · obtain ⟨other, row, hother, hrow⟩ := h.held flight hflight
      obtain ⟨after, hafter⟩ := hheld other row hrow
      exact ⟨other, after, hother, hafter⟩
    · rw [mem_singleton.mp hflight]
      obtain ⟨after, hafter⟩ := hheld id first hrow
      exact ⟨id, after, rfl, hafter⟩
  · show (process.flying ++ [_]).filter _ = trades.dcas.swaps.map _
    rw [hdcas, ← h.adds, filter_append]
    exact append_nil _
  · show (process.flying ++ [_]).filter _ = trades.exits.details.map _
    rw [hexits, ← h.partials, filter_append]
    exact append_nil _
  · show ∀ entry ∈ trades.exits.details, ∀ row, _ → _
    rw [hexits]
    intro entry hentry row hafter
    rcases hcases entry.positionId row hafter with ⟨hother, rfl⟩ | ⟨hother, hbefore⟩
    · exact h.mints entry hentry first (hother ▸ hrow)
    · exact h.mints entry hentry row hbefore
  · exact hdcas ▸ h.storedAdds
  · exact hexits ▸ h.storedPartials
  · exact h.signatures_send hfresh

end Process

/-! ### A swap is settled -/

lemma PendingDcas.clear_of_stored {pending : PendingDcas} (hstored : pending.stored = pending.swaps)
    (signature : String) :
    (pending.clear (.ok ()) signature).1.swaps = pending.swaps.filter (·.signature != signature) ∧
      (pending.clear (.ok ()) signature).1.stored =
        pending.swaps.filter (·.signature != signature) := by
  unfold clear
  cases hfind : pending.swaps.find? (·.signature == signature) with
  | none =>
    have hsame : pending.swaps.filter (·.signature != signature) = pending.swaps :=
      filter_eq_self.mpr fun entry hentry => by
        simpa using List.find?_eq_none.mp hfind entry hentry
    exact ⟨hsame.symm, hstored.trans hsame.symm⟩
  | some entry => exact ⟨rfl, rfl⟩

variable {pending : PendingExits}

lemma PendingExits.clearDetail_of_stored (hstored : pending.stored = pending.details)
    (signature : String) :
    ∃ cleared, pending.clearDetail (.ok ()) signature = (cleared, .ok ()) ∧
      cleared.details = pending.details.filter (·.signature != signature) ∧
      cleared.stored = pending.details.filter (·.signature != signature) := by
  unfold clearDetail
  cases hfind : pending.details.find? (·.signature == signature) with
  | none =>
    have hsame : pending.details.filter (·.signature != signature) = pending.details :=
      filter_eq_self.mpr fun entry hentry => by
        simpa using List.find?_eq_none.mp hfind entry hentry
    exact ⟨pending, rfl, hsame.symm, hstored.trans hsame.symm⟩
  | some entry => exact ⟨_, rfl, rfl, rfl⟩

variable {answers : Answers} {positionId : ℤ}

lemma PendingExits.sold_of_stored (hstored : pending.stored = pending.details)
    (hsucceeds : answers.Succeeds) (hrow : store.get positionId = some row) (signature : String) :
    (pending.sold answers store positionId signature).1.details =
        pending.details.filter (·.signature != signature) ∧
      (pending.sold answers store positionId signature).1.stored =
        pending.details.filter (·.signature != signature) := by
  obtain ⟨cleared, hcleared, hdetails, hkept⟩ :=
    PendingExits.clearDetail_of_stored hstored signature
  unfold sold
  rw [hrow]
  dsimp only
  rw [hsucceeds.row, hsucceeds.pending, hcleared]
  split <;> exact ⟨hdetails, hkept⟩

lemma PendingExits.failed_of_stored (hstored : pending.stored = pending.details)
    (hsucceeds : answers.Succeeds) (hrow : store.get positionId = some row) :
    (pending.failed answers store positionId).details =
        pending.details.filter (·.mint != row.mint) ∧
      (pending.failed answers store positionId).stored =
        pending.details.filter (·.mint != row.mint) := by
  unfold failed clearForMint
  rw [hrow]
  dsimp only
  rw [hsucceeds.pending]
  split
  case isTrue hempty =>
    -- there are none, so nothing is written
    refine ⟨rfl, hstored.trans ?_⟩
    refine (filter_eq_self.mpr fun entry hentry => ?_).symm
    have hnone := filter_eq_nil_iff.mp (isEmpty_iff.mp hempty) entry hentry
    simpa using hnone
  case isFalse hsome => exact ⟨rfl, rfl⟩

variable {transition : PositionTransition}

lemma Flight.isSettlement_of_settles {flight : Flight} (h : flight.Settles transition) :
    transition.isSettlement = true := by
  cases transition <;> first | rfl | exact h.elim

lemma Store.eq_of_saves {saved : ℤ} (hid : transition.positionId = some positionId)
    (hsaves : store.saves answers transition = some saved) : saved = positionId := by
  cases transition <;> simp_all [Store.saves, Store.writes, PositionTransition.positionId]

namespace Process

variable {process : Process} {flight : Flight}

lemma Sound.filter_details (h : process.Sound) (hflight : flight ∈ process.flying)
    (hkind : flight.kind ≠ .partialExit) :
    process.trades.exits.details.filter (·.signature != flight.signature) =
      process.trades.exits.details := by
  refine filter_eq_self.mpr fun entry hentry => bne_iff_ne.mpr fun hsignature => hkind ?_
  rw [← eq_of_signature h.signatures hflight (h.partial_mem hentry) hsignature]
  rfl

lemma Sound.filter_swaps (h : process.Sound) (hflight : flight ∈ process.flying)
    (hkind : flight.kind ≠ .add) :
    process.trades.dcas.swaps.filter (·.signature != flight.signature) =
      process.trades.dcas.swaps := by
  refine filter_eq_self.mpr fun entry hentry => bne_iff_ne.mpr fun hsignature => hkind ?_
  rw [← eq_of_signature h.signatures hflight (h.add_mem hentry) hsignature]
  rfl

variable {transition : PositionTransition} {id : ℤ} {answers : Answers} {row : Position}

lemma Sound.swaps_settled (h : process.Sound) (hsucceeds : answers.Succeeds)
    (hflight : flight ∈ process.flying) (hsettles : flight.Settles transition)
    (hid : transition.positionId = some id) (hrow : process.store.get id = some row) :
    (process.trades.dcas.apply answers process.store transition).swaps =
        process.trades.dcas.swaps.filter (·.signature != flight.signature) ∧
      (process.trades.dcas.apply answers process.store transition).stored =
        process.trades.dcas.swaps.filter (·.signature != flight.signature) := by
  have hother : flight.kind ≠ .add → process.trades.dcas.swaps =
        process.trades.dcas.swaps.filter (·.signature != flight.signature) ∧
      process.trades.dcas.stored =
        process.trades.dcas.swaps.filter (·.signature != flight.signature) := fun hkind =>
    ⟨(h.filter_swaps hflight hkind).symm,
      h.storedAdds.trans (h.filter_swaps hflight hkind).symm⟩
  cases transition with
  | dcaVerified position tokens spent price fee time signature =>
    obtain ⟨hkind, rfl⟩ := hsettles
    obtain rfl := Option.some.inj hid
    unfold PendingDcas.apply
    dsimp only
    rw [hrow, hsucceeds.row, hsucceeds.pending]
    exact PendingDcas.clear_of_stored h.storedAdds flight.signature
  | dcaFailed position signature reason =>
    obtain ⟨hkind, rfl⟩ := hsettles
    unfold PendingDcas.apply
    dsimp only
    rw [hsucceeds.pending]
    exact PendingDcas.clear_of_stored h.storedAdds flight.signature
  | exitResidualClearForRetry | partialExitVerified =>
    exact hother fun hkind => FlightKind.noConfusion (hkind.symm.trans hsettles.1)
  | removeOrphanEntry | updatePriceTracking | partialExitSubmitted | dcaSubmitted => exact hsettles.elim
  | _ => exact hother fun hkind => FlightKind.noConfusion (hkind.symm.trans hsettles)

variable {again : Answers}

lemma Sound.details_settled (h : process.Sound) (hsucceeds : answers.Succeeds)
    (hflight : flight ∈ process.flying)
    (hspares : process.Spares (.verified flight transition answers again))
    (hid : transition.positionId = some id) (hposition : flight.positionId = some id)
    (hrow : process.store.get id = some row) :
    (process.trades.exits.apply answers process.store transition).1.details =
        process.trades.exits.details.filter (·.signature != flight.signature) ∧
      (process.trades.exits.apply answers process.store transition).1.stored =
        process.trades.exits.details.filter (·.signature != flight.signature) := by
  obtain ⟨hsettles, halone⟩ := hspares
  have hother : flight.kind ≠ .partialExit → process.trades.exits.details =
        process.trades.exits.details.filter (·.signature != flight.signature) ∧
      process.trades.exits.stored =
        process.trades.exits.details.filter (·.signature != flight.signature) := fun hkind =>
    ⟨(h.filter_details hflight hkind).symm,
      h.storedPartials.trans (h.filter_details hflight hkind).symm⟩
  cases transition with
  | partialExitVerified position amount received price fee time signature percentage
  | exitResidualClearForRetry position amount received price fee time signature percentage =>
    obtain ⟨hkind, rfl⟩ := hsettles
    obtain rfl := Option.some.inj hid
    exact PendingExits.sold_of_stored h.storedPartials hsucceeds hrow flight.signature
  | partialExitFailed position reason =>
    obtain rfl := Option.some.inj hid
    have hfailed := PendingExits.failed_of_stored h.storedPartials hsucceeds hrow
    -- the partial exit that failed is the only one of its mint
    have hsame : process.trades.exits.details.filter (·.mint != row.mint) =
        process.trades.exits.details.filter (·.signature != flight.signature) := by
      refine filter_congr fun entry hentry => ?_
      have hiff : entry.mint = row.mint ↔ entry.signature = flight.signature := by
        refine ⟨halone row hrow entry hentry, fun hsignature => ?_⟩
        have hsent := eq_of_signature h.signatures hflight (h.partial_mem hentry) hsignature
        have hentryId : some entry.positionId = some position :=
          (congrArg Flight.positionId hsent).trans hposition
        exact h.mints entry hentry row (Option.some.inj hentryId ▸ hrow)
      rw [Bool.eq_iff_iff, bne_iff_ne, bne_iff_ne, not_iff_not]
      exact hiff
    rw [hsame] at hfailed
    exact hfailed
  | dcaVerified | dcaFailed =>
    exact hother fun hkind => FlightKind.noConfusion (hkind.symm.trans hsettles.1)
  | removeOrphanEntry | updatePriceTracking | partialExitSubmitted | dcaSubmitted => exact hsettles.elim
  | _ => exact hother fun hkind => FlightKind.noConfusion (hkind.symm.trans hsettles)

lemma ends_iff (hsettles : flight.Settles transition) :
    (transition.endsEntry = true ↔ flight.kind = .entry) ∧
      (transition.endsClose = true ↔ flight.kind = .exit) := by
  cases transition <;>
    simp_all [Flight.Settles, PositionTransition.endsEntry, PositionTransition.endsClose]

lemma Sound.sound_settled (h : process.Sound) {trades : Trades} {written : Position}
    {saves : Option ℤ} (hflight : flight ∈ process.flying) (hsettles : flight.Settles transition)
    (hposition : flight.positionId = some id) (hrow : process.store.get id = some row)
    (hwritten : Durable.Settles transition id saves row process.trades.durable trades.durable written)
    (hsaves : ∀ other, saves = some other → other = id)
    (hswaps : trades.dcas.swaps = process.trades.dcas.swaps.filter (·.signature != flight.signature))
    (hstoredSwaps : trades.dcas.stored = trades.dcas.swaps)
    (hdetails : trades.exits.details = process.trades.exits.details.filter
      (·.signature != flight.signature))
    (hstoredDetails : trades.exits.stored = trades.exits.details) :
    Sound ⟨trades, process.ids, process.flying.filter (·.signature != flight.signature),
      process.unsaved.filter fun other => saves != some other⟩ := by
  obtain ⟨hentry, hclose⟩ := ends_iff hsettles
  have hget : ∀ other found, trades.durable.state.store.get other = some found →
      other = id ∧ found = written ∨ other ≠ id ∧ process.store.get other = some found := by
    intro other found hfound
    by_cases hother : other = id
    · subst hother
      exact Or.inl ⟨rfl, Option.some.inj (hfound.symm.trans hwritten.own)⟩
    · exact Or.inr ⟨hother, (hwritten.others other (Ne.symm hother)).symm.trans hfound⟩
  have hends : ∀ {other : ℤ} {kind : FlightKind}, other ≠ id →
      (false = true ↔ flight.positionId = some other ∧ flight.kind = kind) := fun hother =>
    iff_of_false Bool.false_ne_true fun heq =>
      hother (Option.some.inj (heq.1.symm.trans hposition))
  have hunsaved : ∀ other, other ∈ process.unsaved.filter (fun other => saves != some other) ↔
      other ∈ process.unsaved ∧ saves ≠ some other :=
    fun other => mem_filter.trans (and_congr_right fun _ => bne_iff_ne)
  -- the lists of pending swaps and the swaps in flight lose the same signature
  have hpending : ∀ {α : Type} (kind : FlightKind) (pending : List α) (flightOf : α → Flight),
      process.flying.filter (·.kind == kind) = pending.map flightOf →
      (process.flying.filter (·.signature != flight.signature)).filter (·.kind == kind) =
        (pending.filter fun entry => (flightOf entry).signature != flight.signature).map
          flightOf := by
    intro α kind pending flightOf hequal
    rw [filter_comm, hequal, filter_map]
    rfl
  refine ⟨hwritten.ids ▸ h.keys, h.distinct, ?_, ?_, ?_, ?_, ?_, ?_, ?_, ?_, ?_, hstoredSwaps,
    hstoredDetails, h.signatures.sublist (filter_sublist.map _)⟩
  · exact fun other hother => h.stamped other ((hunsaved other).mp hother).1
  · intro other found hfound
    rcases hget other found hfound with ⟨rfl, rfl⟩ | ⟨hother, hbefore⟩
    · obtain ⟨saved, hsaved⟩ := h.backed other row hrow
      have htable := hwritten.table
      by_cases hsave : saves = some other
      · -- the row is written, over what the table keeps
        have hover : found.savedOver saved = found := by
          calc found.savedOver saved = found.savedOver (row.savedOver saved) := rfl
            _ = found.savedOver row := by rw [hsaved.owned]
            _ = found := hwritten.settled.kept.owned
        rw [if_pos hsave, hsaved.table, Option.map_some, hover] at htable
        refine ⟨found, ?_, rfl, rfl, ?_⟩
        · show trades.durable.rows other = some found
          rw [htable, update_self]
        · exact (if_neg fun hmem => ((hunsaved other).mp hmem).2 hsave) ▸ rfl
      · rw [if_neg hsave] at htable
        have hsame := hwritten.unsaved hsave
        subst hsame
        refine ⟨saved, ?_, hsaved.same, hsaved.owned, ?_⟩
        · show trades.durable.rows other = some saved
          rw [htable, hsaved.table]
        · simp only [hunsaved, hsave, ne_eq, not_false_eq_true, and_true]
          exact hsaved.stamp
    · obtain ⟨saved, hsaved⟩ := h.backed other found hbefore
      have hsave : saves ≠ some other := fun heq => hother (hsaves other heq)
      refine ⟨saved, ?_, hsaved.same, hsaved.owned, ?_⟩
      · show trades.durable.rows other = some saved
        rw [hwritten.table]
        split
        · rw [update_of_ne hother, hsaved.table]
        · exact hsaved.table
      · simp only [hunsaved, hsave, ne_eq, not_false_eq_true, and_true]
        exact hsaved.stamp
  · intro other found hfound
    rcases hget other found hfound with ⟨rfl, rfl⟩ | ⟨hother, hbefore⟩
    · exact hwritten.settled.timed (h.timed other row hrow)
    · exact h.timed other found hbefore
  · intro other found hfound
    rcases hget other found hfound with ⟨rfl, rfl⟩ | ⟨hother, hbefore⟩
    · rw [hwritten.settled.entering]
      exact (h.entries other row hrow).settled h.signatures hflight
        (hentry.trans (and_iff_right hposition).symm)
    · exact (h.entries other found hbefore).settled h.signatures hflight (hends hother)
  · intro other found hfound
    rcases hget other found hfound with ⟨rfl, rfl⟩ | ⟨hother, hbefore⟩
    · rw [hwritten.settled.closing]
      exact (h.closes other row hrow).settled h.signatures hflight
        (hclose.trans (and_iff_right hposition).symm)
    · exact (h.closes other found hbefore).settled h.signatures hflight (hends hother)
  · intro other hother
    obtain ⟨heldId, heldRow, hheld, hbefore⟩ := h.held other (mem_of_mem_filter hother)
    by_cases hsame : heldId = id
    · exact ⟨heldId, written, hheld, hsame ▸ hwritten.own⟩
    · exact ⟨heldId, heldRow, hheld, (hwritten.others heldId (Ne.symm hsame)).trans hbefore⟩
  · show List.filter _ _ = trades.dcas.swaps.map _
    rw [hswaps]
    exact hpending .add process.trades.dcas.swaps PendingDcaSwap.flight h.adds
  · show List.filter _ _ = trades.exits.details.map _
    rw [hdetails]
    exact hpending .partialExit process.trades.exits.details PendingPartialExit.flight h.partials
  · intro entry hentry found hfound
    have hbefore := mem_of_mem_filter (hdetails ▸ hentry)
    rcases hget entry.positionId found hfound with ⟨hother, rfl⟩ | ⟨-, hsame⟩
    · exact (h.mints entry hbefore row (hother ▸ hrow)).trans hwritten.settled.kept.mint.symm
    · exact h.mints entry hbefore found hsame

lemma Sound.sound_verified (h : process.Sound)
    (hadmits : process.Admits (.verified flight transition answers again))
    (hspares : process.Spares (.verified flight transition answers again)) :
    (process.step (.verified flight transition answers again)).Sound := by
  obtain ⟨hsucceeds, hagain, hflight, habout⟩ := hadmits
  obtain ⟨id, row, hposition, hrow⟩ := h.held flight hflight
  have hid := habout.trans hposition
  obtain ⟨written, hwritten, -⟩ := Durable.settles_apply hsucceeds hagain
    (Flight.isSettlement_of_settles hspares.1) hid hrow
  obtain ⟨hswaps, hstoredSwaps⟩ := h.swaps_settled hsucceeds hflight hspares.1 hid hrow
  obtain ⟨hdetails, hstoredDetails⟩ := h.details_settled hsucceeds hflight hspares hid hposition hrow
  exact h.sound_settled hflight hspares.1 hposition hrow hwritten
    (fun other hsaved => Store.eq_of_saves hid hsaved) hswaps (hstoredSwaps.trans hswaps.symm)
    hdetails (hstoredDetails.trans hdetails.symm)

end Process

/-! ### A restart -/

lemma PendingDcas.foldl_insert (entries : List PendingDcaSwap) (pending : PendingDcas)
    (hdistinct : ((pending.swaps ++ entries).map (·.signature)).Nodup) :
    entries.foldl insert pending = ⟨pending.swaps ++ entries, pending.stored⟩ := by
  induction entries generalizing pending with
  | nil => rw [append_nil, foldl_nil]
  | cons entry entries ih =>
    have hinserted : pending.insert entry = ⟨pending.swaps ++ [entry], pending.stored⟩ := by
      have hfresh : pending.swaps.filter (·.signature != entry.signature) = pending.swaps := by
        refine filter_eq_self.mpr fun registered hregistered => bne_iff_ne.mpr ?_
        rw [map_append, nodup_append] at hdistinct
        exact hdistinct.2.2 _ (mem_map_of_mem hregistered) _
          (mem_map_of_mem mem_cons_self)
      unfold insert remove
      dsimp only
      rw [hfresh]
    have happend : pending.swaps ++ entry :: entries = (pending.swaps ++ [entry]) ++ entries :=
      append_cons _ _ _
    rw [happend] at hdistinct ⊢
    rw [foldl_cons, hinserted]
    exact ih _ hdistinct

namespace Process

variable {process : Process}

lemma Sound.loaded_perm (h : process.Sound) (hunsaved : process.unsaved = []) :
    process.loaded.Perm process.store.positions := by
  refine (sortBy_perm _ _).trans ?_
  have hkeys := (h.keys.filterMap fun id => id.bind process.trades.durable.rows).symm
  rw [filterMap_map, filterMap_map] at hkeys
  refine hkeys.trans (List.Perm.of_eq ?_)
  -- every row in memory is the row of its id
  have hself : ∀ row ∈ process.store.positions,
      ((fun id : Option ℤ => id.bind process.trades.durable.rows) ∘ fun row => row.id) row =
        some row := by
    intro row hmem
    obtain ⟨id, -, hid⟩ := h.exists_id hmem
    obtain ⟨saved, hsaved⟩ := h.backed id row (h.get_iff.mpr ⟨hmem, hid⟩)
    have hstamp := hsaved.stamp
    rw [hunsaved, if_neg not_mem_nil] at hstamp
    rw [comp_apply, hid, Option.bind_some, hsaved.table, hstamp]
  rw [filterMap_congr hself, filterMap_some]

lemma Sound.nodup_swaps (h : process.Sound) :
    (process.trades.dcas.swaps.map (·.signature)).Nodup := by
  have hsublist := (filter_sublist (p := (·.kind == FlightKind.add))
    (l := process.flying)).map (·.signature)
  rw [h.adds, map_map] at hsublist
  exact h.signatures.sublist hsublist

lemma Sound.nodup_details (h : process.Sound) :
    (process.trades.exits.details.map (·.signature)).Nodup := by
  have hsublist := (filter_sublist (p := (·.kind == FlightKind.partialExit))
    (l := process.flying)).map (·.signature)
  rw [h.partials, map_map] at hsublist
  exact h.signatures.sublist hsublist

lemma Sound.sound_restarted (h : process.Sound) (hunsaved : process.unsaved = [])
    (maxOpen : ℕ) (now : DateTime) : (process.step (.restarted maxOpen now)).Sound := by
  have hperm := h.loaded_perm hunsaved
  have hnodup := ((hperm.filterMap (·.id)).nodup_iff).mpr h.nodup_ids
  have hget : ∀ id, process.loaded.find? (Store.isRow id) = process.store.get id := by
    intro id
    refine Option.ext fun row => ?_
    rw [h.get_iff, ← hperm.mem_iff]
    constructor
    · intro hrow
      exact ⟨mem_of_find?_eq_some hrow, by simpa [Store.isRow] using List.find?_some hrow⟩
    · rintro ⟨hmem, hid⟩
      exact find?_key hnodup hmem hid
  have hdetails := PendingExits.foldl_insert_mark process.trades.exits.stored
    process.trades.exits.forgotten.forgotten (by
      rw [h.storedPartials]
      exact h.nodup_details)
  refine h.of_same hperm hget rfl ?_ (hdetails.1.trans h.storedPartials) hdetails.2.1
  show process.trades.dcas.stored.foldl PendingDcas.insert ⟨[], process.trades.dcas.stored⟩ = _
  rw [PendingDcas.foldl_insert _ _ (by rw [h.storedAdds]; exact h.nodup_swaps)]
  exact congrArg (fun swaps => PendingDcas.mk swaps process.trades.dcas.stored) h.storedAdds

end Process

lemma VerificationQueue.foldl_enqueue (items : List VerificationItem) (queue : VerificationQueue)
    (hnodup : queue.signatures.Nodup) :
    let after := items.foldl enqueue queue
    after.signatures.Nodup ∧ (∀ item ∈ after.items, item ∈ queue.items ∨ item ∈ items) ∧
      ∀ signature, signature ∈ after.signatures ↔
        signature ∈ queue.signatures ∨ ∃ item ∈ items, item.signature = signature := by
  induction items generalizing queue with
  | nil => exact ⟨hnodup, fun item hitem => Or.inl hitem, fun signature => by simp⟩
  | cons item items ih =>
    obtain ⟨hafter, hsource, hsignatures⟩ := ih (queue.enqueue item) (nodup_enqueue hnodup item)
    refine ⟨hafter, ?_, ?_⟩
    · intro found hfound
      rcases hsource found hfound with hqueued | hrest
      · have hone : found ∈ queue.items ∨ found = item := by
          unfold enqueue at hqueued
          split at hqueued
          · exact Or.inl hqueued
          · simpa using hqueued
        refine hone.imp_right ?_
        rintro rfl
        exact mem_cons_self
      · exact Or.inr (mem_cons_of_mem _ hrest)
    · intro signature
      show signature ∈ (items.foldl enqueue (queue.enqueue item)).signatures ↔ _
      rw [hsignatures, mem_signatures_enqueue, or_assoc, exists_mem_cons_iff,
        eq_comm (a := signature)]

namespace Process

variable {process : Process}

lemma mem_pendingItems {now : DateTime} {row : Position} {flight : Flight} :
    (∃ item ∈ row.pendingItems now, item.flight = flight) ↔
      ∃ signature, row.entering = some signature ∧ ⟨signature, row.id, .entry⟩ = flight ∨
        row.closing = some signature ∧ ⟨signature, row.id, .exit⟩ = flight := by
  unfold Position.pendingItems
  simp only [mem_append, Option.mem_toList, Option.map_eq_some_iff]
  constructor
  · rintro ⟨item, ⟨signature, hsignature, rfl⟩ | ⟨signature, hsignature, rfl⟩, rfl⟩
    · exact ⟨signature, Or.inl ⟨hsignature, rfl⟩⟩
    · exact ⟨signature, Or.inr ⟨hsignature, rfl⟩⟩
  · rintro ⟨signature, ⟨hsignature, rfl⟩ | ⟨hsignature, rfl⟩⟩
    · exact ⟨_, Or.inl ⟨signature, hsignature, rfl⟩, rfl⟩
    · exact ⟨_, Or.inr ⟨signature, hsignature, rfl⟩, rfl⟩

lemma Sound.mem_recovered (h : process.Sound) (hunsaved : process.unsaved = []) (now : DateTime)
    (flight : Flight) :
    (∃ item ∈ process.recoveredItems now, item.flight = flight) ↔ flight ∈ process.flying := by
  have hperm := h.loaded_perm hunsaved
  unfold recoveredItems
  constructor
  · rintro ⟨item, hitem, rfl⟩
    rcases mem_append.mp hitem with hitem | hitem
    · obtain ⟨row, hrow, hmem⟩ := mem_flatMap.mp hitem
      have hpositions := hperm.mem_iff.mp hrow
      obtain ⟨id, -, hid⟩ := h.exists_id hpositions
      have hget := h.get_iff.mpr ⟨hpositions, hid⟩
      obtain ⟨signature, ⟨hvalue, heq⟩ | ⟨hvalue, heq⟩⟩ := mem_pendingItems.mp ⟨item, hmem, rfl⟩
      · rw [← heq, hid]
        exact (h.entries id row hget signature).mp hvalue
      · rw [← heq, hid]
        exact (h.closes id row hget signature).mp hvalue
    · rcases mem_append.mp hitem with hitem | hitem
      · obtain ⟨entry, hentry, rfl⟩ := mem_map.mp hitem
        exact h.add_mem (h.storedAdds ▸ hentry)
      · obtain ⟨entry, hentry, rfl⟩ := mem_map.mp hitem
        exact h.partial_mem (h.storedPartials ▸ hentry)
  · intro hflight
    obtain ⟨id, row, hposition, hrow⟩ := h.held flight hflight
    obtain ⟨hmem, hid⟩ := h.get_iff.mp hrow
    have hloaded := hperm.mem_iff.mpr hmem
    obtain ⟨signature, position, kind⟩ := flight
    obtain rfl := hposition
    have hofRow : (∃ item ∈ row.pendingItems now, item.flight = ⟨signature, some id, kind⟩) →
        ∃ item ∈ process.loaded.flatMap (·.pendingItems now) ++
          (process.trades.dcas.stored.map (·.item now) ++
            process.trades.exits.stored.map (·.item now)),
          item.flight = ⟨signature, some id, kind⟩ := by
      rintro ⟨item, hitem, heq⟩
      exact ⟨item, mem_append_left _ (mem_flatMap.mpr ⟨row, hloaded, hitem⟩), heq⟩
    cases kind with
    | entry =>
      refine hofRow (mem_pendingItems.mpr ⟨signature, Or.inl ⟨?_, by rw [hid]⟩⟩)
      exact (h.entries id row hrow signature).mpr hflight
    | exit =>
      refine hofRow (mem_pendingItems.mpr ⟨signature, Or.inr ⟨?_, by rw [hid]⟩⟩)
      exact (h.closes id row hrow signature).mpr hflight
    | add =>
      have hadd : ⟨signature, some id, .add⟩ ∈ process.flying.filter (·.kind == .add) :=
        mem_filter.mpr ⟨hflight, rfl⟩
      rw [h.adds, ← h.storedAdds] at hadd
      obtain ⟨entry, hentry, heq⟩ := mem_map.mp hadd
      exact ⟨entry.item now, mem_append_right _ (mem_append_left _
        (mem_map_of_mem hentry)), heq⟩
    | partialExit =>
      have hpart : ⟨signature, some id, .partialExit⟩ ∈
          process.flying.filter (·.kind == .partialExit) := mem_filter.mpr ⟨hflight, rfl⟩
      rw [h.partials, ← h.storedPartials] at hpart
      obtain ⟨entry, hentry, heq⟩ := mem_map.mp hpart
      exact ⟨entry.item now, mem_append_right _ (mem_append_right _
        (mem_map_of_mem hentry)), heq⟩

lemma Sound.recovered_iff (h : process.Sound) (maxOpen : ℕ) (now : DateTime) :
    process.Recovers maxOpen now ↔ process.unsaved = [] := by
  constructor
  · rintro ⟨hrows, -⟩
    refine eq_nil_iff_forall_not_mem.mpr fun id hid => ?_
    obtain ⟨row, hrow⟩ := h.mem_ids.mp (h.stamped id hid)
    obtain ⟨hmem, hrowId⟩ := h.get_iff.mp hrow
    -- the row that is loaded for it has no exit signature
    obtain ⟨found, hfound, houtline⟩ :=
      mem_map.mp (hrows.mem_iff.mpr (mem_map_of_mem (f := outline) hmem))
    have hfoundId : found.id = row.id := congrArg Prod.fst houtline
    have hsignature : found.exitTransactionSignature = row.exitTransactionSignature := by
      simp only [outline, Prod.mk.injEq] at houtline
      exact houtline.2.2.2.2.2.2.2.2
    obtain ⟨other, hother, hsaved⟩ := mem_filterMap.mp ((sortBy_perm _ _).mem_iff.mp hfound)
    obtain ⟨otherRow, hotherRow⟩ := h.mem_ids.mp hother
    obtain ⟨saved, hbacked⟩ := h.backed other otherRow hotherRow
    obtain rfl : saved = found := Option.some.inj (hbacked.table.symm.trans hsaved)
    have hsame : other = id := by
      have hotherId := hbacked.same.symm.trans hfoundId
      rw [(h.get_iff.mp hotherRow).2, hrowId] at hotherId
      exact Option.some.inj hotherId
    subst hsame
    obtain rfl : otherRow = row := Option.some.inj (hotherRow.symm.trans hrow)
    have hstamp := hbacked.stamp
    rw [if_pos hid, hsignature] at hstamp
    rw [hstamp.1] at hstamp
    cases hstamp.2
  · intro hunsaved
    obtain ⟨hnodup, hsource, hsignatures⟩ := VerificationQueue.foldl_enqueue
      (process.recoveredItems now) ⟨[]⟩ nodup_nil
    refine ⟨(h.loaded_perm hunsaved).map outline, ?_⟩
    show (((process.recoveredItems now).foldl VerificationQueue.enqueue ⟨[]⟩).items.map
      VerificationItem.flight).Perm process.flying
    refine (perm_ext_iff_of_nodup ?_ (List.Nodup.of_map _ h.signatures)).mpr fun flight => ?_
    · refine List.Nodup.of_map Flight.signature ?_
      rw [map_map]
      exact hnodup
    · constructor
      · intro hmem
        obtain ⟨item, hitem, rfl⟩ := mem_map.mp hmem
        rcases hsource item hitem with hnone | hitem
        · cases hnone
        · exact (h.mem_recovered hunsaved now _).mp ⟨item, hitem, rfl⟩
      · intro hflight
        obtain ⟨item, hitem, hequal⟩ := (h.mem_recovered hunsaved now flight).mpr hflight
        -- an item of that signature waits, and it is the one of this swap
        have hwaits := (hsignatures item.signature).mpr (Or.inr ⟨item, hitem, rfl⟩)
        obtain ⟨waiting, hwaiting, hsame⟩ := mem_map.mp hwaits
        rcases hsource waiting hwaiting with hnone | hlisted
        · cases hnone
        · have hwaitingFlight := (h.mem_recovered hunsaved now _).mp ⟨waiting, hlisted, rfl⟩
          have hone := eq_of_signature h.signatures hflight hwaitingFlight
            (hsame.trans (congrArg Flight.signature hequal))
          exact mem_map.mpr ⟨waiting, hwaiting, hone⟩

/-! ### Runs -/

variable {aftermath : Aftermath}

lemma persisted_of_save (mint : String) (hsave : (aftermath.save 1).isOk = true) :
    ∃ id, persistPositionWithRetry mint aftermath.save positionSaveMaxRetries = .ok id := by
  cases hfirst : aftermath.save 1 with
  | ok id =>
    refine ⟨id, ?_⟩
    simp [persistPositionWithRetry, positionSaveMaxRetries, hfirst]
  | error detail =>
    rw [hfirst] at hsave
    cases hsave

lemma Sound.sound_operated (h : process.Sound) {operation : Operation}
    (hadmits : process.Admits (.operated operation aftermath))
    (hspares : process.Spares (.operated operation aftermath)) :
    (process.step (.operated operation aftermath)).Sound := by
  obtain ⟨hsave, hwrite, -, hguards, hfresh, hnew⟩ := hadmits
  unfold step
  dsimp only
  cases operation with
  | openPosition mint symbol name entryPrice tradeSizeSol origin management reply =>
    unfold Operation.run
    dsimp only [Operation.sent, Operation.begun, Operation.inserted, Operation.position,
      Operation.kind, Operation.stamped] at hfresh hnew ⊢
    cases hsent : submittedSignature reply with
    | none => exact h
    | some signature =>
      obtain ⟨id, hid⟩ := persisted_of_save mint hsave
      rw [hid] at hnew ⊢
      dsimp only
      unfold Trades.opened
      rw [hid, append_nil]
      exact h.sound_open rfl rfl rfl rfl rfl (hnew id (mem_singleton_self id)) nofun rfl rfl
        (hfresh signature hsent)
  | addToPosition mint positionId dcaAmountSol reply =>
    unfold Operation.run
    dsimp only [Operation.sent, Operation.begun, Operation.inserted, Operation.position,
      Operation.kind, Operation.stamped] at hfresh ⊢
    cases hsent : submittedSignature reply with
    | none => exact h
    | some signature =>
      rw [append_nil, append_nil]
      exact h.sound_add dcaAmountSol hwrite hguards (hfresh signature hsent)
  | partialClosePosition mint positionId exitAmount exitPercentage marketPrice rungs =>
    unfold Operation.run
    dsimp only [Operation.sent, Operation.begun, Operation.inserted, Operation.position,
      Operation.kind, Operation.stamped] at hfresh ⊢
    cases hsent : (climb rungs).2 with
    | none => exact h.of_same (List.Perm.refl _) (fun _ => rfl) rfl rfl rfl rfl
    | some signature =>
      rw [append_nil, append_nil]
      exact h.sound_partialExit exitAmount exitPercentage marketPrice hwrite hguards.2
        (hfresh signature hsent)
  | closePositionDirect mint position exitPrice exitReason rungs =>
    unfold Operation.run
    dsimp only [Operation.sent, Operation.begun, Operation.inserted, Operation.position,
      Operation.kind, Operation.stamped] at hfresh ⊢
    cases hsent : (climb rungs).2 with
    | none => exact h
    | some signature =>
      obtain ⟨hfound, hunstamped⟩ := hguards
      obtain ⟨id, rfl, hfirst⟩ := hspares (congrArg Option.isSome hsent)
      rw [append_nil]
      exact h.sound_close rfl rfl rfl rfl hfound hunstamped hfirst (hfresh signature hsent)

lemma Sound.sound_step (h : process.Sound) {event : ProcessEvent} (hadmits : process.Admits event)
    (hspares : process.Spares event) : (process.step event).Sound := by
  cases event with
  | operated operation aftermath => exact h.sound_operated hadmits hspares
  | verified flight transition answers again => exact h.sound_verified hadmits hspares
  | restarted maxOpen now => exact h.sound_restarted hspares maxOpen now

/-- A database that was just created, and a process on it. -/
def created (maxOpen : ℕ) : Process where
  trades := ⟨⟨State.empty ⟨maxOpen, ∅⟩, fun _ => none⟩, ⟨fun _ => 0, [], []⟩, ⟨[], []⟩, ⟨[]⟩⟩
  ids := []
  flying := []
  unsaved := []

lemma sound_created (maxOpen : ℕ) : (created maxOpen).Sound := by
  have hnone : ∀ id row, (created maxOpen).store.get id ≠ some row := fun id row =>
    (Option.some_ne_none row).symm
  exact {
    keys := List.Perm.refl _
    distinct := nodup_nil
    stamped := fun _ hid => absurd hid not_mem_nil
    backed := fun id row hrow => absurd hrow (hnone id row)
    timed := fun id row hrow => absurd hrow (hnone id row)
    entries := fun id row hrow => absurd hrow (hnone id row)
    closes := fun id row hrow => absurd hrow (hnone id row)
    held := fun _ hflight => absurd hflight not_mem_nil
    adds := rfl
    partials := rfl
    mints := fun _ hentry => absurd hentry not_mem_nil
    storedAdds := rfl
    storedPartials := rfl
    signatures := nodup_nil }

end Process

/-- **What a crash loses** after a run: nothing, exactly when no close was stamped in memory whose
row was not written since. -/
theorem recovers_iff (maxOpen : ℕ) (run : List ProcessEvent)
    (hadmits : Throughout Process.step Process.Admits (.created maxOpen) run)
    (hspares : Throughout Process.step Process.Spares (.created maxOpen) run) (restartOpen : ℕ)
    (now : DateTime) :
    (run.foldl Process.step (.created maxOpen)).Recovers restartOpen now ↔
      (run.foldl Process.step (.created maxOpen)).unsaved = [] := by
  have hboth := hadmits.and hspares
  have hsound := hboth.final Process.Sound (Process.sound_created maxOpen)
    fun process hprocess event _ h => hprocess.sound_step h.1 h.2
  exact hsound.recovered_iff restartOpen now

/-! ### A close that is stamped -/

/-- A position is opened, and its entry is verified. -/
def boughtRun : List ProcessEvent :=
  [.operated (.openPosition "MINT" "TOK" "Token" 2 2 .manual .userOnly
      (.ok ⟨"open-sig", 2 * 10 ^ 9, 100⟩)) calm,
    .verified ⟨"open-sig", some 2, .entry⟩ (.entryVerified 2 2 100 5000 2) (.willing 0) (.willing 0)]

/-- The position is closed. -/
def soldEvent : ProcessEvent :=
  .operated (.closePositionDirect "MINT" (some 2) 3 "take_profit"
    [⟨true, .ok ⟨"close-sig", 100, 3 * 10 ^ 9⟩, "", false, .ok ⟨"close-sig", 100, 3 * 10 ^ 9⟩⟩]) calm

lemma Answers.succeeds_willing (now : DateTime) : (Answers.willing now).Succeeds := ⟨rfl, rfl, rfl⟩

lemma admits_soldRun :
    Throughout Process.step Process.Admits (.created 5) (boughtRun ++ [soldEvent]) := by
  refine ⟨⟨rfl, rfl, rfl, trivial, fun _ _ _ hflight => absurd hflight not_mem_nil,
    fun _ _ => not_mem_nil⟩, ⟨Answers.succeeds_willing 0, Answers.succeeds_willing 0,
    mem_singleton_self _, rfl⟩, ⟨rfl, rfl, rfl, ⟨rfl, ?_⟩, ?_, ?_⟩, trivial⟩
  · rintro row ⟨⟩
    rfl
  · exact fun _ _ _ hflight => absurd hflight not_mem_nil
  · exact fun _ hid => absurd hid not_mem_nil

/-- A crash after the close recovers exactly what is written of it. -/
theorem recovers_iff_soldRun :
    ((boughtRun ++ [soldEvent]).foldl Process.step (.created 5)).Recovers 5 10 ↔
      ((boughtRun ++ [soldEvent]).foldl Process.step (.created 5)).unsaved = [] :=
  recovers_iff 5 _ admits_soldRun
    ⟨trivial, ⟨rfl, trivial⟩, fun _ => ⟨2, rfl, rfl⟩, trivial⟩ 5 10

/-- A close is in flight, its stamp is in memory alone, and a start enqueues nothing. -/
theorem not_recovered :
    ¬ ∀ (maxOpen : ℕ) (run : List ProcessEvent),
      Throughout Process.step Process.Admits (.created maxOpen) run →
      ∀ (restartOpen : ℕ) (now : DateTime),
        (run.foldl Process.step (.created maxOpen)).Recovers restartOpen now := by
  intro h
  have hitems := (h 5 _ admits_soldRun 5 10).items.length_eq
  have hflying : ((boughtRun ++ [soldEvent]).foldl Process.step (.created 5)).flying =
      [⟨"close-sig", some 2, .exit⟩] := rfl
  have hqueue : (((boughtRun ++ [soldEvent]).foldl Process.step (.created 5)).restarted 5
      10).queue.items = [] := rfl
  rw [hflying, hqueue] at hitems
  cases hitems

end Dripline.Positions
