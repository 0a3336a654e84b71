import Dripline.Found.Trace
import Dripline.Transactions.History

/-!
# Is the own wallet's history complete?
-/

namespace Dripline.Transactions

open Dripline.Found.Feed Dripline.Found.Trace Dripline.Wallets List

namespace History

/-! ## What holds -/

section statement

variable (history : History)

/-- The full history was marked. -/
def Completed : Prop := history.getBootstrapState.fullHistoryCompleted = true

/-- The database knows a signature. -/
def Known (walletAddress signature : String) : Prop :=
  ∃ row ∈ history.knownSignatures, row.walletAddress = walletAddress ∧ row.signature = signature

/-- The processed row of a signature is stored. -/
def Processed (walletAddress signature : String) : Prop :=
  (walletAddress, signature) ∈ history.processedTransactions

/-- Both rows of a signature are stored. -/
def Recorded (walletAddress signature : String) : Prop :=
  (walletAddress, signature) ∈ history.rawTransactions ∧ history.Processed walletAddress signature

/-- The next bootstrap may stop at a signature: it was made known last, or is processed and will
be. -/
def Checkpoint (walletAddress signature : String) : Prop :=
  (∃ row ∈ history.newestKnown walletAddress, row.signature = signature) ∨
    history.Processed walletAddress signature ∧ ¬history.Known walletAddress signature

/-- What is known or remembered of a wallet is recorded. -/
structure Honest (walletAddress : String) : Prop where
  raw : ∀ signature, history.Processed walletAddress signature →
    (walletAddress, signature) ∈ history.rawTransactions
  known : ∀ signature, history.Known walletAddress signature →
    history.Processed walletAddress signature
  remembered : ∀ signature, (walletAddress, signature) ∈ history.globalKnownSignatures →
    history.Processed walletAddress signature

/-- A signature is above every checkpoint, and there will be one, or the chain is one page. -/
structure Above (walletAddress signature : String) : Prop where
  newer : ∀ mark, history.Checkpoint walletAddress mark →
    Newer (history.chain walletAddress) signature mark
  some : (∃ mark, history.Known walletAddress mark) ∨
    (history.chain walletAddress).length ≤ rpcBatchSize

/-- Once the full history was marked, a signature that is not recorded is above every checkpoint. -/
structure Kept (walletAddress : String) : Prop extends history.Honest walletAddress where
  above : history.Completed → ∀ signature ∈ history.chain walletAddress,
    ¬history.Recorded walletAddress signature → history.Above walletAddress signature

/-- A chain has a signature once, rows are of signatures on chain, and the main wallet's are
kept. -/
structure Sound : Prop where
  nodup : ∀ walletAddress, (history.chain walletAddress).Nodup
  onChain : ∀ walletAddress signature,
    history.Known walletAddress signature ∨ history.Processed walletAddress signature →
      signature ∈ history.chain walletAddress
  kept : history.Kept history.wallet

/-- What an operation does to the tables: rows of fresh signatures are added; a signature that is
made known is fresh, or was processed. -/
structure Grows (after : History) (fresh : String → String → Prop) : Prop where
  chain : after.chain = history.chain
  wallet : after.wallet = history.wallet
  raw : ∀ key ∈ history.rawTransactions, key ∈ after.rawTransactions
  processed : ∀ key ∈ history.processedTransactions, key ∈ after.processedTransactions
  added : ∀ walletAddress signature, after.Processed walletAddress signature →
    history.Processed walletAddress signature ∨ fresh walletAddress signature
  known : ∃ extra, after.knownSignatures = history.knownSignatures ++ extra ∧ ∀ row ∈ extra,
    history.Processed row.walletAddress row.signature ∧
        ¬history.Known row.walletAddress row.signature ∨
      fresh row.walletAddress row.signature

/-- A bootstrap that reads the last known signature and gets enough pages. -/
def Clear (answers : BootstrapAnswers) : Prop :=
  answers.newestRead = true ∧
    (∀ answer ∈ answers.pages, ∃ cursorWritten, answer = .fetched cursorWritten) ∧
    (history.chain history.wallet).length < rpcBatchSize * answers.pages.length

/-- **Covered**: a signature of the main wallet is recorded, or the next bootstrap has to process
it; and none that is not recorded is below the signature at which it stops. -/
structure Covered : Prop where
  next : ∀ signature ∈ history.chain history.wallet, history.Recorded history.wallet signature ∨
    ∀ answers, history.Clear answers → signature ∈ (history.prepare answers).2.1
  above : history.Completed → ∀ signature ∈ history.chain history.wallet,
    ¬history.Recorded history.wallet signature → ∀ pick mark,
      history.getNewestKnownSignature history.wallet pick = some mark →
        Newer (history.chain history.wallet) signature mark

end statement

variable {history : History}

/-! ## Known signatures -/

variable {walletAddress signature : String}

lemma isSignatureKnown_iff :
    history.isSignatureKnown walletAddress signature = true ↔
      history.Known walletAddress signature := by
  simp [isSignatureKnown, Known]

lemma known_of_newest {row : KnownSignature} (h : row ∈ history.newestKnown walletAddress) :
    history.Known walletAddress row.signature := by
  have hrow := mem_of_mem_filter (mem_of_mem_filter h)
  have hwallet := (mem_filter.mp (mem_of_mem_filter h)).2
  exact ⟨row, hrow, by simpa using hwallet, rfl⟩

lemma Checkpoint.known_or_processed (h : history.Checkpoint walletAddress signature) :
    history.Known walletAddress signature ∨ history.Processed walletAddress signature := by
  rcases h with ⟨row, hrow, rfl⟩ | ⟨hprocessed, -⟩
  · exact Or.inl (known_of_newest hrow)
  · exact Or.inr hprocessed

lemma exists_newest (h : history.Known walletAddress signature) :
    ∃ row, row ∈ history.newestKnown walletAddress := by
  obtain ⟨row, hrow, hwallet, -⟩ := h
  have hmem : row ∈ history.knownSignatures.filter (·.walletAddress == walletAddress) :=
    mem_filter.mpr ⟨hrow, by simpa using hwallet⟩
  have hlast : ∀ (rows : List KnownSignature), rows ≠ [] →
      ∃ last ∈ rows, ∀ other ∈ rows, other.addedAt ≤ last.addedAt := by
    intro rows
    induction rows with
    | nil => exact fun h => absurd rfl h
    | cons first rows ih =>
      intro _
      by_cases hnil : rows = []
      · exact ⟨first, mem_cons_self, by simp [hnil]⟩
      · obtain ⟨last, hlast, hle⟩ := ih hnil
        rcases Nat.le_total first.addedAt last.addedAt with hfirst | hfirst
        · refine ⟨last, mem_cons_of_mem _ hlast, fun other hother => ?_⟩
          rcases mem_cons.mp hother with rfl | hother
          · exact hfirst
          · exact hle other hother
        · refine ⟨first, mem_cons_self, fun other hother => ?_⟩
          rcases mem_cons.mp hother with rfl | hother
          · exact Nat.le_refl _
          · exact Nat.le_trans (hle other hother) hfirst
  obtain ⟨last, hmember, hle⟩ := hlast _ (ne_nil_of_mem hmem)
  refine ⟨last, mem_filter.mpr ⟨hmember, ?_⟩⟩
  rw [all_eq_true]
  exact fun other hother => decide_eq_true (hle other hother)

/-! ## Growing -/

lemma Grows.refl (fresh : String → String → Prop) : history.Grows history fresh where
  chain := rfl
  wallet := rfl
  raw := fun _ h => h
  processed := fun _ h => h
  added := fun _ _ h => Or.inl h
  known := ⟨[], by simp, fun _ h => by cases h⟩

variable {after : History}

lemma Grows.knows {fresh : String → String → Prop} (h : history.Grows after fresh)
    (hknown : history.Known walletAddress signature) : after.Known walletAddress signature := by
  obtain ⟨row, hrow, hkey⟩ := hknown
  obtain ⟨extra, hextra, -⟩ := h.known
  exact ⟨row, by rw [hextra]; exact mem_append_left _ hrow, hkey⟩

lemma Grows.known_or {fresh : String → String → Prop} (h : history.Grows after fresh)
    (hknown : after.Known walletAddress signature) :
    history.Known walletAddress signature ∨ history.Processed walletAddress signature ∨
      fresh walletAddress signature := by
  obtain ⟨row, hrow, rfl, rfl⟩ := hknown
  obtain ⟨extra, hextra, hnew⟩ := h.known
  rw [hextra] at hrow
  rcases mem_append.mp hrow with hold | hrow
  · exact Or.inl ⟨row, hold, rfl, rfl⟩
  · exact Or.inr ((hnew row hrow).imp_left And.left)

lemma Grows.mono {fresh fresh' : String → String → Prop} (h : history.Grows after fresh)
    (himp : ∀ walletAddress signature, fresh walletAddress signature → fresh' walletAddress signature) :
    history.Grows after fresh' where
  chain := h.chain
  wallet := h.wallet
  raw := h.raw
  processed := h.processed
  added := fun walletAddress signature hafter =>
    (h.added walletAddress signature hafter).imp_right (himp walletAddress signature)
  known := by
    obtain ⟨extra, hextra, hnew⟩ := h.known
    exact ⟨extra, hextra, fun row hrow => (hnew row hrow).imp_right (himp _ _)⟩

lemma Grows.trans {fresh : String → String → Prop} {middle : History}
    (h : history.Grows middle fresh) (h' : middle.Grows after fresh) :
    history.Grows after fresh where
  chain := h'.chain.trans h.chain
  wallet := h'.wallet.trans h.wallet
  raw := fun key hkey => h'.raw key (h.raw key hkey)
  processed := fun key hkey => h'.processed key (h.processed key hkey)
  added := fun walletAddress signature hafter =>
    (h'.added walletAddress signature hafter).elim (h.added walletAddress signature) Or.inr
  known := by
    obtain ⟨extra, hextra, hnew⟩ := h.known
    obtain ⟨extra', hextra', hnew'⟩ := h'.known
    refine ⟨extra ++ extra', by rw [hextra', hextra, append_assoc], fun row hrow => ?_⟩
    rcases mem_append.mp hrow with hrow | hrow
    · exact hnew row hrow
    · rcases hnew' row hrow with ⟨hprocessed, hnot⟩ | hfresh
      · rcases h.added _ _ hprocessed with hold | hfresh
        · exact Or.inl ⟨hold, fun hknown => hnot (h.knows hknown)⟩
        · exact Or.inr hfresh
      · exact Or.inr hfresh

variable {mark : String}

lemma Grows.checkpoint {fresh : String → String → Prop} (h : history.Grows after fresh)
    (hmark : after.Checkpoint walletAddress mark) :
    history.Checkpoint walletAddress mark ∨ fresh walletAddress mark := by
  rcases hmark with ⟨row, hrow, rfl⟩ | ⟨hprocessed, hnot⟩
  · obtain ⟨extra, hextra, hnew⟩ := h.known
    obtain ⟨hmember, hlast⟩ := mem_filter.mp hrow
    obtain ⟨hafter, hwallet⟩ := mem_filter.mp hmember
    have hwallet : row.walletAddress = walletAddress := by simpa using hwallet
    rw [hextra] at hafter
    rcases mem_append.mp hafter with hold | hadded
    · refine Or.inl (Or.inl ⟨row, mem_filter.mpr ⟨mem_filter.mpr ⟨hold, ?_⟩, ?_⟩, rfl⟩)
      · simpa using hwallet
      · -- it is the last of more rows
        rw [all_eq_true] at hlast ⊢
        intro other hother
        obtain ⟨hother, hsame⟩ := mem_filter.mp hother
        refine hlast other (mem_filter.mpr ⟨?_, hsame⟩)
        rw [hextra]
        exact mem_append_left _ hother
    · rcases hnew row hadded with ⟨hprocessed, hnot⟩ | hfresh
      · exact Or.inl (Or.inr (hwallet ▸ ⟨hprocessed, hnot⟩))
      · exact Or.inr (hwallet ▸ hfresh)
  · rcases h.added _ _ hprocessed with hold | hfresh
    · exact Or.inl (Or.inr ⟨hold, fun hknown => hnot (h.knows hknown)⟩)
    · exact Or.inr hfresh

lemma Grows.recorded {fresh : String → String → Prop} (h : history.Grows after fresh)
    (hrecorded : history.Recorded walletAddress signature) :
    after.Recorded walletAddress signature :=
  ⟨h.raw _ hrecorded.1, h.processed _ hrecorded.2⟩

/-! ## Keeping -/

lemma Honest.recorded (h : history.Honest walletAddress)
    (hmark : history.Checkpoint walletAddress mark) : history.Recorded walletAddress mark := by
  have hprocessed := hmark.known_or_processed.elim (h.known mark) id
  exact ⟨h.raw mark hprocessed, hprocessed⟩

lemma Kept.grow {fresh : String → String → Prop} (h : history.Kept walletAddress)
    (hgrows : history.Grows after fresh) (hhonest : after.Honest walletAddress)
    (hcompleted : after.Completed → ¬history.Completed →
      ∀ signature ∈ history.chain walletAddress, ¬after.Recorded walletAddress signature →
      (∀ mark, history.Checkpoint walletAddress mark →
      Newer (history.chain walletAddress) signature mark) ∧ ((∃ mark,
      after.Known walletAddress mark) ∨ (history.chain walletAddress).length ≤ rpcBatchSize))
    (habove : after.Completed → ∀ signature ∈ history.chain walletAddress,
      ¬after.Recorded walletAddress signature → ∀ mark, fresh walletAddress mark →
      after.Recorded walletAddress mark → Newer (history.chain walletAddress) signature mark) :
    after.Kept walletAddress := by
  refine ⟨hhonest, fun hdone signature hsignature hnot => ?_⟩
  rw [hgrows.chain] at hsignature
  have hbefore : (∀ mark, history.Checkpoint walletAddress mark →
        Newer (history.chain walletAddress) signature mark) ∧
      ((∃ mark, after.Known walletAddress mark) ∨
        (history.chain walletAddress).length ≤ rpcBatchSize) := by
    by_cases hbefore : history.Completed
    · obtain ⟨hnewer, hsome⟩ := h.above hbefore signature hsignature fun hrecorded =>
        hnot (hgrows.recorded hrecorded)
      exact ⟨hnewer, hsome.imp_left fun ⟨mark, hmark⟩ => ⟨mark, hgrows.knows hmark⟩⟩
    · exact hcompleted hdone hbefore signature hsignature hnot
  refine ⟨fun mark hmark => ?_, by rw [hgrows.chain]; exact hbefore.2⟩
  rw [hgrows.chain]
  rcases hgrows.checkpoint hmark with hold | hnew
  · exact hbefore.1 mark hold
  · exact habove hdone signature hsignature hnot mark hnew (hhonest.recorded hmark)

lemma Grows.onChain {fresh : String → String → Prop} (hgrows : history.Grows after fresh)
    (h : ∀ walletAddress signature, history.Known walletAddress signature ∨
      history.Processed walletAddress signature → signature ∈ history.chain walletAddress)
    (hfresh : ∀ walletAddress signature, fresh walletAddress signature →
      signature ∈ history.chain walletAddress) :
    ∀ walletAddress signature,
      after.Known walletAddress signature ∨ after.Processed walletAddress signature →
        signature ∈ after.chain walletAddress := by
  intro walletAddress signature hafter
  rw [hgrows.chain]
  rcases hafter with hknown | hprocessed
  · rcases hgrows.known_or hknown with hold | hold | hnew
    · exact h _ _ (Or.inl hold)
    · exact h _ _ (Or.inr hold)
    · exact hfresh _ _ hnew
  · rcases hgrows.added _ _ hprocessed with hold | hnew
    · exact h _ _ (Or.inr hold)
    · exact hfresh _ _ hnew

/-! ## Operations -/

section operations

variable {walletAddress signature : String}

lemma known_addKnownSignature {w s : String} {now : ℕ} :
    (history.addKnownSignature walletAddress signature now).Known w s ↔
      history.Known w s ∨ (w = walletAddress ∧ s = signature) := by
  unfold addKnownSignature
  split
  case isTrue hknown =>
    refine ⟨Or.inl, fun h => h.elim id ?_⟩
    rintro ⟨rfl, rfl⟩
    exact isSignatureKnown_iff.mp hknown
  case isFalse hnot =>
    constructor
    · rintro ⟨row, hrow, hwallet, hsignature⟩
      rcases mem_append.mp hrow with hold | hnew
      · exact Or.inl ⟨row, hold, hwallet, hsignature⟩
      · rw [mem_singleton.mp hnew] at hwallet hsignature
        exact Or.inr ⟨hwallet.symm, hsignature.symm⟩
    · rintro (⟨row, hrow, hkey⟩ | ⟨rfl, rfl⟩)
      · exact ⟨row, mem_append_left _ hrow, hkey⟩
      · exact ⟨_, mem_append_right _ mem_cons_self, rfl, rfl⟩

lemma grows_addKnownSignature {fresh : String → String → Prop} (now : ℕ)
    (h : history.Processed walletAddress signature ∨ fresh walletAddress signature) :
    history.Grows (history.addKnownSignature walletAddress signature now) fresh := by
  unfold addKnownSignature
  split
  case isTrue hknown => exact Grows.refl fresh
  case isFalse hnot =>
    refine ⟨rfl, rfl, fun _ h => h, fun _ h => h, fun _ _ h => Or.inl h, ⟨_, rfl, ?_⟩⟩
    intro row hrow
    rw [mem_singleton.mp hrow]
    refine h.imp_left fun hprocessed => ⟨hprocessed, fun hknown => hnot ?_⟩
    exact isSignatureKnown_iff.mpr hknown

lemma addKnownSignature_tables (walletAddress signature : String) (now : ℕ) :
    (history.addKnownSignature walletAddress signature now).rawTransactions =
        history.rawTransactions ∧
      (history.addKnownSignature walletAddress signature now).processedTransactions =
        history.processedTransactions ∧
      (history.addKnownSignature walletAddress signature now).globalKnownSignatures =
        history.globalKnownSignatures ∧
      (history.addKnownSignature walletAddress signature now).bootstrapState =
        history.bootstrapState := by
  unfold addKnownSignature
  split <;> exact ⟨rfl, rfl, rfl, rfl⟩

/-- Only the known signatures and the cursor are written. -/
structure Leaves (history after : History) : Prop where
  raw : after.rawTransactions = history.rawTransactions
  processed : after.processedTransactions = history.processedTransactions
  remembered : after.globalKnownSignatures = history.globalKnownSignatures
  completed : after.Completed → history.Completed

variable {after : History}

lemma Leaves.trans {middle : History} (h : history.Leaves middle) (h' : middle.Leaves after) :
    history.Leaves after :=
  ⟨h'.raw.trans h.raw, h'.processed.trans h.processed, h'.remembered.trans h.remembered,
    fun hdone => h.completed (h'.completed hdone)⟩

/-- Nothing is fresh. -/
def Nothing : String → String → Prop := fun _ _ => False

lemma Honest.leave (h : history.Honest walletAddress) (hgrows : history.Grows after Nothing)
    (hleaves : history.Leaves after) : after.Honest walletAddress := by
  have hprocessed : ∀ signature, history.Processed walletAddress signature →
      after.Processed walletAddress signature := fun signature => hgrows.processed _
  refine ⟨fun signature hsignature => ?_, fun signature hknown => ?_, fun signature hmem => ?_⟩
  · rw [hleaves.raw]
    exact h.raw signature ((hgrows.added _ _ hsignature).resolve_right id)
  · rcases hgrows.known_or hknown with hold | hold | hnothing
    · exact hprocessed signature (h.known signature hold)
    · exact hprocessed signature hold
    · exact hnothing.elim
  · rw [hleaves.remembered] at hmem
    exact hprocessed signature (h.remembered signature hmem)

lemma reconcile_spec (now : ℕ) : history.Grows (history.reconcileKnownWithProcessed now) Nothing ∧
    history.Leaves (history.reconcileKnownWithProcessed now) := by
  have hfold : ∀ (keys : List (String × String)) (start : History),
      (∀ key ∈ keys, key ∈ start.processedTransactions) →
        start.Grows (keys.foldl
            (fun history key => history.addKnownSignature key.1 key.2 now) start) Nothing ∧
          start.Leaves (keys.foldl
            (fun history key => history.addKnownSignature key.1 key.2 now) start) := by
    intro keys
    induction keys with
    | nil => exact fun start _ => ⟨Grows.refl _, rfl, rfl, rfl, id⟩
    | cons key keys ih =>
      intro start hkeys
      obtain ⟨hraw, hprocessed, hremembered, hstate⟩ :=
        start.addKnownSignature_tables key.1 key.2 now
      have hone : start.Grows (start.addKnownSignature key.1 key.2 now) Nothing :=
        grows_addKnownSignature now (Or.inl (hkeys key mem_cons_self))
      have hleaves : start.Leaves (start.addKnownSignature key.1 key.2 now) :=
        ⟨hraw, hprocessed, hremembered, by
          unfold Completed getBootstrapState
          rw [hstate]
          exact id⟩
      obtain ⟨hrest, hrest'⟩ := ih (start.addKnownSignature key.1 key.2 now) fun other hother => by
        rw [hprocessed]
        exact hkeys other (mem_cons_of_mem _ hother)
      exact ⟨hone.trans hrest, hleaves.trans hrest'⟩
  exact hfold _ history fun _ h => h

lemma setBackfillCursor_spec (cursor : Option String) :
    history.Grows (history.setBackfillCursor cursor) Nothing ∧
      history.Leaves (history.setBackfillCursor cursor) :=
  ⟨⟨rfl, rfl, fun _ h => h, fun _ h => h, fun _ _ h => Or.inl h, [], by simp [setBackfillCursor],
    by simp⟩, rfl, rfl, rfl, id⟩

lemma writing_spec (written : Bool) (write : History → History)
    (h : history.Grows (write history) Nothing ∧ history.Leaves (write history)) :
    history.Grows (history.writing written write) Nothing ∧
      history.Leaves (history.writing written write) := by
  cases written with
  | true => exact h
  | false => exact ⟨Grows.refl _, rfl, rfl, rfl, id⟩

lemma collect_spec (mode : BootstrapMode) (checkpoint : Option String)
    (pages : List SignaturePage) (history : History) (before : Option String)
    (allSignatures : List String) :
    history.Grows (collect mode checkpoint pages history before allSignatures).2 Nothing ∧
      history.Leaves (collect mode checkpoint pages history before allSignatures).2 := by
  have hnothing : ∀ history : History, history.Grows history Nothing ∧ history.Leaves history :=
    fun _ => ⟨Grows.refl _, rfl, rfl, rfl, id⟩
  induction pages generalizing history before allSignatures with
  | nil => exact hnothing history
  | cons answer pages ih =>
    cases answer with
    | failed detail => exact hnothing history
    | fetched cursorWritten =>
      unfold collect
      dsimp only
      split
      · exact hnothing history
      split
      · exact hnothing history
      split
      · exact hnothing history
      have hcursor := writing_spec (mode == .full && cursorWritten)
        (·.setBackfillCursor
          (page rpcBatchSize before none (history.chain history.wallet)).getLast?)
        (history.setBackfillCursor_spec _)
      split
      · exact hcursor
      · obtain ⟨hrest, hrest'⟩ := ih _ _ _
        exact ⟨hcursor.1.trans hrest, hcursor.2.trans hrest'⟩

variable {checkpoint : Option String} {mode : BootstrapMode}

lemma collected_onChain (pages : List SignaturePage) (history : History) (before : Option String)
    (allSignatures : List String) {signatures : List String} {reachedChainEnd : Bool}
    {last : Option String}
    (hall : ∀ signature ∈ allSignatures, signature ∈ history.chain history.wallet)
    (h : (collect mode checkpoint pages history before allSignatures).1 =
      .ok signatures reachedChainEnd last) :
    ∀ signature ∈ signatures, signature ∈ history.chain history.wallet := by
  induction pages generalizing history before allSignatures with
  | nil => cases h
  | cons answer pages ih =>
    cases answer with
    | failed detail => cases h
    | fetched cursorWritten =>
      have hmore : ∀ signature ∈ allSignatures ++ newerThan checkpoint
          (page rpcBatchSize before none (history.chain history.wallet)),
          signature ∈ history.chain history.wallet := fun signature hmem =>
        (mem_append.mp hmem).elim (hall signature) fun hpage =>
          mem_of_mem_page (mem_of_mem_newerThan hpage)
      unfold collect at h
      dsimp only at h
      split at h
      · exact (Collected.ok.inj h).1 ▸ hall
      split at h
      · exact (Collected.ok.inj h).1 ▸ hmore
      split at h
      · exact (Collected.ok.inj h).1 ▸ hmore
      split at h
      · exact (Collected.ok.inj h).1 ▸ hmore
      · have hcursor := (writing_spec (mode == .full && cursorWritten)
          (·.setBackfillCursor
            (page rpcBatchSize before none (history.chain history.wallet)).getLast?)
          (history.setBackfillCursor_spec _)).1
        have hsame : ∀ after : History, after.chain = history.chain →
            after.wallet = history.wallet →
              after.chain after.wallet = history.chain history.wallet :=
          fun after hchain hwallet => by rw [hchain, hwallet]
        have hmiddle := hsame _ hcursor.chain hcursor.wallet
        intro signature hmem
        rw [← hmiddle]
        exact ih _ _ _ (fun other hother => hmiddle.symm ▸ hmore other hother) h signature hmem

lemma mem_collect (pages : List SignaturePage) (history : History)
    (allSignatures front rest : List String) (hchain : history.chain history.wallet = front ++ rest)
    (hnodup : (front ++ rest).Nodup)
    (hpages : ∀ answer ∈ pages, ∃ cursorWritten, answer = .fetched cursorWritten)
    (henough : rest.length < rpcBatchSize * pages.length)
    (hsignature : signature ∈ allSignatures ∨ signature ∈ newerThan checkpoint rest ∧
      (checkpoint = none → mode = .full ∨ rest.length ≤ rpcBatchSize)) :
    ∃ signatures reachedChainEnd last,
      (collect mode checkpoint pages history front.getLast? allSignatures).1 =
        .ok signatures reachedChainEnd last ∧ signature ∈ signatures := by
  induction pages generalizing history allSignatures front rest with
  | nil => exact absurd henough (by simp)
  | cons answer pages ih =>
    obtain ⟨cursorWritten, rfl⟩ := hpages answer mem_cons_self
    have hpage : page rpcBatchSize front.getLast? none (history.chain history.wallet) =
        rest.take rpcBatchSize := by
      rw [hchain]
      exact page_append rpcBatchSize hnodup
    -- what is left to find is on this page, or behind it
    have hnext : signature ∈ allSignatures ++ newerThan checkpoint (rest.take rpcBatchSize) ∨
        (signature ∈ newerThan checkpoint (rest.drop rpcBatchSize) ∧
          ∀ mark ∈ checkpoint, mark ∉ rest.take rpcBatchSize) ∧
          (checkpoint = none → mode = .full ∨ rest.length ≤ rpcBatchSize) := by
      rcases hsignature with hold | ⟨hnew, hmode⟩
      · exact Or.inl (mem_append_left _ hold)
      · exact (mem_newerThan_take_or_drop rpcBatchSize hnew).imp (mem_append_right _)
          fun hbehind => ⟨hbehind, hmode⟩
    -- nothing is found behind a page that is not full
    have hshort (hlength : rest.length ≤ rpcBatchSize) :
        signature ∈ allSignatures ++ newerThan checkpoint (rest.take rpcBatchSize) := by
      refine hnext.resolve_right fun hbehind => ?_
      have hmember := mem_of_mem_newerThan hbehind.1.1
      rw [drop_eq_nil_of_le hlength] at hmember
      cases hmember
    unfold collect
    dsimp only
    rw [hpage]
    split
    case isTrue hempty =>
      have hrest : rest = [] := by
        simpa [rpcBatchSize] using hempty
      subst hrest
      refine ⟨allSignatures, true, front.getLast?, rfl, ?_⟩
      have hall := hshort (Nat.zero_le _)
      rwa [take_nil, newerThan_nil, append_nil] at hall
    case isFalse hsome =>
    split
    case isTrue hhit =>
      refine ⟨_, _, _, rfl, hnext.resolve_right fun hbehind => ?_⟩
      obtain ⟨mark, hmark, hcontains⟩ := (Option.any_eq_true _ _).mp hhit
      exact hbehind.1.2 mark hmark (by simpa using hcontains)
    case isFalse hmiss =>
    split
    case isTrue hfirst =>
      rw [Bool.and_eq_true, Option.isNone_iff_eq_none, beq_iff_eq] at hfirst
      refine ⟨_, _, _, rfl, hnext.elim id fun hbehind => ?_⟩
      refine hshort ((hbehind.2 hfirst.1).resolve_left fun hfull => ?_)
      rw [hfirst.2] at hfull
      cases hfull
    case isFalse hmore =>
    split
    case isTrue hlast =>
      refine ⟨_, _, _, rfl, hshort ?_⟩
      rw [length_take] at hlast
      omega
    case isFalse hfull =>
      have hlast : (front ++ rest.take rpcBatchSize).getLast? =
          (rest.take rpcBatchSize).getLast? := by
        rw [List.getLast?_append_of_ne_nil]
        exact fun hnil => hsome (by rw [hnil]; rfl)
      have hdrop : (rest.drop rpcBatchSize).length < rpcBatchSize * pages.length := by
        rw [length_cons, Nat.mul_succ] at henough
        rw [length_take] at hfull
        rw [length_drop]
        omega
      rw [← take_append_drop rpcBatchSize rest, ← append_assoc] at hchain hnodup
      rw [← hlast]
      refine ih _ _ _ _ ?_ hnodup (fun answer h => hpages answer (mem_cons_of_mem _ h))
        hdrop (hnext.imp_right fun hbehind => ⟨hbehind.1.1, fun hnone => ?_⟩)
      · have hcursor := (writing_spec (mode == .full && cursorWritten)
          (·.setBackfillCursor (front ++ rest.take rpcBatchSize).getLast?)
          (history.setBackfillCursor_spec _)).1
        rw [hcursor.chain, hcursor.wallet]
        exact hchain
      · refine (hbehind.2 hnone).imp_right fun hlength => ?_
        rw [length_drop]
        omega

lemma reconciled_spec (answers : BootstrapAnswers) :
    history.Grows (history.reconciled answers) Nothing ∧
      history.Leaves (history.reconciled answers) := by
  unfold reconciled
  split
  · exact history.reconcile_spec _
  · exact ⟨Grows.refl _, rfl, rfl, rfl, id⟩

lemma filterKnown_spec (knownRead : String → Bool) (signatures : List String)
    (h : history.Honest history.wallet) :
    history.Grows (history.filterKnown knownRead signatures).2 Nothing ∧
      (history.filterKnown knownRead signatures).2.Honest history.wallet ∧
      ∀ signature ∈ signatures, ¬history.Processed history.wallet signature →
        signature ∈ (history.filterKnown knownRead signatures).1 := by
  have hknown : ∀ signature, history.isKnown knownRead signature = true →
      history.Processed history.wallet signature := by
    intro signature hsignature
    rcases (Bool.or_eq_true _ _).mp hsignature with hglobal | hdatabase
    · exact h.remembered signature (by simpa using hglobal)
    · exact h.known signature (isSignatureKnown_iff.mp ((Bool.and_eq_true _ _).mp hdatabase).2)
  refine ⟨⟨rfl, rfl, fun _ h => h, fun _ h => h, fun _ _ h => Or.inl h, [], ?_, by simp⟩,
    ⟨h.raw, h.known, ?_⟩, ?_⟩
  · exact (append_nil _).symm
  · intro signature hmem
    rcases mem_append.mp hmem with hold | hnew
    · exact h.remembered signature hold
    · obtain ⟨other, hother, heq⟩ := mem_map.mp hnew
      obtain rfl : other = signature := (Prod.mk.inj heq).2
      exact hknown other (mem_filter.mp hother).2
  · intro signature hsignature hnot
    refine mem_filter.mpr ⟨hsignature, ?_⟩
    cases hisKnown : history.isKnown knownRead signature with
    | false => rfl
    | true => exact absurd (hknown signature hisKnown) hnot

lemma prepare_spec (answers : BootstrapAnswers) (h : history.Honest history.wallet) :
    history.Grows (history.prepare answers).2.2 Nothing ∧
      (history.prepare answers).2.2.Honest history.wallet ∧
      ((history.prepare answers).2.2.Completed → history.Completed) := by
  obtain ⟨hgrows, hleaves⟩ := history.reconciled_spec answers
  have hcollect := collect_spec ((history.reconciled answers).bootstrapMode answers).1
    ((history.reconciled answers).bootstrapMode answers).2 answers.pages
    (history.reconciled answers) none []
  have hgrows' := hgrows.trans hcollect.1
  have hleaves' := hleaves.trans hcollect.2
  have hhonest := h.leave hgrows' hleaves'
  unfold prepare
  dsimp only
  split
  case h_1 signatures reachedChainEnd before collected heq =>
    rw [heq] at hgrows' hleaves' hhonest
    rw [← hgrows'.wallet] at hhonest ⊢
    obtain ⟨hfilter, hfiltered, -⟩ := collected.filterKnown_spec answers.knownRead signatures hhonest
    exact ⟨hgrows'.trans hfilter, hfiltered, hleaves'.completed⟩
  case h_2 failed collected _ heq =>
    rw [heq] at hgrows' hleaves' hhonest
    exact ⟨hgrows', hhonest, hleaves'.completed⟩

end operations

lemma prepare_onChain (answers : BootstrapAnswers) :
    ∀ signature ∈ (history.prepare answers).2.1, signature ∈ history.chain history.wallet := by
  obtain ⟨hgrows, -⟩ := history.reconciled_spec answers
  unfold prepare
  dsimp only
  split
  case h_1 signatures reachedChainEnd before collected heq =>
    have hcollected := collected_onChain answers.pages (history.reconciled answers) none []
      (by simp) (congrArg Prod.fst heq)
    rw [hgrows.chain, hgrows.wallet] at hcollected
    exact fun signature hmem => hcollected signature (mem_filter.mp hmem).1
  case h_2 => simp

/-! ## What is covered -/

variable {pick : ℕ}

lemma newest_of_getNewest (h : history.getNewestKnownSignature walletAddress pick = some mark) :
    history.Checkpoint walletAddress mark := by
  obtain ⟨row, hrow, rfl⟩ := Option.map_eq_some_iff.mp h
  exact Or.inl ⟨row, mem_of_getElem? hrow, rfl⟩

lemma not_known_of_getNewest (h : history.getNewestKnownSignature walletAddress pick = none)
    (signature : String) : ¬history.Known walletAddress signature := by
  intro hknown
  obtain ⟨row, hrow⟩ := exists_newest hknown
  have hlength := length_pos_of_mem hrow
  have hnone := Option.map_eq_none_iff.mp h
  rw [List.getElem?_eq_none_iff] at hnone
  exact absurd (Nat.mod_lt pick hlength) (Nat.not_lt.mpr hnone)

lemma Kept.asked (h : history.Kept history.wallet)
    (hsignature : signature ∈ history.chain history.wallet)
    (hnot : ¬history.Recorded history.wallet signature) (answers : BootstrapAnswers)
    (hnewest : answers.newestRead = true) :
    signature ∈ newerThan (history.bootstrapMode answers).2 (history.chain history.wallet) ∧
      ((history.bootstrapMode answers).2 = none → (history.bootstrapMode answers).1 = .full ∨
        (history.chain history.wallet).length ≤ rpcBatchSize) := by
  unfold bootstrapMode
  split
  case isFalse hfull => exact ⟨hsignature, fun _ => Or.inl rfl⟩
  case isTrue hincremental =>
    have hcompleted : history.Completed := ((Bool.and_eq_true _ _).mp hincremental).2
    have habove := h.above hcompleted signature hsignature hnot
    cases hmark : history.getNewestKnownSignature history.wallet answers.pick with
    | some mark => exact ⟨habove.newer mark (newest_of_getNewest hmark), by simp⟩
    | none =>
      refine ⟨hsignature, fun _ => Or.inr (habove.some.resolve_left ?_)⟩
      rintro ⟨other, hother⟩
      exact not_known_of_getNewest hmark other hother

lemma mem_prepare {answers : BootstrapAnswers} {signatures : List String} {reachedChainEnd : Bool}
    {before : Option String}
    (h : (history.reconciled answers).Honest (history.reconciled answers).wallet)
    (hcollected : (collect ((history.reconciled answers).bootstrapMode answers).1
      ((history.reconciled answers).bootstrapMode answers).2 answers.pages
      (history.reconciled answers) none []).1 = .ok signatures reachedChainEnd before)
    (hsignature : signature ∈ signatures)
    (hnot : ¬(history.reconciled answers).Processed (history.reconciled answers).wallet signature) :
    signature ∈ (history.prepare answers).2.1 := by
  obtain ⟨hgrows, hleaves⟩ := collect_spec ((history.reconciled answers).bootstrapMode answers).1
    ((history.reconciled answers).bootstrapMode answers).2 answers.pages
    (history.reconciled answers) none []
  have hhonest := h.leave hgrows hleaves
  unfold prepare
  dsimp only
  split
  case h_1 others reachedChainEnd' before' collected heq =>
    rw [heq] at hcollected hgrows hhonest
    obtain ⟨rfl, -, -⟩ := Collected.ok.inj hcollected
    rw [← hgrows.wallet] at hhonest hnot
    exact (collected.filterKnown_spec answers.knownRead others hhonest).2.2 signature hsignature
      fun hprocessed => hnot ((hgrows.added _ _ hprocessed).resolve_right id)
  case h_2 failed collected hfailed heq =>
    rw [heq] at hcollected
    exact absurd hcollected (hfailed signatures reachedChainEnd before)

lemma Sound.covered (h : history.Sound) : history.Covered := by
  refine ⟨fun signature hsignature => ?_, fun hcompleted signature hsignature hnot pick mark hmark =>
    (h.kept.above hcompleted signature hsignature hnot).newer mark (newest_of_getNewest hmark)⟩
  by_cases hrecorded : history.Recorded history.wallet signature
  · exact Or.inl hrecorded
  refine Or.inr fun answers ⟨hnewest, hpages, henough⟩ => ?_
  obtain ⟨hgrows, hleaves⟩ := history.reconciled_spec answers
  have hhonest := h.kept.toHonest.leave hgrows hleaves
  have hprocessed : ∀ other, (history.reconciled answers).Processed history.wallet other →
      history.Processed history.wallet other := fun other hother =>
    (hgrows.added _ _ hother).resolve_right id
  have hnot : ¬(history.reconciled answers).Recorded history.wallet signature := fun hafter =>
    hrecorded ⟨h.kept.raw signature (hprocessed signature hafter.2), hprocessed signature hafter.2⟩
  have hkept : (history.reconciled answers).Kept history.wallet :=
    h.kept.grow hgrows hhonest (fun hdone hbefore => absurd (hleaves.completed hdone) hbefore)
      fun _ _ _ _ _ hnothing => hnothing.elim
  rw [← hgrows.wallet] at hkept hnot hsignature
  rw [← hgrows.chain] at hsignature
  rw [← hgrows.chain, ← hgrows.wallet] at henough
  have hasked := hkept.asked hsignature hnot answers hnewest
  obtain ⟨signatures, reachedChainEnd, last, hcollected, hmember⟩ :=
    mem_collect answers.pages (history.reconciled answers) [] []
      ((history.reconciled answers).chain (history.reconciled answers).wallet) rfl
      (hgrows.chain ▸ h.nodup _) hpages henough (Or.inr hasked)
  refine mem_prepare hkept.toHonest hcollected hmember fun hother => hrecorded ?_
  rw [hgrows.wallet] at hother
  exact ⟨h.kept.raw signature (hprocessed signature hother), hprocessed signature hother⟩

end History

end Dripline.Transactions
