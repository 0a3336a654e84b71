import Dripline.Found.Trace
import Dripline.Transactions.Passes

/-!
# Is the delta ledger the whole history?

* `complete_of_careful` — after a backfill and a gap fill a wallet's ledger is complete, when every
  step was careful; `not_complete` — else it may not be.
-/

namespace Dripline.Transactions

open Dripline.Found.Trace

namespace DeltaLedger

section ledger

variable (ledger : DeltaLedger)

/-- The stored rows of a wallet are those extracted from its cached transactions. -/
def Complete (walletAddress : String) : Prop :=
  ∀ delta, (delta ∈ ledger.subjectAssetDeltas ∧ delta.walletAddress = walletAddress) ↔
    ∃ row ∈ ledger.rawTransactions, row.walletAddress = walletAddress ∧ delta ∈ row.deltas

/-- A transaction has no row, and the gap fill looks for it. -/
def Fillable (row : RawTransaction) : Prop :=
  ¬ledger.HasRow row ∧
    ∀ slot, row.slot = some slot → (ledger.watermark row.walletAddress : ℤ) ≤ slot

/-- A backfill of this version was done, for some wallet. -/
def Backfilled : Prop := ledger.backfillVersion = some (toString subjectDeltasVersion)

/-- Once the backfill is done, a cached transaction has its rows or can still be filled. -/
structure Sound : Prop extends ledger.Faithful where
  settled : ledger.Backfilled → ∀ row ∈ ledger.rawTransactions, ledger.Has row ∨ ledger.Fillable row

/-- Nothing but a whole gap fill: it is over with its first page, or all its pages go through and
are enough. -/
def Untorn (walletAddress : String) (answers : GapAnswers) : Prop :=
  (∀ page ∈ answers.pages, page.Whole) ∧
    ((ledger.gapRows walletAddress (ledger.watermark walletAddress) "").length < backfillBatchSize ∨
      (∀ page ∈ answers.pages, page.Through) ∧
        (ledger.gapRows walletAddress (ledger.watermark walletAddress) "").length <
          backfillBatchSize * answers.pages.length)

/-- No step leaves a hole that the gap fill does not look for.
* A transaction is recorded as it was before, its rows can be stored, and are only with its reply. Once a
  backfill is done: if it is stored with its rows, it is with all, and no other transaction of the wallet
  below them is left without its own; if it is stored without, it is not below the newest stored slot.
* A backfill that is done skips no row, and finds that the other wallets' transactions have their rows or
  can still be filled.
* A gap fill after it is not torn. -/
def Careful : LedgerEvent → Prop
  | .recorded row cached written =>
    row.Storable ∧ (∀ stored ∈ ledger.rawTransactions, stored.SameKey row → stored = row) ∧
      (cached = true ∨ row ∈ ledger.rawTransactions ∨ written = none) ∧
      (ledger.Backfilled →
        match written with
        | some (.stored skipped) =>
          (∀ delta ∈ row.deltas, (delta.signature, delta.mint) ∉ skipped) ∧
            ∀ other ∈ ledger.rawTransactions, other.walletAddress = row.walletAddress →
              other ≠ row → ledger.Has other ∨ ∀ slot, other.slot = some slot →
                ∀ delta ∈ row.deltas, ((delta.slot.getD 0 : ℕ) : ℤ) ≤ slot
        | _ => row ∈ ledger.rawTransactions ∨
            ∀ slot, row.slot = some slot → (ledger.watermark row.walletAddress : ℤ) ≤ slot)
  | .backfilled walletAddress answers =>
    ¬ledger.Backfilled → answers.marked = some (.ok ()) →
      (∀ page ∈ answers.pages, page.Whole) ∧
        ∀ row ∈ ledger.rawTransactions, row.walletAddress ≠ walletAddress →
          ledger.Has row ∨ ledger.Fillable row
  | .filled walletAddress answers => ledger.Backfilled → ledger.Untorn walletAddress answers

end ledger

variable {ledger : DeltaLedger} {walletAddress : String}

lemma watermark_le_iff {bound : ℤ} :
    (ledger.watermark walletAddress : ℤ) ≤ bound ↔ 0 ≤ bound ∧
      ∀ delta ∈ ledger.subjectAssetDeltas, delta.walletAddress = walletAddress →
        ((delta.slot.getD 0 : ℕ) : ℤ) ≤ bound := by
  have hfold : ∀ (deltas : List SubjectAssetDelta) (start : ℕ),
      ((deltas.foldl (fun newest delta => max newest (delta.slot.getD 0)) start : ℕ) : ℤ) ≤ bound ↔
        (start : ℤ) ≤ bound ∧ ∀ delta ∈ deltas, ((delta.slot.getD 0 : ℕ) : ℤ) ≤ bound := by
    intro deltas
    induction deltas with
    | nil => simp
    | cons delta deltas ih =>
      intro start
      have hmax : ((max start (delta.slot.getD 0) : ℕ) : ℤ) ≤ bound ↔
          (start : ℤ) ≤ bound ∧ ((delta.slot.getD 0 : ℕ) : ℤ) ≤ bound := by omega
      rw [List.foldl_cons, ih, hmax, List.forall_mem_cons, and_assoc]
  unfold watermark
  rw [hfold]
  simp

variable {row : RawTransaction} {after : DeltaLedger}

lemma Fillable.grow {source : SubjectAssetDelta → Prop} (h : ledger.Fillable row)
    (hgrows : ledger.Grows after source)
    (hother : ∀ delta, source delta → delta.walletAddress = row.walletAddress → delta.signature ≠
      row.signature ∧ ∀ slot, row.slot = some slot → ((delta.slot.getD 0 : ℕ) : ℤ) ≤ slot) :
    after.Fillable row := by
  refine ⟨?_, fun slot hslot => ?_⟩
  · rintro ⟨delta, hdelta, hwallet, hsignature⟩
    rcases hgrows.added delta hdelta with hold | hnew
    · exact h.1 ⟨delta, hold, hwallet, hsignature⟩
    · exact (hother delta hnew hwallet).1 hsignature
  · obtain ⟨hpos, hbelow⟩ := watermark_le_iff.mp (h.2 slot hslot)
    refine watermark_le_iff.mpr ⟨hpos, fun delta hdelta hwallet => ?_⟩
    rcases hgrows.added delta hdelta with hold | hnew
    · exact hbelow delta hold hwallet
    · exact (hother delta hnew hwallet).2 slot hslot

lemma settled_of_other (hgrows : ledger.Grows after (ledger.OfWallet walletAddress))
    (hother : row.walletAddress ≠ walletAddress) (h : ledger.Has row ∨ ledger.Fillable row) :
    after.Has row ∨ after.Fillable row := by
  rcases h with hhas | hfillable
  · exact Or.inl (hhas.grow hgrows)
  · refine Or.inr (hfillable.grow hgrows fun delta ⟨other, _, hwallet, hmem⟩ hsame => ?_)
    have hdelta := (RawTransaction.key_of_mem hmem).1
    exact absurd (hsame.symm.trans (hdelta.trans hwallet)) hother

lemma has_of_isNone (h : row.rawTransactionData.isSome ≠ true) : ledger.Has row := by
  have hnone : row.rawTransactionData = none := by simpa using h
  intro delta hdelta
  simp [RawTransaction.deltas, cachedRowToTransaction, hnone] at hdelta

lemma Faithful.backfill_cases (h : ledger.Faithful) (walletAddress : String)
    (answers : BackfillAnswers) :
    ((ledger.backfillSubjectDeltas walletAddress answers).2 = ledger ∧
        ∀ count, (ledger.backfillSubjectDeltas walletAddress answers).1 = .ok count →
          ledger.Backfilled) ∨
      (ledger.Grows (ledger.backfillSubjectDeltas walletAddress answers).2
          (ledger.OfWallet walletAddress) ∧ ¬ledger.Backfilled ∧
        ∀ count, (ledger.backfillSubjectDeltas walletAddress answers).1 ≠ .ok count) ∨
      (¬ledger.Backfilled ∧ answers.marked = some (.ok ()) ∧ ∃ stored,
        ledger.Grows stored (ledger.OfWallet walletAddress) ∧
          (ledger.backfillSubjectDeltas walletAddress answers).2 =
            { stored with backfillVersion := some (toString subjectDeltasVersion) } ∧
          ((∀ page ∈ answers.pages, page.Whole) → ∀ row ∈ ledger.rawTransactions,
            row.walletAddress = walletAddress → stored.Has row)) := by
  unfold backfillSubjectDeltas
  split
  case h_1 failure hversion => exact Or.inl ⟨rfl, fun _ hok => by cases hok⟩
  case h_2 hversion =>
    split
    case isTrue hdone => exact Or.inl ⟨rfl, fun _ _ => hdone⟩
    case isFalse hnot =>
      obtain ⟨hgrows, hhas⟩ := h.backfill walletAddress answers.pages 0 0
      split
      case h_1 total stored hpages =>
        rw [hpages] at hgrows hhas
        cases hmarked : answers.marked with
        | none => exact Or.inr (Or.inl ⟨hgrows, hnot, fun _ hok => by cases hok⟩)
        | some marked =>
          cases marked with
          | error failure => exact Or.inr (Or.inl ⟨hgrows, hnot, fun _ hok => by cases hok⟩)
          | ok _ =>
            refine Or.inr (Or.inr ⟨hnot, rfl, stored, hgrows, rfl, ?_⟩)
            intro hwhole row hrow hwallet
            by_cases hsome : row.rawTransactionData.isSome = true
            · exact hhas hwhole total rfl row (mem_cachedRows.mpr ⟨hrow, hwallet, hsome⟩)
            · exact has_of_isNone hsome
      case h_2 hpages =>
        refine Or.inr (Or.inl ⟨hgrows, hnot, fun count hok => ?_⟩)
        exact hpages count _ (Prod.ext hok rfl)

lemma drawn_of_ofWallet {delta : SubjectAssetDelta} (h : ledger.OfWallet walletAddress delta) :
    ∃ row ∈ ledger.rawTransactions, delta ∈ row.deltas :=
  let ⟨row, hrow, _, hmem⟩ := h
  ⟨row, hrow, hmem⟩

lemma Sound.backfill (h : ledger.Sound) (walletAddress : String) (answers : BackfillAnswers)
    (hcareful : ledger.Careful (.backfilled walletAddress answers)) :
    (ledger.backfillSubjectDeltas walletAddress answers).2.Sound := by
  rcases h.toFaithful.backfill_cases walletAddress answers with
    ⟨hsame, -⟩ | ⟨hgrows, hnot, -⟩ | ⟨hnot, hmarked, stored, hgrows, hafter, hhas⟩
  · rwa [hsame]
  · refine ⟨h.toFaithful.grow hgrows fun delta => drawn_of_ofWallet, fun hdone => ?_⟩
    exact absurd (hgrows.version.symm.trans hdone) hnot
  · obtain ⟨hwhole, hothers⟩ := hcareful hnot hmarked
    have hfaithful := h.toFaithful.grow hgrows fun delta => drawn_of_ofWallet
    rw [hafter]
    refine ⟨⟨hfaithful.keyed, hfaithful.storable, hfaithful.drawn⟩, fun _ row hrow => ?_⟩
    have hraw : row ∈ ledger.rawTransactions := hgrows.raw ▸ hrow
    by_cases hwallet : row.walletAddress = walletAddress
    · exact Or.inl (hhas hwhole row hraw hwallet)
    · have hsettled := settled_of_other hgrows hwallet (hothers row hraw hwallet)
      exact hsettled

/-! ## Gap fills -/

variable {answers : GapAnswers}

lemma Sound.has_of_filled (h : ledger.Sound) (hdone : ledger.Backfilled)
    (hwhole : ∀ page ∈ answers.pages, page.Whole) {found : ℕ}
    (hok : (ledger.fillSubjectDeltaGaps walletAddress answers).1 = .ok found) :
    ∀ row ∈ ledger.rawTransactions, row.walletAddress = walletAddress →
      (ledger.fillSubjectDeltaGaps walletAddress answers).2.Has row := by
  intro row hrow hwallet
  unfold fillSubjectDeltaGaps at hok ⊢
  split at hok
  case h_1 failure hwatermark => cases hok
  case h_2 hwatermark =>
    have hfill : ledger.Grows (gapPages walletAddress (ledger.watermark walletAddress)
        answers.pages ledger "" 0).2 _ ∧ _ := h.toFaithful.fill answers.pages 0
    obtain ⟨hgrows, hhas⟩ := hfill
    rcases h.settled hdone row hrow with hrow' | ⟨hbare, hslot⟩
    · exact hrow'.grow hgrows
    by_cases hsome : row.rawTransactionData.isSome = true
    · refine hhas hwhole found hok row (mem_gapRows.mpr ⟨hrow, isGap_iff.mpr ?_⟩)
      exact ⟨hwallet, hsome, hwallet ▸ hslot, (h.storable row hrow).named, hbare⟩
    · exact has_of_isNone hsome

lemma fill_of_short {watermark : ℕ}
    (hshort : (ledger.gapRows walletAddress watermark "").length < backfillBatchSize)
    (pages : List PageAnswer) :
    (∃ found, (gapPages walletAddress watermark pages ledger "" 0).1 = .ok found) ∨
      (gapPages walletAddress watermark pages ledger "" 0).2 = ledger := by
  cases pages with
  | nil => exact Or.inr rfl
  | cons page pages =>
    cases page with
    | unread failure => exact Or.inr rfl
    | read written =>
      unfold gapPages
      dsimp only
      split
      case h_1 hnone => exact Or.inl ⟨_, rfl⟩
      case h_2 last hlast =>
        split
        case h_1 error stored hstored =>
          have hsame := ledger.eq_of_storeSubjectDeltas_error
            (congrArg Prod.fst hstored)
          rw [hstored] at hsame
          exact Or.inr hsame
        case h_2 stored hstored =>
          rw [if_pos (lt_of_le_of_lt (List.length_take_le' _ _) hshort)]
          exact Or.inl ⟨_, rfl⟩

lemma Faithful.fill_or_nothing (h : ledger.Faithful) (huntorn : ledger.Untorn walletAddress answers) :
    (∃ found, (ledger.fillSubjectDeltaGaps walletAddress answers).1 = .ok found) ∨
      (ledger.fillSubjectDeltaGaps walletAddress answers).2 = ledger := by
  unfold fillSubjectDeltaGaps
  split
  case h_1 failure hwatermark => exact Or.inr rfl
  case h_2 hwatermark =>
    rcases huntorn.2 with hshort | ⟨hthrough, henough⟩
    · exact fill_of_short hshort answers.pages
    · exact Or.inl (h.fill_returns hthrough henough 0)

lemma Faithful.fill_grows (h : ledger.Faithful) (walletAddress : String) (answers : GapAnswers) :
    ledger.Grows (ledger.fillSubjectDeltaGaps walletAddress answers).2
      (ledger.OfWallet walletAddress) := by
  unfold fillSubjectDeltaGaps
  split
  case h_1 failure hwatermark => exact Grows.refl _
  case h_2 hwatermark => exact (h.fill answers.pages 0).1

lemma Sound.fill (h : ledger.Sound) (walletAddress : String) (answers : GapAnswers)
    (hcareful : ledger.Careful (.filled walletAddress answers)) :
    (ledger.fillSubjectDeltaGaps walletAddress answers).2.Sound := by
  have hgrows := h.toFaithful.fill_grows walletAddress answers
  refine ⟨h.toFaithful.grow hgrows fun delta => drawn_of_ofWallet, fun hdone row hrow => ?_⟩
  have hraw : row ∈ ledger.rawTransactions := hgrows.raw ▸ hrow
  have hbefore : ledger.Backfilled := hgrows.version.symm.trans hdone
  by_cases hwallet : row.walletAddress = walletAddress
  · rcases h.toFaithful.fill_or_nothing (hcareful hbefore) with ⟨found, hok⟩ | hsame
    · exact Or.inl (h.has_of_filled hbefore (hcareful hbefore).1 hok row hraw hwallet)
    · rw [hsame]
      exact h.settled hbefore row hraw
  · exact settled_of_other hgrows hwallet (h.settled hbefore row hraw)

/-! ## Recordings -/

variable {other : RawTransaction}

lemma mem_storeRawTransaction
    (hsame : ∀ stored ∈ ledger.rawTransactions, stored.SameKey row → stored = row) :
    other ∈ (ledger.storeRawTransaction row).rawTransactions ↔
      other ∈ ledger.rawTransactions ∨ other = row := by
  simp only [storeRawTransaction, List.mem_append, List.mem_filter, List.mem_singleton,
    decide_eq_true_eq]
  constructor
  · rintro (⟨hother, -⟩ | hother)
    · exact Or.inl hother
    · exact Or.inr hother
  · rintro (hother | hother)
    · by_cases hkey : other.SameKey row
      · exact Or.inr (hsame other hother hkey)
      · exact Or.inl ⟨hother, hkey⟩
    · exact Or.inr hother

lemma settled_congr (hdeltas : after.subjectAssetDeltas = ledger.subjectAssetDeltas) :
    (after.Has row ∨ after.Fillable row) ↔ (ledger.Has row ∨ ledger.Fillable row) := by
  unfold Has Fillable HasRow watermark
  rw [hdeltas]

lemma Faithful.not_hasRow (h : ledger.Faithful)
    (hsame : ∀ stored ∈ ledger.rawTransactions, stored.SameKey row → stored = row)
    (hrow : row ∉ ledger.rawTransactions) : ¬ledger.HasRow row := by
  rintro ⟨delta, hdelta, hwallet, hsignature⟩
  obtain ⟨other, hother, hmem⟩ := h.drawn delta hdelta
  obtain ⟨hwallet', hsignature'⟩ := RawTransaction.key_of_mem hmem
  have heq := hsame other hother ⟨hwallet'.symm.trans hwallet, hsignature'.symm.trans hsignature⟩
  exact hrow (heq ▸ hother)

lemma record_eq (row : RawTransaction) (cached : Bool) (written : Option Written) :
    ledger.record row cached written =
      match written with
      | some written => ((if cached then ledger.storeRawTransaction row else ledger).storeSubjectDeltas
          row.deltas written).2
      | none => if cached then ledger.storeRawTransaction row else ledger := by
  cases written <;> rfl

lemma Faithful.cache (h : ledger.Faithful) (hstorable : row.Storable)
    (hsame : ∀ stored ∈ ledger.rawTransactions, stored.SameKey row → stored = row) :
    (ledger.storeRawTransaction row).Faithful where
  keyed := by
    intro first hfirst second hsecond hkey
    rcases (mem_storeRawTransaction hsame).mp hfirst with hold | hnew
    · rcases (mem_storeRawTransaction hsame).mp hsecond with hold' | hnew'
      · exact h.keyed first hold second hold' hkey
      · rw [hnew'] at hkey ⊢
        exact hsame first hold hkey
    · rcases (mem_storeRawTransaction hsame).mp hsecond with hold' | hnew'
      · rw [hnew] at hkey ⊢
        exact (hsame second hold' ⟨hkey.1.symm, hkey.2.symm⟩).symm
      · rw [hnew, hnew']
  storable := by
    intro other hother
    rcases (mem_storeRawTransaction hsame).mp hother with hother | rfl
    · exact h.storable other hother
    · exact hstorable
  drawn := by
    intro delta hdelta
    obtain ⟨other, hother, hmem⟩ := h.drawn delta hdelta
    exact ⟨other, (mem_storeRawTransaction hsame).mpr (Or.inl hother), hmem⟩

lemma settled_of_written (hgrows : ledger.Grows after (· ∈ row.deltas)) (hkey : ¬other.SameKey row)
    (habove : other.walletAddress = row.walletAddress → ledger.Has other ∨
      ∀ slot, other.slot = some slot → ∀ delta ∈ row.deltas, ((delta.slot.getD 0 : ℕ) : ℤ) ≤ slot)
    (h : ledger.Has other ∨ ledger.Fillable other) : after.Has other ∨ after.Fillable other := by
  rcases h with hhas | hfillable
  · exact Or.inl (hhas.grow hgrows)
  by_cases hwallet : other.walletAddress = row.walletAddress
  · rcases habove hwallet with hhas | hslots
    · exact Or.inl (hhas.grow hgrows)
    · refine Or.inr (hfillable.grow hgrows fun delta hdelta _ => ⟨fun hsame => ?_, ?_⟩)
      · exact hkey ⟨hwallet, hsame.symm.trans (RawTransaction.key_of_mem hdelta).2⟩
      · exact fun slot hslot => hslots slot hslot delta hdelta
  · refine Or.inr (hfillable.grow hgrows fun delta hdelta hsame => ?_)
    exact absurd (hsame.symm.trans (RawTransaction.key_of_mem hdelta).1) hwallet

lemma Sound.record (h : ledger.Sound) (row : RawTransaction) (cached : Bool)
    (written : Option Written) (hcareful : ledger.Careful (.recorded row cached written)) :
    (ledger.record row cached written).Sound := by
  obtain ⟨hstorable, hsame, hreply, hplaced⟩ := hcareful
  -- the tables once the reply is cached
  obtain ⟨middle, hmiddle⟩ : ∃ middle, middle =
    if cached then ledger.storeRawTransaction row else ledger := ⟨_, rfl⟩
  have hdeltas : middle.subjectAssetDeltas = ledger.subjectAssetDeltas := by
    rw [hmiddle]
    split <;> rfl
  have hversion : middle.backfillVersion = ledger.backfillVersion := by
    rw [hmiddle]
    split <;> rfl
  have hmem : ∀ other ∈ middle.rawTransactions, other ∈ ledger.rawTransactions ∨ other = row := by
    intro other hother
    rw [hmiddle] at hother
    split at hother
    · exact (mem_storeRawTransaction hsame).mp hother
    · exact Or.inl hother
  have hfaithful : middle.Faithful := by
    rw [hmiddle]
    split
    · exact h.toFaithful.cache hstorable hsame
    · exact h.toFaithful
  -- without its rows the transaction is settled where it is
  have hunwritten : (ledger.Backfilled → row ∈ ledger.rawTransactions ∨ ∀ slot,
      row.slot = some slot → (ledger.watermark row.walletAddress : ℤ) ≤ slot) → middle.Sound := by
    refine fun hslot => ⟨hfaithful, fun hdone other hother => (settled_congr hdeltas).mpr ?_⟩
    have hbefore : ledger.Backfilled := hversion.symm.trans hdone
    rcases hmem other hother with hold | rfl
    · exact h.settled hbefore other hold
    · by_cases hold : other ∈ ledger.rawTransactions
      · exact h.settled hbefore other hold
      · refine Or.inr ⟨h.toFaithful.not_hasRow hsame hold, ?_⟩
        exact (hslot hbefore).resolve_left hold
  rw [record_eq, ← hmiddle]
  cases written with
  | none => exact hunwritten hplaced
  | some written =>
    cases written with
    | failed detail =>
      have hnothing : (middle.storeSubjectDeltas row.deltas (.failed detail)).2 = middle := by
        unfold storeSubjectDeltas
        split <;> rfl
      show (middle.storeSubjectDeltas row.deltas (.failed detail)).2.Sound
      rw [hnothing]
      exact hunwritten hplaced
    | stored skipped =>
      have hrow : row ∈ middle.rawTransactions := by
        rw [hmiddle]
        rcases hreply with hcached | hold | hnone
        · rw [hcached]
          exact (mem_storeRawTransaction hsame).mpr (Or.inr rfl)
        · split
          · exact (mem_storeRawTransaction hsame).mpr (Or.inl hold)
          · exact hold
        · cases hnone
      obtain ⟨hgrows, hadded⟩ := hfaithful.store (fun delta hdelta => ⟨row, hrow, hdelta⟩)
        (.stored skipped)
      refine ⟨hfaithful.grow hgrows fun delta hdelta => ⟨row, hrow, hdelta⟩, ?_⟩
      intro hdone other hother
      have hbefore : ledger.Backfilled :=
        hversion.symm.trans (hgrows.version.symm.trans hdone)
      obtain ⟨hskipped, habove⟩ := hplaced hbefore
      by_cases hnew : other = row
      · rw [hnew]
        exact Or.inl fun delta hdelta => hadded skipped rfl delta hdelta (hskipped delta hdelta)
      · have hold : other ∈ ledger.rawTransactions :=
          (hmem other (hgrows.raw ▸ hother)).resolve_right hnew
        refine settled_of_written hgrows (fun hkey => hnew (hsame other hold hkey)) ?_
          ((settled_congr hdeltas).mpr (h.settled hbefore other hold))
        intro hwallet
        unfold Has
        rw [hdeltas]
        exact habove other hold hwallet hnew

/-! ## Runs -/

lemma Sound.step (h : ledger.Sound) (event : LedgerEvent) (hcareful : ledger.Careful event) :
    (ledger.step event).Sound := by
  cases event with
  | recorded row cached written => exact h.record row cached written hcareful
  | backfilled walletAddress answers => exact h.backfill walletAddress answers hcareful
  | filled walletAddress answers => exact h.fill walletAddress answers hcareful

lemma sound_empty : empty.Sound := by
  refine ⟨⟨?_, ?_, ?_⟩, ?_⟩ <;> simp [empty]

lemma version_storeSubjectDeltas (deltas : List SubjectAssetDelta) (written : Written) :
    (ledger.storeSubjectDeltas deltas written).2.backfillVersion = ledger.backfillVersion := by
  unfold storeSubjectDeltas
  split
  · rfl
  · cases written <;> rfl

lemma version_record (row : RawTransaction) (cached : Bool) (written : Option Written) :
    (ledger.record row cached written).backfillVersion = ledger.backfillVersion := by
  rw [record_eq]
  cases written with
  | none =>
    show (if cached then ledger.storeRawTransaction row else ledger).backfillVersion = _
    split <;> rfl
  | some written =>
    refine (version_storeSubjectDeltas row.deltas written).trans ?_
    split <;> rfl

lemma Sound.backfilled_of_ok (h : ledger.Sound) {answers : BackfillAnswers} {written : ℕ}
    (hok : (ledger.backfillSubjectDeltas walletAddress answers).1 = .ok written) :
    (ledger.backfillSubjectDeltas walletAddress answers).2.Backfilled := by
  rcases h.toFaithful.backfill_cases walletAddress answers with
    ⟨hsame, hdone⟩ | ⟨-, -, hnot⟩ | ⟨-, -, stored, -, hafter, -⟩
  · rw [hsame]
    exact hdone written hok
  · exact absurd hok (hnot written)
  · rw [hafter]
    rfl

lemma Sound.backfilled_step (h : ledger.Sound) (hdone : ledger.Backfilled) (event : LedgerEvent) :
    (ledger.step event).Backfilled := by
  cases event with
  | recorded row cached written =>
    exact (version_record row cached written).trans hdone
  | backfilled walletAddress answers =>
    rcases h.toFaithful.backfill_cases walletAddress answers with
      ⟨hsame, -⟩ | ⟨-, hnot, -⟩ | ⟨hnot, -⟩
    · show (ledger.backfillSubjectDeltas walletAddress answers).2.Backfilled
      rwa [hsame]
    · exact absurd hdone hnot
    · exact absurd hdone hnot
  | filled walletAddress answers =>
    exact (h.toFaithful.fill_grows walletAddress answers).version.trans hdone

lemma Faithful.complete (h : ledger.Faithful)
    (hhas : ∀ row ∈ ledger.rawTransactions, row.walletAddress = walletAddress → ledger.Has row) :
    ledger.Complete walletAddress := by
  intro delta
  constructor
  · rintro ⟨hdelta, hwallet⟩
    obtain ⟨row, hrow, hmem⟩ := h.drawn delta hdelta
    exact ⟨row, hrow, (RawTransaction.key_of_mem hmem).1.symm.trans hwallet, hmem⟩
  · rintro ⟨row, hrow, hwallet, hmem⟩
    exact ⟨hhas row hrow hwallet delta hmem, (RawTransaction.key_of_mem hmem).1.trans hwallet⟩

end DeltaLedger

/-- **The delta ledger is the whole history** of a wallet once a backfill and then a gap fill of it
have returned, when every step was careful. -/
theorem complete_of_careful (before between : List LedgerEvent) (walletAddress : String)
    (backfill : BackfillAnswers) (fill : GapAnswers) (written found : ℕ)
    (hcareful : Throughout DeltaLedger.step DeltaLedger.Careful .empty
      (before ++ LedgerEvent.backfilled walletAddress backfill :: between ++
        [LedgerEvent.filled walletAddress fill]))
    (hbackfill : ((before.foldl DeltaLedger.step .empty).backfillSubjectDeltas walletAddress
      backfill).1 = .ok written)
    (hfill : (((before ++ LedgerEvent.backfilled walletAddress backfill :: between).foldl
      DeltaLedger.step .empty).fillSubjectDeltaGaps walletAddress fill).1 = .ok found) :
    ((before ++ LedgerEvent.backfilled walletAddress backfill :: between ++
      [LedgerEvent.filled walletAddress fill]).foldl DeltaLedger.step .empty).Complete
        walletAddress := by
  obtain ⟨hruns, hlast⟩ := throughout_append.mp hcareful
  obtain ⟨hbefore, hbackfilled, hbetween⟩ := throughout_append.mp hruns
  have hsound : (before.foldl DeltaLedger.step .empty).Sound :=
    hbefore.final DeltaLedger.Sound DeltaLedger.sound_empty fun _ h event _ => h.step event
  have hmiddle := hbetween.final (fun ledger => ledger.Sound ∧ ledger.Backfilled)
    ⟨hsound.step _ hbackfilled, hsound.backfilled_of_ok hbackfill⟩
    fun _ h event _ hevent => ⟨h.1.step event hevent, h.1.backfilled_step h.2 event⟩
  have hrun : (before ++ LedgerEvent.backfilled walletAddress backfill :: between).foldl
      DeltaLedger.step .empty = between.foldl DeltaLedger.step
        ((before.foldl DeltaLedger.step .empty).step (.backfilled walletAddress backfill)) := by
    rw [List.foldl_append]
    rfl
  rw [hrun] at hlast hfill
  rw [List.foldl_append, hrun]
  have hraw := (hmiddle.1.toFaithful.fill_grows walletAddress fill).raw
  refine (hmiddle.1.fill walletAddress fill hlast.1).toFaithful.complete fun row hrow => ?_
  exact hmiddle.1.has_of_filled hmiddle.2 (hlast.1 hmiddle.2).1 hfill row (hraw ▸ hrow)

/-- The bot's own wallet. -/
def ownWallet : String := "6uodGCMLfDLfeXkyW71WpUDK1BEG19bU2EV51x2dcGMv"

/-- A transaction in which the wallet received 1 SOL. -/
def received (signature : String) (slot : ℕ) : RawTransaction where
  walletAddress := ownWallet
  signature := signature
  slot := some slot
  blockTime := some (slot * 100)
  success := true
  rawTransactionData := some (.json
    { details := some
        { slot := slot, blockTime := some (slot * 100), accountKeys := [ownWallet], programIds := []
          metadata := some
            { preBalances := [0], postBalances := [1000000000], preTokenBalances := none
              postTokenBalances := none, fee := 5000 } }
      transactionIndex := none })

/-- A pass that reads one page, and whose rows are all written. -/
def onePage : List PageAnswer := [.read (.stored [])]

/-- A backfill that is done. -/
def wholeBackfill : BackfillAnswers := ⟨.ok (), onePage, some (.ok ())⟩

/-- A gap fill that is done. -/
def wholeFill : GapAnswers := ⟨.ok (), onePage⟩

/-- A transaction that is recorded with its row, and the passes. -/
def recordedRun : List LedgerEvent := [.recorded (received "first" 10) true (some (.stored []))]

lemma storable_received : (received "first" 10).Storable := by
  refine ⟨by decide, ?_, by decide⟩
  intro transaction htransaction
  injection htransaction with htransaction
  rw [← htransaction]
  decide

theorem complete_of_careful_recordedRun :
    ((recordedRun ++ LedgerEvent.backfilled ownWallet wholeBackfill :: [] ++
      [LedgerEvent.filled ownWallet wholeFill]).foldl DeltaLedger.step .empty).Complete ownWallet := by
  refine complete_of_careful recordedRun [] ownWallet wholeBackfill wholeFill 1 0 ?_ (by decide)
    (by decide)
  refine ⟨⟨storable_received, fun _ h => ?_, Or.inl rfl, fun h => ?_⟩, ?_, ?_, trivial⟩
  · cases h
  · cases h
  · refine fun _ _ => ⟨fun page hpage => ?_, fun row hrow hother => ?_⟩
    · rw [List.mem_singleton.mp hpage]
      rfl
    · have hone : row = received "first" 10 := List.mem_singleton.mp hrow
      exact absurd (congrArg RawTransaction.walletAddress hone) hother
  · refine fun _ => ⟨fun page hpage => ?_, Or.inl (by decide)⟩
    rw [List.mem_singleton.mp hpage]
    rfl

/-- The process stops before the row of a transaction is written; that of a later one is. -/
def overlookedRun : List LedgerEvent :=
  [.backfilled ownWallet wholeBackfill,
    .recorded (received "first" 10) true none,
    .recorded (received "second" 20) true (some (.stored []))]

/-- **A transaction is left out**: both passes return, and the row of the first transaction, below
the newest stored slot, is not there. -/
theorem not_complete :
    (DeltaLedger.empty.backfillSubjectDeltas ownWallet wholeBackfill).1 = .ok 0 ∧
      ((overlookedRun.foldl DeltaLedger.step .empty).fillSubjectDeltaGaps ownWallet wholeFill).1 =
        .ok 0 ∧
      ¬((overlookedRun ++ [LedgerEvent.filled ownWallet wholeFill]).foldl DeltaLedger.step
        .empty).Complete ownWallet := by
  refine ⟨by decide, by decide, fun h => ?_⟩
  have hfirst : ∀ delta ∈ (received "first" 10).deltas, delta ∈
      ((overlookedRun ++ [LedgerEvent.filled ownWallet wholeFill]).foldl DeltaLedger.step
        .empty).subjectAssetDeltas := fun delta hdelta =>
    ((h delta).mpr ⟨received "first" 10, by decide, rfl, hdelta⟩).1
  revert hfirst
  decide

end Dripline.Transactions
