import Dripline.Transactions.DeltaStore

/-!
# What the passes over the delta ledger do
-/

namespace Dripline.Transactions

open Dripline.Chain Dripline.Found.Pages List

/-- The rows of a transaction are stored as they were extracted, each under its own mint. -/
structure RawTransaction.Storable (row : RawTransaction) : Prop where
  named : "" < row.signature
  mints : ∀ transaction, cachedRowToTransaction row = some transaction →
    nativeSolSentinel ∉ transaction.ownedMints row.walletAddress
  fits : ∀ delta ∈ row.deltas, delta.toRow = some delta

variable {delta : SubjectAssetDelta} {row : RawTransaction}

lemma RawTransaction.key_of_mem (h : delta ∈ row.deltas) :
    delta.walletAddress = row.walletAddress ∧ delta.signature = row.signature := by
  unfold RawTransaction.deltas cachedRowToTransaction at h
  split at h
  · exact extract_key h
  · cases h

lemma RawTransaction.Storable.eq_of_mint (hrow : row.Storable) {other : SubjectAssetDelta}
    (hdelta : delta ∈ row.deltas) (hother : other ∈ row.deltas) (hmint : delta.mint = other.mint) :
    delta = other := by
  unfold RawTransaction.deltas at hdelta hother
  cases htransaction : cachedRowToTransaction row with
  | none =>
    rw [htransaction] at hdelta
    cases hdelta
  | some transaction =>
    rw [htransaction] at hdelta hother
    exact inj_on_of_nodup_map (nodup_mints_extract (hrow.mints transaction htransaction))
      hdelta hother hmint

namespace DeltaLedger

variable (ledger : DeltaLedger)

/-- A transaction has all its rows. -/
def Has (row : RawTransaction) : Prop := ∀ delta ∈ row.deltas, delta ∈ ledger.subjectAssetDeltas

/-- A transaction is cached once, its rows can be stored, and a stored row is of a cached
transaction. -/
structure Faithful : Prop where
  keyed : ∀ row ∈ ledger.rawTransactions, ∀ other ∈ ledger.rawTransactions,
    row.SameKey other → row = other
  storable : ∀ row ∈ ledger.rawTransactions, row.Storable
  drawn : ∀ delta ∈ ledger.subjectAssetDeltas, ∃ row ∈ ledger.rawTransactions, delta ∈ row.deltas

/-- What a pass over a wallet does to the tables: rows from a source are added. -/
structure Grows (after : DeltaLedger) (source : SubjectAssetDelta → Prop) : Prop where
  raw : after.rawTransactions = ledger.rawTransactions
  version : after.backfillVersion = ledger.backfillVersion
  kept : ∀ delta ∈ ledger.subjectAssetDeltas, delta ∈ after.subjectAssetDeltas
  added : ∀ delta ∈ after.subjectAssetDeltas, delta ∈ ledger.subjectAssetDeltas ∨ source delta

variable {ledger}

/-! ## The tables -/

variable {row : RawTransaction} {delta : SubjectAssetDelta}

lemma Faithful.eq_of_sameKey (h : ledger.Faithful) {other : RawTransaction}
    (hrow : row ∈ ledger.rawTransactions) (hother : other ∈ ledger.rawTransactions)
    {delta' : SubjectAssetDelta} (hdelta : delta ∈ row.deltas) (hdelta' : delta' ∈ other.deltas)
    (hsame : delta.SameKey delta') : delta = delta' := by
  have hkey := RawTransaction.key_of_mem hdelta
  have hkey' := RawTransaction.key_of_mem hdelta'
  have heq : row = other := h.keyed row hrow other hother
    ⟨hkey.1.symm.trans (hsame.1.trans hkey'.1), hkey.2.symm.trans (hsame.2.1.trans hkey'.2)⟩
  subst heq
  exact (h.storable row hrow).eq_of_mint hdelta hdelta' hsame.2.2

variable {skipped : List (String × String)} {rows : List SubjectAssetDelta} {d : SubjectAssetDelta}

lemma mem_insertSubjectDelta (hfits : delta.toRow = some delta)
    (hunique : ∀ stored ∈ rows, stored.SameKey delta → stored = delta) :
    d ∈ insertSubjectDelta skipped rows delta ↔
      d ∈ rows ∨ (d = delta ∧ (delta.signature, delta.mint) ∉ skipped) := by
  unfold insertSubjectDelta
  split_ifs with hskip
  · simp [hskip]
  · rw [hfits]
    simp only [mem_append, mem_filter, mem_singleton, decide_eq_true_eq, hskip,
      not_false_eq_true, and_true]
    constructor
    · rintro (⟨hd, -⟩ | hd)
      · exact Or.inl hd
      · exact Or.inr hd
    · rintro (hd | hd)
      · by_cases hsame : d.SameKey delta
        · exact Or.inr (hunique d hd hsame)
        · exact Or.inl ⟨hd, hsame⟩
      · exact Or.inr hd

variable {deltas : List SubjectAssetDelta}

lemma mem_foldl_insert (hfits : ∀ delta ∈ deltas, delta.toRow = some delta)
    (hunique : ∀ stored ∈ rows ++ deltas, ∀ delta ∈ deltas, stored.SameKey delta → stored = delta) :
    d ∈ deltas.foldl (insertSubjectDelta skipped) rows ↔
      d ∈ rows ∨ (d ∈ deltas ∧ (d.signature, d.mint) ∉ skipped) := by
  induction deltas generalizing rows with
  | nil => simp
  | cons delta deltas ih =>
    have hone : ∀ {d}, d ∈ insertSubjectDelta skipped rows delta ↔
        d ∈ rows ∨ (d = delta ∧ (delta.signature, delta.mint) ∉ skipped) :=
      mem_insertSubjectDelta (hfits delta mem_cons_self) fun stored hstored =>
        hunique stored (mem_append_left _ hstored) delta mem_cons_self
    rw [foldl_cons, ih (fun d hd => hfits d (mem_cons_of_mem _ hd)), hone]
    · constructor
      · rintro ((hd | ⟨rfl, hskip⟩) | ⟨hd, hskip⟩)
        · exact Or.inl hd
        · exact Or.inr ⟨mem_cons_self, hskip⟩
        · exact Or.inr ⟨mem_cons_of_mem _ hd, hskip⟩
      · rintro (hd | ⟨hd, hskip⟩)
        · exact Or.inl (Or.inl hd)
        · rcases mem_cons.mp hd with rfl | hd
          · exact Or.inl (Or.inr ⟨rfl, hskip⟩)
          · exact Or.inr ⟨hd, hskip⟩
    · intro stored hstored other hother
      refine hunique stored ?_ other (mem_cons_of_mem _ hother)
      rcases mem_append.mp hstored with hstored | hstored
      · rcases hone.mp hstored with hstored | ⟨rfl, -⟩
        · exact mem_append_left _ hstored
        · exact mem_append_right _ mem_cons_self
      · exact mem_append_right _ (mem_cons_of_mem _ hstored)

/-! ## Growing -/

lemma Grows.refl (source : SubjectAssetDelta → Prop) : ledger.Grows ledger source :=
  ⟨rfl, rfl, fun _ h => h, fun _ h => Or.inl h⟩

variable {after : DeltaLedger}

lemma Grows.trans {source : SubjectAssetDelta → Prop} {middle : DeltaLedger}
    (h : ledger.Grows middle source) (h' : middle.Grows after source) :
    ledger.Grows after source where
  raw := h'.raw.trans h.raw
  version := h'.version.trans h.version
  kept := fun delta hdelta => h'.kept delta (h.kept delta hdelta)
  added := fun delta hdelta => (h'.added delta hdelta).elim (h.added delta) Or.inr

lemma Grows.imp {source source' : SubjectAssetDelta → Prop} (h : ledger.Grows after source)
    (himp : ∀ delta, source delta → source' delta) : ledger.Grows after source' :=
  ⟨h.raw, h.version, h.kept, fun delta hdelta => (h.added delta hdelta).imp_right (himp delta)⟩

lemma Has.grow {source : SubjectAssetDelta → Prop} (h : ledger.Has row)
    (hgrows : ledger.Grows after source) : after.Has row :=
  fun delta hdelta => hgrows.kept delta (h delta hdelta)

lemma Faithful.grow {source : SubjectAssetDelta → Prop} (h : ledger.Faithful)
    (hgrows : ledger.Grows after source)
    (hsource : ∀ delta, source delta → ∃ row ∈ ledger.rawTransactions, delta ∈ row.deltas) :
    after.Faithful where
  keyed := hgrows.raw ▸ h.keyed
  storable := hgrows.raw ▸ h.storable
  drawn := by
    intro delta hdelta
    rw [hgrows.raw]
    exact (hgrows.added delta hdelta).elim (h.drawn delta) (hsource delta)

lemma Faithful.store (h : ledger.Faithful)
    (hdeltas : ∀ delta ∈ deltas, ∃ row ∈ ledger.rawTransactions, delta ∈ row.deltas)
    (written : Written) :
    ledger.Grows (ledger.storeSubjectDeltas deltas written).2 (· ∈ deltas) ∧
      ∀ skipped, written = .stored skipped → ∀ delta ∈ deltas,
        (delta.signature, delta.mint) ∉ skipped →
          delta ∈ (ledger.storeSubjectDeltas deltas written).2.subjectAssetDeltas := by
  unfold storeSubjectDeltas
  split_ifs with hempty
  · refine ⟨Grows.refl _, fun _ _ delta hdelta => ?_⟩
    rw [isEmpty_iff.mp hempty] at hdelta
    cases hdelta
  cases written with
  | failed detail => exact ⟨Grows.refl _, fun skipped hwritten => by cases hwritten⟩
  | stored skipped =>
    have hmem : ∀ {d}, d ∈ deltas.foldl (insertSubjectDelta skipped) ledger.subjectAssetDeltas ↔
        d ∈ ledger.subjectAssetDeltas ∨ (d ∈ deltas ∧ (d.signature, d.mint) ∉ skipped) := by
      refine mem_foldl_insert ?_ ?_
      · intro delta hdelta
        obtain ⟨row, hrow, hmem⟩ := hdeltas delta hdelta
        exact (h.storable row hrow).fits delta hmem
      · intro stored hstored delta hdelta hsame
        have hdrawn : ∃ row ∈ ledger.rawTransactions, stored ∈ row.deltas :=
          (mem_append.mp hstored).elim (h.drawn stored) (hdeltas stored)
        obtain ⟨row, hrow, hmem⟩ := hdrawn
        obtain ⟨row', hrow', hmem'⟩ := hdeltas delta hdelta
        exact h.eq_of_sameKey hrow hrow' hmem hmem' hsame
    refine ⟨⟨rfl, rfl, fun delta hdelta => hmem.mpr (Or.inl hdelta), fun delta hdelta => ?_⟩, ?_⟩
    · exact (hmem.mp hdelta).imp_right And.left
    · intro skipped' hwritten delta hdelta hskip
      injection hwritten with hwritten
      exact hmem.mpr (Or.inr ⟨hdelta, hwritten ▸ hskip⟩)

/-! ## Pages -/

end DeltaLedger

/-- No insert of the batch is skipped. -/
def Written.Whole : Written → Prop
  | .failed _ => True
  | .stored skipped => skipped = []

/-- No insert of the page is skipped. -/
def PageAnswer.Whole : PageAnswer → Prop
  | .unread _ => True
  | .read written => written.Whole

/-- The page is read, and all its rows are written. -/
def PageAnswer.Through (page : PageAnswer) : Prop := page = .read (.stored [])

namespace DeltaLedger

variable {ledger : DeltaLedger}

lemma Faithful.store_page (h : ledger.Faithful) {batch : List RawTransaction}
    (hbatch : ∀ row ∈ batch, row ∈ ledger.rawTransactions) (written : Written) :
    ledger.Grows (ledger.storeSubjectDeltas (batch.flatMap (·.deltas)) written).2
        (fun delta => ∃ row ∈ batch, delta ∈ row.deltas) ∧
      (written.Whole →
        (ledger.storeSubjectDeltas (batch.flatMap (·.deltas)) written).1 = .ok () →
        ∀ row ∈ batch,
          (ledger.storeSubjectDeltas (batch.flatMap (·.deltas)) written).2.Has row) := by
  have hdrawn : ∀ delta ∈ batch.flatMap (·.deltas), ∃ row ∈ ledger.rawTransactions,
      delta ∈ row.deltas := by
    intro delta hdelta
    obtain ⟨row, hrow, hmem⟩ := mem_flatMap.mp hdelta
    exact ⟨row, hbatch row hrow, hmem⟩
  obtain ⟨hgrows, hadded⟩ := h.store hdrawn written
  refine ⟨hgrows.imp fun delta => mem_flatMap.mp, fun hwhole hok row hrow delta hdelta => ?_⟩
  have hmem : delta ∈ batch.flatMap (·.deltas) := mem_flatMap.mpr ⟨row, hrow, hdelta⟩
  cases written with
  | failed detail =>
    unfold storeSubjectDeltas at hok
    split_ifs at hok with hempty
    rw [isEmpty_iff.mp hempty] at hmem
    cases hmem
  | stored skipped =>
    have hnone : skipped = [] := hwhole
    exact hadded skipped rfl delta hmem (by simp [hnone])

lemma storeSubjectDeltas_stored (ledger : DeltaLedger) (deltas : List SubjectAssetDelta)
    (skipped : List (String × String)) :
    (ledger.storeSubjectDeltas deltas (.stored skipped)).1 = .ok () := by
  unfold storeSubjectDeltas
  split <;> rfl

lemma eq_of_storeSubjectDeltas_error {deltas : List SubjectAssetDelta} {written : Written}
    {error : DeltaError} (h : (ledger.storeSubjectDeltas deltas written).1 = .error error) :
    (ledger.storeSubjectDeltas deltas written).2 = ledger := by
  cases written with
  | failed detail =>
    unfold storeSubjectDeltas
    split <;> rfl
  | stored skipped =>
    rw [storeSubjectDeltas_stored] at h
    cases h

/-- A row of a wallet. -/
def OfWallet (ledger : DeltaLedger) (walletAddress : String) (delta : SubjectAssetDelta) : Prop :=
  ∃ row ∈ ledger.rawTransactions, row.walletAddress = walletAddress ∧ delta ∈ row.deltas

variable {row : RawTransaction} {walletAddress : String}

lemma mem_cachedRows :
    row ∈ ledger.cachedRows walletAddress ↔ row ∈ ledger.rawTransactions ∧
      row.walletAddress = walletAddress ∧ row.rawTransactionData.isSome = true := by
  simp [cachedRows]

lemma Faithful.backfill (h : ledger.Faithful) (walletAddress : String) (pages : List PageAnswer)
    (offset totalDeltas : ℕ) :
    ledger.Grows (backfillPages walletAddress pages ledger offset totalDeltas).2
        (ledger.OfWallet walletAddress) ∧
      ((∀ page ∈ pages, page.Whole) → ∀ total,
        (backfillPages walletAddress pages ledger offset totalDeltas).1 = .ok total →
        ∀ row ∈ (ledger.cachedRows walletAddress).drop offset,
          (backfillPages walletAddress pages ledger offset totalDeltas).2.Has row) := by
  induction pages generalizing ledger offset totalDeltas with
  | nil => exact ⟨Grows.refl _, fun _ _ hok => by cases hok⟩
  | cons page pages ih =>
    cases page with
    | unread failure => exact ⟨Grows.refl _, fun _ _ hok => by cases hok⟩
    | read written =>
      have hbatch : ∀ row ∈ ((ledger.cachedRows walletAddress).drop offset).take
          backfillBatchSize, row ∈ ledger.cachedRows walletAddress := fun row hrow =>
        mem_of_mem_drop (mem_of_mem_take hrow)
      obtain ⟨hgrows, hhas⟩ := h.store_page
        (fun row hrow => (mem_cachedRows.mp (hbatch row hrow)).1) written
      have hsource : ∀ delta, (∃ row ∈ ((ledger.cachedRows walletAddress).drop offset).take
          backfillBatchSize, delta ∈ row.deltas) → ledger.OfWallet walletAddress delta := by
        rintro delta ⟨row, hrow, hdelta⟩
        obtain ⟨hraw, hwallet, -⟩ := mem_cachedRows.mp (hbatch row hrow)
        exact ⟨row, hraw, hwallet, hdelta⟩
      have hgrows' := hgrows.imp hsource
      unfold backfillPages
      dsimp only
      split
      case isTrue hempty =>
        refine ⟨Grows.refl _, fun _ _ _ row hrow => ?_⟩
        rcases mem_take_or_drop backfillBatchSize hrow with hfirst | ⟨hfull, -⟩
        · rw [isEmpty_iff.mp hempty] at hfirst
          cases hfirst
        · rw [isEmpty_iff.mp hempty] at hfull
          cases hfull
      case isFalse hempty =>
        split
        case h_1 error stored hstored =>
          rw [hstored] at hgrows'
          exact ⟨hgrows', fun _ _ hok => by cases hok⟩
        case h_2 stored hstored =>
          rw [hstored] at hgrows' hhas
          split
          case isTrue hshort =>
            refine ⟨hgrows', fun hwhole _ _ row hrow => ?_⟩
            rcases mem_take_or_drop backfillBatchSize hrow with
              hfirst | ⟨hfull, -⟩
            · exact hhas (hwhole _ mem_cons_self) rfl row hfirst
            · exact absurd hfull (Nat.ne_of_lt hshort)
          case isFalse hlong =>
            have hraw : stored.rawTransactions = ledger.rawTransactions := hgrows'.raw
            have hrows : stored.cachedRows walletAddress =
                ledger.cachedRows walletAddress := by
              unfold cachedRows
              rw [hraw]
            have hwallet : stored.OfWallet walletAddress = ledger.OfWallet walletAddress := by
              unfold OfWallet
              rw [hraw]
            obtain ⟨hgrows'', hrest⟩ := ih (h.grow hgrows' fun delta ⟨row, hrow, _, hmem⟩ =>
              ⟨row, hrow, hmem⟩) (offset +
                (((ledger.cachedRows walletAddress).drop offset).take
                backfillBatchSize).length) (totalDeltas + _)
            rw [hwallet] at hgrows''
            rw [hrows] at hrest
            refine ⟨hgrows'.trans hgrows'', fun hwhole total hok row hrow => ?_⟩
            have hwhole' := fun page hpage => hwhole page (mem_cons_of_mem _ hpage)
            rcases mem_take_or_drop backfillBatchSize hrow with
              hfirst | ⟨hfull, hbehind⟩
            · exact (hhas (hwhole _ mem_cons_self) rfl row hfirst).grow hgrows''
            · exact hrest hwhole' total hok row (by rwa [hfull])

/-! ## Gaps -/

variable {cursor : String} {watermark : ℕ}

lemma isGap_iff :
    ledger.isGap walletAddress watermark cursor row = true ↔
      row.walletAddress = walletAddress ∧ row.rawTransactionData.isSome = true ∧
        (∀ slot, row.slot = some slot → (watermark : ℤ) ≤ slot) ∧ cursor < row.signature ∧
        ¬ledger.HasRow row := by
  cases hslot : row.slot <;> simp [isGap, hslot, and_assoc]

lemma mem_gapRows :
    row ∈ ledger.gapRows walletAddress watermark cursor ↔
      row ∈ ledger.rawTransactions ∧ ledger.isGap walletAddress watermark cursor row = true := by
  simp [gapRows]

lemma pairwise_gapRows (walletAddress : String) (watermark : ℕ) (cursor : String) :
    (ledger.gapRows walletAddress watermark cursor).Pairwise
      fun row other => row.signature ≤ other.signature :=
  pairwise_sorted RawTransaction.signature _

lemma Faithful.gapRows_distinct (h : ledger.Faithful) (walletAddress : String) (watermark : ℕ)
    (cursor : String) : ∀ row ∈ ledger.gapRows walletAddress watermark cursor,
      ∀ other ∈ ledger.gapRows walletAddress watermark cursor,
        row.signature = other.signature → row = other := by
  intro row hrow other hother hsame
  obtain ⟨hraw, hgap⟩ := mem_gapRows.mp hrow
  obtain ⟨hraw', hgap'⟩ := mem_gapRows.mp hother
  exact h.keyed row hraw other hraw'
    ⟨(isGap_iff.mp hgap).1.trans (isGap_iff.mp hgap').1.symm, hsame⟩

section page

variable {walletAddress : String} {watermark : ℕ} {cursor : String}
  {last : RawTransaction} {after : DeltaLedger}

lemma Faithful.mem_page_or_gap (h : ledger.Faithful)
    (hlast : ((ledger.gapRows walletAddress watermark cursor).take backfillBatchSize).getLast? =
      some last)
    (hgrows : ledger.Grows after fun delta => ∃ row ∈
      (ledger.gapRows walletAddress watermark cursor).take backfillBatchSize, delta ∈ row.deltas)
    {row : RawTransaction} (hrow : row ∈ ledger.gapRows walletAddress watermark cursor) :
    row ∈ (ledger.gapRows walletAddress watermark cursor).take backfillBatchSize ∨
      ((ledger.gapRows walletAddress watermark cursor).take backfillBatchSize).length =
        backfillBatchSize ∧ after.isGap walletAddress watermark last.signature row = true := by
  rcases mem_take_or_lt RawTransaction.signature (pairwise_gapRows walletAddress watermark cursor)
    (h.gapRows_distinct walletAddress watermark cursor) backfillBatchSize hrow with
    hfirst | ⟨hlong, habove⟩
  · exact Or.inl hfirst
  · have hlt := habove last (mem_of_getLast? hlast)
    obtain ⟨hraw, hgap⟩ := mem_gapRows.mp hrow
    obtain ⟨hwallet, hsome, hslot, -, hbare⟩ := isGap_iff.mp hgap
    refine Or.inr ⟨by rw [length_take]; omega, isGap_iff.mpr ⟨hwallet, hsome, hslot, hlt, ?_⟩⟩
    rintro ⟨delta, hdelta, hkey⟩
    rcases hgrows.added delta hdelta with hold | ⟨other, hother, hmem⟩
    · exact hbare ⟨delta, hold, hkey⟩
    · -- a row of this page is of a transaction before it
      have hsame := (RawTransaction.key_of_mem hmem).2.symm.trans hkey.2
      exact absurd hsame (ne_of_lt (habove other hother))

lemma Grows.length_gapRows_le {source : SubjectAssetDelta → Prop}
    (hgrows : ledger.Grows after source)
    (hlast : ((ledger.gapRows walletAddress watermark cursor).take backfillBatchSize).getLast? =
      some last) :
    (after.gapRows walletAddress watermark last.signature).length +
        ((ledger.gapRows walletAddress watermark cursor).take backfillBatchSize).length ≤
      (ledger.gapRows walletAddress watermark cursor).length := by
  have hmem := mem_gapRows.mp (mem_of_mem_take (mem_of_getLast? hlast))
  have hcursor : cursor < last.signature := (isGap_iff.mp hmem.2).2.2.2.1
  have hafter : (after.gapRows walletAddress watermark last.signature).length =
      (ledger.rawTransactions.filter
        (after.isGap walletAddress watermark last.signature)).length := by
    rw [gapRows, length_sorted, hgrows.raw]
  have hbefore : (ledger.gapRows walletAddress watermark cursor).length =
      (ledger.rawTransactions.filter (ledger.isGap walletAddress watermark cursor)).length :=
    length_sorted _ _
  rw [hafter, hbefore]
  refine length_filter_add_length_le RawTransaction.signature _ _ _ backfillBatchSize ?_ ?_
  · intro row _ hgap
    obtain ⟨hwallet, hsome, hslot, hlt, hbare⟩ := isGap_iff.mp hgap
    refine isGap_iff.mpr ⟨hwallet, hsome, hslot, lt_trans hcursor hlt, ?_⟩
    exact fun ⟨delta, hdelta, hkey⟩ => hbare ⟨delta, hgrows.kept delta hdelta, hkey⟩
  · intro row hrow
    have hle := le_of_getLast? RawTransaction.signature
      ((pairwise_gapRows walletAddress watermark cursor).sublist (take_sublist _ _)) hlast hrow
    rw [Bool.eq_false_iff]
    exact fun hgap => absurd (isGap_iff.mp hgap).2.2.2.1 (not_lt_of_ge hle)

lemma Faithful.fill (h : ledger.Faithful) (pages : List PageAnswer) (repaired : ℕ) :
    ledger.Grows (gapPages walletAddress watermark pages ledger cursor repaired).2
        (ledger.OfWallet walletAddress) ∧
      ((∀ page ∈ pages, page.Whole) → ∀ found,
        (gapPages walletAddress watermark pages ledger cursor repaired).1 = .ok found →
        ∀ row ∈ ledger.gapRows walletAddress watermark cursor,
          (gapPages walletAddress watermark pages ledger cursor repaired).2.Has row) := by
  induction pages generalizing ledger cursor repaired with
  | nil => exact ⟨Grows.refl _, fun _ _ hok => by cases hok⟩
  | cons page pages ih =>
    cases page with
    | unread failure => exact ⟨Grows.refl _, fun _ _ hok => by cases hok⟩
    | read written =>
      have hbatch : ∀ row ∈ (ledger.gapRows walletAddress watermark cursor).take
          backfillBatchSize, row ∈ ledger.gapRows walletAddress watermark cursor :=
        fun row hrow => mem_of_mem_take hrow
      obtain ⟨hgrows, hhas⟩ := h.store_page
        (fun row hrow => (mem_gapRows.mp (hbatch row hrow)).1) written
      have hsource : ∀ delta, (∃ row ∈ (ledger.gapRows walletAddress watermark cursor).take
          backfillBatchSize, delta ∈ row.deltas) → ledger.OfWallet walletAddress delta := by
        rintro delta ⟨row, hrow, hdelta⟩
        obtain ⟨hraw, hgap⟩ := mem_gapRows.mp (hbatch row hrow)
        exact ⟨row, hraw, (isGap_iff.mp hgap).1, hdelta⟩
      unfold gapPages
      dsimp only
      split
      case h_1 hnone =>
        refine ⟨Grows.refl _, fun _ _ _ row hrow => ?_⟩
        rw [List.getLast?_eq_none_iff, take_eq_nil_iff] at hnone
        rcases hnone with hzero | hnil
        · cases hzero
        · rw [hnil] at hrow
          cases hrow
      case h_2 last hlast =>
        split
        case h_1 error stored hstored =>
          rw [hstored] at hgrows
          exact ⟨hgrows.imp hsource, fun _ _ hok => by cases hok⟩
        case h_2 stored hstored =>
          rw [hstored] at hgrows hhas
          split
          case isTrue hshort =>
            refine ⟨hgrows.imp hsource, fun hwhole _ _ row hrow => ?_⟩
            rcases h.mem_page_or_gap hlast hgrows hrow with hfirst | ⟨hfull, -⟩
            · exact hhas (hwhole _ mem_cons_self) rfl row hfirst
            · exact absurd hfull (Nat.ne_of_lt hshort)
          case isFalse hlong =>
            have hgrows' := hgrows.imp hsource
            have hraw : stored.rawTransactions = ledger.rawTransactions := hgrows'.raw
            have hwallet : stored.OfWallet walletAddress = ledger.OfWallet walletAddress := by
              unfold OfWallet
              rw [hraw]
            obtain ⟨hgrows'', hrest⟩ := @ih stored last.signature
              (h.grow hgrows' fun delta ⟨row, hrow, _, hmem⟩ => ⟨row, hrow, hmem⟩)
              (repaired + _)
            rw [hwallet] at hgrows''
            refine ⟨hgrows'.trans hgrows'', fun hwhole found hok row hrow => ?_⟩
            have hwhole' := fun page hpage => hwhole page (mem_cons_of_mem _ hpage)
            rcases h.mem_page_or_gap hlast hgrows hrow with hfirst | ⟨-, hgap⟩
            · exact (hhas (hwhole _ mem_cons_self) rfl row hfirst).grow hgrows''
            · refine hrest hwhole' found hok row (mem_gapRows.mpr ⟨?_, hgap⟩)
              rw [hraw]
              exact (mem_gapRows.mp hrow).1

lemma Faithful.fill_returns (h : ledger.Faithful) {pages : List PageAnswer}
    (hthrough : ∀ page ∈ pages, page.Through)
    (henough : (ledger.gapRows walletAddress watermark cursor).length <
      backfillBatchSize * pages.length) (repaired : ℕ) :
    ∃ found, (gapPages walletAddress watermark pages ledger cursor repaired).1 = .ok found := by
  induction pages generalizing ledger cursor repaired with
  | nil => exact absurd henough (by simp)
  | cons page pages ih =>
    have hpage : page = .read (.stored []) := hthrough page mem_cons_self
    subst hpage
    have hbatch : ∀ row ∈ (ledger.gapRows walletAddress watermark cursor).take
        backfillBatchSize, row ∈ ledger.rawTransactions := fun row hrow =>
      (mem_gapRows.mp (mem_of_mem_take hrow)).1
    obtain ⟨hgrows, -⟩ := h.store_page hbatch (.stored [])
    unfold gapPages
    dsimp only
    split
    case h_1 hnone => exact ⟨_, rfl⟩
    case h_2 last hlast =>
      split
      case h_1 error stored hstored =>
        have hok := ledger.storeSubjectDeltas_stored
          (((ledger.gapRows walletAddress watermark cursor).take backfillBatchSize).flatMap
            (·.deltas)) []
        rw [hstored] at hok
        cases hok
      case h_2 stored hstored =>
        rw [hstored] at hgrows
        split
        case isTrue hshort => exact ⟨_, rfl⟩
        case isFalse hlong =>
          have hraw : stored.rawTransactions = ledger.rawTransactions := hgrows.raw
          refine @ih stored last.signature ?_ (fun page hpage =>
            hthrough page (mem_cons_of_mem _ hpage)) ?_ (repaired + _)
          · exact h.grow hgrows fun delta ⟨row, hrow, hmem⟩ => ⟨row, hbatch row hrow, hmem⟩
          · have hpage : (stored.gapRows walletAddress watermark last.signature).length +
                _ ≤ _ :=
              hgrows.length_gapRows_le hlast
            rw [length_cons, Nat.mul_succ] at henough
            omega

end page

end DeltaLedger

end Dripline.Transactions
