import Dripline.Found.Claiming
import Dripline.Positions.OpenRows

/-!
# The twins of the first import

`positions/database/provenance.rs`: the first import of a wallet's history made a second row of
every round the bot had executed itself. The pairs are merged in one pass, and each row of the bot
takes the round key of its twin.

* `mergesWholly_iff` — it leaves no pair behind exactly when the first twins suffice.
-/

namespace Dripline.Positions

open Dripline.Found List

variable {ρ κ : Type*}

/-! ## The tables -/

/-- A row of `positions`: the columns the merge looks at, and the others. -/
structure LedgerRow (ρ : Type*) where
  id : ℤ
  chainId : String
  walletAddress : String
  mint : String
  entryTime : String
  entryTransactionSignature : Option String
  originKind : String
  roundKey : Option String
  rest : ρ
  deriving DecidableEq

/-- The rows and what is kept of them in the child tables. An id is of one row, and so is a round
key of a chain and a wallet. Source: `database/types.rs`, `idx_positions_round_key` -/
structure LedgerTables (ρ κ : Type*) where
  rows : List (LedgerRow ρ)
  children : String → List (ℤ × κ)
  ids_nodup : (rows.map (·.id)).Nodup
  unique : ∀ row ∈ rows, ∀ other ∈ rows, row.roundKey.isSome = true → row.roundKey = other.roundKey →
    row.chainId = other.chainId → row.walletAddress = other.walletAddress → row = other

/-- Source: `provenance.rs` -/
def positionChildTables : List String :=
  ["position_states", "position_entries", "position_exits", "position_tracking", "token_snapshots"]

/-- An imported row is the twin of a row of the bot. Source: `provenance.rs`, the conditions of the
query in `merge_ledger_duplicates` -/
structure LedgerRow.IsTwinOf (imported legacy : LedgerRow ρ) : Prop where
  chainId : imported.chainId = legacy.chainId
  walletAddress : imported.walletAddress = legacy.walletAddress
  mint : imported.mint = legacy.mint
  signature : imported.entryTransactionSignature = legacy.entryTransactionSignature
  isExternal : imported.originKind = "external"
  isKeyed : imported.roundKey.isSome = true
  isUnkeyed : legacy.roundKey = none
  isOwn : legacy.originKind ≠ "external"
  isSigned : legacy.entryTransactionSignature.isSome = true

instance (imported legacy : LedgerRow ρ) : Decidable (imported.IsTwinOf legacy) :=
  decidable_of_iff
    (imported.chainId = legacy.chainId ∧ imported.walletAddress = legacy.walletAddress ∧
      imported.mint = legacy.mint ∧
      imported.entryTransactionSignature = legacy.entryTransactionSignature ∧
      imported.originKind = "external" ∧ imported.roundKey.isSome = true ∧ legacy.roundKey = none ∧
      legacy.originKind ≠ "external" ∧ legacy.entryTransactionSignature.isSome = true)
    ⟨fun ⟨a, b, c, d, e, f, g, h, i⟩ => ⟨a, b, c, d, e, f, g, h, i⟩,
      fun ⟨a, b, c, d, e, f, g, h, i⟩ => ⟨a, b, c, d, e, f, g, h, i⟩⟩

/-- A pair as the query hands it out. Source: `provenance.rs`, `pairs` -/
structure TwinPair where
  legacy : ℤ
  imported : ℤ
  roundKey : String

/-- What the query takes of two rows. -/
def TwinPair.of (rows : LedgerRow ρ × LedgerRow ρ) : TwinPair :=
  ⟨rows.1.id, rows.2.id, rows.2.roundKey.getD ""⟩

namespace LedgerTables

variable (tables : LedgerTables ρ κ)

lemma eq_of_id {tables : LedgerTables ρ κ} {row other : LedgerRow ρ} (hrow : row ∈ tables.rows)
    (hother : other ∈ tables.rows) (hid : row.id = other.id) : row = other :=
  inj_on_of_nodup_map tables.ids_nodup hrow hother hid

/-! ## The query -/

/-- A row of the bot and its twin, for all there are. -/
def join : List (LedgerRow ρ × LedgerRow ρ) :=
  (tables.rows.product tables.rows).filter fun pair => pair.2.IsTwinOf pair.1

/-- An order the query may list its pairs in: by entry time and id of the row of the bot; between
pairs of one such row it says nothing. Source: `provenance.rs`, the query in
`merge_ledger_duplicates` -/
structure IsListing (listed : List (LedgerRow ρ × LedgerRow ρ)) : Prop where
  perm : listed.Perm tables.join
  sorted : listed.Pairwise fun pair other =>
    pair.1.entryTime < other.1.entryTime ∨
      pair.1.entryTime = other.1.entryTime ∧ pair.1.id ≤ other.1.id

/-! ## The pass -/

/-- The rows of a position in the child tables are deleted. -/
def deleteChildren (id : ℤ) : String → List (ℤ × κ) := fun table =>
  if table ∈ positionChildTables then (tables.children table).filter (·.1 ≠ id)
  else tables.children table

/-- A row goes, and what the child tables kept of it. -/
def delete (id : ℤ) : LedgerTables ρ κ where
  rows := tables.rows.filter (·.id ≠ id)
  children := tables.deleteChildren id
  ids_nodup := tables.ids_nodup.sublist (filter_sublist.map _)
  unique := fun row hrow other hother =>
    tables.unique row (mem_of_mem_filter hrow) other (mem_of_mem_filter hother)

/-- Another row of the chain and the wallet holds the round key the row is to get. -/
def conflicts (roundKey : String) (id : ℤ) : Bool :=
  tables.rows.any fun row => row.id == id && tables.rows.any fun other =>
    other.id != id && other.chainId == row.chainId && other.walletAddress == row.walletAddress &&
      other.roundKey == some roundKey

/-- A row with the round key, if it is the one that gets it. -/
def stampRow (roundKey : String) (id : ℤ) (row : LedgerRow ρ) : LedgerRow ρ :=
  if row.id = id then { row with roundKey := some roundKey } else row

@[simp] lemma stampRow_id (roundKey : String) (id : ℤ) (row : LedgerRow ρ) :
    (stampRow roundKey id row).id = row.id := by
  unfold stampRow
  split <;> rfl

variable {roundKey : String}

lemma stampRow_of_ne {id : ℤ} {row : LedgerRow ρ} (h : row.id ≠ id) :
    stampRow roundKey id row = row := if_neg h

private lemma conflicts_of {tables : LedgerTables ρ κ} {row other : LedgerRow ρ}
    (hrow : row ∈ tables.rows) (hother : other ∈ tables.rows) (hid : other.id ≠ row.id)
    (hchain : other.chainId = row.chainId) (hwallet : other.walletAddress = row.walletAddress)
    (hkey : other.roundKey = some roundKey) : tables.conflicts roundKey row.id = true := by
  unfold conflicts
  rw [any_eq_true]
  refine ⟨row, hrow, ?_⟩
  rw [Bool.and_eq_true, any_eq_true]
  exact ⟨by simp, other, hother, by simp [hid, hchain, hwallet, hkey]⟩

/-- A round key that nobody else holds is stamped on a row. -/
def stamp (roundKey : String) (id : ℤ) : Except String (LedgerTables ρ κ) :=
  if hconflict : tables.conflicts roundKey id then
    .error ("failed to stamp round key on position " ++ toString id ++ ": " ++ roundKeyTaken)
  else
    .ok {
      rows := tables.rows.map (stampRow roundKey id)
      children := tables.children
      ids_nodup := by
          rw [map_map]
          have hsame : ((fun row : LedgerRow ρ => row.id) ∘ stampRow roundKey id) = (·.id) := by
            funext row
            exact stampRow_id roundKey id row
          rw [hsame]
          exact tables.ids_nodup
      unique := by
          intro row hrow other hother hkeyed hkey hchain hwallet
          obtain ⟨old, hold, rfl⟩ := mem_map.mp hrow
          obtain ⟨old', hold', rfl⟩ := mem_map.mp hother
          by_cases hid : old.id = id
          · by_cases hid' : old'.id = id
            · rw [eq_of_id hold hold' (hid.trans hid'.symm)]
            · rw [stampRow_of_ne hid'] at hkey hchain hwallet
              subst hid
              simp only [stampRow, if_true] at hkey hchain hwallet
              exact absurd (conflicts_of hold hold' hid' hchain.symm hwallet.symm hkey.symm) hconflict
          · rw [stampRow_of_ne hid] at hkeyed hkey hchain hwallet ⊢
            by_cases hid' : old'.id = id
            · subst hid'
              simp only [stampRow, if_true] at hkey hchain hwallet
              exact absurd (conflicts_of hold' hold hid hchain hwallet hkey) hconflict
            · rw [stampRow_of_ne hid'] at hkey hchain hwallet ⊢
              exact tables.unique old hold old' hold' hkeyed hkey hchain hwallet }

/-- The twin goes first, then its round key moves. Source: `provenance.rs`, the body of the loop in
`merge_ledger_duplicates` -/
def mergePair (pair : TwinPair) : Except String (LedgerTables ρ κ) :=
  (tables.delete pair.imported).stamp pair.roundKey pair.legacy

/-- Pair by pair, with the ids that were claimed. A pair of a row of the bot that was seen is passed
over, and one whose twin is claimed; what fails rolls everything back. Source: `provenance.rs`, the
loop in `merge_ledger_duplicates` -/
def mergePairs : List TwinPair → Finset ℤ → Finset ℤ → LedgerTables ρ κ → ℕ →
    Except String (LedgerTables ρ κ × ℕ)
  | [], _, _, tables, merged => .ok (tables, merged)
  | pair :: pairs, claimedLegacy, claimedImported, tables, merged =>
    if pair.legacy ∈ claimedLegacy then
      mergePairs pairs claimedLegacy claimedImported tables merged
    else if pair.imported ∈ claimedImported then
      mergePairs pairs (insert pair.legacy claimedLegacy) claimedImported tables merged
    else
      match tables.mergePair pair with
      | .error message => .error message
      | .ok tables =>
        mergePairs pairs (insert pair.legacy claimedLegacy)
          (insert pair.imported claimedImported) tables (merged + 1)

/-- The pass over the pairs as they were listed; the tables afterwards, and how many were merged.
Source: `provenance.rs` -/
def mergeLedgerDuplicates (listed : List (LedgerRow ρ × LedgerRow ρ)) :
    Except String (LedgerTables ρ κ × ℕ) :=
  if listed.isEmpty then .ok (tables, 0)
  else mergePairs (listed.map TwinPair.of) ∅ ∅ tables 0

/-! ## What is merged -/

/-- Pairs of twins, no row in two of them. -/
structure Mergeable (merges : List TwinPair) : Prop where
  twins : ∀ pair ∈ merges, ∃ legacy ∈ tables.rows, ∃ imported ∈ tables.rows,
    imported.IsTwinOf legacy ∧ pair = TwinPair.of (legacy, imported)
  legacies : (merges.map TwinPair.legacy).Nodup
  imports : (merges.map TwinPair.imported).Nodup

/-- What becomes of a row: a twin that was merged is gone, and the row it was merged into has its
key. -/
def fate (merges : List TwinPair) (row : LedgerRow ρ) : Option (LedgerRow ρ) :=
  if row.id ∈ merges.map TwinPair.imported then none
  else
    match merges.find? (·.legacy = row.id) with
    | some pair => some { row with roundKey := some pair.roundKey }
    | none => some row

/-- What becomes of the child tables. -/
def childrenLeft (merges : List TwinPair) : String → List (ℤ × κ) := fun table =>
  if table ∈ positionChildTables then
    (tables.children table).filter (·.1 ∉ merges.map TwinPair.imported)
  else tables.children table

/-- The tables after one-to-one merges. -/
structure Merged (before after : LedgerTables ρ κ) (merges : List TwinPair) : Prop where
  mergeable : before.Mergeable merges
  rows : after.rows = before.rows.filterMap (fate merges)
  children : after.children = before.childrenLeft merges

lemma fate_nil (row : LedgerRow ρ) : fate [] row = some row := by simp [fate]

lemma fate_singleton (pair : TwinPair) (row : LedgerRow ρ) :
    fate [pair] row =
      if row.id = pair.imported then none else some (stampRow pair.roundKey pair.legacy row) := by
  unfold fate stampRow
  by_cases himported : row.id = pair.imported
  · simp [himported]
  · by_cases hlegacy : row.id = pair.legacy
    · rw [if_neg himported]
      simp [hlegacy, hlegacy ▸ himported]
    · simp [himported, hlegacy, Ne.symm hlegacy]

lemma fate_cons {pair : TwinPair} {merges : List TwinPair}
    (hlegacy : pair.legacy ∉ merges.map TwinPair.legacy) (row : LedgerRow ρ) :
    fate (pair :: merges) row = (fate [pair] row).bind (fate merges) := by
  rw [fate_singleton]
  by_cases himported : row.id = pair.imported
  · simp [fate, himported]
  · rw [if_neg himported, Option.bind_some]
    by_cases hid : row.id = pair.legacy
    · have hnone : merges.find? (·.legacy = row.id) = none := by
        rw [List.find?_eq_none]
        intro other hother
        simp only [decide_eq_true_eq]
        intro hsame
        exact hlegacy (mem_map.mpr ⟨other, hother, hsame.trans hid⟩)
      simp only [fate, stampRow_id, map_cons, mem_cons, himported, false_or, hnone]
      simp [stampRow, hid]
    · rw [stampRow_of_ne hid]
      simp [fate, himported, Ne.symm hid]

lemma fate_of_not_mem {merges : List TwinPair} {row : LedgerRow ρ}
    (himported : row.id ∉ merges.map TwinPair.imported)
    (hlegacy : row.id ∉ merges.map TwinPair.legacy) : fate merges row = some row := by
  have hnone : merges.find? (·.legacy = row.id) = none := by
    rw [List.find?_eq_none]
    intro other hother
    simp only [decide_eq_true_eq]
    intro hsame
    exact hlegacy (mem_map.mpr ⟨other, hother, hsame⟩)
  simp only [fate, himported, if_false, hnone]

lemma eq_of_fate {merges : List TwinPair} {row left : LedgerRow ρ}
    (hfate : fate merges row = some left) :
    row.id ∉ merges.map TwinPair.imported ∧ ∃ roundKey, left = { row with roundKey := roundKey } ∧
      (row.id ∈ merges.map TwinPair.legacy → roundKey.isSome = true) := by
  unfold fate at hfate
  split at hfate
  case isTrue => cases hfate
  case isFalse himported =>
    refine ⟨himported, ?_⟩
    split at hfate
    case h_1 pair hpair =>
      cases hfate
      exact ⟨_, rfl, fun _ => rfl⟩
    case h_2 hnone =>
      cases hfate
      refine ⟨_, rfl, fun hlegacy => ?_⟩
      obtain ⟨pair, hpair, hsame⟩ := mem_map.mp hlegacy
      have := List.find?_eq_none.mp hnone pair hpair
      simp [hsame] at this

section Twins

variable {tables} {merges : List TwinPair} {pair : TwinPair}

lemma Mergeable.isTwinOf (h : tables.Mergeable merges) (hpair : pair ∈ merges) {row : LedgerRow ρ}
    (hrow : row ∈ tables.rows) :
    (row.id = pair.imported → row.originKind = "external" ∧ row.roundKey = some pair.roundKey) ∧
      (row.id = pair.legacy → row.originKind ≠ "external" ∧ row.roundKey = none) := by
  obtain ⟨legacy, hlegacy, imported, himported, htwin, rfl⟩ := h.twins pair hpair
  constructor
  · intro hid
    obtain rfl := eq_of_id hrow himported hid
    refine ⟨htwin.isExternal, ?_⟩
    obtain ⟨roundKey, hkey⟩ := Option.isSome_iff_exists.mp htwin.isKeyed
    simp [TwinPair.of, hkey]
  · intro hid
    obtain rfl := eq_of_id hrow hlegacy hid
    exact ⟨htwin.isOwn, htwin.isUnkeyed⟩

lemma Mergeable.not_imported (h : tables.Mergeable merges) {row : LedgerRow ρ}
    (hrow : row ∈ tables.rows) (hown : row.originKind ≠ "external") :
    row.id ∉ merges.map TwinPair.imported := by
  intro himported
  obtain ⟨pair, hpair, hid⟩ := mem_map.mp himported
  exact hown ((h.isTwinOf hpair hrow).1 hid.symm).1

lemma Mergeable.not_legacy (h : tables.Mergeable merges) {row : LedgerRow ρ}
    (hrow : row ∈ tables.rows) (hexternal : row.originKind = "external") :
    row.id ∉ merges.map TwinPair.legacy := by
  intro hlegacy
  obtain ⟨pair, hpair, hid⟩ := mem_map.mp hlegacy
  exact ((h.isTwinOf hpair hrow).2 hid.symm).1 hexternal

lemma Mergeable.not_conflicts (h : tables.Mergeable (pair :: merges)) :
    (tables.delete pair.imported).conflicts pair.roundKey pair.legacy = false := by
  rw [Bool.eq_false_iff]
  intro hconflict
  unfold conflicts at hconflict
  obtain ⟨row, hrow, hconflict⟩ := any_eq_true.mp hconflict
  rw [Bool.and_eq_true, any_eq_true] at hconflict
  obtain ⟨hid, other, hother, hconflict⟩ := hconflict
  simp only [Bool.and_eq_true, bne_iff_ne, beq_iff_eq] at hconflict hid
  obtain ⟨⟨⟨-, hchain⟩, hwallet⟩, hkey⟩ := hconflict
  obtain ⟨legacy, hlegacy, imported, himported, htwin, rfl⟩ := h.twins pair mem_cons_self
  obtain ⟨hheld, hkept⟩ := mem_filter.mp hother
  obtain rfl := eq_of_id (mem_of_mem_filter hrow) hlegacy hid
  obtain ⟨roundKey, himportedKey⟩ := Option.isSome_iff_exists.mp htwin.isKeyed
  have hsame : other = imported := by
    refine tables.unique other hheld imported himported (by simp [hkey]) ?_ ?_ ?_
    · rw [hkey, himportedKey]
      simp [TwinPair.of, himportedKey]
    · exact hchain.trans htwin.chainId.symm
    · exact hwallet.trans htwin.walletAddress.symm
  simp [hsame, TwinPair.of] at hkept

lemma filterMap_fate_singleton (pair : TwinPair) (rows : List (LedgerRow ρ)) :
    rows.filterMap (fate [pair]) =
      (rows.filter (·.id ≠ pair.imported)).map (stampRow pair.roundKey pair.legacy) := by
  induction rows with
  | nil => rfl
  | cons row rows ih =>
    by_cases himported : row.id = pair.imported
    · rw [filterMap_cons_none (by rw [fate_singleton, if_pos himported]), ih,
        filter_cons_of_neg (by simp [himported])]
    · rw [filterMap_cons_some (by rw [fate_singleton, if_neg himported]), ih,
        filter_cons_of_pos (by simp [himported]), map_cons]

lemma Mergeable.mergePair_spec (h : tables.Mergeable (pair :: merges)) :
    ∃ after, tables.mergePair pair = .ok after ∧ after.rows = tables.rows.filterMap (fate [pair]) ∧
      after.children = tables.childrenLeft [pair] ∧ after.Mergeable merges := by
  have hstamped : tables.mergePair pair = .ok _ := dif_neg (by simp [h.not_conflicts])
  have hrows := filterMap_fate_singleton pair tables.rows
  refine ⟨_, hstamped, hrows.symm, ?_, ?_, ?_, ?_⟩
  · funext table
    unfold childrenLeft
    simp [delete, deleteChildren]
  · intro other hother
    obtain ⟨legacy, hlegacy, imported, himported, htwin, rfl⟩ :=
      h.twins other (mem_cons_of_mem _ hother)
    have hlegacies := (nodup_cons.mp h.legacies).1
    have himports := (nodup_cons.mp h.imports).1
    have hpair : tables.Mergeable [pair] :=
      ⟨fun one hone => h.twins one (mem_singleton.mp hone ▸ mem_cons_self), by simp, by simp⟩
    -- neither of the two rows is one of the pair's
    have hlegacyFate : fate [pair] legacy = some legacy := by
      refine fate_of_not_mem (hpair.not_imported hlegacy htwin.isOwn) ?_
      rw [map_singleton, mem_singleton]
      intro hsame
      exact hlegacies (mem_map.mpr ⟨_, hother, hsame⟩)
    have himportedFate : fate [pair] imported = some imported := by
      refine fate_of_not_mem ?_ (hpair.not_legacy himported htwin.isExternal)
      rw [map_singleton, mem_singleton]
      intro hsame
      exact himports (mem_map.mpr ⟨_, hother, hsame⟩)
    have hkept : legacy ∈ tables.rows.filterMap (fate [pair]) ∧
        imported ∈ tables.rows.filterMap (fate [pair]) :=
      ⟨mem_filterMap.mpr ⟨legacy, hlegacy, hlegacyFate⟩,
        mem_filterMap.mpr ⟨imported, himported, himportedFate⟩⟩
    rw [hrows] at hkept
    exact ⟨legacy, hkept.1, imported, hkept.2, htwin, rfl⟩
  · exact (nodup_cons.mp h.legacies).2
  · exact (nodup_cons.mp h.imports).2

end Twins

/-- The pairs merged one after another. -/
def mergeAll : List TwinPair → LedgerTables ρ κ → Except String (LedgerTables ρ κ)
  | [], tables => .ok tables
  | pair :: pairs, tables =>
    match tables.mergePair pair with
    | .error message => .error message
    | .ok tables => mergeAll pairs tables

/-- The pairs that two claim sets let through. -/
def letThrough (pairs : List TwinPair) (claimedLegacy claimedImported : Finset ℤ) : List TwinPair :=
  Claiming.claims TwinPair.legacy TwinPair.imported pairs claimedLegacy claimedImported

lemma mergePairs_eq (pairs : List TwinPair) (claimedLegacy claimedImported : Finset ℤ)
    (tables : LedgerTables ρ κ) (merged : ℕ) :
    mergePairs pairs claimedLegacy claimedImported tables merged =
      (mergeAll (letThrough pairs claimedLegacy claimedImported) tables).map
        fun after => (after, merged + (letThrough pairs claimedLegacy claimedImported).length) := by
  induction pairs generalizing claimedLegacy claimedImported tables merged with
  | nil => rfl
  | cons pair pairs ih =>
    unfold mergePairs letThrough Claiming.claims
    split
    case isTrue => exact ih _ _ _ _
    case isFalse =>
      split
      case isTrue => exact ih _ _ _ _
      case isFalse =>
        rw [mergeAll]
        cases hmerge : tables.mergePair pair with
        | error message => rfl
        | ok after =>
          dsimp only
          rw [ih, length_cons]
          simp only [letThrough, Nat.add_assoc, Nat.add_comm 1]

lemma merged_of_mergeable {tables : LedgerTables ρ κ} {merges : List TwinPair}
    (h : tables.Mergeable merges) : ∃ after, mergeAll merges tables = .ok after ∧
      Merged tables after merges := by
  induction merges generalizing tables with
  | nil =>
    refine ⟨tables, rfl, h, ?_, ?_⟩
    · rw [funext fate_nil, filterMap_some]
    · funext table
      simp [childrenLeft]
  | cons pair merges ih =>
    obtain ⟨between, hpair, hrows, hchildren, hleft⟩ := h.mergePair_spec
    obtain ⟨after, hafter, hmerged⟩ := ih hleft
    refine ⟨after, ?_, h, ?_, ?_⟩
    · rw [mergeAll, hpair]
      exact hafter
    · rw [hmerged.rows, hrows, filterMap_filterMap]
      congr 1
      funext row
      exact (fate_cons (nodup_cons.mp h.legacies).1 row).symm
    · rw [hmerged.children]
      funext table
      unfold childrenLeft
      rw [hchildren]
      unfold childrenLeft
      split
      case isTrue =>
        rw [filter_filter]
        congr 1
        funext child
        rw [Bool.eq_iff_iff]
        simp only [Bool.and_eq_true, decide_eq_true_eq, map_cons, map_nil, mem_cons,
          not_mem_nil, or_false, not_or]
        exact and_comm
      case isFalse => rfl

/-! ## The listing -/

section Listing

variable {tables} {listed : List (LedgerRow ρ × LedgerRow ρ)}

section

variable (h : tables.IsListing listed)
include h

lemma IsListing.mem_iff {legacy imported : LedgerRow ρ} :
    (legacy, imported) ∈ listed ↔
      legacy ∈ tables.rows ∧ imported ∈ tables.rows ∧ imported.IsTwinOf legacy := by
  rw [h.perm.mem_iff]
  simp [join, mem_filter, and_assoc]

lemma IsListing.mem_pairs_iff {pair : TwinPair} :
    pair ∈ listed.map TwinPair.of ↔ ∃ legacy ∈ tables.rows, ∃ imported ∈ tables.rows,
      imported.IsTwinOf legacy ∧ pair = TwinPair.of (legacy, imported) := by
  rw [mem_map]
  constructor
  · rintro ⟨⟨legacy, imported⟩, hlisted, rfl⟩
    obtain ⟨hlegacy, himported, htwin⟩ := h.mem_iff.mp hlisted
    exact ⟨legacy, hlegacy, imported, himported, htwin, rfl⟩
  · rintro ⟨legacy, hlegacy, imported, himported, htwin, rfl⟩
    exact ⟨(legacy, imported), h.mem_iff.mpr ⟨hlegacy, himported, htwin⟩, rfl⟩

lemma IsListing.mergeable :
    tables.Mergeable (letThrough (listed.map TwinPair.of) ∅ ∅) where
  twins := fun _ hpair =>
    h.mem_pairs_iff.mp ((Claiming.claims_sublist _ _ _ _ _).subset hpair)
  legacies := Claiming.nodup_left_claims _ _ _ _ _
  imports := Claiming.nodup_right_claims _ _ _ _ _

lemma IsListing.rectangular :
    Claiming.Rectangular TwinPair.legacy TwinPair.imported (listed.map TwinPair.of) := by
  intro p hp q hq hshared r hr hsame
  obtain ⟨l, hl, i, hi, htwin, rfl⟩ := h.mem_pairs_iff.mp hp
  obtain ⟨l', hl', i', hi', htwin', rfl⟩ := h.mem_pairs_iff.mp hq
  obtain ⟨l'', hl'', i'', hi'', htwin'', rfl⟩ := h.mem_pairs_iff.mp hr
  obtain rfl : i = i' := eq_of_id hi hi' hshared
  obtain rfl : l'' = l := eq_of_id hl'' hl hsame
  refine ⟨TwinPair.of (l', i''), h.mem_pairs_iff.mpr ⟨l', hl', i'', hi'', ?_, rfl⟩, rfl, rfl⟩
  exact {
    chainId := htwin''.chainId.trans (htwin.chainId.symm.trans htwin'.chainId)
    walletAddress := htwin''.walletAddress.trans
      (htwin.walletAddress.symm.trans htwin'.walletAddress)
    mint := htwin''.mint.trans (htwin.mint.symm.trans htwin'.mint)
    signature := htwin''.signature.trans (htwin.signature.symm.trans htwin'.signature)
    isExternal := htwin''.isExternal
    isKeyed := htwin''.isKeyed
    isUnkeyed := htwin'.isUnkeyed
    isOwn := htwin'.isOwn
    isSigned := htwin'.isSigned }

lemma mergeLedgerDuplicates_spec :
    ∃ after, tables.mergeLedgerDuplicates listed =
        .ok (after, (letThrough (listed.map TwinPair.of) ∅ ∅).length) ∧
      Merged tables after (letThrough (listed.map TwinPair.of) ∅ ∅) := by
  obtain ⟨after, hafter, hmerged⟩ := merged_of_mergeable h.mergeable
  refine ⟨after, ?_, hmerged⟩
  unfold mergeLedgerDuplicates
  split
  case isTrue hempty =>
    obtain rfl := isEmpty_iff.mp hempty
    cases hafter
    rfl
  case isFalse =>
    rw [mergePairs_eq, hafter]
    simp [Except.map]

end

end Listing

/-! ## No pair is left -/

/-- No row of the bot has a twin. -/
def NothingLeft : Prop :=
  ∀ legacy ∈ tables.rows, ∀ imported ∈ tables.rows, ¬ imported.IsTwinOf legacy

section NothingLeft

variable {tables} {after : LedgerTables ρ κ} {listed : List (LedgerRow ρ × LedgerRow ρ)}

lemma nothingLeft_iff_covered (h : tables.IsListing listed)
    (hmerged : Merged tables after (letThrough (listed.map TwinPair.of) ∅ ∅)) :
    after.NothingLeft ↔
      Claiming.Covered TwinPair.legacy TwinPair.imported (listed.map TwinPair.of) := by
  have hmergeable := hmerged.mergeable
  constructor
  · intro hnothing pair hpair
    obtain ⟨legacy, hlegacy, imported, himported, htwin, rfl⟩ := h.mem_pairs_iff.mp hpair
    by_contra huncovered
    obtain ⟨hleft, hright⟩ := not_or.mp huncovered
    -- neither row is touched, and both are there afterwards
    have hlegacyFate : fate (letThrough (listed.map TwinPair.of) ∅ ∅) legacy = some legacy :=
      fate_of_not_mem (hmergeable.not_imported hlegacy htwin.isOwn)
        fun hmem => hleft (mem_map.mp hmem)
    have himportedFate : fate (letThrough (listed.map TwinPair.of) ∅ ∅) imported = some imported :=
      fate_of_not_mem (fun hmem => hright (mem_map.mp hmem))
        (hmergeable.not_legacy himported htwin.isExternal)
    refine hnothing legacy ?_ imported ?_ htwin
    · exact hmerged.rows ▸ mem_filterMap.mpr ⟨legacy, hlegacy, hlegacyFate⟩
    · exact hmerged.rows ▸ mem_filterMap.mpr ⟨imported, himported, himportedFate⟩
  · intro hcovered legacy hlegacy imported himported htwin
    rw [hmerged.rows] at hlegacy himported
    obtain ⟨oldLegacy, hold, hfate⟩ := mem_filterMap.mp hlegacy
    obtain ⟨oldImported, hold', hfate'⟩ := mem_filterMap.mp himported
    obtain ⟨-, roundKey, rfl, hstamped⟩ := eq_of_fate hfate
    obtain ⟨hkept, roundKey', rfl, -⟩ := eq_of_fate hfate'
    -- the row of the bot was given no key, and the imported one keeps its own
    have hunkeyed : roundKey = none := htwin.isUnkeyed
    subst hunkeyed
    have hunstamped : oldLegacy.id ∉ (letThrough (listed.map TwinPair.of) ∅ ∅).map TwinPair.legacy :=
      fun hmem => by simpa using hstamped hmem
    rw [fate_of_not_mem (hmergeable.not_imported hold htwin.isOwn) hunstamped] at hfate
    rw [fate_of_not_mem hkept (hmergeable.not_legacy hold' htwin.isExternal)] at hfate'
    rw [← Option.some.inj hfate, ← Option.some.inj hfate'] at htwin
    rcases hcovered (TwinPair.of (oldLegacy, oldImported))
        (h.mem_pairs_iff.mpr ⟨oldLegacy, hold, oldImported, hold', htwin, rfl⟩) with htaken | htaken
    · exact hunstamped (mem_map.mpr htaken)
    · exact hkept (mem_map.mpr htaken)

lemma NothingLeft.merge_again (hnothing : tables.NothingLeft) (h : tables.IsListing listed) :
    tables.mergeLedgerDuplicates listed = .ok (tables, 0) := by
  have hempty : listed = [] := by
    rw [eq_nil_iff_forall_not_mem]
    rintro ⟨legacy, imported⟩ hlisted
    obtain ⟨hlegacy, himported, htwin⟩ := h.mem_iff.mp hlisted
    exact hnothing legacy hlegacy imported himported htwin
  rw [hempty]
  rfl

end NothingLeft

/-- The pass is a complete one-to-one merge: each row has its fate under merges of twins that share
no row, no pair is left, and a second pass, in whatever order its query lists, merges and changes
nothing. -/
def MergesWholly (listed : List (LedgerRow ρ × LedgerRow ρ)) : Prop :=
  ∃ after merges, tables.mergeLedgerDuplicates listed = .ok (after, merges.length) ∧
    Merged tables after merges ∧ after.NothingLeft ∧
    ∀ again, after.IsListing again → after.mergeLedgerDuplicates again = .ok (after, 0)

/-- Rows of the bot that are listed with the same first twin have no twin but such as are first for
some row of the bot. -/
def FirstTwinsSuffice (listed : List (LedgerRow ρ × LedgerRow ρ)) : Prop :=
  Claiming.FirstsSuffice TwinPair.legacy TwinPair.imported (listed.map TwinPair.of)

/-- **A complete merge**: over any tables and any order the pairs may be listed in, the pass is one
exactly when the first twins suffice. -/
theorem mergesWholly_iff (tables : LedgerTables ρ κ) (listed : List (LedgerRow ρ × LedgerRow ρ))
    (hlisted : tables.IsListing listed) : tables.MergesWholly listed ↔ FirstTwinsSuffice listed := by
  obtain ⟨after, hmerge, hmerged⟩ := mergeLedgerDuplicates_spec hlisted
  have hcovered := (nothingLeft_iff_covered hlisted hmerged).trans
    (Claiming.covered_iff hlisted.rectangular)
  constructor
  · rintro ⟨after', merges, hmerge', -, hnothing, -⟩
    rw [hmerge] at hmerge'
    obtain rfl : after = after' := congrArg Prod.fst (Except.ok.inj hmerge')
    exact hcovered.mp hnothing
  · intro hfirsts
    have hnothing := hcovered.mpr hfirsts
    exact ⟨after, _, hmerge, hmerged, hnothing, fun _ hagain => hnothing.merge_again hagain⟩

/-! ### One swap, two rounds -/

/-- A row of the bot that bought with the swap. -/
def boughtRow (id : ℤ) (entryTime : String) : LedgerRow Unit :=
  ⟨id, "solana", "W", "MINT", entryTime, some "buy-sig", "auto", none, ()⟩

/-- A row imported for the swap. -/
def importedRow (id : ℤ) (roundKey : String) : LedgerRow Unit :=
  ⟨id, "solana", "W", "MINT", "2026-01-01", some "buy-sig", "external", some roundKey, ()⟩

/-- Two rows of the bot, and one that was imported. -/
def oneTwin : LedgerTables Unit Unit where
  rows := [boughtRow 1 "2026-01-01", boughtRow 2 "2026-01-02", importedRow 3 "buy-sig:MINT"]
  children := fun _ => [(3, ())]
  ids_nodup := by decide
  unique := by decide

/-- Two rows of the bot, and two that were imported. -/
def twoTwins : LedgerTables Unit Unit where
  rows := [boughtRow 1 "2026-01-01", boughtRow 2 "2026-01-01", importedRow 3 "buy-sig:MINT",
    importedRow 4 "genesis:buy-sig:MINT"]
  children := fun _ => []
  ids_nodup := by decide
  unique := by decide

/-- The earlier row of the bot claims the twin, and a second pass finds nothing. -/
theorem mergesWholly_iff_oneTwin : oneTwin.MergesWholly oneTwin.join ↔ FirstTwinsSuffice oneTwin.join :=
  mergesWholly_iff oneTwin oneTwin.join ⟨List.Perm.refl _, by decide⟩

/-- The second row of the bot asks for the twin the first has claimed, and is not asked again. -/
theorem not_mergesWholly :
    ¬ ∀ (tables : LedgerTables Unit Unit) (listed : List (LedgerRow Unit × LedgerRow Unit)),
      tables.IsListing listed → tables.MergesWholly listed := by
  intro h
  obtain ⟨after, merges, hmerge, -, hnothing, -⟩ :=
    h twoTwins twoTwins.join ⟨List.Perm.refl _, by decide⟩
  obtain rfl : _ = after := congrArg Prod.fst (Except.ok.inj hmerge)
  exact hnothing (boughtRow 2 "2026-01-01") (by decide) (importedRow 4 "genesis:buy-sig:MINT")
    (by decide)
    (by decide)

end LedgerTables

end Dripline.Positions
