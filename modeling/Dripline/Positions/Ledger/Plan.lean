import Dripline.Found.Keyed
import Dripline.Positions.Ledger.Sync

/-!
# One row a round

What a plan does to the rows, whatever the rounds are.

* `planPositionWrites_oneRowARound` — one write a round, one round a row, and no two rows of one
  key.

A source without a file is in `tests/positions_ledger_sync.rs`.
-/

namespace Dripline.Positions.Ledger

open Dripline.Found.StableSort Dripline.Found.Keyed List

/-! ## Identity of what is written -/

@[simp] lemma buildPosition_id (round : LedgerRound) (metadata : RoundMetadata)
    (existing : Option Position) (now : DateTime) :
    (buildPosition round metadata existing now).id = existing.bind (·.id) := rfl

@[simp] lemma buildPosition_roundKey (round : LedgerRound) (metadata : RoundMetadata)
    (existing : Option Position) (now : DateTime) :
    (buildPosition round metadata existing now).roundKey = some round.roundKey := rfl

section reconcile

variable (existing : Position) (round : LedgerRound) (metadata : RoundMetadata)
  (legs : Option TraderLegs) (now : DateTime)

lemma growOwnedPosition_field {α : Type*} (field : Position → α)
    (hadopted : ∀ p, field (adoptExternalGrowth p existing round legs) = field p) :
    field (growOwnedPosition existing round metadata legs) =
      field { existing with
        roundKey := some round.roundKey
        holdingState := holdingStateFor metadata.frozen round.isOpen } := by
  unfold growOwnedPosition
  dsimp only
  split
  · exact hadopted _
  · rfl

lemma reconcileOwnedPosition_cases :
    (reconcileOwnedPosition existing round metadata legs now =
        growOwnedPosition existing round metadata legs ∧
      (round.isOpen = true →
        existing.remainingTokenAmount.getD 0 ≤ clampRaw round.balanceRaw) ∧
      (round.isOpen = false → existing.exitTime.isSome = true)) ∨
    (round.isOpen = true ∧
      clampRaw round.balanceRaw < existing.remainingTokenAmount.getD 0 ∧
      reconcileOwnedPosition existing round metadata legs now =
        { growOwnedPosition existing round metadata legs with
          remainingTokenAmount := some (clampRaw round.balanceRaw)
          totalExitedAmount := saturatingAdd64 existing.totalExitedAmount
            (existing.remainingTokenAmount.getD 0 - clampRaw round.balanceRaw) }) ∨
    (round.isOpen = false ∧ existing.exitTime = none ∧
      reconcileOwnedPosition existing round metadata legs now =
        closeOwnedPosition (growOwnedPosition existing round metadata legs) existing round now) := by
  unfold reconcileOwnedPosition
  cases hopen : round.isOpen with
  | true =>
    by_cases hshrunk : clampRaw round.balanceRaw < existing.remainingTokenAmount.getD 0
    · exact Or.inr (Or.inl ⟨rfl, hshrunk, by simp [hshrunk]⟩)
    · exact Or.inl ⟨by simp [hshrunk], fun _ => not_lt.mp hshrunk, fun h => (by cases h)⟩
  | false =>
    cases hexit : existing.exitTime with
    | some t => exact Or.inl ⟨rfl, fun h => (by cases h), fun _ => rfl⟩
    | none => exact Or.inr (Or.inr ⟨rfl, rfl, rfl⟩)

lemma reconcileOwnedPosition_field {α : Type*} (field : Position → α)
    (hshrunk : ∀ p remaining exited, field { p with
      remainingTokenAmount := remaining
      totalExitedAmount := exited } = field p)
    (hclosed : ∀ p, field (closeOwnedPosition p existing round now) = field p) :
    field (reconcileOwnedPosition existing round metadata legs now) =
      field (growOwnedPosition existing round metadata legs) := by
  rcases reconcileOwnedPosition_cases existing round metadata legs now with
    ⟨h, -, -⟩ | ⟨-, -, h⟩ | ⟨-, -, h⟩
  · rw [h]
  · rw [h, hshrunk]
  · rw [h, hclosed]

@[simp] lemma growOwnedPosition_id :
    (growOwnedPosition existing round metadata legs).id = existing.id :=
  growOwnedPosition_field existing round metadata legs (·.id) fun _ => rfl

@[simp] lemma growOwnedPosition_roundKey :
    (growOwnedPosition existing round metadata legs).roundKey = some round.roundKey :=
  growOwnedPosition_field existing round metadata legs (·.roundKey) fun _ => rfl

@[simp] lemma reconcileOwnedPosition_id :
    (reconcileOwnedPosition existing round metadata legs now).id = existing.id := by
  rw [reconcileOwnedPosition_field _ _ _ _ _ (·.id) (fun _ _ _ => rfl) fun _ => rfl,
    growOwnedPosition_id]

@[simp] lemma reconcileOwnedPosition_roundKey :
    (reconcileOwnedPosition existing round metadata legs now).roundKey = some round.roundKey := by
  rw [reconcileOwnedPosition_field _ _ _ _ _ (·.roundKey) (fun _ _ _ => rfl) fun _ => rfl,
    growOwnedPosition_roundKey]

end reconcile

section write

variable {context : SyncContext} {round : LedgerRound}

lemma writeFor_owned {row : Position} (h : row.isWalletDerived = false) :
    writeFor context round (some row) =
      if isBusy row context.busyMints then none
      else if differsOwned row (reconcileOwnedPosition row round
          ((context.metadata round.mint).getD RoundMetadata.default)
          (row.id.bind context.traderLegs) context.now) then
        some (.update (reconcileOwnedPosition row round
          ((context.metadata round.mint).getD RoundMetadata.default)
          (row.id.bind context.traderLegs) context.now))
      else none := by
  simp [writeFor, h]

lemma writeFor_derived {row : Position} (h : row.isWalletDerived = true) :
    writeFor context round (some row) =
      if differs row (buildPosition round
          ((context.metadata round.mint).getD RoundMetadata.default) (some row) context.now) then
        some (.update (buildPosition round
          ((context.metadata round.mint).getD RoundMetadata.default) (some row) context.now))
      else none := by
  simp [writeFor, h]

lemma writeFor_none :
    writeFor context round none = some (.insert (buildPosition round
      ((context.metadata round.mint).getD RoundMetadata.default) none context.now)) := rfl

lemma writeFor_some_cases (row : Position) :
    writeFor context round (some row) = none ∨
    (row.isWalletDerived = false ∧ writeFor context round (some row) =
      some (.update (reconcileOwnedPosition row round
        ((context.metadata round.mint).getD RoundMetadata.default)
        (row.id.bind context.traderLegs) context.now))) ∨
    (row.isWalletDerived = true ∧ writeFor context round (some row) =
      some (.update (buildPosition round
        ((context.metadata round.mint).getD RoundMetadata.default) (some row) context.now))) := by
  cases hderived : row.isWalletDerived with
  | false =>
    rw [writeFor_owned hderived]
    split
    · exact Or.inl rfl
    · split
      · exact Or.inr (Or.inl ⟨rfl, rfl⟩)
      · exact Or.inl rfl
  | true =>
    rw [writeFor_derived hderived]
    split
    · exact Or.inr (Or.inr ⟨rfl, rfl⟩)
    · exact Or.inl rfl

variable {current : Option Position} {p : Position}

lemma writeFor_insert (h : writeFor context round current = some (.insert p)) :
    current = none ∧ p.roundKey = some round.roundKey := by
  cases current with
  | none =>
    obtain rfl : buildPosition _ _ _ _ = p := by simpa [writeFor_none] using h
    exact ⟨rfl, rfl⟩
  | some row =>
    rcases @writeFor_some_cases context round row with hrow | ⟨-, hrow⟩ | ⟨-, hrow⟩
    · rw [hrow] at h
      cases h
    · rw [hrow] at h
      cases h
    · rw [hrow] at h
      cases h

lemma writeFor_update (h : writeFor context round current = some (.update p)) :
    ∃ row, current = some row ∧ p.id = row.id ∧ p.roundKey = some round.roundKey := by
  cases current with
  | none => cases h
  | some row =>
    refine ⟨row, rfl, ?_⟩
    rcases @writeFor_some_cases context round row with hrow | ⟨-, hrow⟩ | ⟨-, hrow⟩
    · rw [hrow] at h
      cases h
    · rw [hrow] at h
      obtain rfl : reconcileOwnedPosition _ _ _ _ _ = p := by simpa using h
      exact ⟨reconcileOwnedPosition_id .., reconcileOwnedPosition_roundKey ..⟩
    · rw [hrow] at h
      obtain rfl : buildPosition _ _ _ _ = p := by simpa using h
      exact ⟨buildPosition_id .., buildPosition_roundKey ..⟩

end write

/-! ## Claims -/

variable {row : Position} {roundKey : String} {existing : List Position}

lemma byRoundKey_eq_some (h : byRoundKey existing roundKey = some row) :
    row ∈ existing ∧ row.roundKey = some roundKey := by
  obtain ⟨hmem, hkey⟩ := mem_filter.mp (mem_of_getLast? h)
  exact ⟨hmem, by simpa using hkey⟩

lemma byRoundKey_eq_none :
    byRoundKey existing roundKey = none ↔ ∀ row ∈ existing, row.roundKey ≠ some roundKey := by
  unfold byRoundKey
  rw [List.getLast?_eq_none_iff, filter_eq_nil_iff]
  simp

/-- A row without a key that holds the round's mint and was opened by one of its acquisitions. -/
structure Matches (round : LedgerRound) (row : Position) : Prop where
  unkeyed : row.roundKey = none
  mint : row.mint = round.mint
  signature : ∃ s ∈ acquisitionSignatures round, row.entryTransactionSignature = some s

variable {round : LedgerRound}

lemma mem_candidates :
    row ∈ candidates existing round ↔ row ∈ existing ∧ row.id.isSome = true ∧ Matches round row := by
  unfold candidates adoptable
  simp only [mem_flatMap, mem_sortBy, mem_filter, Bool.and_eq_true, beq_iff_eq,
    Option.isNone_iff_eq_none]
  constructor
  · rintro ⟨s, hs, hmem, ⟨⟨hkey, hid⟩, hmint⟩, hsig⟩
    exact ⟨hmem, hid, hkey, hmint, s, hs, hsig⟩
  · rintro ⟨hmem, hid, hkey, hmint, s, hs, hsig⟩
    exact ⟨s, hs, hmem, ⟨⟨hkey, hid⟩, hmint⟩, hsig⟩

variable {claimed : Finset ℤ}

lemma isFree_iff : isFree claimed row = true ↔ ∃ i, row.id = some i ∧ i ∉ claimed := by
  unfold isFree
  cases row.id <;> simp

lemma adoptRow_eq_some (h : adoptRow existing claimed round = some row) :
    row ∈ existing ∧ Matches round row ∧ isFree claimed row = true := by
  obtain ⟨hmem, -, hmatches⟩ := mem_candidates.mp (mem_of_find?_eq_some h)
  exact ⟨hmem, hmatches, List.find?_some h⟩

lemma adoptRow_eq_none (h : adoptRow existing claimed round = none) (hmem : row ∈ existing)
    (hmatches : Matches round row) : isFree claimed row = false := by
  cases hid : row.id with
  | none => simp [isFree, hid]
  | some i =>
    have hcandidate := mem_candidates.mpr ⟨hmem, by simp [hid], hmatches⟩
    simpa using List.find?_eq_none.mp h row hcandidate

lemma mem_claim {i : ℤ} : i ∈ claim claimed row ↔ row.id = some i ∨ i ∈ claimed := by
  unfold claim
  cases h : row.id with
  | none => simp
  | some j => simp [eq_comm]

lemma currentRow_cases (existing : List Position) (claimed : Finset ℤ) (round : LedgerRound) :
    (∃ row, byRoundKey existing round.roundKey = some row ∧
      currentRow existing claimed round = (some row, claimed)) ∨
    (byRoundKey existing round.roundKey = none ∧
      ((∃ row, adoptRow existing claimed round = some row ∧
          currentRow existing claimed round = (some row, claim claimed row)) ∨
        (adoptRow existing claimed round = none ∧
          currentRow existing claimed round = (none, claimed)))) := by
  unfold currentRow
  cases hkey : byRoundKey existing round.roundKey with
  | some row => exact Or.inl ⟨row, rfl, rfl⟩
  | none =>
    refine Or.inr ⟨rfl, ?_⟩
    cases hadopt : adoptRow existing claimed round with
    | some row => exact Or.inl ⟨row, rfl, rfl⟩
    | none => exact Or.inr ⟨rfl, rfl⟩

lemma currentRow_of_key (h : byRoundKey existing round.roundKey = some row) (claimed : Finset ℤ) :
    currentRow existing claimed round = (some row, claimed) := by
  unfold currentRow
  rw [h]

lemma currentRow_of_adopt (hkey : byRoundKey existing round.roundKey = none)
    (hadopt : adoptRow existing claimed round = some row) :
    currentRow existing claimed round = (some row, claim claimed row) := by
  unfold currentRow
  rw [hkey, hadopt]

section claims

variable {existing : List Position}

lemma subset_currentRow (claimed : Finset ℤ) (round : LedgerRound) :
    claimed ⊆ (currentRow existing claimed round).2 := by
  rcases currentRow_cases existing claimed round with
    ⟨row, -, h⟩ | ⟨-, ⟨row, -, h⟩ | ⟨-, h⟩⟩
  · rw [h]
  · rw [h]
    intro i hi
    exact mem_claim.mpr (Or.inr hi)
  · rw [h]

lemma map_fst_claims (claimed : Finset ℤ) (rounds : List LedgerRound) :
    (claims existing claimed rounds).map (·.1) = rounds := by
  induction rounds generalizing claimed with
  | nil => rfl
  | cons round rounds ih => rw [claims, map_cons, ih]

variable {c : LedgerRound × Option Position} {claimed : Finset ℤ} {rounds : List LedgerRound}

lemma of_mem_claims (hc : c ∈ claims existing claimed rounds) :
    (∀ row, c.2 = some row → row ∈ existing ∧
      (row.roundKey = some c.1.roundKey ∨
        (byRoundKey existing c.1.roundKey = none ∧ Matches c.1 row ∧
          isFree claimed row = true))) ∧
    (c.2 = none → byRoundKey existing c.1.roundKey = none) := by
  induction rounds generalizing claimed with
  | nil => cases hc
  | cons round rounds ih =>
    rcases mem_cons.mp hc with rfl | hc
    · rcases currentRow_cases existing claimed round with
        ⟨row, hkey, h⟩ | ⟨hkey, ⟨row, hadopt, h⟩ | ⟨-, h⟩⟩ <;> rw [h]
      · refine ⟨?_, fun h => by cases h⟩
        rintro _ ⟨⟩
        obtain ⟨hmem, hrow⟩ := byRoundKey_eq_some hkey
        exact ⟨hmem, Or.inl hrow⟩
      · refine ⟨?_, fun h => by cases h⟩
        rintro _ ⟨⟩
        obtain ⟨hmem, hmatches, hfree⟩ := adoptRow_eq_some hadopt
        exact ⟨hmem, Or.inr ⟨hkey, hmatches, hfree⟩⟩
      · exact ⟨fun _ h => (by cases h), fun _ => hkey⟩
    · obtain ⟨hsome, hnone⟩ := ih hc
      refine ⟨?_, hnone⟩
      intro row hrow
      obtain ⟨hmem, h⟩ := hsome row hrow
      refine ⟨hmem, h.imp_right ?_⟩
      rintro ⟨hkey, hmatches, hfree⟩
      obtain ⟨i, hid, hi⟩ := isFree_iff.mp hfree
      exact ⟨hkey, hmatches,
        isFree_iff.mpr ⟨i, hid, fun h => hi (subset_currentRow claimed round h)⟩⟩

lemma fst_mem_of_mem_claims (hc : c ∈ claims existing claimed rounds) : c.1 ∈ rounds := by
  have hmem := mem_map_of_mem (f := fun c : LedgerRound × Option Position => c.1) hc
  rwa [map_fst_claims] at hmem

lemma claims_unique (hrounds : (rounds.map (·.roundKey)).Nodup) {c' : LedgerRound × Option Position}
    (hc : c ∈ claims existing claimed rounds) (hc' : c' ∈ claims existing claimed rounds)
    (hkey : c.1.roundKey = c'.1.roundKey) : c = c' := by
  have hnodup : ((claims existing claimed rounds).map fun c => c.1.roundKey).Nodup := by
    rw [← @map_fst_claims existing claimed rounds, map_map] at hrounds
    exact hrounds
  exact inj_on_of_nodup_map hnodup hc hc' hkey

variable {row : Position}

lemma ne_of_mem_claims {round : LedgerRound} (hrounds : ((round :: rounds).map (·.roundKey)).Nodup)
    {row' : Position} (hrow : (currentRow existing claimed round).1 = some row)
    (hc : c ∈ claims existing (currentRow existing claimed round).2 rounds)
    (hrow' : c.2 = some row') : row ≠ row' := by
  rintro rfl
  have hcround : c.1.roundKey ≠ round.roundKey := by
    intro heq
    apply (nodup_cons.mp hrounds).1
    exact mem_map.mpr ⟨c.1, fst_mem_of_mem_claims hc, heq⟩
  obtain ⟨-, hcase⟩ := (of_mem_claims hc).1 row hrow'
  rcases currentRow_cases existing claimed round with
    ⟨x, hkey, h⟩ | ⟨-, ⟨x, hadopt, h⟩ | ⟨-, h⟩⟩
  · obtain rfl : x = row := by simpa [h] using hrow
    obtain ⟨-, hxkey⟩ := byRoundKey_eq_some hkey
    rcases hcase with hkey' | ⟨-, hmatches, -⟩
    · rw [hxkey] at hkey'
      exact hcround (Option.some.inj hkey').symm
    · rw [hmatches.unkeyed] at hxkey
      cases hxkey
  · obtain rfl : x = row := by simpa [h] using hrow
    obtain ⟨-, hmatches, -⟩ := adoptRow_eq_some hadopt
    rcases hcase with hkey' | ⟨-, -, hfree⟩
    · rw [hmatches.unkeyed] at hkey'
      cases hkey'
    · -- the later round found the row free although it was claimed
      obtain ⟨i, hi, hunclaimed⟩ := isFree_iff.mp hfree
      apply hunclaimed
      rw [h]
      exact mem_claim.mpr (Or.inl hi)
  · rw [h] at hrow
    cases hrow

lemma nodup_claimed (hid : (existing.map (·.id)).Nodup) {claimed : Finset ℤ}
    {rounds : List LedgerRound} (hrounds : (rounds.map (·.roundKey)).Nodup) :
    ((claims existing claimed rounds).filterMap fun c => c.2.map (·.id)).Nodup := by
  induction rounds generalizing claimed with
  | nil => exact nodup_nil
  | cons round rounds ih =>
    have ih' := @ih (currentRow existing claimed round).2 (nodup_cons.mp hrounds).2
    rw [claims]
    cases hcurrent : (currentRow existing claimed round).1 with
    | none => rwa [filterMap_cons_none (by rfl)]
    | some row =>
      rw [filterMap_cons_some (by rfl)]
      refine nodup_cons.mpr ⟨?_, ih'⟩
      intro hi
      obtain ⟨c, hc, hci⟩ := mem_filterMap.mp hi
      obtain ⟨row', hrow', hid'⟩ := Option.map_eq_some_iff.mp hci
      have hhead : (round, some row) ∈ claims existing claimed (round :: rounds) := by
        rw [claims, hcurrent]
        exact mem_cons_self
      obtain ⟨hmem, -⟩ := (of_mem_claims hhead).1 row rfl
      obtain ⟨hmem', -⟩ := (of_mem_claims hc).1 row' hrow'
      exact ne_of_mem_claims hrounds hcurrent hc hrow'
        (inj_on_of_nodup_map hid hmem hmem' hid'.symm)

lemma claim_unique (hid : (existing.map (·.id)).Nodup) (hrounds : (rounds.map (·.roundKey)).Nodup)
    {round round' : LedgerRound} (hc : (round, some row) ∈ claims existing claimed rounds)
    (hc' : (round', some row) ∈ claims existing claimed rounds) : round = round' := by
  have heq := eq_of_key (nodup_claimed hid hrounds) hc hc' rfl rfl
  exact (Prod.mk.inj heq).1

lemma claimed_of_matches {pre post : List LedgerRound} {round : LedgerRound}
    (hrounds : ((pre ++ round :: post).map (·.roundKey)).Nodup)
    (hnone : (round, none) ∈ claims existing claimed (pre ++ round :: post)) (hmem : row ∈ existing)
    {i : ℤ} (hi : row.id = some i) (hmatches : Matches round row) :
    i ∈ claimed ∨ ∃ earlier ∈ pre, ∃ row', row'.id = some i ∧
      (earlier, some row') ∈ claims existing claimed (pre ++ round :: post) := by
  induction pre generalizing claimed with
  | nil =>
    have hhead : (round, (currentRow existing claimed round).1) ∈
        claims existing claimed ([] ++ round :: post) := mem_cons_self
    have hcurrent := (Prod.mk.inj (claims_unique hrounds hhead hnone rfl)).2
    rcases currentRow_cases existing claimed round with
      ⟨x, -, h⟩ | ⟨-, ⟨x, -, h⟩ | ⟨hadopt, -⟩⟩
    · rw [h] at hcurrent
      cases hcurrent
    · rw [h] at hcurrent
      cases hcurrent
    · have hfree := adoptRow_eq_none hadopt hmem hmatches
      left
      by_contra hnot
      rw [isFree_iff.mpr ⟨i, hi, hnot⟩] at hfree
      cases hfree
  | cons first pre ih =>
    obtain ⟨hfirst, hrounds'⟩ := nodup_cons.mp hrounds
    have hround : round ≠ first := by
      rintro rfl
      exact hfirst (mem_map_of_mem (by simp))
    have hnone' : (round, none) ∈
        claims existing (currentRow existing claimed first).2 (pre ++ round :: post) := by
      rcases mem_cons.mp hnone with heq | h
      · exact absurd (Prod.mk.inj heq).1 hround
      · exact h
    rcases ih hrounds' hnone' with h | ⟨earlier, hearlier, row', hid', hclaim⟩
    · rcases currentRow_cases existing claimed first with
        ⟨x, -, hx⟩ | ⟨-, ⟨x, -, hx⟩ | ⟨-, hx⟩⟩
      · rw [hx] at h
        exact Or.inl h
      · rw [hx] at h
        rcases mem_claim.mp h with hid' | h
        · refine Or.inr ⟨first, mem_cons_self, x, hid', ?_⟩
          have hhead : (first, (currentRow existing claimed first).1) ∈
              claims existing claimed (first :: pre ++ round :: post) := mem_cons_self
          rwa [hx] at hhead
        · exact Or.inl h
      · rw [hx] at h
        exact Or.inl h
    · exact Or.inr ⟨earlier, mem_cons_of_mem _ hearlier, row', hid',
        mem_cons_of_mem _ hclaim⟩

end claims

/-! ## The rows after a plan -/

section plan

variable {rounds : List LedgerRound} {existing : List Position} {context : SyncContext}
  {p : Position}

lemma mem_inserts (hp : p ∈ (planPositionWrites rounds existing context).inserts) :
    ∃ round, (round, none) ∈ claims existing ∅ rounds ∧ p.roundKey = some round.roundKey := by
  obtain ⟨w, hw, hins⟩ := mem_filterMap.mp hp
  obtain ⟨⟨round, current⟩, hc, hwrite⟩ := mem_filterMap.mp hw
  cases w with
  | insert q =>
    obtain rfl : q = p := by simpa [PositionWrite.inserted] using hins
    obtain ⟨hnone, hkey⟩ := writeFor_insert hwrite
    dsimp only at hnone
    exact ⟨round, hnone ▸ hc, hkey⟩
  | update q => cases hins

lemma mem_insertedRows {freshIds : List ℤ} {q : Position}
    (hq : q ∈ insertedRows (planPositionWrites rounds existing context) freshIds) :
    ∃ round, (round, none) ∈ claims existing ∅ rounds ∧ q.roundKey = some round.roundKey := by
  obtain ⟨⟨p, i⟩, hp, rfl⟩ := mem_map.mp hq
  obtain ⟨round, hc, hkey⟩ := mem_inserts (of_mem_zip hp).1
  exact ⟨round, hc, hkey⟩

lemma mem_updates (hp : p ∈ (planPositionWrites rounds existing context).updates) :
    ∃ round row, (round, some row) ∈ claims existing ∅ rounds ∧
      writeFor context round (some row) = some (.update p) := by
  obtain ⟨w, hw, hupd⟩ := mem_filterMap.mp hp
  obtain ⟨⟨round, current⟩, hc, hwrite⟩ := mem_filterMap.mp hw
  cases w with
  | insert q => cases hupd
  | update q =>
    obtain rfl : q = p := by simpa [PositionWrite.updated] using hupd
    dsimp only at hwrite
    obtain ⟨row, rfl, -⟩ := writeFor_update hwrite
    exact ⟨round, row, hc, hwrite⟩

variable {row : Position}

lemma applyUpdate_cases (rounds : List LedgerRound) (context : SyncContext)
    (hid : (existing.map (·.id)).Nodup) (hrow : row ∈ existing) :
    applyUpdate (planPositionWrites rounds existing context) row = row ∨
    ∃ round, (round, some row) ∈ claims existing ∅ rounds ∧
      writeFor context round (some row) =
        some (.update (applyUpdate (planPositionWrites rounds existing context) row)) := by
  unfold applyUpdate
  cases hfind : (planPositionWrites rounds existing context).updates.find? _ with
  | none => exact Or.inl rfl
  | some p =>
    right
    obtain ⟨round, row', hc, hwrite⟩ := mem_updates (mem_of_find?_eq_some hfind)
    obtain ⟨x, hx, hpid, -⟩ := writeFor_update hwrite
    obtain rfl := Option.some.inj hx
    have hprow : p.id = row.id := by
      have := List.find?_some hfind
      simp only [Bool.and_eq_true, beq_iff_eq] at this
      exact this.2
    obtain ⟨hmem', -⟩ := (of_mem_claims hc).1 row' rfl
    obtain rfl := inj_on_of_nodup_map hid hmem' hrow (hpid.symm.trans hprow)
    exact ⟨round, hc, hwrite⟩

lemma applyUpdate_roundKey (rounds : List LedgerRound) (context : SyncContext)
    (hid : (existing.map (·.id)).Nodup) (hrow : row ∈ existing) :
    (applyUpdate (planPositionWrites rounds existing context) row).roundKey = row.roundKey ∨
    ∃ round, (round, some row) ∈ claims existing ∅ rounds ∧
      (applyUpdate (planPositionWrites rounds existing context) row).roundKey =
        some round.roundKey := by
  rcases applyUpdate_cases rounds context hid hrow with
    h | ⟨round, hc, hwrite⟩
  · rw [h]
    exact Or.inl rfl
  · obtain ⟨-, -, -, hkey⟩ := writeFor_update hwrite
    exact Or.inr ⟨round, hc, hkey⟩

lemma nodup_updates (context : SyncContext) (hrounds : (rounds.map (·.roundKey)).Nodup)
    (hid : (existing.map (·.id)).Nodup) :
    ((planPositionWrites rounds existing context).updates.map (·.id)).Nodup := by
  have hclaimed := pairwise_filterMap.mp (@nodup_claimed existing hid ∅ rounds hrounds)
  refine pairwise_map.mpr (pairwise_filterMap.mpr (pairwise_filterMap.mpr ?_))
  refine hclaimed.imp ?_
  rintro ⟨round, current⟩ ⟨round', current'⟩ hne w hw w' hw' p hp p' hp'
  cases w with
  | insert q => cases hp
  | update q =>
    cases w' with
    | insert q' => cases hp'
    | update q' =>
      obtain rfl := Option.some.inj hp
      obtain rfl := Option.some.inj hp'
      obtain ⟨row, hrow, hq, -⟩ := writeFor_update hw
      obtain ⟨row', hrow', hq', -⟩ := writeFor_update hw'
      rw [hq, hq']
      refine hne row.id ?_ row'.id ?_
      · exact Option.map_eq_some_iff.mpr ⟨row, hrow, rfl⟩
      · exact Option.map_eq_some_iff.mpr ⟨row', hrow', rfl⟩

lemma applyUpdate_of_claim (hrounds : (rounds.map (·.roundKey)).Nodup)
    (hid : (existing.map (·.id)).Nodup) {round : LedgerRound}
    (hc : (round, some row) ∈ claims existing ∅ rounds) (hsome : row.id.isSome = true)
    (hwrite : writeFor context round (some row) = some (.update p)) :
    applyUpdate (planPositionWrites rounds existing context) row = p := by
  obtain ⟨i, hi⟩ := Option.isSome_iff_exists.mp hsome
  obtain ⟨x, hx, hpid, -⟩ := writeFor_update hwrite
  obtain rfl := Option.some.inj hx
  have hmem : p ∈ (planPositionWrites rounds existing context).updates :=
    mem_filterMap.mpr ⟨.update p, mem_filterMap.mpr ⟨_, hc, hwrite⟩, rfl⟩
  have hids := nodup_filterMap_of_map (nodup_updates context hrounds hid)
  have hfind := find?_key hids hmem (hpid.trans hi)
  unfold applyUpdate
  rw [hi]
  have hsame : (fun update : Position => update.id.isSome && update.id == some i) =
      fun update => update.id == some i := by
    funext update
    cases update.id <;> simp
  rw [hsame, hfind]
  rfl

lemma eq_of_keyed_claim (hkeys : (existing.filterMap (·.roundKey)).Nodup) {claimed : Finset ℤ}
    {round : LedgerRound} {x : Position} (hc : (round, some row) ∈ claims existing claimed rounds)
    (hx : x ∈ existing) (hkey : x.roundKey = some round.roundKey) : x = row := by
  obtain ⟨hmem, hcase⟩ := (of_mem_claims hc).1 row rfl
  rcases hcase with hrow | ⟨hnone, -, -⟩
  · exact eq_of_key hkeys hx hmem hkey hrow
  · exact absurd hkey (byRoundKey_eq_none.mp hnone x hx)

lemma nodup_keys_updated (hrounds : (rounds.map (·.roundKey)).Nodup)
    (hid : (existing.map (·.id)).Nodup) (hkeys : (existing.filterMap (·.roundKey)).Nodup) :
    (existing.filterMap fun row =>
      (applyUpdate (planPositionWrites rounds existing context) row).roundKey).Nodup := by
  refine nodup_keys (List.Nodup.of_map _ hid) ?_
  intro a ha b hb k hak hbk
  rcases applyUpdate_roundKey rounds context hid ha with
    h | ⟨round, hc, h⟩ <;>
  rcases applyUpdate_roundKey rounds context hid hb with
    h' | ⟨round', hc', h'⟩
  · exact eq_of_key hkeys ha hb (h ▸ hak) (h' ▸ hbk)
  · rw [h] at hak
    rw [h'] at hbk
    exact eq_of_keyed_claim hkeys hc' ha (hak.trans hbk.symm)
  · rw [h] at hak
    rw [h'] at hbk
    exact (eq_of_keyed_claim hkeys hc hb (hbk.trans hak.symm)).symm
  · rw [h] at hak
    rw [h'] at hbk
    have hkey : round.roundKey = round'.roundKey := Option.some.inj (hak.trans hbk.symm)
    have heq := claims_unique hrounds hc hc' hkey
    exact Option.some.inj (Prod.mk.inj heq).2

lemma nodup_roundKeys_of_claims (hrounds : (rounds.map (·.roundKey)).Nodup)
    {g : LedgerRound × Option Position → Option Position}
    (hg : ∀ c p, g c = some p → p.roundKey = some c.1.roundKey) :
    (((claims existing ∅ rounds).filterMap g).map (·.roundKey)).Nodup := by
  have hkeys : ((claims existing ∅ rounds).map fun c => c.1.roundKey).Nodup := by
    rw [← @map_fst_claims existing ∅ rounds, map_map] at hrounds
    exact hrounds
  refine pairwise_map.mpr (pairwise_filterMap.mpr ?_)
  refine (pairwise_map.mp hkeys).imp ?_
  intro c c' hne p hp p' hp' heq
  rw [hg c p hp, hg c' p' hp'] at heq
  exact hne (Option.some.inj heq)

lemma inserts_eq : (planPositionWrites rounds existing context).inserts =
    (claims existing ∅ rounds).filterMap fun c =>
      (writeFor context c.1 c.2).bind PositionWrite.inserted :=
  filterMap_filterMap ..

lemma updates_eq : (planPositionWrites rounds existing context).updates =
    (claims existing ∅ rounds).filterMap fun c =>
      (writeFor context c.1 c.2).bind PositionWrite.updated :=
  filterMap_filterMap ..

lemma nodup_roundKeys_writes (existing : List Position) (context : SyncContext)
    (hrounds : (rounds.map (·.roundKey)).Nodup) :
    (((planPositionWrites rounds existing context).inserts ++
      (planPositionWrites rounds existing context).updates).map (·.roundKey)).Nodup := by
  rw [map_append]
  refine nodup_append'.mpr ⟨?_, ?_, ?_⟩
  · rw [inserts_eq]
    refine nodup_roundKeys_of_claims hrounds ?_
    intro c p hp
    obtain ⟨w, hw, hins⟩ := Option.bind_eq_some_iff.mp hp
    cases w with
    | insert q =>
      obtain rfl := Option.some.inj hins
      exact (writeFor_insert hw).2
    | update q => cases hins
  · rw [updates_eq]
    refine nodup_roundKeys_of_claims hrounds ?_
    intro c p hp
    obtain ⟨w, hw, hupd⟩ := Option.bind_eq_some_iff.mp hp
    cases w with
    | insert q => cases hupd
    | update q =>
      obtain rfl := Option.some.inj hupd
      obtain ⟨-, -, -, hkey⟩ := writeFor_update hw
      exact hkey
  · intro k hk hk'
    obtain ⟨p, hp, rfl⟩ := mem_map.mp hk
    obtain ⟨q, hq, hqk⟩ := mem_map.mp hk'
    obtain ⟨round, hc, hpk⟩ := mem_inserts hp
    obtain ⟨round', row, hc', hwrite⟩ := mem_updates hq
    obtain ⟨-, -, -, hqk'⟩ := writeFor_update hwrite
    have hsame : round.roundKey = round'.roundKey :=
      Option.some.inj (hpk.symm.trans (hqk.symm.trans hqk'))
    cases claims_unique hrounds hc hc' hsame

lemma insert_key_fresh (hrounds : (rounds.map (·.roundKey)).Nodup)
    (hid : (existing.map (·.id)).Nodup)
    (hp : p ∈ (planPositionWrites rounds existing context).inserts) (hrow : row ∈ existing) :
    row.roundKey ≠ p.roundKey ∧
      (applyUpdate (planPositionWrites rounds existing context) row).roundKey ≠ p.roundKey := by
  obtain ⟨round, hc, hpk⟩ := mem_inserts hp
  have hfresh : row.roundKey ≠ p.roundKey := by
    rw [hpk]
    exact byRoundKey_eq_none.mp ((of_mem_claims hc).2 rfl) row hrow
  refine ⟨hfresh, ?_⟩
  rcases applyUpdate_roundKey rounds context hid hrow with
    h | ⟨round', hc', h⟩
  · rw [h]
    exact hfresh
  · rw [h, hpk]
    intro heq
    cases claims_unique hrounds hc hc' (Option.some.inj heq).symm

lemma nodup_keys_applyPlan (hrounds : (rounds.map (·.roundKey)).Nodup)
    (hid : (existing.map (·.id)).Nodup) (hkeys : (existing.filterMap (·.roundKey)).Nodup)
    (freshIds : List ℤ) :
    ((applyPlan existing (planPositionWrites rounds existing context) freshIds).filterMap
      (·.roundKey)).Nodup := by
  unfold applyPlan insertedRows
  rw [filterMap_append, filterMap_map, filterMap_map]
  refine nodup_append'.mpr ⟨nodup_keys_updated hrounds hid hkeys, ?_, ?_⟩
  · have hwrites := nodup_roundKeys_writes existing context hrounds
    rw [map_append] at hwrites
    have hinserts := nodup_filterMap_of_map (nodup_append'.mp hwrites).1
    have hzip := (map_fst_zip_sublist (planPositionWrites rounds existing context).inserts
      freshIds).filterMap (·.roundKey)
    rw [filterMap_map] at hzip
    exact hinserts.sublist hzip
  · intro k hk hk'
    obtain ⟨row, hrow, hrowk⟩ := mem_filterMap.mp hk
    obtain ⟨⟨p, i⟩, hp, hpk⟩ := mem_filterMap.mp hk'
    have hfresh := (insert_key_fresh hrounds hid (of_mem_zip hp).1 hrow).2
    exact hfresh (hrowk.trans hpk.symm)

/-- **One round, one row**: what the writes of a plan are. -/
structure OneRowARound (rounds : List LedgerRound) (existing : List Position)
    (plan : SyncPlan) : Prop where
  /-- every write is of a round of the plan -/
  writeOfRound : ∀ p ∈ plan.inserts ++ plan.updates, ∃ round ∈ rounds,
    p.roundKey = some round.roundKey
  /-- a round has at most one write, and no two writes carry one key -/
  writesDistinct : ((plan.inserts ++ plan.updates).map (·.roundKey)).Nodup
  /-- an update is of a row that exists -/
  updateOfRow : ∀ p ∈ plan.updates, ∃ row ∈ existing, p.id = row.id
  /-- no row is updated twice -/
  updatesDistinct : (plan.updates.map (·.id)).Nodup
  /-- no existing row carries the key of an insert -/
  insertsFresh : ∀ p ∈ plan.inserts, ∀ row ∈ existing, row.roundKey ≠ p.roundKey
  /-- no two rows carry one key afterwards -/
  keysDistinct : ∀ freshIds,
    ((applyPlan existing plan freshIds).filterMap (·.roundKey)).Nodup
  /-- whatever row an inserted round matches by signature, an earlier round has claimed -/
  matchesClaimed : ∀ pre round post, rounds = pre ++ round :: post →
    (∃ p ∈ plan.inserts, p.roundKey = some round.roundKey) →
    ∀ row ∈ existing, row.id.isSome = true → Matches round row →
    ∃ earlier ∈ pre, (earlier, some row) ∈ claims existing ∅ rounds

/-- **Every plan writes one row a round**: whatever the rounds are, as long as their keys are
distinct, and whatever rows there are, as long as their ids and their keys are. -/
theorem planPositionWrites_oneRowARound (rounds : List LedgerRound) (existing : List Position)
    (context : SyncContext) (hrounds : (rounds.map (·.roundKey)).Nodup)
    (hid : (existing.map (·.id)).Nodup) (hkeys : (existing.filterMap (·.roundKey)).Nodup) :
    OneRowARound rounds existing (planPositionWrites rounds existing context) where
  writeOfRound := by
    intro p hp
    rcases mem_append.mp hp with hp | hp
    · obtain ⟨round, hc, hkey⟩ := mem_inserts hp
      exact ⟨round, fst_mem_of_mem_claims hc, hkey⟩
    · obtain ⟨round, row, hc, hwrite⟩ := mem_updates hp
      obtain ⟨-, -, -, hkey⟩ := writeFor_update hwrite
      exact ⟨round, fst_mem_of_mem_claims hc, hkey⟩
  writesDistinct := nodup_roundKeys_writes existing context hrounds
  updateOfRow := by
    intro p hp
    obtain ⟨round, row, hc, hwrite⟩ := mem_updates hp
    obtain ⟨x, hx, hpid, -⟩ := writeFor_update hwrite
    obtain rfl := Option.some.inj hx
    exact ⟨row, ((of_mem_claims hc).1 row rfl).1, hpid⟩
  updatesDistinct := nodup_updates context hrounds hid
  insertsFresh := fun _ hp _ hrow => (insert_key_fresh hrounds hid hp hrow).1
  keysDistinct := nodup_keys_applyPlan hrounds hid hkeys
  matchesClaimed := by
    rintro pre round post rfl ⟨p, hp, hkey⟩ row hrow hsome hmatches
    obtain ⟨i, hi⟩ := Option.isSome_iff_exists.mp hsome
    obtain ⟨round', hc, hkey'⟩ := mem_inserts hp
    have hround : round' = round := by
      refine inj_on_of_nodup_map hrounds (fst_mem_of_mem_claims hc) (by simp) ?_
      exact Option.some.inj (hkey'.symm.trans hkey)
    subst hround
    rcases claimed_of_matches hrounds hc hrow hi hmatches with
      h | ⟨earlier, hearlier, row', hid', hclaim⟩
    · exact absurd h (Finset.notMem_empty i)
    · obtain ⟨hmem', -⟩ := (of_mem_claims hclaim).1 row' rfl
      obtain rfl := inj_on_of_nodup_map hid hrow hmem' (hi.trans hid'.symm)
      exact ⟨earlier, hearlier, hclaim⟩

end plan

/-! ## Two rounds, one row -/

/-- A closed, fully priced round: bought for 2 SOL, sold for 3. Source: `round` -/
def testRound (mint roundKey : String) : LedgerRound where
  mint := mint
  decimals := 6
  roundKey := roundKey
  openedAt := some 1600000000
  closedAt := some 1600001000
  isOpen := false
  balanceRaw := 0
  totalAcquiredRaw := 1000000
  totalDisposedRaw := 1000000
  entryCount := 1
  exitCount := 1
  investedSol := 2
  remainingBasisSol := 0
  realizedProceedsSol := 3
  realizedCostSol := 2
  averageEntryPriceSol := some 2
  averageExitPriceSol := some 3
  realizedPnlSol := some 1
  basisComplete := true
  historyComplete := true
  entrySignature := some "open-sig"
  exitSignature := some "close-sig"
  events := []

/-- Still held: bought for 2 SOL, nothing sold. Source: `open_round` -/
def testOpenRound (mint roundKey : String) : LedgerRound :=
  { testRound mint roundKey with
    closedAt := none
    isOpen := true
    balanceRaw := 1000000
    totalDisposedRaw := 0
    exitCount := 0
    remainingBasisSol := 2
    realizedProceedsSol := 0
    realizedCostSol := 0
    averageExitPriceSol := none
    realizedPnlSol := none
    exitSignature := none }

/-- A context with nothing in it. Source: `no_metadata`, `no_legs`, `no_busy`, `now` -/
def testContext : SyncContext := ⟨fun _ => none, fun _ => none, ∅, 1700000000 * 10 ^ 9⟩

/-- The row of a position the trader opened and verified itself for the buy a round was reduced
from, still open on its books. Source: `bot_position` -/
def botPosition (round : LedgerRound) : Position :=
  { buildPosition round RoundMetadata.default none testContext.now with
    id := some 1
    origin := .auto (some "momentum")
    management := .autoTrader
    roundKey := none
    totalSizeSol := 2
    entrySizeSol := 2
    exitTime := none
    exitPrice := none
    effectiveExitPrice := none
    averageExitPrice := none
    exitTransactionSignature := none
    transactionExitVerified := false
    closedReason := none
    solReceived := none
    pnl := none
    pnlPercent := none
    remainingTokenAmount := some (clampRaw round.totalAcquiredRaw)
    totalExitedAmount := 0 }

/-- The plan of two rounds of one signature over one row of the bot. -/
theorem planPositionWrites_oneRowARound_bot :
    OneRowARound [testRound "MINT" "open-sig:MINT", testOpenRound "MINT" "second-sig:MINT"]
      [botPosition (testRound "MINT" "open-sig:MINT")]
      (planPositionWrites
        [testRound "MINT" "open-sig:MINT", testOpenRound "MINT" "second-sig:MINT"]
        [botPosition (testRound "MINT" "open-sig:MINT")] testContext) :=
  planPositionWrites_oneRowARound _ _ _ (by decide) (by decide) (by decide)

/-- A round that matches a row by signature may still be inserted: the second of two rounds of one
signature, whose row the first has claimed. -/
theorem not_inserts_unmatched :
    ¬ ∀ (rounds : List LedgerRound) (existing : List Position) (context : SyncContext),
      (rounds.map (·.roundKey)).Nodup → (existing.map (·.id)).Nodup →
      (existing.filterMap (·.roundKey)).Nodup → (∀ row ∈ existing, row.id.isSome = true) →
      ∀ round ∈ rounds, (∃ row ∈ existing, Matches round row) →
      some round.roundKey ∉
        (planPositionWrites rounds existing context).inserts.map (·.roundKey) := by
  intro h
  have hmatches : Matches (testOpenRound "MINT" "second-sig:MINT")
      (botPosition (testRound "MINT" "open-sig:MINT")) :=
    ⟨rfl, rfl, "open-sig", by decide, rfl⟩
  refine h [testRound "MINT" "open-sig:MINT", testOpenRound "MINT" "second-sig:MINT"]
    [botPosition (testRound "MINT" "open-sig:MINT")] testContext (by decide) (by decide)
    (by decide) (by decide) (testOpenRound "MINT" "second-sig:MINT") (by decide)
    ⟨_, mem_singleton.mpr rfl, hmatches⟩ ?_
  decide +kernel

/-! ## A row that booked its own exit -/

/-- The token amounts, the basis, the prices, the proceeds and the P&L that an exit settles. -/
def settledFigures (position : Position) :=
  (position.remainingTokenAmount, position.tokenAmount, position.totalExitedAmount,
    position.entrySizeSol, position.totalSizeSol, position.averageEntryPrice, position.exitPrice,
    position.effectiveExitPrice, position.averageExitPrice, position.solReceived, position.pnl,
    position.pnlPercent)

/-- **A settled row stays as it was booked exactly where the wallet shows no more and, while the
round is open, no less than the row claims**: both are looked at before the exit is. -/
theorem settledFigures_iff (existing : Position) (round : LedgerRound) (metadata : RoundMetadata)
    (legs : Option TraderLegs) (now : DateTime) :
    (existing.exitTime.isSome = true →
      settledFigures (reconcileOwnedPosition existing round metadata legs now) =
        settledFigures existing) ↔
    (existing.exitTime.isSome = true → growsExternally existing round = false ∧
      (round.isOpen = true → existing.remainingTokenAmount.getD 0 ≤ clampRaw round.balanceRaw)) := by
  refine imp_congr_right fun hexit => ?_
  rcases reconcileOwnedPosition_cases existing round metadata legs now with
    ⟨h, hkept, -⟩ | ⟨hopen, hshrunk, h⟩ | ⟨-, hnone, -⟩
  · rw [h, growOwnedPosition, and_iff_left hkept]
    cases hgrows : growsExternally existing round with
    | false => simp [settledFigures]
    | true =>
      refine iff_of_false (fun hsame => ?_) (by simp)
      have hremaining : some (clampRaw round.balanceRaw) = existing.remainingTokenAmount :=
        congrArg (·.1) hsame
      simp [growsExternally, ← hremaining] at hgrows
  · refine iff_of_false (fun hsame => ?_) fun hcond => absurd (hcond.2 hopen) (not_le.mpr hshrunk)
    rw [h] at hsame
    have hremaining : some (clampRaw round.balanceRaw) = existing.remainingTokenAmount :=
      congrArg (·.1) hsame
    simp [← hremaining] at hshrunk
  · simp [hnone] at hexit

/-- Five base units stay in the wallet after the exit: the settled row is grown by them. -/
theorem not_settled :
    ¬∀ (existing : Position) (round : LedgerRound) (metadata : RoundMetadata)
      (legs : Option TraderLegs) (now : DateTime), existing.exitTime.isSome = true →
      settledFigures (reconcileOwnedPosition existing round metadata legs now) =
        settledFigures existing := by
  intro h
  have hsame := h
    { botPosition (testRound "MINT" "open-sig:MINT") with
      exitTime := some testContext.now
      remainingTokenAmount := some 0
      totalExitedAmount := 1000000 }
    { testOpenRound "MINT" "open-sig:MINT" with balanceRaw := 5, totalDisposedRaw := 999995 }
    RoundMetadata.default none testContext.now rfl
  have hremaining : some 5 = some 0 := congrArg (·.1) hsame
  cases hremaining

end Dripline.Positions.Ledger
