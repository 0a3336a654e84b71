import Dripline.Found.First
import Dripline.Found.Trace
import Dripline.Positions.Outcome
import Dripline.Positions.State

/-!
# Rows that share a mint

A token that was traded before has several rows in memory. What is addressed by its mint may then
reach another row than the one meant.

* `changesOnlyOpen_iff` — a write by mint changes the open row only exactly when it comes first.
* `removesOnly_iff` — an orphan is removed alone exactly when it comes first, and no row left behind
  has a signature under its mint.
* `coherent_iff` — the signature index stays right exactly as long as no removal leaves another row
  of the mint behind, and no row brings a signature of another mint.
-/

namespace Dripline.Positions

open Dripline.Found.First Dripline.Found.Trace List

/-! ## Writes by mint -/

/-- A write addressed by mint on behalf of the open position. -/
inductive MintWrite
  | track (currentPrice : ℚ) (highest lowest : Option ℚ) (answers : Answers)
  | stampExit (signature : String) (exitPrice : ℚ) (exitReason : String)

/-- What the write makes of the row it reaches. -/
def MintWrite.updater : MintWrite → Position → Position
  | .track currentPrice highest lowest answers =>
    (·.priced currentPrice highest lowest answers.now)
  | .stampExit signature exitPrice exitReason =>
    (·.exitStamped signature exitPrice exitReason)

/-- The write: a price tick is a transition, an exit stamp is part of a close. -/
def MintWrite.run (write : MintWrite) (state : State) (mint : String) : State :=
  match write with
  | .track currentPrice highest lowest answers =>
    (state.apply answers answers (.updatePriceTracking mint currentPrice highest lowest)).1
  | .stampExit signature exitPrice exitReason =>
    state.stampExit mint signature exitPrice exitReason

lemma MintWrite.positions_run (write : MintWrite) (state : State) (mint : String) :
    (write.run state mint).store.positions =
      Store.updateFirst (·.mint == mint) write.updater state.store.positions := by
  cases write <;> rfl

/-- Two lists of rows are the same, but where `row` was. -/
def ChangesOnly (before after : List Position) (row : Option Position) : Prop :=
  ∀ i : ℕ, after[i]? = before[i]? ∨ before[i]? = row

lemma updateFirst_append {test : Position → Bool} (updater : Position → Position)
    {row : Position} (hrow : test row = true) {front back : List Position}
    (hfront : ∀ position ∈ front, test position = false) :
    Store.updateFirst test updater (front ++ row :: back) = front ++ updater row :: back := by
  induction front with
  | nil => simp [Store.updateFirst, hrow]
  | cons position front ih =>
    have hposition := hfront position mem_cons_self
    have htail := ih fun p hp => hfront p (mem_cons_of_mem _ hp)
    simp [Store.updateFirst, hposition, htail]

lemma changesOnly_updateFirst_iff (store : Store) (mint : String) (updater : Position → Position) :
    ChangesOnly store.positions (Store.updateFirst (·.mint == mint) updater store.positions)
        (store.getByMint mint) ↔
      ∀ row, store.positions.find? (·.mint == mint) = some row →
        row.isOpen = true ∨ updater row = row := by
  cases hfirst : store.positions.find? (·.mint == mint) with
  | none =>
    rw [Store.updateFirst_of_find?_none updater hfirst]
    exact iff_of_true (fun i => Or.inl rfl) (by simp)
  | some row =>
    obtain ⟨hmint, front, back, hsplit, hfront⟩ := List.find?_eq_some_iff_append.mp hfirst
    have hfront' : ∀ position ∈ front, (position.mint == mint) = false := by simpa using hfront
    simp only [Option.some.injEq, forall_eq']
    rw [hsplit, updateFirst_append updater hmint hfront']
    constructor
    · intro hchanges
      rcases hchanges front.length with hsame | hopen
      · exact Or.inr (by simpa using hsame)
      · -- the row found by mint is open
        have hfound : store.getByMint mint = some row := by
          rw [← hopen]
          simp
        have := List.find?_some hfound
        exact Or.inl (by simpa [hmint] using this)
    · rintro (hopen | hsame) i
      · by_cases hi : i = front.length
        · right
          have hfound : store.getByMint mint = some row := by
            unfold Store.getByMint
            refine List.find?_eq_some_iff_append.mpr
              ⟨(by simp [hmint, hopen]), front, back, hsplit, ?_⟩
            intro position hposition
            simp [hfront' position hposition]
          rw [hfound, hi]
          simp
        · left
          rcases Nat.lt_or_gt_of_ne hi with hlt | hgt
          · rw [List.getElem?_append_left hlt, List.getElem?_append_left hlt]
          · obtain ⟨k, rfl⟩ : ∃ k, i = front.length + (k + 1) := ⟨i - front.length - 1, by omega⟩
            rw [List.getElem?_append_right (by omega), List.getElem?_append_right (by omega),
              Nat.add_sub_cancel_left, List.getElem?_cons_succ, List.getElem?_cons_succ]
      · left
        rw [hsame]

/-- **A write by mint changes the open row only** exactly when the first row of the mint is the open
one, or has what is written already: a price tick, or the exit stamp of a close. -/
theorem changesOnlyOpen_iff (state : State) (mint : String) (write : MintWrite) :
    ChangesOnly state.store.positions (write.run state mint).store.positions
        (state.store.getByMint mint) ↔
      ∀ row, state.store.positions.find? (·.mint == mint) = some row →
        row.isOpen = true ∨ write.updater row = row := by
  rw [write.positions_run state mint]
  exact changesOnly_updateFirst_iff state.store mint write.updater

/-- A closed row and the open one of the same mint, in the order they were opened. -/
def tradedTwice : State :=
  let closed : Position :=
    { openedPosition (some 1) "MINT" "TKN" "Token" "open-1" 2 2 .manual .userOnly 0 with
      exitTime := some 10
      exitTransactionSignature := some "close-1"
      transactionExitVerified := true }
  ((State.empty ⟨4, {2}⟩).addPosition closed).addPosition
    (openedPosition (some 2) "MINT" "TKN" "Token" "open-2" 2 2 .manual .userOnly 20)

/-- A price tick of the open position is written to the closed row before it. -/
theorem not_changesOnlyOpen_tradedTwice :
    ¬ ∀ (state : State) (mint : String) (write : MintWrite),
      (state.store.positions.filter fun row => row.mint == mint && row.isOpen).length = 1 →
      ChangesOnly state.store.positions (write.run state mint).store.positions
        (state.store.getByMint mint) := by
  intro h
  rcases h tradedTwice "MINT" (.track 5 none none (.willing 30)) (by decide) 0 with hsame | hopen
  · exact absurd (congrArg (Option.map (·.currentPriceUpdated)) hsame) (by decide)
  · exact absurd (congrArg (Option.map (·.id)) hopen) (by decide)

/-! ## Orphans -/

/-- The row of an id is gone, and everything else is as it was: the other rows, what their
signatures resolve to, and their slots. -/
structure RemovesOnly (before after : State) (positionId : ℤ) : Prop where
  rows : after.store.positions = before.store.positions.eraseP (Store.isRow positionId)
  index : ∀ row ∈ before.store.positions.eraseP (Store.isRow positionId),
    ∀ signature ∈ row.signatures, after.sigToMint signature = before.sigToMint signature
  slots : ∀ other, other ≠ positionId →
    (other ∈ after.slots.holders ↔ other ∈ before.slots.holders)

lemma removeAllSignaturesForMint_eq_iff (index : String → Option String) (mint signature : String) :
    removeAllSignaturesForMint index mint signature = index signature ↔
      index signature ≠ some mint := by
  unfold removeAllSignaturesForMint
  cases index signature with
  | none => simp
  | some found => simp [Option.filter]

lemma Slots.mem_holders_release (slots : Slots) {positionId other : ℤ} (hne : other ≠ positionId) :
    other ∈ (slots.release positionId).holders ↔ other ∈ slots.holders := by
  unfold Slots.release
  split
  · simp [Slots.releasePermit, hne]
  · exact Iff.rfl

/-- **An orphan is removed alone** exactly when there is none of that id, or when its row is the
first of its mint and no other row has a signature that resolves to this mint. -/
theorem removesOnly_iff (state : State) (positionId : ℤ) (answers again : Answers) :
    RemovesOnly state (state.apply answers again (.removeOrphanEntry positionId)).1 positionId ↔
      ∀ row, state.store.get positionId = some row →
        state.store.positions.find? (·.mint == row.mint) = some row ∧
        ∀ other ∈ state.store.positions.eraseP (Store.isRow positionId),
          ∀ signature ∈ other.signatures, state.sigToMint signature ≠ some row.mint := by
  cases hrow : state.store.get positionId with
  | none =>
    rw [state.apply_removeOrphanEntry_of_none answers again hrow]
    refine iff_of_true ⟨?_, fun _ _ _ _ => rfl, fun _ _ => Iff.rfl⟩ (by simp)
    exact (eraseP_of_forall_not (List.find?_eq_none.mp hrow)).symm
  | some row =>
    -- some row of the mint is found, the orphan's own if it comes first
    obtain ⟨first, hfirst⟩ : ∃ first, state.store.positions.find? (·.mint == row.mint) =
        some first := by
      rw [← Option.isSome_iff_exists, List.find?_isSome]
      exact ⟨row, mem_of_find?_eq_some hrow, beq_self_eq_true _⟩
    have hmint : first.mint = row.mint := by simpa using List.find?_some hfirst
    have hpositions : (state.removePosition row.mint).store.positions =
        state.store.positions.eraseP (·.mint == row.mint) := by
      simp [State.removePosition, State.removeFirst, hfirst]
    have hindex : (state.removePosition row.mint).sigToMint =
        removeAllSignaturesForMint state.sigToMint row.mint := by
      simp [State.removePosition, State.removeFirst, hfirst, hmint]
    rw [state.apply_removeOrphanEntry_of_some answers again hrow]
    simp only [Option.some.injEq, forall_eq', hfirst]
    constructor
    · intro h
      refine ⟨(eraseP_eq_eraseP_iff hfirst hrow).mp (hpositions.symm.trans h.rows), ?_⟩
      intro other hother signature hsignature
      rw [← removeAllSignaturesForMint_eq_iff, ← hindex]
      exact h.index other hother signature hsignature
    · rintro ⟨rfl, hother⟩
      refine ⟨hpositions.trans ((eraseP_eq_eraseP_iff hfirst hrow).mpr rfl), ?_, ?_⟩
      · intro other hmem signature hsignature
        show (state.removePosition first.mint).sigToMint signature = _
        rw [hindex, removeAllSignaturesForMint_eq_iff]
        exact hother other hmem signature hsignature
      · intro other hne
        exact state.slots.mem_holders_release hne

/-- The open position of a token that was traded before is an orphan: the closed row goes. -/
theorem not_removesOnly_tradedTwice :
    ¬ ∀ (state : State) (positionId : ℤ) (answers again : Answers),
      RemovesOnly state (state.apply answers again (.removeOrphanEntry positionId)).1 positionId := by
  intro h
  have hrows := (h tradedTwice 2 (.willing 30) (.willing 30)).rows
  exact absurd (congrArg (List.map (·.id)) hrows) (by decide)

/-! ## The signature index -/

/-- An operation that adds or removes rows. -/
inductive IndexOp
  | add (position : Position)
  | remove (mint : String)
  | removeById (positionId : ℤ)
  | removeBySignature (signature : String)
  | removeOrphan (positionId : ℤ) (answers : Answers)
  | rebuild

/-- The state, and the rows that were removed from it. -/
structure Indexed where
  state : State
  removed : List Position

namespace Indexed

variable (indexed : Indexed)

/-- A step that removes the first row that passes, if there is one. -/
def without (test : Position → Bool) (after : State) : Indexed :=
  ⟨after, (indexed.state.store.positions.find? test).toList ++ indexed.removed⟩

/-- One operation. -/
def step : IndexOp → Indexed
  | .add position => ⟨indexed.state.addPosition position, indexed.removed⟩
  | .remove mint => indexed.without (·.mint == mint) (indexed.state.removePosition mint)
  | .removeById positionId =>
    indexed.without (Store.isRow positionId) (indexed.state.removePositionById positionId)
  | .removeBySignature signature =>
    indexed.without (State.carries signature) (indexed.state.removePositionBySignature signature)
  | .removeOrphan positionId answers =>
    match indexed.state.store.get positionId with
    | some row =>
      indexed.without (·.mint == row.mint)
        (indexed.state.apply answers answers (.removeOrphanEntry positionId)).1
    | none =>
      ⟨(indexed.state.apply answers answers (.removeOrphanEntry positionId)).1, indexed.removed⟩
  | .rebuild => ⟨indexed.state.rebuild, indexed.removed⟩

/-- Every signature of a row in memory resolves to its mint, and none that only removed rows have
resolves at all. -/
structure Coherent : Prop where
  held : ∀ row ∈ indexed.state.store.positions, ∀ signature ∈ row.signatures,
    indexed.state.sigToMint signature = some row.mint
  gone : ∀ row ∈ indexed.removed, ∀ signature ∈ row.signatures,
    (∀ kept ∈ indexed.state.store.positions, signature ∉ kept.signatures) →
      indexed.state.sigToMint signature = none

/-- The rows left behind when the first one that passes is removed. -/
def Leaves (test : Position → Bool) (keeps : Position → Position → Prop) : Prop :=
  ∀ removed, indexed.state.store.positions.find? test = some removed →
    ∀ other ∈ indexed.state.store.positions.eraseP test, keeps removed other

/-- A removal by mint or id leaves no other row of the mint with a signature; a removal by signature
leaves no row with a signature of the removed one; an added row has no signature that a row of
another mint has. -/
def KeepsApart : IndexOp → Prop
  | .add position =>
    ∀ row ∈ indexed.state.store.positions, ∀ signature ∈ row.signatures,
      signature ∈ position.signatures → row.mint = position.mint
  | .remove mint =>
    indexed.Leaves (·.mint == mint) fun removed other =>
      other.mint = removed.mint → other.signatures = []
  | .removeById positionId =>
    indexed.Leaves (Store.isRow positionId) fun removed other =>
      other.mint = removed.mint → other.signatures = []
  | .removeBySignature signature =>
    indexed.Leaves (State.carries signature) fun removed other =>
      ∀ s ∈ other.signatures, s ∉ removed.signatures
  | .removeOrphan positionId _ =>
    ∀ row, indexed.state.store.get positionId = some row →
      indexed.Leaves (·.mint == row.mint) fun removed other =>
        other.mint = removed.mint → other.signatures = []
  | .rebuild => True

variable {indexed}

lemma Coherent.congr {after : State} (h : indexed.Coherent)
    (hrows : after.store.positions = indexed.state.store.positions)
    (hindex : after.sigToMint = indexed.state.sigToMint) :
    (⟨after, indexed.removed⟩ : Indexed).Coherent := by
  constructor
  · simpa only [hrows, hindex] using h.held
  · simpa only [hrows, hindex] using h.gone

lemma coherent_without_iff (drops : String → Prop) {test : Position → Bool} {after : State}
    {removed : Position} (h : indexed.Coherent)
    (hfirst : indexed.state.store.positions.find? test = some removed)
    (hrows : after.store.positions = indexed.state.store.positions.eraseP test)
    (hdropped : ∀ signature, drops signature → after.sigToMint signature = none)
    (hkept : ∀ signature, ¬ drops signature →
      after.sigToMint signature = indexed.state.sigToMint signature)
    (hown : ∀ signature ∈ removed.signatures, drops signature) :
    (indexed.without test after).Coherent ↔
      ∀ other ∈ indexed.state.store.positions.eraseP test, ∀ signature ∈ other.signatures,
        ¬ drops signature := by
  have hremoved : (indexed.without test after).removed = removed :: indexed.removed := by
    simp [without, hfirst]
  constructor
  · intro hafter other hother signature hsignature hdrops
    have hheld : ∀ row ∈ after.store.positions, ∀ signature ∈ row.signatures,
        after.sigToMint signature = some row.mint := hafter.held
    have hresolved := hheld other (hrows ▸ hother) signature hsignature
    rw [hdropped signature hdrops] at hresolved
    cases hresolved
  · intro hleaves
    constructor
    · show ∀ row ∈ after.store.positions, ∀ signature ∈ row.signatures,
        after.sigToMint signature = some row.mint
      intro row hrow signature hsignature
      rw [hrows] at hrow
      rw [hkept signature (hleaves row hrow signature hsignature)]
      exact h.held row (mem_of_mem_eraseP hrow) signature hsignature
    · show ∀ row ∈ (indexed.without test after).removed, ∀ signature ∈ row.signatures,
        (∀ kept ∈ after.store.positions, signature ∉ kept.signatures) →
          after.sigToMint signature = none
      intro row hrow signature hsignature hnone
      rw [hrows] at hnone
      by_cases hdrops : drops signature
      · exact hdropped signature hdrops
      · -- the signature is not the removed row's, so no row had it
        rw [hkept signature hdrops]
        rw [hremoved] at hrow
        rcases mem_cons.mp hrow with rfl | hrow
        · exact absurd (hown signature hsignature) hdrops
        · refine h.gone row hrow signature hsignature fun kept hmem hcarried => ?_
          rcases eq_or_mem_eraseP hfirst hmem with rfl | hmem
          · exact hdrops (hown signature hcarried)
          · exact hnone kept hmem hcarried

lemma coherent_removeFirst_iff (h : indexed.Coherent) (test : Position → Bool) :
    (indexed.without test (indexed.state.removeFirst test)).Coherent ↔
      indexed.Leaves test fun removed other => other.mint = removed.mint → other.signatures = [] := by
  unfold Leaves
  cases hfirst : indexed.state.store.positions.find? test with
  | none =>
    have hsame : indexed.without test (indexed.state.removeFirst test) = indexed := by
      simp [without, State.removeFirst, hfirst]
    rw [hsame]
    exact iff_of_true h (by simp)
  | some removed =>
    have hrows : (indexed.state.removeFirst test).store.positions =
        indexed.state.store.positions.eraseP test := by simp [State.removeFirst, hfirst]
    have hindex : (indexed.state.removeFirst test).sigToMint =
        removeAllSignaturesForMint indexed.state.sigToMint removed.mint := by
      simp [State.removeFirst, hfirst]
    have hmem := mem_of_find?_eq_some hfirst
    rw [coherent_without_iff (fun signature =>
      indexed.state.sigToMint signature = some removed.mint) h hfirst hrows ?_ ?_ ?_]
    · simp only [Option.some.injEq, forall_eq']
      refine forall₂_congr fun other hother => ?_
      have hresolved := h.held other (mem_of_mem_eraseP hother)
      constructor
      · intro hdrops hmint
        refine eq_nil_iff_forall_not_mem.mpr fun signature hsignature => ?_
        exact hdrops signature hsignature (hmint ▸ hresolved signature hsignature)
      · intro hnil signature hsignature hdrops
        have hmint : other.mint = removed.mint :=
          Option.some.inj ((hresolved signature hsignature).symm.trans hdrops)
        rw [hnil hmint] at hsignature
        cases hsignature
    · intro signature hdrops
      simp [hindex, removeAllSignaturesForMint, hdrops]
    · intro signature hdrops
      rw [hindex]
      exact (removeAllSignaturesForMint_eq_iff _ _ _).mpr hdrops
    · exact fun signature hsignature => h.held removed hmem signature hsignature

lemma unindexSignature_eq (index : String → Option String) (dropped : Option String)
    (signature : String) :
    unindexSignature index dropped signature =
      if signature ∈ dropped.toList then none else index signature := by
  cases dropped with
  | none => rfl
  | some dropped => simp [unindexSignature, Function.update_apply]

lemma indexSignature_eq (index : String → Option String) (added : Option String)
    (mint signature : String) :
    indexSignature index added mint signature =
      if signature ∈ added.toList then some mint else index signature := by
  cases added with
  | none => rfl
  | some added => simp [indexSignature, Function.update_apply]

lemma unindexSignature_row (index : String → Option String) (row : Position) (signature : String) :
    unindexSignature (unindexSignature index row.entryTransactionSignature)
        row.exitTransactionSignature signature =
      if signature ∈ row.signatures then none else index signature := by
  rw [unindexSignature_eq, unindexSignature_eq]
  by_cases hentry : signature ∈ row.entryTransactionSignature.toList <;>
    by_cases hexit : signature ∈ row.exitTransactionSignature.toList <;>
    simp [Position.signatures, hentry, hexit]

lemma indexSignature_row (index : String → Option String) (row : Position) (signature : String) :
    indexSignature (indexSignature index row.entryTransactionSignature row.mint)
        row.exitTransactionSignature row.mint signature =
      if signature ∈ row.signatures then some row.mint else index signature := by
  rw [indexSignature_eq, indexSignature_eq]
  by_cases hentry : signature ∈ row.entryTransactionSignature.toList <;>
    by_cases hexit : signature ∈ row.exitTransactionSignature.toList <;>
    simp [Position.signatures, hentry, hexit]

lemma coherent_removeBySignature_iff (h : indexed.Coherent) (signature : String) :
    (indexed.without (State.carries signature)
        (indexed.state.removePositionBySignature signature)).Coherent ↔
      indexed.Leaves (State.carries signature) fun removed other =>
        ∀ s ∈ other.signatures, s ∉ removed.signatures := by
  unfold Leaves
  cases hfirst : indexed.state.store.positions.find? (State.carries signature) with
  | none =>
    have hsame : indexed.without (State.carries signature)
        (indexed.state.removePositionBySignature signature) = indexed := by
      simp [without, State.removePositionBySignature, hfirst]
    rw [hsame]
    exact iff_of_true h (by simp)
  | some removed =>
    have hrows : (indexed.state.removePositionBySignature signature).store.positions =
        indexed.state.store.positions.eraseP (State.carries signature) := by
      simp [State.removePositionBySignature, hfirst]
    have hindex : ∀ s, (indexed.state.removePositionBySignature signature).sigToMint s =
        if s ∈ removed.signatures then none else indexed.state.sigToMint s := by
      intro s
      simp only [State.removePositionBySignature, hfirst]
      exact unindexSignature_row indexed.state.sigToMint removed s
    rw [coherent_without_iff (· ∈ removed.signatures) h hfirst hrows
      (fun s hs => by rw [hindex, if_pos hs]) (fun s hs => by rw [hindex, if_neg hs])
      (fun s hs => hs)]
    simp only [Option.some.injEq, forall_eq']

lemma coherent_addPosition_iff (h : indexed.Coherent) (position : Position) :
    (⟨indexed.state.addPosition position, indexed.removed⟩ : Indexed).Coherent ↔
      ∀ row ∈ indexed.state.store.positions, ∀ signature ∈ row.signatures,
        signature ∈ position.signatures → row.mint = position.mint := by
  have hindex : ∀ s, (indexed.state.addPosition position).sigToMint s =
      if s ∈ position.signatures then some position.mint else indexed.state.sigToMint s :=
    indexSignature_row indexed.state.sigToMint position
  have hrows : (indexed.state.addPosition position).store.positions =
      indexed.state.store.positions ++ [position] := rfl
  constructor
  · intro hafter row hrow signature hsignature hshared
    have hresolved := hafter.held row (mem_append_left _ hrow) signature hsignature
    rw [hindex, if_pos hshared] at hresolved
    exact (Option.some.inj hresolved).symm
  · intro happart
    constructor
    · intro row hrow signature hsignature
      rw [hindex]
      rw [hrows] at hrow
      rcases mem_append.mp hrow with hrow | hrow
      · by_cases hshared : signature ∈ position.signatures
        · rw [if_pos hshared, happart row hrow signature hsignature hshared]
        · rw [if_neg hshared]
          exact h.held row hrow signature hsignature
      · obtain rfl := mem_singleton.mp hrow
        rw [if_pos hsignature]
    · intro row hrow signature hsignature hnone
      rw [hrows] at hnone
      rw [hindex, if_neg (hnone position (mem_append_right _ (mem_singleton_self _)))]
      exact h.gone row hrow signature hsignature fun kept hkept =>
        hnone kept (mem_append_left _ hkept)

lemma coherent_step_iff (h : indexed.Coherent) (op : IndexOp) :
    (indexed.step op).Coherent ↔ indexed.KeepsApart op := by
  cases op with
  | add position => exact coherent_addPosition_iff h position
  | remove mint => exact coherent_removeFirst_iff h (·.mint == mint)
  | removeById positionId => exact coherent_removeFirst_iff h (Store.isRow positionId)
  | removeBySignature signature => exact coherent_removeBySignature_iff h signature
  | removeOrphan positionId answers =>
    simp only [step, KeepsApart]
    cases hrow : indexed.state.store.get positionId with
    | none =>
      rw [indexed.state.apply_removeOrphanEntry_of_none answers answers hrow]
      exact iff_of_true h (by simp)
    | some row =>
      rw [indexed.state.apply_removeOrphanEntry_of_some answers answers hrow]
      simp only [Option.some.injEq, forall_eq']
      rw [← coherent_removeFirst_iff h (·.mint == row.mint)]
      -- the slot is no part of the index
      exact ⟨fun h => ⟨h.held, h.gone⟩, fun h => ⟨h.held, h.gone⟩⟩
  | rebuild => exact iff_of_true (h.congr rfl rfl) trivial

end Indexed

/-- **The signature index is right** after every operation of a run, from an empty memory, exactly
as long as every operation keeps rows apart. -/
theorem coherent_iff (slots : Slots) (ops : List IndexOp) :
    Throughout Indexed.step (fun indexed op => (indexed.step op).Coherent) ⟨.empty slots, []⟩ ops ↔
      Throughout Indexed.step Indexed.KeepsApart ⟨.empty slots, []⟩ ops := by
  have hempty : (⟨.empty slots, []⟩ : Indexed).Coherent :=
    ⟨fun row hrow => (by cases hrow), fun row hrow => (by cases hrow)⟩
  refine throughout_iff Indexed.Coherent hempty ?_ ?_
  · exact fun indexed h op _ => Indexed.coherent_step_iff h op
  · exact fun indexed h op _ hafter => hafter

/-- The closed row of a token is deleted while the token is held again: the signature of the open
position no longer resolves. -/
theorem not_coherent_tradedTwice :
    ¬ ∀ (slots : Slots) (ops : List IndexOp),
      Throughout Indexed.step (fun indexed op => (indexed.step op).Coherent) ⟨.empty slots, []⟩
        ops := by
  intro h
  have hlast := (h ⟨4, {2}⟩ (tradedTwice.store.positions.map .add ++ [.removeById 1])).last
  have hresolved := hlast.held (openedPosition (some 2) "MINT" "TKN" "Token" "open-2" 2 2 .manual
    .userOnly 20) mem_cons_self "open-2" mem_cons_self
  exact absurd hresolved (by decide)

end Dripline.Positions
