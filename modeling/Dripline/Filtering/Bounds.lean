import Dripline.Filtering.Types

/-!
# Bounds

`filtering/sources/bounds.rs`, and the shape of a rule.

* `reading` — what is no finite number is absent.
* `checkRange`, `checkFloor` — the two kinds of bounds of market data.
* `firstOf` — rules one after another, up to the first rejection.
* `Looser` — a rule rejects nothing that another one accepts.
-/

namespace Dripline.Filtering

open Dripline.Strategies (F64)

/-- Source: `bounds.rs` -/
def reading (value : Option F64) : Option F64 := value.filter isFinite

/-- Source: `bounds.rs` -/
inductive Range
  | ok
  | tooLow
  | tooHigh

/-- Source: `bounds.rs` -/
inductive Floor
  | ok
  | tooLow
  | missing

/-- Source: `bounds.rs` -/
def checkRange (value : Option F64) (min : F64) (max : Option F64) : Range :=
  match reading value with
  | none => .ok
  | some value =>
    if less value min then .tooLow
    else if max.any fun max => less max value then .tooHigh
    else .ok

/-- Source: `bounds.rs` -/
def optionalCeiling (max : F64) : Option F64 := if max.gt 0 then some max else none

/-- Source: `bounds.rs` -/
def checkFloor (value : Option F64) (min : F64) : Floor :=
  if min.le 0 then .ok
  else
    match reading value with
    | some value => if less value min then .tooLow else .ok
    | none => .missing

/-- A range that rejects with these reasons. Source: `dexscreener.rs`, `geckoterminal.rs`,
`enforce_price_change` and the checks of liquidity, market cap and fdv -/
def enforceRange (value : Option F64) (min : F64) (max : Option F64)
    (tooLowReason tooHighReason : FilterRejectionReason) : Option FilterRejectionReason :=
  match checkRange value min max with
  | .tooLow => some tooLowReason
  | .tooHigh => some tooHighReason
  | .ok => none

/-- A floor that rejects with these reasons. Source: `dexscreener.rs`,
`enforce_volume_threshold`, `geckoterminal.rs`, `enforce_floor` -/
def enforceFloor (value : Option F64) (threshold : F64)
    (tooLowReason missingReason : FilterRejectionReason) : Option FilterRejectionReason :=
  match checkFloor value threshold with
  | .tooLow => some tooLowReason
  | .missing => some missingReason
  | .ok => none

/-- Rules one after another, up to the first that rejects. -/
def firstOf (rules : List (Option FilterRejectionReason)) : Option FilterRejectionReason :=
  rules.findSome? id

/-- A rule accepts what the other one accepts. -/
def Looser (loose strict : Option FilterRejectionReason) : Prop := strict = none → loose = none

/-! ## Readings that cannot be used -/

section Unusable

variable {value : F64}

lemma reading_unusable (h : isFinite value = false) : reading (some value) = none := by
  simp [reading, Option.filter, h]

lemma reading_none : reading none = none := rfl

lemma enforceRange_unusable (h : isFinite value = false) (min : F64) (max : Option F64)
    (tooLowReason tooHighReason : FilterRejectionReason) :
    enforceRange (some value) min max tooLowReason tooHighReason =
      enforceRange none min max tooLowReason tooHighReason := by
  rw [enforceRange, enforceRange, checkRange, checkRange, reading_unusable h]
  rfl

lemma enforceFloor_unusable (h : isFinite value = false) (threshold : F64)
    (tooLowReason missingReason : FilterRejectionReason) :
    enforceFloor (some value) threshold tooLowReason missingReason =
      enforceFloor none threshold tooLowReason missingReason := by
  rw [enforceFloor, enforceFloor, checkFloor, checkFloor, reading_unusable h]
  rfl

end Unusable

/-! ## Looser rules -/

section Looser

variable {loose strict : Option FilterRejectionReason}

@[simp] lemma firstOf_eq_none {rules : List (Option FilterRejectionReason)} :
    firstOf rules = none ↔ ∀ rule ∈ rules, rule = none := by
  simp [firstOf]

lemma Looser.refl (rule : Option FilterRejectionReason) : Looser rule rule := id

lemma looser_firstOf {looseRules strictRules : List (Option FilterRejectionReason)}
    (h : List.Forall₂ Looser looseRules strictRules) :
    Looser (firstOf looseRules) (firstOf strictRules) := by
  intro hstrict
  rw [firstOf_eq_none] at hstrict ⊢
  induction h with
  | nil => simp
  | cons hrule _ ih =>
    simp only [List.forall_mem_cons] at hstrict ⊢
    exact ⟨hrule hstrict.1, ih hstrict.2⟩

lemma looser_if {p q : Prop} [Decidable p] [Decidable q] (hpq : p → q)
    (h : p → Looser loose strict) :
    Looser (if p then loose else none) (if q then strict else none) := by
  intro hstrict
  by_cases hp : p
  · rw [if_pos (hpq hp)] at hstrict
    rw [if_pos hp, h hp hstrict]
  · rw [if_neg hp]

lemma looser_reject {p q : Prop} [Decidable p] [Decidable q] (hpq : p → q)
    (reason : FilterRejectionReason) :
    Looser (if p then some reason else none) (if q then some reason else none) :=
  looser_if hpq fun _ => .refl _

/-- A ceiling that is the same or higher, or none. -/
def CeilingNoLower (loose strict : Option F64) : Prop :=
  ∀ a ∈ loose, ∃ b ∈ strict, NoHigher b a

lemma looser_range {min min' : F64} {max max' : Option F64} (hmin : NoHigher min min')
    (hmax : CeilingNoLower max max') (value : Option F64)
    (tooLowReason tooHighReason : FilterRejectionReason) :
    Looser (enforceRange value min max tooLowReason tooHighReason)
      (enforceRange value min' max' tooLowReason tooHighReason) := by
  intro hstrict
  simp only [enforceRange, checkRange] at hstrict ⊢
  cases hvalue : reading value with
  | none => rfl
  | some value =>
    simp only [hvalue] at hstrict ⊢
    have hlow : ¬less value min = true := by
      intro hless
      rw [if_pos (less_of_noHigher hmin hless)] at hstrict
      cases hstrict
    have hhigh : ¬(max.any fun max => less max value) = true := by
      intro hany
      cases max with
      | none => simp at hany
      | some a =>
        obtain ⟨b, hb, hba⟩ := hmax a rfl
        have hany' : (max'.any fun max => less max value) = true := by
          rw [Option.mem_def.mp hb]
          exact less_of_higher hba hany
        by_cases hlow' : less value min' = true
        · simp [hlow'] at hstrict
        · simp [hlow', hany'] at hstrict
    rw [if_neg hlow, if_neg hhigh]

lemma le_of_noHigher {a b : F64} (h : NoHigher a b) (hb : b.le 0 = true) : a.le 0 = true := by
  rcases h with rfl | hab
  · exact hb
  · cases a <;> cases b <;> simp_all [less, F64.le]
    exact hab.le.trans hb

lemma looser_floor {threshold threshold' : F64} (h : NoHigher threshold threshold')
    (value : Option F64) (tooLowReason missingReason : FilterRejectionReason) :
    Looser (enforceFloor value threshold tooLowReason missingReason)
      (enforceFloor value threshold' tooLowReason missingReason) := by
  intro hstrict
  simp only [enforceFloor, checkFloor] at hstrict ⊢
  by_cases hinert : threshold.le 0 = true
  · rw [if_pos hinert]
  · rw [if_neg fun hle => hinert (le_of_noHigher h hle)] at hstrict
    rw [if_neg hinert]
    cases hvalue : reading value with
    | none => simp [hvalue] at hstrict
    | some value =>
      simp only [hvalue] at hstrict ⊢
      have hlow : ¬less value threshold = true := by
        intro hless
        rw [if_pos (less_of_noHigher h hless)] at hstrict
        cases hstrict
      rw [if_neg hlow]

end Looser

end Dripline.Filtering
