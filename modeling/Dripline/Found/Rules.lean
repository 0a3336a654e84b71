import Mathlib.Data.List.Forall2

/-!
# Chains of rules

Rules that are asked in order. A rule decides, passes, or fails.
-/

namespace Dripline.Found.Rules

variable {ε δ : Type*}

/-- The first decision of the rules; a rule that fails is passed over. -/
def firstSkipping : List (Except ε (Option δ)) → Option δ
  | [] => none
  | .ok (some decision) :: _ => some decision
  | .ok none :: rules => firstSkipping rules
  | .error _ :: rules => firstSkipping rules

/-- The first decision of the rules, up to the first rule that fails. -/
def firstStopping : List (Except ε (Option δ)) → Except ε (Option δ)
  | [] => .ok none
  | .ok (some decision) :: _ => .ok (some decision)
  | .ok none :: rules => firstStopping rules
  | .error reason :: _ => .error reason

/-- What a chain decides; one that failed decides nothing. -/
def decided (answer : Except ε (Option δ)) : Option δ :=
  match answer with
  | .ok decision => decision
  | .error _ => none

lemma map_firstSkipping {ε' δ' : Type*} (view : δ → δ') {rules : List (Except ε (Option δ))}
    {others : List (Except ε' (Option δ'))}
    (h : List.Forall₂ (fun rule other => (decided rule).map view = decided other) rules others) :
    (firstSkipping rules).map view = firstSkipping others := by
  induction h with
  | nil => rfl
  | @cons rule other rules others hrule hrules ih =>
    match rule, other, hrule with
    | .ok (some decision), .ok (some decision'), hrule => simpa [firstSkipping, decided] using hrule
    | .ok none, .ok none, _ => simpa [firstSkipping] using ih
    | .ok none, .error _, _ => simpa [firstSkipping] using ih
    | .error _, .ok none, _ => simpa [firstSkipping] using ih
    | .error _, .error _, _ => simpa [firstSkipping] using ih

/-- No rule that would decide comes after one that fails before any decision. -/
def Unhidden : List (Except ε (Option δ)) → Prop
  | [] => True
  | .ok (some _) :: _ => True
  | .ok none :: rules => Unhidden rules
  | .error _ :: rules => firstSkipping rules = none

instance decidableUnhidden : (rules : List (Except ε (Option δ))) → Decidable (Unhidden rules)
  | [] => .isTrue trivial
  | .ok (some _) :: _ => .isTrue trivial
  | .ok none :: rules => decidableUnhidden rules
  | .error _ :: rules =>
    decidable_of_iff ((firstSkipping rules).isNone = true) Option.isNone_iff_eq_none

/-- **The two chains decide alike** exactly when no failure hides a decision. -/
lemma firstStopping_iff (rules : List (Except ε (Option δ))) :
    decided (firstStopping rules) = firstSkipping rules ↔ Unhidden rules := by
  induction rules with
  | nil => simp [firstStopping, firstSkipping, decided, Unhidden]
  | cons rule rules ih =>
    match rule with
    | .ok (some decision) => simp [firstStopping, firstSkipping, decided, Unhidden]
    | .ok none => simpa [firstStopping, firstSkipping, Unhidden] using ih
    | .error reason => simp [firstStopping, firstSkipping, decided, Unhidden, eq_comm]

end Dripline.Found.Rules
