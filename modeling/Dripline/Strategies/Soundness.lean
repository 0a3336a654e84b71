import Dripline.Strategies.Answers

/-!
# An accepted strategy evaluates

`strategies/engine.rs`. What validation has accepted is evaluated on a context that has everything a
condition may read.

* `evaluates_iff` — it does exactly while the strategy's own timeframe is known or not asked for.
* `not_evaluates` — validation does not look at that timeframe.
-/

namespace Dripline.Strategies

open Dripline.Found (bind_eq_ok ok_bind error_bind)
open Dripline.Ohlcv (Candle)

/-! ## Trees as formulas -/

namespace RuleTree

variable (holds : Condition → Bool)

mutual

/-- The tree as a formula over its leaves; a node without children, or an unsound one, is false. -/
def value : RuleTree → Bool
  | .mk _ _ (some condition) => holds condition
  | .mk (some .and) (some conditions) none => allValue conditions
  | .mk (some .or) (some conditions) none => anyValue conditions
  | .mk (some .not) (some [child]) none => !child.value
  | _ => false

/-- Every child. -/
def allValue : List RuleTree → Bool
  | [] => true
  | child :: conditions => child.value && allValue conditions

/-- Some child. -/
def anyValue : List RuleTree → Bool
  | [] => false
  | child :: conditions => child.value || anyValue conditions

end

mutual

/-- The leaves that decide a tree: those of AND up to its first false child, those of OR up to its
first true one. -/
def visited : RuleTree → List Condition
  | .mk _ _ (some condition) => [condition]
  | .mk (some .and) (some conditions) none => visitedAnd conditions
  | .mk (some .or) (some conditions) none => visitedOr conditions
  | .mk (some .not) (some [child]) none => child.visited
  | _ => []

/-- The leaves of AND that are asked. -/
def visitedAnd : List RuleTree → List Condition
  | [] => []
  | child :: conditions =>
    child.visited ++ if child.value holds then visitedAnd conditions else []

/-- The leaves of OR that are asked. -/
def visitedOr : List RuleTree → List Condition
  | [] => []
  | child :: conditions =>
    child.visited ++ if child.value holds then [] else visitedOr conditions

end

end RuleTree

/-! ## A leaf -/

/-- A condition that reads the series of the strategy's own timeframe. -/
def fallsBack (condition : Condition) : Bool :=
  match ConditionKind.get condition.conditionType with
  | none => false
  | some kind => kind.needsCandles && (getParamStringOptional condition "timeframe").isNone

variable (context : EvaluationContext)

/-- What a leaf answers; one that cannot be evaluated does not hold. -/
def holds (condition : Condition) : Bool :=
  (evaluateRuleTree (.leaf condition) context).toOption.getD false

/-- The error about a strategy's own timeframe. -/
def timeframeError : Error :=
  .invalidConditionValue "timeframe" (.text context.strategyTimeframe)

/-- Some leaf asks for the series of a timeframe that is none. -/
def blocked (asked : List Condition) : Bool :=
  asked.any fallsBack && (timeframeFromStr context.strategyTimeframe).isNone

lemma evaluate_leaf_eq {tree : RuleTree} {context : EvaluationContext} (husable : Usable tree context)
    {condition : Condition} (hleaf : condition ∈ tree.leaves) {kind : ConditionKind}
    (hkind : ConditionKind.get condition.conditionType = some kind) {u : Unit}
    (hvalid : kind.validate condition = .ok u) :
    kind.evaluate condition context =
      if blocked context [condition] then .error (timeframeError context)
      else .ok (holds context condition) := by
  have hholds : ∀ b, kind.evaluate condition context = .ok b → holds context condition = b := by
    intro b hb
    simp only [holds, RuleTree.leaf, evaluateRuleTree, hkind, hvalid, ok_bind, hb, Except.toOption,
      Option.getD_some]
  cases hneeds : kind.needsCandles with
  | false =>
    obtain ⟨b, hb⟩ := ConditionKind.evaluate_ok_of_level husable hneeds hvalid
    have hfree : blocked context [condition] = false := by
      simp [blocked, fallsBack, hkind, hneeds]
    rw [hb, hholds b hb, hfree, if_neg (by simp)]
  | true =>
    have hanswers := ConditionKind.answers husable hneeds hvalid
    obtain ⟨v, hparam⟩ := ConditionKind.validateTimeframeParam_of_validate hneeds hvalid
    have hfree : blocked context [condition] =
        ((getParamStringOptional condition "timeframe").isNone &&
          (timeframeFromStr context.strategyTimeframe).isNone) := by
      simp [blocked, fallsBack, hkind, hneeds]
    obtain ⟨hrefused, hunknown⟩ | ⟨known, candles, hknown, hcandles, hseries⟩ :=
      husable.getCandlesForTimeframe (getParamStringOptional condition "timeframe")
    · -- an own timeframe would be a known one
      have hnone : getParamStringOptional condition "timeframe" = none := by
        cases hown : getParamStringOptional condition "timeframe" with
        | none => rfl
        | some own =>
          have := isSome_of_validateTimeframeParam hparam hown
          simp [hown] at hunknown
          simp [hunknown] at this
      rw [hnone, Option.getD_none] at hunknown
      rw [hanswers.refused _ hrefused, hfree, hnone, hunknown]
      rfl
    · obtain ⟨b, hb⟩ := hanswers.ok candles hcandles hseries.positive
        (hseries.long condition hleaf kind hkind)
      have hopen : blocked context [condition] = false := by
        rw [hfree]
        cases hown : getParamStringOptional condition "timeframe" with
        | none =>
          simpa [hown] using Option.isSome_iff_exists.mpr ⟨known, by simpa [hown] using hknown⟩
        | some own => simp
      rw [hb, hholds b hb, hopen, if_neg (by simp)]

/-! ## A tree -/

variable (context : EvaluationContext)

lemma blocked_append (asked others : List Condition) :
    blocked context (asked ++ others) = (blocked context asked || blocked context others) := by
  simp only [blocked, List.any_append, Bool.and_or_distrib_right]

@[simp] lemma blocked_nil : blocked context [] = false := rfl

/-- What an accepted tree evaluates to, from the leaves that decide it and its value. -/
def outcome (asked : List Condition) (value : Bool) : Except Error Bool :=
  if blocked context asked then .error (timeframeError context) else .ok value

lemma outcome_and (asked others : List Condition) (value rest : Bool) :
    (do
      let result ← outcome context asked value
      if !result then .ok false else outcome context others rest) =
    outcome context (asked ++ if value then others else []) (value && rest) := by
  unfold outcome
  rw [blocked_append]
  cases blocked context asked with
  | true => rfl
  | false => cases value <;> simp

lemma outcome_or (asked others : List Condition) (value rest : Bool) :
    (do
      let result ← outcome context asked value
      if result then .ok true else outcome context others rest) =
    outcome context (asked ++ if value then [] else others) (value || rest) := by
  unfold outcome
  rw [blocked_append]
  cases blocked context asked with
  | true => rfl
  | false => cases value <;> simp

lemma validateRuleTrees_cons {child : RuleTree} {conditions : List RuleTree} :
    validateRuleTrees (child :: conditions) = .ok () ↔
      validateRuleTree child = .ok () ∧ validateRuleTrees conditions = .ok () := by
  rw [validateRuleTrees, bind_eq_ok]
  exact ⟨fun ⟨_, h⟩ => h, fun h => ⟨(), h⟩⟩

mutual

lemma evaluateRuleTree_eq {tree : RuleTree} {context : EvaluationContext}
    (husable : Usable tree context) :
    ∀ part : RuleTree, (∀ condition ∈ part.leaves, condition ∈ tree.leaves) →
      validateRuleTree part = .ok () →
      evaluateRuleTree part context =
        outcome context (part.visited (holds context)) (part.value (holds context))
  | .mk _ _ (some condition), hleaves, hvalid => by
    simp only [validateRuleTree] at hvalid
    cases hkind : ConditionKind.get condition.conditionType with
    | none => simp [hkind] at hvalid
    | some kind =>
      simp only [hkind] at hvalid
      simp only [evaluateRuleTree, hkind, hvalid, ok_bind, RuleTree.visited, RuleTree.value]
      exact evaluate_leaf_eq husable (hleaves condition (by simp [RuleTree.leaves])) hkind hvalid
  | .mk none _ none, _, hvalid => by simp [validateRuleTree] at hvalid
  | .mk (some _) none none, _, hvalid => by simp [validateRuleTree] at hvalid
  | .mk (some .and) (some conditions) none, hleaves, hvalid => by
    simp only [validateRuleTree] at hvalid
    split_ifs at hvalid
    simp only [evaluateRuleTree, RuleTree.visited, RuleTree.value]
    exact evaluateAnd_eq husable conditions (by simpa [RuleTree.leaves] using hleaves) hvalid
  | .mk (some .or) (some conditions) none, hleaves, hvalid => by
    simp only [validateRuleTree] at hvalid
    split_ifs at hvalid
    simp only [evaluateRuleTree, RuleTree.visited, RuleTree.value]
    exact evaluateOr_eq husable conditions (by simpa [RuleTree.leaves] using hleaves) hvalid
  | .mk (some .not) (some [child]) none, hleaves, hvalid => by
    have hchild : validateRuleTree child = .ok () := by
      simp only [validateRuleTree, List.isEmpty_cons, Bool.false_eq_true, if_false,
        List.length_singleton, ne_eq, not_true_eq_false, and_false] at hvalid
      exact (validateRuleTrees_cons.mp hvalid).1
    simp only [evaluateRuleTree, RuleTree.visited, RuleTree.value]
    rw [evaluateRuleTree_eq husable child (by simpa [RuleTree.leaves,
      RuleTree.leavesOf] using hleaves) hchild]
    unfold outcome
    split <;> rfl
  | .mk (some .not) (some []) none, _, hvalid => by simp [validateRuleTree] at hvalid
  | .mk (some .not) (some (_ :: _ :: _)) none, _, hvalid => by simp [validateRuleTree] at hvalid

lemma evaluateAnd_eq {tree : RuleTree} {context : EvaluationContext} (husable : Usable tree context) :
    ∀ conditions : List RuleTree,
    (∀ condition ∈ RuleTree.leavesOf conditions, condition ∈ tree.leaves) →
    validateRuleTrees conditions = .ok () →
      evaluateAnd conditions context =
        outcome context (RuleTree.visitedAnd (holds context) conditions)
          (RuleTree.allValue (holds context) conditions)
  | [], _, _ => rfl
  | child :: conditions, hleaves, hvalid => by
    obtain ⟨hfirst, hothers⟩ := validateRuleTrees_cons.mp hvalid
    simp only [RuleTree.leavesOf, List.mem_append] at hleaves
    have hchild := evaluateRuleTree_eq husable child (fun c hc => hleaves c (.inl hc)) hfirst
    have hrest := evaluateAnd_eq husable conditions (fun c hc => hleaves c (.inr hc)) hothers
    simp only [evaluateAnd, hchild, hrest, RuleTree.visitedAnd, RuleTree.allValue]
    exact outcome_and context _ _ _ _

lemma evaluateOr_eq {tree : RuleTree} {context : EvaluationContext} (husable : Usable tree context) :
    ∀ conditions : List RuleTree,
    (∀ condition ∈ RuleTree.leavesOf conditions, condition ∈ tree.leaves) →
    validateRuleTrees conditions = .ok () →
      evaluateOr conditions context =
        outcome context (RuleTree.visitedOr (holds context) conditions)
          (RuleTree.anyValue (holds context) conditions)
  | [], _, _ => rfl
  | child :: conditions, hleaves, hvalid => by
    obtain ⟨hfirst, hothers⟩ := validateRuleTrees_cons.mp hvalid
    simp only [RuleTree.leavesOf, List.mem_append] at hleaves
    have hchild := evaluateRuleTree_eq husable child (fun c hc => hleaves c (.inl hc)) hfirst
    have hrest := evaluateOr_eq husable conditions (fun c hc => hleaves c (.inr hc)) hothers
    simp only [evaluateOr, hchild, hrest, RuleTree.visitedOr, RuleTree.anyValue]
    exact outcome_or context _ _ _ _

end

/-- **An accepted strategy evaluates to the value of its tree exactly while its own timeframe is
known, or no leaf that decides the tree falls back to it.** -/
theorem evaluates_iff (strategy : Strategy) (context : EvaluationContext)
    (haccepted : validateStrategy strategy = .ok ()) (husable : Usable strategy.rules context) :
    evaluateRuleTree strategy.rules context = .ok (strategy.rules.value (holds context)) ↔
      (timeframeFromStr context.strategyTimeframe).isSome ∨
        ∀ condition ∈ strategy.rules.visited (holds context), ¬fallsBack condition := by
  rw [evaluateRuleTree_eq husable strategy.rules (fun _ h => h) haccepted, outcome]
  cases hknown : timeframeFromStr context.strategyTimeframe with
  | some known => simp [blocked, hknown]
  | none =>
    simp only [blocked, hknown, Option.isNone_none, Bool.and_true, Option.isSome_none,
      Bool.false_eq_true, false_or]
    constructor
    · intro h condition hcondition hback
      rw [if_pos (List.any_eq_true.mpr ⟨condition, hcondition, hback⟩)] at h
      cases h
    · intro h
      rw [if_neg]
      intro hany
      obtain ⟨condition, hcondition, hback⟩ := List.any_eq_true.mp hany
      exact h condition hcondition hback

/-! ## A timeframe that is none -/

/-- Two candles at one. -/
def readyCandles : List Candle := [⟨0, 1, 1, 1, 1, 1⟩, ⟨60, 1, 1, 1, 1, 1⟩]

/-- A price of twice the candles, for a strategy of a timeframe. -/
def readyContext (timeframe : String) : EvaluationContext where
  tokenMint := "m"
  currentPrice := some (.finite 2)
  positionData := some ⟨.finite 1, 0, .finite 1, none, .finite 1⟩
  marketData := some ⟨some (.finite 1), none, none, none, none⟩
  timeframeBundle := some ⟨60, fun _ => readyCandles, 0⟩
  strategyTimeframe := timeframe
  evaluatedAt := 60

lemma usable_readyContext (timeframe : String) :
    Usable (.leaf aboveAverage) (readyContext timeframe) where
  price := ⟨2, rfl, by norm_num⟩
  liquidity := ⟨_, .finite 1, rfl, rfl⟩
  position := ⟨_, rfl⟩
  series := by
    refine ⟨_, rfl, fun known => ⟨by simp [readyCandles], ?_, ?_, ?_⟩⟩
    · have hnewest : newestTimestamp readyCandles = 60 := by decide +kernel
      have := known.toSeconds_pos
      simp only [readyContext, hnewest, maxSeriesStalenessBuckets]
      omega
    · intro candle hcandle
      simp only [readyCandles, List.mem_cons, List.not_mem_nil, or_false] at hcandle
      obtain rfl | rfl := hcandle <;> constructor <;> norm_num
    · intro condition hcondition kind hkind
      obtain rfl : condition = aboveAverage := by
        simpa [RuleTree.leaf, RuleTree.leaves] using hcondition
      obtain rfl : kind = .priceToMA := by simpa [aboveAverage, ConditionKind.get] using hkind.symm
      have hlong : ConditionKind.priceToMA.LongEnough aboveAverage readyCandles :=
        ⟨by decide +kernel, ⟨60, 1, 1, 1, 1, 1⟩, by simp [readyCandles], by decide +kernel⟩
      exact hlong

theorem evaluates_iff_aboveAverage :
    evaluateRuleTree (.leaf aboveAverage) (readyContext "1m") =
        .ok ((RuleTree.leaf aboveAverage).value (holds (readyContext "1m"))) ↔
      (timeframeFromStr "1m").isSome ∨
        ∀ condition ∈ (RuleTree.leaf aboveAverage).visited (holds (readyContext "1m")),
          ¬fallsBack condition :=
  evaluates_iff ⟨"s", "1m", .leaf aboveAverage⟩ (readyContext "1m") (by decide +kernel)
    (usable_readyContext "1m")

/-- A strategy of two-minute candles is accepted, and refused whenever it is evaluated. -/
theorem not_evaluates :
    ¬∀ (strategy : Strategy) (context : EvaluationContext), validateStrategy strategy = .ok () →
      context.strategyTimeframe = strategy.timeframe → Usable strategy.rules context →
        evaluateRuleTree strategy.rules context = .ok (strategy.rules.value (holds context)) := by
  intro h
  have hrefused : evaluateRuleTree (.leaf aboveAverage) (readyContext "2m") =
      .error (.invalidConditionValue "timeframe" (.text "2m")) := by decide +kernel
  have hevaluates := h ⟨"s", "2m", .leaf aboveAverage⟩ (readyContext "2m") (by decide +kernel) rfl
    (usable_readyContext "2m")
  rw [hrefused] at hevaluates
  cases hevaluates

end Dripline.Strategies
