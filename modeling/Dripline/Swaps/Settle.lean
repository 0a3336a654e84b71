import Dripline.Swaps.Error

/-!
# Settling a sent transaction

`direct/execute.rs`: poll the signature's status until it lands, fails, expires unseen, or the wait
is over.

* `settle_justified_iff` — which answers make it end with an unjustified verdict.

A source without a file is in `direct/execute.rs`, where a definition without a comment is the one
of its name.
-/

namespace Dripline.Swaps

open List

/-! ## What is read -/

/-- How far a known transaction is. -/
inductive ConfirmationStatus
  | processed
  | confirmed
  | finalized
  deriving DecidableEq

/-- The status of a known transaction, its error by its text. -/
structure TransactionStatus where
  err : Option String
  confirmationStatus : ConfirmationStatus

/-- The answer to `getSignatureStatuses` for one signature. -/
abbrev StatusAnswer := Except Error (List (Option TransactionStatus))

/-- The status the answer holds for the signature asked about. -/
def knownStatus (statuses : List (Option TransactionStatus)) : Option TransactionStatus :=
  statuses.head?.join

/-- One answer the loop reads. -/
inductive Reading
  | status (answer : StatusAnswer)
  | height (answer : Except Error ℕ)

/-- The signature is reported as known, in whatever state. -/
def Reading.Known : Reading → Prop
  | .status (.ok statuses) => (knownStatus statuses).isSome = true
  | _ => False

/-- A node answered and does not know the signature. -/
def Reading.Unknown : Reading → Prop
  | .status (.ok statuses) => knownStatus statuses = none
  | _ => False

/-- The transaction is reported to have landed, without an error. -/
def Reading.Landed : Reading → Prop
  | .status (.ok statuses) => ∃ status, knownStatus statuses = some status ∧ status.err = none ∧
      status.confirmationStatus ≠ .processed
  | _ => False

/-- The transaction is reported to have failed. -/
def Reading.Failed : Reading → Prop
  | .status (.ok statuses) => ∃ status, knownStatus statuses = some status ∧ status.err.isSome = true
  | _ => False

/-- What the outside answers to the `n`-th thing done, and how long that takes: requests, waits and
looks at the clock are counted alike. -/
structure Answers where
  status : ℕ → StatusAnswer
  height : ℕ → Except Error ℕ
  elapsed : ℕ → ℕ

/-! ## The loop -/

/-- Milliseconds, in the nanoseconds of the clock. -/
def millis (n : ℕ) : ℕ := n * 10 ^ 6

def statusPollInterval : ℕ := millis 500

def rebroadcastInterval : ℕ := millis 2000

def blockHeightCheckInterval : ℕ := millis 4000

def postExpiryStatusAttempts : ℕ := 2

def postExpiryStatusDelay : ℕ := millis 1000

/-- The loop's variables, the clock, and what has been read so far, newest first. -/
structure SettleState where
  done : ℕ
  now : ℕ
  lastRebroadcast : ℕ
  lastHeightCheck : ℕ
  readings : List Reading

/-- Something done that takes at least the given time. -/
def SettleState.wait (answers : Answers) (atLeast : ℕ) (s : SettleState) : SettleState :=
  { s with done := s.done + 1, now := s.now + atLeast + answers.elapsed s.done }

/-- Something read. -/
def SettleState.read (reading : Reading) (s : SettleState) : SettleState :=
  { s with readings := reading :: s.readings }

/-- What one status means for the loop. -/
def statusOutcome (status : TransactionStatus) (signature : String) :
    Option (Except DirectSwapError Unit) :=
  match status.err with
  | some err => some (.error (.transactionFailed signature err))
  | none =>
    match status.confirmationStatus with
    | .confirmed | .finalized => some (.ok ())
    | .processed => none

def blockhashHasExpired (currentBlockHeight lastValidBlockHeight : ℕ) : Bool :=
  decide (lastValidBlockHeight < currentBlockHeight)

inductive Poll
  | settled (outcome : Except DirectSwapError Unit)
  | pending
  | unreadable

/-- What one answer tells the loop. Source: `poll_status_once` -/
def pollOf (signature : String) : StatusAnswer → Poll
  | .ok statuses =>
    match (knownStatus statuses).bind (statusOutcome · signature) with
    | some outcome => .settled outcome
    | none => .pending
  | .error _ => .unreadable

/-- One status read. -/
def pollStatusOnce (answers : Answers) (signature : String) (s : SettleState) :
    Poll × SettleState :=
  let answer := answers.status s.done
  (pollOf signature answer, (s.wait answers 0).read (.status answer))

/-- Where an iteration leaves the loop. -/
inductive SettleStep
  | verdict (outcome : Except DirectSwapError Unit) (s : SettleState)
  | again (s : SettleState)

/-- The status reads after the blockhash is seen to have expired. Source: `direct/execute.rs`, the
inner loop of `settle` -/
def postExpiry (answers : Answers) (signature : String) (lastValidBlockHeight height : ℕ) :
    ℕ → Bool → SettleState → SettleStep
  | 0, confirmedAbsent, s =>
    if confirmedAbsent then
      .verdict (.error (.blockhashExpired signature lastValidBlockHeight height)) s
    else .again s
  | attempts + 1, confirmedAbsent, s =>
    match pollStatusOnce answers signature (s.wait answers postExpiryStatusDelay) with
    | (.settled outcome, s) => .verdict outcome s
    | (.pending, s) =>
      postExpiry answers signature lastValidBlockHeight height attempts true s
    | (.unreadable, s) =>
      postExpiry answers signature lastValidBlockHeight height attempts confirmedAbsent s

/-- The look at the block height, at most every four seconds, and the wait for the next poll.
Source: `direct/execute.rs`, the tail of the loop of `settle` -/
def checkHeight (answers : Answers) (signature : String) (lastValidBlockHeight : ℕ)
    (s : SettleState) : SettleStep :=
  let s := s.wait answers 0
  if blockHeightCheckInterval ≤ s.now - s.lastHeightCheck then
    let s := s.wait answers 0
    let s := { s with lastHeightCheck := s.now }
    let answer := answers.height s.done
    let s := (s.wait answers 0).read (.height answer)
    match answer with
    | .ok height =>
      if blockhashHasExpired height lastValidBlockHeight then
        postExpiry answers signature lastValidBlockHeight height postExpiryStatusAttempts false s
      else .again (s.wait answers statusPollInterval)
    | .error _ => .again (s.wait answers statusPollInterval)
  else .again (s.wait answers statusPollInterval)

/-- Send the same transaction again, at most every two seconds; the answer is not looked at. Source:
`direct/execute.rs`, the rebroadcast of `settle` -/
def rebroadcast (answers : Answers) (s : SettleState) : SettleState :=
  let s := s.wait answers 0
  if rebroadcastInterval ≤ s.now - s.lastRebroadcast then
    let s := s.wait answers 0
    { s with lastRebroadcast := s.now }.wait answers 0
  else s

/-- One iteration. Source: `direct/execute.rs`, the body of the loop of `settle` -/
def settleStep (answers : Answers) (signature : String) (lastValidBlockHeight timeout deadline : ℕ)
    (s : SettleState) : SettleStep :=
  match pollStatusOnce answers signature s with
  | (.settled outcome, s) => .verdict outcome s
  | (_, s) =>
    let s := s.wait answers 0
    if deadline ≤ s.now then
      .verdict (.error (.confirmationTimeout signature (timeout / 10 ^ 6))) s
    else checkHeight answers signature lastValidBlockHeight (rebroadcast answers s)

/-- The loop, for at most so many iterations. Source: `settle` -/
def settleLoop (answers : Answers) (signature : String) (lastValidBlockHeight timeout deadline : ℕ) :
    ℕ → SettleState → Option (Except DirectSwapError Unit × List Reading)
  | 0, _ => none
  | fuel + 1, s =>
    match settleStep answers signature lastValidBlockHeight timeout deadline s with
    | .verdict outcome s => some (outcome, s.readings)
    | .again s => settleLoop answers signature lastValidBlockHeight timeout deadline fuel s

/-- Where the loop starts: the clock has been looked at three times. -/
def SettleState.start (answers : Answers) : SettleState where
  done := 3
  now := answers.elapsed 0 + answers.elapsed 1 + answers.elapsed 2
  lastRebroadcast := answers.elapsed 0 + answers.elapsed 1
  lastHeightCheck := answers.elapsed 0 + answers.elapsed 1 + answers.elapsed 2
  readings := []

/-- The iterations that fit before the deadline. -/
def settleFuel (timeout : ℕ) : ℕ := timeout / statusPollInterval + 2

/-- The verdict on a sent transaction, with the answers it was reached on, newest first. Source:
`settle` -/
def settle (answers : Answers) (signature : String) (lastValidBlockHeight timeout : ℕ) :
    Option (Except DirectSwapError Unit × List Reading) :=
  settleLoop answers signature lastValidBlockHeight timeout (answers.elapsed 0 + timeout)
    (settleFuel timeout) (SettleState.start answers)

/-! ## What one answer tells -/

variable {outcome : Except DirectSwapError Unit} {answer : StatusAnswer} {signature : String}

lemma pollOf_settled (h : pollOf signature answer = .settled outcome) :
    (outcome = .ok () ∧ (Reading.status answer).Landed) ∨
      ∃ detail, outcome = .error (.transactionFailed signature detail) ∧
        (Reading.status answer).Failed := by
  rcases answer with e | statuses
  · cases h
  · cases hknown : knownStatus statuses with
    | none => simp [pollOf, hknown] at h
    | some status =>
      obtain ⟨err, confirmation⟩ := status
      rcases err with _ | err
      · cases confirmation with
        | processed => simp [pollOf, hknown, statusOutcome] at h
        | confirmed | finalized =>
          left
          exact ⟨by simpa [pollOf, hknown, statusOutcome] using h.symm, _, hknown, rfl, nofun⟩
      · right
        exact ⟨err, by simpa [pollOf, hknown, statusOutcome] using h.symm, _, hknown, rfl⟩

lemma pollOf_not_settled (h : ∀ outcome, pollOf signature answer ≠ .settled outcome) :
    ¬ (Reading.status answer).Landed ∧ ¬ (Reading.status answer).Failed := by
  rcases answer with e | statuses
  · exact ⟨not_false, not_false⟩
  · constructor
    · rintro ⟨⟨err, confirmation⟩, hknown, rfl, hconfirmation⟩
      cases confirmation with
      | processed => exact hconfirmation rfl
      | confirmed | finalized => exact h (.ok ()) (by simp [pollOf, hknown, statusOutcome])
    · rintro ⟨⟨err, confirmation⟩, hknown, herr⟩
      obtain ⟨detail, rfl⟩ := Option.isSome_iff_exists.mp herr
      exact h (.error (.transactionFailed signature detail))
        (by simp [pollOf, hknown, statusOutcome])

lemma known_or_unknown_of_pending (h : pollOf signature answer = .pending) :
    (Reading.status answer).Known ∨ (Reading.status answer).Unknown := by
  rcases answer with e | statuses
  · cases h
  · cases hknown : knownStatus statuses with
    | none => exact Or.inr hknown
    | some status => exact Or.inl (by simp [Reading.Known, hknown])

/-! ## What has to have been read -/

/-- **A verdict is justified** by the answers read before it, newest first. -/
def Justified (lastValidBlockHeight : ℕ) (readings : List Reading) :
    Except DirectSwapError Unit → Prop
  | .ok () => ∃ reading ∈ readings, reading.Landed
  | .error (.transactionFailed _ _) => ∃ reading ∈ readings, reading.Failed
  | .error (.blockhashExpired _ _ _) =>
    ∃ newer height older, readings = newer ++ .height (.ok height) :: older ∧
      lastValidBlockHeight < height ∧ (∃ reading ∈ newer, reading.Unknown) ∧
      ∀ reading ∈ newer, ¬ reading.Known
  | .error (.confirmationTimeout _ _) => True
  | .error _ => False

/-- The last answers read are two statuses after an expired height, neither of them terminal, and
one of them knows the signature: it has been processed, and not yet confirmed. -/
def ProcessedAfterExpiry (lastValidBlockHeight : ℕ) (readings : List Reading) : Prop :=
  ∃ first second height older,
    readings = .status second :: .status first :: .height (.ok height) :: older ∧
    lastValidBlockHeight < height ∧
    (∀ answer ∈ [first, second], ¬ (Reading.status answer).Landed ∧
      ¬ (Reading.status answer).Failed) ∧
    ∃ answer ∈ [first, second], (Reading.status answer).Known

/-- Between iterations no expired height is left that the last two answers follow. -/
structure Rested (lastValidBlockHeight : ℕ) (readings : List Reading) : Prop where
  height : ∀ height older, readings = .height (.ok height) :: older →
    height ≤ lastValidBlockHeight
  status : ∀ answer height older, readings = .status answer :: .height (.ok height) :: older →
    height ≤ lastValidBlockHeight

variable {readings : List Reading} {lastValidBlockHeight : ℕ}

lemma Rested.read_status (h : Rested lastValidBlockHeight readings) (answer : StatusAnswer) :
    Rested lastValidBlockHeight (.status answer :: readings) where
  height := by
    intro height older heq
    simp at heq
  status := by
    intro answer' height older heq
    exact h.height height older (cons_eq_cons.mp heq).2

lemma rested_read_height {answer : Except Error ℕ}
    (h : ∀ height, answer = .ok height → height ≤ lastValidBlockHeight) (readings : List Reading) :
    Rested lastValidBlockHeight (.height answer :: readings) where
  height := by
    intro height older heq
    exact h height (by simpa using (cons_eq_cons.mp heq).1)
  status := by
    intro answer' height older heq
    simp at heq

lemma justified_of_settled (h : pollOf signature answer = .settled outcome)
    (lastValidBlockHeight : ℕ) (older : List Reading) :
    Justified lastValidBlockHeight (.status answer :: older) outcome := by
  rcases pollOf_settled h with ⟨rfl, hlanded⟩ | ⟨detail, rfl, hfailed⟩
  · exact ⟨_, mem_cons_self, hlanded⟩
  · exact ⟨_, mem_cons_self, hfailed⟩

lemma not_processedAfterExpiry_of_rested (h : Rested lastValidBlockHeight readings)
    (answer : StatusAnswer) :
    ¬ ProcessedAfterExpiry lastValidBlockHeight (.status answer :: readings) := by
  rintro ⟨first, second, height, older, heq, hexpired, -⟩
  have hle := h.status first height older (cons_eq_cons.mp heq).2
  omega

variable {older : List Reading} {a b : StatusAnswer}

lemma mem_newer {height : Except Error ℕ} {newer rest : List Reading}
    (h : .status b :: .status a :: rest = newer ++ .height height :: older) :
    .status a ∈ newer ∧ .status b ∈ newer := by
  rcases newer with _ | ⟨x, _ | ⟨y, newer⟩⟩
  · simp at h
  · simp at h
  · obtain ⟨rfl, htail⟩ := cons_eq_cons.mp h
    have hy := (cons_eq_cons.mp htail).1
    exact ⟨by simp [hy], by simp⟩

variable {height : ℕ}

lemma justified_expired_iff {current : ℕ} (hheight : lastValidBlockHeight < height)
    (ha : ∀ outcome, pollOf signature a ≠ .settled outcome)
    (hb : ∀ outcome, pollOf signature b ≠ .settled outcome)
    (hpending : pollOf signature a = .pending ∨ pollOf signature b = .pending) :
    Justified lastValidBlockHeight (.status b :: .status a :: .height (.ok height) :: older)
        (.error (.blockhashExpired signature lastValidBlockHeight current)) ↔
      ¬ ProcessedAfterExpiry lastValidBlockHeight
        (.status b :: .status a :: .height (.ok height) :: older) := by
  constructor
  · rintro ⟨newer, height', older', heq, -, -, hunknown⟩ ⟨first, second, h, o, heq', -, -, hknown⟩
    obtain ⟨hmema, hmemb⟩ := mem_newer heq
    simp only [List.cons.injEq, Reading.status.injEq] at heq'
    obtain ⟨rfl, rfl, -⟩ := heq'
    obtain ⟨answer, hanswer, hknown⟩ := hknown
    simp only [mem_cons, not_mem_nil, or_false] at hanswer
    rcases hanswer with rfl | rfl
    · exact hunknown _ hmema hknown
    · exact hunknown _ hmemb hknown
  · intro hnone
    have hknown : ∀ answer ∈ [a, b], ¬ (Reading.status answer).Known := by
      intro answer hanswer hknown
      refine hnone ⟨a, b, height, older, rfl, hheight, ?_, answer, hanswer, hknown⟩
      intro answer hanswer
      simp only [mem_cons, not_mem_nil, or_false] at hanswer
      rcases hanswer with rfl | rfl
      · exact pollOf_not_settled ha
      · exact pollOf_not_settled hb
    refine ⟨[.status b, .status a], height, older, rfl, hheight, ?_, ?_⟩
    · rcases hpending with h | h
      · rcases known_or_unknown_of_pending h with hk | hu
        · exact absurd hk (hknown a (by simp))
        · exact ⟨.status a, by simp, hu⟩
      · rcases known_or_unknown_of_pending h with hk | hu
        · exact absurd hk (hknown b (by simp))
        · exact ⟨.status b, by simp, hu⟩
    · intro reading hreading
      simp only [mem_cons, not_mem_nil, or_false] at hreading
      rcases hreading with rfl | rfl
      · exact hknown b (by simp)
      · exact hknown a (by simp)

lemma justified_second_iff (hb : pollOf signature b = .settled outcome) (lastValidBlockHeight : ℕ) :
    Justified lastValidBlockHeight (.status b :: .status a :: .height (.ok height) :: older)
        outcome ↔
      ¬ ProcessedAfterExpiry lastValidBlockHeight
        (.status b :: .status a :: .height (.ok height) :: older) := by
  refine iff_of_true (justified_of_settled hb _ _) ?_
  rintro ⟨first, second, h, o, heq, -, hnone, -⟩
  simp only [List.cons.injEq, Reading.status.injEq] at heq
  obtain ⟨rfl, -⟩ := heq
  rcases pollOf_settled hb with ⟨-, hlanded⟩ | ⟨-, -, hfailed⟩
  · exact (hnone b (by simp)).1 hlanded
  · exact (hnone b (by simp)).2 hfailed

/-! ## One iteration -/

section step

variable (answers : Answers) (signature : String) (lastValidBlockHeight : ℕ)

@[simp] lemma SettleState.wait_readings (atLeast : ℕ) (s : SettleState) :
    (s.wait answers atLeast).readings = s.readings := rfl

@[simp] lemma SettleState.read_readings (reading : Reading) (s : SettleState) :
    (s.read reading).readings = reading :: s.readings := rfl

@[simp] lemma SettleState.read_now (reading : Reading) (s : SettleState) :
    (s.read reading).now = s.now := rfl

lemma SettleState.now_add_le_wait (atLeast : ℕ) (s : SettleState) :
    s.now + atLeast ≤ (s.wait answers atLeast).now := by
  simp [SettleState.wait]

lemma rebroadcast_spec (s : SettleState) :
    (rebroadcast answers s).readings = s.readings ∧ s.now ≤ (rebroadcast answers s).now := by
  simp only [rebroadcast]
  split
  · exact ⟨rfl, by simp only [SettleState.wait]; omega⟩
  · exact ⟨rfl, by simp only [SettleState.wait]; omega⟩

/-- What an iteration that began at `s` may end in: a verdict that is justified as it should be, or
another iteration, half a second later. -/
def StepSpec (s : SettleState) : SettleStep → Prop
  | .verdict outcome s' => Justified lastValidBlockHeight s'.readings outcome ↔
      ¬ ProcessedAfterExpiry lastValidBlockHeight s'.readings
  | .again s' => Rested lastValidBlockHeight s'.readings ∧ s.now + statusPollInterval ≤ s'.now

variable {s s' : SettleState}

lemma postExpiry_spec {height : ℕ} {older : List Reading} (hheight : lastValidBlockHeight < height)
    (hreadings : s'.readings = .height (.ok height) :: older) (hnow : s.now ≤ s'.now) :
    StepSpec lastValidBlockHeight s (postExpiry answers signature lastValidBlockHeight height
      postExpiryStatusAttempts false s') := by
  simp only [postExpiryStatusAttempts, postExpiry, pollStatusOnce]
  generalize ha : answers.status (s'.wait answers postExpiryStatusDelay).done = a
  generalize hs₁ : ((s'.wait answers postExpiryStatusDelay).wait answers 0).read (.status a) = s₁
  have hread₁ : s₁.readings = .status a :: .height (.ok height) :: older := by
    rw [← hs₁]
    simp [hreadings]
  have hnow₁ : s.now + postExpiryStatusDelay ≤ s₁.now := by
    rw [← hs₁]
    simp only [SettleState.read_now, SettleState.wait]
    omega
  generalize hb : answers.status (s₁.wait answers postExpiryStatusDelay).done = b
  generalize hs₂ : ((s₁.wait answers postExpiryStatusDelay).wait answers 0).read (.status b) = s₂
  have hread₂ : s₂.readings = .status b :: .status a :: .height (.ok height) :: older := by
    rw [← hs₂]
    simp [hread₁]
  have hnow₂ : s.now + statusPollInterval ≤ s₂.now := by
    have hdelay : statusPollInterval ≤ postExpiryStatusDelay := by decide
    rw [← hs₂]
    simp only [SettleState.read_now, SettleState.wait]
    omega
  -- by what the two answers say
  cases hpa : pollOf signature a with
  | settled outcome =>
    simp only [StepSpec, hread₁]
    refine iff_of_true (justified_of_settled hpa _ _) ?_
    rintro ⟨first, second, h, o, heq, -⟩
    simp at heq
  | pending =>
    have hna : ∀ outcome, pollOf signature a ≠ .settled outcome := by simp [hpa]
    cases hpb : pollOf signature b with
    | settled outcome =>
      simp only [hb, hs₂, hpb, StepSpec, hread₂]
      exact justified_second_iff hpb _
    | pending | unreadable =>
      simp only [hb, hs₂, hpb, ↓reduceIte, StepSpec, hread₂]
      exact justified_expired_iff hheight hna (by simp [hpb]) (Or.inl hpa)
  | unreadable =>
    have hna : ∀ outcome, pollOf signature a ≠ .settled outcome := by simp [hpa]
    cases hpb : pollOf signature b with
    | settled outcome =>
      simp only [hb, hs₂, hpb, StepSpec, hread₂]
      exact justified_second_iff hpb _
    | pending =>
      simp only [hb, hs₂, hpb, ↓reduceIte, StepSpec, hread₂]
      exact justified_expired_iff hheight hna (by simp [hpb]) (Or.inr hpb)
    | unreadable =>
      simp only [hb, hs₂, hpb, ↓reduceIte, Bool.false_eq_true, StepSpec, hread₂]
      exact ⟨⟨by simp, by simp⟩, hnow₂⟩

lemma checkHeight_spec (hrested : Rested lastValidBlockHeight s'.readings) (hnow : s.now ≤ s'.now) :
    StepSpec lastValidBlockHeight s
      (checkHeight answers signature lastValidBlockHeight s') := by
  -- after the wait for the next poll, half a second has passed
  have hagain : ∀ s₁ : SettleState, Rested lastValidBlockHeight s₁.readings → s.now ≤ s₁.now →
      StepSpec lastValidBlockHeight s (.again (s₁.wait answers statusPollInterval)) := by
    intro s₁ hrested₁ hnow₁
    refine ⟨hrested₁, ?_⟩
    have hwait := SettleState.now_add_le_wait answers statusPollInterval s₁
    omega
  simp only [checkHeight]
  split
  next =>
    generalize answers.height _ = answer
    cases answer with
    | ok height =>
      dsimp only
      split
      next hexpired =>
        refine postExpiry_spec answers signature lastValidBlockHeight (of_decide_eq_true hexpired)
          (show _ = _ :: s'.readings from rfl) ?_
        simp only [SettleState.read_now, SettleState.wait]
        omega
      next hvalid =>
        refine hagain _ (rested_read_height ?_ _) ?_
        · rintro _ ⟨⟩
          simpa [blockhashHasExpired] using hvalid
        · simp only [SettleState.read_now, SettleState.wait]
          omega
    | error e =>
      refine hagain _ (rested_read_height (fun _ h => by cases h) _) ?_
      simp only [SettleState.read_now, SettleState.wait]
      omega
  next =>
    refine hagain _ hrested ?_
    simp only [SettleState.wait]
    omega

variable (timeout deadline : ℕ)

lemma settleStep_spec (hs : Rested lastValidBlockHeight s.readings) :
    StepSpec lastValidBlockHeight s
        (settleStep answers signature lastValidBlockHeight timeout deadline s) ∧
      (deadline ≤ s.now → ∃ outcome s',
        settleStep answers signature lastValidBlockHeight timeout deadline s =
          .verdict outcome s') := by
  simp only [settleStep, pollStatusOnce]
  generalize answers.status s.done = answer
  have hrested := hs.read_status answer
  have hnone := not_processedAfterExpiry_of_rested hs answer
  -- what is left of the iteration after a poll that settles nothing
  have hwaiting : ∀ s', s'.readings = .status answer :: s.readings → s.now ≤ s'.now →
      StepSpec lastValidBlockHeight s
        (if deadline ≤ s'.now then
          .verdict (.error (.confirmationTimeout signature (timeout / 10 ^ 6))) s'
        else checkHeight answers signature lastValidBlockHeight (rebroadcast answers s')) ∧
      (deadline ≤ s.now → ∃ outcome s'',
        (if deadline ≤ s'.now then
          .verdict (.error (.confirmationTimeout signature (timeout / 10 ^ 6))) s'
        else checkHeight answers signature lastValidBlockHeight (rebroadcast answers s')) =
          SettleStep.verdict outcome s'') := by
    intro s' hread hnow
    obtain ⟨hsame, hlater⟩ := rebroadcast_spec answers s'
    constructor
    · split
      next =>
        simp only [StepSpec, hread]
        exact iff_of_true trivial hnone
      next =>
        refine checkHeight_spec answers signature lastValidBlockHeight ?_ (hnow.trans hlater)
        rw [hsame, hread]
        exact hrested
    · intro hdeadline
      rw [if_pos (hdeadline.trans hnow)]
      exact ⟨_, _, rfl⟩
  have hlater : s.now ≤ (((s.wait answers 0).read (.status answer)).wait answers 0).now := by
    simp only [SettleState.read_now, SettleState.wait]
    omega
  cases hpoll : pollOf signature answer with
  | settled outcome =>
    refine ⟨?_, fun _ => ⟨_, _, rfl⟩⟩
    exact iff_of_true (justified_of_settled hpoll _ _) hnone
  | pending | unreadable => exact hwaiting _ rfl hlater

/-! ## The loop -/

/-- **The loop ends, as it should**: with as many iterations as fit before the deadline, in a
verdict that is justified unless the signature was seen after the expiry. -/
lemma settleLoop_spec (hs : Rested lastValidBlockHeight s.readings) {fuel : ℕ}
    (hfuel : deadline ≤ s.now + fuel * statusPollInterval) :
    ∃ outcome readings,
      settleLoop answers signature lastValidBlockHeight timeout deadline (fuel + 1) s =
        some (outcome, readings) ∧
      (Justified lastValidBlockHeight readings outcome ↔
        ¬ ProcessedAfterExpiry lastValidBlockHeight readings) := by
  induction fuel generalizing s with
  | zero =>
    obtain ⟨hstep, hlast⟩ :=
      settleStep_spec answers signature lastValidBlockHeight timeout deadline hs
    obtain ⟨outcome, s', heq⟩ := hlast (by simpa using hfuel)
    rw [heq] at hstep
    exact ⟨outcome, s'.readings, by simp [settleLoop, heq], hstep⟩
  | succ fuel ih =>
    obtain ⟨hstep, -⟩ :=
      settleStep_spec answers signature lastValidBlockHeight timeout deadline hs
    rw [settleLoop]
    cases heq : settleStep answers signature lastValidBlockHeight timeout deadline s with
    | verdict outcome s' =>
      rw [heq] at hstep
      exact ⟨outcome, s'.readings, rfl, hstep⟩
    | again s' =>
      rw [heq] at hstep
      obtain ⟨hrested, hlater⟩ := hstep
      refine ih hrested ?_
      have hsum : (fuel + 1) * statusPollInterval =
          fuel * statusPollInterval + statusPollInterval := Nat.succ_mul _ _
      omega

lemma rested_start : Rested lastValidBlockHeight (SettleState.start answers).readings :=
  ⟨fun _ _ h => (by cases h), fun _ _ _ h => (by cases h)⟩

lemma deadline_le_start : answers.elapsed 0 + timeout ≤
    (SettleState.start answers).now + (timeout / statusPollInterval + 1) * statusPollInterval := by
  have hrest : timeout % statusPollInterval < statusPollInterval :=
    Nat.mod_lt _ (by decide)
  have hdiv := Nat.div_add_mod' timeout statusPollInterval
  have hsucc : (timeout / statusPollInterval + 1) * statusPollInterval =
      timeout / statusPollInterval * statusPollInterval + statusPollInterval := Nat.succ_mul _ _
  simp only [SettleState.start]
  omega

lemma settle_isSome : (settle answers signature lastValidBlockHeight timeout).isSome = true := by
  obtain ⟨outcome, readings, hsettle, -⟩ := settleLoop_spec answers signature lastValidBlockHeight
    timeout (answers.elapsed 0 + timeout) (rested_start answers lastValidBlockHeight)
    (deadline_le_start answers timeout)
  exact Option.isSome_of_eq_some hsettle

/-- **The verdicts of settling a sent transaction**: whatever the node answers and however long
everything takes, there is a verdict, one of the four, and it is justified by the answers read
before it if and only if they do not end in an expired height and two statuses of which neither is
terminal and one knows the signature. -/
theorem settle_justified_iff :
    ∃ outcome readings,
      settle answers signature lastValidBlockHeight timeout = some (outcome, readings) ∧
      (Justified lastValidBlockHeight readings outcome ↔
        ¬ ProcessedAfterExpiry lastValidBlockHeight readings) :=
  settleLoop_spec answers signature lastValidBlockHeight timeout (answers.elapsed 0 + timeout)
    (rested_start answers lastValidBlockHeight) (deadline_le_start answers timeout)

end step

/-- Every status says processed, every height is past the last valid one, and everything done takes
a second. -/
def processedAnswers : Answers where
  status := fun _ => .ok [some ⟨none, .processed⟩]
  height := fun _ => .ok 101
  elapsed := fun _ => millis 1000

/-- A transaction that every answer knows is declared dead. -/
theorem not_settle_justified :
    ¬ ∀ (answers : Answers) (signature : String) (lastValidBlockHeight timeout : ℕ),
      ∃ outcome readings,
        settle answers signature lastValidBlockHeight timeout = some (outcome, readings) ∧
        Justified lastValidBlockHeight readings outcome := by
  intro h
  obtain ⟨outcome, readings, hsettle, hjustified⟩ := h processedAnswers "sig" 100 (millis 60000)
  have hrun : settle processedAnswers "sig" 100 (millis 60000) =
      some (.error (.blockhashExpired "sig" 100 101),
        [.status (.ok [some ⟨none, .processed⟩]), .status (.ok [some ⟨none, .processed⟩]),
          .height (.ok 101), .status (.ok [some ⟨none, .processed⟩])]) := rfl
  obtain ⟨rfl, rfl⟩ := Prod.mk.inj (Option.some.inj (hrun.symm.trans hsettle))
  obtain ⟨newer, height, older, heq, -, -, hunknown⟩ := hjustified
  exact hunknown _ (mem_newer heq).1 rfl

end Dripline.Swaps
