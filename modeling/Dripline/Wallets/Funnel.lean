import Mathlib.Data.List.Basic

/-!
# The funnel of the wallet watch

`wallets/watch/service.rs`, `process_signature`: every notification, every retry and every polled
signature goes through it.

A source without a file is in `wallets/watch/service.rs`.
-/

namespace Dripline.Wallets

/-- Source: `ProcessOutcome` -/
inductive ProcessOutcome
  | terminal
  | retryable
  deriving DecidableEq

/-- The answer of the decode: not there yet, an error, or a transaction with its success and whether
it is classified. Source: `process_signature` -/
inductive Decoded
  | notIndexed
  | failed
  | transaction (success classified : Bool)
  deriving DecidableEq

/-- What the funnel does that others see: the reply is cached, the analysis recorded, the signature
committed to the database and remembered, the activity published. -/
inductive Deed
  | cached
  | recorded
  | committed
  | remembered
  | published
  deriving DecidableEq

/-- The answers to what the funnel asks once a signature is not seen: the decode, which may have
cached the reply; recording; and the database on the commit. -/
structure FunnelAnswers where
  cached : Bool
  decoded : Decoded
  recorded : Bool
  committed : Bool

/-- The signature is committed to the database, then remembered; else it has to come again. Source:
`wallets/watch/dedupe.rs`, `commit` -/
def commit (committed : Bool) (deeds : List Deed) : ProcessOutcome × List Deed :=
  if committed then (.terminal, [.committed, .remembered] ++ deeds) else (.retryable, [])

/-- Recording, and what comes after it. Source: `wallets/watch/recorder.rs` -/
def record (recorded : Bool) (rest : ProcessOutcome × List Deed) : ProcessOutcome × List Deed :=
  if recorded then (rest.1, .recorded :: rest.2) else (.retryable, [])

/-- A signature that is not seen. Source: `process_signature` -/
def processUnseen (isOwn : Bool) (answers : FunnelAnswers) : ProcessOutcome × List Deed :=
  let rest := match answers.decoded with
    | .notIndexed => (.retryable, [])
    | .failed => commit answers.committed []
    | .transaction false _ =>
      -- a failed transaction is recorded for the own wallet only, and never published
      if isOwn then record answers.recorded (commit answers.committed [])
      else commit answers.committed []
    | .transaction true false => commit answers.committed []
    | .transaction true true => record answers.recorded (commit answers.committed [.published])
  if answers.cached then (rest.1, .cached :: rest.2) else rest

/-- One signature: `seen` is the answer of the dedupe, which may fail. Source:
`process_signature` -/
def processSignature (isOwn : Bool) (seen : Option Bool) (answers : FunnelAnswers) :
    ProcessOutcome × List Deed :=
  match seen with
  | none => (.retryable, [])
  | some true => (.terminal, [])
  | some false => processUnseen isOwn answers

section deeds

variable (isOwn : Bool) (answers : FunnelAnswers)

/-- What holds of each kind of reply holds of all answers. -/
@[elab_as_elim]
lemma FunnelAnswers.forall {P : FunnelAnswers → Prop}
    (h : ∀ cached recorded committed success classified : Bool,
      P ⟨cached, .notIndexed, recorded, committed⟩ ∧ P ⟨cached, .failed, recorded, committed⟩ ∧
        P ⟨cached, .transaction success classified, recorded, committed⟩) : P answers := by
  obtain ⟨cached, decoded, recorded, committed⟩ := answers
  cases decoded with
  | notIndexed => exact (h cached recorded committed true true).1
  | failed => exact (h cached recorded committed true true).2.1
  | transaction success classified => exact (h cached recorded committed success classified).2.2

lemma deeds_processUnseen : (processUnseen isOwn answers).2.Sublist
    [.cached, .recorded, .committed, .remembered, .published] := by
  refine answers.forall ?_
  cases isOwn <;> decide

end deeds

end Dripline.Wallets
