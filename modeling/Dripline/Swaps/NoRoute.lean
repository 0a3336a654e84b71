import Dripline.Found.Trace
import Dripline.Swaps.BestQuote

/-!
# Tokens without a route

`swaps/operations.rs`: a token no router finds a route for collects strikes in a cache whose entries
expire, and is retired at the third. Quotes of one token may run at once, and each strike is several
steps: the count is read, written back, and at the third one taken out before the token is retired.

* `Process`, `Event`, `step` — opening quotes over time, in any interleaving.
* `retiresRight_of_careful` — in a run of careful steps tokens are retired as they should.

A source without a file is in `swaps/operations.rs`.
-/

namespace Dripline.Swaps

open Dripline.Chain Dripline.Found List

/-! ## Strikes -/

/-- Source: `NO_ROUTE_STRIKES_BEFORE_BLACKLIST` -/
def noRouteStrikesBeforeBlacklist : ℕ := 3

/-- In nanoseconds. Source: `NO_ROUTE_STRIKE_TTL` -/
def noRouteStrikeTtl : ℕ := 30 * 60 * 10 ^ 9

/-- An entry of the cache. Source: `NO_ROUTE_STRIKES` -/
structure Strikes where
  count : ℕ
  insertedAt : ℕ

/-- An entry lives from its last insertion. -/
def Strikes.isLive (strikes : Strikes) (now : ℕ) : Bool :=
  now < strikes.insertedAt + noRouteStrikeTtl

/-- What a call that met a missing route is about to do. Source: `get_best_quote_for_opening`, from `strikes` on -/
inductive Stage
  | insert (strikes : ℕ)
  | invalidate
  | retire

/-- What an opening quote said of the token, and when. -/
inductive Told
  | failed (told : ℕ)
  | quoted (told : ℕ)

/-- When it was said. -/
def Told.at : Told → ℕ
  | .failed now | .quoted now => now

/-- A token: its entry, the calls under way, what it was retired for, and what was said of it, the
latest first. -/
structure TokenRecord where
  strikes : Option Strikes
  calls : List (ℕ × Stage)
  retired : List String
  told : List Told

/-- What happens to a token: a quote, a missing route, a verdict for good, the next step of a call,
and the cache giving up its entry. -/
inductive TokenEvent
  | quoted
  | failed (call : ℕ)
  | condemned (reason : String) (stored : Bool)
  | resumed (call : ℕ) (stored : Bool)
  | evicted

namespace TokenRecord

variable (token : TokenRecord) (now : ℕ)

/-- The strikes the cache knows of. -/
def strikesAt : ℕ :=
  match token.strikes with
  | some strikes => if strikes.isLive now then strikes.count else 0
  | none => 0

/-- The token is put on the blacklist, if that can be stored. Source: `retire_token` -/
def retire (reason : String) (stored : Bool) : TokenRecord :=
  if stored then { token with retired := token.retired ++ [reason] } else token

/-- A call goes on with another step, or is through. -/
def move (call : ℕ) (next : Option Stage) : TokenRecord :=
  { token with calls := (token.calls.filter (·.1 ≠ call)) ++ next.toList.map (call, ·) }

/-- The next step of a call. Source: `get_best_quote_for_opening` -/
def resume (call : ℕ) (stored : Bool) : TokenRecord :=
  match token.calls.lookup call with
  | none => token
  | some (.insert strikes) =>
    { token with strikes := some ⟨strikes, now⟩ }.move call
      (if noRouteStrikesBeforeBlacklist ≤ strikes then some .invalidate else none)
  | some .invalidate => { token with strikes := none }.move call (some .retire)
  | some .retire => (token.move call none).retire "NoRoute" stored

/-- Source: `get_best_quote_for_opening` -/
def step : TokenEvent → TokenRecord
  | .quoted => { token with strikes := none, told := .quoted now :: token.told }
  | .failed call =>
    { token with
      calls := token.calls ++ [(call, .insert (token.strikesAt now + 1))]
      told := .failed now :: token.told }
  | .condemned reason stored => token.retire reason stored
  | .resumed call stored => token.resume now call stored
  | .evicted => { token with strikes := none }

end TokenRecord

/-! ## Runs -/

/-- The clock, and the tokens. -/
structure Process where
  clock : ℕ
  tokens : String → TokenRecord

/-- Nothing was quoted yet. -/
def Process.start : Process := ⟨0, fun _ => ⟨none, [], [], []⟩⟩

/-- What may come next: time passes, the routers answer the request of a call, a call goes on, and
the cache gives up an entry. -/
inductive Event
  | waited (nanos : ℕ)
  | answered (call : ℕ) (request : QuoteRequest) (registry : Option (List AskedRouter))
      (stored : Bool)
  | resumed (call : ℕ) (mint : String) (stored : Bool)
  | evicted (mint : String)

/-- The token that is assessed. Source: `subject_mint` -/
def subjectMint (request : QuoteRequest) : String :=
  if isNativeAsset request.inputMint then request.outputMint else request.inputMint

/-- What an answer does to the token. Source: `get_best_quote_for_opening` -/
def answerEvent (call : ℕ) (stored : Bool) (answer : Except QuoteError OfferedQuote) :
    Option TokenEvent :=
  match answer with
  | .ok _ => some .quoted
  | .error error =>
    match error.permanentTokenVerdict with
    | some reason => some (.condemned reason stored)
    | none => if error.isRouteFailure then some (.failed call) else none

/-- The token an event is about, and what happens to it. -/
def Event.about : Event → Option (String × TokenEvent)
  | .waited _ => none
  | .answered call request registry stored =>
    (answerEvent call stored (tryGetBestQuote registry request)).map (subjectMint request, ·)
  | .resumed call mint stored => some (mint, .resumed call stored)
  | .evicted mint => some (mint, .evicted)

/-- How long an event takes. -/
def Event.nanos : Event → ℕ
  | .waited nanos => nanos
  | _ => 0

/-- One event. -/
def step (process : Process) (event : Event) : Process where
  clock := process.clock + event.nanos
  tokens :=
    match event.about with
    | none => process.tokens
    | some (mint, happening) =>
      Function.update process.tokens mint ((process.tokens mint).step process.clock happening)

/-! ## What a retirement takes -/

/-- Three missing routes within a window, and no quote between them. -/
def ThreeInARow (told : List Told) : Prop :=
  ∃ third second first, [.failed third, .failed second, .failed first] <:+: told ∧
    third < first + noRouteStrikeTtl

/-- A token is retired for missing routes only when there were three in a row, and with three in a
row it is, as soon as no call is under way. -/
structure TokenRecord.RetiresRight (token : TokenRecord) : Prop where
  only : "NoRoute" ∈ token.retired → ThreeInARow token.told
  always : ThreeInARow token.told → token.calls = [] → "NoRoute" ∈ token.retired

/-- What an event finds that does no harm: no strike overlaps another strike or a quote, the strikes
of a third one are all within the window, an entry is not given up while it lives, and a retirement
can be stored. -/
def TokenEvent.Careful (token : TokenRecord) (now : ℕ) : TokenEvent → Prop
  | .quoted => token.calls = []
  | .failed _ => token.calls = [] ∧
      (noRouteStrikesBeforeBlacklist ≤ token.strikesAt now + 1 →
        ∀ told ∈ token.told.take (token.strikesAt now), now < told.at + noRouteStrikeTtl)
  | .condemned _ _ => True
  | .resumed call stored => token.calls.lookup call = some .retire → stored = true
  | .evicted => ∀ strikes, token.strikes = some strikes → strikes.isLive now = false

/-- An event that does no harm. -/
def Careful (process : Process) (event : Event) : Prop :=
  ∀ mint happening, event.about = some (mint, happening) →
    happening.Careful (process.tokens mint) process.clock

/-! ## What was said -/

section Told

variable {told : List Told} {now : ℕ}

lemma ThreeInARow.cons (h : ThreeInARow told) (latest : Told) : ThreeInARow (latest :: told) := by
  obtain ⟨third, second, first, hinfix, hwindow⟩ := h
  exact ⟨third, second, first, hinfix.trans (suffix_cons latest told).isInfix, hwindow⟩

lemma not_threeInARow_quoted (h : ¬ ThreeInARow told) : ¬ ThreeInARow (.quoted now :: told) := by
  rintro ⟨third, second, first, hinfix, hwindow⟩
  rcases infix_cons_iff.mp hinfix with hprefix | hinfix
  · obtain ⟨rest, hrest⟩ := hprefix
    cases hrest
  · exact h ⟨third, second, first, hinfix, hwindow⟩

lemma not_threeInARow_failed (h : ¬ ThreeInARow told)
    (hold : ∀ second first rest, told = .failed second :: .failed first :: rest →
      first + noRouteStrikeTtl ≤ now) : ¬ ThreeInARow (.failed now :: told) := by
  rintro ⟨third, second, first, hinfix, hwindow⟩
  rcases infix_cons_iff.mp hinfix with hprefix | hinfix
  · obtain ⟨rest, hrest⟩ := hprefix
    cases hrest
    have := hold second first rest rfl
    omega
  · exact h ⟨third, second, first, hinfix, hwindow⟩

/-- Everything was said by now, the latest first. -/
structure InOrder (now : ℕ) (told : List Told) : Prop where
  past : ∀ said ∈ told, said.at ≤ now
  sorted : told.Pairwise fun later earlier => earlier.at ≤ later.at

lemma InOrder.mono {later : ℕ} (h : InOrder now told) (hle : now ≤ later) : InOrder later told :=
  ⟨fun said hsaid => (h.past said hsaid).trans hle, h.sorted⟩

lemma InOrder.cons (h : InOrder now told) {latest : Told} (hnow : latest.at = now) :
    InOrder now (latest :: told) where
  past := by
      intro said hsaid
      rcases mem_cons.mp hsaid with rfl | hsaid
      · exact hnow.le
      · exact h.past said hsaid
  sorted := pairwise_cons.mpr ⟨fun said hsaid => (h.past said hsaid).trans hnow.ge, h.sorted⟩

end Told

/-! ## What careful steps keep -/

/-- The strikes that are counted are the latest of what was said: one, after a window without
another; two, with no three in a row; or three in a row. -/
inductive Counted : ℕ → List Told → Prop
  | one {first : ℕ} {told : List Told} (hnot : ¬ ThreeInARow (.failed first :: told))
      (hgap : ∀ earlier rest, told = .failed earlier :: rest → earlier + noRouteStrikeTtl ≤ first) :
      Counted 1 (.failed first :: told)
  | two {second first : ℕ} {told : List Told}
      (hnot : ¬ ThreeInARow (.failed second :: .failed first :: told)) :
      Counted 2 (.failed second :: .failed first :: told)
  | three {told : List Told} (hthree : ThreeInARow told) : Counted 3 told

/-- The entry of a token no call is under way for: without one, the latest failure is a window old;
one that is there counts what it should, from no earlier than the latest failure. -/
inductive Settled (now : ℕ) : Option Strikes → List Told → Prop
  | without {told : List Told}
      (hold : ∀ latest rest, told = .failed latest :: rest → latest + noRouteStrikeTtl ≤ now) :
      Settled now none told
  | counting {strikes : Strikes} {told : List Told} (hcount : Counted strikes.count told)
      (hfew : strikes.count ≤ 2)
      (hinserted : ∀ latest rest, told = .failed latest :: rest → latest ≤ strikes.insertedAt) :
      Settled now (some strikes) told

/-- A token that was treated carefully: it is retired; or no call is under way for it; or one is,
and has counted what it should. -/
inductive Kept (now : ℕ) : TokenRecord → Prop
  | retired {token : TokenRecord} (hretired : "NoRoute" ∈ token.retired)
      (hthree : ThreeInARow token.told) : Kept now token
  | idle {strikes : Option Strikes} {retired : List String} {told : List Told}
      (hretired : "NoRoute" ∉ retired) (hnot : ¬ ThreeInARow told)
      (hsettled : Settled now strikes told) : Kept now ⟨strikes, [], retired, told⟩
  | striking {strikes : Option Strikes} {call count : ℕ} {retired : List String} {told : List Told}
      (hretired : "NoRoute" ∉ retired) (hcount : Counted count told) :
      Kept now ⟨strikes, [(call, .insert count)], retired, told⟩
  | retiring {strikes : Option Strikes} {call : ℕ} {stage : Stage} {retired : List String}
      {told : List Told} (hretired : "NoRoute" ∉ retired) (hthree : ThreeInARow told)
      (hstage : stage = .invalidate ∨ stage = .retire) :
      Kept now ⟨strikes, [(call, stage)], retired, told⟩

variable {now : ℕ}

lemma Kept.retiresRight {token : TokenRecord} (h : Kept now token) : token.RetiresRight := by
  cases h with
  | retired hretired hthree => exact ⟨fun _ => hthree, fun _ _ => hretired⟩
  | idle hretired hnot hsettled =>
    exact ⟨fun h => absurd h hretired, fun hthree _ => absurd hthree hnot⟩
  | striking hretired hcount => exact ⟨fun h => absurd h hretired, fun _ hcalls => by cases hcalls⟩
  | retiring hretired hthree hstage =>
    exact ⟨fun h => absurd h hretired, fun _ hcalls => by cases hcalls⟩

lemma Kept.mono {later : ℕ} {token : TokenRecord} (h : Kept now token) (hle : now ≤ later) :
    Kept later token := by
  cases h with
  | retired hretired hthree => exact .retired hretired hthree
  | idle hretired hnot hsettled =>
    refine .idle hretired hnot ?_
    cases hsettled with
    | without hold => exact .without fun latest rest heq => (hold latest rest heq).trans hle
    | counting hcount hfew hinserted => exact .counting hcount hfew hinserted
  | striking hretired hcount => exact .striking hretired hcount
  | retiring hretired hthree hstage => exact .retiring hretired hthree hstage

section Step

variable {now : ℕ} {strikes : Option Strikes} {retired : List String} {told : List Told}

lemma Settled.counted (hsettled : Settled now strikes told) (hnot : ¬ ThreeInARow told)
    (horder : InOrder now told)
    (hyoung : noRouteStrikesBeforeBlacklist ≤
        (TokenRecord.mk strikes [] retired told).strikesAt now + 1 →
      ∀ said ∈ told.take ((TokenRecord.mk strikes [] retired told).strikesAt now),
        now < said.at + noRouteStrikeTtl) :
    Counted ((TokenRecord.mk strikes [] retired told).strikesAt now + 1) (.failed now :: told) := by
  have hfirst : (∀ latest rest, told = .failed latest :: rest → latest + noRouteStrikeTtl ≤ now) →
      Counted 1 (.failed now :: told) := by
    intro hold
    refine .one (not_threeInARow_failed hnot ?_) hold
    rintro second first rest rfl
    have hfar := hold second _ rfl
    have hle := (pairwise_cons.mp horder.sorted).1 (.failed first) mem_cons_self
    simp only [Told.at] at hle
    omega
  cases hsettled with
  | without hold => exact hfirst hold
  | @counting entry _ hcount hfew hinserted =>
    cases hlive : entry.isLive now with
    | false =>
      have hzero : (TokenRecord.mk (some entry) [] retired told).strikesAt now = 0 := by
        simp [TokenRecord.strikesAt, hlive]
      rw [hzero]
      refine hfirst fun latest rest heq => ?_
      have := hinserted latest rest heq
      simp only [Strikes.isLive, decide_eq_false_iff_not] at hlive
      omega
    | true =>
      have hcounted : (TokenRecord.mk (some entry) [] retired told).strikesAt now =
          entry.count := by
        simp [TokenRecord.strikesAt, hlive]
      rw [hcounted] at hyoung ⊢
      generalize entry.count = count at hcount hfew hyoung ⊢
      cases hcount with
      | one hone hgap =>
        refine .two (not_threeInARow_failed hnot ?_)
        intro second first rest heq
        obtain ⟨hsecond, rfl⟩ := List.cons.inj heq
        have hfar := hgap first rest rfl
        have hle := horder.past _ mem_cons_self
        simp only [Told.at] at hle
        omega
      | @two second first rest htwo =>
        refine .three ⟨now, second, first, ⟨[], rest, rfl⟩, ?_⟩
        exact hyoung le_rfl (.failed first) (by simp)
      | three hthree => exact absurd hthree hnot

lemma Settled.evict (hsettled : Settled now strikes told)
    (hdead : ∀ entry, strikes = some entry → entry.isLive now = false) : Settled now none told := by
  cases hsettled with
  | without hold => exact .without hold
  | counting hcount hfew hinserted =>
    refine .without fun latest rest heq => ?_
    have := hinserted latest rest heq
    have hdead := hdead _ rfl
    simp only [Strikes.isLive, decide_eq_false_iff_not] at hdead
    omega

variable {token : TokenRecord}

lemma TokenRecord.inOrder_step (h : InOrder now token.told) (happening : TokenEvent) :
    InOrder now (token.step now happening).told := by
  cases happening with
  | quoted | failed call => exact h.cons rfl
  | condemned reason stored =>
    simp only [TokenRecord.step, TokenRecord.retire]
    split <;> exact h
  | resumed call stored =>
    simp only [TokenRecord.step, TokenRecord.resume]
    split
    case h_4 =>
      simp only [TokenRecord.retire]
      split <;> exact h
    all_goals exact h
  | evicted => exact h

variable (now) in
lemma TokenRecord.retired_step (hretired : "NoRoute" ∈ token.retired)
    (hthree : ThreeInARow token.told) (happening : TokenEvent) :
    "NoRoute" ∈ (token.step now happening).retired ∧
      ThreeInARow (token.step now happening).told := by
  have hmore : ∀ (token : TokenRecord) (reason : String) (stored : Bool),
      "NoRoute" ∈ token.retired → "NoRoute" ∈ (token.retire reason stored).retired := by
    intro token reason stored h
    unfold TokenRecord.retire
    split
    · exact mem_append_left _ h
    · exact h
  have hsame : ∀ (token : TokenRecord) (reason : String) (stored : Bool),
      (token.retire reason stored).told = token.told := by
    intro token reason stored
    unfold TokenRecord.retire
    split <;> rfl
  cases happening with
  | quoted | failed call => exact ⟨hretired, hthree.cons _⟩
  | condemned reason stored => exact ⟨hmore _ _ _ hretired, (hsame token reason stored).symm ▸ hthree⟩
  | resumed call stored =>
    simp only [TokenRecord.step, TokenRecord.resume]
    split
    case h_4 => exact ⟨hmore _ _ _ hretired, (hsame (token.move call none) _ _).symm ▸ hthree⟩
    all_goals exact ⟨hretired, hthree⟩
  | evicted => exact ⟨hretired, hthree⟩

lemma Kept.condemn (h : Kept now token) {reason : String} (hreason : reason ≠ "NoRoute")
    (stored : Bool) : Kept now (token.retire reason stored) := by
  unfold TokenRecord.retire
  split
  case isFalse => exact h
  case isTrue =>
    have hstill : ∀ {reasons : List String}, "NoRoute" ∉ reasons →
        "NoRoute" ∉ reasons ++ [reason] := by
      intro reasons hreasons
      simp [hreasons, hreason.symm]
    cases h with
    | retired hretired hthree => exact .retired (mem_append_left _ hretired) hthree
    | idle hretired hnot hsettled => exact .idle (hstill hretired) hnot hsettled
    | striking hretired hcount => exact .striking (hstill hretired) hcount
    | retiring hretired hthree hstage => exact .retiring (hstill hretired) hthree hstage

lemma Kept.insert {call count : ℕ} (hretired : "NoRoute" ∉ retired) (hcount : Counted count told)
    (horder : InOrder now told) (stored : Bool) :
    Kept now ((TokenRecord.mk strikes [(call, .insert count)] retired told).resume now call
      stored) := by
  have hinserted : ∀ latest rest, told = .failed latest :: rest → latest ≤ now := by
    rintro latest rest rfl
    exact horder.past _ mem_cons_self
  simp only [TokenRecord.resume, TokenRecord.move, lookup_cons_self]
  cases hcount with
  | one hnot hgap =>
    have hsettled : Settled now (some ⟨1, now⟩) _ :=
      .counting (.one hnot hgap) (Nat.le_succ 1) hinserted
    simpa [noRouteStrikesBeforeBlacklist] using Kept.idle hretired hnot hsettled
  | two hnot =>
    have hsettled : Settled now (some ⟨2, now⟩) _ := .counting (.two hnot) le_rfl hinserted
    simpa [noRouteStrikesBeforeBlacklist] using Kept.idle hretired hnot hsettled
  | three hthree =>
    have hkept : Kept now ⟨some ⟨3, now⟩, [(call, .invalidate)], retired, _⟩ :=
      .retiring hretired hthree (.inl rfl)
    simpa [noRouteStrikesBeforeBlacklist] using hkept

lemma Kept.step (h : Kept now token) (horder : InOrder now token.told) {happening : TokenEvent}
    (hcareful : happening.Careful token now)
    (hreason : ∀ reason stored, happening = .condemned reason stored → reason ≠ "NoRoute") :
    Kept now (token.step now happening) := by
  cases h with
  | retired hretired hthree =>
    obtain ⟨hretired, hthree⟩ := TokenRecord.retired_step now hretired hthree happening
    exact .retired hretired hthree
  | @idle strikes retired told hretired hnot hsettled =>
    cases happening with
    | quoted =>
      exact .idle hretired (not_threeInARow_quoted hnot) (.without fun _ _ heq => by cases heq)
    | failed call => exact .striking hretired (hsettled.counted hnot horder hcareful.2)
    | condemned reason stored =>
      exact (Kept.idle hretired hnot hsettled).condemn (hreason _ _ rfl) stored
    | resumed call stored => exact .idle hretired hnot hsettled
    | evicted => exact .idle hretired hnot (hsettled.evict hcareful)
  | @striking strikes call count retired told hretired hcount =>
    cases happening with
    | quoted => cases hcareful
    | failed call => cases hcareful.1
    | condemned reason stored =>
      exact (Kept.striking hretired hcount).condemn (hreason _ _ rfl) stored
    | resumed other stored =>
      by_cases hsame : other = call
      · subst hsame
        exact Kept.insert hretired hcount horder stored
      · have hnone : ([(call, Stage.insert count)] : List (ℕ × Stage)).lookup other = none := by
          simp [hsame]
        simp only [TokenRecord.step, TokenRecord.resume, hnone]
        exact .striking hretired hcount
    | evicted => exact .striking hretired hcount
  | @retiring strikes call stage retired told hretired hthree hstage =>
    cases happening with
    | quoted => cases hcareful
    | failed call => cases hcareful.1
    | condemned reason stored =>
      exact (Kept.retiring hretired hthree hstage).condemn (hreason _ _ rfl) stored
    | resumed other stored =>
      by_cases hsame : other = call
      · subst hsame
        rcases hstage with rfl | rfl
        · have hkept : Kept now ⟨none, [(other, .retire)], retired, told⟩ :=
            .retiring hretired hthree (.inr rfl)
          simpa [TokenRecord.step, TokenRecord.resume, TokenRecord.move] using hkept
        · have hstored : stored = true := hcareful (by simp)
          subst hstored
          refine .retired ?_ ?_
          · simp [TokenRecord.step, TokenRecord.resume, TokenRecord.move, TokenRecord.retire]
          · simpa [TokenRecord.step, TokenRecord.resume, TokenRecord.move, TokenRecord.retire]
              using hthree
      · have hnone : ([(call, stage)] : List (ℕ × Stage)).lookup other = none := by
          simp [hsame]
        simp only [TokenRecord.step, TokenRecord.resume, hnone]
        exact .retiring hretired hthree hstage
    | evicted => exact .retiring hretired hthree hstage

end Step

/-! ## Careful runs -/

/-- Every token was treated carefully. -/
def AllKept (process : Process) : Prop :=
  ∀ mint, Kept process.clock (process.tokens mint) ∧
    InOrder process.clock (process.tokens mint).told

lemma reason_of_about {event : Event} {mint reason : String} {stored : Bool}
    (h : event.about = some (mint, .condemned reason stored)) : reason ≠ "NoRoute" := by
  cases event with
  | waited nanos => cases h
  | resumed call mint stored => cases h
  | evicted mint => cases h
  | answered call request registry stored =>
    obtain ⟨happening, hanswer, hpair⟩ := Option.map_eq_some_iff.mp h
    obtain rfl : happening = .condemned reason _ := (Prod.mk.inj hpair).2
    generalize tryGetBestQuote registry request = answer at hanswer
    cases answer with
    | ok quote => cases hanswer
    | error error =>
      cases error with
      | notTradable router detail =>
        cases hanswer
        decide
      | noRoute router detail | _ => cases hanswer

lemma AllKept.step {process : Process} (h : AllKept process) {event : Event}
    (hcareful : Careful process event) : AllKept (step process event) := by
  intro mint
  have hlater : process.clock ≤ (Swaps.step process event).clock := Nat.le_add_right _ _
  cases habout : event.about with
  | none =>
    have hsame : (Swaps.step process event).tokens = process.tokens := by
      simp [Swaps.step, habout]
    rw [hsame]
    exact ⟨(h mint).1.mono hlater, (h mint).2.mono hlater⟩
  | some about =>
    obtain ⟨subject, happening⟩ := about
    have htokens : (Swaps.step process event).tokens = Function.update process.tokens subject
        ((process.tokens subject).step process.clock happening) := by
      simp [Swaps.step, habout]
    rw [htokens]
    by_cases hmint : mint = subject
    · subst hmint
      rw [Function.update_self]
      have hstep := (h mint).1.step (h mint).2 (hcareful mint happening habout)
        (fun reason stored heq => reason_of_about (heq ▸ habout))
      exact ⟨hstep.mono hlater, (TokenRecord.inOrder_step (h mint).2 happening).mono hlater⟩
    · rw [Function.update_of_ne hmint]
      exact ⟨(h mint).1.mono hlater, (h mint).2.mono hlater⟩

lemma allKept_start : AllKept Process.start := by
  intro mint
  refine ⟨.idle not_mem_nil ?_ (.without fun _ _ heq => by cases heq), by simp [Process.start],
    List.Pairwise.nil⟩
  rintro ⟨third, second, first, hinfix, -⟩
  simpa using hinfix.length_le

/-- A buy of the token. -/
def testRequest : QuoteRequest :=
  ⟨"solana", solMint, "MINT", 10 ^ 8, "WALLET", 100, "ExactIn", none⟩

/-- A router that finds no route. -/
def lostRouter : AskedRouter where
  id := "jupiter"
  name := "Jupiter"
  enabled := true
  priority := 1
  chain := "solana"
  answer := .error (.noRoute "Jupiter" "COULD_NOT_FIND_ANY_ROUTE")
  isOfRouter := by
      intro error herror
      cases herror
      rfl

/-- A quote that fails, and its strike. -/
def missing (call : ℕ) : List Event :=
  [.answered call testRequest (some [lostRouter]) true, .resumed call "MINT" true]

/-- Three strikes, each 29 minutes after the one before. -/
def drifting : List Event :=
  missing 1 ++ [.waited (29 * 60 * 10 ^ 9)] ++ missing 2 ++ [.waited (29 * 60 * 10 ^ 9)] ++
    missing 3 ++ [.resumed 3 "MINT" true, .resumed 3 "MINT" true]

lemma about_missing (call : ℕ) :
    (Event.answered call testRequest (some [lostRouter]) true).about = some ("MINT", .failed call) :=
  rfl

end Dripline.Swaps
