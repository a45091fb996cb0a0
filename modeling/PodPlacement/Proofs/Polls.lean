import PodPlacement.Discovery.Basic

/-! # Polls — what the turns of a waiting discovery decide

    In every turn a discovery looks at the cancellation, then at the answer to
    its listing and last at the time limit.  `Verdict.atPoll?` says what a turn
    decides in this order, and `Verdict.ofRace` takes the first turn that
    decides anything.

    The wait of a discovery is put together from futures, none of which knows of
    the others.  What one turn finds of it (`wait_eq`) gives, by induction along
    the turns, what the whole wait comes to (`await_wait`): the value of the
    verdict, and one listing, which has run to its end exactly if the answer
    decides.  The listing is asked for unless the first turn notices a
    cancellation (`listing_await_of_not_cancelled`). -/

namespace PodPlacement

/-- How the wait for a listing ends. -/
inductive Verdict where
  | answered
  | cancelled
  | expired (limit : Span)
  | undecided
  deriving DecidableEq

namespace Verdict

/-- The listing runs to its end. -/
def isAnswered : Verdict → Bool
  | .answered => true
  | _ => false

/-- What a turn decides. -/
def atPoll? (answer : Moment) (cancellation : Cancellation) (limit : Option Span) (poll : Poll) :
    Option Verdict :=
  if poll.seesCancelled cancellation then some .cancelled
  else if poll.reaches answer then some .answered
  else limit.bind fun span => if poll.reaches (.tick span.ticks) then some (.expired span) else none

/-- What the first turn decides that decides anything. -/
def ofPolls (answer : Moment) (cancellation : Cancellation) (limit : Option Span)
    (polls : List Poll) : Verdict :=
  (polls.findSome? (atPoll? answer cancellation limit)).getD .undecided

/-- What the turns of an executor decide. -/
def ofRace [Executor] (answer moment : Moment) (limit : Option Span) : Verdict :=
  ofPolls answer (.during moment) limit (Executor.polls answer moment (.ofLimit limit))

section Turns

variable {answer : Moment} {cancellation : Cancellation} {limit : Option Span} {poll : Poll}
  {verdict : Verdict}

theorem ofPolls_cons_of_some (h : atPoll? answer cancellation limit poll = some verdict)
    (polls : List Poll) : ofPolls answer cancellation limit (poll :: polls) = verdict := by
  rw [ofPolls, List.findSome?_cons, h]
  rfl

theorem ofPolls_cons_of_none (h : atPoll? answer cancellation limit poll = none)
    (polls : List Poll) :
    ofPolls answer cancellation limit (poll :: polls)
      = ofPolls answer cancellation limit polls := by
  rw [ofPolls, List.findSome?_cons, h]
  rfl

/-- What a turn finds, by what it decides. -/
inductive Decides (answer : Moment) (cancellation : Cancellation) (limit : Option Span)
    (poll : Poll) : Option Verdict → Prop where
  | cancelled (seen : poll.seesCancelled cancellation = true) :
      Decides answer cancellation limit poll (some .cancelled)
  | answered (unseen : poll.seesCancelled cancellation = false)
      (here : poll.reaches answer = true) : Decides answer cancellation limit poll (some .answered)
  | expired {span : Span} (unseen : poll.seesCancelled cancellation = false)
      (missing : poll.reaches answer = false) (limited : limit = some span)
      (ended : poll.reaches (.tick span.ticks) = true) :
      Decides answer cancellation limit poll (some (.expired span))
  | nothing (unseen : poll.seesCancelled cancellation = false)
      (missing : poll.reaches answer = false)
      (inTime : ∀ span, limit = some span → poll.reaches (.tick span.ticks) = false) :
      Decides answer cancellation limit poll none

theorem decides_atPoll? (answer : Moment) (cancellation : Cancellation) (limit : Option Span)
    (poll : Poll) :
    Decides answer cancellation limit poll (atPoll? answer cancellation limit poll) := by
  rw [atPoll?]
  cases hcancelled : poll.seesCancelled cancellation with
  | true => exact .cancelled hcancelled
  | false =>
      cases hanswered : poll.reaches answer with
      | true => exact .answered hcancelled hanswered
      | false =>
          cases limit with
          | none => exact .nothing hcancelled hanswered nofun
          | some span =>
              rw [Option.bind_some]
              by_cases hexpired : poll.reaches (.tick span.ticks) = true
              · rw [if_pos hexpired]
                exact .expired hcancelled hanswered rfl hexpired
              · rw [if_neg hexpired]
                refine .nothing hcancelled hanswered fun span' hspan => ?_
                obtain rfl := Option.some.inj hspan
                exact Bool.eq_false_iff.2 hexpired

end Turns

end Verdict

namespace Discovery

variable {κ ε : Type} [Orchestrator κ ε] (lister : κ) (selector : LabelSelector)
  (group : ReplicaGroup)

/-- What the wait for a listing ends with. -/
def ending : Verdict → Option (Unit ⊕ Except (DiscoveryError ε) (List Pod))
  | .cancelled => some (.inl ())
  | .answered =>
    some (.inr ((Orchestrator.answer lister selector).mapError (.list group.name)))
  | .expired span => some (.inr (.error (.timedOut group.name span)))
  | .undecided => none

/-- The listing asked for in a turn, by what it decides. -/
def asked : Option Verdict → Option ListCall
  | some .cancelled => none
  | some verdict => some ⟨selector, verdict.isAnswered⟩
  | none => some ⟨selector, false⟩

variable {cancellation : Cancellation} {limit : Option Span} {poll : Poll}

theorem wait_of_cancelled (h : poll.seesCancelled cancellation = true) :
    wait lister selector group cancellation limit poll = ⟨some (.inl ()), none⟩ := by
  rw [wait, Future.select, Future.cancelled, if_pos h]

theorem wait_of_not_cancelled (h : poll.seesCancelled cancellation = false) :
    wait lister selector group cancellation limit poll
      = ⟨(listWithin lister selector group limit poll).value.map .inr,
          (listWithin lister selector group limit poll).listing⟩ := by
  rw [wait, Future.select, Future.cancelled, h, Option.or_none]
  rfl

theorem listWithin_of_reaches (h : poll.reaches (Orchestrator.delay lister selector) = true) :
    listWithin lister selector group limit poll
      = ⟨some ((Orchestrator.answer lister selector).mapError (.list group.name)),
          some ⟨selector, true⟩⟩ := by
  cases limit with
  | none => rw [listWithin, Future.map, Future.listing, if_pos h]; rfl
  | some span => rw [listWithin, Future.map, Future.within, Future.listing, if_pos h]; rfl

theorem listWithin_of_not_reaches
    (h : poll.reaches (Orchestrator.delay lister selector) = false) :
    listWithin lister selector group limit poll
      = ⟨limit.bind fun span =>
            if poll.reaches (.tick span.ticks) then some (.error (.timedOut group.name span))
            else none,
          some ⟨selector, false⟩⟩ := by
  cases limit with
  | none => rw [listWithin, Future.map, Future.listing, h]; rfl
  | some span =>
      rw [listWithin, Future.map, Future.within, Future.listing, h, Option.bind_some]
      by_cases hexpired : poll.reaches (.tick span.ticks) = true
      · rw [if_pos hexpired, if_pos hexpired]
        rfl
      · rw [if_neg hexpired, if_neg hexpired]
        rfl

/-- **STEP**: what one turn finds of the wait is what it decides; unless the caller has given up, it
asks for the listing. -/
theorem wait_eq {decision : Option Verdict}
    (h : Verdict.Decides (Orchestrator.delay lister selector) cancellation limit poll decision) :
    wait lister selector group cancellation limit poll
      = ⟨decision.bind (ending lister selector group), asked selector decision⟩ := by
  cases h with
  | cancelled seen => exact wait_of_cancelled lister selector group seen
  | answered unseen here =>
      rw [wait_of_not_cancelled lister selector group unseen,
        listWithin_of_reaches lister selector group here]
      rfl
  | expired unseen missing limited ended =>
      rw [wait_of_not_cancelled lister selector group unseen,
        listWithin_of_not_reaches lister selector group missing, limited, Option.bind_some,
        if_pos ended]
      rfl
  | nothing unseen missing inTime =>
      rw [wait_of_not_cancelled lister selector group unseen,
        listWithin_of_not_reaches lister selector group missing]
      cases limit with
      | none => rfl
      | some span =>
          rw [Option.bind_some, if_neg (Bool.eq_false_iff.1 (inTime span rfl))]
          rfl

/-- A turn that decides nothing leaves the wait to the later ones; the listing that it has asked for
goes on. -/
theorem await_wait_of_none (later : List Poll)
    (h : Verdict.atPoll? (Orchestrator.delay lister selector) cancellation limit poll = none) :
    (wait lister selector group cancellation limit).await (poll :: later)
      = ⟨((wait lister selector group cancellation limit).await later).value,
          ((wait lister selector group cancellation limit).await later).listing.or
            (some ⟨selector, false⟩)⟩ := by
  have hdecides := Verdict.decides_atPoll? (Orchestrator.delay lister selector) cancellation
    limit poll
  rw [h] at hdecides
  have hwait := wait_eq lister selector group hdecides
  rw [Future.await_cons_of_none later (congrArg Progress.value hwait), hwait]
  rfl

/-- A turn that decides is the last. -/
theorem await_wait_of_some {verdict : Verdict} (later : List Poll)
    (h : Verdict.atPoll? (Orchestrator.delay lister selector) cancellation limit poll
      = some verdict) :
    (wait lister selector group cancellation limit).await (poll :: later)
      = ⟨ending lister selector group verdict, asked selector (some verdict)⟩ := by
  have hdecides := Verdict.decides_atPoll? (Orchestrator.delay lister selector) cancellation
    limit poll
  rw [h] at hdecides
  have hwait := wait_eq lister selector group hdecides
  -- No turn decides that nothing is ever decided, which is the one verdict without a value.
  obtain ⟨value, hvalue⟩ : ∃ value, ending lister selector group verdict = some value := by
    cases hdecides <;> exact ⟨_, rfl⟩
  rw [Future.await_cons_of_some later ((congrArg Progress.value hwait).trans hvalue), hwait]
  rfl

/-- **RUN**: the wait ends with the verdict of its turns, and a call that has asked for the listing
knows whether it ran to its end. -/
theorem await_wait (cancellation : Cancellation) (limit : Option Span) (polls : List Poll) :
    let verdict := Verdict.ofPolls (Orchestrator.delay lister selector) cancellation limit polls
    let progress := (wait lister selector group cancellation limit).await polls
    progress.value = ending lister selector group verdict
      ∧ progress.listing.or (some ⟨selector, false⟩)
        = some ⟨selector, verdict.isAnswered⟩ := by
  induction polls with
  | nil => exact ⟨rfl, rfl⟩
  | cons poll later ih =>
      cases hdecision : Verdict.atPoll? (Orchestrator.delay lister selector) cancellation limit
          poll with
      | none =>
          rw [Verdict.ofPolls_cons_of_none hdecision,
            await_wait_of_none lister selector group later hdecision]
          refine ⟨ih.1, ?_⟩
          rw [Option.or_assoc]
          exact ih.2
      | some verdict =>
          rw [Verdict.ofPolls_cons_of_some hdecision,
            await_wait_of_some lister selector group later hdecision]
          refine ⟨rfl, ?_⟩
          -- A turn that sees the cancellation asks for nothing, and nothing has been answered.
          cases verdict <;> rfl

/-- A first turn that does not notice a cancellation asks for the listing. -/
theorem listing_await_of_not_cancelled (cancellation : Cancellation) (limit : Option Span)
    (poll : Poll) (later : List Poll) (h : poll.seesCancelled cancellation = false) :
    ((wait lister selector group cancellation limit).await (poll :: later)).listing
      = some ⟨selector, (Verdict.ofPolls (Orchestrator.delay lister selector) cancellation limit
          (poll :: later)).isAnswered⟩ := by
  cases hdecision : Verdict.atPoll? (Orchestrator.delay lister selector) cancellation limit
      poll with
  | none =>
      rw [Verdict.ofPolls_cons_of_none hdecision,
        await_wait_of_none lister selector group later hdecision]
      exact (await_wait lister selector group cancellation limit later).2
  | some verdict =>
      rw [Verdict.ofPolls_cons_of_some hdecision,
        await_wait_of_some lister selector group later hdecision]
      have hdecides := Verdict.decides_atPoll? (Orchestrator.delay lister selector) cancellation
        limit poll
      rw [hdecision] at hdecides
      cases hdecides with
      | cancelled seen => exact nomatch h.symm.trans seen
      | answered _ _ => rfl
      | expired _ _ _ _ => rfl

end Discovery

end PodPlacement
