import PodPlacement.Proofs.SessionRuns
import PodPlacement.Proofs.SortedViews

/-! # The listing race — the first of three events decides a discovery

    A listing that has been asked for ends with its answer, with a cancellation
    or with the time limit, whichever comes first; an answer is in time at the
    very end of the limit.  `Ends` says this of moments alone, and leaves open
    what a cancellation does at the same tick as one of the others.
    `Discovers` adds what comes before and after the race: a group whose name
    is no label value and a caller who has cancelled already end a discovery
    with nothing asked, and everybody else asks once, for the group's label.

    The route:

    * each of the three events gives the call a turn, so the turn that decides
      is no later than any of them (`tick_le_of_first`);
    * the verdict of a race is therefore one with which it can end
      (`ends_ofRace`), and the only one unless the cancellation ties
      (`Ends.unique`);
    * so is the outcome of a discovery (`discovers_discover`,
      `Discovers.eq_discover`);
    * a token cancelled at some point of a run ends every later call on it
      before anything is asked (`spent_of_cancelled`).

    Main statement: `first_event_decides`. -/

namespace PodPlacement

/-! ## What a turn sees -/

namespace Poll

variable {poll : Poll} {moment : Moment}

theorem reaches_iff : poll.reaches moment = true ↔ ∃ n, moment = .tick n ∧ n ≤ poll.tick := by
  cases moment with
  | tick n => simp [reaches]
  | never => simp [reaches]

theorem lt_of_not_reaches (h : poll.reaches moment = false) {n : Nat} (hn : moment = .tick n) :
    poll.tick < n := by
  subst hn
  exact Nat.lt_of_not_le (of_decide_eq_false h)

/-- A cancellation that a turn notices has come by its tick. -/
theorem le_of_seesCancelled (h : poll.seesCancelled (.during moment) = true) :
    ∃ n, moment = .tick n ∧ n ≤ poll.tick := by
  cases moment with
  | never => exact nomatch h
  | tick n =>
      refine ⟨n, rfl, ?_⟩
      simp only [seesCancelled, Bool.or_eq_true, Bool.and_eq_true, decide_eq_true_iff] at h
      omega

end Poll

/-! ## How a race ends -/

namespace Verdict

/-- How the wait for a listing can end: with the first of three events, if any of them comes. -/
inductive Ends (answer cancellation : Moment) (limit : Option Span) : Verdict → Prop where
  /-- The answer comes, also at the very end of the limit. -/
  | answered (n : Nat) (here : answer = .tick n)
      (uncancelled : ∀ m, cancellation = .tick m → n ≤ m)
      (inTime : ∀ span, limit = some span → n ≤ span.ticks) :
      Ends answer cancellation limit .answered
  /-- The caller gives up. -/
  | cancelled (n : Nat) (here : cancellation = .tick n)
      (unanswered : ∀ m, answer = .tick m → n ≤ m)
      (inTime : ∀ span, limit = some span → n ≤ span.ticks) :
      Ends answer cancellation limit .cancelled
  /-- The limit is over before an answer comes. -/
  | expired (span : Span) (here : limit = some span)
      (unanswered : ∀ m, answer = .tick m → span.ticks < m)
      (uncancelled : ∀ m, cancellation = .tick m → span.ticks ≤ m) :
      Ends answer cancellation limit (.expired span)
  /-- Nothing ever comes. -/
  | undecided (unanswered : answer = .never) (uncancelled : cancellation = .never)
      (unlimited : limit = none) : Ends answer cancellation limit .undecided

/-- A cancellation comes at the same tick as the answer or as the end of the limit. -/
def Ties (answer cancellation : Moment) (limit : Option Span) : Prop :=
  ∃ n, cancellation = .tick n ∧ (answer = .tick n ∨ ∃ span, limit = some span ∧ span.ticks = n)

variable {answer cancellation : Moment} {limit : Option Span} {poll : Poll}

/-! ### The turn that decides -/

theorem atPoll?_ne_none_of_answer {c : Cancellation} (h : poll.reaches answer = true) :
    atPoll? answer c limit poll ≠ none := by
  intro hnone
  have hdecides := decides_atPoll? answer c limit poll
  rw [hnone] at hdecides
  cases hdecides with
  | nothing _ missing _ => exact nomatch h.symm.trans missing

theorem atPoll?_ne_none_of_cancelled {c : Cancellation} (h : poll.seesCancelled c = true) :
    atPoll? answer c limit poll ≠ none := by
  intro hnone
  have hdecides := decides_atPoll? answer c limit poll
  rw [hnone] at hdecides
  cases hdecides with
  | nothing unseen _ _ => exact nomatch h.symm.trans unseen

theorem atPoll?_ne_none_of_limit {c : Cancellation} {span : Span} (hlimit : limit = some span)
    (h : poll.reaches (.tick span.ticks) = true) : atPoll? answer c limit poll ≠ none := by
  intro hnone
  have hdecides := decides_atPoll? answer c limit poll
  rw [hnone] at hdecides
  cases hdecides with
  | nothing _ _ inTime => exact nomatch h.symm.trans (inTime span hlimit)

variable [Executor]

/-- Every event gives the call a turn that decides something at its tick. -/
theorem exists_poll {n : Nat} (h : answer = .tick n ∨ cancellation = .tick n
      ∨ ∃ span, limit = some span ∧ span.ticks = n) :
    ∃ poll ∈ Executor.polls answer cancellation (.ofLimit limit), poll.tick = n
      ∧ atPoll? answer (.during cancellation) limit poll ≠ none := by
  rcases h with rfl | rfl | ⟨span, rfl, rfl⟩
  · obtain ⟨poll, hpoll, rfl⟩ := Executor.wakesAnswered n cancellation (.ofLimit limit)
    exact ⟨poll, hpoll, rfl, atPoll?_ne_none_of_answer (decide_eq_true (Nat.le_refl _))⟩
  · exact ⟨_, Executor.wakesCancelled answer n (.ofLimit limit), rfl,
      atPoll?_ne_none_of_cancelled (by simp [Poll.seesCancelled])⟩
  · obtain ⟨poll, hpoll, htick⟩ := Executor.wakesExpired answer cancellation span.ticks
    refine ⟨poll, hpoll, htick, atPoll?_ne_none_of_limit rfl ?_⟩
    exact decide_eq_true (Nat.le_of_eq htick.symm)

/-- The first turn that decides is no later than any event. -/
theorem tick_le_of_first {verdict : Verdict}
    (h : (Executor.polls answer cancellation (.ofLimit limit)).findSome?
      (atPoll? answer (.during cancellation) limit) = some verdict) :
    ∃ poll, atPoll? answer (.during cancellation) limit poll = some verdict
      ∧ ∀ n, (answer = .tick n ∨ cancellation = .tick n
          ∨ ∃ span, limit = some span ∧ span.ticks = n) → poll.tick ≤ n := by
  obtain ⟨poll, hdecides, hbehind⟩ :=
    Ordered.exists_of_findSome? (Executor.ordered answer cancellation (.ofLimit limit)) h
  refine ⟨poll, hdecides, fun n hn => ?_⟩
  obtain ⟨other, hother, rfl, hsome⟩ := exists_poll hn
  rcases hbehind other hother hsome with rfl | hlt | ⟨heq, _⟩
  · exact Nat.le_refl _
  · exact Nat.le_of_lt hlt
  · exact Nat.le_of_eq heq

/-- **THE VERDICT OF A RACE** is one with which it can end. -/
theorem ends_ofRace (answer cancellation : Moment) (limit : Option Span) :
    Ends answer cancellation limit (ofRace answer cancellation limit) := by
  rw [ofRace, ofPolls]
  cases hfirst : (Executor.polls answer cancellation (.ofLimit limit)).findSome?
      (atPoll? answer (.during cancellation) limit) with
  | none =>
      -- Any event would give a turn that decides.
      have hnever : ∀ n, ¬ (answer = .tick n ∨ cancellation = .tick n
          ∨ ∃ span, limit = some span ∧ span.ticks = n) := by
        intro n hn
        obtain ⟨poll, hpoll, _, hsome⟩ := exists_poll hn
        exact hsome (List.findSome?_eq_none_iff.1 hfirst poll hpoll)
      refine .undecided ?_ ?_ ?_
      · cases answer with
        | never => rfl
        | tick n => exact absurd (Or.inl rfl) (hnever n)
      · cases cancellation with
        | never => rfl
        | tick n => exact absurd (Or.inr (Or.inl rfl)) (hnever n)
      · cases limit with
        | none => rfl
        | some span => exact absurd (Or.inr (Or.inr ⟨span, rfl, rfl⟩)) (hnever span.ticks)
  | some verdict =>
      obtain ⟨poll, hpoll, hle⟩ := tick_le_of_first hfirst
      have hanswer : ∀ n, answer = .tick n → poll.tick ≤ n := fun n hn => hle n (Or.inl hn)
      have hcancel : ∀ n, cancellation = .tick n → poll.tick ≤ n :=
        fun n hn => hle n (Or.inr (Or.inl hn))
      have hlimit : ∀ span, limit = some span → poll.tick ≤ span.ticks :=
        fun span hspan => hle _ (Or.inr (Or.inr ⟨span, hspan, rfl⟩))
      have hdecides := decides_atPoll? answer (.during cancellation) limit poll
      rw [hpoll] at hdecides
      show Ends answer cancellation limit verdict
      cases hdecides with
      | cancelled seen =>
          obtain ⟨n, hn, hnow⟩ := Poll.le_of_seesCancelled seen
          exact .cancelled n hn (fun m hm => Nat.le_trans hnow (hanswer m hm))
            fun span hspan => Nat.le_trans hnow (hlimit span hspan)
      | answered unseen here =>
          obtain ⟨n, hn, hnow⟩ := Poll.reaches_iff.1 here
          exact .answered n hn (fun m hm => Nat.le_trans hnow (hcancel m hm))
            fun span hspan => Nat.le_trans hnow (hlimit span hspan)
      | @expired span unseen missing limited ended =>
          have hnow : span.ticks ≤ poll.tick := of_decide_eq_true ended
          exact .expired span limited
            (fun m hm => Nat.lt_of_le_of_lt hnow (Poll.lt_of_not_reaches missing hm))
            fun m hm => Nat.le_trans hnow (hcancel m hm)

omit [Executor] in
/-- Without a tie a race can end in one way only. -/
theorem Ends.unique {verdict verdict' : Verdict} (h : Ends answer cancellation limit verdict)
    (h' : Ends answer cancellation limit verdict') (hties : ¬ Ties answer cancellation limit) :
    verdict = verdict' := by
  -- Two ends each come no later than the other, so they are at one tick; there an answer leaves no
  -- room for the end of the limit, and a cancellation ties.
  cases h with
  | answered n here uncancelled inTime =>
      cases h' with
      | answered _ _ _ _ => rfl
      | cancelled m here' unanswered' _ =>
          obtain rfl := Nat.le_antisymm (uncancelled m here') (unanswered' n here)
          exact absurd ⟨n, here', Or.inl here⟩ hties
      | expired span limited unanswered' _ =>
          exact absurd (unanswered' n here) (Nat.not_lt.2 (inTime span limited))
      | undecided unanswered' _ _ => exact nomatch here.symm.trans unanswered'
  | cancelled n here unanswered inTime =>
      cases h' with
      | answered m here' uncancelled' _ =>
          obtain rfl := Nat.le_antisymm (unanswered m here') (uncancelled' n here)
          exact absurd ⟨n, here, Or.inl here'⟩ hties
      | cancelled _ _ _ _ => rfl
      | expired span limited _ uncancelled' =>
          have heq := Nat.le_antisymm (uncancelled' n here) (inTime span limited)
          exact absurd ⟨n, here, Or.inr ⟨span, limited, heq⟩⟩ hties
      | undecided _ uncancelled' _ => exact nomatch here.symm.trans uncancelled'
  | expired span limited unanswered uncancelled =>
      cases h' with
      | answered m here' _ inTime' =>
          exact absurd (unanswered m here') (Nat.not_lt.2 (inTime' span limited))
      | cancelled m here' _ inTime' =>
          have heq := Nat.le_antisymm (uncancelled m here') (inTime' span limited)
          exact absurd ⟨m, here', Or.inr ⟨span, limited, heq⟩⟩ hties
      | expired span' limited' _ _ => rw [Option.some.inj (limited.symm.trans limited')]
      | undecided _ _ unlimited' => exact nomatch limited.symm.trans unlimited'
  | undecided unanswered uncancelled unlimited =>
      cases h' with
      | answered _ here' _ _ => exact nomatch here'.symm.trans unanswered
      | cancelled _ here' _ _ => exact nomatch here'.symm.trans uncancelled
      | expired _ limited' _ _ => exact nomatch limited'.symm.trans unlimited
      | undecided _ _ _ => rfl

end Verdict

/-! ## How a discovery ends -/

/-- What can come of a discovery, and the listings asked for on the way. -/
inductive Discovers {κ ε : Type} [Orchestrator κ ε] (lister : κ) (group : ReplicaGroup)
    (limit : Option Span) :
    Cancellation → Option (Except (DiscoveryError ε) (List Pod)) → List ListCall → Prop where
  | invalid (cancellation : Cancellation) {e : SelectorError}
      (refused : LabelValue.check group.name = .error e) :
      Discovers lister group limit cancellation (some (.error (.invalidSelector e))) []
  | cancelledBefore (valid : LabelValue.check group.name = .ok ()) :
      Discovers lister group limit .before (some (.error (.cancelled group.name))) []
  | cancelled {moment : Moment} (valid : LabelValue.check group.name = .ok ())
      (first : Verdict.Ends (Orchestrator.delay lister (.ofGroup group)) moment limit .cancelled) :
      Discovers lister group limit (.during moment) (some (.error (.cancelled group.name)))
        [⟨.ofGroup group, false⟩]
  | expired {moment : Moment} {span : Span} (valid : LabelValue.check group.name = .ok ())
      (first : Verdict.Ends (Orchestrator.delay lister (.ofGroup group)) moment limit
        (.expired span)) :
      Discovers lister group limit (.during moment) (some (.error (.timedOut group.name span)))
        [⟨.ofGroup group, false⟩]
  | failed {moment : Moment} {cause : ε} (valid : LabelValue.check group.name = .ok ())
      (first : Verdict.Ends (Orchestrator.delay lister (.ofGroup group)) moment limit .answered)
      (answer : Orchestrator.answer lister (.ofGroup group) = .error cause) :
      Discovers lister group limit (.during moment) (some (.error (.list group.name cause)))
        [⟨.ofGroup group, true⟩]
  /-- The pods found are the running ones of the answer, in name order. -/
  | found {moment : Moment} {listed pods : List Pod}
      (valid : LabelValue.check group.name = .ok ())
      (first : Verdict.Ends (Orchestrator.delay lister (.ofGroup group)) moment limit .answered)
      (answer : Orchestrator.answer lister (.ofGroup group) = .ok listed)
      (running : InNameOrder (runningOf listed) pods) :
      Discovers lister group limit (.during moment) (some (.ok pods)) [⟨.ofGroup group, true⟩]
  | waiting {moment : Moment} (valid : LabelValue.check group.name = .ok ())
      (first : Verdict.Ends (Orchestrator.delay lister (.ofGroup group)) moment limit .undecided) :
      Discovers lister group limit (.during moment) none [⟨.ofGroup group, false⟩]

/-- A cancellation ties with the answer to a group or with the end of a limit. -/
def Cancellation.Ties {κ ε : Type} [Orchestrator κ ε] (lister : κ) (group : ReplicaGroup)
    (limit : Option Span) (cancellation : Cancellation) : Prop :=
  ∃ moment, cancellation = .during moment
    ∧ Verdict.Ties (Orchestrator.delay lister (.ofGroup group)) moment limit

section Discoveries

variable {κ ε : Type} [Orchestrator κ ε] {lister : κ} {group : ReplicaGroup} {limit : Option Span}

/-- Whoever has given up before the call ties with nothing. -/
theorem Cancellation.not_ties_before : ¬ Cancellation.before.Ties lister group limit := by
  rintro ⟨moment, hmoment, _⟩
  cases hmoment

/-- Neither does whoever never gives up. -/
theorem Cancellation.not_ties_never :
    ¬ (Cancellation.during .never).Ties lister group limit := by
  rintro ⟨moment, hmoment, n, hn, _⟩
  cases hmoment
  cases hn

/-- Every listing that is asked for is one of the group's label. -/
theorem Discovers.entries_eq {cancellation : Cancellation}
    {outcome : Option (Except (DiscoveryError ε) (List Pod))} {calls : List ListCall}
    (h : Discovers lister group limit cancellation outcome calls) {call : ListCall}
    (hcall : call ∈ calls) : call.selector.required.entries = [("app", group.name)] := by
  cases h with
  | invalid _ _ => exact absurd hcall List.not_mem_nil
  | cancelledBefore _ => exact absurd hcall List.not_mem_nil
  | _ =>
      rw [List.mem_singleton.1 hcall]
      exact LabelSelector.entries_ofGroup group

/-- What becomes of a listing that was asked for. -/
theorem discovers_ofVerdict {moment : Moment} {verdict : Verdict}
    (valid : LabelValue.check group.name = .ok ())
    (first : Verdict.Ends (Orchestrator.delay lister (.ofGroup group)) moment limit verdict) :
    Discovers lister group limit (.during moment)
      (Discovery.ofVerdict lister group (.ofGroup group) verdict).outcome
      (Discovery.ofVerdict lister group (.ofGroup group) verdict).calls := by
  cases verdict with
  | cancelled => exact .cancelled valid first
  | expired span => exact .expired valid first
  | undecided => exact .waiting valid first
  | answered =>
      rw [Discovery.ofVerdict]
      cases hanswer : Orchestrator.answer lister (LabelSelector.ofGroup group) with
      | error cause => exact .failed valid first hanswer
      | ok listed => exact .found valid first hanswer (inNameOrder_runningByName listed)

/-- **THE OUTCOME OF A DISCOVERY** is one that its race can have. -/
theorem discovers_discover [Executor] (lister : κ) (group : ReplicaGroup) (limit : Option Span)
    (cancellation : Cancellation) :
    Discovers lister group limit cancellation
      (discover lister group cancellation limit).outcome
      (discover lister group cancellation limit).calls := by
  rw [discover_eq]
  -- The name is checked first, then the caller is asked, and only then is there a race.
  cases hcheck : LabelValue.check group.name with
  | error e => exact .invalid cancellation hcheck
  | ok _ =>
      cases cancellation with
      | before => exact .cancelledBefore hcheck
      | during moment => exact discovers_ofVerdict hcheck (Verdict.ends_ofRace _ _ _)

/-- A race without a tie decides what a discovery does. -/
theorem discover_of_ends [Executor] {moment : Moment} {verdict : Verdict}
    (valid : LabelValue.check group.name = .ok ())
    (first : Verdict.Ends (Orchestrator.delay lister (.ofGroup group)) moment limit verdict)
    (hties : ¬ (Cancellation.during moment).Ties lister group limit) :
    discover lister group (.during moment) limit
      = .ofVerdict lister group (.ofGroup group) verdict := by
  rw [first.unique (Verdict.ends_ofRace _ _ _) fun h => hties ⟨moment, rfl, h⟩]
  exact discover_of_during lister moment limit valid

/-- Without a tie nothing else can come of a discovery. -/
theorem Discovers.eq_discover [Executor] {cancellation : Cancellation}
    {outcome : Option (Except (DiscoveryError ε) (List Pod))} {calls : List ListCall}
    (h : Discovers lister group limit cancellation outcome calls)
    (hties : ¬ cancellation.Ties lister group limit) :
    outcome = (discover lister group cancellation limit).outcome
      ∧ calls = (discover lister group cancellation limit).calls := by
  cases h with
  | invalid _ refused =>
      rw [discover_of_invalid lister _ limit refused]
      exact ⟨rfl, rfl⟩
  | cancelledBefore valid =>
      rw [discover_of_before lister limit valid]
      exact ⟨rfl, rfl⟩
  | cancelled valid first =>
      rw [discover_of_ends valid first hties]
      exact ⟨rfl, rfl⟩
  | expired valid first =>
      rw [discover_of_ends valid first hties]
      exact ⟨rfl, rfl⟩
  | failed valid first answer =>
      rw [discover_of_ends valid first hties, Discovery.ofVerdict, answer]
      exact ⟨rfl, rfl⟩
  | @found _ listed pods valid first answer running =>
      rw [discover_of_ends valid first hties, Discovery.ofVerdict, answer,
        running.unique (inNameOrder_runningByName listed)]
      exact ⟨rfl, rfl⟩
  | waiting valid first =>
      rw [discover_of_ends valid first hties]
      exact ⟨rfl, rfl⟩

end Discoveries

/-! ## Tokens cancelled earlier -/

namespace Session

section Tokens

variable {σ : Type} [Executor] [SeededSource σ] (hash : String → UInt64)

/-- A token is cancelled by the step that says so, and stays so. -/
theorem cancelled_of_mem {session : Session σ} {steps : List (Step σ)} {token : String}
    (h : .cancel token ∈ steps) : token ∈ (session.run hash steps).2.cancelled := by
  induction steps generalizing session with
  | nil => exact nomatch h
  | cons s steps ih =>
      rcases List.mem_cons.1 h with rfl | h
      · exact cancelled_run hash steps (List.mem_cons_self ..)
      · exact ih h

omit [Executor] [SeededSource σ] in
theorem cancellation_of_cancelled {session : Session σ} {token : String} (after : Moment)
    (h : token ∈ session.cancelled) : session.cancellation ⟨some token, after⟩ = .before := by
  rw [cancellation, if_pos]
  exact decide_eq_true h

/-- Calls on a token end before a listing is asked for. -/
structure Spent (token : String) (session : Session σ) : Prop where
  discovers : ∀ limit after, LabelValue.check session.group.name = .ok () →
    (session.step hash (.discover limit ⟨some token, after⟩)).1.answer
        = .discovered (some (.error (.cancelled session.group.name)))
      ∧ (session.step hash (.discover limit ⟨some token, after⟩)).1.calls = []
  chooses : ∀ name chooser after, session.chooser? name = some chooser →
    LabelValue.check chooser.group.name = .ok () →
    (session.step hash (.choose name ⟨some token, after⟩)).1.answer
        = .chose (.failed (.discovery (.cancelled chooser.group.name))) chooser.drawsAmbient
      ∧ (session.step hash (.choose name ⟨some token, after⟩)).1.calls = []

/-- **A CANCELLED TOKEN** is spent. -/
theorem spent_of_cancelled {session : Session σ} {token : String}
    (h : token ∈ session.cancelled) : Spent hash token session where
  discovers := by
    intro limit after valid
    rw [step, cancellation_of_cancelled after h, discover_of_before _ limit valid]
    exact ⟨rfl, rfl⟩
  chooses := by
    intro name chooser after hchooser valid
    have hfollows :=
      Chooser.follows_choosePod hash chooser session.lister .before session.ambient
    rw [discover_of_before _ chooser.limit valid] at hfollows
    rw [step, hchooser]
    simp only [cancellation_of_cancelled after h]
    exact ⟨congrArg (StepAnswer.chose · _) (hfollows.fails _ rfl), hfollows.calls⟩

/-- **THE FIRST EVENT DECIDES**: a discovery by any lister comes to what its race allows, and to
nothing else unless the cancellation ties; what it asks for is selected by the group's label alone.
A choice of any policy asks for the same listings and makes of the outcome what a choice can.  A
token cancelled at some point of a run is spent for all later calls. -/
theorem first_event_decides :
    (∀ (κ ε : Type) [Orchestrator κ ε] (lister : κ) (group : ReplicaGroup) (limit : Option Span)
        (cancellation : Cancellation),
      let discovery := PodPlacement.discover lister group cancellation limit
      Discovers lister group limit cancellation discovery.outcome discovery.calls
        ∧ (∀ call ∈ discovery.calls, call.selector.required.entries = [("app", group.name)])
        ∧ (¬ cancellation.Ties lister group limit → ∀ outcome calls,
            Discovers lister group limit cancellation outcome calls →
            outcome = discovery.outcome ∧ calls = discovery.calls)
        ∧ ∀ (guarded : Policy (Lock σ)) (ambient : σ),
            let chooser : Chooser σ := ⟨group, limit, guarded⟩
            let report := chooser.choosePod hash lister cancellation ambient
            report.calls = discovery.calls
              ∧ Choice.ComesOf group discovery.outcome report.choice)
    ∧ ∀ (session : Session σ) (earlier between : List (Step σ)) (token : String),
        .cancel token ∈ earlier ∨ token ∈ (session.run hash earlier).2.cancelled →
        Spent hash token (session.run hash (earlier ++ between)).2 := by
  constructor
  · intro κ ε _ lister group limit cancellation discovery
    have hdiscovers := discovers_discover lister group limit cancellation
    refine ⟨hdiscovers, fun call hcall => hdiscovers.entries_eq hcall, ?_, ?_⟩
    · intro hties outcome calls h
      exact h.eq_discover hties
    · intro guarded ambient chooser report
      exact ⟨(Chooser.follows_choosePod hash chooser lister cancellation ambient).calls,
        Chooser.comesOf_choosePod hash chooser lister cancellation ambient⟩
  · intro session earlier between token h
    have hearlier : token ∈ (session.run hash earlier).2.cancelled := by
      rcases h with h | h
      · exact cancelled_of_mem hash h
      · exact h
    rw [run_append]
    exact spent_of_cancelled hash (cancelled_run hash between hearlier)

end Tokens

/-- A limit that is over at once still lets an answer in that comes at once, and a cancelled token
nothing. -/
theorem immediate_answer_wins_over_ended_limit :
    let group : ReplicaGroup := ⟨"web"⟩
    let lister : Lister := .ofPods [.ofGroup group "a"]
    let session : Session AnySource := .start lister group (.turning ⟨0⟩)
    let now := (session.run (fun _ => 0) ([.cancel "token"] ++ [.setPods []])).2
    (PodPlacement.discover lister group (.during .never) (some ⟨0⟩)).outcome
        = some (.ok [.ofGroup group "a"])
      ∧ (PodPlacement.discover lister group (.during .never) (some ⟨0⟩)).calls
        = [⟨.ofGroup group, true⟩]
      ∧ (now.step (fun _ => 0) (.discover none ⟨some "token", .never⟩)).1.calls = [] := by
  intro group lister session now
  obtain ⟨hdiscovers, htokens⟩ := @first_event_decides AnySource _ _ (fun _ => 0)
  obtain ⟨_, _, hunique, _⟩ := hdiscovers Lister String lister group (some ⟨0⟩) (.during .never)
  have hvalid : LabelValue.check group.name = .ok () := by decide
  have hends : Verdict.Ends (Orchestrator.delay lister (.ofGroup group)) .never (some ⟨0⟩)
      .answered :=
    .answered 0 rfl (fun _ h => nomatch h) (fun _ _ => Nat.zero_le _)
  have hanswer : Orchestrator.answer lister (.ofGroup group) = .ok [.ofGroup group "a"] := by cbv
  have hpods : InNameOrder (runningOf [.ofGroup group "a"]) [.ofGroup group "a"] :=
    ⟨.refl _, List.pairwise_singleton _ _, fun _ => rfl⟩
  obtain ⟨houtcome, hcalls⟩ := hunique Cancellation.not_ties_never _ _
    (.found hvalid hends hanswer hpods)
  refine ⟨houtcome.symm, hcalls.symm, ?_⟩
  have hspent :=
    htokens session [.cancel "token"] [.setPods []] "token" (Or.inl (List.mem_singleton.2 rfl))
  exact (hspent.discovers none .never hvalid).2

end Session

end PodPlacement
