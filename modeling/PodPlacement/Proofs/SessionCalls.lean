import PodPlacement.Proofs.Picks
import PodPlacement.Session.Basic

/-! # Calls of a session — every choice of a run with all that it depends on

    Some steps of a session call choosers: once, several times one after
    another, or once for each key.  `Session.choiceCalls` lists the calls of a
    run in order, each with the chooser as the call finds it, the orchestrator
    and the cancellation it meets, and the ambient source.

    What a choosing step answers is what its calls come to (`Answers`,
    `answers_step`): a series of choices sums up the reports of its calls, up to
    the first that selects no pod (`sums_series`, `sums_keySeries`).  The
    answers of a run are those of its steps, each in its place
    (`answers_run`). -/

namespace PodPlacement

/-- One call on a chooser, with all that it depends on. -/
structure ChoiceCall (σ : Type) where
  /-- The chooser's name; a chooser made for one key has none. -/
  caller : Option String
  chooser : Chooser σ
  lister : Lister
  cancellation : Cancellation
  ambient : σ

namespace ChoiceCall

variable {σ : Type}

/-- A call that nobody cancels. -/
def free (lister : Lister) (caller : Option String) (chooser : Chooser σ) (ambient : σ) :
    ChoiceCall σ :=
  ⟨caller, chooser, lister, .during .never, ambient⟩

/-- The calls on the chooser of a name. -/
def on (name : String) (calls : List (ChoiceCall σ)) : List (ChoiceCall σ) :=
  calls.filter (·.caller = some name)

theorem on_append (name : String) (calls more : List (ChoiceCall σ)) :
    on name (calls ++ more) = on name calls ++ on name more :=
  List.filter_append ..

theorem on_eq_self {name : String} {calls : List (ChoiceCall σ)}
    (h : ∀ call ∈ calls, call.caller = some name) : on name calls = calls := by
  rw [on, List.filter_eq_self]
  intro call hcall
  exact decide_eq_true (h call hcall)

theorem on_eq_nil {name : String} {calls : List (ChoiceCall σ)}
    (h : ∀ call ∈ calls, call.caller ≠ some name) : on name calls = [] := by
  rw [on, List.filter_eq_nil_iff]
  intro call hcall heq
  exact h call hcall (of_decide_eq_true heq)

variable [Executor]

/-- What the discovery of a call comes to. -/
def discovery (call : ChoiceCall σ) : Discovery :=
  discover call.lister call.chooser.group call.cancellation call.chooser.limit

variable [DrawSource σ] (hash : String → UInt64)

/-- What comes of a call. -/
def report (call : ChoiceCall σ) : ChoiceReport σ :=
  call.chooser.choosePod hash call.lister call.cancellation call.ambient

/-- Calls on one chooser, each of which finds it as the one before left it. -/
inductive Chain : Chooser σ → List (ChoiceCall σ) → Chooser σ → Prop where
  | nil (chooser : Chooser σ) : Chain chooser [] chooser
  | cons (call : ChoiceCall σ) {rest : List (ChoiceCall σ)} {last : Chooser σ} :
      Chain (call.report hash).chooser rest last → Chain call.chooser (call :: rest) last

theorem Chain.append {first middle last : Chooser σ} {calls more : List (ChoiceCall σ)}
    (h : Chain hash first calls middle) (h' : Chain hash middle more last) :
    Chain hash first (calls ++ more) last := by
  induction h with
  | nil _ => exact h'
  | cons call _ ih => exact .cons call (ih h')

/-- What comes of a call follows its discovery. -/
theorem follows_report (call : ChoiceCall σ) :
    Chooser.Follows hash call.chooser call.ambient call.discovery (call.report hash) :=
  Chooser.follows_choosePod hash call.chooser call.lister call.cancellation call.ambient

/-- A call leaves a chooser to the group that it serves, and its limit. -/
theorem terms_report (call : ChoiceCall σ) :
    (call.report hash).chooser.group = call.chooser.group
      ∧ (call.report hash).chooser.limit = call.chooser.limit := by
  obtain ⟨_, hchooser⟩ := Chooser.exists_guarded_choosePod hash call.chooser call.lister
    call.cancellation call.ambient
  rw [report, hchooser]
  exact ⟨rfl, rfl⟩

theorem Chain.terms_eq {first last : Chooser σ} {calls : List (ChoiceCall σ)}
    (h : Chain hash first calls last) :
    ∀ call ∈ calls, call.chooser.group = first.group ∧ call.chooser.limit = first.limit := by
  induction h with
  | nil _ =>
      intro call hcall
      exact nomatch hcall
  | cons head _ ih =>
      intro call hcall
      rcases List.mem_cons.1 hcall with rfl | hcall
      · exact ⟨rfl, rfl⟩
      · obtain ⟨hgroup, hlimit⟩ := ih call hcall
        obtain ⟨hgroup', hlimit'⟩ := terms_report hash head
        exact ⟨hgroup.trans hgroup', hlimit.trans hlimit'⟩

end ChoiceCall

namespace ChoiceSeries

variable {σ : Type}

/-- What choices one after another come to: the pods chosen, or what the first choice without a pod
came to, which is the last. -/
inductive Chosen : List (ChoiceReport σ) → Except Choice (List Pod) → Prop where
  | none : Chosen [] (.ok [])
  | selected {report : ChoiceReport σ} {reports : List (ChoiceReport σ)} {selection : Selection}
      {outcome : Except Choice (List Pod)} (choice : report.choice = .selected selection)
      (rest : Chosen reports outcome) :
      Chosen (report :: reports) (outcome.map (selection.chosen :: ·))
  | stopped {report : ChoiceReport σ}
      (choice : ∀ selection, report.choice ≠ .selected selection) :
      Chosen [report] (.error report.choice)

/-- A series that sums up these reports. -/
structure Sums (reports : List (ChoiceReport σ)) (series : ChoiceSeries σ) : Prop where
  chosen : Chosen reports series.chosen
  calls : series.calls = reports.flatMap (·.calls)
  events : series.events = reports.flatMap (·.events)

namespace Sums

variable {report : ChoiceReport σ} {reports : List (ChoiceReport σ)} {rest : ChoiceSeries σ}

theorem none (ambient : σ) : Sums [] (ChoiceSeries.none ambient) := ⟨.none, rfl, rfl⟩

theorem after {selection : Selection} (choice : report.choice = .selected selection)
    (h : Sums reports rest) : Sums (report :: reports) (rest.after report selection.chosen) where
  chosen := .selected choice h.chosen
  calls := congrArg (report.calls ++ ·) h.calls
  events := congrArg (report.events ++ ·) h.events

theorem stopped (choice : ∀ selection, report.choice ≠ .selected selection) :
    Sums [report] (ChoiceSeries.stopped report) where
  chosen := .stopped choice
  calls := (List.append_nil _).symm
  events := (List.append_nil _).symm

end Sums

end ChoiceSeries

/-- The name under which a step calls a chooser. -/
def Step.called? {σ : Type} : Step σ → Option String
  | .choose name _ => some name
  | .chooseTimes name _ => some name
  | _ => none

/-- A step that chooses pods. -/
def Step.isChoice {σ : Type} : Step σ → Bool
  | .choose .. => true
  | .chooseTimes .. => true
  | .chooseKeys .. => true
  | _ => false

namespace Session

variable {σ : Type} [Executor] [SeededSource σ] (hash : String → UInt64)

/-! ## The calls of a run -/

/-- The calls of one choice after another by one chooser. -/
def seriesCalls (lister : Lister) (caller : Option String) :
    Nat → Chooser σ → σ → List (ChoiceCall σ)
  | 0, _, _ => []
  | n + 1, chooser, ambient =>
    let call := ChoiceCall.free lister caller chooser ambient
    match (call.report hash).choice with
    | .selected _ =>
      call :: seriesCalls lister caller n (call.report hash).chooser (call.report hash).ambient
    | _ => [call]

/-- The chooser that is made for one key. -/
def keyChooser {σ : Type} (session : Session σ) (points : Nat) (key : AffinityKey) : Chooser σ :=
  .new session.group none (.sticky key points)

/-- The calls of one choice for each key. -/
def keyCalls (session : Session σ) (points : Nat) : List AffinityKey → σ → List (ChoiceCall σ)
  | [], _ => []
  | key :: keys, ambient =>
    let call := ChoiceCall.free session.lister none (session.keyChooser points key) ambient
    match (call.report hash).choice with
    | .selected _ => call :: keyCalls session points keys (call.report hash).ambient
    | _ => [call]

/-- The calls of a step. -/
def stepCalls (session : Session σ) : Step σ → List (ChoiceCall σ)
  | .choose name terms =>
    match session.chooser? name with
    | some chooser =>
      [⟨some name, chooser, session.lister, session.cancellation terms, session.ambient⟩]
    | none => []
  | .chooseTimes name times =>
    match session.chooser? name with
    | some chooser => seriesCalls hash session.lister (some name) times chooser session.ambient
    | none => []
  | .chooseKeys keys points => keyCalls hash session points keys session.ambient
  | _ => []

/-- The calls of a run, in order. -/
def choiceCalls (session : Session σ) : List (Step σ) → List (ChoiceCall σ)
  | [] => []
  | s :: steps => session.stepCalls hash s ++ choiceCalls (session.step hash s).2 steps

section Series

variable (lister : Lister) (caller : Option String) (n : Nat) (chooser : Chooser σ) (ambient : σ)

/-- A series goes on after a call that selects a pod. -/
theorem series_of_selected {selection : Selection}
    (h : ((ChoiceCall.free lister caller chooser ambient).report hash).choice
      = .selected selection) :
    let call := ChoiceCall.free lister caller chooser ambient
    let rest := series hash lister n (call.report hash).chooser (call.report hash).ambient
    seriesCalls hash lister caller (n + 1) chooser ambient
        = call :: seriesCalls hash lister caller n (call.report hash).chooser
            (call.report hash).ambient
      ∧ series hash lister (n + 1) chooser ambient
        = (rest.1.after (call.report hash) selection.chosen, rest.2) := by
  intro call rest
  have h' : (chooseFreely hash lister chooser ambient).choice = .selected selection := h
  constructor
  · rw [seriesCalls]
    simp only [h]
    rfl
  · rw [series]
    simp only [h']
    rfl

/-- A series stops at a call that selects none. -/
theorem series_of_stopped
    (h : ∀ selection, ((ChoiceCall.free lister caller chooser ambient).report hash).choice
      ≠ .selected selection) :
    let call := ChoiceCall.free lister caller chooser ambient
    seriesCalls hash lister caller (n + 1) chooser ambient = [call]
      ∧ series hash lister (n + 1) chooser ambient
        = (.stopped (call.report hash), (call.report hash).chooser) := by
  intro call
  rw [seriesCalls, series]
  constructor
  · split
    next selection hselected => exact absurd hselected (h selection)
    next => rfl
  · split
    next selection hselected => exact absurd hselected (h selection)
    next => rfl

end Series

section KeySeries

variable (session : Session σ) (points : Nat) (key : AffinityKey) (keys : List AffinityKey)
  (ambient : σ)

theorem keySeries_of_selected {selection : Selection}
    (h : ((ChoiceCall.free session.lister none (session.keyChooser points key) ambient).report
      hash).choice = .selected selection) :
    let call := ChoiceCall.free session.lister none (session.keyChooser points key) ambient
    keyCalls hash session points (key :: keys) ambient
        = call :: keyCalls hash session points keys (call.report hash).ambient
      ∧ keySeries hash session points (key :: keys) ambient
        = (keySeries hash session points keys (call.report hash).ambient).after (call.report hash)
            selection.chosen := by
  intro call
  have h' : (chooseFreely hash session.lister (session.keyChooser points key) ambient).choice
      = .selected selection := h
  constructor
  · rw [keyCalls]
    simp only [h]
    rfl
  · rw [keySeries]
    simp only [keyChooser] at h'
    simp only [h']
    rfl

theorem keySeries_of_stopped
    (h : ∀ selection, ((ChoiceCall.free session.lister none (session.keyChooser points key)
      ambient).report hash).choice ≠ .selected selection) :
    let call := ChoiceCall.free session.lister none (session.keyChooser points key) ambient
    keyCalls hash session points (key :: keys) ambient = [call]
      ∧ keySeries hash session points (key :: keys) ambient = .stopped (call.report hash) := by
  intro call
  rw [keyCalls, keySeries]
  constructor
  · split
    next selection hselected => exact absurd hselected (h selection)
    next => rfl
  · split
    next selection hselected => exact absurd hselected (h selection)
    next => rfl

end KeySeries

/-! ## What the calls tell of the answers -/

/-- A series sums up the reports of its calls. -/
theorem sums_series (lister : Lister) (caller : Option String) (n : Nat) (chooser : Chooser σ)
    (ambient : σ) :
    ChoiceSeries.Sums ((seriesCalls hash lister caller n chooser ambient).map (·.report hash))
      (series hash lister n chooser ambient).1 := by
  induction n generalizing chooser ambient with
  | zero => exact .none ambient
  | succ n ih =>
      obtain ⟨selection, h⟩ | hstopped :=
        ((ChoiceCall.free lister caller chooser ambient).report hash).choice.selects_or_not
      · obtain ⟨hcalls, hseries⟩ := series_of_selected hash lister caller n chooser ambient h
        rw [hcalls, hseries]
        exact .after h (ih _ _)
      · obtain ⟨hcalls, hseries⟩ := series_of_stopped hash lister caller n chooser ambient hstopped
        rw [hcalls, hseries]
        exact .stopped hstopped

theorem sums_keySeries (session : Session σ) (points : Nat) (keys : List AffinityKey)
    (ambient : σ) :
    ChoiceSeries.Sums ((keyCalls hash session points keys ambient).map (·.report hash))
      (keySeries hash session points keys ambient) := by
  induction keys generalizing ambient with
  | nil => exact .none ambient
  | cons key keys ih =>
      obtain ⟨selection, h⟩ | hstopped := ((ChoiceCall.free session.lister none
        (session.keyChooser points key) ambient).report hash).choice.selects_or_not
      · obtain ⟨hcalls, hseries⟩ := keySeries_of_selected hash session points key keys ambient h
        rw [hcalls, hseries]
        exact .after h (ih _)
      · obtain ⟨hcalls, hseries⟩ :=
          keySeries_of_stopped hash session points key keys ambient hstopped
        rw [hcalls, hseries]
        exact .stopped hstopped

omit [Executor] [SeededSource σ] in
/-- What a series that sums up some reports answers and reports itself. -/
theorem report_of_sums {reports : List (ChoiceReport σ)} {series : ChoiceSeries σ}
    (h : ChoiceSeries.Sums reports series) :
    series.report
      = ⟨.choseAll series.chosen, reports.flatMap (·.calls), reports.flatMap (·.events)⟩ := by
  rw [ChoiceSeries.report, h.calls, h.events]

/-- What a step that chooses pods answers and reports, by the reports of its calls. -/
inductive Answers (session : Session σ) :
    Step σ → List (ChoiceReport σ) → StepReport σ → Prop where
  | unknown {s : Step σ} {name : String} (calls : s.called? = some name)
      (missing : session.chooser? name = none) :
      Answers session s [] ⟨.unknownChooser, [], []⟩
  | chose {name : String} {terms : CallTerms} {chooser : Chooser σ} (report : ChoiceReport σ)
      (found : session.chooser? name = some chooser) :
      Answers session (.choose name terms) [report]
        ⟨.chose report.choice chooser.drawsAmbient, report.calls, report.events⟩
  | choseTimes {name : String} {times : Nat} {chooser : Chooser σ}
      {reports : List (ChoiceReport σ)} {outcome : Except Choice (List Pod)}
      (found : session.chooser? name = some chooser)
      (chosen : ChoiceSeries.Chosen reports outcome) :
      Answers session (.chooseTimes name times) reports
        ⟨.choseAll outcome, reports.flatMap (·.calls), reports.flatMap (·.events)⟩
  | choseKeys {keys : List AffinityKey} {points : Nat} {reports : List (ChoiceReport σ)}
      {outcome : Except Choice (List Pod)} (chosen : ChoiceSeries.Chosen reports outcome) :
      Answers session (.chooseKeys keys points) reports
        ⟨.choseAll outcome, reports.flatMap (·.calls), reports.flatMap (·.events)⟩

/-- **STEP**: a step that chooses pods answers what its calls come to. -/
theorem answers_step (session : Session σ) {s : Step σ} (hs : s.isChoice = true) :
    session.Answers s ((session.stepCalls hash s).map (·.report hash))
      (session.step hash s).1 := by
  cases s with
  | choose name terms =>
      rw [stepCalls, step]
      cases hchooser : session.chooser? name with
      | none => exact .unknown rfl hchooser
      | some chooser => exact .chose _ hchooser
  | chooseTimes name times =>
      rw [stepCalls, step]
      cases hchooser : session.chooser? name with
      | none => exact .unknown rfl hchooser
      | some chooser =>
          have hsums := sums_series hash session.lister (some name) times chooser session.ambient
          simp only [report_of_sums hsums]
          exact .choseTimes hchooser hsums.chosen
  | chooseKeys keys points =>
      have hsums := sums_keySeries hash session points keys session.ambient
      rw [stepCalls, step, report_of_sums hsums]
      exact .choseKeys hsums.chosen
  | _ => exact nomatch hs

theorem length_run (session : Session σ) (steps : List (Step σ)) :
    (session.run hash steps).1.length = steps.length := by
  induction steps generalizing session with
  | nil => rfl
  | cons s steps ih => exact congrArg (· + 1) (ih _)

/-- **RUN**: in the place of a step that chooses pods, a run answers what the calls of the step come
to. -/
theorem answers_run (session : Session σ) {earlier later : List (Step σ)} {s : Step σ}
    (hs : s.isChoice = true) :
    let now := (session.run hash earlier).2
    ∃ report, (session.run hash (earlier ++ s :: later)).1[earlier.length]? = some report
      ∧ now.Answers s ((now.stepCalls hash s).map (·.report hash)) report := by
  intro now
  refine ⟨(now.step hash s).1, ?_, answers_step hash now hs⟩
  rw [run_append, List.getElem?_append_right (Nat.le_of_eq (length_run hash session earlier)),
    length_run, Nat.sub_self]
  rfl

/-! ## Who calls, and what for -/

/-- The calls of a series differ in the chooser as they find it and in the ambient source. -/
theorem free_of_mem_seriesCalls {lister : Lister} {caller : Option String} {n : Nat}
    {chooser : Chooser σ} {ambient : σ} {call : ChoiceCall σ}
    (h : call ∈ seriesCalls hash lister caller n chooser ambient) :
    ∃ chooser ambient, call = .free lister caller chooser ambient := by
  induction n generalizing chooser ambient with
  | zero => exact nomatch h
  | succ n ih =>
      rw [seriesCalls] at h
      split at h
      · rcases List.mem_cons.1 h with rfl | h
        · exact ⟨chooser, ambient, rfl⟩
        · exact ih h
      · exact ⟨chooser, ambient, List.mem_singleton.1 h⟩

/-- The calls for keys differ in the key and in the ambient source. -/
theorem free_of_mem_keyCalls {session : Session σ} {points : Nat} {keys : List AffinityKey}
    {ambient : σ} {call : ChoiceCall σ} (h : call ∈ keyCalls hash session points keys ambient) :
    ∃ key ambient, call = .free session.lister none (session.keyChooser points key) ambient := by
  induction keys generalizing ambient with
  | nil => exact nomatch h
  | cons key keys ih =>
      rw [keyCalls] at h
      split at h
      · rcases List.mem_cons.1 h with rfl | h
        · exact ⟨key, ambient, rfl⟩
        · exact ih h
      · exact ⟨key, ambient, List.mem_singleton.1 h⟩

theorem caller_of_mem_seriesCalls {lister : Lister} {caller : Option String} {n : Nat}
    {chooser : Chooser σ} {ambient : σ} {call : ChoiceCall σ}
    (h : call ∈ seriesCalls hash lister caller n chooser ambient) : call.caller = caller := by
  obtain ⟨_, _, rfl⟩ := free_of_mem_seriesCalls hash h
  rfl

theorem caller_of_mem_keyCalls {session : Session σ} {points : Nat} {keys : List AffinityKey}
    {ambient : σ} {call : ChoiceCall σ} (h : call ∈ keyCalls hash session points keys ambient) :
    call.caller = none := by
  obtain ⟨_, _, rfl⟩ := free_of_mem_keyCalls hash h
  rfl

/-- The calls of a step meet the orchestrator as the step does. -/
theorem lister_of_mem_stepCalls {session : Session σ} {s : Step σ} {call : ChoiceCall σ}
    (h : call ∈ session.stepCalls hash s) : call.lister = session.lister := by
  cases s with
  | choose name terms =>
      rw [stepCalls] at h
      cases hchooser : session.chooser? name with
      | none => rw [hchooser] at h; exact nomatch h
      | some chooser =>
          rw [hchooser] at h
          rw [List.mem_singleton.1 h]
  | chooseTimes name times =>
      rw [stepCalls] at h
      cases hchooser : session.chooser? name with
      | none => rw [hchooser] at h; exact nomatch h
      | some chooser =>
          rw [hchooser] at h
          obtain ⟨_, _, rfl⟩ := free_of_mem_seriesCalls hash h
          rfl
  | chooseKeys keys points =>
      obtain ⟨_, _, rfl⟩ := free_of_mem_keyCalls hash h
      rfl
  | _ => exact nomatch h

end Session

end PodPlacement
