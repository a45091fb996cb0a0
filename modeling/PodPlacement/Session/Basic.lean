import PodPlacement.Config.Factory

/-! # Sessions — one orchestrator, many choosers

    A session is a run of steps on one lister, one current group, choosers by
    name and cancellation tokens by name.  Time stands still between steps; in
    a call it jumps to whatever happens next.  Every step answers something,
    and reports the listings it asked for and the events on the way. -/

namespace PodPlacement

/-- What a session knows. -/
structure Session (σ : Type) where
  lister : Lister
  group : ReplicaGroup
  choosers : List (String × Chooser σ)
  /-- The tokens that have been cancelled. -/
  cancelled : List String
  /-- The source of whoever has none of its own. -/
  ambient : σ

/-- How a call may be cancelled: by a token, or a while after it began. -/
structure CallTerms where
  token : Option String
  after : Moment

/-- A step of a session. -/
inductive Step (σ : Type) where
  | setPods (pods : List Pod)
  | setFailure (message : Option String)
  | setDelay (delay : Moment)
  | setGroup (group : ReplicaGroup)
  | cancel (token : String)
  | newRandom (name : String) (source : Option σ) (limit : Option Span)
  | newSticky (name : String) (key : AffinityKey) (points : Nat) (limit : Option Span)
  | cloneSticky (name copy : String) (points : Option Nat)
  | build (name : String) (config : ChooserConfig) (key : Option AffinityKey)
  | inspect (name : String)
  | discover (limit : Option Span) (terms : CallTerms)
  | choose (name : String) (terms : CallTerms)
  | chooseTimes (name : String) (times : Nat)
  /-- One choice by a new sticky chooser for each key. -/
  | chooseKeys (keys : List AffinityKey) (points : Nat)

/-- What a step answers. -/
inductive StepAnswer (σ : Type) where
  | done
  | unknownChooser
  | chooser (chooser : Chooser σ)
  | refused (e : ConfigError)
  /-- The outcome of a discovery; none when it waits for ever. -/
  | discovered (outcome : Option (Except DiscoveryError (List Pod)))
  /-- A choice, and whether it may have drawn from the ambient source. -/
  | chose (choice : Choice) (ambient : Bool)
  /-- The pods chosen one after another, or what the first choice without a pod came to. -/
  | choseAll (chosen : Except Choice (List Pod))

/-- What a step answers and reports. -/
structure StepReport (σ : Type) where
  answer : StepAnswer σ
  calls : List ListCall
  events : List Event

namespace StepReport

/-- An answer without listings and events. -/
def quiet {σ : Type} (answer : StepAnswer σ) : StepReport σ := ⟨answer, [], []⟩

end StepReport

/-- Choices made one after another, up to the first that chooses no pod. -/
structure ChoiceSeries (σ : Type) where
  chosen : Except Choice (List Pod)
  calls : List ListCall
  events : List Event
  ambient : σ

namespace ChoiceSeries

variable {σ : Type}

/-- No choice. -/
def none (ambient : σ) : ChoiceSeries σ := ⟨.ok [], [], [], ambient⟩

/-- A choice that chose no pod. -/
def stopped (report : ChoiceReport σ) : ChoiceSeries σ :=
  ⟨.error report.choice, report.calls, report.events, report.ambient⟩

/-- A series with a choice of this pod in front. -/
def after (rest : ChoiceSeries σ) (report : ChoiceReport σ) (pod : Pod) : ChoiceSeries σ where
  chosen := rest.chosen.map (pod :: ·)
  calls := report.calls ++ rest.calls
  events := report.events ++ rest.events
  ambient := rest.ambient

/-- What a step that made these choices answers and reports. -/
def report (series : ChoiceSeries σ) : StepReport σ :=
  ⟨.choseAll series.chosen, series.calls, series.events⟩

end ChoiceSeries

namespace Session

variable {σ : Type}

/-- A session at its start. -/
def start (lister : Lister) (group : ReplicaGroup) (ambient : σ) : Session σ :=
  ⟨lister, group, [], [], ambient⟩

/-- The chooser of a name. -/
def chooser? (session : Session σ) (name : String) : Option (Chooser σ) :=
  (session.choosers.find? (·.1 = name)).map Prod.snd

/-- Gives a name to a chooser, which replaces that of the same name. -/
def putChooser (session : Session σ) (name : String) (chooser : Chooser σ) : Session σ :=
  { session with choosers := (name, chooser) :: session.choosers.filter (·.1 ≠ name) }

/-- How a call on these terms is cancelled. -/
def cancellation (session : Session σ) (terms : CallTerms) : Cancellation :=
  if terms.token.any (· ∈ session.cancelled) then .before else .during terms.after

/-- The session after a call on these terms that was, or was not, given up: a token that gave it up
stays cancelled. -/
def settle (session : Session σ) (terms : CallTerms) (givenUp : Bool) : Session σ :=
  match terms.token with
  | some token =>
    if givenUp then { session with cancelled := token :: session.cancelled } else session
  | none => session

/-- Names a new chooser and shows it. -/
def introduce (session : Session σ) (name : String) (chooser : Chooser σ) :
    StepReport σ × Session σ :=
  (.quiet (.chooser chooser), session.putChooser name chooser)

variable [Executor] [SeededSource σ] (hash : String → UInt64)

/-- A choice that nobody cancels. -/
def chooseFreely (lister : Lister) (chooser : Chooser σ) (ambient : σ) : ChoiceReport σ :=
  chooser.choosePod hash lister (.during .never) ambient

/-- One choice after another by one chooser, and the chooser after them. -/
def series (lister : Lister) : Nat → Chooser σ → σ → ChoiceSeries σ × Chooser σ
  | 0, chooser, ambient => (.none ambient, chooser)
  | n + 1, chooser, ambient =>
    let report := chooseFreely hash lister chooser ambient
    match report.choice with
    | .selected selection =>
      let (rest, chooser) := series lister n report.chooser report.ambient
      (rest.after report selection.chosen, chooser)
    | _ => (.stopped report, report.chooser)

/-- One choice for each key, each by a new chooser of the current group. -/
def keySeries (session : Session σ) (points : Nat) : List AffinityKey → σ → ChoiceSeries σ
  | [], ambient => .none ambient
  | key :: keys, ambient =>
    let chooser : Chooser σ := .new session.group none (.sticky key points)
    let report := chooseFreely hash session.lister chooser ambient
    match report.choice with
    | .selected selection =>
      (keySeries session points keys report.ambient).after report selection.chosen
    | _ => .stopped report

/-- Takes a step. -/
def step (session : Session σ) : Step σ → StepReport σ × Session σ
  | .setPods pods => (.quiet .done, { session with lister.pods := pods })
  | .setFailure message => (.quiet .done, { session with lister.failure := message })
  | .setDelay delay => (.quiet .done, { session with lister.delay := delay })
  | .setGroup group => (.quiet .done, { session with group })
  | .cancel token => (.quiet .done, { session with cancelled := token :: session.cancelled })
  | .newRandom name source limit =>
    session.introduce name (.new session.group limit (.random source))
  | .newSticky name key points limit =>
    session.introduce name (.new session.group limit (.sticky key points))
  | .cloneSticky name copy points =>
    match session.chooser? name with
    | some ⟨group, limit, .sticky key old⟩ =>
      session.introduce copy (.new group limit (.sticky key (points.getD old)))
    | _ => (.quiet .unknownChooser, session)
  | .build name config key =>
    match config.build key with
    | .ok chooser => (⟨.done, [], [config.builtEvent]⟩, session.putChooser name chooser)
    | .error e => (.quiet (.refused e), session)
  | .inspect name =>
    match session.chooser? name with
    | some chooser => (.quiet (.chooser chooser), session)
    | none => (.quiet .unknownChooser, session)
  | .discover limit terms =>
    let discovery := PodPlacement.discover session.lister session.group
      (session.cancellation terms) limit
    let givenUp := match discovery.outcome with
      | some (.error (.cancelled _)) => true
      | _ => false
    (⟨.discovered discovery.outcome, discovery.calls, discovery.events⟩,
     session.settle terms givenUp)
  | .choose name terms =>
    match session.chooser? name with
    | none => (.quiet .unknownChooser, session)
    | some chooser =>
      let report := chooser.choosePod hash session.lister (session.cancellation terms)
        session.ambient
      let givenUp := match report.choice with
        | .failed e => e.isCancelled
        | _ => false
      (⟨.chose report.choice chooser.drawsAmbient, report.calls, report.events⟩,
       { (session.putChooser name report.chooser).settle terms givenUp with
         ambient := report.ambient })
  | .chooseTimes name times =>
    match session.chooser? name with
    | none => (.quiet .unknownChooser, session)
    | some chooser =>
      let (all, chooser) := series hash session.lister times chooser session.ambient
      (all.report, { session.putChooser name chooser with ambient := all.ambient })
  | .chooseKeys keys points =>
    let all := keySeries hash session points keys session.ambient
    (all.report, { session with ambient := all.ambient })

/-- Takes steps one after another. -/
def run (session : Session σ) : List (Step σ) → List (StepReport σ) × Session σ
  | [] => ([], session)
  | s :: steps =>
    let (report, session) := session.step hash s
    let (reports, session) := run session steps
    (report :: reports, session)

theorem run_append (session : Session σ) (before after : List (Step σ)) :
    session.run hash (before ++ after)
      = ((session.run hash before).1 ++ ((session.run hash before).2.run hash after).1,
         ((session.run hash before).2.run hash after).2) := by
  induction before generalizing session with
  | nil => rfl
  | cons s steps ih => simp only [List.cons_append, run, ih]

end Session

end PodPlacement
