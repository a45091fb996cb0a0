import PodPlacement.Config.Factory
import PodPlacement.Discovery.IdleClock
import PodPlacement.Testbed.Fixtures

/-! # The test bed — clusters that serve fixtures, and a store of events

    Every cluster serves the pods of the fixture that was last loaded for it;
    a fixture that cannot be loaded changes nothing.  From the first start on,
    also one that fails, every event is added to one store, to which all
    clusters add and from which nothing is ever taken. -/

namespace PodPlacement

/-- Why a fixture gives no pods. -/
inductive FixtureFault where
  | unreadable (fault : ReadFault)
  | undecodable (e : JsonError)
  deriving DecidableEq

namespace FixtureFault

/-- The wording of what is wrong with the pods; a file that holds none fails at its first
character. -/
def undecodableText (e : JsonError) : String :=
  "invalid pod fixture: Error(" ++ Text.quoted e.message ++ ", line: 1, column: 1)"

/-- The wording of a fault at the start of a cluster. -/
def startMessage (fixture : String) : FixtureFault → String
  | .unreadable fault => "failed to read fixture " ++ fixture ++ ": " ++ fault.message
  | .undecodable e => undecodableText e

/-- The wording of a fault when a cluster loads another fixture. -/
def reloadMessage : FixtureFault → String
  | .unreadable fault => "failed to read fixture: " ++ fault.description
  | .undecodable e => undecodableText e

end FixtureFault

/-- The pods of a fixture, as it is stored. -/
def Fixtures.pods (disk : Storage) (name : String) : Except FixtureFault (List Pod) := do
  let text ← (disk.readText (path name)).mapError .unreadable
  (Pod.listOfText text).mapError .undecodable

/-- The files of the fixtures, the clusters by name, and the events so far, oldest first; none are
stored before the first start. -/
structure Testbed where
  disk : Storage
  clusters : List (String × Lister)
  store : Option (List Event)

/-- A step on the test bed. -/
inductive BedStep (σ : Type) where
  | start (cluster fixture : String)
  | reload (cluster fixture : String)
  | discoverIn (cluster : String) (group : ReplicaGroup) (limit : Option Span)
      (cancellation : Cancellation)
  /-- One choice by this chooser, in the state in which its caller has it. -/
  | chooseIn (cluster : String) (chooser : Chooser σ) (cancellation : Cancellation)
  | loadConfig (fixture : String)
  | emit (event : Event)
  /-- The events of a level, if one is asked for, and of a value of a field, or without it. -/
  | query (cluster : String) (level : Option String) (field : Option (String × Option String))

namespace BedStep

variable {σ : Type}

/-- Discovers the pods of the fixtures' group. -/
def discover (cluster : String) (cancelled : Bool) : BedStep σ :=
  .discoverIn cluster Fixtures.group none (if cancelled then .before else .during .never)

/-- One choice by a new chooser of this policy for the fixtures' group. -/
def choose (cluster : String) (policy : Policy σ) : BedStep σ :=
  .chooseIn cluster (.new Fixtures.group none policy) (.during .never)

end BedStep

/-- What a step on the test bed answers. -/
inductive BedAnswer where
  | done
  | unknownCluster
  | started (group : ReplicaGroup) (pods : List Pod)
  | startFailed (fixture : String) (fault : FixtureFault)
  | reloadFailed (fault : FixtureFault)
  | discovered (outcome : Option (Except DiscoveryError (List Pod)))
  /-- A choice, and whether it may have drawn from the ambient source. -/
  | chose (choice : Choice) (ambient : Bool)
  | config (outcome : Except ConfigError ChooserConfig)
  | events (events : List Event)

/-- What a step on the test bed answers, and the events that it emits. -/
structure BedReport where
  answer : BedAnswer
  events : List Event

/-- An answer without events. -/
def BedReport.quiet (answer : BedAnswer) : BedReport := ⟨answer, []⟩

namespace Testbed

/-- Nothing started, with the fixtures of a storage. -/
def ofStorage (disk : Storage) : Testbed := ⟨disk, [], none⟩

/-- Nothing started. -/
def empty : Testbed := .ofStorage Fixtures.storage

/-- The cluster of a name. -/
def cluster? (bed : Testbed) (name : String) : Option Lister :=
  (bed.clusters.find? (·.1 = name)).map Prod.snd

/-- The events stored so far. -/
def stored (bed : Testbed) : List Event := bed.store.getD []

/-- Gives a name to a cluster, which replaces that of the same name. -/
def putCluster (bed : Testbed) (name : String) (lister : Lister) : Testbed :=
  { bed with clusters := (name, lister) :: bed.clusters.filter (·.1 ≠ name) }

/-- Begins to store events; those stored already stay. -/
def openStore (bed : Testbed) : Testbed :=
  { bed with store := some bed.stored }

/-- Stores events, if the store has been opened. -/
def record (bed : Testbed) (events : List Event) : Testbed :=
  { bed with store := bed.store.map (· ++ events) }

/-- An event answers a query. -/
def isAsked (level : Option String) (field : Option (String × Option String)) (event : Event) :
    Bool :=
  level.all (event.level.name = ·) &&
    field.all fun (name, value) => (event.field? name).map FieldValue.toText = value

variable {σ : Type} [Executor] [DrawSource σ] (hash : String → UInt64)

/-- What a step does and emits, before its events are stored; `ambient` is the source of whoever
has none of its own. -/
def act (bed : Testbed) (ambient : σ) : BedStep σ → BedReport × Testbed × σ
  | .start name fixture =>
    let bed := bed.openStore
    match Fixtures.pods bed.disk fixture with
    | .ok pods =>
      (.quiet (.started Fixtures.group pods), bed.putCluster name (.ofPods pods), ambient)
    | .error fault => (.quiet (.startFailed fixture fault), bed, ambient)
  | .reload name fixture =>
    match bed.cluster? name with
    | none => (.quiet .unknownCluster, bed, ambient)
    | some lister =>
      match Fixtures.pods bed.disk fixture with
      | .ok pods => (.quiet .done, bed.putCluster name { lister with pods }, ambient)
      | .error fault => (.quiet (.reloadFailed fault), bed, ambient)
  | .discoverIn name group limit cancellation =>
    match bed.cluster? name with
    | none => (.quiet .unknownCluster, bed, ambient)
    | some lister =>
      let discovery := PodPlacement.discover lister group cancellation limit
      (⟨.discovered discovery.outcome, discovery.events⟩, bed, ambient)
  | .chooseIn name chooser cancellation =>
    match bed.cluster? name with
    | none => (.quiet .unknownCluster, bed, ambient)
    | some lister =>
      let report := chooser.choosePod hash lister cancellation ambient
      (⟨.chose report.choice chooser.drawsAmbient, report.events⟩, bed, report.ambient)
  | .loadConfig fixture =>
    (.quiet (.config (ChooserConfig.loadFile bed.disk (Fixtures.path fixture))), bed, ambient)
  | .emit event => (⟨.done, [event]⟩, bed, ambient)
  | .query name level field =>
    match bed.cluster? name with
    | none => (.quiet .unknownCluster, bed, ambient)
    | some _ => (.quiet (.events (bed.stored.filter (isAsked level field))), bed, ambient)

/-- Takes a step and stores the events that it emits. -/
def perform (bed : Testbed) (ambient : σ) (s : BedStep σ) : BedReport × Testbed × σ :=
  let (report, bed, ambient) := bed.act hash ambient s
  (report, bed.record report.events, ambient)

/-- Takes a step; what it answers, and the test bed after it. -/
def step (bed : Testbed) (ambient : σ) (s : BedStep σ) : BedAnswer × Testbed :=
  let (report, bed, _) := bed.perform hash ambient s
  (report.answer, bed)

/-- Takes steps one after another. -/
def run (bed : Testbed) (ambient : σ) : List (BedStep σ) → List BedReport × Testbed × σ
  | [] => ([], bed, ambient)
  | s :: steps =>
    let (report, bed, ambient) := bed.perform hash ambient s
    let (reports, last) := run bed ambient steps
    (report :: reports, last)

theorem run_append (bed : Testbed) (ambient : σ) (before after : List (BedStep σ)) :
    bed.run hash ambient (before ++ after)
      = ((bed.run hash ambient before).1
           ++ ((bed.run hash ambient before).2.1.run hash (bed.run hash ambient before).2.2 after).1,
         ((bed.run hash ambient before).2.1.run hash (bed.run hash ambient before).2.2 after).2) := by
  induction before generalizing bed ambient with
  | nil => rfl
  | cons s steps ih => simp only [List.cons_append, run, ih]

end Testbed

end PodPlacement
