import PodPlacement.Discovery.Error
import PodPlacement.Discovery.Future
import PodPlacement.Event.Basic

/-! # Discovery — the pods of a group that can take work now

    A discovery asks the orchestrator once and keeps nothing.  It fails before
    asking when the group's name makes no selector or the caller has cancelled
    already.  While it waits, it looks at the cancellation first.  The running
    pods of the answer come in the order of their names; pods of one name keep
    the order of the listing. -/

namespace PodPlacement

/-- What came of a discovery; without outcome, the call waits for ever. -/
structure Discovery (ε : Type := String) where
  outcome : Option (Except (DiscoveryError ε) (List Pod))
  calls : List ListCall
  events : List Event

namespace Discovery

variable {ε : Type}

/-- Who speaks in the events of a discovery. -/
def target : String := "podchooser_core::discovery"

/-- A listing was given up. -/
def cancelledEvent (group : ReplicaGroup) : Event :=
  .say .debug target "pod listing cancelled" [("group", .text group.name)]

/-- A listing failed. -/
def failedEvent (group : ReplicaGroup) (e : DiscoveryError ε) : Event :=
  .say .warn target "pod discovery failed"
    [("group", .text group.name), ("error", .text e.message)]

/-- What is said about a listed pod: whether it is kept, or why it is not if it is terminating. -/
def podEvent? (pod : Pod) : Option Event :=
  if pod.isRunning then
    some (.say .debug target "pod running" [("pod", .text pod.name)])
  else if pod.isTerminating then
    some (.say .debug target "skipping terminating pod"
      [("pod", .text pod.name), ("phase", .text pod.phase.name)])
  else
    none

/-- The running pods of a listing in name order. -/
def runningByName (pods : List Pod) : List Pod :=
  (pods.filter Pod.isRunning).mergeSort fun a b => decide (a.name ≤ b.name)

theorem name_le_trans (a b c : Pod) (hab : decide (a.name ≤ b.name) = true)
    (hbc : decide (b.name ≤ c.name) = true) : decide (a.name ≤ c.name) = true :=
  decide_eq_true (String.le_trans (of_decide_eq_true hab) (of_decide_eq_true hbc))

theorem name_le_total (a b : Pod) :
    (decide (a.name ≤ b.name) || decide (b.name ≤ a.name)) = true := by
  simpa using String.le_total a.name b.name

theorem perm_runningByName (pods : List Pod) :
    (runningByName pods).Perm (pods.filter Pod.isRunning) :=
  List.mergeSort_perm ..

theorem pairwise_runningByName (pods : List Pod) :
    (runningByName pods).Pairwise (·.name ≤ ·.name) :=
  (List.pairwise_mergeSort name_le_trans name_le_total _).imp of_decide_eq_true

/-- The answer to a listing for a group, within a limit if there is one. -/
def listWithin {κ : Type} [Orchestrator κ ε] (lister : κ) (selector : LabelSelector)
    (group : ReplicaGroup) : Option Span → Future (Except (DiscoveryError ε) (List Pod))
  | some limit => ((Future.listing lister selector).within limit).map fun
    | some listed => listed.mapError (.list group.name)
    | none => .error (.timedOut group.name limit)
  | none => (Future.listing lister selector).map (·.mapError (.list group.name))

/-- That answer, unless the caller gives up before. -/
def wait {κ : Type} [Orchestrator κ ε] (lister : κ) (selector : LabelSelector)
    (group : ReplicaGroup) (cancellation : Cancellation) (limit : Option Span) :
    Future (Unit ⊕ Except (DiscoveryError ε) (List Pod)) :=
  (Future.cancelled cancellation).select (listWithin lister selector group limit)

/-- What the wait has come to makes of the discovery. -/
def ofProgress (group : ReplicaGroup)
    (progress : Progress (Unit ⊕ Except (DiscoveryError ε) (List Pod))) : Discovery ε :=
  let calls := progress.listing.toList
  match progress.value with
  | none => ⟨none, calls, []⟩
  | some (.inl ()) => ⟨some (.error (.cancelled group.name)), calls, [cancelledEvent group]⟩
  | some (.inr (.error e)) => ⟨some (.error e), calls, [failedEvent group e]⟩
  | some (.inr (.ok pods)) =>
    ⟨some (.ok (runningByName pods)), calls, pods.filterMap podEvent?⟩

end Discovery

/-- Discovers the running pods of a group. -/
def discover {κ ε : Type} [Orchestrator κ ε] [Executor] (lister : κ) (group : ReplicaGroup)
    (cancellation : Cancellation) (limit : Option Span) : Discovery ε :=
  match LabelSelector.forGroup group with
  | .error e => ⟨some (.error (.invalidSelector e)), [], []⟩
  | .ok selector =>
    .ofProgress group <|
      (Discovery.wait lister selector group cancellation limit).await <|
        Executor.polls (Orchestrator.delay lister selector) cancellation.moment (.ofLimit limit)

end PodPlacement
