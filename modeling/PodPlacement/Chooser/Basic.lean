import PodPlacement.Chooser.Error
import PodPlacement.Chooser.Lock
import PodPlacement.Chooser.Sticky
import PodPlacement.Discovery.Basic

/-! # Choosers — who takes the next unit of work

    A chooser discovers the running pods of its group on every call and picks
    one of them by its policy.  A random policy may have a source of its own,
    behind a lock that every pick takes; a draw that fails poisons the lock,
    and the next pick recovers the source from it.  Without one, and for the
    fallback of a sticky policy, a pick draws from the ambient source that all
    choosers share. -/

namespace PodPlacement

/-- How a chooser picks. -/
inductive Policy (σ : Type) where
  | random (source : Option σ)
  | sticky (key : AffinityKey) (ringPoints : Nat)

/-- The same policy with another form of source. -/
def Policy.map {σ τ : Type} (f : σ → τ) : Policy σ → Policy τ
  | .random source => .random (source.map f)
  | .sticky key points => .sticky key points

/-- A chooser of pods. -/
structure Chooser (σ : Type) where
  group : ReplicaGroup
  limit : Option Span
  /-- The policy, its source behind a lock. -/
  guarded : Policy (Lock σ)

/-- What came of a choice. -/
inductive Choice (ε : Type := String) where
  | selected (selection : Selection)
  | failed (e : ChooseError ε)
  /-- The source of indices failed. -/
  | drawFailed
  /-- The discovery waits for ever. -/
  | waits
  deriving DecidableEq

/-- What came of a choice, the calls and events on the way, and the chooser and the ambient source
after it. -/
structure ChoiceReport (σ : Type) (ε : Type := String) where
  choice : Choice ε
  calls : List ListCall
  events : List Event
  chooser : Chooser σ
  ambient : σ

namespace Choice

/-- What a pick from the pods of a group makes of the choice. -/
def ofPick {ε : Type} (group : ReplicaGroup) : Pick → Choice ε
  | .selected selection => .selected selection
  | .emptySet => .failed (.noRunningPods group.name)
  | .drawFailed => .drawFailed

end Choice

/-- A pick, what was said about it, and the policy and the ambient source after it. -/
structure PolicyReport (σ : Type) where
  pick : Pick
  events : List Event
  policy : Policy (Lock σ)
  ambient : σ

namespace Policy

variable {σ : Type} [DrawSource σ]

/-- Picks from the running pods of a group. -/
def pick (hash : String → UInt64) (group : ReplicaGroup) (pods : List Pod) (ambient : σ) :
    Policy (Lock σ) → PolicyReport σ
  | .random (some lock) =>
    let report := Pick.random pods (PoisonError.recover lock.take)
    ⟨report.pick, report.events,
     .random (some (lock.giveBack report.source report.pick.panicked)), ambient⟩
  | .random none =>
    let report := Pick.random pods ambient
    ⟨report.pick, report.events, .random none, report.source⟩
  | .sticky key points =>
    let report := Pick.sticky hash points key group pods ambient
    ⟨report.pick, report.events, .sticky key points, report.source⟩

end Policy

namespace Chooser

variable {σ : Type}

/-- A new chooser; nobody has held the lock of its source. -/
def new (group : ReplicaGroup) (limit : Option Span) (policy : Policy σ) : Chooser σ :=
  ⟨group, limit, policy.map Lock.new⟩

/-- The policy of a chooser, with its source as it is behind the lock. -/
def policy (chooser : Chooser σ) : Policy σ := chooser.guarded.map Lock.content

/-- A sticky policy has nothing behind a lock. -/
theorem guarded_of_sticky {chooser : Chooser σ} {key : AffinityKey} {points : Nat}
    (h : chooser.policy = .sticky key points) : chooser.guarded = .sticky key points := by
  rw [policy] at h
  cases hguarded : chooser.guarded with
  | random source => rw [hguarded] at h; exact nomatch h
  | sticky key' points' => rw [hguarded] at h; cases h; rfl

/-- Draws from the ambient source whenever it picks at random. -/
def drawsAmbient (chooser : Chooser σ) : Bool :=
  match chooser.guarded with
  | .random (some _) => false
  | _ => true

/-- The chooser in words. -/
def description (chooser : Chooser σ) : String :=
  let group := "group: ReplicaGroup \x7b name: " ++ Text.quoted chooser.group.name ++ " \x7d"
  let limit := "list_timeout: " ++ Span.optionText chooser.limit
  match chooser.guarded with
  | .random source =>
    "RandomPodChooser \x7b " ++ group
      ++ ", injected_source: " ++ (if source.isSome then "true" else "false")
      ++ ", " ++ limit ++ ", .. \x7d"
  | .sticky key points =>
    "StickyPodChooser \x7b " ++ group ++ ", key: " ++ key.description
      ++ ", ring_points: " ++ String.ofList (Digits.shortest points)
      ++ ", " ++ limit ++ ", .. \x7d"

variable [DrawSource σ]

/-- Chooses a pod. -/
def choosePod {κ ε : Type} [Orchestrator κ ε] [Executor] (hash : String → UInt64)
    (chooser : Chooser σ) (lister : κ) (cancellation : Cancellation) (ambient : σ) :
    ChoiceReport σ ε :=
  let discovery := discover lister chooser.group cancellation chooser.limit
  match discovery.outcome with
  | none => ⟨.waits, discovery.calls, discovery.events, chooser, ambient⟩
  | some (.error e) =>
    ⟨.failed (.discovery e), discovery.calls, discovery.events, chooser, ambient⟩
  | some (.ok pods) =>
    let report := chooser.guarded.pick hash chooser.group pods ambient
    ⟨.ofPick chooser.group report.pick, discovery.calls, discovery.events ++ report.events,
     { chooser with guarded := report.policy }, report.ambient⟩

end Chooser

end PodPlacement
