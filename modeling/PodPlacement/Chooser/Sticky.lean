import PodPlacement.Chooser.Random
import PodPlacement.Ring.Basic

/-! # Sticky picks — the same key to the same pod

    The names of the running pods are the nodes of a hash ring, and the pick is
    the first pod that bears the name of the key's owner.  A ring without
    points owns nothing; the pick is then a random one. -/

namespace PodPlacement

/-- What the caller pins to one pod. -/
structure AffinityKey where
  text : String
  deriving DecidableEq

/-- The written form of a key in descriptions. -/
def AffinityKey.description (key : AffinityKey) : String :=
  "AffinityKey(" ++ Text.quoted key.text ++ ")"

namespace Pick

/-- Who speaks in the events of sticky picks. -/
def stickyTarget : String := "podchooser_core::chooser::algorithms::sticky"

/-- A key found its owner. -/
def ownerEvent (key : AffinityKey) (pod : Pod) : Event :=
  .say .debug stickyTarget "sticky pod choice"
    [("affinity_key", .text key.text), ("pod", .text pod.name)]

/-- A key has no owner among so many pods. -/
def fallbackEvent (key : AffinityKey) (group : ReplicaGroup) (pods : Nat) : Event :=
  .say .warn stickyTarget
    "no pod found on hash ring for affinity key; falling back to random selection"
    [("affinity_key", .text key.text), ("group", .text group.name), ("pods", .count pods)]

/-- The index of the first pod that owns a key on the ring of all names. -/
def ownerIndex? (hash : String → UInt64) (points : Nat) (key : AffinityKey) (pods : List Pod) :
    Option (Fin pods.length) :=
  ((HashRing.build hash (pods.map Pod.name) points).owner? key.text).bind fun name =>
    pods.findFinIdx? (·.name = name)

variable {σ : Type} [DrawSource σ]

/-- Picks the pod that owns a key. -/
def sticky (hash : String → UInt64) (points : Nat) (key : AffinityKey) (group : ReplicaGroup)
    (pods : List Pod) (source : σ) : PickReport σ :=
  if pods.isEmpty then ⟨.emptySet, [], source⟩
  else
    match ownerIndex? hash points key pods with
    | some index =>
      ⟨.selected (.split pods index .stickyHash), [ownerEvent key (pods.get index)], source⟩
    | none =>
      let report := random pods source
      ⟨report.pick.because .stickyFallback,
       fallbackEvent key group pods.length :: report.events, report.source⟩

end Pick

end PodPlacement
