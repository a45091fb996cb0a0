import PodPlacement.Cluster.Pod

/-! # Selections — a chosen pod and the pods it was chosen from -/

namespace PodPlacement

/-- How a pod was chosen. -/
inductive SelectionReason where
  | random
  | stickyHash
  /-- The ring had no owner for the key. -/
  | stickyFallback
  deriving DecidableEq

/-- The name of a reason. -/
def SelectionReason.name : SelectionReason → String
  | .random => "Random"
  | .stickyHash => "StickyHash"
  | .stickyFallback => "StickyFallback"

/-- A chosen pod, and all others in the order of their discovery. -/
structure Selection where
  chosen : Pod
  others : List Pod
  reason : SelectionReason
  deriving DecidableEq

namespace Selection

/-- Chooses the pod at an index. -/
def split (pods : List Pod) (index : Fin pods.length) (reason : SelectionReason) : Selection :=
  ⟨pods[index], pods.eraseIdx index, reason⟩

/-- The number of pods chosen from. -/
def poolSize (selection : Selection) : Nat :=
  selection.others.length + 1

/-- All pods chosen from, the chosen one first. -/
def pool (selection : Selection) : List Pod :=
  selection.chosen :: selection.others

theorem poolSize_split (pods : List Pod) (index : Fin pods.length) (reason : SelectionReason) :
    (split pods index reason).poolSize = pods.length := by
  have := index.isLt
  simp only [split, poolSize, List.length_eraseIdx, if_pos this]
  omega

/-- A selection neither loses nor doubles a pod. -/
theorem perm_pool_split (pods : List Pod) (index : Fin pods.length) (reason : SelectionReason) :
    (split pods index reason).pool.Perm pods := by
  simp only [split, pool]
  obtain ⟨i, hi⟩ := index
  induction pods generalizing i with
  | nil => exact absurd hi (Nat.not_lt_zero i)
  | cons pod rest ih =>
    cases i with
    | zero => exact .refl _
    | succ i => exact (List.Perm.swap pod _ _).trans ((ih i (Nat.lt_of_succ_lt_succ hi)).cons pod)

end Selection

end PodPlacement
