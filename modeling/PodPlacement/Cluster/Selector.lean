import PodPlacement.Cluster.LabelValue
import PodPlacement.Cluster.Pod

/-! # Selectors — which pods a listing asks for

    A selector demands a value for each of some labels.  It is built one label
    at a time; a value that is no label value is refused.  Its text,
    `key=value,key=value`, has the keys in ascending order. -/

namespace PodPlacement

/-- The label that every pod of a group carries, set to the group's name. -/
def groupLabel : String := "app"

/-- The labels that a pod must carry. -/
structure LabelSelector where
  required : Labels
  deriving DecidableEq

namespace LabelSelector

theorem eq_of_required {selector selector' : LabelSelector}
    (h : selector.required = selector'.required) : selector = selector' := by
  cases selector
  cases selector'
  cases h
  rfl

/-- Demands nothing. -/
def empty : LabelSelector := ⟨.empty⟩

/-- Demands one more label; of two values for a key the later is demanded. -/
def withLabel (selector : LabelSelector) (key value : String) :
    Except SelectorError LabelSelector := do
  LabelValue.check value
  return ⟨selector.required.insert key value⟩

/-- Selects the pods of a group. -/
def forGroup (group : ReplicaGroup) : Except SelectorError LabelSelector :=
  empty.withLabel groupLabel group.name

/-- All demands are met by these labels. -/
def selects (selector : LabelSelector) (labels : Labels) : Bool :=
  selector.required.entries.all fun (key, value) => labels.get? key = some value

/-- Demands nothing. -/
def isEmpty (selector : LabelSelector) : Bool :=
  selector.required.entries.isEmpty

/-- The written form. -/
def text (selector : LabelSelector) : String :=
  ",".intercalate (selector.required.entries.map fun (key, value) => key ++ "=" ++ value)

end LabelSelector

end PodPlacement
