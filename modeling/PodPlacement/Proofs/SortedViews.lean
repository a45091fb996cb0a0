import PodPlacement.Proofs.Ordered
import PodPlacement.Proofs.RunningSet
import PodPlacement.Proofs.TextOrder

/-! # Sorted views — which list a group should find

    `InNameOrder` says what it is for pods to be put in the order of their
    names: none is lost or doubled, the bytes of the names ascend, and pods of
    one name stay in the order they had.  There is one such list only
    (`InNameOrder.unique`).

    The running pods of any listing in this order are what a discovery makes of
    it (`inNameOrder_runningByName`), and those of a snapshot are the running
    set (`sortedView_runningSet`). -/

namespace PodPlacement

instance (group : ReplicaGroup) (pod : Pod) : Decidable (pod.RunsFor group) :=
  decidable_of_iff
    (pod.labels.get? groupLabel = some group.name ∧ pod.phase = .running ∧ pod.deletedAt = none)
    ⟨fun ⟨labelled, running, kept⟩ => ⟨labelled, running, kept⟩,
      fun ⟨labelled, running, kept⟩ => ⟨labelled, running, kept⟩⟩

/-! ## Pods in name order -/

/-- The same pods, ascending by the bytes of their names, and in their old order where names are
equal. -/
structure InNameOrder (pods sorted : List Pod) : Prop where
  perm : sorted.Perm pods
  ascending : sorted.Pairwise fun a b => Text.bytes a.name ≤ Text.bytes b.name
  stable : ∀ name, sorted.filter (·.name = name) = pods.filter (·.name = name)

namespace InNameOrder

variable {pods other sorted sorted' : List Pod}

theorem byName (h : InNameOrder pods sorted) : sorted.Pairwise (·.name ≤ ·.name) :=
  h.ascending.imp fun hle => (Text.le_iff_bytes_le _ _).2 hle

/-- Pods have one name order. -/
theorem unique (h : InNameOrder pods sorted) (h' : InNameOrder pods sorted') : sorted = sorted' :=
  Ordered.eq_of_filter_key (fun _ _ => String.le_antisymm) h.byName h'.byName
    fun name => (h.stable name).trans (h'.stable name).symm

/-- Where all names differ, name order does not tell how the pods were listed. -/
theorem eq_of_perm (h : InNameOrder pods sorted) (h' : InNameOrder other sorted')
    (hnames : (sorted.map Pod.name).Nodup) (hperm : pods.Perm other) : sorted' = sorted := by
  have hsorted : sorted'.Perm sorted := h'.perm.trans (hperm.symm.trans h.perm.symm)
  refine hsorted.eq_of_pairwise ?_ h'.byName h.byName
  intro a b ha hb hab hba
  exact List.inj_on_of_nodup_map hnames (hsorted.mem_iff.1 ha) hb (String.le_antisymm hab hba)

/-- A stable sort puts pods in name order. -/
theorem of_mergeSort (pods : List Pod) :
    InNameOrder pods (pods.mergeSort fun a b => decide (a.name ≤ b.name)) where
  perm := List.mergeSort_perm ..
  ascending := by
    have hsorted := List.pairwise_mergeSort Discovery.name_le_trans Discovery.name_le_total pods
    exact hsorted.imp fun hle => (Text.le_iff_bytes_le _ _).1 (of_decide_eq_true hle)
  stable := by
    intro name
    refine Ordered.filter_mergeSort _ Discovery.name_le_trans Discovery.name_le_total _ _ ?_
    intro a b ha hb
    rw [of_decide_eq_true ha, of_decide_eq_true hb]
    exact decide_eq_true (String.le_refl name)

end InNameOrder

/-! ## The running pods of a listing -/

/-- The pods of a listing that are in the running phase and not on their way out. -/
def runningOf (listed : List Pod) : List Pod :=
  listed.filter fun pod => pod.phase = .running ∧ pod.deletedAt = none

/-- A discovery puts the running pods of its listing in name order. -/
theorem inNameOrder_runningByName (listed : List Pod) :
    InNameOrder (runningOf listed) (Discovery.runningByName listed) := by
  have hrunning : listed.filter Pod.isRunning = runningOf listed := by
    refine List.filter_congr fun pod _ => ?_
    rw [Bool.eq_iff_iff, Pod.isRunning_iff, decide_eq_true_iff]
  rw [Discovery.runningByName, hrunning]
  exact .of_mergeSort _

/-! ## The view of a snapshot -/

/-- The pods of a snapshot that run for a group, as the snapshot lists them. -/
def runningIn (snapshot : List Pod) (group : ReplicaGroup) : List Pod :=
  snapshot.filter fun pod => pod.RunsFor group

/-- The running pods of a group in a snapshot, in name order. -/
def SortedView (snapshot : List Pod) (group : ReplicaGroup) (pods : List Pod) : Prop :=
  InNameOrder (runningIn snapshot group) pods

/-- Those of the pods listed for a group that run are those that run for the group. -/
theorem runningOf_listed (snapshot : List Pod) (group : ReplicaGroup) :
    runningOf (snapshot.filter fun pod => pod.labels.get? groupLabel = some group.name)
      = runningIn snapshot group := by
  rw [runningOf, runningIn, List.filter_filter]
  refine List.filter_congr fun pod _ => ?_
  rw [Bool.eq_iff_iff, Bool.and_eq_true, decide_eq_true_iff, decide_eq_true_iff,
    decide_eq_true_iff]
  constructor
  · rintro ⟨⟨hphase, hkept⟩, hlabel⟩
    exact ⟨hlabel, hphase, hkept⟩
  · rintro ⟨hlabel, hphase, hkept⟩
    exact ⟨⟨hphase, hkept⟩, hlabel⟩

/-- **THE RUNNING SET** is the view of a snapshot. -/
theorem Lister.sortedView_runningSet (lister : Lister) (group : ReplicaGroup) :
    SortedView lister.pods group (lister.runningSet group) := by
  rw [SortedView, ← runningOf_listed]
  exact inNameOrder_runningByName _

/-- A discovery from a snapshot finds the view of it, or nothing. -/
theorem sortedView_of_outcome [Executor] {lister : Lister} {group : ReplicaGroup}
    {cancellation : Cancellation} {limit : Option Span} {pods : List Pod}
    (h : (discover lister group cancellation limit).outcome = some (.ok pods)) :
    SortedView lister.pods group pods := by
  rw [(pods_of_outcome h).2]
  exact lister.sortedView_runningSet group

end PodPlacement
