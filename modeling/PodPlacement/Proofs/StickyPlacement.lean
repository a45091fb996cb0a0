import PodPlacement.Proofs.RingOwner
import PodPlacement.Proofs.SessionCalls

/-! # Sticky placement — which keys move when the running set changes

    A sticky chooser gives a key to the pod that its ring names, and the ring
    is built anew from the names that run at the moment of the call.  Two calls
    therefore agree as far as their rings do:

    * what a sticky choice selects bears the name of the key's owner among all
      running names (`owner_of_sticky`);
    * running names ascend, so a name that comes first among many of them comes
      first among fewer (`find?_runningNames_of_kept`), and the ring of the
      fewer leaves the key with it (`owner_of_fewer`).

    Main statement: `sticky_keys_move_only_onto_joined_pods`. -/

namespace PodPlacement

/-! ## Running names -/

namespace Lister

/-- The names that run for a group, in their order; a name appears once for each of its pods. -/
def runningNames (lister : Lister) (group : ReplicaGroup) : List String :=
  (lister.runningSet group).map Pod.name

theorem mem_runningNames_iff {lister : Lister} {group : ReplicaGroup} {name : String} :
    name ∈ lister.runningNames group ↔ lister.Runs group name :=
  runs_iff.symm

theorem pairwise_runningNames (lister : Lister) (group : ReplicaGroup) :
    (lister.runningNames group).Pairwise (· ≤ ·) :=
  List.pairwise_map.2 (pairwise_runningSet lister group)

/-- The first running name of a kind is the first among fewer that run, if it runs still. -/
theorem find?_runningNames_of_kept {many few : Lister} {group : ReplicaGroup}
    {kind : String → Bool} {name : String}
    (hfew : ∀ other, few.Runs group other → many.Runs group other)
    (h : (many.runningNames group).find? kind = some name) (hname : few.Runs group name) :
    (few.runningNames group).find? kind = some name := by
  have hsub : ∀ other ∈ few.runningNames group, other ∈ many.runningNames group := by
    intro other hother
    exact mem_runningNames_iff.2 (hfew other (mem_runningNames_iff.1 hother))
  exact Ordered.find?_of_subset (fun _ _ => String.le_antisymm) (pairwise_runningNames many group)
    (pairwise_runningNames few group) hsub h (mem_runningNames_iff.2 hname)

/-- **FEWER PODS**: a key stays with an owner that runs still. -/
theorem owner_of_fewer (hash : String → UInt64) {many few : Lister} {group : ReplicaGroup}
    {points : Nat} {key name : String}
    (hfew : ∀ other, few.Runs group other → many.Runs group other)
    (h : (HashRing.build hash (many.runningNames group) points).owner? key = some name)
    (hname : few.Runs group name) :
    (HashRing.build hash (few.runningNames group) points).owner? key = some name := by
  refine HashRing.owner?_of_kept hash ?_ ?_ h
  · intro other hother
    exact mem_runningNames_iff.2 (hfew other (mem_runningNames_iff.1 hother))
  · intro position hfirst
    exact find?_runningNames_of_kept hfew hfirst hname

end Lister

/-! ## What a sticky choice selects -/

namespace Pick

variable (hash : String → UInt64) {points : Nat} (key : AffinityKey)

/-- The pod at a key's index bears the name of the key's owner. -/
theorem owner_of_ownerIndex? {pods : List Pod} {index : Fin pods.length}
    (h : ownerIndex? hash points key pods = some index) :
    (HashRing.build hash (pods.map Pod.name) points).owner? key.text
      = some (pods.get index).name := by
  obtain ⟨name, howner, hindex⟩ := Option.bind_eq_some_iff.1 h
  have hname : (pods.get index).name = name :=
    of_decide_eq_true (List.findFinIdx?_eq_some_iff.1 hindex).1
  rw [howner, hname]

/-- Points on the ring leave no key without an index. -/
theorem exists_ownerIndex? {pods : List Pod} (hpods : pods ≠ []) (hpoints : 0 < points) :
    ∃ index, ownerIndex? hash points key pods = some index := by
  have hnames : pods.map Pod.name ≠ [] := fun h => hpods (List.map_eq_nil_iff.1 h)
  obtain ⟨name, hname, howner⟩ := HashRing.exists_owner? hash hnames hpoints key.text
  obtain ⟨pod, hpod, hpodName⟩ := List.mem_map.1 hname
  have hsome : (pods.findFinIdx? (·.name = name)).isSome := by
    rw [List.isSome_findFinIdx?, List.any_eq_true]
    exact ⟨pod, hpod, decide_eq_true hpodName⟩
  obtain ⟨index, hindex⟩ := Option.isSome_iff_exists.1 hsome
  exact ⟨index, Option.bind_eq_some_iff.2 ⟨name, howner, hindex⟩⟩

/-- Without points on the ring no key has an index. -/
theorem ownerIndex?_of_no_points (pods : List Pod) : ownerIndex? hash 0 key pods = none := by
  rw [ownerIndex?, HashRing.owner?_of_no_points]
  rfl

/-- A sticky pick is a pod with the name of the key's owner. -/
theorem owner_of_sticky {σ : Type} [DrawSource σ] {group : ReplicaGroup} {pods : List Pod}
    {source : σ} {selection : Selection} (hpoints : 0 < points)
    (h : (sticky hash points key group pods source).pick = .selected selection) :
    (HashRing.build hash (pods.map Pod.name) points).owner? key.text
      = some selection.chosen.name := by
  have hpods : pods ≠ [] := by
    rintro rfl
    rw [sticky_nil] at h
    exact nomatch h
  obtain ⟨index, hindex⟩ := exists_ownerIndex? hash key hpods hpoints
  rw [sticky_of_owner hash points key group source hindex] at h
  obtain rfl := Pick.selected.inj h
  exact owner_of_ownerIndex? hash key hindex

end Pick

namespace ChoiceCall

variable {σ : Type} [Executor] [DrawSource σ] (hash : String → UInt64)

/-- A sticky call for a key of a group, with so many points on the ring, that selects. -/
structure Places (group : ReplicaGroup) (key : AffinityKey) (points : Nat)
    (call : ChoiceCall σ) (selection : Selection) : Prop where
  group : call.chooser.group = group
  policy : call.chooser.policy = .sticky key points
  selects : (call.report hash).choice = .selected selection

variable {hash} {group : ReplicaGroup} {key : AffinityKey} {points : Nat} {call : ChoiceCall σ}
  {selection : Selection}

/-- A key is placed on the owner that the ring of all running names gives it. -/
theorem Places.owner (h : call.Places hash group key points selection) (hpoints : 0 < points) :
    (HashRing.build hash (call.lister.runningNames group) points).owner? key.text
      = some selection.chosen.name := by
  obtain ⟨hgroup, hpolicy, hselects⟩ := h
  obtain ⟨pods, houtcome, hpick⟩ := Chooser.pick_of_selected hselects
  rw [Chooser.guarded_of_sticky hpolicy, hgroup] at hpick
  obtain ⟨_, hpods⟩ := pods_of_outcome houtcome
  rw [hgroup] at hpods
  subst hpods
  exact Pick.owner_of_sticky hash key hpoints hpick

/-- A key is placed on a pod that runs. -/
theorem Places.runs (h : call.Places hash group key points selection) :
    call.lister.Runs group selection.chosen.name := by
  obtain ⟨hgroup, hpolicy, hselects⟩ := h
  obtain ⟨pods, houtcome, hpick⟩ := Chooser.pick_of_selected hselects
  obtain ⟨index, reason, rfl⟩ :=
    call.chooser.guarded.isSplit_of_pick hash call.chooser.group pods call.ambient selection hpick
  obtain ⟨_, hpods⟩ := pods_of_outcome houtcome
  rw [hgroup] at hpods
  subst hpods
  exact Lister.runs_iff.2 (List.mem_map_of_mem (List.getElem_mem index.isLt))

end ChoiceCall

/-! ## Two calls of a run -/

namespace Session

section Placements

variable {σ : Type} [Executor] [SeededSource σ]

/-- **STICKY KEYS MOVE ONLY ONTO JOINED PODS**: of two calls for a key in any run, where all names
that ran at the first run at the second, the second keeps the name chosen or chooses one that did
not run at the first.  If the same names run at both, both choose the same. -/
theorem sticky_keys_move_only_onto_joined_pods (hash : String → UInt64) (session : Session σ)
    (steps : List (Step σ)) (group : ReplicaGroup) (key : AffinityKey) (points : Nat)
    (hpoints : 0 < points) :
    ∀ first ∈ session.choiceCalls hash steps, ∀ second ∈ session.choiceCalls hash steps,
    ∀ before after, first.Places hash group key points before →
      second.Places hash group key points after →
      (∀ name, first.lister.Runs group name → second.lister.Runs group name) →
      second.lister.Runs group after.chosen.name
        ∧ (after.chosen.name = before.chosen.name
            ∨ ¬ first.lister.Runs group after.chosen.name)
        ∧ ((∀ name, second.lister.Runs group name → first.lister.Runs group name) →
            after.chosen.name = before.chosen.name) := by
  intro first _ second _ before after hbefore hafter hjoined
  -- The second ring, less the pods that joined, gives the key to the same owner as the first.
  have hkeeps : first.lister.Runs group after.chosen.name →
      after.chosen.name = before.chosen.name := by
    intro hstill
    have howner := Lister.owner_of_fewer hash hjoined (hafter.owner hpoints) hstill
    exact Option.some.inj (howner.symm.trans (hbefore.owner hpoints))
  refine ⟨hafter.runs, ?_, ?_⟩
  · by_cases hstill : first.lister.Runs group after.chosen.name
    · exact Or.inl (hkeeps hstill)
    · exact Or.inr hstill
  · intro hleft
    exact hkeeps (hleft _ hafter.runs)

end Placements

/-- A ring on which all points share one position: the pod that joins comes first there and takes
the key. -/
theorem sticky_key_moves_onto_joined_pod :
    let hash : String → UInt64 := fun _ => 0
    let group : ReplicaGroup := ⟨"web"⟩
    let before : Selection := ⟨.ofGroup group "b", [], .stickyHash⟩
    let after : Selection := ⟨.ofGroup group "a", [.ofGroup group "b"], .stickyHash⟩
    let session : Session AnySource :=
      .start (.ofPods [.ofGroup group "b"]) group (.turning ⟨0⟩)
    let steps : List (Step AnySource) := [.chooseKeys [⟨"build"⟩] 1, .cancel "token",
      .setPods [.ofGroup group "b", .ofGroup group "a"], .chooseKeys [⟨"build"⟩] 1]
    ∃ first ∈ session.choiceCalls hash steps, ∃ second ∈ session.choiceCalls hash steps,
      first.Places hash group ⟨"build"⟩ 1 before ∧ second.Places hash group ⟨"build"⟩ 1 after
        ∧ ¬ first.lister.Runs group after.chosen.name := by
  intro hash group before after session steps
  let chooser : Chooser AnySource := .new group none (.sticky ⟨"build"⟩ 1)
  let first : ChoiceCall AnySource :=
    ⟨none, chooser, .ofPods [.ofGroup group "b"], .during .never, .turning ⟨0⟩⟩
  let second : ChoiceCall AnySource :=
    ⟨none, chooser, .ofPods [.ofGroup group "b", .ofGroup group "a"], .during .never,
      .turning ⟨0⟩⟩
  have hcalls : session.choiceCalls hash steps = [first, second] := by cbv
  have hbefore : first.Places hash group ⟨"build"⟩ 1 before := ⟨rfl, rfl, by cbv⟩
  have hafter : second.Places hash group ⟨"build"⟩ 1 after := ⟨rfl, rfl, by cbv⟩
  have hfirst : first ∈ session.choiceCalls hash steps := by
    rw [hcalls]
    exact List.mem_cons_self ..
  have hsecond : second ∈ session.choiceCalls hash steps := by
    rw [hcalls]
    exact List.mem_cons_of_mem _ (List.mem_cons_self ..)
  have hjoined : ∀ name, first.lister.Runs group name → second.lister.Runs group name := by
    rintro name ⟨pod, hpod, hruns, hname⟩
    exact ⟨pod, List.mem_cons.2 (Or.inl (List.mem_singleton.1 hpod)), hruns, hname⟩
  obtain ⟨_, hmoved | hmoved, _⟩ := sticky_keys_move_only_onto_joined_pods hash session steps
    group ⟨"build"⟩ 1 Nat.one_pos first hfirst second hsecond before after hbefore hafter hjoined
  · exact absurd hmoved (by decide)
  · exact ⟨first, hfirst, second, hsecond, hbefore, hafter, hmoved⟩

end Session

end PodPlacement
