import PodPlacement.Proofs.SessionRuns
import PodPlacement.Proofs.SortedViews

/-! # Snapshots — a discovery sees the latest one, and nothing before it

    In a run the orchestrator serves the pods that were set last
    (`pods_run`), so every discovery that finds pods, of its own or for a
    choice, finds the sorted view of those (`Finds.sortedView`).  What came
    before them cannot be seen in it, and neither can the order in which they
    are listed, nor pods among them that do not run for the group
    (`Reshuffled.perm`).

    Main statement: `discovery_finds_sorted_view_of_latest_snapshot`. -/

namespace PodPlacement

/-! ## Snapshots that look the same -/

/-- One snapshot has the pods of the other in any order, except that pods may be left out or put in
that do not run for the group. -/
def Reshuffled (group : ReplicaGroup) (snapshot other : List Pod) : Prop :=
  ∃ kept removed added, snapshot.Perm (kept ++ removed) ∧ other.Perm (kept ++ added)
    ∧ ∀ pod ∈ removed ++ added, ¬ pod.RunsFor group

theorem runningIn_of_idle {group : ReplicaGroup} {snapshot kept idle : List Pod}
    (h : snapshot.Perm (kept ++ idle)) (hidle : ∀ pod ∈ idle, ¬ pod.RunsFor group) :
    (runningIn snapshot group).Perm (runningIn kept group) := by
  have hnone : runningIn idle group = [] := by
    rw [runningIn, List.filter_eq_nil_iff]
    intro pod hpod hruns
    exact hidle pod hpod (of_decide_eq_true hruns)
  have hfilter := h.filter fun pod => decide (pod.RunsFor group)
  rw [List.filter_append] at hfilter
  rw [← List.append_nil (runningIn kept group), ← hnone]
  exact hfilter

/-- Reshuffled snapshots have the same running pods. -/
theorem Reshuffled.perm {group : ReplicaGroup} {snapshot other : List Pod}
    (h : Reshuffled group snapshot other) :
    (runningIn snapshot group).Perm (runningIn other group) := by
  obtain ⟨kept, removed, added, hsnapshot, hother, hidle⟩ := h
  have hremoved := runningIn_of_idle hsnapshot fun pod hpod =>
    hidle pod (List.mem_append.2 (Or.inl hpod))
  have hadded := runningIn_of_idle hother fun pod hpod =>
    hidle pod (List.mem_append.2 (Or.inr hpod))
  exact hremoved.trans hadded.symm

/-! ## Snapshots of a run -/

/-- The pods that a step sets. -/
def Step.pods? {σ : Type} : Step σ → Option (List Pod)
  | .setPods pods => some pods
  | _ => none

theorem Step.pods_relist {σ : Type} (lister : Lister) (s : Step σ) :
    (s.relist lister).pods = s.pods?.getD lister.pods := by
  cases s <;> rfl

namespace Session

section Runs

variable {σ : Type} [Executor] [SeededSource σ] (hash : String → UInt64)

omit [Executor] [SeededSource σ] in
/-- The pods set last in a run, or those of its beginning. -/
def latestPods (session : Session σ) (steps : List (Step σ)) : List Pod :=
  (steps.filterMap Step.pods?).getLastD session.lister.pods

/-- **RUN**: the orchestrator serves the pods that were set last. -/
theorem pods_run (session : Session σ) (steps : List (Step σ)) :
    (session.run hash steps).2.lister.pods = session.latestPods steps := by
  induction steps generalizing session with
  | nil => rfl
  | cons s steps ih =>
      have hstep : (session.step hash s).2.lister.pods = s.pods?.getD session.lister.pods := by
        rw [lister_step, Step.pods_relist]
      refine (ih (session.step hash s).2).trans ?_
      rw [latestPods, latestPods, hstep]
      cases hpods : s.pods? with
      | none => rw [List.filterMap_cons_none hpods]; rfl
      | some pods => rw [List.filterMap_cons_some hpods, List.getLastD_cons]; rfl

/-- What the discoveries of a step come to: that which it answers, and those of its calls. -/
inductive Finds (session : Session σ) :
    Step σ → ReplicaGroup → Option (Except DiscoveryError (List Pod)) → Prop where
  | answered {limit : Option Span} {terms : CallTerms}
      {outcome : Option (Except DiscoveryError (List Pod))}
      (h : (session.step hash (.discover limit terms)).1.answer = .discovered outcome) :
      Finds session (.discover limit terms) session.group outcome
  | called {s : Step σ} {call : ChoiceCall σ} (h : call ∈ session.stepCalls hash s) :
      Finds session s call.chooser.group call.discovery.outcome

variable {hash}

/-- Whatever a step finds is the view of the snapshot that it meets. -/
theorem Finds.sortedView {session : Session σ} {s : Step σ} {group : ReplicaGroup}
    {pods : List Pod} (h : session.Finds hash s group (some (.ok pods))) :
    SortedView session.lister.pods group pods := by
  generalize houtcome : some (Except.ok pods) = outcome at h
  cases h with
  | @answered limit terms _ h =>
      have hanswer : (discover session.lister session.group (session.cancellation terms)
          limit).outcome = some (.ok pods) :=
        (StepAnswer.discovered.inj h).trans houtcome.symm
      exact sortedView_of_outcome hanswer
  | @called _ call hcall =>
      rw [← lister_of_mem_stepCalls hash hcall]
      exact sortedView_of_outcome houtcome.symm

variable (hash)

/-- **A DISCOVERY FINDS THE SORTED VIEW OF THE LATEST SNAPSHOT**, which is one list, whatever was
served or asked before in the run.  Any other run whose latest snapshot is the same makes it find
the same; and if the names in it differ, so does any run whose latest snapshot has the same running
pods among others, in any order. -/
theorem discovery_finds_sorted_view_of_latest_snapshot (session : Session σ)
    (earlier : List (Step σ)) (s : Step σ) (group : ReplicaGroup) (pods : List Pod)
    (h : (session.run hash earlier).2.Finds hash s group (some (.ok pods))) :
    SortedView (session.latestPods earlier) group pods
      ∧ (∀ view, SortedView (session.latestPods earlier) group view → view = pods)
      ∧ ∀ (session' : Session σ) (earlier' : List (Step σ)) (s' : Step σ) (pods' : List Pod),
          (session'.run hash earlier').2.Finds hash s' group (some (.ok pods')) →
          (session'.latestPods earlier' = session.latestPods earlier → pods' = pods)
            ∧ ((pods.map Pod.name).Nodup →
                Reshuffled group (session.latestPods earlier) (session'.latestPods earlier') →
                pods' = pods) := by
  have hview := h.sortedView
  rw [pods_run] at hview
  refine ⟨hview, fun view hother => hother.unique hview, ?_⟩
  intro session' earlier' s' pods' h'
  have hview' := h'.sortedView
  rw [pods_run] at hview'
  constructor
  · intro hsame
    rw [hsame] at hview'
    exact hview'.unique hview
  · intro hnames hreshuffled
    exact hview.eq_of_perm hview' hnames hreshuffled.perm

end Runs

/-- The view of the second of two snapshots, by the bytes of the names and less a pod on its way
out; another session finds the same that lists the pods the other way around. -/
theorem discovery_after_failure_finds_second_snapshot :
    let hash : String → UInt64 := fun _ => 0
    let group : ReplicaGroup := ⟨"web"⟩
    let leaving : Pod := { Pod.ofGroup group "a" with
      deletedAt := some ⟨⟨2026, 1, 1, by decide⟩, ⟨0, 0, 0, 0, by decide⟩⟩ }
    let terms : CallTerms := ⟨none, .never⟩
    let discovery : Step AnySource := .discover none terms
    let session : Session AnySource := .start (.ofPods [.ofGroup group "b"]) group (.turning ⟨0⟩)
    let earlier : List (Step AnySource) := [discovery, .setFailure (some "down"), discovery,
      .setFailure none, .setPods [.ofGroup group "é", leaving, .ofGroup group "z"]]
    let other : Session AnySource :=
      .start (.ofPods [.ofGroup group "z", .ofGroup group "é"]) group (.turning ⟨0⟩)
    let pods : List Pod := [.ofGroup group "z", .ofGroup group "é"]
    SortedView (session.latestPods earlier) group pods
      ∧ ∀ pods', (other.run hash []).2.Finds hash discovery group (some (.ok pods')) →
          pods' = pods := by
  intro hash group leaving terms discovery session earlier other pods
  let latest : Lister := .ofPods [.ofGroup group "é", leaving, .ofGroup group "z"]
  have hrun : (session.run hash earlier).2 = .start latest group (.turning ⟨0⟩) := rfl
  have hfinds : (session.run hash earlier).2.Finds hash discovery group (some (.ok pods)) := by
    rw [hrun]
    exact .answered (by cbv)
  obtain ⟨hview, _, hothers⟩ := discovery_finds_sorted_view_of_latest_snapshot hash session earlier
    discovery group pods hfinds
  refine ⟨hview, fun pods' hfinds' => (hothers other [] discovery pods' hfinds').2 (by decide) ?_⟩
  refine ⟨[.ofGroup group "é", .ofGroup group "z"], [leaving], [], ?_, .swap .., ?_⟩
  · exact .cons _ (.swap ..)
  · intro pod hpod hruns
    rw [List.mem_singleton.1 hpod] at hruns
    exact Option.some_ne_none _ hruns.kept

end Session

end PodPlacement
