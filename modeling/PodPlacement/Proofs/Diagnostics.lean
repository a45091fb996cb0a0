import PodPlacement.Proofs.ListingRace
import PodPlacement.Proofs.StickyPlacement

/-! # Diagnostics — the events of a choice tell what happened

    Three parts of the program speak while a pod is chosen: the discovery, the
    random pick and the sticky pick.  What each is to say is written here event
    by event, against what came of it:

    * `Remarks` — about the pods of a listing, in its order;
    * `Discovery.Tells` — about a discovery, remarks included;
    * `Policy.Tells` — about a pick;
    * `Chooser.Tells` — about a choice: what its discovery says, and then what
      its pick says, if it comes to one.

    Each of the three parts says just that (`remarks_filterMap`,
    `tells_discover`, `tells_pick`), and the outcome that a choice tells of is
    one that the race for its listing can have.

    Main statement: `events_tell_what_happened`. -/

namespace PodPlacement

/-! ## Listed pods -/

/-- What is said about the pods of a listing, one after another: which are kept, and which are not
because they terminate, whatever their phase. -/
inductive Remarks : List Pod → List Event → Prop where
  | nil : Remarks [] []
  | running {pod : Pod} {pods : List Pod} {events : List Event}
      (runs : pod.phase = .running) (kept : pod.deletedAt = none) (rest : Remarks pods events) :
      Remarks (pod :: pods)
        (.say .debug "podchooser_core::discovery" "pod running" [("pod", .text pod.name)]
          :: events)
  | terminating {pod : Pod} {pods : List Pod} {events : List Event}
      (leaves : pod.deletedAt ≠ none) (rest : Remarks pods events) :
      Remarks (pod :: pods)
        (.say .debug "podchooser_core::discovery" "skipping terminating pod"
          [("pod", .text pod.name), ("phase", .text pod.phase.name)] :: events)
  | silent {pod : Pod} {pods : List Pod} {events : List Event}
      (idle : pod.phase ≠ .running) (stays : pod.deletedAt = none) (rest : Remarks pods events) :
      Remarks (pod :: pods) events

namespace Discovery

variable {pod : Pod}

/-- A pod that runs is said to run. -/
theorem podEvent?_of_running (hphase : pod.phase = .running) (hkept : pod.deletedAt = none) :
    podEvent? pod = some (.say .debug target "pod running" [("pod", .text pod.name)]) := by
  rw [podEvent?, if_pos (pod.isRunning_iff.2 ⟨hphase, hkept⟩)]

/-- A pod on its way out is said to be skipped, also in the running phase. -/
theorem podEvent?_of_terminating (hleaves : pod.deletedAt ≠ none) :
    podEvent? pod = some (.say .debug target "skipping terminating pod"
      [("pod", .text pod.name), ("phase", .text pod.phase.name)]) := by
  have hrunning : ¬ pod.isRunning = true := fun h => hleaves (pod.isRunning_iff.1 h).2
  have hterminating : pod.isTerminating = true := Option.isSome_iff_ne_none.2 hleaves
  rw [podEvent?, if_neg hrunning, if_pos hterminating]

/-- Nothing is said about any other pod. -/
theorem podEvent?_of_idle (hphase : pod.phase ≠ .running) (hstays : pod.deletedAt = none) :
    podEvent? pod = none := by
  have hrunning : ¬ pod.isRunning = true := fun h => hphase (pod.isRunning_iff.1 h).1
  have hterminating : ¬ pod.isTerminating = true := by
    rw [Pod.isTerminating, hstays]
    exact Bool.false_ne_true
  rw [podEvent?, if_neg hrunning, if_neg hterminating]

end Discovery

/-- The events of a listing are the remarks on its pods. -/
theorem remarks_filterMap (pods : List Pod) :
    Remarks pods (pods.filterMap Discovery.podEvent?) := by
  induction pods with
  | nil => exact .nil
  | cons pod pods ih =>
      -- A request for deletion counts before the phase: it is told of pods in every phase.
      by_cases hdeleted : pod.deletedAt = none
      · by_cases hphase : pod.phase = .running
        · rw [List.filterMap_cons_some (Discovery.podEvent?_of_running hphase hdeleted)]
          exact .running hphase hdeleted ih
        · rw [List.filterMap_cons_none (Discovery.podEvent?_of_idle hphase hdeleted)]
          exact .silent hphase hdeleted ih
      · rw [List.filterMap_cons_some (Discovery.podEvent?_of_terminating hdeleted)]
        exact .terminating hdeleted ih

/-! ## Discoveries -/

namespace Discovery

section Discoveries

variable (lister : Lister) (group : ReplicaGroup)

/-- What is said about a discovery, by what comes of it. -/
inductive Tells : Option (Except DiscoveryError (List Pod)) → List Event → Prop where
  | waits : Tells none []
  | invalidSelector (cause : SelectorError) : Tells (some (.error (.invalidSelector cause))) []
  | cancelled : Tells (some (.error (.cancelled group.name)))
      [.say .debug "podchooser_core::discovery" "pod listing cancelled"
        [("group", .text group.name)]]
  | list {cause : String} (fails : lister.failure = some cause) :
      Tells (some (.error (.list group.name cause)))
        [.say .warn "podchooser_core::discovery" "pod discovery failed"
          [("group", .text group.name),
           ("error", .text ("failed to list pods for replica group '" ++ group.name ++ "'"))]]
  | timedOut (limit : Span) : Tells (some (.error (.timedOut group.name limit)))
      [.say .warn "podchooser_core::discovery" "pod discovery failed"
        [("group", .text group.name),
         ("error", .text ("listing pods for replica group '" ++ group.name ++ "' timed out after "
            ++ limit.text))]]
  /-- The remarks come in the order of the listing, the pods in the order of their names. -/
  | found {pods : List Pod} {events : List Event} (serves : lister.failure = none)
      (remarks : Remarks
        (lister.pods.filter fun pod => pod.labels.get? groupLabel = some group.name) events)
      (view : SortedView lister.pods group pods) :
      Tells (some (.ok pods)) events

theorem tells_ofVerdict (verdict : Verdict) :
    Tells lister group (ofVerdict lister group (.ofGroup group) verdict).outcome
      (ofVerdict lister group (.ofGroup group) verdict).events := by
  cases verdict with
  | cancelled => exact .cancelled
  | expired limit => exact .timedOut limit
  | undecided => exact .waits
  | answered =>
      have hanswer : Orchestrator.answer lister (LabelSelector.ofGroup group) = _ :=
        lister.answer_ofGroup group
      rw [ofVerdict, hanswer]
      cases hfailure : lister.failure with
      | some cause => exact .list hfailure
      | none => exact .found hfailure (remarks_filterMap _) (lister.sortedView_runningSet group)

theorem tells_discover [Executor] (cancellation : Cancellation) (limit : Option Span) :
    Tells lister group (discover lister group cancellation limit).outcome
      (discover lister group cancellation limit).events := by
  rw [discover_eq]
  cases LabelValue.check group.name with
  | error cause => exact .invalidSelector cause
  | ok _ =>
      cases cancellation with
      | before => exact .cancelled
      | during moment => exact tells_ofVerdict lister group _

end Discoveries

end Discovery

/-! ## Picks -/

namespace Policy

variable {σ : Type} [DrawSource σ] (group : ReplicaGroup) (pods : List Pod) (ambient : σ)

/-- What is said about a pick from the running pods of a group, by the choice that it makes.  The
number that is told is that of the chosen pod among these pods, which is the number drawn, wrapped
around; a sticky pick falls back only from a ring without points. -/
inductive Tells : Policy (Lock σ) → Choice → List Event → Prop where
  | empty {policy : Policy (Lock σ)} (none : pods = []) :
      Tells policy (.failed (.noRunningPods group.name)) []
  | random {own : Option (Lock σ)} {drawn : Nat} (index : Fin pods.length)
      (draws : (DrawSource.draw ((own.map Lock.content).getD ambient) pods.length).1 = some drawn)
      (wraps : (index : Nat) = drawn % pods.length) :
      Tells (.random own) (.selected ⟨pods.get index, pods.eraseIdx index, .random⟩)
        [.say .debug "podchooser_core::chooser::algorithms::random" "random pod choice"
          [("len", .count pods.length), ("n", .count index)]]
  | drawFailed {own : Option (Lock σ)} (offers : 0 < pods.length)
      (fails : (DrawSource.draw ((own.map Lock.content).getD ambient) pods.length).1 = none) :
      Tells (.random own) .drawFailed []
  | owner {key : AffinityKey} {points : Nat} (index : Fin pods.length) (ring : 0 < points) :
      Tells (.sticky key points) (.selected ⟨pods.get index, pods.eraseIdx index, .stickyHash⟩)
        [.say .debug "podchooser_core::chooser::algorithms::sticky" "sticky pod choice"
          [("affinity_key", .text key.text), ("pod", .text (pods.get index).name)]]
  | fallback {key : AffinityKey} {drawn : Nat} (index : Fin pods.length)
      (draws : (DrawSource.draw ambient pods.length).1 = some drawn)
      (wraps : (index : Nat) = drawn % pods.length) :
      Tells (.sticky key 0) (.selected ⟨pods.get index, pods.eraseIdx index, .stickyFallback⟩)
        [.say .warn "podchooser_core::chooser::algorithms::sticky"
          "no pod found on hash ring for affinity key; falling back to random selection"
          [("affinity_key", .text key.text), ("group", .text group.name),
           ("pods", .count pods.length)],
         .say .debug "podchooser_core::chooser::algorithms::random" "random pod choice"
          [("len", .count pods.length), ("n", .count index)]]
  | fallbackFailed {key : AffinityKey} (offers : 0 < pods.length)
      (fails : (DrawSource.draw ambient pods.length).1 = none) :
      Tells (.sticky key 0) .drawFailed
        [.say .warn "podchooser_core::chooser::algorithms::sticky"
          "no pod found on hash ring for affinity key; falling back to random selection"
          [("affinity_key", .text key.text), ("group", .text group.name),
           ("pods", .count pods.length)]]

variable {group pods ambient} {report : PickReport σ}

theorem tells_of_randomly {own : Option (Lock σ)}
    (h : Pick.Randomly pods ((own.map Lock.content).getD ambient) report) :
    Tells group pods ambient (.random own) (.ofPick group report.pick) report.events := by
  cases h with
  | empty none => exact .empty none
  | failed offers fails => exact .drawFailed offers (congrArg Prod.fst fails)
  | drawn offers draws =>
      exact .random ⟨_, Nat.mod_lt _ offers⟩ (congrArg Prod.fst draws) rfl

theorem tells_of_stickily {hash : String → UInt64} {points : Nat} {key : AffinityKey}
    (h : Pick.Stickily hash points key group pods ambient report) :
    Tells group pods ambient (.sticky key points) (.ofPick group report.pick) report.events := by
  -- A ring without points owns no key, and one with points owns every key.
  rcases Nat.eq_zero_or_pos points with rfl | hpoints
  · cases h with
    | empty none => exact .empty none
    | owner owns =>
        rw [Pick.ownerIndex?_of_no_points] at owns
        exact nomatch owns
    | fallback offers lacks random =>
        cases random with
        | empty none => exact absurd none (List.ne_nil_of_length_pos offers)
        | failed _ fails => exact .fallbackFailed offers (congrArg Prod.fst fails)
        | drawn _ draws =>
            exact .fallback ⟨_, Nat.mod_lt _ offers⟩ (congrArg Prod.fst draws) rfl
  · cases h with
    | empty none => exact .empty none
    | owner owns => exact .owner _ hpoints
    | fallback offers lacks random =>
        obtain ⟨index, hindex⟩ :=
          Pick.exists_ownerIndex? hash key (List.ne_nil_of_length_pos offers) hpoints
        rw [hindex] at lacks
        exact nomatch lacks

variable (group pods ambient)

theorem tells_pick (hash : String → UInt64) (policy : Policy (Lock σ)) :
    Tells group pods ambient policy (.ofPick group (policy.pick hash group pods ambient).pick)
      (policy.pick hash group pods ambient).events := by
  cases policy with
  | random own =>
      obtain ⟨report, hrandom, hpick, hevents⟩ :=
        exists_randomly_pick hash group own pods ambient
      rw [hpick, hevents]
      exact tells_of_randomly hrandom
  | sticky key points =>
      exact tells_of_stickily (Pick.stickily_sticky hash points key group pods ambient)

end Policy

/-! ## Choices -/

namespace Chooser

variable {σ : Type} [DrawSource σ]

/-- What is said about a choice, by what comes of its discovery and of the choice. -/
inductive Tells (lister : Lister) (chooser : Chooser σ) (ambient : σ) :
    Option (Except DiscoveryError (List Pod)) → Choice → List Event → Prop where
  | waits {events : List Event} (discovery : Discovery.Tells lister chooser.group none events) :
      Tells lister chooser ambient none .waits events
  | fails {e : DiscoveryError} {events : List Event}
      (discovery : Discovery.Tells lister chooser.group (some (.error e)) events) :
      Tells lister chooser ambient (some (.error e)) (.failed (.discovery e)) events
  | picks {pods : List Pod} {choice : Choice} {events more : List Event}
      (discovery : Discovery.Tells lister chooser.group (some (.ok pods)) events)
      (picked : Policy.Tells chooser.group pods ambient chooser.guarded choice more) :
      Tells lister chooser ambient (some (.ok pods)) choice (events ++ more)

/-- **EVENTS TELL WHAT HAPPENED**: the events of a choice from a snapshot are those that tell, in
order, of an outcome that the race for its listing can have and of what its pick comes to. -/
theorem events_tell_what_happened [Executor] (hash : String → UInt64) (chooser : Chooser σ)
    (lister : Lister) (cancellation : Cancellation) (ambient : σ) :
    let report := chooser.choosePod hash lister cancellation ambient
    ∃ outcome, Discovers lister chooser.group chooser.limit cancellation outcome report.calls
      ∧ Tells lister chooser ambient outcome report.choice report.events := by
  intro report
  have hdiscovers := discovers_discover lister chooser.group chooser.limit cancellation
  have htells := Discovery.tells_discover lister chooser.group cancellation chooser.limit
  have hreport : report = chooser.choosePod hash lister cancellation ambient := rfl
  rw [choosePod] at hreport
  generalize discover lister chooser.group cancellation chooser.limit = discovery
    at hdiscovers htells hreport
  obtain ⟨outcome, calls, events⟩ := discovery
  refine ⟨outcome, ?_⟩
  cases outcome with
  | none =>
      rw [hreport]
      exact ⟨hdiscovers, .waits htells⟩
  | some result =>
      cases result with
      | error e =>
          rw [hreport]
          exact ⟨hdiscovers, .fails htells⟩
      | ok pods =>
          rw [hreport]
          exact ⟨hdiscovers, .picks htells
            (Policy.tells_pick chooser.group pods ambient hash chooser.guarded)⟩

end Chooser

end PodPlacement
