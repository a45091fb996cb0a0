import PodPlacement.Proofs.Polls

/-! # The running set — which pods a discovery finds

    A group asks for the pods that carry its name under one label, and keeps
    those that run and are not on their way out.  `discover_eq` says what a
    discovery comes to: its turns decide that (`Verdict.ofRace`), and the first
    of them already when the caller has given up before.  `pods_of_outcome`
    says that a discovery from a snapshot finds the running set of the snapshot
    and nothing else, whatever the delay, the limit and the cancellation.

    Members of a running set are the pods that run for the group
    (`mem_runningSet_iff`), in the order of their names
    (`pairwise_runningSet`). -/

namespace PodPlacement

/-! ## The selector of a group -/

namespace LabelSelector

/-- The selector that demands a group's name and nothing else. -/
def ofGroup (group : ReplicaGroup) : LabelSelector :=
  ⟨Labels.empty.insert groupLabel group.name⟩

theorem entries_ofGroup (group : ReplicaGroup) :
    (ofGroup group).required.entries = [(groupLabel, group.name)] := rfl

/-- One more label is demanded exactly if its value is a label value. -/
theorem withLabel_eq (selector : LabelSelector) (key value : String) :
    selector.withLabel key value
      = (LabelValue.check value).map fun _ => ⟨selector.required.insert key value⟩ := by
  show (LabelValue.check value).bind
    (fun _ => .ok (LabelSelector.mk (selector.required.insert key value))) = _
  cases LabelValue.check value with
  | error e => rfl
  | ok _ => rfl

theorem withLabel_eq_ok_iff {selector next : LabelSelector} {key value : String} :
    selector.withLabel key value = .ok next
      ↔ LabelValue.check value = .ok () ∧ next = ⟨selector.required.insert key value⟩ := by
  rw [withLabel_eq]
  cases LabelValue.check value with
  | error e => exact ⟨nofun, fun h => nomatch h.1⟩
  | ok _ => exact ⟨fun h => ⟨rfl, (Except.ok.inj h).symm⟩, fun h => congrArg Except.ok h.2.symm⟩

theorem withLabel_eq_error_iff {selector : LabelSelector} {key value : String}
    {e : SelectorError} :
    selector.withLabel key value = .error e ↔ LabelValue.check value = .error e := by
  rw [withLabel_eq]
  cases LabelValue.check value with
  | error e' =>
      exact ⟨fun h => congrArg Except.error (Except.error.inj h),
        fun h => congrArg Except.error (Except.error.inj h)⟩
  | ok _ => exact ⟨nofun, nofun⟩

/-- A group has a selector exactly if its name is a label value. -/
theorem forGroup_eq (group : ReplicaGroup) :
    forGroup group = (LabelValue.check group.name).map fun _ => ofGroup group :=
  withLabel_eq empty groupLabel group.name

theorem forGroup_eq_error_iff {group : ReplicaGroup} {e : SelectorError} :
    forGroup group = .error e ↔ LabelValue.check group.name = .error e :=
  withLabel_eq_error_iff

theorem selects_ofGroup_iff (group : ReplicaGroup) (labels : Labels) :
    (ofGroup group).selects labels = true ↔ labels.get? groupLabel = some group.name := by
  rw [selects, entries_ofGroup, List.all_cons, List.all_nil, Bool.and_true, decide_eq_true_iff]

end LabelSelector

/-! ## Pods that run for a group -/

/-- Carries the group's label, is in the running phase, and no deletion has been requested. -/
structure Pod.RunsFor (group : ReplicaGroup) (pod : Pod) : Prop where
  labelled : pod.labels.get? groupLabel = some group.name
  running : pod.phase = .running
  kept : pod.deletedAt = none

/-- A pod of a group that runs and carries nothing but the group's label. -/
def Pod.ofGroup (group : ReplicaGroup) (name : String) : Pod :=
  .plain name (Labels.empty.insert groupLabel group.name) .running

theorem Pod.isRunning_iff (pod : Pod) :
    pod.isRunning = true ↔ pod.phase = .running ∧ pod.deletedAt = none := by
  rw [isRunning, isTerminating, Bool.and_eq_true, decide_eq_true_iff, Bool.not_eq_true',
    Option.isSome_eq_false_iff, Option.isNone_iff_eq_none]

namespace Lister

/-- The pods of a snapshot that run for a group, in name order. -/
def runningSet (lister : Lister) (group : ReplicaGroup) : List Pod :=
  Discovery.runningByName
    (lister.pods.filter fun pod => pod.labels.get? groupLabel = some group.name)

theorem mem_runningSet_iff {lister : Lister} {group : ReplicaGroup} {pod : Pod} :
    pod ∈ lister.runningSet group ↔ pod ∈ lister.pods ∧ pod.RunsFor group := by
  rw [runningSet, (Discovery.perm_runningByName _).mem_iff, List.mem_filter, List.mem_filter,
    decide_eq_true_iff, Pod.isRunning_iff]
  constructor
  · rintro ⟨⟨hmem, hlabel⟩, hphase, hkept⟩
    exact ⟨hmem, hlabel, hphase, hkept⟩
  · rintro ⟨hmem, hlabel, hphase, hkept⟩
    exact ⟨⟨hmem, hlabel⟩, hphase, hkept⟩

theorem pairwise_runningSet (lister : Lister) (group : ReplicaGroup) :
    (lister.runningSet group).Pairwise (·.name ≤ ·.name) :=
  Discovery.pairwise_runningByName _

/-- A name that some pod of the snapshot runs under for a group. -/
def Runs (lister : Lister) (group : ReplicaGroup) (name : String) : Prop :=
  ∃ pod ∈ lister.pods, pod.RunsFor group ∧ pod.name = name

theorem runs_iff {lister : Lister} {group : ReplicaGroup} {name : String} :
    lister.Runs group name ↔ name ∈ (lister.runningSet group).map Pod.name := by
  rw [List.mem_map]
  constructor
  · rintro ⟨pod, hmem, hruns, hname⟩
    exact ⟨pod, mem_runningSet_iff.2 ⟨hmem, hruns⟩, hname⟩
  · rintro ⟨pod, hpod, hname⟩
    obtain ⟨hmem, hruns⟩ := mem_runningSet_iff.1 hpod
    exact ⟨pod, hmem, hruns, hname⟩

/-- What a lister answers to a group. -/
theorem answer_ofGroup (lister : Lister) (group : ReplicaGroup) :
    lister.answer (.ofGroup group) = match lister.failure with
      | some message => .error message
      | none => .ok (lister.pods.filter fun pod =>
          pod.labels.get? groupLabel = some group.name) := by
  have hselects : (fun pod : Pod => (LabelSelector.ofGroup group).selects pod.labels)
      = fun pod => decide (pod.labels.get? groupLabel = some group.name) := by
    funext pod
    rw [Bool.eq_iff_iff, LabelSelector.selects_ofGroup_iff, decide_eq_true_iff]
  rw [answer]
  cases lister.failure with
  | some message => rfl
  | none => exact congrArg (fun kept => Except.ok (lister.pods.filter kept)) hselects

end Lister

/-! ## Discoveries -/

namespace Discovery

variable {κ ε : Type} [Orchestrator κ ε]

/-- Given up by the caller, with the calls made until then. -/
def cancelled (group : ReplicaGroup) (calls : List ListCall) : Discovery ε :=
  ⟨some (.error (.cancelled group.name)), calls, [cancelledEvent group]⟩

/-- Failed after a call. -/
def failed (group : ReplicaGroup) (call : ListCall) (e : DiscoveryError ε) : Discovery ε :=
  ⟨some (.error e), [call], [failedEvent group e]⟩

/-- What a listing that was waited for makes of the discovery. -/
def ofVerdict (lister : κ) (group : ReplicaGroup) (selector : LabelSelector) :
    Verdict → Discovery ε
  | .cancelled => cancelled group [⟨selector, false⟩]
  | .expired limit => failed group ⟨selector, false⟩ (.timedOut group.name limit)
  | .undecided => ⟨none, [⟨selector, false⟩], []⟩
  | .answered =>
    match Orchestrator.answer lister selector with
    | .error cause => failed group ⟨selector, true⟩ (.list group.name cause)
    | .ok pods => ⟨some (.ok (runningByName pods)), [⟨selector, true⟩], pods.filterMap podEvent?⟩

end Discovery

section Discoveries

variable {κ ε : Type} [Orchestrator κ ε] [Executor]

theorem discover_of_invalid (lister : κ) {group : ReplicaGroup} {e : SelectorError}
    (cancellation : Cancellation) (limit : Option Span)
    (refused : LabelValue.check group.name = .error e) :
    discover lister group cancellation limit = ⟨some (.error (.invalidSelector e)), [], []⟩ := by
  rw [discover, LabelSelector.forGroup_eq, refused]
  rfl

theorem discover_of_valid (lister : κ) {group : ReplicaGroup} (cancellation : Cancellation)
    (limit : Option Span) (valid : LabelValue.check group.name = .ok ()) :
    discover lister group cancellation limit = .ofProgress group
      ((Discovery.wait lister (.ofGroup group) group cancellation limit).await
        (Executor.polls (Orchestrator.delay lister (.ofGroup group)) cancellation.moment
          (.ofLimit limit))) := by
  rw [discover, LabelSelector.forGroup_eq, valid]
  rfl

/-- A caller who has given up is noticed in the first turn, before anything is asked. -/
theorem discover_of_before (lister : κ) {group : ReplicaGroup} (limit : Option Span)
    (valid : LabelValue.check group.name = .ok ()) :
    discover lister group .before limit = .cancelled group [] := by
  obtain ⟨later, hpolls⟩ := Executor.begins (Orchestrator.delay lister (.ofGroup group))
    Cancellation.before.moment (.ofLimit limit)
  have hwait : Discovery.wait lister (.ofGroup group) group .before limit ⟨0, false⟩
      = ⟨some (.inl ()), none⟩ := Discovery.wait_of_cancelled lister _ group rfl
  rw [discover_of_valid lister .before limit valid, hpolls,
    Future.await_cons_of_some later (congrArg Progress.value hwait), hwait]
  rfl

/-- The first turn does not notice anyone else, so it asks for the listing, and the verdict of all
turns decides what comes of it. -/
theorem discover_of_during (lister : κ) {group : ReplicaGroup} (moment : Moment)
    (limit : Option Span) (valid : LabelValue.check group.name = .ok ()) :
    discover lister group (.during moment) limit = .ofVerdict lister group (.ofGroup group)
      (.ofRace (Orchestrator.delay lister (.ofGroup group)) moment limit) := by
  obtain ⟨later, hpolls⟩ := Executor.begins (Orchestrator.delay lister (.ofGroup group)) moment
    (.ofLimit limit)
  have hvalue := (Discovery.await_wait lister (.ofGroup group) group (.during moment) limit
    (⟨0, false⟩ :: later)).1
  have hlisting := Discovery.listing_await_of_not_cancelled lister (.ofGroup group) group
    (.during moment) limit ⟨0, false⟩ later (Poll.seesCancelled_first moment)
  rw [discover_of_valid lister _ limit valid, Verdict.ofRace]
  simp only [Cancellation.moment]
  -- What the wait ends with and what it has asked for are all that is left of the turns.
  rw [hpolls, Discovery.ofProgress, hvalue, hlisting]
  cases Verdict.ofPolls (Orchestrator.delay lister (.ofGroup group)) (.during moment) limit
      (⟨0, false⟩ :: later) with
  | answered =>
      rw [Discovery.ofVerdict, Discovery.ending]
      cases Orchestrator.answer lister (LabelSelector.ofGroup group) <;> rfl
  | _ => rfl

/-- **WHAT A DISCOVERY COMES TO**: a group without selector and a caller who has given up end it
before anything is asked, and otherwise the race for the listing does. -/
theorem discover_eq (lister : κ) (group : ReplicaGroup) (cancellation : Cancellation)
    (limit : Option Span) :
    discover lister group cancellation limit = match LabelValue.check group.name, cancellation with
      | .error e, _ => ⟨some (.error (.invalidSelector e)), [], []⟩
      | .ok (), .before => .cancelled group []
      | .ok (), .during moment => .ofVerdict lister group (.ofGroup group)
          (.ofRace (Orchestrator.delay lister (.ofGroup group)) moment limit) := by
  cases hcheck : LabelValue.check group.name with
  | error e => exact discover_of_invalid lister cancellation limit hcheck
  | ok _ =>
      cases cancellation with
      | before => exact discover_of_before lister limit hcheck
      | during moment => exact discover_of_during lister moment limit hcheck

/-- Whoever finds pods has been answered a listing, and finds those of it that run. -/
theorem answer_of_outcome {lister : κ} {group : ReplicaGroup} {cancellation : Cancellation}
    {limit : Option Span} {pods : List Pod}
    (h : (discover lister group cancellation limit).outcome = some (.ok pods)) :
    ∃ listed, Orchestrator.answer lister (.ofGroup group) = .ok listed
      ∧ pods = Discovery.runningByName listed := by
  rw [discover_eq] at h
  cases hcheck : LabelValue.check group.name with
  | error e => rw [hcheck] at h; exact nomatch h
  | ok _ =>
      rw [hcheck] at h
      cases cancellation with
      | before => exact nomatch h
      | during moment =>
          replace h : (Discovery.ofVerdict lister group (.ofGroup group)
            (.ofRace (Orchestrator.delay lister (.ofGroup group)) moment limit)).outcome
              = some (.ok pods) := h
          cases hverdict : Verdict.ofRace (Orchestrator.delay lister (.ofGroup group)) moment
              limit with
          | cancelled => rw [hverdict] at h; exact nomatch h
          | expired span => rw [hverdict] at h; exact nomatch h
          | undecided => rw [hverdict] at h; exact nomatch h
          | answered =>
              rw [hverdict, Discovery.ofVerdict] at h
              cases hanswer : Orchestrator.answer lister (LabelSelector.ofGroup group) with
              | error cause => rw [hanswer] at h; exact nomatch h
              | ok listed =>
                  rw [hanswer] at h
                  exact ⟨listed, rfl, (Except.ok.inj (Option.some.inj h)).symm⟩

/-- A discovery from a snapshot finds the running set of the snapshot, or nothing. -/
theorem pods_of_outcome {lister : Lister} {group : ReplicaGroup} {cancellation : Cancellation}
    {limit : Option Span} {pods : List Pod}
    (h : (discover lister group cancellation limit).outcome = some (.ok pods)) :
    lister.failure = none ∧ pods = lister.runningSet group := by
  obtain ⟨listed, hanswer, rfl⟩ := answer_of_outcome h
  replace hanswer : lister.answer (.ofGroup group) = .ok listed := hanswer
  rw [Lister.answer_ofGroup] at hanswer
  cases hfailure : lister.failure with
  | some message => rw [hfailure] at hanswer; exact nomatch hanswer
  | none =>
      rw [hfailure] at hanswer
      obtain rfl := Except.ok.inj hanswer
      exact ⟨rfl, rfl⟩

end Discoveries

end PodPlacement
