import Mathlib
import PodPlacement.Proofs.Ordered
import PodPlacement.Testbed.Basic

/-! # Runs of the test bed — clusters stay apart, and no event is lost

    `Acts` lists what a step can do to the test bed and which events it emits,
    once for all steps (`acts_act`).  Everything else is read off it:

    * a step changes the cluster that it is about, and only by pods that it
      loads (`Acts.cluster?_of_loads`, `Acts.cluster?_of_no_loads`), so that a
      run leaves every cluster with the pods last loaded for it
      (`cluster?_run`);
    * a step opens the store or leaves it (`Acts.store_eq`), and what it emits
      is added at the end, so that a run stores what was emitted from the first
      start on (`store_run`).

    Main statement: `clusters_stay_apart_and_no_event_is_lost`. -/

namespace PodPlacement

/-! ## What steps are about -/

namespace BedStep

variable {σ : Type}

/-- A step starts a cluster, or tries to. -/
def isStart : BedStep σ → Bool
  | .start .. => true
  | _ => false

/-- The cluster that a step is about. -/
def cluster? : BedStep σ → Option String
  | .start name _ => some name
  | .reload name _ => some name
  | .discoverIn name .. => some name
  | .chooseIn name .. => some name
  | .loadConfig _ => none
  | .emit _ => none
  | .query name .. => some name

/-- The pods that a step has for a cluster, if its fixture holds any. -/
def loads? (disk : Storage) (name : String) : BedStep σ → Option (List Pod)
  | .start cluster fixture =>
    if cluster = name then (Fixtures.pods disk fixture).toOption else none
  | .reload cluster fixture =>
    if cluster = name then (Fixtures.pods disk fixture).toOption else none
  | _ => none

/-- A step starts the cluster of a name with the pods of its fixture. -/
def starts (disk : Storage) (name : String) (s : BedStep σ) : Bool :=
  s.isStart && (s.loads? disk name).isSome

/-- A fixture has pods for a cluster if it is loaded for this one and holds them. -/
theorem ite_toOption_eq_some_iff {cluster name : String} {held : Except FixtureFault (List Pod)}
    {pods : List Pod} :
    (if cluster = name then held.toOption else none) = some pods
      ↔ cluster = name ∧ held = .ok pods := by
  cases held <;> simp [Except.toOption]

theorem loads?_of_ne {disk : Storage} {name : String} {s : BedStep σ} (h : s.cluster? ≠ some name) :
    s.loads? disk name = none := by
  cases s with
  | start cluster fixture => exact if_neg fun e => h (congrArg some e)
  | reload cluster fixture => exact if_neg fun e => h (congrArg some e)
  | _ => rfl

end BedStep

/-- The fault of a fixture for which a start or a reload fails. -/
def BedAnswer.fault? : BedAnswer → Option FixtureFault
  | .startFailed _ fault => some fault
  | .reloadFailed fault => some fault
  | _ => none

namespace Testbed

variable {σ : Type}

/-- The pods of the fixture that was last loaded for a cluster, once the cluster is started. -/
def loaded? (disk : Storage) (name : String) (steps : List (BedStep σ)) : Option (List Pod) :=
  if steps.any (·.starts disk name) then (steps.filterMap (·.loads? disk name)).getLast? else none

/-- The events that steps with these reports emitted from the first start on. -/
def sinceStart : List (BedStep σ) → List BedReport → List Event
  | s :: steps, report :: reports =>
    if s.isStart then (report :: reports).flatMap BedReport.events else sinceStart steps reports
  | _, _ => []

/-! ## What one step does -/

theorem cluster?_putCluster (bed : Testbed) (name other : String) (lister : Lister) :
    (bed.putCluster name lister).cluster? other
      = if other = name then some lister else bed.cluster? other :=
  Ordered.find?_replaced bed.clusters name other lister

section Steps

variable [Executor] [DrawSource σ] (hash : String → UInt64)

/-- What a step does and reports before its events are stored. -/
inductive Acts (bed : Testbed) (ambient : σ) : BedStep σ → BedReport → Testbed → Prop where
  | started {name fixture : String} {pods : List Pod}
      (holds : Fixtures.pods bed.disk fixture = .ok pods) :
      Acts bed ambient (.start name fixture) ⟨.started Fixtures.group pods, []⟩
        (bed.openStore.putCluster name (.ofPods pods))
  /-- The store is open also after a start that fails. -/
  | startFailed {name fixture : String} {fault : FixtureFault}
      (lacks : Fixtures.pods bed.disk fixture = .error fault) :
      Acts bed ambient (.start name fixture) ⟨.startFailed fixture fault, []⟩ bed.openStore
  | reloaded {name fixture : String} {lister : Lister} {pods : List Pod}
      (serves : bed.cluster? name = some lister)
      (holds : Fixtures.pods bed.disk fixture = .ok pods) :
      Acts bed ambient (.reload name fixture) ⟨.done, []⟩
        (bed.putCluster name { lister with pods })
  | reloadFailed {name fixture : String} {lister : Lister} {fault : FixtureFault}
      (serves : bed.cluster? name = some lister)
      (lacks : Fixtures.pods bed.disk fixture = .error fault) :
      Acts bed ambient (.reload name fixture) ⟨.reloadFailed fault, []⟩ bed
  | discovered {name : String} {group : ReplicaGroup} {limit : Option Span}
      {cancellation : Cancellation} {lister : Lister} (serves : bed.cluster? name = some lister) :
      Acts bed ambient (.discoverIn name group limit cancellation)
        ⟨.discovered (discover lister group cancellation limit).outcome,
          (discover lister group cancellation limit).events⟩ bed
  | chose {name : String} {chooser : Chooser σ} {cancellation : Cancellation} {lister : Lister}
      (serves : bed.cluster? name = some lister) :
      Acts bed ambient (.chooseIn name chooser cancellation)
        ⟨.chose (chooser.choosePod hash lister cancellation ambient).choice chooser.drawsAmbient,
          (chooser.choosePod hash lister cancellation ambient).events⟩ bed
  | configured {fixture : String} :
      Acts bed ambient (.loadConfig fixture)
        ⟨.config (ChooserConfig.loadFile bed.disk (Fixtures.path fixture)), []⟩ bed
  | emitted {event : Event} : Acts bed ambient (.emit event) ⟨.done, [event]⟩ bed
  | queried {name : String} {level : Option String} {field : Option (String × Option String)}
      {lister : Lister} (serves : bed.cluster? name = some lister) :
      Acts bed ambient (.query name level field)
        ⟨.events (bed.stored.filter (isAsked level field)), []⟩ bed
  /-- Nothing comes of a step on a cluster that has not been started. -/
  | unknown {s : BedStep σ} {name : String} (about : s.cluster? = some name)
      (other : s.isStart = false) (lacks : bed.cluster? name = none) :
      Acts bed ambient s ⟨.unknownCluster, []⟩ bed

theorem acts_act (bed : Testbed) (ambient : σ) (s : BedStep σ) :
    Acts hash bed ambient s (bed.act hash ambient s).1 (bed.act hash ambient s).2.1 := by
  cases s with
  | start name fixture =>
      have hdisk : bed.openStore.disk = bed.disk := rfl
      rw [act, hdisk]
      cases hpods : Fixtures.pods bed.disk fixture with
      | ok pods => exact .started hpods
      | error fault => exact .startFailed hpods
  | reload name fixture =>
      rw [act]
      cases hcluster : bed.cluster? name with
      | none => exact .unknown rfl rfl hcluster
      | some lister =>
          cases hpods : Fixtures.pods bed.disk fixture with
          | ok pods => exact .reloaded hcluster hpods
          | error fault => exact .reloadFailed hcluster hpods
  | discoverIn name group limit cancellation =>
      rw [act]
      cases hcluster : bed.cluster? name with
      | none => exact .unknown rfl rfl hcluster
      | some lister => exact .discovered hcluster
  | chooseIn name chooser cancellation =>
      rw [act]
      cases hcluster : bed.cluster? name with
      | none => exact .unknown rfl rfl hcluster
      | some lister => exact .chose hcluster
  | loadConfig fixture => exact .configured
  | emit event => exact .emitted
  | query name level field =>
      rw [act]
      cases hcluster : bed.cluster? name with
      | none => exact .unknown rfl rfl hcluster
      | some lister => exact .queried hcluster

section Acts

variable {hash} {bed acted : Testbed} {ambient : σ} {s : BedStep σ} {report : BedReport}
  {name : String}

namespace Acts

theorem disk_eq (h : Acts hash bed ambient s report acted) : acted.disk = bed.disk := by
  cases h <;> rfl

/-- A start opens the store and keeps what is in it; all other steps leave it alone. -/
theorem store_eq (h : Acts hash bed ambient s report acted) :
    acted.store = if s.isStart then some bed.stored else bed.store := by
  cases h with
  | unknown about other lacks => rw [other]; rfl
  | _ => rfl

/-- A step that has no pods for a cluster leaves it alone. -/
theorem cluster?_of_no_loads (h : Acts hash bed ambient s report acted)
    (hloads : s.loads? bed.disk name = none) : acted.cluster? name = bed.cluster? name := by
  cases h with
  | started holds =>
      rw [cluster?_putCluster]
      refine if_neg fun hname => ?_
      exact nomatch hloads.symm.trans (BedStep.ite_toOption_eq_some_iff.2 ⟨hname.symm, holds⟩)
  | reloaded serves holds =>
      rw [cluster?_putCluster]
      refine if_neg fun hname => ?_
      exact nomatch hloads.symm.trans (BedStep.ite_toOption_eq_some_iff.2 ⟨hname.symm, holds⟩)
  | _ => rfl

/-- A step that has pods for a cluster makes it serve them, if it starts it or the cluster has been
started before. -/
theorem cluster?_of_loads (h : Acts hash bed ambient s report acted) {pods : List Pod}
    (hloads : s.loads? bed.disk name = some pods) :
    acted.cluster? name
      = if s.isStart then some (.ofPods pods)
        else (bed.cluster? name).map fun lister => { lister with pods } := by
  cases h with
  | started holds =>
      obtain ⟨rfl, hpods⟩ := BedStep.ite_toOption_eq_some_iff.1 hloads
      obtain rfl := Except.ok.inj (holds.symm.trans hpods)
      rw [cluster?_putCluster, if_pos rfl]
      rfl
  | startFailed lacks =>
      obtain ⟨_, hpods⟩ := BedStep.ite_toOption_eq_some_iff.1 hloads
      exact nomatch lacks.symm.trans hpods
  | reloaded serves holds =>
      obtain ⟨rfl, hpods⟩ := BedStep.ite_toOption_eq_some_iff.1 hloads
      obtain rfl := Except.ok.inj (holds.symm.trans hpods)
      rw [cluster?_putCluster, if_pos rfl, serves]
      rfl
  | reloadFailed serves lacks =>
      obtain ⟨_, hpods⟩ := BedStep.ite_toOption_eq_some_iff.1 hloads
      exact nomatch lacks.symm.trans hpods
  | unknown about other lacks =>
      by_cases hname : s.cluster? = some name
      · obtain rfl := Option.some.inj (about.symm.trans hname)
        rw [other, lacks]
        rfl
      · rw [BedStep.loads?_of_ne hname] at hloads
        exact nomatch hloads
  | _ => exact nomatch hloads

/-- A start or reload that fails leaves all clusters alone. -/
theorem cluster?_of_fault (h : Acts hash bed ambient s report acted) {fault : FixtureFault}
    (hfault : report.answer.fault? = some fault) : acted.cluster? name = bed.cluster? name := by
  cases h with
  | startFailed lacks => rfl
  | reloadFailed serves lacks => rfl
  | _ => exact nomatch hfault

/-- A start emits nothing of its own. -/
theorem events_of_start (h : Acts hash bed ambient s report acted) (hs : s.isStart = true) :
    report.events = [] := by
  cases h with
  | started holds => rfl
  | startFailed lacks => rfl
  | unknown about other lacks => exact nomatch other.symm.trans hs
  | _ => exact nomatch hs

end Acts

end Acts

/-! ## Runs -/

section Loaded

variable {disk : Storage} {name : String}

omit [Executor] [DrawSource σ]

/-- Pods are loaded for a cluster exactly if some step starts it. -/
theorem isSome_loaded? (steps : List (BedStep σ)) :
    (loaded? disk name steps).isSome = steps.any (·.starts disk name) := by
  rw [loaded?]
  by_cases h : steps.any (·.starts disk name) = true
  · obtain ⟨s, hs, hstarts⟩ := List.any_eq_true.1 h
    have hloads : (s.loads? disk name).isSome = true := (Bool.and_eq_true_iff.1 hstarts).2
    obtain ⟨pods, hpods⟩ := Option.isSome_iff_exists.1 hloads
    have hmem : pods ∈ steps.filterMap (·.loads? disk name) :=
      List.mem_filterMap.2 ⟨s, hs, hpods⟩
    rw [if_pos h, h]
    exact List.getLast?_isSome.2 (List.ne_nil_of_mem hmem)
  · rw [if_neg h, Bool.eq_false_iff.2 h]
    rfl

theorem loaded?_concat_of_no_loads (steps : List (BedStep σ)) {s : BedStep σ}
    (h : s.loads? disk name = none) :
    loaded? disk name (steps ++ [s]) = loaded? disk name steps := by
  have hstarts : s.starts disk name = false := by
    rw [BedStep.starts, h]
    exact Bool.and_false _
  have hlast : [s].filterMap (·.loads? disk name) = [] := List.filterMap_cons_none h
  rw [loaded?, loaded?, List.any_append, List.filterMap_append, hlast, List.append_nil,
    List.any_cons, hstarts]
  simp

theorem loaded?_concat_of_loads (steps : List (BedStep σ)) {s : BedStep σ} {pods : List Pod}
    (h : s.loads? disk name = some pods) :
    loaded? disk name (steps ++ [s])
      = if s.isStart || (loaded? disk name steps).isSome then some pods else none := by
  have hstarts : s.starts disk name = s.isStart := by
    rw [BedStep.starts, h]
    exact Bool.and_true _
  have hlast : [s].filterMap (·.loads? disk name) = [pods] := List.filterMap_cons_some h
  rw [isSome_loaded?, loaded?, List.any_append, List.filterMap_append, hlast,
    List.getLast?_append, List.any_cons, hstarts]
  simp [Bool.or_comm]

end Loaded

theorem disk_run (bed : Testbed) (ambient : σ) (steps : List (BedStep σ)) :
    (bed.run hash ambient steps).2.1.disk = bed.disk := by
  induction steps generalizing bed ambient with
  | nil => rfl
  | cons s steps ih => exact (ih _ _).trans (acts_act hash bed ambient s).disk_eq

/-- **RUN**: every cluster that has been started serves the pods of the fixture that was last loaded
for it. -/
theorem cluster?_run (disk : Storage) (ambient : σ) (name : String) (steps : List (BedStep σ)) :
    ((ofStorage disk).run hash ambient steps).2.1.cluster? name
      = (loaded? disk name steps).map Lister.ofPods := by
  induction steps using List.reverseRecOn with
  | nil => rfl
  | append_singleton steps s ih =>
      have hdisk := disk_run hash (ofStorage disk) ambient steps
      rw [run_append]
      generalize (ofStorage disk).run hash ambient steps = ran at ih hdisk ⊢
      obtain ⟨reports, bed, source⟩ := ran
      have hacts := acts_act hash bed source s
      replace hdisk : bed.disk = disk := hdisk
      show (bed.act hash source s).2.1.cluster? name = _
      cases hloads : s.loads? disk name with
      | none =>
          rw [hacts.cluster?_of_no_loads (hdisk.symm ▸ hloads), ih,
            loaded?_concat_of_no_loads steps hloads]
      | some pods =>
          rw [hacts.cluster?_of_loads (hdisk.symm ▸ hloads), ih,
            loaded?_concat_of_loads steps hloads]
          cases s.isStart with
          | true => rfl
          | false => cases loaded? disk name steps <;> rfl

/-- **STEP**: what a step emits is added at the end of what is stored, if the store is open or the
step opens it. -/
theorem store_perform (bed : Testbed) (ambient : σ) (s : BedStep σ) :
    (bed.perform hash ambient s).2.1.store
      = (if s.isStart then some bed.stored else bed.store).map
          (· ++ (bed.perform hash ambient s).1.events) := by
  rw [← (acts_act hash bed ambient s).store_eq]
  rfl

/-- **RUN**: an open store keeps what it has and is given all that is emitted. -/
theorem store_run_of_open {bed : Testbed} {events : List Event} (h : bed.store = some events)
    (ambient : σ) (steps : List (BedStep σ)) :
    (bed.run hash ambient steps).2.1.store
      = some (events ++ (bed.run hash ambient steps).1.flatMap BedReport.events) := by
  induction steps generalizing bed ambient events with
  | nil =>
      show bed.store = some (events ++ [])
      rw [h, List.append_nil]
  | cons s steps ih =>
      have hstored : bed.stored = events := congrArg (Option.getD · []) h
      have hstep : (bed.perform hash ambient s).2.1.store
          = some (events ++ (bed.perform hash ambient s).1.events) := by
        rw [store_perform, h, hstored, ite_self]
        rfl
      rw [run, List.flatMap_cons, ← List.append_assoc]
      exact ih hstep _

/-- **RUN**: what is stored is what was emitted from the first start on. -/
theorem store_run {bed : Testbed} (h : bed.store = none) (ambient : σ)
    (steps : List (BedStep σ)) :
    (bed.run hash ambient steps).2.1.store
      = if steps.any BedStep.isStart then some (sinceStart steps (bed.run hash ambient steps).1)
        else none := by
  induction steps generalizing bed ambient with
  | nil => exact h
  | cons s steps ih =>
      have hstored : bed.stored = [] := congrArg (Option.getD · []) h
      have hstep := store_perform hash bed ambient s
      rw [run, List.any_cons, sinceStart]
      cases hs : s.isStart with
      | true =>
          rw [hs, hstored] at hstep
          exact store_run_of_open hash hstep _ steps
      | false =>
          rw [hs, h] at hstep
          exact ih hstep _

/-- **CLUSTERS STAY APART AND NO EVENT IS LOST**: after any steps, and whatever step comes next,
each cluster serves the pods of the fixture last loaded for it; a start or reload that fails changes
no cluster, and no step changes a cluster that it is not about.  The store holds the events of all
steps from the first start on, one that fails included, and the next step adds at its end what that
step emits. -/
theorem clusters_stay_apart_and_no_event_is_lost (disk : Storage) (ambient : σ)
    (earlier : List (BedStep σ)) (s : BedStep σ) :
    let ran := (ofStorage disk).run hash ambient earlier
    let bed := ran.2.1
    let report := (bed.perform hash ran.2.2 s).1
    let after := (bed.perform hash ran.2.2 s).2.1
    (∀ name, bed.cluster? name = (loaded? disk name earlier).map Lister.ofPods)
      ∧ (∀ fault, report.answer.fault? = some fault →
          ∀ name, after.cluster? name = bed.cluster? name)
      ∧ (∀ name, s.cluster? ≠ some name → after.cluster? name = bed.cluster? name)
      ∧ bed.store = (if earlier.any BedStep.isStart then some (sinceStart earlier ran.1) else none)
      ∧ after.store = (if (earlier ++ [s]).any BedStep.isStart
          then some (bed.stored ++ report.events) else none)
      ∧ ∃ acted, Acts hash bed ran.2.2 s report acted ∧ after = acted.record report.events := by
  intro ran bed report after
  have hacts := acts_act hash bed ran.2.2 s
  have hnone : (ofStorage disk).store = none := rfl
  have hstore : bed.store = _ := store_run hash hnone ambient earlier
  refine ⟨fun name => cluster?_run hash disk ambient name earlier, ?_, ?_, hstore, ?_,
    _, hacts, rfl⟩
  · intro fault hfault name
    exact hacts.cluster?_of_fault hfault
  · intro name hname
    exact hacts.cluster?_of_no_loads (BedStep.loads?_of_ne hname)
  · have hstep := store_perform hash bed ran.2.2 s
    refine hstep.trans ?_
    rw [List.any_append, List.any_cons, List.any_nil, Bool.or_false]
    cases hs : s.isStart with
    | true => rw [Bool.or_true]; rfl
    | false =>
        cases hopen : earlier.any BedStep.isStart with
        | false => rw [hstore, hopen]; rfl
        | true =>
            rw [hopen] at hstore
            rw [stored, hstore]
            rfl

end Steps

/-- A start that fails opens the store, and what is stored then outlives two further starts.  The
first cluster keeps its pods through a reload that fails and the start of a second one. -/
theorem event_survives_start_of_second_cluster :
    let hash : String → UInt64 := fun _ => 0
    let files := [("one.json", Fixtures.fileOf "[\x7b\"name\":\"w\"\x7d]"),
      ("none.json", Fixtures.fileOf "[]"), ("open.json", Fixtures.fileOf "[")]
    let disk : Storage := ⟨.folder [(Fixtures.folderName, .folder files)], []⟩
    let event : Event := .say .warn "podchooser_core::probe" "kept" []
    let earlier : List (BedStep AnySource) := [.start "first" "absent.json", .emit event,
      .start "first" "one.json", .reload "first" "open.json"]
    let ran := (ofStorage disk).run hash (.turning ⟨0⟩) earlier
    let after := (ran.2.1.perform hash ran.2.2 (.start "second" "none.json")).2.1
    after.cluster? "first" = some (.ofPods [.plain "w" .empty .unknown])
      ∧ after.store = some [event] := by
  intro hash files disk event earlier
  have hloaded : loaded? disk "first" earlier = some [.plain "w" .empty .unknown] := by
    decide +kernel
  have hstored : ((ofStorage disk).run hash (.turning ⟨0⟩) earlier).2.1.stored = [event] := by
    decide +kernel
  have hkept := clusters_stay_apart_and_no_event_is_lost hash disk (.turning ⟨0⟩) earlier
    (.start "second" "none.json")
  -- All that is needed of the run is known, so the run itself can be forgotten.
  generalize (ofStorage disk).run hash (.turning ⟨0⟩) earlier = ran at hstored hkept ⊢
  obtain ⟨hserves, _, hapart, _, hafter, _, hacts, _⟩ := hkept
  refine ⟨(hapart "first" (by decide)).trans ((hserves "first").trans ?_), hafter.trans ?_⟩
  · rw [hloaded]
    rfl
  · rw [if_pos (by decide), hstored, hacts.events_of_start rfl]
    rfl

end Testbed

end PodPlacement
