import PodPlacement.Config.File
import PodPlacement.Proofs.Interchange

/-! # Broken rules — what a validation reports

    A configuration is checked against four rules, each of which reads one or
    two of its fields.  `Breaks` says of every issue when it is one, in terms of
    the fields and of the selector that a discovery would build.

    * A rule finds an issue exactly if the configuration breaks it, and an
      issue belongs to one rule (`issue?_eq_some_iff`), so the report has every
      issue, each once, in the order of the rules.
    * A change to a field that a rule does not read leaves what the rule finds
      (`issue?_of_changed`), and with it that part of the report, as it was.
    * A discovery lacks a selector for the very reason that the report gives
      (`outcome_eq_invalidSelector_iff_mem`); an empty group has a selector, but is
      refused by the report.

    Main statement: `report_has_exactly_the_broken_rules`. -/

namespace PodPlacement

/-! ## Rules and fields -/

/-- The fields of a configuration. -/
inductive ConfigField where
  | replicaGroup
  | strategy
  | ringPoints
  | listTimeoutMs
  | seed
  deriving DecidableEq

/-- The rules for configurations. -/
inductive ConfigRule where
  | group
  | points
  | seed
  | limit
  deriving DecidableEq

namespace ConfigRule

/-- All rules in the order of a report. -/
def all : List ConfigRule := [.group, .points, .seed, .limit]

/-- The place of a rule in a report. -/
def place : ConfigRule → Nat
  | .group => 0
  | .points => 1
  | .seed => 2
  | .limit => 3

/-- The fields that a rule reads. -/
def reads : ConfigRule → List ConfigField
  | .group => [.replicaGroup]
  | .points => [.ringPoints]
  | .seed => [.strategy, .seed]
  | .limit => [.listTimeoutMs]

theorem mem_all (rule : ConfigRule) : rule ∈ all := by
  cases rule <;> decide

theorem pairwise_all : all.Pairwise (·.place < ·.place) := by decide

end ConfigRule

/-- The rule that an issue is about. -/
def ValidationIssue.rule : ValidationIssue → ConfigRule
  | .emptyReplicaGroup => .group
  | .invalidReplicaGroup _ => .group
  | .zeroRingPoints => .points
  | .seedWithoutRandom => .seed
  | .zeroListTimeout => .limit

namespace ChooserConfig

/-- What is wrong with a configuration. -/
inductive Breaks (config : ChooserConfig) : ValidationIssue → Prop where
  | emptyGroup (empty : config.replicaGroup = "") : Breaks config .emptyReplicaGroup
  | invalidGroup {cause : SelectorError} (nonempty : config.replicaGroup ≠ "")
      (refused : LabelSelector.forGroup config.group = .error cause) :
      Breaks config (.invalidReplicaGroup cause)
  | points (zero : config.ringPoints = 0) : Breaks config .zeroRingPoints
  | seed {seed : UInt64} (given : config.seed = some seed) (sticky : config.strategy = .sticky) :
      Breaks config .seedWithoutRandom
  | limit (zero : config.listTimeoutMs = some 0) : Breaks config .zeroListTimeout

/-- A configuration that differs at most in one field. -/
inductive Changed (config : ChooserConfig) : ConfigField → ChooserConfig → Prop where
  | replicaGroup (value : String) :
      Changed config .replicaGroup { config with replicaGroup := value }
  | strategy (value : ChooserStrategy) : Changed config .strategy { config with strategy := value }
  | ringPoints (value : UInt64) : Changed config .ringPoints { config with ringPoints := value }
  | listTimeoutMs (value : Option UInt64) :
      Changed config .listTimeoutMs { config with listTimeoutMs := value }
  | seed (value : Option UInt64) : Changed config .seed { config with seed := value }

/-! ## What a rule finds -/

/-- The issue that a rule finds. -/
def issue? (config : ChooserConfig) : ConfigRule → Option ValidationIssue
  | .group => config.groupIssue?
  | .points => config.pointsIssue?
  | .seed => config.seedIssue?
  | .limit => config.limitIssue?

theorem issues_eq (config : ChooserConfig) :
    config.issues = ConfigRule.all.filterMap config.issue? := by
  rw [issues, ← Function.id_comp config.issue?, ← List.filterMap_map]
  rfl

section Rules

variable {config : ChooserConfig}

theorem breaks_of_groupIssue? {issue : ValidationIssue} (h : config.groupIssue? = some issue) :
    config.Breaks issue ∧ issue.rule = .group := by
  rw [groupIssue?] at h
  split at h
  next hempty =>
    obtain rfl := Option.some.inj h
    exact ⟨.emptyGroup (String.isEmpty_iff.1 hempty), rfl⟩
  next hnonempty =>
    split at h
    next => exact nomatch h
    next cause hcheck =>
      obtain rfl := Option.some.inj h
      refine ⟨.invalidGroup (fun hempty => hnonempty (String.isEmpty_iff.2 hempty)) ?_, rfl⟩
      exact LabelSelector.forGroup_eq_error_iff.2 hcheck

theorem groupIssue?_of_nonempty (nonempty : config.replicaGroup ≠ "") {cause : SelectorError}
    (refused : LabelSelector.forGroup config.group = .error cause) :
    config.groupIssue? = some (.invalidReplicaGroup cause) := by
  have hcheck : LabelValue.check config.replicaGroup = .error cause :=
    LabelSelector.forGroup_eq_error_iff.1 refused
  rw [groupIssue?, if_neg fun hempty => nonempty (String.isEmpty_iff.1 hempty), hcheck]

/-- **A RULE FINDS AN ISSUE** exactly if the configuration breaks it. -/
theorem issue?_eq_some_iff {rule : ConfigRule} {issue : ValidationIssue} :
    config.issue? rule = some issue ↔ config.Breaks issue ∧ issue.rule = rule := by
  constructor
  · intro h
    cases rule with
    | group => exact breaks_of_groupIssue? h
    | points =>
        obtain ⟨hzero, rfl⟩ := Option.ite_some_none_eq_some.1 h
        exact ⟨.points hzero, rfl⟩
    | seed =>
        obtain ⟨⟨hseed, hstrategy⟩, rfl⟩ := Option.ite_some_none_eq_some.1 h
        obtain ⟨seed, hseed⟩ := Option.isSome_iff_exists.1 hseed
        cases hsticky : config.strategy with
        | random => exact absurd hsticky hstrategy
        | sticky => exact ⟨.seed hseed hsticky, rfl⟩
    | limit =>
        obtain ⟨hzero, rfl⟩ := Option.ite_some_none_eq_some.1 h
        exact ⟨.limit hzero, rfl⟩
  · rintro ⟨hbreaks, rfl⟩
    cases hbreaks with
    | emptyGroup empty => exact if_pos (String.isEmpty_iff.2 empty)
    | invalidGroup nonempty refused => exact groupIssue?_of_nonempty nonempty refused
    | points zero => exact if_pos zero
    | seed given sticky =>
        refine if_pos ⟨by rw [given]; rfl, ?_⟩
        rw [sticky]
        exact nofun
    | limit zero => exact if_pos zero

theorem mem_issues_iff {issue : ValidationIssue} :
    issue ∈ config.issues ↔ config.Breaks issue := by
  rw [issues_eq, List.mem_filterMap]
  constructor
  · rintro ⟨rule, _, h⟩
    exact (issue?_eq_some_iff.1 h).1
  · intro h
    exact ⟨issue.rule, ConfigRule.mem_all _, issue?_eq_some_iff.2 ⟨h, rfl⟩⟩

/-- The issues come in the order of their rules, no two of one rule. -/
theorem pairwise_issues : config.issues.Pairwise (·.rule.place < ·.rule.place) := by
  rw [issues_eq, List.pairwise_filterMap]
  refine ConfigRule.pairwise_all.imp fun hplace issue hissue issue' hissue' => ?_
  rw [(issue?_eq_some_iff.1 hissue).2, (issue?_eq_some_iff.1 hissue').2]
  exact hplace

theorem issues_eq_nil_iff : config.issues = [] ↔ ∀ issue, ¬ config.Breaks issue := by
  rw [List.eq_nil_iff_forall_not_mem]
  exact forall_congr' fun _ => not_congr mem_issues_iff

theorem not_breaks_of_valid (h : config.validate = .ok ()) {issue : ValidationIssue} :
    ¬ config.Breaks issue :=
  issues_eq_nil_iff.1 (config.validate_eq_ok_iff.1 h) issue

/-! ## What a change leaves -/

/-- A rule that does not read a field finds the same when the field is changed. -/
theorem issue?_of_changed {field : ConfigField} {other : ChooserConfig}
    (h : config.Changed field other) {rule : ConfigRule} (hreads : field ∉ rule.reads) :
    other.issue? rule = config.issue? rule := by
  cases rule with
  | group =>
      cases h with
      | replicaGroup _ => exact absurd (by decide) hreads
      | _ => rfl
  | points =>
      cases h with
      | ringPoints _ => exact absurd (by decide) hreads
      | _ => rfl
  | seed =>
      cases h with
      | strategy _ => exact absurd (by decide) hreads
      | seed _ => exact absurd (by decide) hreads
      | _ => rfl
  | limit =>
      cases h with
      | listTimeoutMs _ => exact absurd (by decide) hreads
      | _ => rfl

/-- **A CHANGE LEAVES** the issues of all rules that do not read the field, in their order. -/
theorem filter_issues_of_changed {field : ConfigField} {other : ChooserConfig}
    (h : config.Changed field other) :
    other.issues.filter (field ∉ ·.rule.reads) = config.issues.filter (field ∉ ·.rule.reads) := by
  rw [issues_eq, issues_eq, List.filter_filterMap, List.filter_filterMap]
  refine List.filterMap_congr fun rule _ => ?_
  by_cases hreads : field ∈ rule.reads
  · -- Nothing that this rule finds is kept.
    have hnone (config : ChooserConfig) :
        (config.issue? rule).filter (field ∉ ·.rule.reads) = none := by
      refine Option.filter_eq_none_iff.2 fun issue hissue => ?_
      rw [(issue?_eq_some_iff.1 hissue).2]
      simpa using hreads
    rw [hnone, hnone]
  · rw [issue?_of_changed h hreads]

/-! ## What a discovery makes of the group -/

/-- A discovery lacks a selector exactly for the cause that the report gives. -/
theorem outcome_eq_invalidSelector_iff_mem {κ ε : Type} [Orchestrator κ ε] [Executor] {lister : κ}
    {cancellation : Cancellation} {limit : Option Span} {cause : SelectorError} :
    (discover lister config.group cancellation limit).outcome
        = some (.error (.invalidSelector cause))
      ↔ .invalidReplicaGroup cause ∈ config.issues := by
  rw [Discovery.outcome_eq_invalidSelector_iff, mem_issues_iff]
  constructor
  · intro hcheck
    refine .invalidGroup ?_ (LabelSelector.forGroup_eq_error_iff.2 hcheck)
    intro hempty
    have hgroup : LabelValue.check config.replicaGroup = .error cause := hcheck
    rw [hempty] at hgroup
    exact nomatch hgroup
  · intro hbreaks
    cases hbreaks with
    | invalidGroup nonempty refused => exact LabelSelector.forGroup_eq_error_iff.1 refused

end Rules

/-- **A REPORT HAS EXACTLY THE BROKEN RULES**: every issue of a configuration, none of them twice,
in the order of the rules.  Without any the configuration is accepted, and with some it is refused
for all of them.  A change to a field leaves the issues of the rules that do not read it, in their
order.  A discovery for the group lacks a selector for the cause that the report gives, and for no
other; so a group that is not empty passes exactly if no discovery for it ever lacks one. -/
theorem report_has_exactly_the_broken_rules [Executor] (config : ChooserConfig) :
    (∀ issue, issue ∈ config.issues ↔ config.Breaks issue)
      ∧ config.issues.Pairwise (·.rule.place < ·.rule.place)
      ∧ (config.validate = .ok () ↔ ∀ issue, ¬ config.Breaks issue)
      ∧ (∀ e, config.validate = .error e
          ↔ e = .validation config.issues ∧ ∃ issue, config.Breaks issue)
      ∧ (∀ field other, config.Changed field other →
          other.issues.filter (field ∉ ·.rule.reads)
            = config.issues.filter (field ∉ ·.rule.reads))
      ∧ (∀ (κ ε : Type) [Orchestrator κ ε] (lister : κ) cancellation limit cause,
          (discover lister config.group cancellation limit).outcome
              = some (.error (.invalidSelector cause))
            ↔ .invalidReplicaGroup cause ∈ config.issues)
      ∧ (config.replicaGroup ≠ "" →
          ((∀ issue ∈ config.issues, issue.rule ≠ .group)
            ↔ ∀ (κ ε : Type) [Orchestrator κ ε] (lister : κ) cancellation limit cause,
                (discover lister config.group cancellation limit).outcome
                  ≠ some (.error (.invalidSelector cause)))) := by
  refine ⟨fun _ => mem_issues_iff, pairwise_issues, ?_, fun e => ?_,
    fun _ _ => filter_issues_of_changed, fun _ _ _ _ _ _ _ => outcome_eq_invalidSelector_iff_mem,
    fun hnonempty => ⟨?_, ?_⟩⟩
  · rw [validate_eq_ok_iff, issues_eq_nil_iff]
  · rw [validate_eq_error_iff, ne_eq, issues_eq_nil_iff, not_forall_not]
  · intro hpasses κ ε _ lister cancellation limit cause houtcome
    exact hpasses _ (outcome_eq_invalidSelector_iff_mem.1 houtcome) rfl
  · intro hnever issue hissue hrule
    have hbreaks := mem_issues_iff.1 hissue
    cases hbreaks with
    | emptyGroup empty => exact hnonempty empty
    | invalidGroup _ _ =>
        exact hnever Lister String (.ofPods []) .before none _
          (outcome_eq_invalidSelector_iff_mem.2 hissue)
    | points _ => exact nomatch hrule
    | seed _ _ => exact nomatch hrule
    | limit _ => exact nomatch hrule

/-- A configuration that breaks all four rules, by a group that is no label value: with a strategy
that may have a seed the issues of the other rules are the same, and some discovery for the group
lacks a selector. -/
theorem changed_strategy_leaves_other_issues :
    let config : ChooserConfig := ⟨"-web", .sticky, 0, some 0, some 7⟩
    let other : ChooserConfig := { config with strategy := .random }
    config.Changed .strategy other
      ∧ config.Breaks .seedWithoutRandom
      ∧ other.issues.filter (.strategy ∉ ·.rule.reads)
          = [.invalidReplicaGroup ⟨"-web", .badEdge⟩, .zeroRingPoints, .zeroListTimeout]
      ∧ config.replicaGroup ≠ ""
      ∧ ¬ ∀ (κ ε : Type) [Orchestrator κ ε] (lister : κ) cancellation limit cause,
            (discover lister config.group cancellation limit).outcome
              ≠ some (.error (.invalidSelector cause)) := by
  intro config other
  have hissues : config.issues = [.invalidReplicaGroup ⟨"-web", .badEdge⟩, .zeroRingPoints,
      .seedWithoutRandom, .zeroListTimeout] := by decide
  have hchanged : config.Changed .strategy other := .strategy .random
  have hnonempty : config.replicaGroup ≠ "" := by decide
  obtain ⟨hbreaks, _, _, _, hleaves, _, hgroup⟩ := report_has_exactly_the_broken_rules config
  refine ⟨hchanged, (hbreaks _).1 (by rw [hissues]; decide), ?_, hnonempty, fun hnever => ?_⟩
  · rw [hleaves _ _ hchanged, hissues]
    decide
  · have hpasses := (hgroup hnonempty).2 hnever
    rw [hissues] at hpasses
    exact hpasses _ (List.mem_cons_self ..) rfl

end ChooserConfig

end PodPlacement
