import PodPlacement.Config.Factory
import PodPlacement.Proofs.BrokenRules
import PodPlacement.Proofs.StickyPlacement

/-! # Built choosers — what a configuration promises of every choice

    A configuration that breaks no rule has a group with a selector and a ring
    with points.  A chooser that is built from it keeps both through all of its
    calls, whatever these meet, so no call finds its group without selector and
    no key without owner.  A seed gives the chooser a stream of words, from
    which one number is drawn for each call that finds pods.

    The route:

    * `Builds` lists what a build can come to (`builds_build`);
    * `Serves` is what all calls on a built chooser keep: one call keeps it
      (`Serves.report`) and is safe where it holds (`Serves.isSafe`), and so is
      every call of a run (`Serves.turns`);
    * every call comes to what its discovery can come to (`meets_turns`);
    * the calls of a run choose at the numbers drawn from a source in range, one
      after another (`draws_of_inRange`);
    * the calls of a session on a chooser that it built are such a run
      (`turns_of_build`).

    Main statement: `built_choosers_are_safe`. -/

namespace PodPlacement

/-! ## What is built -/

namespace ChooserConfig

/-- A chooser for a configuration, in whatever state its source is. -/
inductive Serves {σ : Type} (config : ChooserConfig) : Chooser σ → Prop where
  | random (strategy : config.strategy = .random) (own : Option (Lock σ)) :
      Serves config ⟨config.group, config.limit, .random own⟩
  | sticky (strategy : config.strategy = .sticky) (key : AffinityKey) :
      Serves config ⟨config.group, config.limit, .sticky key config.ringPoints.toNat⟩

section Rules

variable {config : ChooserConfig}

/-- The group of a valid configuration has a selector. -/
theorem check_of_valid (h : config.validate = .ok ()) :
    LabelValue.check config.group.name = .ok () := by
  cases hcheck : LabelValue.check config.group.name with
  | ok _ => rfl
  | error cause =>
      by_cases hempty : config.replicaGroup = ""
      · exact absurd (.emptyGroup hempty) (not_breaks_of_valid h)
      · have hrefused := LabelSelector.forGroup_eq_error_iff.2 hcheck
        exact absurd (.invalidGroup hempty hrefused) (not_breaks_of_valid h)

/-- Its ring has points. -/
theorem points_pos_of_valid (h : config.validate = .ok ()) : 0 < config.ringPoints.toNat := by
  refine Nat.pos_of_ne_zero fun hzero => ?_
  exact absurd (.points (UInt64.toNat_inj.1 hzero)) (not_breaks_of_valid h)

/-- Only a random strategy has a seed. -/
theorem random_of_seed (h : config.validate = .ok ()) {seed : UInt64}
    (hseed : config.seed = some seed) : config.strategy = .random := by
  cases hstrategy : config.strategy with
  | random => rfl
  | sticky => exact absurd (.seed hseed hstrategy) (not_breaks_of_valid h)

/-- Only broken rules are a reason to refuse a configuration. -/
theorem validation_of_refused {e : ConfigError} (h : config.validate = .error e) :
    ∃ issues, e = .validation issues :=
  ⟨_, (config.validate_eq_error_iff.1 h).1⟩

/-- A configuration that was read from a file breaks no rule. -/
theorem valid_of_loadFile {storage : Storage} {path : String}
    (h : loadFile storage path = .ok config) : config.validate = .ok () := by
  rw [loadFile] at h
  cases hparse : parseFile storage path with
  | error e => rw [hparse] at h; exact nomatch h
  | ok parsed =>
      rw [hparse] at h
      replace h : parsed.validate.bind (fun _ => Except.ok parsed) = .ok config := h
      cases hvalid : parsed.validate with
      | error e => rw [hvalid] at h; exact nomatch h
      | ok _ =>
          rw [hvalid] at h
          obtain rfl := Except.ok.inj h
          exact hvalid

end Rules

section Building

variable {σ : Type} [SeededSource σ] (config : ChooserConfig) (key : Option AffinityKey)

/-- What a build comes to: rules are the first that it fails for, and a missing key the only other
reason. -/
inductive Builds : Except ConfigError (Chooser σ) → Prop where
  | refused {issues : List ValidationIssue}
      (invalid : config.validate = .error (.validation issues)) :
      Builds (.error (.validation issues))
  | keyless (valid : config.validate = .ok ()) (strategy : config.strategy = .sticky)
      (missing : key = none) : Builds (.error (.missingAffinityKey config.replicaGroup))
  | random (valid : config.validate = .ok ()) (strategy : config.strategy = .random) :
      Builds (.ok (.new config.group config.limit (.random (config.seed.map SeededSource.ofSeed))))
  | sticky {given : AffinityKey} (valid : config.validate = .ok ())
      (strategy : config.strategy = .sticky) (hkey : key = some given) :
      Builds (.ok (.new config.group config.limit (.sticky given config.ringPoints.toNat)))

theorem builds_build : Builds config key (config.build key : Except ConfigError (Chooser σ)) := by
  rw [build]
  cases hvalid : config.validate with
  | error e =>
      obtain ⟨issues, rfl⟩ := validation_of_refused hvalid
      exact .refused hvalid
  | ok _ =>
      unfold policy
      cases hstrategy : config.strategy with
      | random => exact .random hvalid hstrategy
      | sticky =>
          cases key with
          | none => exact .keyless hvalid hstrategy rfl
          | some key => exact .sticky hvalid hstrategy rfl

variable {config key} {result : Except ConfigError (Chooser σ)}

namespace Builds

theorem eq_validation_iff (h : Builds config key result) {issues : List ValidationIssue} :
    result = .error (.validation issues) ↔ config.validate = .error (.validation issues) := by
  cases h with
  | refused invalid =>
      rw [invalid]
      constructor
      · intro h
        rw [Except.error.inj h]
      · intro h
        rw [Except.error.inj h]
  | keyless valid strategy missing => rw [valid]; exact ⟨nofun, nofun⟩
  | random valid strategy => rw [valid]; exact ⟨nofun, nofun⟩
  | sticky valid strategy hkey => rw [valid]; exact ⟨nofun, nofun⟩

theorem eq_missingAffinityKey_iff (h : Builds config key result) {group : String} :
    result = .error (.missingAffinityKey group)
      ↔ config.validate = .ok () ∧ config.strategy = .sticky ∧ key = none
        ∧ group = config.replicaGroup := by
  cases h with
  | refused invalid => rw [invalid]; exact ⟨nofun, nofun⟩
  | keyless valid strategy missing =>
      constructor
      · intro h
        exact ⟨valid, strategy, missing,
          (ConfigError.missingAffinityKey.inj (Except.error.inj h)).symm⟩
      · rintro ⟨_, _, _, rfl⟩
        rfl
  | random valid strategy => rw [strategy]; exact ⟨nofun, nofun⟩
  | sticky valid strategy hkey => rw [hkey]; exact ⟨nofun, nofun⟩

theorem exists_ok_iff (h : Builds config key result) :
    (∃ chooser, result = .ok chooser)
      ↔ config.validate = .ok () ∧ (config.strategy = .sticky → key ≠ none) := by
  cases h with
  | refused invalid => rw [invalid]; exact ⟨nofun, nofun⟩
  | keyless valid strategy missing =>
      exact ⟨nofun, fun h => absurd missing (h.2 strategy)⟩
  | random valid strategy =>
      rw [strategy]
      exact ⟨fun _ => ⟨valid, nofun⟩, fun _ => ⟨_, rfl⟩⟩
  | sticky valid strategy hkey =>
      rw [hkey]
      exact ⟨fun _ => ⟨valid, fun _ => Option.some_ne_none _⟩, fun _ => ⟨_, rfl⟩⟩

variable {chooser : Chooser σ}

/-- A chooser is built from a valid configuration, and serves it. -/
theorem serves (h : Builds config key (.ok chooser)) :
    config.validate = .ok () ∧ config.Serves chooser := by
  cases h with
  | random valid strategy => exact ⟨valid, .random strategy _⟩
  | sticky valid strategy hkey => exact ⟨valid, .sticky strategy _⟩

/-- A seed makes the chooser's own source. -/
theorem guarded_of_seed (h : Builds config key (.ok chooser)) {seed : UInt64}
    (hseed : config.seed = some seed) :
    chooser.guarded = .random (some (.new (SeededSource.ofSeed seed))) := by
  cases h with
  | random valid strategy =>
      rw [Chooser.new, hseed]
      rfl
  | sticky valid strategy hkey =>
      have hrandom := random_of_seed valid hseed
      rw [strategy] at hrandom
      cases hrandom

end Builds

end Building

end ChooserConfig

/-! ## One call -/

/-- The reason for what a strategy selects. -/
def ChooserStrategy.reason : ChooserStrategy → SelectionReason
  | .random => .random
  | .sticky => .stickyHash

/-- What one call on a chooser comes to. -/
structure Turn (ε : Type := String) where
  /-- The running pods in name order, as its discovery finds them. -/
  found : List Pod
  choice : Choice ε

/-- What a strategy promises of every call. -/
structure Turn.IsSafe {ε : Type} (strategy : ChooserStrategy) (turn : Turn ε) : Prop where
  /-- The group does not lack a selector. -/
  selector : ∀ cause, turn.choice ≠ .failed (.discovery (.invalidSelector cause))
  reason : ∀ selection, turn.choice = .selected selection → selection.reason = strategy.reason
  /-- The key of a sticky chooser does not lack an owner. -/
  owner : strategy = .sticky → turn.found ≠ [] → ∃ selection, turn.choice = .selected selection

/-- With points on the ring a sticky pick is one for the owner of its key, whatever its source
answers. -/
theorem Pick.exists_split_of_points {σ : Type} [DrawSource σ] (hash : String → UInt64)
    {points : Nat} (key : AffinityKey) (group : ReplicaGroup) {pods : List Pod} (source : σ)
    (hpods : pods ≠ []) (hpoints : 0 < points) :
    ∃ index, (sticky hash points key group pods source).pick
      = .selected (.split pods index .stickyHash) := by
  obtain ⟨index, hindex⟩ := exists_ownerIndex? hash key hpods hpoints
  rw [sticky_of_owner hash points key group source hindex]
  exact ⟨index, rfl⟩

namespace ChooserConfig

section Serving

variable {σ : Type} {config : ChooserConfig} {chooser : Chooser σ}

theorem Serves.group_eq (h : config.Serves chooser) : chooser.group = config.group := by
  cases h <;> rfl

theorem Serves.limit_eq (h : config.Serves chooser) : chooser.limit = config.limit := by
  cases h <;> rfl

variable {κ ε : Type} [Orchestrator κ ε] [Executor] [DrawSource σ]

/-- **STEP**: a call leaves a chooser of the configuration. -/
theorem Serves.report (h : config.Serves chooser) (hash : String → UInt64) (lister : κ)
    (cancellation : Cancellation) (ambient : σ) :
    config.Serves (chooser.choosePod hash lister cancellation ambient).chooser := by
  have hfollows := Chooser.follows_choosePod hash chooser lister cancellation ambient
  obtain ⟨pods, houtcome⟩ | hmissed :=
    (discover lister chooser.group cancellation chooser.limit).finds_or_not
  · rw [hfollows.leaves pods houtcome]
    cases h with
    | random strategy own =>
        cases own with
        | none => exact .random strategy _
        | some lock => exact .random strategy _
    | sticky strategy key => exact .sticky strategy key
  · rw [hfollows.keeps hmissed]
    exact h

/-- What a call on a chooser of a valid configuration comes to is safe. -/
theorem Serves.isSafe (h : config.Serves chooser) (hvalid : config.validate = .ok ())
    (hash : String → UInt64) (lister : κ) (cancellation : Cancellation) (ambient : σ) :
    Turn.IsSafe config.strategy
      ⟨(discover lister chooser.group cancellation chooser.limit).found,
        (chooser.choosePod hash lister cancellation ambient).choice⟩ where
  selector := by
    intro cause hchoice
    have hcomes := Chooser.comesOf_choosePod hash chooser lister cancellation ambient
    simp only at hchoice
    rw [hchoice] at hcomes
    obtain ⟨_, hcause, houtcome⟩ | ⟨hnone, _⟩ := hcomes.outcome_of_failed
    · obtain rfl := ChooseError.discovery.inj hcause
      have hcheck := Discovery.outcome_eq_invalidSelector_iff.1 houtcome
      rw [h.group_eq, check_of_valid hvalid] at hcheck
      exact nomatch hcheck
    · exact nomatch hnone
  reason := by
    intro selection hchoice
    obtain ⟨pods, _, hpick⟩ := Chooser.pick_of_selected hchoice
    obtain ⟨index, _, hsplit⟩ := chooser.guarded.isSplit_of_pick hash chooser.group pods ambient
      selection hpick
    cases h with
    | random strategy own =>
        rw [strategy]
        obtain ⟨report, hrandom, hreport, _⟩ :=
          Policy.exists_randomly_pick hash config.group own pods ambient
        obtain ⟨_, rfl⟩ := hrandom.eq_split (hreport.symm.trans hpick)
        rfl
    | sticky strategy key =>
        rw [strategy]
        obtain ⟨_, howner⟩ := Pick.exists_split_of_points hash key config.group ambient
          (List.ne_nil_of_length_pos index.pos) (points_pos_of_valid hvalid)
        obtain rfl := Pick.selected.inj (howner.symm.trans hpick)
        rfl
  owner := by
    intro hsticky hfound
    have hpicks := (Chooser.follows_choosePod hash chooser lister cancellation ambient).picks _
      (Discovery.outcome_of_found hfound)
    cases h with
    | random strategy own => exact nomatch strategy.symm.trans hsticky
    | sticky strategy key =>
        obtain ⟨index, howner⟩ := Pick.exists_split_of_points hash key config.group ambient
          hfound (points_pos_of_valid hvalid)
        exact ⟨_, hpicks.trans (congrArg (Choice.ofPick config.group) howner)⟩

end Serving

end ChooserConfig

/-! ## Runs of calls -/

/-- What one call on a chooser meets. -/
structure Occasion (κ σ : Type) where
  lister : κ
  cancellation : Cancellation
  ambient : σ

namespace Turn

/-- What a call for a group comes to on an occasion: what it finds is what its discovery can come
to, and what it chooses is made of that. -/
inductive Meets {κ ε σ : Type} [Orchestrator κ ε] (group : ReplicaGroup) (limit : Option Span)
    (occasion : Occasion κ σ) : Turn ε → Prop where
  | found {pods : List Pod} {calls : List ListCall} {choice : Choice ε}
      (discovers : Discovers occasion.lister group limit occasion.cancellation (some (.ok pods))
        calls) (comes : Choice.ComesOf group (some (.ok pods)) choice) :
      Meets group limit occasion ⟨pods, choice⟩
  | missed {outcome : Option (Except (DiscoveryError ε) (List Pod))} {calls : List ListCall}
      {choice : Choice ε}
      (discovers : Discovers occasion.lister group limit occasion.cancellation outcome calls)
      (fails : ∀ pods, outcome ≠ some (.ok pods)) (comes : Choice.ComesOf group outcome choice) :
      Meets group limit occasion ⟨[], choice⟩

/-- Without a tie, what is found on an occasion is what a discovery finds then. -/
theorem Meets.found_eq {κ ε σ : Type} [Orchestrator κ ε] [Executor] {group : ReplicaGroup}
    {limit : Option Span} {occasion : Occasion κ σ} {turn : Turn ε}
    (h : turn.Meets group limit occasion)
    (hties : ¬ occasion.cancellation.Ties occasion.lister group limit) :
    turn.found = (discover occasion.lister group occasion.cancellation limit).found := by
  cases h with
  | found discovers _ =>
      exact (Discovery.found_of_outcome (discovers.eq_discover hties).1.symm).symm
  | missed discovers fails _ =>
      rw [(discovers.eq_discover hties).1] at fails
      exact (Discovery.found_of_no_outcome fails).symm

variable {ε : Type}

/-- Chooses the pod at the number answered, which is one of those found. -/
def Draws (turn : Turn ε) (answer : Option Nat) : Prop :=
  ∃ n, answer = some n ∧ ∃ h : n < turn.found.length,
    turn.choice = .selected ⟨turn.found.get ⟨n, h⟩, turn.found.eraseIdx n, .random⟩

/-- The turns that found pods. -/
def drawing (turns : List (Turn ε)) : List (Turn ε) :=
  turns.filter (0 < ·.found.length)

theorem drawing_cons_of_pos {turn : Turn ε} (turns : List (Turn ε))
    (h : 0 < turn.found.length) : drawing (turn :: turns) = turn :: drawing turns :=
  List.filter_cons_of_pos (decide_eq_true h)

theorem drawing_cons_of_nil {turn : Turn ε} (turns : List (Turn ε)) (h : turn.found = []) :
    drawing (turn :: turns) = drawing turns :=
  List.filter_cons_of_neg (by simp [h])

end Turn

namespace DrawSource

variable {σ : Type} [DrawSource σ]

/-- The answers of a source that is asked with these lengths, one after another. -/
def answers : σ → List Nat → List (Option Nat)
  | _, [] => []
  | source, len :: lens => (draw source len).1 :: answers (draw source len).2 lens

/-- Answers a number below the length, however often it is asked. -/
def InRange (source : σ) : Prop :=
  ∀ lens : List Nat, (∀ len ∈ lens, 0 < len) →
    List.Forall₂ (fun len answer => ∃ n < len, answer = some n) lens (answers source lens)

theorem InRange.draw_eq {source : σ} (h : InRange source) {len : Nat} (hlen : 0 < len) :
    ∃ n < len, (DrawSource.draw source len).1 = some n := by
  have hanswers := h [len] fun other hother => List.mem_singleton.1 hother ▸ hlen
  rw [answers, answers] at hanswers
  cases hanswers with
  | cons hanswer _ => exact hanswer

theorem InRange.next {source : σ} (h : InRange source) {len : Nat} (hlen : 0 < len) :
    InRange (DrawSource.draw source len).2 := by
  intro lens hlens
  have hanswers := h (len :: lens) fun other hother => by
    rcases List.mem_cons.1 hother with rfl | hother
    · exact hlen
    · exact hlens other hother
  rw [answers] at hanswers
  cases hanswers with
  | cons _ hrest => exact hrest

end DrawSource

/-- A stream of words answers in range. -/
theorem AnySource.inRange_seeded (stream : WordStream) :
    DrawSource.InRange (AnySource.seeded stream) := by
  intro lens hlens
  induction lens generalizing stream with
  | nil => exact .nil
  | cons len lens ih =>
      have hbelow := stream.below_lt (hlens len (List.mem_cons_self ..))
      exact .cons ⟨_, hbelow, rfl⟩ (ih _ fun other hother =>
        hlens other (List.mem_cons_of_mem _ hother))

namespace Chooser

section Turns

variable {κ ε σ : Type} [Orchestrator κ ε] [Executor] [DrawSource σ] (hash : String → UInt64)

/-- What a chooser comes to on an occasion. -/
def turn (chooser : Chooser σ) (occasion : Occasion κ σ) : Turn ε :=
  ⟨(discover occasion.lister chooser.group occasion.cancellation chooser.limit).found,
    (chooser.choosePod hash occasion.lister occasion.cancellation occasion.ambient).choice⟩

/-- The turns of a chooser that is called on one occasion after another. -/
def turns : Chooser σ → List (Occasion κ σ) → List (Turn ε)
  | _, [] => []
  | chooser, occasion :: rest =>
    let report := chooser.choosePod hash occasion.lister occasion.cancellation occasion.ambient
    chooser.turn hash occasion :: turns report.chooser rest

/-- **STEP**: a turn comes to what its occasion can come to. -/
theorem meets_turn (chooser : Chooser σ) (occasion : Occasion κ σ) :
    (chooser.turn hash occasion).Meets chooser.group chooser.limit occasion := by
  have hdiscovers := discovers_discover occasion.lister chooser.group chooser.limit
    occasion.cancellation
  have hcomes := comesOf_choosePod hash chooser occasion.lister occasion.cancellation
    occasion.ambient
  obtain ⟨pods, houtcome⟩ | hmissed := (discover occasion.lister chooser.group
    occasion.cancellation chooser.limit).finds_or_not
  · rw [turn, Discovery.found_of_outcome houtcome]
    rw [houtcome] at hdiscovers hcomes
    exact .found hdiscovers hcomes
  · rw [turn, Discovery.found_of_no_outcome hmissed]
    exact .missed hdiscovers hmissed hcomes

/-- **RUN**: so do all turns, since the group and the limit stay as they are. -/
theorem meets_turns (chooser : Chooser σ) (occasions : List (Occasion κ σ)) :
    List.Forall₂ (fun occasion turn => turn.Meets chooser.group chooser.limit occasion) occasions
      (chooser.turns hash occasions) := by
  induction occasions generalizing chooser with
  | nil => exact .nil
  | cons occasion rest ih =>
      obtain ⟨guarded, hguarded⟩ := exists_guarded_choosePod hash chooser occasion.lister
        occasion.cancellation occasion.ambient
      have hrest := ih (chooser.choosePod hash occasion.lister occasion.cancellation
        occasion.ambient).chooser
      rw [hguarded] at hrest
      rw [turns, hguarded]
      exact .cons (meets_turn hash chooser occasion) hrest

variable {chooser : Chooser σ} {lock : Lock σ}

/-- **STEP**: a turn that finds pods chooses at the next number of the chooser's own source, and no
other turn draws from it. -/
theorem turn_of_inRange (own : chooser.guarded = .random (some lock))
    (hrange : DrawSource.InRange lock.content) (occasion : Occasion κ σ) :
    let turn := chooser.turn hash occasion
    let report := chooser.choosePod hash occasion.lister occasion.cancellation occasion.ambient
    (turn.found = [] → report.chooser.guarded = .random (some lock))
      ∧ (0 < turn.found.length →
          turn.Draws (DrawSource.draw lock.content turn.found.length).1
          ∧ ∃ next : Lock σ, report.chooser.guarded = .random (some next)
              ∧ next.content = (DrawSource.draw lock.content turn.found.length).2) := by
  intro turn report
  have hchooser : report.chooser.guarded = .random (some (lock.giveBack
      (Pick.random turn.found lock.content).source
      (Pick.random turn.found lock.content).pick.panicked)) :=
    congrArg Chooser.guarded (chooser_of_own own)
  constructor
  · intro hfound
    rw [hchooser, hfound, Pick.random_nil]
    exact congrArg (fun lock => Policy.random (some lock)) lock.giveBack_content
  · intro hlength
    obtain ⟨n, hn, hdraw⟩ := hrange.draw_eq hlength
    have hpick := Pick.random_of_draw_some hlength (Prod.ext hdraw rfl)
    have hchoice : report.choice
        = .ofPick chooser.group (Pick.random turn.found lock.content).pick :=
      choice_of_own own (List.length_pos_iff.1 hlength)
    -- The number is below the length, so it does not wrap around.
    have hindex : n % turn.found.length = n := Nat.mod_eq_of_lt hn
    rw [hpick] at hchoice hchooser
    refine ⟨⟨n, hdraw, hn, hchoice.trans ?_⟩, _, hchooser, rfl⟩
    simp only [Choice.ofPick, Selection.split, hindex]
    rfl

/-- **RUN**: the turns that find pods choose at the numbers of the source, one after another. -/
theorem draws_of_inRange (own : chooser.guarded = .random (some lock))
    (hrange : DrawSource.InRange lock.content) (occasions : List (Occasion κ σ)) :
    let drawing := Turn.drawing (chooser.turns hash occasions)
    List.Forall₂ Turn.Draws drawing
      (DrawSource.answers lock.content (drawing.map (·.found.length))) := by
  intro drawing
  induction occasions generalizing chooser lock with
  | nil => exact .nil
  | cons occasion rest ih =>
      obtain ⟨hrests, hdraws⟩ := turn_of_inRange hash own hrange occasion
      have hdrawing : drawing = Turn.drawing (chooser.turns hash (occasion :: rest)) := rfl
      rw [turns] at hdrawing
      -- A turn that finds nothing leaves the source to the next one, and any other takes a number.
      by_cases hfound : (chooser.turn hash occasion).found = []
      · rw [Turn.drawing_cons_of_nil _ hfound] at hdrawing
        rw [hdrawing]
        exact ih (hrests hfound) hrange
      · have hlength := List.length_pos_iff.2 hfound
        obtain ⟨hdraw, next, hown, hnext⟩ := hdraws hlength
        rw [Turn.drawing_cons_of_pos _ hlength] at hdrawing
        rw [hdrawing, List.map_cons, DrawSource.answers, ← hnext]
        exact .cons hdraw (ih hown (hnext ▸ hrange.next hlength))

end Turns

end Chooser

/-- **RUN**: so all turns are safe of a chooser that serves a valid configuration. -/
theorem ChooserConfig.Serves.turns {κ ε σ : Type} [Orchestrator κ ε] [Executor] [DrawSource σ]
    {config : ChooserConfig} {chooser : Chooser σ} (h : config.Serves chooser)
    (hvalid : config.validate = .ok ()) (hash : String → UInt64)
    (occasions : List (Occasion κ σ)) :
    ∀ turn ∈ chooser.turns hash occasions, turn.IsSafe config.strategy := by
  induction occasions generalizing chooser with
  | nil =>
      intro turn hturn
      exact nomatch hturn
  | cons occasion rest ih =>
      intro turn hturn
      rcases List.mem_cons.1 hturn with rfl | hturn
      · exact h.isSafe hvalid hash occasion.lister occasion.cancellation occasion.ambient
      · exact ih (h.report hash occasion.lister occasion.cancellation occasion.ambient) turn hturn

/-! ## Calls of a session -/

namespace ChoiceCall

variable {σ : Type}

/-- What a call meets. -/
def occasion (call : ChoiceCall σ) : Occasion Lister σ :=
  ⟨call.lister, call.cancellation, call.ambient⟩

variable [Executor] [DrawSource σ]

/-- What a call comes to. -/
def turn (hash : String → UInt64) (call : ChoiceCall σ) : Turn :=
  call.chooser.turn hash call.occasion

theorem Chain.turns_eq {hash : String → UInt64} {first last : Chooser σ}
    {calls : List (ChoiceCall σ)} (h : Chain hash first calls last) :
    calls.map (turn hash) = first.turns hash (calls.map occasion) := by
  induction h with
  | nil chooser => rfl
  | cons call _ ih => exact congrArg (turn hash call :: ·) ih

end ChoiceCall

/-- The calls of a session on a chooser that it built are turns of the chooser, until another takes
its name. -/
theorem Session.turns_of_build {σ : Type} [Executor] [SeededSource σ] (hash : String → UInt64)
    (session : Session σ) {name : String} {config : ChooserConfig} {key : Option AffinityKey}
    {chooser : Chooser σ} (hbuilt : config.build key = .ok chooser) {steps : List (Step σ)}
    (hsteps : ∀ s ∈ steps, s.named? ≠ some name) :
    let calls := ChoiceCall.on name
      ((session.step hash (.build name config key)).2.choiceCalls hash steps)
    calls.map (ChoiceCall.turn hash) = chooser.turns hash (calls.map ChoiceCall.occasion) := by
  intro calls
  have hchooser : (session.step hash (.build name config key)).2.chooser? name = some chooser := by
    rw [step, hbuilt]
    exact (chooser?_putChooser session name name chooser).trans (if_pos rfl)
  obtain ⟨_, hchain, _⟩ := run_callChain hash hchooser hsteps
  exact hchain.turns_eq

/-! ## Built choosers -/

/-- **BUILT CHOOSERS ARE SAFE**: a build fails for the rules that its configuration breaks, or else
for the key that a sticky one lacks, and for nothing else; a configuration read from a file breaks
none.  Whatever the calls on a built chooser meet, each comes to what its discovery can come to;
none lacks a selector or the owner of a key, and each selects for the reason of the strategy.  With
a seed whose source answers in range, those that find pods choose at its numbers, one after another.
The calls of a session on a chooser that it built are such calls, and its steps answer what they
come to. -/
theorem built_choosers_are_safe {κ ε σ : Type} [Orchestrator κ ε] [Executor] [SeededSource σ]
    (hash : String → UInt64) (config : ChooserConfig) (key : Option AffinityKey) :
    let built : Except ConfigError (Chooser σ) := config.build key
    (∀ issues, built = .error (.validation issues)
        ↔ config.validate = .error (.validation issues))
      ∧ (∀ group, built = .error (.missingAffinityKey group)
        ↔ config.validate = .ok () ∧ config.strategy = .sticky ∧ key = none
          ∧ group = config.replicaGroup)
      ∧ ((∃ chooser, built = .ok chooser)
        ↔ config.validate = .ok () ∧ (config.strategy = .sticky → key ≠ none))
      ∧ (∀ storage path, ChooserConfig.loadFile storage path = .ok config →
          ∀ issues, built ≠ .error (.validation issues))
      ∧ ∀ chooser, built = .ok chooser →
          (∀ occasions : List (Occasion κ σ),
            List.Forall₂ (fun occasion turn => turn.Meets config.group config.limit occasion)
                occasions (chooser.turns hash occasions)
              ∧ (∀ turn ∈ chooser.turns hash occasions, turn.IsSafe config.strategy)
              ∧ ∀ seed, config.seed = some seed →
                  DrawSource.InRange (SeededSource.ofSeed seed : σ) →
                  let drawing := Turn.drawing (chooser.turns hash occasions)
                  List.Forall₂ Turn.Draws drawing (DrawSource.answers
                    (SeededSource.ofSeed seed : σ) (drawing.map (·.found.length))))
          ∧ ∀ (session : Session σ) (name : String) (steps : List (Step σ)),
              (∀ s ∈ steps, s.named? ≠ some name) →
              let built := (session.step hash (.build name config key)).2
              let calls := ChoiceCall.on name (built.choiceCalls hash steps)
              calls.map (ChoiceCall.turn hash) = chooser.turns hash (calls.map ChoiceCall.occasion)
                ∧ ∀ earlier s later, steps = earlier ++ s :: later → s.isChoice = true →
                    let now := (built.run hash earlier).2
                    ∃ report, (built.run hash steps).1[earlier.length]? = some report
                      ∧ now.Answers s ((now.stepCalls hash s).map (·.report hash)) report := by
  intro built
  have hbuilds : ChooserConfig.Builds config key built := ChooserConfig.builds_build config key
  refine ⟨fun issues => hbuilds.eq_validation_iff, fun group => hbuilds.eq_missingAffinityKey_iff,
    hbuilds.exists_ok_iff, ?_, ?_⟩
  · intro storage path hload issues hbuilt
    have hrefused := hbuilds.eq_validation_iff.1 hbuilt
    rw [ChooserConfig.valid_of_loadFile hload] at hrefused
    exact nomatch hrefused
  · intro chooser hbuilt
    have hsession := hbuilt
    rw [hbuilt] at hbuilds
    obtain ⟨hvalid, hserves⟩ := hbuilds.serves
    constructor
    · intro occasions
      refine ⟨?_, hserves.turns hvalid hash occasions, ?_⟩
      · have hmeets := Chooser.meets_turns hash chooser occasions
        rwa [hserves.group_eq, hserves.limit_eq] at hmeets
      · intro seed hseed hrange
        exact Chooser.draws_of_inRange hash (hbuilds.guarded_of_seed hseed) hrange occasions
    · intro session name steps hsteps built calls
      refine ⟨session.turns_of_build hash hsession hsteps, ?_⟩
      rintro earlier s later rfl hs
      exact Session.answers_run hash built hs

/-- A call that is given up costs a seeded chooser nothing: the next one draws the first number. -/
theorem seeded_chooser_draws_after_cancellation :
    let config : ChooserConfig := ⟨"web", .random, 128, none, some 7⟩
    let group : ReplicaGroup := ⟨"web"⟩
    let chooser : Chooser AnySource := .new group none (.random (some (.seeded (.ofSeed 7))))
    let lister : Lister := .ofPods [.ofGroup group "b", .ofGroup group "a"]
    let occasions : List (Occasion Lister AnySource) :=
      [⟨lister, .before, .turning ⟨0⟩⟩, ⟨lister, .during .never, .turning ⟨0⟩⟩]
    config.build none = .ok chooser
      ∧ DrawSource.InRange (SeededSource.ofSeed 7 : AnySource)
      ∧ ∃ turn, Turn.drawing (chooser.turns (fun _ => 0) occasions) = [turn]
          ∧ turn.choice = .selected ⟨.ofGroup group "a", [.ofGroup group "b"], .random⟩ := by
  intro config group chooser lister occasions
  have hvalid : config.validate = .ok () := by cbv
  have hbuilt : config.build none = .ok chooser := by
    rw [ChooserConfig.build, hvalid]
    rfl
  have hrange : DrawSource.InRange (SeededSource.ofSeed 7 : AnySource) :=
    AnySource.inRange_seeded (.ofSeed 7)
  obtain ⟨_, _, _, _, hruns⟩ :=
    @built_choosers_are_safe Lister String AnySource _ _ _ (fun _ => 0) config none
  obtain ⟨hoccasions, _⟩ := hruns chooser hbuilt
  obtain ⟨hmeets, _, hseeded⟩ := hoccasions occasions
  have hnumbers : DrawSource.answers (SeededSource.ofSeed 7 : AnySource) [2] = [some 0] := by
    decide +kernel
  -- The first call finds nothing, and the second the two pods.
  obtain ⟨early, _, hearly, hlater, hturns⟩ := List.forall₂_cons_left_iff.1 hmeets
  obtain ⟨late, _, hlate, hnil, rfl⟩ := List.forall₂_cons_left_iff.1 hlater
  obtain rfl := List.forall₂_nil_left_iff.1 hnil
  have hnone : early.found = [] := hearly.found_eq Cancellation.not_ties_before
  have htwo : late.found = [.ofGroup group "a", .ofGroup group "b"] :=
    (hlate.found_eq Cancellation.not_ties_never).trans (by cbv)
  have hdrawing : Turn.drawing (chooser.turns (fun _ => 0) occasions) = [late] := by
    rw [hturns, Turn.drawing_cons_of_nil _ hnone, Turn.drawing_cons_of_pos _ (by rw [htwo]; decide)]
    rfl
  refine ⟨hbuilt, hrange, late, hdrawing, ?_⟩
  have hdraws := hseeded 7 rfl hrange
  rw [hdrawing] at hdraws
  replace hdraws : List.Forall₂ Turn.Draws [late]
    (DrawSource.answers (SeededSource.ofSeed 7 : AnySource) [late.found.length]) := hdraws
  rw [htwo] at hdraws
  replace hdraws : List.Forall₂ Turn.Draws [late]
    (DrawSource.answers (SeededSource.ofSeed 7 : AnySource) [2]) := hdraws
  rw [hnumbers] at hdraws
  obtain ⟨n, hn, _, hchoice⟩ := (List.forall₂_cons.1 hdraws).1
  obtain rfl := Option.some.inj hn
  obtain ⟨found, choice⟩ := late
  obtain rfl := htwo
  exact hchoice

end PodPlacement
