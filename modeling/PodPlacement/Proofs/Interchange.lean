import PodPlacement.Proofs.ListingRace

/-! # Interchange — what a choice does not owe to its policy

    A choice is a discovery and a pick.  The discovery does not know the
    policy, and no policy picks from an empty set or leaves another unpicked, as
    long as its draws are answered.  On the same terms two policies therefore
    fail with the same error, or select from the same pods.

    The route:

    * what decides a discovery is said in moments (`Answered`, `GivenUp`,
      `Endless`); its outcome tells who decided (`findsNone_of_outcome`,
      `givenUp_of_outcome`), and without a tie the moments tell the outcome
      (`outcome_eq_nil_iff`, `outcome_eq_cancelled_iff`);
    * whether the listing ran to its end tells even in a tie whether it was
      answered (`outcome_eq_nil_iff_calls`);
    * of what a choice can make of the outcome (`Choice.ComesOf`) the draws
      alone leave open which pod is chosen (`Choice.ComesOf.alike`), whatever
      the policy.

    Main statement: `policies_differ_in_the_pick_alone`. -/

namespace PodPlacement

/-! ## What decides a discovery -/

namespace Discovery

section Deciding

variable {κ ε : Type} [Orchestrator κ ε] (lister : κ) (group : ReplicaGroup) (limit : Option Span)

/-- The answer to the listing for a group can decide a discovery: nothing comes before it. -/
def Answered : Cancellation → Prop
  | .before => False
  | .during moment =>
    Verdict.Ends (Orchestrator.delay lister (.ofGroup group)) moment limit .answered

/-- The caller's giving up can decide it: before the call, or if nothing comes before. -/
def GivenUp : Cancellation → Prop
  | .before => True
  | .during moment =>
    Verdict.Ends (Orchestrator.delay lister (.ofGroup group)) moment limit .cancelled

/-- Neither an answer nor a cancellation nor the end of a limit ever comes. -/
def Endless : Cancellation → Prop
  | .before => False
  | .during moment => Orchestrator.delay lister (.ofGroup group) = .never ∧ moment = .never
      ∧ limit = none

/-- The listing for a group is answered without error, and no pod of it runs. -/
def ListsNone : Prop :=
  ∃ listed, Orchestrator.answer lister (.ofGroup group) = .ok listed
    ∧ ∀ pod ∈ listed, ¬ (pod.phase = .running ∧ pod.deletedAt = none)

end Deciding

theorem runningOf_eq_nil_iff {listed : List Pod} :
    runningOf listed = [] ↔ ∀ pod ∈ listed, ¬ (pod.phase = .running ∧ pod.deletedAt = none) := by
  rw [runningOf, List.filter_eq_nil_iff]
  exact forall₂_congr fun pod _ => not_congr decide_eq_true_iff

section Outcomes

variable {κ ε : Type} [Orchestrator κ ε] [Executor] {lister : κ} {group : ReplicaGroup}
  {limit : Option Span} {cancellation : Cancellation}

/-- A discovery fails for want of a selector exactly if the group's name is no label value. -/
theorem outcome_eq_invalidSelector_iff {cause : SelectorError} :
    (discover lister group cancellation limit).outcome = some (.error (.invalidSelector cause))
      ↔ LabelValue.check group.name = .error cause := by
  constructor
  · intro h
    have hdiscovers := discovers_discover lister group limit cancellation
    rw [h] at hdiscovers
    generalize (discover lister group cancellation limit).calls = calls at hdiscovers
    cases hdiscovers with
    | invalid _ refused => exact refused
  · intro h
    rw [discover_of_invalid lister cancellation limit h]

/-- Whoever finds nothing has been answered in time, with pods none of which runs. -/
theorem findsNone_of_outcome
    (h : (discover lister group cancellation limit).outcome = some (.ok [])) :
    LabelValue.check group.name = .ok () ∧ Answered lister group limit cancellation
      ∧ ListsNone lister group := by
  have hdiscovers := discovers_discover lister group limit cancellation
  rw [h] at hdiscovers
  generalize (discover lister group cancellation limit).calls = calls at hdiscovers
  cases hdiscovers with
  | found valid first answer running =>
      exact ⟨valid, first, _, answer, runningOf_eq_nil_iff.1 running.perm.nil_eq.symm⟩

/-- Without a tie, whoever is answered so finds nothing. -/
theorem outcome_eq_nil_iff (hties : ¬ cancellation.Ties lister group limit) :
    (discover lister group cancellation limit).outcome = some (.ok [])
      ↔ LabelValue.check group.name = .ok () ∧ Answered lister group limit cancellation
          ∧ ListsNone lister group := by
  refine ⟨findsNone_of_outcome, fun ⟨valid, first, listed, answer, hnone⟩ => ?_⟩
  have hrunning : InNameOrder (runningOf listed) [] := by
    rw [runningOf_eq_nil_iff.2 hnone]
    exact ⟨.refl _, .nil, fun _ => rfl⟩
  cases cancellation with
  | before => exact first.elim
  | during moment =>
      have hfound : Discovers lister group limit (.during moment) (some (.ok [])) _ :=
        .found valid first answer hrunning
      exact (hfound.eq_discover hties).1.symm

/-- Tie or no tie, a discovery finds nothing exactly if its listing ran to the end and lists
nothing that runs. -/
theorem outcome_eq_nil_iff_calls :
    (discover lister group cancellation limit).outcome = some (.ok [])
      ↔ (discover lister group cancellation limit).calls = [⟨.ofGroup group, true⟩]
          ∧ ListsNone lister group := by
  have hdiscovers := discovers_discover lister group limit cancellation
  constructor
  · intro h
    refine ⟨?_, (findsNone_of_outcome h).2.2⟩
    rw [h] at hdiscovers
    generalize (discover lister group cancellation limit).calls = calls at hdiscovers ⊢
    cases hdiscovers with
    | found _ _ _ _ => rfl
  · rintro ⟨h, listed, hanswer, hnone⟩
    rw [h] at hdiscovers
    generalize (discover lister group cancellation limit).outcome = outcome at hdiscovers ⊢
    cases hdiscovers with
    | failed _ _ answer => exact nomatch hanswer.symm.trans answer
    | found _ _ answer running =>
        obtain rfl := Except.ok.inj (hanswer.symm.trans answer)
        rw [runningOf_eq_nil_iff.2 hnone] at running
        rw [running.perm.eq_nil]

/-- Whoever fails as cancelled has been given up by the caller. -/
theorem givenUp_of_outcome {name : String}
    (h : (discover lister group cancellation limit).outcome = some (.error (.cancelled name))) :
    (LabelValue.check group.name = .ok () ∧ GivenUp lister group limit cancellation)
      ∧ name = group.name := by
  have hdiscovers := discovers_discover lister group limit cancellation
  rw [h] at hdiscovers
  generalize (discover lister group cancellation limit).calls = calls at hdiscovers
  cases hdiscovers with
  | cancelledBefore valid => exact ⟨⟨valid, trivial⟩, rfl⟩
  | cancelled valid first => exact ⟨⟨valid, first⟩, rfl⟩

/-- Without a tie, whoever is given up fails as cancelled. -/
theorem outcome_eq_cancelled_iff (hties : ¬ cancellation.Ties lister group limit) :
    (discover lister group cancellation limit).outcome = some (.error (.cancelled group.name))
      ↔ LabelValue.check group.name = .ok () ∧ GivenUp lister group limit cancellation := by
  refine ⟨fun h => (givenUp_of_outcome h).1, fun ⟨valid, first⟩ => ?_⟩
  cases cancellation with
  | before => rw [discover_of_before lister limit valid]; rfl
  | during moment =>
      have hcancelled : Discovers lister group limit (.during moment) _ _ := .cancelled valid first
      exact (hcancelled.eq_discover hties).1.symm

/-- A discovery waits for ever exactly if nothing ever comes. -/
theorem outcome_eq_none_iff :
    (discover lister group cancellation limit).outcome = none
      ↔ LabelValue.check group.name = .ok () ∧ Endless lister group limit cancellation := by
  constructor
  · intro h
    have hdiscovers := discovers_discover lister group limit cancellation
    rw [h] at hdiscovers
    generalize (discover lister group cancellation limit).calls = calls at hdiscovers
    cases hdiscovers with
    | waiting valid first =>
        cases first with
        | undecided unanswered uncancelled unlimited =>
            exact ⟨valid, unanswered, uncancelled, unlimited⟩
  · rintro ⟨valid, hendless⟩
    cases cancellation with
    | before => exact hendless.elim
    | during moment =>
        obtain ⟨unanswered, rfl, rfl⟩ := hendless
        have hwaiting : Discovers lister group none (.during .never) _ _ :=
          .waiting valid (.undecided unanswered rfl rfl)
        exact (hwaiting.eq_discover Cancellation.not_ties_never).1.symm

end Outcomes

end Discovery

/-! ## What a choice comes to -/

/-- Answers the next draw, from however many it is. -/
def DrawSource.Answers {σ : Type} [DrawSource σ] (source : σ) : Prop :=
  ∀ len, 0 < len → (DrawSource.draw source len).1 ≠ none

/-- Two choices that differ in the pick alone: both select from the same pods, or both fail with the
same error, or both wait. -/
inductive Choice.Alike {ε : Type} : Choice ε → Choice ε → Prop where
  | selected {a b : Selection} (pool : (a.chosen :: a.others).Perm (b.chosen :: b.others)) :
      Alike (.selected a) (.selected b)
  | failed (e : ChooseError ε) : Alike (.failed e) (.failed e)
  | waits : Alike .waits .waits

namespace Choice.ComesOf

variable {ε : Type} {group : ReplicaGroup}
  {outcome : Option (Except (DiscoveryError ε) (List Pod))} {choice choice' : Choice ε}

/-- Of one outcome two choices can only make what is alike, unless a draw fails. -/
theorem alike (h : ComesOf group outcome choice) (h' : ComesOf group outcome choice')
    (hanswers : choice ≠ .drawFailed) (hanswers' : choice' ≠ .drawFailed) :
    Alike choice choice' := by
  cases h with
  | waits =>
      cases h' with
      | waits => exact .waits
  | fails e =>
      cases h' with
      | fails _ => exact .failed _
  | unavailable =>
      cases h' with
      | unavailable => exact .failed _
      | selects index _ => exact index.elim0
      | drawFails offers => exact absurd rfl offers
  | @selects pods index reason =>
      cases h' with
      | unavailable => exact index.elim0
      | selects index' reason' =>
          exact .selected ((Selection.perm_pool_split pods index reason).trans
            (Selection.perm_pool_split pods index' reason').symm)
      | drawFails _ => exact absurd rfl hanswers'
  | drawFails _ => exact absurd rfl hanswers

/-- A choice waits exactly if its discovery does. -/
theorem eq_waits_iff (h : ComesOf group outcome choice) : choice = .waits ↔ outcome = none := by
  cases h with
  | waits => exact ⟨fun _ => rfl, fun _ => rfl⟩
  | fails _ => exact ⟨nofun, nofun⟩
  | unavailable => exact ⟨nofun, nofun⟩
  | selects _ _ => exact ⟨nofun, nofun⟩
  | drawFails _ => exact ⟨nofun, nofun⟩

/-- A choice fails with its discovery, or because that finds nothing. -/
theorem outcome_of_failed {e : ChooseError ε} (h : ComesOf group outcome (.failed e)) :
    (∃ cause, e = .discovery cause ∧ outcome = some (.error cause))
      ∨ e = .noRunningPods group.name ∧ outcome = some (.ok []) := by
  cases h with
  | fails cause => exact Or.inl ⟨cause, rfl, rfl⟩
  | unavailable => exact Or.inr ⟨rfl, rfl⟩

/-- An error says unavailable exactly if the discovery finds nothing. -/
theorem isUnavailable_iff {e : ChooseError ε} (h : ComesOf group outcome (.failed e)) :
    e.isUnavailable = true ↔ outcome = some (.ok []) := by
  obtain ⟨cause, rfl, rfl⟩ | ⟨rfl, rfl⟩ := h.outcome_of_failed
  · exact ⟨nofun, nofun⟩
  · exact ⟨fun _ => rfl, fun _ => rfl⟩

/-- It says cancelled exactly if the discovery ends so. -/
theorem isCancelled_iff {e : ChooseError ε} (h : ComesOf group outcome (.failed e)) :
    e.isCancelled = true ↔ ∃ name, outcome = some (.error (.cancelled name)) := by
  obtain ⟨cause, rfl, rfl⟩ | ⟨rfl, rfl⟩ := h.outcome_of_failed
  · cases cause <;> simp [ChooseError.isCancelled]
  · simp [ChooseError.isCancelled]

end Choice.ComesOf

/-! ## Two policies on the same terms -/

section Policies

variable {κ σ ε : Type} [Orchestrator κ ε] [Executor] [DrawSource σ]

/-- While its source answers, no choice fails with a draw. -/
theorem Chooser.choice_ne_drawFailed (hash : String → UInt64) (chooser : Chooser σ) (lister : κ)
    (cancellation : Cancellation) (ambient : σ)
    (hanswers : DrawSource.Answers (chooser.policy.source ambient)) :
    (chooser.choosePod hash lister cancellation ambient).choice ≠ .drawFailed := by
  intro h
  obtain ⟨pods, _, hpick⟩ := pick_of_drawFailed h
  obtain ⟨offers, hdraw⟩ := Policy.draw_source_of_pick_drawFailed hash chooser.group hpick
  exact hanswers pods.length offers hdraw

/-- **POLICIES DIFFER IN THE PICK ALONE**: a random and a sticky choice on the same terms, none of
whose draws fails, select from the same pods or fail with the same error; only where nothing ever
comes neither ends.  A choice of any policy that fails is unavailable exactly if the listing ran to
its end and no pod of it runs, and cancelled exactly if its discovery is.  The answer, or the
caller's giving up, is then a first event; and unless the cancellation ties, the first event decides
which of the two it is. -/
theorem policies_differ_in_the_pick_alone (hash : String → UInt64) (lister : κ)
    (group : ReplicaGroup) (limit : Option Span) (cancellation : Cancellation)
    (own : Option (Lock σ)) (key : AffinityKey) (points : Nat) (ambient ambient' : σ)
    (hrandom : DrawSource.Answers ((own.map Lock.content).getD ambient))
    (hsticky : DrawSource.Answers ambient') :
    let reportOf (guarded : Policy (Lock σ)) (ambient : σ) : ChoiceReport σ ε :=
      Chooser.choosePod hash ⟨group, limit, guarded⟩ lister cancellation ambient
    Choice.Alike (reportOf (.random own) ambient).choice
        (reportOf (.sticky key points) ambient').choice
      ∧ ((reportOf (.random own) ambient).choice = .waits ↔ LabelValue.check group.name = .ok ()
          ∧ Discovery.Endless lister group limit cancellation)
      ∧ ∀ (guarded : Policy (Lock σ)) (ambient : σ) (e : ChooseError ε),
          (reportOf guarded ambient).choice = .failed e →
          (e.isUnavailable = true
              ↔ (reportOf guarded ambient).calls = [⟨.ofGroup group, true⟩]
                ∧ Discovery.ListsNone lister group)
            ∧ (e.isCancelled = true
              ↔ (discover lister group cancellation limit).outcome
                = some (.error (.cancelled group.name)))
            ∧ (e.isUnavailable = true → LabelValue.check group.name = .ok ()
                ∧ Discovery.Answered lister group limit cancellation)
            ∧ (e.isCancelled = true → LabelValue.check group.name = .ok ()
                ∧ Discovery.GivenUp lister group limit cancellation)
            ∧ (¬ cancellation.Ties lister group limit →
                (e.isUnavailable = true ↔ LabelValue.check group.name = .ok ()
                    ∧ Discovery.Answered lister group limit cancellation
                    ∧ Discovery.ListsNone lister group)
                  ∧ (e.isCancelled = true ↔ LabelValue.check group.name = .ok ()
                    ∧ Discovery.GivenUp lister group limit cancellation))
            ∧ ¬ (e.isUnavailable = true ∧ e.isCancelled = true)
            ∧ ∀ cause, e = .discovery cause → (∀ name, cause ≠ .cancelled name) →
                e.isUnavailable = false ∧ e.isCancelled = false := by
  intro reportOf
  have hcomes (guarded : Policy (Lock σ)) (ambient : σ) :
      Choice.ComesOf group (discover lister group cancellation limit).outcome
        (reportOf guarded ambient).choice :=
    Chooser.comesOf_choosePod hash ⟨group, limit, guarded⟩ lister cancellation ambient
  refine ⟨?_, (hcomes _ _).eq_waits_iff.trans Discovery.outcome_eq_none_iff, ?_⟩
  · exact (hcomes _ _).alike (hcomes _ _)
      (Chooser.choice_ne_drawFailed hash ⟨group, limit, .random own⟩ lister cancellation ambient
        hrandom)
      (Chooser.choice_ne_drawFailed hash ⟨group, limit, .sticky key points⟩ lister cancellation
        ambient' hsticky)
  · intro guarded ambient e he
    have hfailed := hcomes guarded ambient
    rw [he] at hfailed
    have hunavailable := hfailed.isUnavailable_iff
    have hcancelled : e.isCancelled = true
        ↔ (discover lister group cancellation limit).outcome
          = some (.error (.cancelled group.name)) := by
      refine hfailed.isCancelled_iff.trans ⟨fun ⟨name, h⟩ => ?_, fun h => ⟨_, h⟩⟩
      obtain ⟨_, rfl⟩ := Discovery.givenUp_of_outcome h
      exact h
    have hcalls : (reportOf guarded ambient).calls
        = (discover lister group cancellation limit).calls :=
      (Chooser.follows_choosePod hash ⟨group, limit, guarded⟩ lister cancellation ambient).calls
    refine ⟨?_, hcancelled, ?_, ?_, fun hties => ?_, ?_, ?_⟩
    · rw [hcalls]
      exact hunavailable.trans Discovery.outcome_eq_nil_iff_calls
    · intro h
      obtain ⟨valid, first, _⟩ := Discovery.findsNone_of_outcome (hunavailable.1 h)
      exact ⟨valid, first⟩
    · intro h
      exact (Discovery.givenUp_of_outcome (hcancelled.1 h)).1
    · exact ⟨hunavailable.trans (Discovery.outcome_eq_nil_iff hties),
        hcancelled.trans (Discovery.outcome_eq_cancelled_iff hties)⟩
    · cases e <;> simp [ChooseError.isUnavailable, ChooseError.isCancelled]
    · rintro cause rfl hcause
      refine ⟨rfl, ?_⟩
      cases cause with
      | cancelled name => exact absurd rfl (hcause name)
      | _ => rfl

end Policies

/-- Of two pods a draw chooses one and a ring without points leaves the other, from the same two. -/
theorem policies_share_two_pods :
    let group : ReplicaGroup := ⟨"web"⟩
    let lister : Lister := .ofPods [.ofGroup group "b", .ofGroup group "a"]
    let source : AnySource := .scripted (.ofAnswers [some 5])
    let limit : Option Span := some (.ofMilliseconds 1)
    let random : Chooser AnySource := .new group limit (.random (some source))
    let sticky : Chooser AnySource := .new group limit (.sticky ⟨"key"⟩ 0)
    let drawn := (random.choosePod (fun _ => 0) lister (.during (.tick 1)) (.turning ⟨0⟩)).choice
    let pinned := (sticky.choosePod (fun _ => 0) lister (.during (.tick 1)) (.turning ⟨0⟩)).choice
    drawn = .selected ⟨.ofGroup group "b", [.ofGroup group "a"], .random⟩
      ∧ pinned = .selected ⟨.ofGroup group "a", [.ofGroup group "b"], .stickyFallback⟩
      ∧ Choice.Alike drawn pinned := by
  intro group lister source limit random sticky drawn pinned
  have hscript : DrawSource.Answers source := fun _ _ h => nomatch h
  have hcarousel : DrawSource.Answers (AnySource.turning ⟨0⟩) := fun _ _ h => nomatch h
  have hdrawn : (random.choosePod (fun _ => 0) lister (.during (.tick 1)) (.turning ⟨0⟩)).choice
      = .selected ⟨.ofGroup group "b", [.ofGroup group "a"], .random⟩ := by cbv
  have hpinned : (sticky.choosePod (fun _ => 0) lister (.during (.tick 1)) (.turning ⟨0⟩)).choice
      = .selected ⟨.ofGroup group "a", [.ofGroup group "b"], .stickyFallback⟩ := by cbv
  refine ⟨hdrawn, hpinned, ?_⟩
  exact (policies_differ_in_the_pick_alone (fun _ => 0) lister group limit (.during (.tick 1))
    (some (.new source)) ⟨"key"⟩ 0 (.turning ⟨0⟩) (.turning ⟨0⟩) hscript hcarousel).1

end PodPlacement
