import Mathlib
import PodPlacement.Chooser.Basic
import PodPlacement.Discovery.IdleClock
import PodPlacement.Proofs.RunningSet

/-! # Picks — a selection is a partition of the running set

    Every policy picks by an index into the discovered pods: a random one by
    the draw wrapped around, a sticky one by the place of the key's owner, and
    by a draw again where the ring owns nothing.  `Randomly` and `Stickily` list
    what the two can come to, and `isSplit_of_pick` says so for all policies at
    once; that the chosen pod put back in its place gives the discovered pods
    again is then a fact about splits (`insertIdx_split`).

    A choice is what the policy picks from the pods that its discovery finds,
    and what the discovery fails with otherwise (`follows_choosePod`).

    Main statement: `selection_partitions_running_set`. -/

namespace PodPlacement

namespace Selection

/-- The chosen pod, put back in its place, completes the pods again. -/
theorem insertIdx_split (pods : List Pod) (index : Fin pods.length) (reason : SelectionReason) :
    (split pods index reason).others.insertIdx index (split pods index reason).chosen = pods :=
  List.insertIdx_eraseIdx_getElem index.isLt

theorem length_others_split (pods : List Pod) (index : Fin pods.length)
    (reason : SelectionReason) : (split pods index reason).others.length + 1 = pods.length :=
  poolSize_split pods index reason

theorem mem_split (pods : List Pod) (index : Fin pods.length) (reason : SelectionReason)
    {pod : Pod} (h : pod ∈ (split pods index reason).pool) : pod ∈ pods :=
  (perm_pool_split pods index reason).mem_iff.1 h

/-- Where all names differ, the chosen pod is not left among the others. -/
theorem chosen_notMem_others_split {pods : List Pod} (hnames : (pods.map Pod.name).Nodup)
    (index : Fin pods.length) (reason : SelectionReason) :
    (split pods index reason).chosen ∉ (split pods index reason).others := by
  have hpods : pods.Nodup :=
    List.Pairwise.of_map Pod.name (fun _ _ hne heq => hne (congrArg Pod.name heq)) hnames
  exact (List.nodup_cons.1 ((perm_pool_split pods index reason).nodup_iff.2 hpods)).1

end Selection

namespace Pick

variable {σ : Type} [DrawSource σ]

/-! ## Random picks -/

theorem random_nil (source : σ) : random [] source = ⟨.emptySet, [], source⟩ := rfl

/-- A draw that fails makes the pick fail, and is used up. -/
theorem random_of_draw_none {pods : List Pod} {source next : σ} (hpods : 0 < pods.length)
    (h : DrawSource.draw source pods.length = (none, next)) :
    random pods source = ⟨.drawFailed, [], next⟩ := by
  rw [random, dif_pos hpods, h]

/-- A draw chooses the pod at the number drawn, wrapped around. -/
theorem random_of_draw_some {pods : List Pod} {source next : σ} {n : Nat}
    (hpods : 0 < pods.length) (h : DrawSource.draw source pods.length = (some n, next)) :
    random pods source
      = ⟨.selected (.split pods ⟨n % pods.length, Nat.mod_lt n hpods⟩ .random),
          [drawnEvent pods.length (n % pods.length)], next⟩ := by
  rw [random, dif_pos hpods, h]

/-- What a random pick can come to: there is nothing to draw for, or one draw decides. -/
inductive Randomly (pods : List Pod) (source : σ) : PickReport σ → Prop where
  | empty (none : pods = []) : Randomly pods source ⟨.emptySet, [], source⟩
  | failed {next : σ} (offers : 0 < pods.length)
      (fails : DrawSource.draw source pods.length = (none, next)) :
      Randomly pods source ⟨.drawFailed, [], next⟩
  | drawn {next : σ} {n : Nat} (offers : 0 < pods.length)
      (draws : DrawSource.draw source pods.length = (some n, next)) :
      Randomly pods source
        ⟨.selected (.split pods ⟨n % pods.length, Nat.mod_lt n offers⟩ .random),
          [drawnEvent pods.length (n % pods.length)], next⟩

theorem randomly_random (pods : List Pod) (source : σ) :
    Randomly pods source (random pods source) := by
  by_cases hpods : pods = []
  · subst hpods
    exact .empty rfl
  · have offers : 0 < pods.length := List.length_pos_iff.2 hpods
    cases hdraw : DrawSource.draw source pods.length with
    | mk answer next =>
        cases answer with
        | none =>
            rw [random_of_draw_none offers hdraw]
            exact .failed offers hdraw
        | some n =>
            rw [random_of_draw_some offers hdraw]
            exact .drawn offers hdraw

/-- Selects one of these pods and leaves the others, if it selects at all. -/
def IsSplit (pods : List Pod) (pick : Pick) : Prop :=
  ∀ selection, pick = .selected selection →
    ∃ (index : Fin pods.length) (reason : SelectionReason), selection = .split pods index reason

namespace Randomly

variable {pods : List Pod} {source : σ} {report : PickReport σ}

/-- A pick that fails is one for which the draw failed. -/
theorem draw_of_drawFailed (h : Randomly pods source report) (hpick : report.pick = .drawFailed) :
    0 < pods.length ∧ (DrawSource.draw source pods.length).1 = none := by
  cases h with
  | empty none => exact nomatch hpick
  | failed offers fails => exact ⟨offers, congrArg Prod.fst fails⟩
  | drawn offers draws => exact nomatch hpick

/-- Only the empty set is called empty. -/
theorem eq_nil_of_emptySet (h : Randomly pods source report) (hpick : report.pick = .emptySet) :
    pods = [] := by
  cases h with
  | empty none => exact none
  | failed offers fails => exact nomatch hpick
  | drawn offers draws => exact nomatch hpick

theorem eq_split (h : Randomly pods source report) {selection : Selection}
    (hpick : report.pick = .selected selection) :
    ∃ index : Fin pods.length, selection = .split pods index .random := by
  cases h with
  | empty none => exact nomatch hpick
  | failed offers fails => exact nomatch hpick
  | drawn offers draws => exact ⟨_, (Pick.selected.inj hpick).symm⟩

end Randomly

/-! ## Sticky picks -/

section Because

variable {pick : Pick} {reason : SelectionReason}

theorem selected_of_because {selection : Selection}
    (h : pick.because reason = .selected selection) :
    ∃ found, pick = .selected found ∧ selection = { found with reason } := by
  cases pick with
  | selected found => exact ⟨found, rfl, (Pick.selected.inj h).symm⟩
  | emptySet => exact nomatch h
  | drawFailed => exact nomatch h

theorem emptySet_of_because (h : pick.because reason = .emptySet) : pick = .emptySet := by
  cases pick with
  | selected found => exact nomatch h
  | emptySet => rfl
  | drawFailed => exact nomatch h

theorem drawFailed_of_because (h : pick.because reason = .drawFailed) : pick = .drawFailed := by
  cases pick with
  | selected found => exact nomatch h
  | emptySet => exact nomatch h
  | drawFailed => rfl

end Because

section Sticky

variable (hash : String → UInt64) (points : Nat) (key : AffinityKey) (group : ReplicaGroup)

theorem sticky_nil (source : σ) :
    sticky hash points key group [] source = ⟨.emptySet, [], source⟩ := rfl

/-- A key with an owner is given to its pod; nothing is drawn. -/
theorem sticky_of_owner {pods : List Pod} {index : Fin pods.length} (source : σ)
    (h : ownerIndex? hash points key pods = some index) :
    sticky hash points key group pods source
      = ⟨.selected (.split pods index .stickyHash), [ownerEvent key (pods.get index)], source⟩ := by
  have hpods : ¬ pods.isEmpty = true := fun hempty =>
    List.ne_nil_of_length_pos index.pos (List.isEmpty_iff.1 hempty)
  rw [sticky, if_neg hpods, h]

/-- A key without an owner is given to a pod picked at random. -/
theorem sticky_of_no_owner {pods : List Pod} (source : σ) (hpods : pods ≠ [])
    (h : ownerIndex? hash points key pods = none) :
    sticky hash points key group pods source
      = ⟨(random pods source).pick.because .stickyFallback,
          fallbackEvent key group pods.length :: (random pods source).events,
          (random pods source).source⟩ := by
  rw [sticky, if_neg (fun hempty => hpods (List.isEmpty_iff.1 hempty)), h]

/-- What a sticky pick can come to: there is nothing to pick from, or the key has an owner, or a
random pick takes the owner's place. -/
inductive Stickily (pods : List Pod) (source : σ) : PickReport σ → Prop where
  | empty (none : pods = []) : Stickily pods source ⟨.emptySet, [], source⟩
  | owner {index : Fin pods.length} (owns : ownerIndex? hash points key pods = some index) :
      Stickily pods source
        ⟨.selected (.split pods index .stickyHash), [ownerEvent key (pods.get index)], source⟩
  | fallback {report : PickReport σ} (offers : 0 < pods.length)
      (lacks : ownerIndex? hash points key pods = none) (random : Randomly pods source report) :
      Stickily pods source
        ⟨report.pick.because .stickyFallback,
          fallbackEvent key group pods.length :: report.events, report.source⟩

theorem stickily_sticky (pods : List Pod) (source : σ) :
    Stickily hash points key group pods source
      (sticky hash points key group pods source) := by
  by_cases hpods : pods = []
  · subst hpods
    exact .empty rfl
  · cases howner : ownerIndex? hash points key pods with
    | some index =>
        rw [sticky_of_owner hash points key group source howner]
        exact .owner howner
    | none =>
        rw [sticky_of_no_owner hash points key group source hpods howner]
        exact .fallback (List.length_pos_iff.2 hpods) howner (randomly_random pods source)

namespace Stickily

variable {hash points key group} {pods : List Pod} {source : σ} {report : PickReport σ}

theorem eq_split (h : Stickily hash points key group pods source report) {selection : Selection}
    (hpick : report.pick = .selected selection) :
    ∃ (index : Fin pods.length) (reason : SelectionReason),
      selection = .split pods index reason := by
  cases h with
  | empty none => exact nomatch hpick
  | owner owns => exact ⟨_, .stickyHash, (Pick.selected.inj hpick).symm⟩
  | fallback offers lacks random =>
      obtain ⟨found, hfound, rfl⟩ := selected_of_because hpick
      obtain ⟨index, rfl⟩ := random.eq_split hfound
      exact ⟨index, .stickyFallback, rfl⟩

theorem eq_nil_of_emptySet (h : Stickily hash points key group pods source report)
    (hpick : report.pick = .emptySet) : pods = [] := by
  cases h with
  | empty none => exact none
  | owner owns => exact nomatch hpick
  | fallback offers lacks random => exact random.eq_nil_of_emptySet (emptySet_of_because hpick)

/-- Of a sticky policy only the draw of the fallback can fail. -/
theorem draw_of_drawFailed (h : Stickily hash points key group pods source report)
    (hpick : report.pick = .drawFailed) :
    0 < pods.length ∧ (DrawSource.draw source pods.length).1 = none := by
  cases h with
  | empty none => exact nomatch hpick
  | owner owns => exact nomatch hpick
  | fallback offers lacks random => exact random.draw_of_drawFailed (drawFailed_of_because hpick)

end Stickily

end Sticky

end Pick

namespace Policy

variable {σ : Type}

/-- The source that a policy draws from, where it draws. -/
def source (ambient : σ) : Policy σ → σ
  | .random source => source.getD ambient
  | .sticky .. => ambient

variable [DrawSource σ] (hash : String → UInt64) (group : ReplicaGroup)

/-- A random policy picks with its own source, poisoned or not, or else with the ambient one. -/
theorem exists_randomly_pick (own : Option (Lock σ)) (pods : List Pod) (ambient : σ) :
    ∃ report, Pick.Randomly pods ((own.map Lock.content).getD ambient) report
      ∧ ((Policy.random own).pick hash group pods ambient).pick = report.pick
      ∧ ((Policy.random own).pick hash group pods ambient).events = report.events := by
  cases own with
  | none => exact ⟨_, Pick.randomly_random pods ambient, rfl, rfl⟩
  | some lock =>
      refine ⟨_, Pick.randomly_random pods lock.content, ?_, ?_⟩
      · rw [pick, Lock.recover_take]
      · rw [pick, Lock.recover_take]

theorem isSplit_of_pick (policy : Policy (Lock σ)) (pods : List Pod) (ambient : σ) :
    Pick.IsSplit pods (policy.pick hash group pods ambient).pick := by
  intro selection h
  cases policy with
  | random own =>
      obtain ⟨report, hrandom, hpick, _⟩ := exists_randomly_pick hash group own pods ambient
      obtain ⟨index, hselection⟩ := hrandom.eq_split (hpick.symm.trans h)
      exact ⟨index, .random, hselection⟩
  | sticky key points =>
      exact (Pick.stickily_sticky hash points key group pods ambient).eq_split h

/-- Every policy finds the empty set empty, and no other. -/
theorem pick_eq_emptySet_iff {policy : Policy (Lock σ)} {pods : List Pod} {ambient : σ} :
    (policy.pick hash group pods ambient).pick = .emptySet ↔ pods = [] := by
  constructor
  · intro h
    cases policy with
    | random own =>
        obtain ⟨report, hrandom, hpick, _⟩ := exists_randomly_pick hash group own pods ambient
        exact hrandom.eq_nil_of_emptySet (hpick.symm.trans h)
    | sticky key points =>
        exact (Pick.stickily_sticky hash points key group pods ambient).eq_nil_of_emptySet h
  · rintro rfl
    cases policy with
    | random own => cases own <;> rfl
    | sticky key points => rfl

/-- A pick fails only with the draw of the policy's source. -/
theorem draw_source_of_pick_drawFailed {policy : Policy (Lock σ)} {pods : List Pod} {ambient : σ}
    (h : (policy.pick hash group pods ambient).pick = .drawFailed) :
    0 < pods.length
      ∧ (DrawSource.draw ((policy.map Lock.content).source ambient) pods.length).1 = none := by
  cases policy with
  | random own =>
      obtain ⟨report, hrandom, hpick, _⟩ := exists_randomly_pick hash group own pods ambient
      exact hrandom.draw_of_drawFailed (hpick.symm.trans h)
  | sticky key points =>
      exact (Pick.stickily_sticky hash points key group pods ambient).draw_of_drawFailed h

/-- That source is the policy's own, or the ambient one. -/
theorem draw_of_pick_drawFailed {policy : Policy (Lock σ)} {pods : List Pod} {ambient : σ}
    (h : (policy.pick hash group pods ambient).pick = .drawFailed) :
    ∃ source, (policy.map Lock.content = .random (some source) ∨ source = ambient)
      ∧ pods ≠ [] ∧ (DrawSource.draw source pods.length).1 = none := by
  obtain ⟨offers, hdraw⟩ := draw_source_of_pick_drawFailed hash group h
  refine ⟨_, ?_, List.ne_nil_of_length_pos offers, hdraw⟩
  cases policy with
  | random own =>
      cases own with
      | none => exact Or.inr rfl
      | some lock => exact Or.inl rfl
  | sticky key points => exact Or.inr rfl

end Policy

/-! ## Choices -/

/-- What a choice can make of the outcome of its discovery: it waits or fails with it, is
unavailable where nothing runs, and otherwise takes one of the pods out of the others, unless the
draw for it fails. -/
inductive Choice.ComesOf {ε : Type} (group : ReplicaGroup) :
    Option (Except (DiscoveryError ε) (List Pod)) → Choice ε → Prop where
  | waits : ComesOf group none .waits
  | fails (e : DiscoveryError ε) : ComesOf group (some (.error e)) (.failed (.discovery e))
  | unavailable : ComesOf group (some (.ok [])) (.failed (.noRunningPods group.name))
  | selects {pods : List Pod} (index : Fin pods.length) (reason : SelectionReason) :
      ComesOf group (some (.ok pods)) (.selected ⟨pods.get index, pods.eraseIdx index, reason⟩)
  | drawFails {pods : List Pod} (offers : pods ≠ []) : ComesOf group (some (.ok pods)) .drawFailed

/-- A choice selects a pod, or it does not. -/
theorem Choice.selects_or_not {ε : Type} (choice : Choice ε) :
    (∃ selection, choice = .selected selection) ∨ ∀ selection, choice ≠ .selected selection := by
  by_cases h : ∃ selection, choice = .selected selection
  · exact Or.inl h
  · exact Or.inr fun selection hselected => h ⟨selection, hselected⟩

namespace Discovery

variable {ε : Type}

/-- The pods that a discovery finds: none where it fails or waits. -/
def found (discovery : Discovery ε) : List Pod :=
  match discovery.outcome with
  | some (.ok pods) => pods
  | _ => []

/-- A discovery finds pods, or it does not. -/
theorem finds_or_not (discovery : Discovery ε) :
    (∃ pods, discovery.outcome = some (.ok pods))
      ∨ ∀ pods, discovery.outcome ≠ some (.ok pods) := by
  by_cases h : ∃ pods, discovery.outcome = some (.ok pods)
  · exact Or.inl h
  · exact Or.inr fun pods houtcome => h ⟨pods, houtcome⟩

theorem found_of_outcome {discovery : Discovery ε} {pods : List Pod}
    (h : discovery.outcome = some (.ok pods)) : discovery.found = pods := by
  rw [found, h]

theorem found_of_no_outcome {discovery : Discovery ε}
    (h : ∀ pods, discovery.outcome ≠ some (.ok pods)) : discovery.found = [] := by
  rw [found]
  split
  next pods houtcome => exact absurd houtcome (h pods)
  next => rfl

theorem outcome_of_found {discovery : Discovery ε} (h : discovery.found ≠ []) :
    discovery.outcome = some (.ok discovery.found) := by
  rw [found] at h ⊢
  split at h
  next pods houtcome => rw [houtcome]
  next => exact absurd rfl h

end Discovery

namespace Chooser

section Choosing

variable {κ σ ε : Type} [Orchestrator κ ε] [DrawSource σ] (hash : String → UInt64)
  (chooser : Chooser σ) (lister : κ) (cancellation : Cancellation) (ambient : σ)

/-- What a choice makes of its discovery. -/
structure Follows (discovery : Discovery ε) (report : ChoiceReport σ ε) : Prop where
  calls : report.calls = discovery.calls
  waits : discovery.outcome = none → report.choice = .waits
  fails : ∀ e, discovery.outcome = some (.error e) → report.choice = .failed (.discovery e)
  picks : ∀ pods, discovery.outcome = some (.ok pods) →
    report.choice
      = .ofPick chooser.group (chooser.guarded.pick hash chooser.group pods ambient).pick
  /-- Without pods to pick from, nothing is drawn. -/
  keeps : (∀ pods, discovery.outcome ≠ some (.ok pods)) → report.chooser = chooser
  leaves : ∀ pods, discovery.outcome = some (.ok pods) → report.chooser
    = { chooser with guarded := (chooser.guarded.pick hash chooser.group pods ambient).policy }

variable [Executor]

/-- **A CHOICE FOLLOWS ITS DISCOVERY**: it picks from the pods discovered, and fails or waits where
there are none. -/
theorem follows_choosePod :
    Follows hash chooser ambient (discover lister chooser.group cancellation chooser.limit)
      (chooser.choosePod hash lister cancellation ambient) := by
  rw [choosePod]
  generalize discover lister chooser.group cancellation chooser.limit = discovery
  obtain ⟨outcome, calls, events⟩ := discovery
  cases outcome with
  | none =>
      refine ⟨rfl, fun _ => rfl, ?_, ?_, fun _ => rfl, ?_⟩
      · intro e h
        exact nomatch h
      · intro pods h
        exact nomatch h
      · intro pods h
        exact nomatch h
  | some result =>
      cases result with
      | error e =>
          refine ⟨rfl, ?_, ?_, ?_, fun _ => rfl, ?_⟩
          · intro h
            exact nomatch h
          · intro e' h
            cases h
            rfl
          · intro pods h
            exact nomatch h
          · intro pods h
            exact nomatch h
      | ok pods =>
          refine ⟨rfl, ?_, ?_, ?_, ?_, ?_⟩
          · intro h
            exact nomatch h
          · intro e h
            exact nomatch h
          · intro pods' h
            cases h
            rfl
          · intro h
            exact absurd rfl (h pods)
          · intro pods' h
            cases h
            rfl

/-- A pick from pods that were discovered takes one of them, or there is none, or its draw fails. -/
theorem comesOf_choosePod :
    Choice.ComesOf chooser.group (discover lister chooser.group cancellation chooser.limit).outcome
      (chooser.choosePod hash lister cancellation ambient).choice := by
  have hfollows := follows_choosePod hash chooser lister cancellation ambient
  cases houtcome : (discover lister chooser.group cancellation chooser.limit).outcome with
  | none =>
      rw [hfollows.waits houtcome]
      exact .waits
  | some result =>
      cases result with
      | error e =>
          rw [hfollows.fails e houtcome]
          exact .fails e
      | ok pods =>
          rw [hfollows.picks pods houtcome]
          cases hpick : (chooser.guarded.pick hash chooser.group pods ambient).pick with
          | selected selection =>
              obtain ⟨index, reason, rfl⟩ :=
                chooser.guarded.isSplit_of_pick hash chooser.group pods ambient selection hpick
              exact .selects index reason
          | emptySet =>
              obtain rfl := (Policy.pick_eq_emptySet_iff hash chooser.group).1 hpick
              exact .unavailable
          | drawFailed =>
              obtain ⟨offers, _⟩ := Policy.draw_source_of_pick_drawFailed hash chooser.group hpick
              exact .drawFails (List.ne_nil_of_length_pos offers)

/-- A call leaves all of a chooser but its policy. -/
theorem exists_guarded_choosePod :
    ∃ guarded, (chooser.choosePod hash lister cancellation ambient).chooser
      = { chooser with guarded } := by
  have hfollows := follows_choosePod hash chooser lister cancellation ambient
  obtain ⟨pods, houtcome⟩ | hmissed :=
    (discover lister chooser.group cancellation chooser.limit).finds_or_not
  · exact ⟨_, hfollows.leaves pods houtcome⟩
  · exact ⟨chooser.guarded, hfollows.keeps hmissed⟩

variable {hash chooser lister cancellation ambient}

/-- A choice that comes to a pick of its own has found the pods for it. -/
theorem pods_of_choice
    (hwaits : (chooser.choosePod hash lister cancellation ambient).choice ≠ .waits)
    (hfails : ∀ e, (chooser.choosePod hash lister cancellation ambient).choice ≠ .failed e) :
    ∃ pods, (discover lister chooser.group cancellation chooser.limit).outcome = some (.ok pods)
      ∧ (chooser.choosePod hash lister cancellation ambient).choice
        = .ofPick chooser.group (chooser.guarded.pick hash chooser.group pods ambient).pick := by
  have hfollows := follows_choosePod hash chooser lister cancellation ambient
  cases houtcome : (discover lister chooser.group cancellation chooser.limit).outcome with
  | none => exact absurd (hfollows.waits houtcome) hwaits
  | some result =>
      cases result with
      | error e => exact absurd (hfollows.fails e houtcome) (hfails _)
      | ok pods => exact ⟨pods, rfl, hfollows.picks pods houtcome⟩

/-- A choice that selects has picked from the pods that its discovery found. -/
theorem pick_of_selected {selection : Selection}
    (h : (chooser.choosePod hash lister cancellation ambient).choice = .selected selection) :
    ∃ pods, (discover lister chooser.group cancellation chooser.limit).outcome = some (.ok pods)
      ∧ (chooser.guarded.pick hash chooser.group pods ambient).pick = .selected selection := by
  obtain ⟨pods, houtcome, hchoice⟩ :=
    pods_of_choice (by rw [h]; exact nofun) (fun e => by rw [h]; exact nofun)
  refine ⟨pods, houtcome, ?_⟩
  rw [h] at hchoice
  cases hpick : (chooser.guarded.pick hash chooser.group pods ambient).pick with
  | selected found =>
      rw [hpick] at hchoice
      exact congrArg Pick.selected (Choice.selected.inj hchoice).symm
  | emptySet => rw [hpick] at hchoice; exact nomatch hchoice
  | drawFailed => rw [hpick] at hchoice; exact nomatch hchoice

/-- A choice fails with a draw only where its pick does. -/
theorem pick_of_drawFailed
    (h : (chooser.choosePod hash lister cancellation ambient).choice = .drawFailed) :
    ∃ pods, (discover lister chooser.group cancellation chooser.limit).outcome = some (.ok pods)
      ∧ (chooser.guarded.pick hash chooser.group pods ambient).pick = .drawFailed := by
  obtain ⟨pods, houtcome, hchoice⟩ :=
    pods_of_choice (by rw [h]; exact nofun) (fun e => by rw [h]; exact nofun)
  refine ⟨pods, houtcome, ?_⟩
  rw [h] at hchoice
  cases hpick : (chooser.guarded.pick hash chooser.group pods ambient).pick with
  | selected found => rw [hpick] at hchoice; exact nomatch hchoice
  | emptySet => rw [hpick] at hchoice; exact nomatch hchoice
  | drawFailed => rfl

/-- A source of its own is left as a random pick from the pods found leaves it, and its lock is
poisoned if that pick fails. -/
theorem chooser_of_own {lock : Lock σ} (own : chooser.guarded = .random (some lock)) :
    let report := Pick.random (discover lister chooser.group cancellation chooser.limit).found
      lock.content
    (chooser.choosePod hash lister cancellation ambient).chooser
      = { chooser with
          guarded := .random (some (lock.giveBack report.source report.pick.panicked)) } := by
  intro report
  have hfollows := follows_choosePod hash chooser lister cancellation ambient
  have hreport : report = Pick.random
    (discover lister chooser.group cancellation chooser.limit).found lock.content := rfl
  obtain ⟨pods, houtcome⟩ | hmissed :=
    (discover lister chooser.group cancellation chooser.limit).finds_or_not
  · rw [Discovery.found_of_outcome houtcome] at hreport
    rw [hfollows.leaves pods houtcome, hreport, own, Policy.pick, Lock.recover_take]
  · rw [Discovery.found_of_no_outcome hmissed, Pick.random_nil] at hreport
    have hpanicked : Pick.emptySet.panicked = false := rfl
    rw [hfollows.keeps hmissed, hreport, hpanicked, Lock.giveBack_content, ← own]

/-- A choice from some pods comes to a random pick from them. -/
theorem choice_of_own {lock : Lock σ} (own : chooser.guarded = .random (some lock))
    (h : (discover lister chooser.group cancellation chooser.limit).found ≠ []) :
    (chooser.choosePod hash lister cancellation ambient).choice = .ofPick chooser.group
      (Pick.random (discover lister chooser.group cancellation chooser.limit).found
        lock.content).pick := by
  have hfollows := follows_choosePod hash chooser lister cancellation ambient
  rw [hfollows.picks _ (Discovery.outcome_of_found h), own, Policy.pick, Lock.recover_take]

/-- **A SELECTION PARTITIONS THE RUNNING SET**: at some index the chosen pod completes the others
to the very list that every discovery from this snapshot finds, so all of them run for the group
and stand in name order.  Nothing but a failing draw can make a choice fail half-way. -/
theorem selection_partitions_running_set (hash : String → UInt64) (chooser : Chooser σ)
    (lister : Lister) (cancellation : Cancellation) (ambient : σ) :
    (∀ selection,
      (chooser.choosePod hash lister cancellation ambient).choice = .selected selection →
      ∃ index ≤ selection.others.length,
        (discover lister chooser.group cancellation chooser.limit).outcome
            = some (.ok (selection.others.insertIdx index selection.chosen))
        ∧ (∀ cancellation' limit' pods,
            (discover lister chooser.group cancellation' limit').outcome = some (.ok pods) →
            pods = selection.others.insertIdx index selection.chosen)
        ∧ selection.poolSize = (selection.others.insertIdx index selection.chosen).length
        ∧ (∀ pod ∈ selection.chosen :: selection.others,
            pod ∈ lister.pods ∧ pod.RunsFor chooser.group)
        ∧ selection.others.Pairwise (·.name ≤ ·.name)
        ∧ (((selection.others.insertIdx index selection.chosen).map Pod.name).Nodup →
            selection.chosen ∉ selection.others))
    ∧ ((chooser.choosePod hash lister cancellation ambient).choice = .drawFailed →
      ∃ source pods,
        (chooser.policy = .random (some source) ∨ source = ambient)
        ∧ (discover lister chooser.group cancellation chooser.limit).outcome = some (.ok pods)
        ∧ pods ≠ [] ∧ (DrawSource.draw source pods.length).1 = none) := by
  constructor
  · intro selection h
    obtain ⟨pods, houtcome, hpick⟩ := pick_of_selected h
    obtain ⟨index, reason, rfl⟩ :=
      chooser.guarded.isSplit_of_pick hash chooser.group pods ambient selection hpick
    obtain ⟨_, hpods⟩ := pods_of_outcome houtcome
    have hlength := Selection.length_others_split pods index reason
    refine ⟨index, by have := index.isLt; omega, ?_⟩
    -- Put back in its place, the chosen pod gives the pods discovered.
    rw [Selection.insertIdx_split]
    refine ⟨houtcome, fun cancellation' limit' found hfound => ?_, hlength, ?_, ?_, ?_⟩
    · exact (pods_of_outcome hfound).2.trans hpods.symm
    · intro pod hpod
      have hmem := Selection.mem_split pods index reason hpod
      rw [hpods] at hmem
      exact Lister.mem_runningSet_iff.1 hmem
    · have hsorted := Lister.pairwise_runningSet lister chooser.group
      rw [← hpods] at hsorted
      exact hsorted.sublist (List.eraseIdx_sublist ..)
    · intro hnames
      exact Selection.chosen_notMem_others_split hnames index reason
  · intro h
    obtain ⟨pods, houtcome, hpick⟩ := pick_of_drawFailed h
    obtain ⟨source, hsource, hpods, hdraw⟩ :=
      Policy.draw_of_pick_drawFailed hash chooser.group hpick
    exact ⟨source, pods, hsource, houtcome, hpods, hdraw⟩

end Choosing

/-- A draw past the end wraps around, and the pod that it chooses stood behind the other. -/
theorem selection_of_wrapped_draw :
    let group : ReplicaGroup := ⟨"web"⟩
    let lister : Lister := .ofPods [.ofGroup group "b", .ofGroup group "a"]
    let chooser : Chooser Script := .new group none (.random (some (.ofAnswers [some 5])))
    let selection : Selection := ⟨.ofGroup group "b", [.ofGroup group "a"], .random⟩
    (chooser.choosePod (fun _ => 0) lister (.during .never) (.ofAnswers [])).choice
        = .selected selection
      ∧ ∃ index ≤ 1, (discover lister group (.during .never) none).outcome
          = some (.ok (selection.others.insertIdx index selection.chosen))
      ∧ selection.chosen ∉ selection.others := by
  intro group lister chooser selection
  have hselected : (chooser.choosePod (fun _ => 0) lister (.during .never)
      (.ofAnswers [])).choice = .selected selection := by cbv
  obtain ⟨hpartition, _⟩ := selection_partitions_running_set (fun _ => 0) chooser lister
    (.during .never) (.ofAnswers [])
  obtain ⟨index, hindex, houtcome, _, _, _, _, hnames⟩ := hpartition selection hselected
  refine ⟨hselected, index, hindex, houtcome, hnames ?_⟩
  have hperm := (List.perm_insertIdx selection.chosen selection.others hindex).map Pod.name
  exact hperm.nodup_iff.2 (by decide)

end Chooser

end PodPlacement
