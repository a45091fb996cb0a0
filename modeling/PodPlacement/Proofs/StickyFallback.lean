import PodPlacement.Proofs.Interchange
import PodPlacement.Proofs.RingLookup
import PodPlacement.Proofs.StickyPlacement

/-! # The sticky fallback — reached by an empty ring and by nothing else

    The ring of some pods is empty only where it has no points
    (`isEmpty_build_iff`), and a ring that is not empty has an owner for every
    key.  The owner is a name; the pod is looked up by it, which finds the
    first pod of that name (`find?_of_ownerIndex?`) and cannot miss, since the
    names on the ring are those of the pods.

    A fallback draws from the pods that have been discovered already: whoever
    finds pods has asked for one listing and waited for its end
    (`calls_of_outcome`).

    Main statement: `sticky_falls_back_only_on_empty_ring`. -/

namespace PodPlacement

/-- The ring of some nodes is empty exactly if it has no points. -/
theorem HashRing.isEmpty_build_iff (hash : String → UInt64) {nodes : List String} (points : Nat)
    (hnodes : nodes ≠ []) : (build hash nodes points).isEmpty = true ↔ points = 0 := by
  rw [isEmpty, List.isEmpty_iff, positions_eq_nil_iff, allPositions_eq_nil_iff]
  exact or_iff_right hnodes

/-- Whoever finds pods has made one call, which ran to its end. -/
theorem Discovery.calls_of_outcome {κ ε : Type} [Orchestrator κ ε] [Executor] {lister : κ}
    {group : ReplicaGroup} {cancellation : Cancellation} {limit : Option Span} {pods : List Pod}
    (h : (discover lister group cancellation limit).outcome = some (.ok pods)) :
    (discover lister group cancellation limit).calls = [⟨.ofGroup group, true⟩] := by
  have hdiscovers := discovers_discover lister group limit cancellation
  rw [h] at hdiscovers
  generalize (discover lister group cancellation limit).calls = calls at hdiscovers ⊢
  cases hdiscovers with
  | found _ _ _ _ => rfl

namespace Pick

/-- The pod at a key's index is the first of its name. -/
theorem find?_of_ownerIndex? {hash : String → UInt64} {points : Nat} {key : AffinityKey}
    {pods : List Pod} {index : Fin pods.length}
    (h : ownerIndex? hash points key pods = some index) :
    pods.find? (·.name = (pods.get index).name) = some (pods.get index) := by
  obtain ⟨name, _, hindex⟩ := Option.bind_eq_some_iff.1 h
  obtain ⟨hname, hfirst⟩ := List.findFinIdx?_eq_some_iff.1 hindex
  have hname : (pods.get index).name = name := of_decide_eq_true hname
  rw [hname, List.find?_eq_some_iff_getElem]
  refine ⟨decide_eq_true hname, index, index.isLt, rfl, fun j hj => ?_⟩
  have hother := hfirst ⟨j, Nat.lt_trans hj index.isLt⟩ hj
  rw [Bool.not_eq_true']
  exact Bool.eq_false_iff.2 hother

variable {σ : Type} [DrawSource σ] (hash : String → UInt64) {points : Nat} (key : AffinityKey)
  (group : ReplicaGroup) {pods : List Pod} (source : σ)

/-- With points on the ring a sticky pick from some pods is the first one with the name of the key's
owner, and nothing is drawn for it. -/
theorem sticky_of_points (hpods : pods ≠ []) (hpoints : 0 < points) :
    ∃ index : Fin pods.length,
      (sticky hash points key group pods source).pick = .selected (.split pods index .stickyHash)
        ∧ (sticky hash points key group pods source).source = source
        ∧ (HashRing.build hash (pods.map Pod.name) points).owner? key.text
          = some (pods.get index).name
        ∧ pods.find? (·.name = (pods.get index).name) = some (pods.get index) := by
  obtain ⟨index, hindex⟩ := exists_ownerIndex? hash key hpods hpoints
  rw [sticky_of_owner hash points key group source hindex]
  exact ⟨index, rfl, rfl, owner_of_ownerIndex? hash key hindex, find?_of_ownerIndex? hindex⟩

/-- Without points a sticky pick from some pods is one of them, if the draw for it is answered. -/
theorem sticky_of_no_points (hpods : pods ≠ []) (hanswers : DrawSource.Answers source) :
    ∃ index : Fin pods.length,
      (sticky hash 0 key group pods source).pick
        = .selected (.split pods index .stickyFallback) := by
  rw [sticky_of_no_owner hash 0 key group source hpods (ownerIndex?_of_no_points hash key pods)]
  have hrandomly := randomly_random pods source
  cases hpick : (random pods source).pick with
  | emptySet => exact absurd (hrandomly.eq_nil_of_emptySet hpick) hpods
  | drawFailed =>
      obtain ⟨offers, fails⟩ := hrandomly.draw_of_drawFailed hpick
      exact absurd fails (hanswers pods.length offers)
  | selected selection =>
      obtain ⟨index, rfl⟩ := hrandomly.eq_split hpick
      exact ⟨index, rfl⟩

end Pick

namespace Chooser

section Falling

variable {κ ε σ : Type} [Orchestrator κ ε] [Executor] [DrawSource σ]

/-- A choice from discovered pods leaves the ambient source as its pick does. -/
theorem ambient_of_outcome (hash : String → UInt64) {chooser : Chooser σ} {lister : κ}
    {cancellation : Cancellation} (ambient : σ) {pods : List Pod}
    (houtcome : (discover lister chooser.group cancellation chooser.limit).outcome
      = some (.ok pods)) :
    (chooser.choosePod hash lister cancellation ambient).ambient
      = (chooser.guarded.pick hash chooser.group pods ambient).ambient := by
  rw [choosePod, houtcome]

/-- **STICKY FALLS BACK ON AN EMPTY RING ONLY**: from pods that have been discovered a sticky choice
always selects one.  Points on the ring make it the first pod with the name of the key's owner, and
nothing is drawn; a ring without any makes it some of the pods, as a fallback.  No listing is asked
for but the one that the pods come from. -/
theorem sticky_falls_back_only_on_empty_ring (hash : String → UInt64) (chooser : Chooser σ)
    (lister : κ) (cancellation : Cancellation) (ambient : σ) {key : AffinityKey} {points : Nat}
    (hpolicy : chooser.policy = .sticky key points) {pods : List Pod}
    (houtcome : (discover lister chooser.group cancellation chooser.limit).outcome
      = some (.ok pods))
    (hpods : pods ≠ []) (hanswers : points = 0 → DrawSource.Answers ambient) :
    let report := chooser.choosePod hash lister cancellation ambient
    let ring := HashRing.build hash (pods.map Pod.name) points
    (ring.isEmpty = true ↔ points = 0)
      ∧ report.calls = [⟨.ofGroup chooser.group, true⟩]
      ∧ ∃ selection, report.choice = .selected selection ∧ selection.chosen ∈ pods
        ∧ (selection.reason = .stickyHash ↔ 0 < points)
        ∧ (selection.reason = .stickyFallback ↔ points = 0)
        ∧ (0 < points → ring.owner? key.text = some selection.chosen.name
            ∧ pods.find? (·.name = selection.chosen.name) = some selection.chosen
            ∧ report.ambient = ambient) := by
  intro report ring
  have hfollows := follows_choosePod hash chooser lister cancellation ambient
  have hnames : pods.map Pod.name ≠ [] := fun h => hpods (List.map_eq_nil_iff.1 h)
  have hguarded := guarded_of_sticky hpolicy
  have hpicks := hfollows.picks pods houtcome
  rw [hguarded] at hpicks
  refine ⟨HashRing.isEmpty_build_iff hash points hnames,
    hfollows.calls.trans (Discovery.calls_of_outcome houtcome), ?_⟩
  rcases Nat.eq_zero_or_pos points with rfl | hpoints
  · obtain ⟨index, hpick⟩ :=
      Pick.sticky_of_no_points hash key chooser.group ambient hpods (hanswers rfl)
    refine ⟨.split pods index .stickyFallback, ?_, List.getElem_mem index.isLt, ?_, ?_, nofun⟩
    · exact hpicks.trans (congrArg (Choice.ofPick chooser.group) hpick)
    · exact ⟨nofun, nofun⟩
    · exact ⟨fun _ => rfl, fun _ => rfl⟩
  · obtain ⟨index, hpick, hsource, howner, hfirst⟩ :=
      Pick.sticky_of_points hash key chooser.group ambient hpods hpoints
    refine ⟨.split pods index .stickyHash, ?_, List.getElem_mem index.isLt, ?_, ?_, fun _ => ?_⟩
    · exact hpicks.trans (congrArg (Choice.ofPick chooser.group) hpick)
    · exact ⟨fun _ => hpoints, fun _ => rfl⟩
    · exact ⟨nofun, fun hnone => absurd hnone (Nat.pos_iff_ne_zero.1 hpoints)⟩
    · refine ⟨howner, hfirst, ?_⟩
      show (chooser.choosePod hash lister cancellation ambient).ambient = ambient
      rw [ambient_of_outcome hash ambient houtcome, hguarded]
      exact hsource

end Falling

/-- Two pods of one name, of which the key's owner is the one listed first; and the same pods on a
ring without points, where one of them is drawn. -/
theorem first_namesake_owns_key :
    let hash : String → UInt64 := fun text => if text = "web-0" then 5 else 3
    let group : ReplicaGroup := ⟨"web"⟩
    let first : Pod := { Pod.ofGroup group "web" with address := some "10.0.0.1" }
    let second : Pod := { first with address := some "10.0.0.2" }
    let lister : Lister := .ofPods [first, .ofGroup group "api", second]
    let pods := [.ofGroup group "api", first, second]
    let pinned : Chooser AnySource := .new group none (.sticky ⟨"web-0"⟩ 1)
    let loose : Chooser AnySource := .new group none (.sticky ⟨"web-0"⟩ 0)
    (∃ selection, (pinned.choosePod hash lister (.during .never) (.turning ⟨0⟩)).choice
        = .selected selection ∧ selection.reason = .stickyHash ∧ selection.chosen = first)
      ∧ ∃ selection, (loose.choosePod hash lister (.during .never) (.turning ⟨2⟩)).choice
        = .selected selection ∧ selection.reason = .stickyFallback ∧ selection.chosen ∈ pods := by
  intro hash group first second lister pods pinned loose
  have houtcome : (discover lister group (.during .never) none).outcome = some (.ok pods) := by
    cbv
  have hpods : pods ≠ [] := List.cons_ne_nil _ _
  have hcarousel : DrawSource.Answers (AnySource.turning ⟨2⟩) := by
    intro _ _ h
    cases h
  constructor
  · obtain ⟨_, _, selection, hchoice, _, hhash, _, howner⟩ :=
      sticky_falls_back_only_on_empty_ring hash pinned lister (.during .never) (.turning ⟨0⟩) rfl
        houtcome hpods (fun hnone => absurd hnone Nat.one_ne_zero)
    refine ⟨selection, hchoice, hhash.2 Nat.one_pos, ?_⟩
    obtain ⟨howner, hfirst, _⟩ := howner Nat.one_pos
    have hname : selection.chosen.name = "web" := by
      refine Option.some.inj (howner.symm.trans ?_)
      cbv
    rw [hname] at hfirst
    exact (Option.some.inj hfirst).symm
  · obtain ⟨_, _, selection, hchoice, hmem, _, hfallback, _⟩ :=
      sticky_falls_back_only_on_empty_ring hash loose lister (.during .never) (.turning ⟨2⟩) rfl
        houtcome hpods (fun _ => hcarousel)
    exact ⟨selection, hchoice, hfallback.2 rfl, hmem⟩

end Chooser

end PodPlacement
