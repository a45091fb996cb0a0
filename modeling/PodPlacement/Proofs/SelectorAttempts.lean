import PodPlacement.Proofs.LabelGrammar
import PodPlacement.Proofs.RunningSet

/-! # Attempts on a selector — the last valid value of each key is demanded

    A selector grows by one label at a time, and an attempt to add one may be
    refused.  Whatever the attempts, in whatever order they succeed, fail and
    override each other, the selector they end with is a function of the last
    value that was accepted for each key:

    * an attempt that succeeds adds a label at the end of those that are
      demanded (`DemandsLast.withLabel`), one that fails leaves everything as it
      was, and so it goes on along a list of attempts (`DemandsLast.attempts`);
    * whether an attempt succeeds does not depend on those before it
      (`succeeding_eq_filter`);
    * labels with the same values are equal (`Labels.eq_of_get?`), so the last
      values decide the selector and its text (`DemandsLast.unique`).

    Main statement: `selector_demands_last_valid_values`. -/

namespace PodPlacement

/-! ## Labels by their values -/

namespace Labels

/-- Labels with the same value under each key are the same. -/
theorem eq_of_get? {labels labels' : Labels} (h : ∀ key, labels.get? key = labels'.get? key) :
    labels = labels' := by
  have hirrefl : Std.Irrefl fun a b : String × String => a.1 < b.1 :=
    ⟨fun _ => String.lt_irrefl _⟩
  have hantisymm : Std.Antisymm fun a b : String × String => a.1 < b.1 :=
    ⟨fun _ _ hab hba => absurd hba (String.lt_asymm hab)⟩
  refine eq_of_entries (labels.ascending.eq_of_mem_iff labels'.ascending fun entry => ?_)
  rw [← get?_eq_some_iff, ← get?_eq_some_iff, h]

/-- The last value that a list of labels gives to a key. -/
def lastValue? (labels : List (String × String)) (key : String) : Option String :=
  (labels.reverse.find? (·.1 = key)).map Prod.snd

theorem lastValue?_concat (labels : List (String × String)) (key value other : String) :
    lastValue? (labels ++ [(key, value)]) other
      = if other = key then some value else lastValue? labels other := by
  rw [lastValue?, List.reverse_concat]
  by_cases h : other = key
  · rw [if_pos h, List.find?_cons_of_pos (by simpa using h.symm)]
    rfl
  · rw [if_neg h, List.find?_cons_of_neg (by simpa using Ne.symm h)]
    rfl

theorem mem_of_lastValue? {labels : List (String × String)} {key value : String}
    (h : lastValue? labels key = some value) : (key, value) ∈ labels := by
  obtain ⟨⟨k, v⟩, hfind, rfl⟩ := Option.map_eq_some_iff.1 h
  obtain rfl : k = key := by simpa using List.find?_some hfind
  exact List.mem_reverse.1 (List.mem_of_find?_eq_some hfind)

theorem eq_nil_of_lastValue? {labels : List (String × String)}
    (h : ∀ key, lastValue? labels key = none) : labels = [] := by
  rcases List.eq_nil_or_concat' labels with rfl | ⟨init, ⟨key, value⟩, rfl⟩
  · rfl
  · have hkey := h key
    rw [lastValue?_concat, if_pos rfl] at hkey
    exact nomatch hkey

end Labels

namespace LabelSelector

open Labels (lastValue?)

/-! ## Attempts -/

/-- An attempt to demand a label; a refusal leaves the selector as it was. -/
def attempt (selector : LabelSelector) (label : String × String) : LabelSelector :=
  match selector.withLabel label.1 label.2 with
  | .ok next => next
  | .error _ => selector

/-- Attempts to demand labels one after another. -/
def attempts (selector : LabelSelector) (labels : List (String × String)) : LabelSelector :=
  labels.foldl attempt selector

/-- The labels of the attempts that succeed. -/
def succeeding (selector : LabelSelector) : List (String × String) → List (String × String)
  | [] => []
  | label :: rest =>
    match selector.withLabel label.1 label.2 with
    | .ok next => label :: next.succeeding rest
    | .error _ => selector.succeeding rest

/-- Where attempts may begin: at the selector without demands, or at that of a group, which has
demanded one label already. -/
inductive Begins : List (String × String) → LabelSelector → Prop where
  | empty : Begins [] .empty
  | group {group : ReplicaGroup} {selector : LabelSelector}
      (selects : forGroup group = .ok selector) :
      Begins [(groupLabel, group.name)] selector

/-- An attempt succeeds for a label value and for nothing else, whatever has been demanded. -/
theorem succeeding_eq_filter (selector : LabelSelector) (labels : List (String × String)) :
    selector.succeeding labels
      = labels.filter fun label => LabelValue.check label.2 = .ok () := by
  induction labels generalizing selector with
  | nil => rfl
  | cons label rest ih =>
      rw [succeeding]
      cases h : selector.withLabel label.1 label.2 with
      | ok next =>
          have hvalid := (withLabel_eq_ok_iff.1 h).1
          rw [List.filter_cons_of_pos (by exact decide_eq_true hvalid), ← ih next]
      | error e =>
          have hinvalid : LabelValue.check label.2 ≠ .ok () := by
            rw [withLabel_eq_error_iff.1 h]
            exact nofun
          rw [List.filter_cons_of_neg (by simpa using hinvalid), ← ih selector]

/-! ## What attempts come to -/

/-- Demands the last value of each key among some labels, all of which have label values. -/
structure DemandsLast (demanded : List (String × String)) (selector : LabelSelector) : Prop where
  values : ∀ key, selector.required.get? key = lastValue? demanded key
  valid : ∀ label ∈ demanded, LabelValue.check label.2 = .ok ()

namespace DemandsLast

variable {demanded : List (String × String)} {selector : LabelSelector}

theorem empty : DemandsLast [] .empty :=
  ⟨fun _ => rfl, nofun⟩

/-- One more label is demanded in the end. -/
theorem withLabel (h : DemandsLast demanded selector) {next : LabelSelector} {key value : String}
    (hnext : selector.withLabel key value = .ok next) :
    DemandsLast (demanded ++ [(key, value)]) next := by
  obtain ⟨hvalid, rfl⟩ := withLabel_eq_ok_iff.1 hnext
  constructor
  · intro other
    rw [Labels.lastValue?_concat, Labels.get?_insert, h.values]
  · intro label hlabel
    rcases List.mem_append.1 hlabel with hlabel | hlabel
    · exact h.valid label hlabel
    · rw [List.mem_singleton.1 hlabel]
      exact hvalid

theorem of_begins {first : List (String × String)} (h : Begins first selector) :
    DemandsLast first selector := by
  cases h with
  | empty => exact empty
  | group selects => exact empty.withLabel selects

/-- **ATTEMPTS** leave the labels of those that succeed at the end of what was demanded. -/
theorem attempts (h : DemandsLast demanded selector) (labels : List (String × String)) :
    DemandsLast (demanded ++ selector.succeeding labels) (selector.attempts labels) := by
  induction labels generalizing demanded selector with
  | nil =>
      rw [succeeding, List.append_nil]
      exact h
  | cons label rest ih =>
      -- The first attempt decides what the others begin with.
      rw [succeeding, LabelSelector.attempts, List.foldl_cons, attempt]
      cases hnext : selector.withLabel label.1 label.2 with
      | ok next =>
          have hmore := ih (h.withLabel hnext)
          rw [List.append_assoc] at hmore
          exact hmore
      | error e => exact ih h

theorem mem_entries_iff (h : DemandsLast demanded selector) {key value : String} :
    (key, value) ∈ selector.required.entries ↔ lastValue? demanded key = some value := by
  rw [← Labels.get?_eq_some_iff, h.values]

theorem selects_iff (h : DemandsLast demanded selector) (carried : Labels) :
    selector.selects carried = true
      ↔ ∀ key value, lastValue? demanded key = some value → carried.get? key = some value := by
  rw [selects, List.all_eq_true]
  constructor
  · intro hall key value hlast
    exact of_decide_eq_true (hall (key, value) (h.mem_entries_iff.2 hlast))
  · rintro hlast ⟨key, value⟩ hmem
    exact decide_eq_true (hlast key value (h.mem_entries_iff.1 hmem))

theorem isEmpty_iff (h : DemandsLast demanded selector) :
    selector.isEmpty = true ↔ demanded = [] := by
  rw [isEmpty, List.isEmpty_iff]
  constructor
  · intro hempty
    refine Labels.eq_nil_of_lastValue? fun key => ?_
    rw [← h.values, Labels.get?, hempty]
    rfl
  · rintro rfl
    refine List.eq_nil_iff_forall_not_mem.2 fun ⟨key, value⟩ hmem => ?_
    exact nomatch h.mem_entries_iff.1 hmem

/-- The last values decide the selector. -/
theorem unique (h : DemandsLast demanded selector) {demanded' : List (String × String)}
    {selector' : LabelSelector} (h' : DemandsLast demanded' selector')
    (hlast : ∀ key, lastValue? demanded' key = lastValue? demanded key) :
    selector' = selector := by
  refine eq_of_required (Labels.eq_of_get? fun key => ?_)
  rw [h.values, h'.values, hlast]

end DemandsLast

/-- **A SELECTOR DEMANDS THE LAST VALID VALUE OF EACH KEY**: attempts that begin without demands, or
with those of a group, end in a selector that selects exactly the labels with the last accepted
value under each key for which one was accepted.  It is empty if none was, all its values are
label values, and its text has the pairs in the order of their keys.  Attempts with the same last
accepted values end in the same selector, in whatever order they come. -/
theorem selector_demands_last_valid_values {first : List (String × String)}
    {start : LabelSelector} (hstart : Begins first start) (labels : List (String × String)) :
    let final := start.attempts labels
    let demanded := first ++ start.succeeding labels
    start.succeeding labels = labels.filter (fun label => LabelValue.check label.2 = .ok ())
      ∧ (∀ carried : Labels, final.selects carried = true
          ↔ ∀ key value, lastValue? demanded key = some value → carried.get? key = some value)
      ∧ (final.isEmpty = true ↔ demanded = [])
      ∧ (∀ key value, final.required.get? key = some value →
          value = "" ∨ value.toList ∈ LabelValue.grammar)
      ∧ (∃ pairs : List (String × String), pairs.Pairwise (·.1 < ·.1)
          ∧ (∀ key value, (key, value) ∈ pairs ↔ lastValue? demanded key = some value)
          ∧ final.text = ",".intercalate (pairs.map fun (key, value) => key ++ "=" ++ value))
      ∧ ∀ first' start' labels', Begins first' start' →
          (∀ key, lastValue? (first' ++ start'.succeeding labels') key = lastValue? demanded key) →
          start'.attempts labels' = final ∧ (start'.attempts labels').text = final.text
            ∧ ∀ carried, (start'.attempts labels').selects carried = final.selects carried := by
  intro final demanded
  have hlast : DemandsLast demanded final := (DemandsLast.of_begins hstart).attempts labels
  refine ⟨succeeding_eq_filter start labels, hlast.selects_iff, hlast.isEmpty_iff, ?_,
    ⟨final.required.entries, final.required.ascending, fun _ _ => hlast.mem_entries_iff, rfl⟩, ?_⟩
  · intro key value hvalue
    rw [hlast.values] at hvalue
    have hvalid := hlast.valid _ (Labels.mem_of_lastValue? hvalue)
    rwa [LabelValue.check_eq_ok_iff, LabelValue.fault?_eq_none_iff,
      ← LabelValue.mem_grammar_iff] at hvalid
  · intro first' start' labels' hstart' hsame
    have hfinal : start'.attempts labels' = final :=
      hlast.unique ((DemandsLast.of_begins hstart').attempts labels') hsame
    exact ⟨hfinal, congrArg text hfinal, fun carried => by rw [hfinal]⟩

/-- The group's own label is overridden, after an attempt that fails to do so, and another key is
given two values: the last ones are demanded.  A selector that begins without demands and is given
those in the other order is the same. -/
theorem overridden_group_is_not_demanded :
    let start := ofGroup ⟨"web"⟩
    let labels := [("tier", "a"), ("app", "web-"), ("app", "api"), ("tier", "b")]
    let carried := Labels.ofList [("zone", "x"), ("tier", "b"), ("app", "api")]
    forGroup ⟨"web"⟩ = .ok start
      ∧ (start.attempts labels).selects carried = true
      ∧ (start.attempts labels).isEmpty = false
      ∧ empty.attempts [("tier", "b"), ("app", "api")] = start.attempts labels := by
  intro start labels carried
  have hstart : forGroup ⟨"web"⟩ = .ok start := by decide
  have hbegins : Begins [("app", "web")] start := .group hstart
  have hdemanded : [("app", "web")] ++ start.succeeding labels
      = [("app", "web"), ("tier", "a"), ("app", "api"), ("tier", "b")] := by decide
  have hother : [] ++ empty.succeeding [("tier", "b"), ("app", "api")]
      = [("tier", "b"), ("app", "api")] := by decide
  have hlast (key : String) : lastValue? [("tier", "b"), ("app", "api")] key
      = lastValue? [("app", "web"), ("tier", "a"), ("app", "api"), ("tier", "b")] key := by
    by_cases htier : key = "tier"
    · subst htier
      rfl
    · by_cases happ : key = "app"
      · subst happ
        rfl
      · simp [lastValue?, Ne.symm htier, Ne.symm happ]
  obtain ⟨_, hselects, hempty, _, _, hsame⟩ :=
    selector_demands_last_valid_values hbegins labels
  rw [hdemanded] at hselects hempty hsame
  refine ⟨hstart, (hselects carried).2 fun key value hvalue => ?_, ?_, ?_⟩
  · rw [← hlast] at hvalue
    rcases List.mem_pair.1 (Labels.mem_of_lastValue? hvalue) with h | h
    · obtain ⟨rfl, rfl⟩ := Prod.mk.inj h
      decide
    · obtain ⟨rfl, rfl⟩ := Prod.mk.inj h
      decide
  · exact Bool.eq_false_iff.2 fun h => nomatch hempty.1 h
  · refine (hsame [] empty _ .empty fun key => ?_).1
    rw [hother, hlast]

end LabelSelector

end PodPlacement
