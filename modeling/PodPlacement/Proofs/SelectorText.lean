import PodPlacement.Proofs.LabelGrammar
import PodPlacement.Proofs.SelectorAttempts

/-! # Texts of selectors — what a selector demands can be read from its text

    The text of a selector marks nothing as literal: its pairs are divided by
    commas, and a key from its value by an equals sign.  Label values hold
    neither, and keys are taken here that hold no comma.

    * A comma of the text is then always one between two pairs
      (`parts_text`).
    * A key may hold equals signs of its own, but the last one of a pair is
      the one behind the key (`pair?_written`).

    Main statement: `text_determines_selector`. -/

namespace PodPlacement

/-! ## Cuts at the last mark -/

namespace Text

variable {α : Type} [DecidableEq α] {mark : α}

/-- What stands before and behind the last mark. -/
def cutAtLast? (mark : α) : List α → Option (List α × List α)
  | [] => none
  | a :: rest =>
    match cutAtLast? mark rest with
    | some (front, back) => some (a :: front, back)
    | none => if a = mark then some ([], rest) else none

theorem cutAtLast?_of_notMem {l : List α} (h : mark ∉ l) : cutAtLast? mark l = none := by
  induction l with
  | nil => rfl
  | cons a rest ih =>
      have hrest : mark ∉ rest := fun hmem => h (List.mem_cons_of_mem a hmem)
      have ha : a ≠ mark := fun ha => h (ha ▸ List.mem_cons_self ..)
      rw [cutAtLast?, ih hrest, if_neg ha]

/-- A mark with no other behind it is the last. -/
theorem cutAtLast?_append {front back : List α} (h : mark ∉ back) :
    cutAtLast? mark (front ++ mark :: back) = some (front, back) := by
  induction front with
  | nil =>
      rw [List.nil_append, cutAtLast?, cutAtLast?_of_notMem h, if_pos rfl]
  | cons a rest ih =>
      rw [List.cons_append, cutAtLast?, ih]

example : cutAtLast? '=' "a=b=c".toList = some ("a=b".toList, "c".toList) := by decide

end Text

namespace LabelSelector

/-! ## Reading a text -/

/-- The parts of a text between its commas. -/
def parts (text : String) : List (List Char) :=
  text.toList.splitOn ','

/-- The key and the value in a part, before and behind its last equals sign. -/
def pair? (part : List Char) : Option (String × String) :=
  (Text.cutAtLast? '=' part).map fun (key, value) => (String.ofList key, String.ofList value)

/-- Built from the selector without demands or that of a group, by labels that are accepted and
whose keys hold no comma. -/
inductive Built : LabelSelector → Prop where
  | empty : Built .empty
  | group {group : ReplicaGroup} {selector : LabelSelector}
      (selects : forGroup group = .ok selector) : Built selector
  | label {selector next : LabelSelector} {key value : String} (built : Built selector)
      (noComma : ',' ∉ key.toList) (accepted : selector.withLabel key value = .ok next) :
      Built next

/-- The marks of a text are not those of its pairs, but for equals signs in a key. -/
structure Unmarked (entry : String × String) : Prop where
  key : ',' ∉ entry.1.toList
  value : ',' ∉ entry.2.toList ∧ '=' ∉ entry.2.toList

/-- No mark of a text stands in a label value. -/
theorem notMem_of_check {value : String} (h : LabelValue.check value = .ok ()) {c : Char}
    (hc : ¬ LabelValue.Inner c) : c ∉ value.toList := by
  rw [LabelValue.check_eq_ok_iff, LabelValue.fault?_eq_none_iff] at h
  intro hmem
  rcases h with rfl | hobeys
  · exact nomatch hmem
  · exact hc (hobeys.inner c hmem)

/-- An accepted label joins the pairs that a selector has. -/
theorem unmarked_of_withLabel {selector next : LabelSelector} {key value : String}
    (h : ∀ entry ∈ selector.required.entries, Unmarked entry) (hkey : ',' ∉ key.toList)
    (haccepted : selector.withLabel key value = .ok next) :
    ∀ entry ∈ next.required.entries, Unmarked entry := by
  obtain ⟨hvalid, rfl⟩ := withLabel_eq_ok_iff.1 haccepted
  intro entry hentry
  rcases Labels.mem_insertEntry hentry with rfl | hentry
  · exact ⟨hkey, notMem_of_check hvalid (by decide), notMem_of_check hvalid (by decide)⟩
  · exact h entry hentry

theorem Built.unmarked {selector : LabelSelector} (h : Built selector) :
    ∀ entry ∈ selector.required.entries, Unmarked entry := by
  have hempty : ∀ entry ∈ LabelSelector.empty.required.entries, Unmarked entry := nofun
  induction h with
  | empty => exact hempty
  | group selects => exact unmarked_of_withLabel hempty (by decide) selects
  | label _ noComma accepted ih => exact unmarked_of_withLabel ih noComma accepted

/-! ## What is written is read -/

/-- A pair as it is written. -/
def written (entry : String × String) : List Char :=
  entry.1.toList ++ '=' :: entry.2.toList

theorem toList_text (selector : LabelSelector) :
    selector.text.toList = [','].intercalate (selector.required.entries.map written) := by
  rw [text, String.toList_intercalate, List.map_map]
  refine congrArg (List.intercalate [',']) (List.map_congr_left fun entry _ => ?_)
  show (entry.1 ++ "=" ++ entry.2).toList = written entry
  rw [String.toList_append, String.toList_append, List.append_assoc]
  rfl

theorem Unmarked.comma_notMem_written {entry : String × String} (h : Unmarked entry) :
    ',' ∉ written entry := by
  intro hmem
  rcases List.mem_append.1 hmem with hmem | hmem
  · exact h.key hmem
  · rcases List.mem_cons.1 hmem with hmem | hmem
    · exact absurd hmem (by decide)
    · exact h.value.1 hmem

theorem parts_text {selector : LabelSelector}
    (h : ∀ entry ∈ selector.required.entries, Unmarked entry)
    (hne : selector.required.entries ≠ []) :
    parts selector.text = selector.required.entries.map written := by
  rw [parts, toList_text]
  refine List.splitOn_intercalate ',' ?_ fun hnil => hne (List.map_eq_nil_iff.1 hnil)
  intro part hpart
  obtain ⟨entry, hentry, rfl⟩ := List.mem_map.1 hpart
  exact (h entry hentry).comma_notMem_written

theorem pair?_written {entry : String × String} (h : Unmarked entry) :
    pair? (written entry) = some entry := by
  rw [pair?, written, Text.cutAtLast?_append h.value.2, Option.map_some]
  show some (String.ofList entry.1.toList, String.ofList entry.2.toList) = some entry
  rw [String.ofList_toList, String.ofList_toList]

/-- **PARTS** of a text that is not empty are read as the pairs that were written. -/
theorem map_pair?_parts {selector : LabelSelector} (h : Built selector)
    (hne : selector.required.entries ≠ []) :
    (parts selector.text).map pair? = selector.required.entries.map some := by
  rw [parts_text h.unmarked hne, List.map_map]
  exact List.map_congr_left fun entry hentry => pair?_written (h.unmarked entry hentry)

theorem text_eq_empty_iff (selector : LabelSelector) :
    selector.text = "" ↔ selector.required.entries = [] := by
  rw [← String.toList_eq_nil_iff, toList_text]
  cases selector.required.entries with
  | nil => exact ⟨fun _ => rfl, fun _ => rfl⟩
  | cons entry rest =>
      cases rest with
      | nil => simp [written]
      | cons entry' rest => simp [written, List.intercalate_cons_cons]

theorem filterMap_pair?_parts {selector : LabelSelector} (h : Built selector) :
    (parts selector.text).filterMap pair? = selector.required.entries := by
  by_cases hne : selector.required.entries = []
  · rw [hne, (text_eq_empty_iff selector).2 hne]
    decide
  · calc (parts selector.text).filterMap pair?
        = ((parts selector.text).map pair?).filterMap id := by
          rw [List.filterMap_map, Function.id_comp]
      _ = (selector.required.entries.map some).filterMap id := by rw [map_pair?_parts h hne]
      _ = selector.required.entries := by rw [List.filterMap_map]; exact List.filterMap_some

/-- **THE TEXT DETERMINES THE SELECTOR**: of a selector whose keys hold no comma, the parts of the
text between commas, cut at their last equals signs, are the pairs it demands, in the order of the
keys.  Its text is empty only if it demands nothing, and no other selector has the same. -/
theorem text_determines_selector {selector other : LabelSelector} (h : Built selector)
    (hother : Built other) :
    (parts selector.text).filterMap pair? = selector.required.entries
      ∧ (selector ≠ .empty → ∀ part ∈ parts selector.text, pair? part ≠ none)
      ∧ (selector.text = "" ↔ selector = .empty)
      ∧ (selector.text = other.text → selector = other) := by
  have hempty : selector.required.entries = [] ↔ selector = .empty :=
    ⟨fun hnil => eq_of_required (Labels.eq_of_entries hnil), fun h => h ▸ rfl⟩
  refine ⟨filterMap_pair?_parts h, ?_, (text_eq_empty_iff selector).trans hempty, ?_⟩
  · intro hne part hpart
    have hmem := List.mem_map_of_mem (f := pair?) hpart
    rw [map_pair?_parts h fun hnil => hne (hempty.1 hnil)] at hmem
    obtain ⟨entry, _, hentry⟩ := List.mem_map.1 hmem
    rw [← hentry]
    exact Option.some_ne_none entry
  · intro htext
    refine eq_of_required (Labels.eq_of_entries ?_)
    rw [← filterMap_pair?_parts h, ← filterMap_pair?_parts hother, htext]

/-- A pair of nothing with nothing, and a key that looks like a pair: the text is read back, and is
that of no selector but the one that is built the other way around. -/
theorem pair_of_empty_texts_is_read :
    let selector : LabelSelector := ⟨.ofList [("app", "web"), ("", ""), ("a=b", "x")]⟩
    let other : LabelSelector := ⟨.ofList [("a=b", "x"), ("", ""), ("app", "web")]⟩
    selector.text = "=,a=b=x,app=web"
      ∧ (parts selector.text).filterMap pair? = [("", ""), ("a=b", "x"), ("app", "web")]
      ∧ (∀ part ∈ parts selector.text, pair? part ≠ none) ∧ selector = other := by
  intro selector other
  have hgroup : Built (ofGroup ⟨"web"⟩) :=
    .group (by decide : forGroup ⟨"web"⟩ = .ok (ofGroup ⟨"web"⟩))
  have hblank : Built ⟨.ofList [("app", "web"), ("", "")]⟩ :=
    hgroup.label (by decide) (by decide : (ofGroup ⟨"web"⟩).withLabel "" "" = .ok _)
  have hselector : Built selector :=
    hblank.label (by decide) (by decide : LabelSelector.withLabel _ "a=b" "x" = .ok _)
  have hlooks : Built ⟨.ofList [("a=b", "x")]⟩ :=
    Built.empty.label (by decide) (by decide : LabelSelector.withLabel _ "a=b" "x" = .ok _)
  have hblank' : Built ⟨.ofList [("a=b", "x"), ("", "")]⟩ :=
    hlooks.label (by decide) (by decide : LabelSelector.withLabel _ "" "" = .ok _)
  have hother : Built other :=
    hblank'.label (by decide) (by decide : LabelSelector.withLabel _ "app" "web" = .ok _)
  obtain ⟨hpairs, hparts, _, hsame⟩ := text_determines_selector hselector hother
  exact ⟨by decide, hpairs.trans (by decide), hparts (by decide), hsame (by decide)⟩

end LabelSelector

end PodPlacement
