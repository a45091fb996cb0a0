import PodPlacement.Discovery.Lister
import PodPlacement.Proofs.JsonRoundTrip
import PodPlacement.Proofs.RecordForms
import PodPlacement.Proofs.StampRoundTrip

/-! # Pods as JSON — decoding undoes encoding

    A list of pods is written as an array with one object for each pod.  Each
    object may be varied: members in another order, members of other names,
    members left out that hold a default (`RecordFields.Varied`).  Whatever the
    variation, a lister that is made of the text serves the pods that were
    written, in their order.

    * Field by field the decoder undoes the encoder: labels because they are
      written in key order (`Labels.ofJson_toJson`), the phase by its name, the
      instant of a deletion by `Instant.ofText_text`.
    * The reader of pods takes in such members one by one (`Pod.put_member`), so
      `Pod.ofJson_of_varied` follows from what variations keep.
    * One element that is no pod takes the whole list with it
      (`Lister.mapM_eq_error`).

    Main statement: `Lister.decoding_undoes_encoding`. -/

namespace PodPlacement

/-! ## Labels -/

namespace Labels

/-- A key above all others goes to the end. -/
theorem insertEntry_of_above {key value : String} {entries : List (String × String)}
    (h : ∀ e ∈ entries, e.1 < key) : insertEntry key value entries = entries ++ [(key, value)] := by
  induction entries with
  | nil => rfl
  | cons head rest ih =>
      obtain ⟨k, v⟩ := head
      have hk : k < key := h (k, v) (List.mem_cons_self ..)
      rw [insertEntry, if_neg (String.lt_asymm hk), if_pos hk,
        ih fun e he => h e (List.mem_cons_of_mem _ he)]
      rfl

/-- The reader of labels, at a member. -/
def readEntry (labels : Labels) (m : Except Break String × Json) : Except JsonError Labels := do
  let key ← m.1.mapError fun fault => .text fault.read
  return labels.insert key (← m.2.asString)

/-- Entries in key order are put one after another. -/
theorem foldlM_readEntry (rest : List (String × String)) (labels target : Labels)
    (h : target.entries = labels.entries ++ rest) :
    (rest.map fun e => ((.ok e.1, .ofString e.2) : Except Break String × Json)).foldlM
      readEntry labels = .ok target := by
  induction rest generalizing labels with
  | nil =>
      rw [List.append_nil] at h
      rw [eq_of_entries h]
      rfl
  | cons e rest ih =>
      obtain ⟨key, value⟩ := e
      have habove : ∀ e ∈ labels.entries, e.1 < key := by
        have hpair := target.ascending
        rw [h] at hpair
        exact fun e he => (List.pairwise_append.1 hpair).2.2 e he _ (List.mem_cons_self ..)
      have hinsert : (labels.insert key value).entries = labels.entries ++ [(key, value)] :=
        insertEntry_of_above habove
      have hmore := ih (labels.insert key value) (by
        rw [hinsert, h, List.append_assoc]
        rfl)
      rw [List.map_cons, List.foldlM_cons]
      exact hmore

/-- **LABELS ARE READ BACK** from their object. -/
theorem ofJson_toJson (labels : Labels) : ofJson labels.toJson = .ok labels := by
  have hmembers : labels.toJson
      = .object (labels.entries.map fun e => (.ok e.1, .ofString e.2)) none := by
    unfold toJson Json.record
    rw [List.map_map]
    rfl
  rw [hmembers]
  show (List.foldlM readEntry empty _ >>= fun labels => _) = _
  rw [foldlM_readEntry labels.entries empty labels rfl]
  rfl

/-- The object of labels is whole. -/
theorem whole_toJson (labels : Labels) : labels.toJson.Whole := by
  refine .object fun m hm => ?_
  obtain ⟨e, -, rfl⟩ := List.mem_map.1 hm
  exact .string e.2

end Labels

/-! ## The fields of a pod -/

theorem PodPhase.ofJson_name (phase : PodPhase) :
    PodPhase.ofJson (.ofString phase.name) = .ok phase :=
  Json.asVariant_ofString phase.ofName?_name

theorem Instant.ofJson_text (i : Instant) : Instant.ofJson (.ofString i.text) = .ok i := by
  rw [Json.ofString, Instant.ofJson, Instant.ofText_text]
  rfl

namespace Pod

/-- A value or `null` is read back, if the value is. -/
theorem asOption_optionJson {α : Type} (encode : α → Json) (decode : Json → Except JsonError α)
    (hnull : ∀ a, encode a ≠ .null) (hread : ∀ a, decode (encode a) = .ok a) (a? : Option α) :
    (optionJson encode a?).asOption decode = .ok a? := by
  cases a? with
  | none => rfl
  | some a =>
      show (encode a).asOption decode = _
      rw [Json.asOption.eq_2 decode (encode a) (hnull a), hread]
      rfl

theorem asOption_ofString (s? : Option String) :
    (optionJson .ofString s?).asOption Json.asString = .ok s? :=
  asOption_optionJson Json.ofString Json.asString (fun _ h => Json.noConfusion h) (fun _ => rfl) s?

theorem asOption_stamp (i? : Option Instant) :
    (optionJson (fun i => .ofString i.text) i?).asOption Instant.ofJson = .ok i? :=
  asOption_optionJson (fun i : Instant => .ofString i.text) Instant.ofJson
    (fun _ h => Json.noConfusion h) Instant.ofJson_text i?

/-- The members that say what holds of a pod by default. -/
def defaults : List (String × Json) :=
  [("namespace", .null), ("labels", Labels.empty.toJson),
   ("phase", .ofString PodPhase.unknown.name), ("podIP", .null), ("deletionTimestamp", .null)]

/-- The objects that stand for a pod. -/
def Varied (pod : Pod) : List (String × Json) → Prop :=
  (PodFields.reader.recordFields (by decide) defaults).Varied pod.members

/-- How far the reader of pods has come when it has seen members of these names. -/
def reading (pod : Pod) (seen : List String) : PodFields where
  name := slot seen "name" pod.name
  scope := slot seen "namespace" pod.scope
  labels := slot seen "labels" pod.labels
  phase := slot seen "phase" pod.phase
  address := slot seen "podIP" pod.address
  deletedAt := slot seen "deletionTimestamp" pod.deletedAt

/-- **ONE MEMBER OF A POD IS READ** into the slot of its field, and the other slots stay. -/
theorem put_member (pod : Pod) (seen : List String) {m : String × Json} (h : m ∈ pod.members)
    (hfresh : m.1 ∉ seen) :
    (pod.reading seen).put m.1 m.2 = .ok (pod.reading (m.1 :: seen)) := by
  unfold members at h
  simp only [List.mem_cons, List.not_mem_nil, or_false] at h
  have hname : (Json.ofString pod.name).asString = .ok pod.name := rfl
  have hscope := asOption_ofString pod.scope
  have hlabels := Labels.ofJson_toJson pod.labels
  have hphase := PodPhase.ofJson_name pod.phase
  have haddress := asOption_ofString pod.address
  have hdeleted := asOption_stamp pod.deletedAt
  rcases h with rfl | rfl | rfl | rfl | rfl | rfl
  all_goals
    simp [PodFields.put, reading, fillField_slot JsonError.data hfresh, hname, hscope, hlabels,
      hphase, haddress, hdeleted, slot_cons_of_ne]

theorem reading_cons_of_other (pod : Pod) (seen : List String) {name : String}
    (h : name ∉ PodFields.names) : pod.reading (name :: seen) = pod.reading seen := by
  have hne : ∀ field ∈ PodFields.names, field ≠ name := fun field hfield heq => h (heq ▸ hfield)
  unfold reading
  rw [slot_cons_of_ne (hne _ (by decide)), slot_cons_of_ne (hne _ (by decide)),
    slot_cons_of_ne (hne _ (by decide)), slot_cons_of_ne (hne _ (by decide)),
    slot_cons_of_ne (hne _ (by decide)), slot_cons_of_ne (hne _ (by decide))]

/-- **WHAT IS MISSING HOLDS BY DEFAULT**, so the pod is known from the members that are there. -/
theorem pod_reading {pod : Pod} {seen : List String}
    (h : ∀ m ∈ pod.members, m.1 ∈ seen ∨ m ∈ defaults) : (pod.reading seen).pod = .ok pod := by
  simp only [members, List.mem_cons, List.not_mem_nil, or_false, defaults, forall_eq_or_imp,
    Prod.mk.injEq, String.reduceEq, false_and, or_self, true_and, false_or, forall_eq] at h
  obtain ⟨hname, hscope, hlabels, hphase, haddress, hdeleted⟩ := h
  have hscope' : (slot seen "namespace" pod.scope).getD none = pod.scope :=
    getD_slot (hscope.imp id (eq_of_read asOption_ofString))
  have hlabels' : (slot seen "labels" pod.labels).getD .empty = pod.labels :=
    getD_slot (hlabels.imp id (eq_of_read Labels.ofJson_toJson))
  have hphase' : (slot seen "phase" pod.phase).getD .unknown = pod.phase :=
    getD_slot (hphase.imp id (eq_of_read PodPhase.ofJson_name))
  have haddress' : (slot seen "podIP" pod.address).getD none = pod.address :=
    getD_slot (haddress.imp id (eq_of_read asOption_ofString))
  have hdeleted' : (slot seen "deletionTimestamp" pod.deletedAt).getD none = pod.deletedAt :=
    getD_slot (hdeleted.imp id (eq_of_read asOption_stamp))
  have hname' : slot seen "name" pod.name = some pod.name := if_pos hname
  simp only [reading, PodFields.pod, hname', hscope', hlabels', hphase', haddress', hdeleted']

theorem names_members (pod : Pod) : pod.members.map Prod.fst = PodFields.names := rfl

theorem Varied.faithful {pod : Pod} {written : List (String × Json)} (h : pod.Varied written) :
    (PodFields.reader.recordFields (by decide) defaults).Faithful pod.members written :=
  RecordFields.Varied.faithful h (names_members pod)

/-- **A POD IS READ BACK** from every object that stands for it. -/
theorem ofJson_of_varied {pod : Pod} {written : List (String × Json)} (h : pod.Varied written) :
    ofJson (.record written) = .ok pod := by
  have hdecode := Json.RecordReader.decode_of_faithful h.faithful (names_members pod) pod.reading
    rfl (fun seen m hm hfresh => pod.put_member seen hm hfresh)
    (fun seen name hname => pod.reading_cons_of_other seen hname)
  have hpod : (pod.reading (RecordFields.seenIn written)).pod = .ok pod :=
    pod_reading fun m hm => (h.faithful.missing m hm).imp RecordFields.mem_seenIn id
  unfold ofJson
  rw [hdecode]
  show ((pod.reading (RecordFields.seenIn written)).pod).mapError _ = _
  rw [hpod]
  rfl

/-- The values of a pod's members are whole. -/
theorem whole_of_mem_members {pod : Pod} {m : String × Json} (h : m ∈ pod.members) : m.2.Whole := by
  have hoption (s? : Option String) : (optionJson .ofString s?).Whole := by
    cases s? with
    | none => exact .null
    | some s => exact .string s
  unfold members at h
  simp only [List.mem_cons, List.not_mem_nil, or_false] at h
  rcases h with rfl | rfl | rfl | rfl | rfl | rfl
  · exact .string pod.name
  · exact hoption pod.scope
  · exact Labels.whole_toJson pod.labels
  · exact .string pod.phase.name
  · exact hoption pod.address
  · cases hdeleted : pod.deletedAt with
    | none => exact .null
    | some i => exact .string i.text

/-- Every object that stands for a pod is whole. -/
theorem whole_of_varied {pod : Pod} {written : List (String × Json)} (h : pod.Varied written) :
    (Json.record written).Whole :=
  Json.RecordReader.whole_of_faithful h.faithful fun _ hm => whole_of_mem_members hm

theorem whole_list_of_varied {pods : List Pod} {written : List (List (String × Json))}
    (h : List.Forall₂ Varied pods written) : (Json.list (written.map .record)).Whole := by
  refine .array ?_
  induction h with
  | nil => exact fun item hitem => absurd hitem List.not_mem_nil
  | @cons pod ms pods written hvaried _ ih =>
      intro item hitem
      rcases List.mem_cons.1 hitem with rfl | hitem
      · exact whole_of_varied hvaried
      · exact ih item hitem

/-- **A LIST OF PODS IS READ BACK**, each pod from an object that stands for it. -/
theorem mapM_ofJson_of_varied {pods : List Pod} {written : List (List (String × Json))}
    (h : List.Forall₂ Varied pods written) : (written.map Json.record).mapM ofJson = .ok pods := by
  induction h with
  | nil => rfl
  | @cons pod ms pods written hvaried _ ih =>
      rw [List.map_cons, List.mapM_cons, ofJson_of_varied hvaried, ih]
      rfl

end Pod

/-! ## Listers -/

namespace Lister

theorem answer_empty_ofPods (pods : List Pod) : (ofPods pods).answer .empty = .ok pods := by
  have hall : pods.filter (fun pod => LabelSelector.empty.selects pod.labels) = pods :=
    List.filter_eq_self.2 fun _ _ => rfl
  show Except.ok (pods.filter fun pod => LabelSelector.empty.selects pod.labels) = _
  rw [hall]

/-- **A LIST WITH AN ELEMENT THAT IS NO POD IS REJECTED**, for the first such element. -/
theorem mapM_eq_error {α β ε : Type} {f : α → Except ε β} {items : List α} {item : α}
    (hmem : item ∈ items) (hitem : ∀ b, f item ≠ .ok b) :
    ∃ e, items.mapM f = .error e ∧ ∃ bad ∈ items, f bad = .error e := by
  induction items with
  | nil => exact absurd hmem List.not_mem_nil
  | cons head rest ih =>
      cases hhead : f head with
      | error e =>
          refine ⟨e, ?_, head, List.mem_cons_self .., hhead⟩
          rw [List.mapM_cons, hhead]
          rfl
      | ok b =>
          have hrest : item ∈ rest := by
            rcases List.mem_cons.1 hmem with rfl | hrest
            · exact absurd hhead (hitem b)
            · exact hrest
          obtain ⟨e, he, bad, hbad, hfault⟩ := ih hrest
          refine ⟨e, ?_, bad, List.mem_cons_of_mem _ hbad, hfault⟩
          rw [List.mapM_cons, hhead, he]
          rfl

/-- **DECODING UNDOES ENCODING.**  A lister made of a text serves the pods for which the objects of
the text stand, in their order and whatever their variation; the texts include the written form of
the objects.  One element that is no pod makes the whole text no lister. -/
theorem decoding_undoes_encoding :
    (∀ (pods : List Pod) (written : List (List (String × Json))),
      List.Forall₂ Pod.Varied pods written →
        (∀ text, Json.ofText text = (.list (written.map .record), []) →
          ∃ lister, ofJsonText text = .ok lister ∧ lister.pods = pods
            ∧ lister.answer .empty = .ok pods)
        ∧ Json.ofText (Json.list (written.map .record)).text
          = (.list (written.map .record), []))
      ∧ ∀ text items fault rest, Json.ofText text = (.array items fault, rest) →
        ∀ item ∈ items, (∀ pod, Pod.ofJson item ≠ .ok pod) →
          ∃ e, ofJsonText text = .error e ∧ ∃ bad ∈ items, Pod.ofJson bad = .error e := by
  refine ⟨fun pods written h => ⟨?_, ?_⟩, ?_⟩
  · intro text hread
    have hpods : Pod.listOfText text = .ok pods := by
      refine Json.decodeText_of_ok hread ?_
      show ((written.map Json.record).mapM Pod.ofJson >>= fun decoded => _) = _
      rw [Pod.mapM_ofJson_of_varied h]
      rfl
    refine ⟨ofPods pods, ?_, rfl, answer_empty_ofPods pods⟩
    rw [ofJsonText, hpods]
    rfl
  · exact Json.ofText_text (Pod.whole_list_of_varied h)
  · intro text items fault rest hread item hitem hbad
    obtain ⟨e, he, hfault⟩ := mapM_eq_error hitem hbad
    have hpods : Pod.listOfText text = .error e := by
      refine Json.decodeText_of_error hread ?_
      show (items.mapM Pod.ofJson >>= fun decoded => _) = _
      rw [he]
      rfl
    refine ⟨e, ?_, hfault⟩
    rw [ofJsonText, hpods]
    rfl

/-- An object in another order, with a note, and without members that say nothing. -/
theorem varied_replica : (Pod.plain "replica-a" .empty .running).Varied
    [("note", .list [.null]), ("name", .ofString "replica-a"), ("phase", .ofString "Running")] := by
  have hown : (Pod.plain "replica-a" .empty .running).Varied
      (Pod.plain "replica-a" .empty .running).members := .same
  -- The name goes to the end, then the phase; what stands before them is left out.
  have hname := hown.reordered (List.perm_append_singleton ("name", _) _).symm
  have hphase := ((hname.leftOut (.head _)).leftOut (.tail _ (.head _))).reordered
    (List.perm_append_singleton ("phase", _) _).symm
  have hshort := (hphase.leftOut (.tail _ (.tail _ (.tail _ (.head _))))).leftOut
    (.tail _ (.tail _ (.tail _ (.tail _ (.head _)))))
  exact hshort.added (by decide) (.array (by simp [Json.Whole.null]))

/-- A pod that is written by hand is served; one without a name makes its text no lister. -/
theorem replica_written_by_hand_is_served :
    (∃ lister, ofJsonText "[\x7b\"note\":[null],\"name\":\"replica-a\",\"phase\":\"Running\"\x7d]"
        = .ok lister ∧ lister.pods = [.plain "replica-a" .empty .running]
          ∧ lister.answer .empty = .ok [.plain "replica-a" .empty .running])
      ∧ ∃ e, ofJsonText "[\x7b\"phase\":\"Running\"\x7d]" = .error e := by
  have hserved := decoding_undoes_encoding.1 [.plain "replica-a" .empty .running] _
    (.cons varied_replica .nil)
  have hread : Json.ofText
      "[\x7b\"note\":[null],\"name\":\"replica-a\",\"phase\":\"Running\"\x7d]" = _ :=
    Json.ofText_eq (Pod.whole_list_of_varied (.cons varied_replica .nil)) (by decide +kernel)
  refine ⟨hserved.1 _ hread, ?_⟩
  have hnameless : Pod.ofJson (.record [("phase", .ofString "Running")])
      = .error (.data (.missingField "name")) := rfl
  have hwhole : (Json.list [.record [("phase", .ofString "Running")]]).Whole :=
    .array (by simpa using .object (by simpa using .string "Running"))
  obtain ⟨e, he, -⟩ := decoding_undoes_encoding.2 "[\x7b\"phase\":\"Running\"\x7d]" _ _ _
    (Json.ofText_eq hwhole (by decide +kernel)) _ (List.mem_singleton.2 rfl)
    (by simp [hnameless])
  exact ⟨e, he⟩

end Lister

end PodPlacement
