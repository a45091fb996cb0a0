import PodPlacement.Decode.Field
import PodPlacement.Json.Decode
import PodPlacement.Proofs.JsonRoundTrip

/-! # Records as objects — the variations that make no difference

    A record is written as an object with one member for each of its fields.
    Whoever writes it by hand may put the members in another order, put in
    members of other names, and leave out members that hold what their field
    has by default.  `Varied` is the least relation with these steps.

    * `Varied.faithful` : each step keeps that every field is there at most
      once, with its own value, and that only defaults are missing.
    * `foldlM_of_faithful` : a reader that fills one slot after another has
      then filled the slots of just the members that are there.

    The values may be those of any notation; the last section is about readers
    of JSON objects. -/

namespace PodPlacement

/-- The fields of a kind of record, and what they have by default. -/
structure RecordFields (ν : Type) where
  names : List String
  distinct : names.Nodup
  defaults : List (String × ν)
  /-- May be the value of a member of another name. -/
  harmless : ν → Prop

namespace RecordFields

variable {ν : Type} (fields : RecordFields ν)

/-- The objects that stand for the record with these members of its own. -/
inductive Varied (own : List (String × ν)) : List (String × ν) → Prop where
  | same : Varied own own
  /-- In another order. -/
  | reordered {written written' : List (String × ν)} (before : Varied own written)
      (order : written.Perm written') : Varied own written'
  /-- With one more member, which is no field. -/
  | added {written : List (String × ν)} {name : String} {value : ν} (before : Varied own written)
      (other : name ∉ fields.names) (harmless : fields.harmless value) :
      Varied own ((name, value) :: written)
  /-- Without a member that says what would hold anyway. -/
  | leftOut {written : List (String × ν)} {m : String × ν} (before : Varied own (m :: written))
      (default : m ∈ fields.defaults) : Varied own written

/-- What an object has to keep to of a record with these members of its own. -/
structure Faithful (own written : List (String × ν)) : Prop where
  /-- Members of a field's name are the record's own. -/
  known : ∀ m ∈ written, m.1 ∈ fields.names → m ∈ own
  other : ∀ m ∈ written, m.1 ∉ fields.names → fields.harmless m.2
  /-- No field is there twice. -/
  once : written.Pairwise fun a b => a.1 ∈ fields.names → a.1 ≠ b.1
  /-- What is missing holds by default. -/
  missing : ∀ m ∈ own, m ∈ written ∨ m ∈ fields.defaults

variable {fields}

theorem mem_names_of_mem {own : List (String × ν)} (hown : own.map Prod.fst = fields.names)
    {m : String × ν} (hm : m ∈ own) : m.1 ∈ fields.names := by
  rw [← hown]
  exact List.mem_map.2 ⟨m, hm, rfl⟩

/-- **EVERY VARIATION IS FAITHFUL** to a record with a member for each field: each of its steps
is. -/
theorem Varied.faithful {own written : List (String × ν)} (h : fields.Varied own written)
    (hown : own.map Prod.fst = fields.names) : fields.Faithful own written := by
  induction h with
  | same =>
      have hne : own.Pairwise fun a b => a.1 ≠ b.1 := by
        have hdistinct := fields.distinct
        rw [← hown] at hdistinct
        exact List.pairwise_map.1 hdistinct
      have honce : own.Pairwise fun a b => a.1 ∈ fields.names → a.1 ≠ b.1 :=
        List.Pairwise.imp (fun {a b} (hab : a.1 ≠ b.1) (_ : a.1 ∈ fields.names) => hab) hne
      exact ⟨fun m hm _ => hm, fun m hm hother => absurd (mem_names_of_mem hown hm) hother, honce,
        fun m hm => Or.inl hm⟩
  | @reordered written written' _ order ih =>
      obtain ⟨known, other, once, missing⟩ := ih
      refine ⟨fun m hm => known m (order.mem_iff.2 hm), fun m hm => other m (order.mem_iff.2 hm),
        ?_, fun m hm => (missing m hm).imp order.mem_iff.1 id⟩
      refine (order.pairwise_iff ?_).1 once
      intro a b hab hb heq
      exact hab (heq ▸ hb) heq.symm
  | @added written name value _ hother hharmless ih =>
      obtain ⟨known, other, once, missing⟩ := ih
      refine ⟨?_, ?_, ?_, fun m hm => (missing m hm).imp (List.mem_cons_of_mem _) id⟩
      · intro m hm hname
        rcases List.mem_cons.1 hm with rfl | hm
        · exact absurd hname hother
        · exact known m hm hname
      · intro m hm hname
        rcases List.mem_cons.1 hm with rfl | hm
        · exact hharmless
        · exact other m hm hname
      · exact List.pairwise_cons.2 ⟨fun m _ hname => absurd hname hother, once⟩
  | @leftOut written m _ hdefault ih =>
      obtain ⟨known, other, once, missing⟩ := ih
      refine ⟨fun m' hm' => known m' (List.mem_cons_of_mem _ hm'),
        fun m' hm' => other m' (List.mem_cons_of_mem _ hm'), (List.pairwise_cons.1 once).2, ?_⟩
      intro m' hm'
      rcases missing m' hm' with hwritten | hmissing
      · rcases List.mem_cons.1 hwritten with rfl | hwritten
        · exact Or.inr hdefault
        · exact Or.inl hwritten
      · exact Or.inr hmissing

/-! ## Reading an object member by member -/

variable {σ ε : Type} (fields)

/-- A reader that takes in members one after another; `reading seen` is how far it has come when it
has seen members of these names. -/
structure Reads (own : List (String × ν)) (put : σ → String × ν → Except ε σ)
    (reading : List String → σ) : Prop where
  /-- The value of a field goes into the field's slot. -/
  field : ∀ seen, ∀ m ∈ own, m.1 ∉ seen → put (reading seen) m = .ok (reading (m.1 :: seen))
  /-- Any other member is passed over. -/
  pass : ∀ seen m, m.1 ∉ fields.names → fields.harmless m.2 →
    put (reading seen) m = .ok (reading (m.1 :: seen))

/-- The names of the members of an object, the last one first. -/
def seenIn (written : List (String × ν)) : List String := (written.map Prod.fst).reverse

theorem mem_seenIn {written : List (String × ν)} {m : String × ν} (h : m ∈ written) :
    m.1 ∈ seenIn written :=
  List.mem_reverse.2 (List.mem_map.2 ⟨m, h, rfl⟩)

variable {fields}

/-- **A FAITHFUL OBJECT IS READ TO ITS END**: no member meets a slot that is filled already. -/
theorem foldlM_of_faithful {own written : List (String × ν)} (h : fields.Faithful own written)
    {put : σ → String × ν → Except ε σ} {reading : List String → σ}
    (reads : fields.Reads own put reading) :
    written.foldlM put (reading []) = .ok (reading (seenIn written)) := by
  obtain ⟨known, other, once, -⟩ := h
  -- The run from any names seen so far, none of which is a field that is still to come.
  have hrun : ∀ seen : List String, (∀ m ∈ written, m.1 ∈ fields.names → m.1 ∉ seen) →
      written.foldlM put (reading seen) = .ok (reading (seenIn written ++ seen)) := by
    induction written with
    | nil => exact fun seen _ => rfl
    | cons m rest ih =>
        intro seen hfresh
        obtain ⟨honce, hrest⟩ := List.pairwise_cons.1 once
        have hput : put (reading seen) m = .ok (reading (m.1 :: seen)) := by
          by_cases hname : m.1 ∈ fields.names
          · exact reads.field seen m (known m (List.mem_cons_self ..) hname)
              (hfresh m (List.mem_cons_self ..) hname)
          · exact reads.pass seen m hname (other m (List.mem_cons_self ..) hname)
        have hmore := ih (fun m' hm' => known m' (List.mem_cons_of_mem _ hm'))
          (fun m' hm' => other m' (List.mem_cons_of_mem _ hm')) hrest (m.1 :: seen) (by
            intro m' hm' hname' hseen
            rcases List.mem_cons.1 hseen with heq | hseen
            · exact honce m' hm' (heq ▸ hname') heq.symm
            · exact hfresh m' (List.mem_cons_of_mem _ hm') hname' hseen)
        have hseen : seenIn (m :: rest) ++ seen = seenIn rest ++ m.1 :: seen := by
          simp [seenIn]
        rw [List.foldlM_cons, hput, hseen, ← hmore]
        rfl
  rw [hrun [] fun _ _ _ => List.not_mem_nil, List.append_nil]

end RecordFields

/-! ## Slots -/

/-- The slot of a field when members of these names have been seen. -/
def slot {α : Type} (seen : List String) (name : String) (a : α) : Option α :=
  if name ∈ seen then some a else none

section Slot

variable {α ε : Type} {seen : List String} {name : String} {a : α}

@[simp] theorem slot_cons_self : slot (name :: seen) name a = some a :=
  if_pos (List.mem_cons_self ..)

/-- A member of another name leaves a slot as it is. -/
theorem slot_cons_of_ne {other : String} (h : name ≠ other) :
    slot (other :: seen) name a = slot seen name a := by
  unfold slot
  by_cases hseen : name ∈ seen
  · rw [if_pos hseen, if_pos (List.mem_cons_of_mem _ hseen)]
  · rw [if_neg hseen, if_neg fun hmem => (List.mem_cons.1 hmem).elim h hseen]

/-- The first member of a field's name fills its slot. -/
theorem fillField_slot (fail : DecodeFault → ε) {read : Unit → Except ε α} (h : name ∉ seen)
    (hread : read () = .ok a) :
    fillField fail name (slot seen name a) read = .ok (slot (name :: seen) name a) := by
  unfold fillField slot
  rw [if_neg h, if_pos (List.mem_cons_self ..), hread]
  rfl

/-- A slot gives the field's value, if it is filled or the value is what holds by default. -/
theorem getD_slot {default : α} (h : name ∈ seen ∨ a = default) :
    (slot seen name a).getD default = a := by
  unfold slot
  split
  next => rfl
  next hseen => exact (h.resolve_left hseen).symm

end Slot

/-- A value that is read back is the only one with its form. -/
theorem eq_of_read {α ν ε : Type} {read : ν → Except ε α} {write : α → ν}
    (hread : ∀ a, read (write a) = .ok a) {a b : α} (h : write a = write b) : a = b := by
  have ha := hread a
  rw [h, hread b] at ha
  exact (Except.ok.inj ha).symm

/-! ## JSON objects -/

namespace Json

variable {α : Type} {decode : Json → Except JsonError α} {text : String} {value : Json}

theorem decodeText_of_ok {a : α} (hread : ofText text = (value, [])) (h : decode value = .ok a) :
    decodeText decode text = .ok a := by
  unfold decodeText
  rw [hread]
  show (decode value >>= fun a => _) = _
  rw [h]
  rfl

theorem decodeText_of_error {rest : List Char} {e : JsonError}
    (hread : ofText text = (value, rest)) (h : decode value = .error e) :
    decodeText decode text = .error e := by
  unfold decodeText
  rw [hread]
  show (decode value >>= fun a => _) = _
  rw [h]
  rfl

end Json

namespace Json.RecordReader

variable {ρ α : Type} (reader : RecordReader ρ α)

/-- The fields of a record as its reader knows them; a member of another name may have any value
that is whole. -/
def recordFields (distinct : reader.fields.Nodup) (defaults : List (String × Json)) :
    RecordFields Json :=
  ⟨reader.fields, distinct, defaults, Whole⟩

variable {reader} {distinct : reader.fields.Nodup} {defaults own written : List (String × Json)}

/-- A faithful object is whole, if the record's own members are. -/
theorem whole_of_faithful (h : (reader.recordFields distinct defaults).Faithful own written)
    (hown : ∀ m ∈ own, m.2.Whole) : (Json.record written).Whole := by
  refine .object fun m hm => ?_
  by_cases hname : m.1 ∈ reader.fields
  · exact hown m (h.known m hm hname)
  · exact h.other m hm hname

/-- **A FAITHFUL OBJECT IS DECODED** from the slots that its members fill. -/
theorem decode_of_faithful (h : (reader.recordFields distinct defaults).Faithful own written)
    (hown : own.map Prod.fst = reader.fields) (reading : List String → ρ)
    (hblank : reading [] = reader.blank)
    (hfield : ∀ seen, ∀ m ∈ own, m.1 ∉ seen →
      reader.put (reading seen) m.1 m.2 = .ok (reading (m.1 :: seen)))
    (hother : ∀ seen name, name ∉ reader.fields → reading (name :: seen) = reading seen) :
    reader.decode (.record written)
      = (reader.finish (reading (RecordFields.seenIn written))).mapError .data := by
  have hreads : (reader.recordFields distinct defaults).Reads own
      (fun read m => reader.putMember read (member m)) reading := by
    refine ⟨?_, ?_⟩
    · intro seen m hm hfresh
      have hown' : own.map Prod.fst = (reader.recordFields distinct defaults).names := hown
      have hname : m.1 ∈ reader.fields := RecordFields.mem_names_of_mem hown' hm
      show (if m.1 ∈ reader.fields then _ else _) = _
      rw [if_pos hname]
      exact hfield seen m hm hfresh
    · intro seen m (hname : m.1 ∉ reader.fields) hwhole
      have hpass : m.2.pass = .ok () := by
        rw [pass, skip_of_whole hwhole]
        rfl
      show (if m.1 ∈ reader.fields then _ else _) = _
      rw [if_neg hname, hother seen m.1 hname, hpass]
      rfl
  have hfold := RecordFields.foldlM_of_faithful h hreads
  show ((written.map member).foldlM reader.putMember reader.blank >>= fun read => _) = _
  rw [List.foldlM_map, ← hblank, hfold]
  rfl

end Json.RecordReader

end PodPlacement
