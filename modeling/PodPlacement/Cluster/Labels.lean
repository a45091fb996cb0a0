/-! # Labels — values by key

    Labels are kept in ascending key order, each key once, so that two sets of
    labels with the same values are equal.  `Labels.get?_insert` says what an
    insertion does to every look-up. -/

namespace PodPlacement

/-- Values by key, in ascending key order. -/
structure Labels where
  entries : List (String × String)
  ascending : entries.Pairwise (·.1 < ·.1)
  deriving DecidableEq

namespace Labels

/-- No labels. -/
def empty : Labels := ⟨[], .nil⟩

/-- Puts a value under a key, in its place or in that of the value before. -/
def insertEntry (key value : String) : List (String × String) → List (String × String)
  | [] => [(key, value)]
  | (k, v) :: rest =>
    if key < k then (key, value) :: (k, v) :: rest
    else if k < key then (k, v) :: insertEntry key value rest
    else (key, value) :: rest

theorem mem_insertEntry {key value : String} {entries : List (String × String)}
    {e : String × String} (h : e ∈ insertEntry key value entries) :
    e = (key, value) ∨ e ∈ entries := by
  induction entries with
  | nil => exact Or.inl (List.mem_singleton.1 h)
  | cons head rest ih =>
    obtain ⟨k, v⟩ := head
    simp only [insertEntry] at h
    split at h
    · simpa using h
    · split at h
      · rcases List.mem_cons.1 h with h | h
        · exact Or.inr (h ▸ List.mem_cons_self ..)
        · exact (ih h).imp id (List.mem_cons_of_mem _)
      · rcases List.mem_cons.1 h with h | h
        · exact Or.inl h
        · exact Or.inr (List.mem_cons_of_mem _ h)

theorem ascending_insertEntry {key value : String} {entries : List (String × String)}
    (h : entries.Pairwise (·.1 < ·.1)) : (insertEntry key value entries).Pairwise (·.1 < ·.1) := by
  induction entries with
  | nil => exact List.pairwise_singleton ..
  | cons head rest ih =>
    obtain ⟨k, v⟩ := head
    obtain ⟨hk, hrest⟩ := List.pairwise_cons.1 h
    simp only [insertEntry]
    split
    next hlt =>
      refine List.pairwise_cons.2 ⟨?_, h⟩
      intro e he
      rcases List.mem_cons.1 he with rfl | he
      · exact hlt
      · exact String.lt_trans hlt (hk e he)
    next hnlt =>
      split
      next hgt =>
        refine List.pairwise_cons.2 ⟨?_, ih hrest⟩
        intro e he
        rcases mem_insertEntry he with rfl | he
        · exact hgt
        · exact hk e he
      next hngt =>
        have hkey : key = k := String.le_antisymm (String.not_lt.1 hngt) (String.not_lt.1 hnlt)
        exact List.pairwise_cons.2 ⟨hkey ▸ hk, hrest⟩

/-- The labels with one more value, which replaces that of the same key. -/
def insert (labels : Labels) (key value : String) : Labels :=
  ⟨insertEntry key value labels.entries, ascending_insertEntry labels.ascending⟩

/-- The value under a key in a list of entries. -/
def findEntry (key : String) : List (String × String) → Option String
  | [] => none
  | (k, v) :: rest => if key = k then some v else findEntry key rest

/-- The value under a key. -/
def get? (labels : Labels) (key : String) : Option String :=
  findEntry key labels.entries

/-- The labels that a list of pairs gives; of two values under a key the later counts. -/
def ofList (pairs : List (String × String)) : Labels :=
  pairs.foldl (fun labels p => labels.insert p.1 p.2) empty

theorem findEntry_insertEntry (key value k : String) (entries : List (String × String)) :
    findEntry k (insertEntry key value entries)
      = if k = key then some value else findEntry k entries := by
  induction entries with
  | nil => rfl
  | cons head rest ih =>
    obtain ⟨k', v⟩ := head
    simp only [insertEntry]
    split
    next hlt => rfl
    next hnlt =>
      split
      next hgt =>
        have hne : key ≠ k' := fun e => String.lt_irrefl _ (e ▸ hgt)
        by_cases hk : k = k'
        · subst hk
          simp [findEntry, Ne.symm hne]
        · simp [findEntry, hk, ih]
      next hngt =>
        have hkey : key = k' := String.le_antisymm (String.not_lt.1 hngt) (String.not_lt.1 hnlt)
        subst hkey
        by_cases hk : k = key <;> simp [findEntry, hk]

/-- An insertion shows at its key and nowhere else. -/
theorem get?_insert (labels : Labels) (key value k : String) :
    (labels.insert key value).get? k = if k = key then some value else labels.get? k :=
  findEntry_insertEntry key value k labels.entries

theorem findEntry_eq_some_iff {key value : String} {entries : List (String × String)}
    (h : entries.Pairwise (·.1 < ·.1)) :
    findEntry key entries = some value ↔ (key, value) ∈ entries := by
  induction entries with
  | nil => exact ⟨nofun, nofun⟩
  | cons head rest ih =>
    obtain ⟨k, v⟩ := head
    obtain ⟨hk, hrest⟩ := List.pairwise_cons.1 h
    rw [findEntry, List.mem_cons]
    by_cases hkey : key = k
    · subst hkey
      -- No other entry has the key of the first.
      have hnot : (key, value) ∉ rest := fun hmem => String.lt_irrefl key (hk _ hmem)
      rw [if_pos rfl, or_iff_left hnot, Option.some_inj, Prod.mk.injEq, eq_self, true_and]
      exact eq_comm
    · have hne : (key, value) ≠ (k, v) := fun he => hkey (Prod.mk.inj he).1
      rw [if_neg hkey, or_iff_right hne]
      exact ih hrest

/-- What a look-up finds is an entry, and every entry is found. -/
theorem get?_eq_some_iff (labels : Labels) (key value : String) :
    labels.get? key = some value ↔ (key, value) ∈ labels.entries :=
  findEntry_eq_some_iff labels.ascending

theorem eq_of_entries {labels labels' : Labels} (h : labels.entries = labels'.entries) :
    labels = labels' := by
  cases labels
  cases labels'
  cases h
  rfl

end Labels

end PodPlacement
