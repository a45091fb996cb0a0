/-! # Ordered lists — what a search finds, and what sorting keeps

    Positions on a ring and names of pods are searched in lists that have been
    sorted before.  A search along an ordered list finds the first of all
    elements that are sought (`rel_of_find?`, `exists_of_findSome?`); a stable sort leaves elements
    that are alike in the order in which they came (`filter_mergeSort`), and is
    the only list in the order of its key that does (`eq_of_filter_key`).

    Choosers and clusters are found by name in lists to which the latest of a
    name is added in place of the one before (`find?_replaced`). -/

namespace PodPlacement.Ordered

variable {α : Type}

/-- What a search finds comes before everything else that is sought. -/
theorem rel_of_find? {R : α → α → Prop} {l : List α} {q : α → Bool} {a b : α}
    (hl : l.Pairwise R) (ha : l.find? q = some a) (hb : b ∈ l) (hq : q b = true) :
    a = b ∨ R a b := by
  induction l with
  | nil => exact nomatch hb
  | cons head rest ih =>
      obtain ⟨hhead, hrest⟩ := List.pairwise_cons.1 hl
      by_cases hqh : q head = true
      · rw [List.find?_cons_of_pos hqh] at ha
        obtain rfl := Option.some.inj ha
        rcases List.mem_cons.1 hb with rfl | hb
        · exact Or.inl rfl
        · exact Or.inr (hhead b hb)
      · rw [List.find?_cons_of_neg hqh] at ha
        rcases List.mem_cons.1 hb with rfl | hb
        · exact absurd hq hqh
        · exact ih hrest ha hb

/-- What is made of the first element that anything is made of: all others of the kind come behind
it. -/
theorem exists_of_findSome? {β : Type} {R : α → α → Prop} {l : List α} {f : α → Option β} {b : β}
    (hl : l.Pairwise R) (h : l.findSome? f = some b) :
    ∃ a, f a = some b ∧ ∀ a' ∈ l, f a' ≠ none → a = a' ∨ R a a' := by
  induction l with
  | nil => exact nomatch h
  | cons head rest ih =>
      obtain ⟨hhead, hrest⟩ := List.pairwise_cons.1 hl
      rw [List.findSome?_cons] at h
      cases hf : f head with
      | some c =>
          rw [hf] at h
          refine ⟨head, hf.trans h, fun a' ha' _ => ?_⟩
          rcases List.mem_cons.1 ha' with rfl | ha'
          · exact Or.inl rfl
          · exact Or.inr (hhead a' ha')
      | none =>
          rw [hf] at h
          obtain ⟨a, ha, hbehind⟩ := ih hrest h
          refine ⟨a, ha, fun a' ha' hsome => ?_⟩
          rcases List.mem_cons.1 ha' with rfl | ha'
          · exact absurd hf hsome
          · exact hbehind a' ha' hsome

/-- In ordered lists the same is found among fewer elements, as long as it is one of them. -/
theorem find?_of_subset {R : α → α → Prop} (antisymm : ∀ a b, R a b → R b a → a = b)
    {l kept : List α} {q : α → Bool} {a : α} (hl : l.Pairwise R) (hkept : kept.Pairwise R)
    (hsub : ∀ b ∈ kept, b ∈ l) (ha : l.find? q = some a) (hmem : a ∈ kept) :
    kept.find? q = some a := by
  have hqa : q a = true := List.find?_some ha
  cases hb : kept.find? q with
  | none => exact absurd hqa (List.find?_eq_none.1 hb a hmem)
  | some b =>
      rcases rel_of_find? hkept hb hmem hqa with rfl | hba
      · rfl
      · have hbl := hsub b (List.mem_of_find?_eq_some hb)
        rcases rel_of_find? hl ha hbl (List.find?_some hb) with rfl | hab
        · rfl
        · rw [antisymm a b hab hba]

/-- The head of an ordered list comes before everything else in it. -/
theorem rel_of_head? {R : α → α → Prop} {l : List α} {a b : α}
    (hl : l.Pairwise R) (ha : l.head? = some a) (hb : b ∈ l) : a = b ∨ R a b := by
  cases l with
  | nil => exact nomatch hb
  | cons head rest =>
      obtain rfl := Option.some.inj ha
      rcases List.mem_cons.1 hb with rfl | hb
      · exact Or.inl rfl
      · exact Or.inr ((List.pairwise_cons.1 hl).1 b hb)

/-- A stable sort keeps the order of elements that are alike. -/
theorem filter_mergeSort (le : α → α → Bool)
    (trans : ∀ a b c, le a b = true → le b c = true → le a c = true)
    (total : ∀ a b, (le a b || le b a) = true) (l : List α) (q : α → Bool)
    (alike : ∀ a b, q a = true → q b = true → le a b = true) :
    (l.mergeSort le).filter q = l.filter q := by
  have hle : (l.filter q).Pairwise (fun a b => le a b = true) := by
    refine List.pairwise_of_forall_mem_list fun a ha b hb => ?_
    exact alike a b (List.mem_filter.1 ha).2 (List.mem_filter.1 hb).2
  -- The elements sought ascend, so sorting has them as a sublist in their old order.
  have hsub : (l.filter q).Sublist ((l.mergeSort le).filter q) := by
    have h := (List.sublist_mergeSort trans total hle List.filter_sublist).filter q
    rw [List.filter_filter] at h
    simpa using h
  refine (hsub.eq_of_length ?_).symm
  exact ((List.mergeSort_perm l le).filter q).length_eq.symm

/-- So does a search for the first of them. -/
theorem find?_mergeSort (le : α → α → Bool)
    (trans : ∀ a b c, le a b = true → le b c = true → le a c = true)
    (total : ∀ a b, (le a b || le b a) = true) (l : List α) (q : α → Bool)
    (alike : ∀ a b, q a = true → q b = true → le a b = true) :
    (l.mergeSort le).find? q = l.find? q := by
  rw [← List.head?_filter, ← List.head?_filter, filter_mergeSort le trans total l q alike]

/-! ## Lists in the order of a key -/

section Keyed

variable {κ : Type} [DecidableEq κ] {key : α → κ}

theorem mem_iff_of_filter_key {l l' : List α}
    (h : ∀ k, l.filter (key · = k) = l'.filter (key · = k)) (a : α) : a ∈ l ↔ a ∈ l' := by
  have hmem : a ∈ l.filter (key · = key a) ↔ a ∈ l'.filter (key · = key a) := by
    rw [h (key a)]
  rwa [List.mem_filter, List.mem_filter, and_iff_left (decide_eq_true rfl),
    and_iff_left (decide_eq_true rfl)] at hmem

theorem filter_of_filter_cons {a : α} {l l' : List α} {q : α → Bool}
    (h : (a :: l).filter q = (a :: l').filter q) : l.filter q = l'.filter q := by
  by_cases ha : q a = true
  · rw [List.filter_cons_of_pos ha, List.filter_cons_of_pos ha] at h
    exact (List.cons.inj h).2
  · rwa [List.filter_cons_of_neg ha, List.filter_cons_of_neg ha] at h

/-- Lists in the order of a key begin alike if the elements of each key are alike in them. -/
theorem head_eq_of_filter_key {R : κ → κ → Prop} (antisymm : ∀ a b, R a b → R b a → a = b)
    {a b : α} {l l' : List α} (hl : (a :: l).Pairwise fun a b => R (key a) (key b))
    (hl' : (b :: l').Pairwise fun a b => R (key a) (key b))
    (h : ∀ k, (a :: l).filter (key · = k) = (b :: l').filter (key · = k)) : a = b := by
  -- Each head stands somewhere in the other list, so neither key comes before the other.
  have hkey : key a = key b := by
    rcases List.mem_cons.1 ((mem_iff_of_filter_key h a).1 (List.mem_cons_self ..)) with rfl | ha
    · rfl
    · rcases List.mem_cons.1 ((mem_iff_of_filter_key h b).2 (List.mem_cons_self ..)) with rfl | hb
      · rfl
      · exact antisymm _ _ ((List.pairwise_cons.1 hl).1 b hb) ((List.pairwise_cons.1 hl').1 a ha)
  have hfirst := h (key a)
  rw [List.filter_cons_of_pos (by exact decide_eq_true rfl),
    List.filter_cons_of_pos (by exact decide_eq_true hkey.symm)] at hfirst
  exact (List.cons.inj hfirst).1

/-- Lists in the order of a key are one if the elements of each key are alike in them. -/
theorem eq_of_filter_key {R : κ → κ → Prop} (antisymm : ∀ a b, R a b → R b a → a = b)
    {l l' : List α} (hl : l.Pairwise fun a b => R (key a) (key b))
    (hl' : l'.Pairwise fun a b => R (key a) (key b))
    (h : ∀ k, l.filter (key · = k) = l'.filter (key · = k)) : l = l' := by
  induction l generalizing l' with
  | nil =>
      cases l' with
      | nil => rfl
      | cons b _ => exact nomatch (mem_iff_of_filter_key h b).2 (List.mem_cons_self ..)
  | cons a rest ih =>
      cases l' with
      | nil => exact nomatch (mem_iff_of_filter_key h a).1 (List.mem_cons_self ..)
      | cons b rest' =>
          obtain rfl := head_eq_of_filter_key antisymm hl hl' h
          have hrest := ih (List.pairwise_cons.1 hl).2 (List.pairwise_cons.1 hl').2
            fun k => filter_of_filter_cons (h k)
          rw [hrest]

end Keyed

/-! ## Lists by name -/

/-- What is put under a name is found there, and under any other name what was found before. -/
theorem find?_replaced (entries : List (String × α)) (name other : String) (a : α) :
    (((name, a) :: entries.filter (·.1 ≠ name)).find? (·.1 = other)).map Prod.snd
      = if other = name then some a else (entries.find? (·.1 = other)).map Prod.snd := by
  by_cases h : other = name
  · rw [if_pos h, List.find?_cons_of_pos (by simpa using h.symm)]
    rfl
  · rw [if_neg h, List.find?_cons_of_neg (by simpa using Ne.symm h), List.find?_filter]
    congr 2
    funext entry
    by_cases he : entry.1 = other
    · simp [he, h]
    · simp [he]

end PodPlacement.Ordered
