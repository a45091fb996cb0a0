import PodPlacement.Proofs.LabelGrammar

/-! # The reasons for refusals — true of the text, but for one that counts bytes

    A refusal comes with a reason, which words one of the three rules.  The
    rules speak of characters and the check of bytes:

    * the edge of a text has the byte of a letter or digit where its first or
      last character is one (`exists_edge`), and bytes that may not stand in a
      label value come from characters that may not (`all_isInner_iff`), so
      the reasons for edges and characters are true of every text for which
      they are given;
    * a text of more than 63 bytes may have fewer characters.  Such a text is
      told to be too long, which it is not; it has a character past ASCII,
      and breaks the rule for characters (`exists_other_of_longer`).

    Main statement: `reason_is_true_iff_characters_exceed`. -/

namespace PodPlacement.LabelValue

/-- What each reason says of a text. -/
inductive Breaks (value : String) : String → Prop where
  | length (long : 63 < value.length) : Breaks value "must be no more than 63 characters"
  | edge {c : Char} (edge : value.toList.head? = some c ∨ value.toList.getLast? = some c)
      (other : ¬ Plain c) : Breaks value "must begin and end with an alphanumeric character"
  | character {c : Char} (mem : c ∈ value.toList) (other : ¬ Inner c) :
      Breaks value "may only contain alphanumerics, '-', '_' or '.'"

theorem breaks_length_iff {value : String} :
    Breaks value "must be no more than 63 characters" ↔ 63 < value.length := by
  refine ⟨fun h => ?_, .length⟩
  generalize hreason : "must be no more than 63 characters" = reason at h
  cases h with
  | length long => exact long
  | edge _ _ => exact absurd hreason (by decide)
  | character _ _ => exact absurd hreason (by decide)

/-! ## What is found among the bytes -/

/-- What stands behind a fault: the rules are checked in order, and the first one broken is found. -/
inductive Evidence (bytes : List UInt8) : LabelFault → Prop where
  | tooLong (long : maxBytes < bytes.length) : Evidence bytes .tooLong
  | badEdge {b : UInt8} (fits : bytes.length ≤ maxBytes)
      (edge : bytes.head? = some b ∨ bytes.getLast? = some b) (other : ¬ isPlain b = true) :
      Evidence bytes .badEdge
  | badCharacter (fits : bytes.length ≤ maxBytes) (other : ¬ bytes.all isInner = true) :
      Evidence bytes .badCharacter

theorem exists_other_edge {bytes : ByteArray} (nonempty : 0 < bytes.size)
    (h : ¬ hasPlainEdges bytes nonempty = true) :
    ∃ b, (bytes.data.toList.head? = some b ∨ bytes.data.toList.getLast? = some b)
      ∧ ¬ isPlain b = true := by
  have hne : bytes.data.toList ≠ [] := List.ne_nil_of_length_pos nonempty
  have hfirst := List.head?_eq_some_head hne
  have hlast := List.getLast?_eq_some_getLast hne
  by_cases hplain : isPlain (bytes.data.toList.head hne) = true
  · refine ⟨_, Or.inr hlast, fun hplain' => h ?_⟩
    exact (hasPlainEdges_iff nonempty).2 ⟨⟨_, hfirst, hplain⟩, _, hlast, hplain'⟩
  · exact ⟨_, Or.inl hfirst, hplain⟩

theorem evidence_of_fault? {value : String} {fault : LabelFault} (h : fault? value = some fault) :
    Evidence (Text.bytes value) fault := by
  rw [fault?] at h
  split at h
  next nonempty =>
    split at h
    next hlong =>
      obtain rfl := Option.some.inj h
      exact .tooLong hlong
    next hfits =>
      have hfits : (Text.bytes value).length ≤ maxBytes := Nat.not_lt.1 hfits
      split at h
      next hedges =>
        obtain rfl := Option.some.inj h
        rw [Bool.not_eq_true'] at hedges
        obtain ⟨b, hedge, hother⟩ := exists_other_edge nonempty (Bool.eq_false_iff.1 hedges)
        exact .badEdge hfits hedge hother
      next =>
        split at h
        next hinner =>
          obtain rfl := Option.some.inj h
          rw [Bool.not_eq_true'] at hinner
          exact .badCharacter hfits (Bool.eq_false_iff.1 hinner)
        next => cases h
  next => cases h

theorem evidence_of_check {value : String} {e : SelectorError} (h : check value = .error e) :
    Evidence (Text.bytes value) e.fault := by
  rw [check] at h
  split at h
  next => cases h
  next fault hfault =>
    obtain rfl := Except.error.inj h
    exact evidence_of_fault? hfault

/-! ## Characters behind the bytes -/

/-- The byte of a letter or digit. -/
theorem encode_of_plain {c : Char} (h : Plain c) :
    ∃ b, String.utf8EncodeChar c = [b] ∧ isPlain b = true :=
  have hascii := Inner.ascii (Or.inl h)
  ⟨_, encode_of_ascii hascii, (isPlain_iff hascii).2 h⟩

/-- An edge byte that is none of a letter or digit is that of an edge character that is none. -/
theorem exists_edge {word : List Char} {b : UInt8}
    (h : (word.flatMap String.utf8EncodeChar).head? = some b
      ∨ (word.flatMap String.utf8EncodeChar).getLast? = some b)
    (hother : ¬ isPlain b = true) :
    ∃ c, (word.head? = some c ∨ word.getLast? = some c) ∧ ¬ Plain c := by
  rcases h with h | h
  · cases word with
    | nil => exact nomatch h
    | cons c rest =>
        refine ⟨c, Or.inl rfl, fun hplain => hother ?_⟩
        obtain ⟨byte, hencode, hbyte⟩ := encode_of_plain hplain
        rw [List.flatMap_cons, hencode] at h
        rwa [← Option.some.inj h]
  · rcases List.eq_nil_or_concat' word with rfl | ⟨init, c, rfl⟩
    · exact nomatch h
    · refine ⟨c, Or.inr List.getLast?_concat, fun hplain => hother ?_⟩
      obtain ⟨byte, hencode, hbyte⟩ := encode_of_plain hplain
      rw [List.flatMap_append, List.flatMap_singleton, hencode, List.getLast?_concat] at h
      rwa [← Option.some.inj h]

/-- A text with more bytes than characters has one that may not stand in a label value. -/
theorem exists_other_of_longer {value : String} (h : value.length < (Text.bytes value).length) :
    ∃ c ∈ value.toList, ¬ Inner c := by
  by_contra hnone
  have hinner : ∀ c ∈ value.toList, Inner c := by simpa using hnone
  rw [Text.bytes_eq, bytes_of_inner hinner, List.length_map, String.length_toList] at h
  exact Nat.lt_irrefl _ h

/-- **REASONS ARE TRUE UP TO THE COUNT OF BYTES**: the reason that a refusal gives is true of the
text, unless the text has more than 63 bytes but no more than 63 characters.  That one is told to
have too many characters; what it breaks is the rule for the characters themselves. -/
theorem reason_is_true_iff_characters_exceed {value : String} {e : SelectorError}
    (h : check value = .error e) :
    (Breaks value e.fault.reason ↔ (63 < (Text.bytes value).length → 63 < value.length))
      ∧ (¬ Breaks value e.fault.reason →
          e.fault.reason = "must be no more than 63 characters"
            ∧ Breaks value "may only contain alphanumerics, '-', '_' or '.'") := by
  have hevidence := evidence_of_check h
  generalize e.fault = fault at hevidence ⊢
  cases hevidence with
  | tooLong long =>
      have hreason : Breaks value LabelFault.tooLong.reason ↔ 63 < value.length :=
        breaks_length_iff
      rw [hreason]
      refine ⟨⟨fun hlength _ => hlength, fun hlength => hlength long⟩, fun hshort => ⟨rfl, ?_⟩⟩
      -- There are fewer characters than bytes, so some are past ASCII.
      obtain ⟨c, hmem, hother⟩ :=
        exists_other_of_longer (Nat.lt_of_le_of_lt (Nat.not_lt.1 hshort) long)
      exact .character hmem hother
  | badEdge fits edge other =>
      rw [Text.bytes_eq] at edge
      obtain ⟨c, hedge, hplain⟩ := exists_edge edge other
      have hbreaks : Breaks value LabelFault.badEdge.reason := .edge hedge hplain
      exact ⟨⟨fun _ hlong => absurd hlong (Nat.not_lt.2 fits), fun _ => hbreaks⟩,
        fun hnot => absurd hbreaks hnot⟩
  | badCharacter fits other =>
      rw [Text.bytes_eq, all_isInner_iff] at other
      obtain ⟨c, hc⟩ := not_forall.1 other
      obtain ⟨hmem, hinner⟩ := Classical.not_imp.1 hc
      have hbreaks : Breaks value LabelFault.badCharacter.reason := .character hmem hinner
      exact ⟨⟨fun _ hlong => absurd hlong (Nat.not_lt.2 fits), fun _ => hbreaks⟩,
        fun hnot => absurd hbreaks hnot⟩

/-- A text of 23 characters in 65 bytes: 21 of them are long dashes. -/
def dashed : String :=
  String.ofList ('a' :: List.replicate 21 '\u2014' ++ ['b'])

/-- Its refusal gives a reason that is not true of it, and it breaks another rule. -/
theorem dashed_text_breaks_another_rule :
    ∃ e, check dashed = .error e ∧ ¬ Breaks dashed e.fault.reason
      ∧ Breaks dashed "may only contain alphanumerics, '-', '_' or '.'" := by
  have herror : check dashed = .error ⟨dashed, .tooLong⟩ := by decide
  obtain ⟨htrue, hother⟩ := reason_is_true_iff_characters_exceed herror
  have hlong : 63 < (Text.bytes dashed).length := by decide
  have hnot : ¬ Breaks dashed LabelFault.tooLong.reason := by
    intro hbreaks
    exact absurd (htrue.1 hbreaks hlong) (by decide)
  exact ⟨_, herror, hnot, (hother hnot).2⟩

/-- Not every refusal gives a reason that is true of the text: the dashed one is told to have more
than 63 characters. -/
theorem dashed_text_is_told_too_long :
    ¬ ∀ value e, check value = .error e → Breaks value e.fault.reason := by
  intro h
  have herror : check dashed = .error ⟨dashed, .tooLong⟩ := by decide
  exact absurd (breaks_length_iff.1 (h dashed _ herror)) (by decide)

end PodPlacement.LabelValue
