import PodPlacement.Json.Printer
import PodPlacement.Json.Reader
import PodPlacement.Proofs.DigitRuns

/-! # JSON texts — reading undoes writing

    `Json.chars` writes a value without blanks and `Json.ofText` reads whatever
    text it is given.  On a value that is whole, reading gives back what was
    written, member for member and digit for digit.

    * Strings go character by character: what `Text.EscapeStyle.char` writes is
      one `JsonText.Piece`, and that piece spells the character.
    * Numbers go part by part, each a run of digits that the next character
      ends.
    * Lists and objects go by induction on the value.  `length v.chars` steps
      are fuel enough, since every step of the reader stands at a character of
      its own.

    Main statement: `Json.ofText_text`. -/

namespace PodPlacement

/-! ## Strings -/

namespace JsonText

open Text

/-- The piece that a written character makes. -/
def piece (c : Char) : Piece :=
  if escapeLetter? c = none ∧ EscapeStyle.small.numbered c then .unit c.toNat else .char c

/-- The letters of escapes name the characters that they are written for. -/
theorem escaped?_of_escapeLetter? {c letter : Char} (h : escapeLetter? c = some letter) :
    escaped? letter = some c ∧ letter ≠ 'u' := by
  unfold escapeLetter? at h
  split at h
  next hquote =>
    cases h
    rcases hquote with rfl | rfl <;> decide
  all_goals
    repeat' split at h
    all_goals first | (subst_vars; cases h; decide) | cases h

theorem hexUnit?_numbered {c : Char} (h : c.toNat < 0x20) :
    hexUnit? ['0', '0', EscapeStyle.small.digit (c.toNat / 16),
      EscapeStyle.small.digit (c.toNat % 16)] = some c.toNat := by
  have hall : ∀ n < 0x20, hexUnit? ['0', '0', EscapeStyle.small.digit (n / 16),
      EscapeStyle.small.digit (n % 16)] = some n := by decide
  exact hall c.toNat h

/-- A written character is split off as its piece. -/
theorem split_char (c : Char) (rest : List Char) :
    split (EscapeStyle.small.char c ++ rest)
      = (piece c :: (split rest).1, (split rest).2.1, (split rest).2.2) := by
  unfold EscapeStyle.char piece
  cases hletter : escapeLetter? c with
  | some letter =>
      obtain ⟨hescaped, hu⟩ := escaped?_of_escapeLetter? hletter
      show split ('\\' :: letter :: rest) = _
      rw [split.eq_5 letter rest (fun _ _ _ _ _ h _ => hu h) hu, hescaped]
      simp
  | none =>
      by_cases hnumbered : EscapeStyle.small.numbered c = true
      · have hlt : c.toNat < 0x20 := of_decide_eq_true hnumbered
        simp only [hnumbered, if_true, and_self]
        show split ('\\' :: 'u' :: '0' :: '0' :: _ :: _ :: rest) = _
        rw [split.eq_3, hexUnit?_numbered hlt]
      · have hplain : c ≠ '"' ∧ c ≠ '\\' := by
          refine ⟨?_, ?_⟩ <;> rintro rfl <;> exact absurd hletter (by decide)
        have hge : ¬ c.toNat < 0x20 := fun hlt => hnumbered (decide_eq_true hlt)
        simp only [hnumbered, if_false, and_false, Bool.false_eq_true]
        show split (c :: rest) = _
        rw [split.eq_7 c rest hplain.1 (fun _ _ _ _ _ h _ => hplain.2 h) (fun _ h _ => hplain.2 h)
          (fun _ _ h _ => hplain.2 h) (fun h _ => hplain.2 h), if_neg hge]

theorem split_body (s rest : List Char) :
    split (s.flatMap EscapeStyle.small.char ++ '"' :: rest) = (s.map piece, none, rest) := by
  induction s with
  | nil => exact split.eq_2 rest
  | cons c s ih =>
      rw [List.flatMap_cons, List.append_assoc, split_char, ih]
      rfl

/-- Every piece spells the character that it was written for. -/
theorem spell_piece (c : Char) (pieces : List Piece) :
    spell none (piece c :: pieces) = (spell none pieces).map (c :: ·) := by
  unfold piece
  split
  next h =>
    have hlt : c.toNat < 0x20 := of_decide_eq_true h.2
    have htrail : isTrail c.toNat = false := by simp [isTrail]; omega
    have hlead : isLead c.toNat = false := by simp [isLead]; omega
    rw [spell.eq_def]
    simp only [htrail, hlead, Char.ofNat_toNat, Bool.false_eq_true, if_false]
  next => rfl

theorem spell_pieces (s : List Char) : spell none (s.map piece) = .ok s := by
  induction s with
  | nil => rfl
  | cons c s ih =>
      rw [List.map_cons, spell_piece, ih]
      rfl

/-- What stands between the quotes of a written text. -/
def body (s : String) : List Char := s.toList.flatMap EscapeStyle.small.char

theorem quoted_append (s : String) (rest : List Char) :
    quoted s ++ rest = '"' :: (body s ++ '"' :: rest) := by
  simp [quoted, EscapeStyle.quoted, body]

/-- **THE BODY OF A STRING IS READ BACK**, up to the quote that ends it. -/
theorem read_body (s : String) (rest : List Char) :
    read (body s ++ '"' :: rest) = (.ok s, rest) := by
  unfold read body
  rw [split_body]
  simp only [spell_pieces, String.ofList_toList]

end JsonText

/-! ## Numbers -/

/-- A text that does not go on with the number before it. -/
def Follows (rest : List Char) : Prop :=
  ∀ c ∈ rest.head?, c = ',' ∨ c = ']' ∨ c = '\x7d'

theorem follows_nil : Follows [] := by
  intro c hc
  cases hc

theorem follows_cons {c : Char} {rest : List Char} (h : c = ',' ∨ c = ']' ∨ c = '\x7d') :
    Follows (c :: rest) := by
  intro d hd
  cases hd
  exact h

namespace JsonNumber

/-- A literal as it may stand in a text: digits, and a zero in front only if it is the only one. -/
structure Proper (literal : JsonNumber) : Prop where
  whole_ne : literal.whole ≠ []
  whole_digit : ∀ c ∈ literal.whole, c.isDigit = true
  whole_zero : literal.whole.head? = some '0' → literal.whole.length ≤ 1
  places_digit : ∀ c ∈ literal.places, c.isDigit = true

/-- The exponent as it is written, with its letter. -/
def exponentChars : Option Int → List Char
  | none => []
  | some e => 'e' :: (if e < 0 then ['-'] else []) ++ Digits.shortest e.natAbs

/-- The written form after the sign. -/
def unsigned (literal : JsonNumber) : List Char :=
  literal.whole ++ (if literal.places.isEmpty then [] else '.' :: literal.places)
    ++ exponentChars literal.exponent

theorem text_eq (literal : JsonNumber) :
    literal.text = (if literal.negative then ['-'] else []) ++ literal.unsigned := by
  unfold text unsigned
  cases literal.exponent with
  | none => simp only [exponentChars, List.append_assoc]
  | some e => simp only [exponentChars, List.append_assoc]

theorem isDigit_of_follows {rest : List Char} (h : Follows rest) :
    ∀ c ∈ rest.head?, c.isDigit = false := by
  intro c hc
  rcases h c hc with rfl | rfl | rfl <;> rfl

/-- The literal of a natural number may stand in a text. -/
theorem proper_ofNat (n : Nat) : (ofNat n).Proper where
  whole_ne := Digits.shortest_ne_nil n
  whole_digit := Digits.isDigit_shortest n
  whole_zero h := by
    rcases Nat.eq_zero_or_pos n with rfl | hpos
    · exact Nat.le_refl 1
    · exact absurd h (Digits.head?_shortest hpos)
  places_digit _ h := absurd h List.not_mem_nil

/-- An exponent is read back. -/
theorem readExponent_chars (e : Int) {rest : List Char} (hrest : Follows rest) :
    readExponent ((if e < 0 then ['-'] else []) ++ Digits.shortest e.natAbs ++ rest)
      = .ok (e, rest) := by
  have hdigits : digits (Digits.shortest e.natAbs ++ rest) = (Digits.shortest e.natAbs, rest) :=
    Digits.span_append (Digits.isDigit_shortest _) (isDigit_of_follows hrest)
  have hne : (Digits.shortest e.natAbs).isEmpty = false :=
    List.isEmpty_eq_false_iff.2 (Digits.shortest_ne_nil _)
  by_cases he : e < 0
  · rw [if_pos he]
    show readExponent ('-' :: (Digits.shortest e.natAbs ++ rest)) = _
    unfold readExponent
    simp only [hdigits, hne, Bool.false_eq_true, if_false, if_true, Digits.value_shortest]
    congr 2
    omega
  · rw [if_neg he, List.nil_append]
    obtain ⟨c, ds, hc⟩ := List.exists_cons_of_ne_nil (Digits.shortest_ne_nil e.natAbs)
    have hdigit : c.isDigit = true :=
      Digits.isDigit_shortest e.natAbs c (hc ▸ List.mem_cons_self ..)
    have hsign : c ≠ '-' ∧ c ≠ '+' := by
      refine ⟨?_, ?_⟩ <;> rintro rfl <;> exact absurd hdigit (by decide)
    have hread (s : List Char) : readExponent (c :: s)
        = if (digits (c :: s)).1.isEmpty then .error (stop (c :: s))
          else .ok (Digits.value (digits (c :: s)).1, (digits (c :: s)).2) := by
      unfold readExponent
      simp [hsign.1, hsign.2]
    rw [hc, List.cons_append, hread, ← List.cons_append, ← hc, hdigits]
    simp only [hne, Bool.false_eq_true, if_false, Digits.value_shortest]
    congr 2
    omega

/-- The last step of reading a literal: its exponent, if there is one. -/
def readEnd (negative : Bool) (whole places : List Char) :
    List Char → Except Break (JsonNumber × List Char)
  | [] => .ok (⟨negative, whole, places, none⟩, [])
  | c :: s =>
    if c = 'e' ∨ c = 'E' then
      (readExponent s).map fun (exponent, rest) => (⟨negative, whole, places, some exponent⟩, rest)
    else .ok (⟨negative, whole, places, none⟩, c :: s)

theorem bind_readEnd (negative : Bool) (whole places : List Char) (c : Char) (s : List Char) :
    (do
      let (places, rest) ← (pure (places, c :: s) : Except Break (List Char × List Char))
      match rest with
      | c :: s =>
        if c = 'e' ∨ c = 'E' then
          let (exponent, rest) ← readExponent s
          return (⟨negative, whole, places, some exponent⟩, rest)
        else return (⟨negative, whole, places, none⟩, rest)
      | [] => return (⟨negative, whole, places, none⟩, []))
      = readEnd negative whole places (c :: s) := by
  by_cases hc : c = 'e' ∨ c = 'E'
  · simp only [pure_bind, readEnd, if_pos hc]
    cases readExponent s <;> rfl
  · simp only [pure_bind, readEnd, if_neg hc]
    rfl

theorem readEnd_chars (negative : Bool) (whole places : List Char) (exponent : Option Int)
    {rest : List Char} (hrest : Follows rest) :
    readEnd negative whole places (exponentChars exponent ++ rest)
      = .ok (⟨negative, whole, places, exponent⟩, rest) := by
  cases exponent with
  | none =>
      cases rest with
      | nil => rfl
      | cons c rest => rcases hrest c rfl with rfl | rfl | rfl <;> rfl
  | some e =>
      show (readExponent ((if e < 0 then ['-'] else []) ++ Digits.shortest e.natAbs ++ rest)).map _
        = _
      rw [readExponent_chars e hrest]
      rfl

/-- What follows the digits of a literal is neither a digit nor a point. -/
theorem head?_exponentChars (exponent : Option Int) {rest : List Char} (hrest : Follows rest) :
    ∀ c ∈ (exponentChars exponent ++ rest).head?, c.isDigit = false ∧ c ≠ '.' := by
  cases exponent with
  | none =>
      intro c hc
      rcases hrest c hc with rfl | rfl | rfl <;> decide
  | some e =>
      rintro c ⟨⟩
      decide

/-- The digits of a literal are read; the last step is left. -/
theorem read_digits {negative : Bool} {whole places : List Char} (hne : whole ≠ [])
    (hwhole : ∀ c ∈ whole, c.isDigit = true) (hzero : whole.head? = some '0' → whole.length ≤ 1)
    (hplaces : ∀ c ∈ places, c.isDigit = true) {tail : List Char}
    (htail : ∀ c ∈ tail.head?, c.isDigit = false ∧ c ≠ '.') :
    read negative (whole ++ ((if places.isEmpty then [] else '.' :: places) ++ tail))
      = readEnd negative whole places tail := by
  have hlead : ¬ (whole.head? = some '0' ∧ 1 < whole.length) :=
    fun h => Nat.not_lt.2 (hzero h.1) h.2
  have hsome : whole.isEmpty = false := List.isEmpty_eq_false_iff.2 hne
  cases places with
  | nil =>
      have hdigits : digits (whole ++ tail) = (whole, tail) :=
        Digits.span_append hwhole fun c hc => (htail c hc).1
      show read negative (whole ++ tail) = _
      unfold read
      rw [hdigits]
      simp only [hsome, hlead, Bool.false_eq_true, if_false]
      cases tail with
      | nil => rfl
      | cons c tail =>
          have hpoint : c ≠ '.' := (htail c rfl).2
          split
          next heq => exact absurd (List.cons.inj heq).1 hpoint
          next => exact bind_readEnd ..
  | cons d places =>
      have hdigits : digits (whole ++ '.' :: (d :: places ++ tail))
          = (whole, '.' :: (d :: places ++ tail)) :=
        Digits.span_append hwhole fun c hc => by cases hc; rfl
      have hplaces' : digits (d :: places ++ tail) = (d :: places, tail) :=
        Digits.span_append hplaces fun c hc => (htail c hc).1
      show read negative (whole ++ '.' :: (d :: places ++ tail)) = _
      unfold read
      rw [hdigits]
      simp only [hsome, hlead, hplaces', Bool.false_eq_true, if_false, List.isEmpty_cons]
      cases tail with
      | nil => rfl
      | cons c tail =>
          exact bind_readEnd ..

/-- **A NUMBER IS READ BACK** after its sign, up to a character that does not go on with it. -/
theorem read_unsigned {literal : JsonNumber} (h : literal.Proper) {rest : List Char}
    (hrest : Follows rest) :
    read literal.negative (literal.unsigned ++ rest) = .ok (literal, rest) := by
  unfold unsigned
  rw [List.append_assoc, List.append_assoc,
    read_digits h.whole_ne h.whole_digit h.whole_zero h.places_digit
      (head?_exponentChars _ hrest)]
  exact readEnd_chars _ _ _ _ hrest

end JsonNumber
/-! ## Values -/

namespace Json

/-- A member whose key is whole. -/
def member (m : String × Json) : Except Break String × Json := (.ok m.1, m.2)

/-- No text breaks off anywhere in the value, and its numbers are literals of JSON. -/
inductive Whole : Json → Prop where
  | null : Whole .null
  | bool (b : Bool) : Whole (.bool b)
  | number {literal : JsonNumber} (proper : literal.Proper) : Whole (.number literal)
  | string (s : String) : Whole (.string (.ok s))
  | array {items : List Json} (each : ∀ item ∈ items, Whole item) : Whole (.array items none)
  | object {members : List (String × Json)} (each : ∀ m ∈ members, Whole m.2) :
      Whole (.object (members.map member) none)

/-- **WHOLE VALUES ARE PASSED OVER** without a fault. -/
theorem skip_of_whole {value : Json} (h : value.Whole) : value.skip = .ok () := by
  induction h with
  | null => rfl
  | bool b => rfl
  | number proper => rfl
  | string s => rfl
  | @array items each ih =>
      have hitems : skipItems items = .ok () := by
        clear each
        induction items with
        | nil => rfl
        | cons item rest ihrest =>
            have hitem : skip item = .ok () := ih item (List.mem_cons_self ..)
            have hrest : skipItems rest = .ok () :=
              ihrest fun i hi => ih i (List.mem_cons_of_mem _ hi)
            simp only [skipItems, hitem, hrest]
            rfl
      simp only [skip, hitems]
      rfl
  | @object members each ih =>
      have hmembers : skipMembers (members.map member) = .ok () := by
        clear each
        induction members with
        | nil => rfl
        | cons m rest ihrest =>
            obtain ⟨key, value⟩ := m
            have hvalue : skip value = .ok () := ih (key, value) (List.mem_cons_self ..)
            have hrest := ihrest fun m hm => ih m (List.mem_cons_of_mem _ hm)
            simp only [List.map_cons, member, skipMembers, hvalue, hrest]
            rfl
      simp only [skip, hmembers]
      rfl

theorem dropSpace_cons {c : Char} (h : isSpace c = false) (s : List Char) :
    dropSpace (c :: s) = c :: s :=
  List.dropWhile_cons_of_neg (by rw [h]; exact Bool.false_ne_true)

theorem isSpace_of_isDigit {c : Char} (h : c.isDigit = true) : isSpace c = false := by
  have hne : c ≠ ' ' ∧ c ≠ '\n' ∧ c ≠ '\t' ∧ c ≠ '\r' := by
    refine ⟨?_, ?_, ?_, ?_⟩ <;> rintro rfl <;> exact absurd h (by decide)
  simp [isSpace, hne]

/-- A written value begins with a character that is neither blank nor the end of a list. -/
theorem chars_eq_cons {value : Json} (h : value.Whole) :
    ∃ c s, value.chars = c :: s ∧ isSpace c = false ∧ c ≠ ']' := by
  cases h with
  | null => exact ⟨'n', _, by rw [chars], by decide, by decide⟩
  | bool b => cases b <;> exact ⟨_, _, by rw [chars], by decide, by decide⟩
  | @number literal proper =>
      obtain ⟨d, ds, hwhole⟩ := List.exists_cons_of_ne_nil proper.whole_ne
      have hdigit : d.isDigit = true := proper.whole_digit d (hwhole ▸ List.mem_cons_self ..)
      rw [chars, JsonNumber.text_eq]
      cases literal.negative with
      | true => exact ⟨'-', literal.unsigned, rfl, by decide, by decide⟩
      | false =>
          have hne : d ≠ ']' := by
            rintro rfl
            exact absurd hdigit (by decide)
          exact ⟨d, _, by rw [JsonNumber.unsigned, hwhole]; rfl, isSpace_of_isDigit hdigit, hne⟩
  | string s => exact ⟨'"', _, by rw [chars]; rfl, by decide, by decide⟩
  | array each => exact ⟨'[', _, by rw [chars]; rfl, by decide, by decide⟩
  | object each => exact ⟨'\x7b', _, by rw [chars]; rfl, by decide, by decide⟩

theorem itemChars_eq_cons {item : Json} (more : List Json) (h : item.Whole) :
    ∃ c s, itemChars (item :: more) = c :: s ∧ isSpace c = false ∧ c ≠ ']' := by
  obtain ⟨c, s, hc, hspace, hne⟩ := chars_eq_cons h
  cases more with
  | nil => exact ⟨c, s, by rw [itemChars, hc], hspace, hne⟩
  | cons next more =>
      exact ⟨c, s ++ ',' :: itemChars (next :: more), by simp [itemChars, hc], hspace, hne⟩

/-- A text that begins with a digit is read as a number. -/
theorem readValue_digit (fuel : Nat) {c : Char} (h : c.isDigit = true) (s : List Char) :
    readValue (fuel + 1) (c :: s) = readNumber false (c :: s) := by
  rw [readValue, dropSpace_cons (isSpace_of_isDigit h)]
  split
  case h_9 c' s' _ _ _ _ _ _ _ heq =>
    obtain ⟨rfl, rfl⟩ := List.cons.inj heq
    exact if_pos h
  all_goals
    rename_i heq
    cases heq
    try exact absurd h (by decide)

/-- A number is read back with its sign. -/
theorem readValue_number (fuel : Nat) {literal : JsonNumber} (h : literal.Proper)
    {rest : List Char} (hrest : Follows rest) :
    readValue (fuel + 1) (literal.text ++ rest) = (.number literal, rest) := by
  have hread := JsonNumber.read_unsigned h hrest
  rw [JsonNumber.text_eq]
  cases hsign : literal.negative with
  | true =>
      show readValue (fuel + 1) ('-' :: (literal.unsigned ++ rest)) = _
      rw [readValue, dropSpace_cons (by decide)]
      show readNumber true _ = _
      rw [readNumber, ← hsign, hread]
  | false =>
      obtain ⟨d, ds, hwhole⟩ := List.exists_cons_of_ne_nil h.whole_ne
      have hdigit : d.isDigit = true := h.whole_digit d (hwhole ▸ List.mem_cons_self ..)
      have hcons : ∃ s, literal.unsigned ++ rest = d :: s := by
        rw [JsonNumber.unsigned, hwhole]
        exact ⟨_, rfl⟩
      obtain ⟨s, hs⟩ := hcons
      show readValue (fuel + 1) (literal.unsigned ++ rest) = _
      rw [hs, readValue_digit fuel hdigit, ← hs, readNumber, ← hsign, hread]

theorem readValue_string (fuel : Nat) (s : String) (rest : List Char) :
    readValue (fuel + 1) (JsonText.quoted s ++ rest) = (.string (.ok s), rest) := by
  rw [JsonText.quoted_append, readValue, dropSpace_cons (by decide)]
  show (Json.string (JsonText.read _).1, (JsonText.read _).2) = _
  rw [JsonText.read_body]

/-- A value is read back with so much fuel, whatever it is followed by. -/
def ReadBack (value : Json) : Prop :=
  ∀ fuel rest, value.chars.length ≤ fuel → Follows rest →
    readValue fuel (value.chars ++ rest) = (value, rest)

/-- **ITEMS ARE READ BACK** up to the bracket after them, if each of them is. -/
theorem readItems_chars {items : List Json} (hne : items ≠ [])
    (hwhole : ∀ item ∈ items, item.Whole) (hread : ∀ item ∈ items, item.ReadBack) (fuel : Nat)
    (hfuel : (itemChars items).length < fuel) (rest : List Char) :
    readItems fuel (itemChars items ++ ']' :: rest) = (items, none, rest) := by
  induction items generalizing fuel with
  | nil => exact absurd rfl hne
  | cons item more ih =>
      obtain ⟨fuel, rfl⟩ : ∃ n, fuel = n + 1 := ⟨fuel - 1, by omega⟩
      have hitem := hread item (List.mem_cons_self ..)
      cases more with
      | nil =>
          rw [itemChars] at hfuel ⊢
          rw [readItems, hitem fuel (']' :: rest) (by omega) (follows_cons (by decide))]
          simp only [dropSpace_cons (c := ']') (by decide)]
      | cons next more =>
          have hchars : itemChars (item :: next :: more)
              = item.chars ++ ',' :: itemChars (next :: more) := by simp [itemChars]
          rw [hchars, List.length_append, List.length_cons] at hfuel
          have hmore : readItems fuel (itemChars (next :: more) ++ ']' :: rest)
              = (next :: more, none, rest) :=
            ih (List.cons_ne_nil _ _) (fun i hi => hwhole i (List.mem_cons_of_mem _ hi))
              (fun i hi => hread i (List.mem_cons_of_mem _ hi)) fuel (by omega)
          obtain ⟨c, s, hc, hspace, hbracket⟩ := itemChars_eq_cons more (hwhole next (by simp))
          rw [hchars, List.append_assoc, List.cons_append, readItems,
            hitem fuel _ (by omega) (follows_cons (by decide))]
          simp only [dropSpace_cons (c := ',') (by decide)]
          rw [hc, List.cons_append] at hmore ⊢
          rw [dropSpace_cons hspace]
          split
          next heq => exact absurd (List.cons.inj heq).1 hbracket
          next => rw [hmore]

/-- **MEMBERS ARE READ BACK** from after the first quote up to the brace after them, if the value
of each of them is. -/
theorem readMembers_chars {members : List (String × Json)} (hne : members ≠ [])
    (hread : ∀ m ∈ members, m.2.ReadBack) (fuel : Nat)
    (hfuel : (memberChars (members.map member)).length ≤ fuel) (rest : List Char) :
    ∃ s, memberChars (members.map member) ++ '\x7d' :: rest = '"' :: s
      ∧ readMembers fuel s = (members.map member, none, rest) := by
  induction members generalizing fuel with
  | nil => exact absurd rfl hne
  | cons m more ih =>
      obtain ⟨key, value⟩ := m
      have hvalue : value.ReadBack := hread (key, value) (List.mem_cons_self ..)
      cases more with
      | nil =>
          have hchars : memberChars [member (key, value)]
              = JsonText.quoted key ++ ':' :: value.chars := by simp [memberChars, member, keyChars]
          rw [List.map_cons, List.map_nil, hchars, List.length_append, List.length_cons] at hfuel
          obtain ⟨fuel, rfl⟩ : ∃ n, fuel = n + 1 := ⟨fuel - 1, by omega⟩
          refine ⟨JsonText.body key ++ '"' :: ':' :: (value.chars ++ '\x7d' :: rest), ?_, ?_⟩
          · rw [List.map_cons, List.map_nil, hchars]
            simp [JsonText.quoted_append]
          · rw [readMembers, JsonText.read_body]
            simp only [dropSpace_cons (c := ':') (by decide)]
            rw [hvalue fuel _ (by omega) (follows_cons (by decide))]
            simp only [dropSpace_cons (c := '\x7d') (by decide)]
            rfl
      | cons next more =>
          have hchars : memberChars ((key, value) :: next :: more |>.map member)
              = JsonText.quoted key ++ ':' :: value.chars
                ++ ',' :: memberChars ((next :: more).map member) := by
            simp [memberChars, member, keyChars]
          rw [hchars, List.length_append, List.length_append, List.length_cons,
            List.length_cons] at hfuel
          obtain ⟨fuel, rfl⟩ : ∃ n, fuel = n + 1 := ⟨fuel - 1, by omega⟩
          obtain ⟨s, hs, hmore⟩ := ih (List.cons_ne_nil _ _)
            (fun m hm => hread m (List.mem_cons_of_mem _ hm)) fuel (by omega)
          refine ⟨JsonText.body key ++ '"' :: ':' :: (value.chars ++ ',' :: '"' :: s), ?_, ?_⟩
          · rw [hchars, List.append_assoc, List.cons_append, hs]
            simp [JsonText.quoted_append]
          · rw [readMembers, JsonText.read_body]
            simp only [dropSpace_cons (c := ':') (by decide)]
            rw [hvalue fuel _ (by omega) (follows_cons (by decide))]
            simp only [dropSpace_cons (c := ',') (by decide), dropSpace_cons (c := '"') (by decide)]
            rw [hmore]
            rfl

/-- Of a value that is written somehow only reading with some fuel is left to prove. -/
theorem readBack_of_succ {value : Json} (hwhole : value.Whole)
    (h : ∀ fuel rest, value.chars.length ≤ fuel + 1 → Follows rest →
      readValue (fuel + 1) (value.chars ++ rest) = (value, rest)) : value.ReadBack := by
  intro fuel rest hfuel hrest
  obtain ⟨c, s, hc, -, -⟩ := chars_eq_cons hwhole
  have hpos : 0 < value.chars.length := by
    rw [hc]
    exact Nat.succ_pos _
  obtain ⟨n, rfl⟩ : ∃ n, fuel = n + 1 := ⟨fuel - 1, by omega⟩
  exact h n rest hfuel hrest

/-- **WHOLE VALUES ARE READ BACK.**  The induction is on the value; the length of what is written is
the fuel that a value has for its parts. -/
theorem readBack_of_whole {value : Json} (h : value.Whole) : value.ReadBack := by
  induction h with
  | null => exact readBack_of_succ .null fun _ _ _ _ => rfl
  | bool b => cases b <;> exact readBack_of_succ (.bool _) fun _ _ _ _ => rfl
  | number proper =>
      refine readBack_of_succ (.number proper) fun fuel rest _ hrest => ?_
      rw [chars]
      exact readValue_number fuel proper hrest
  | string s =>
      refine readBack_of_succ (.string s) fun fuel rest _ _ => ?_
      rw [chars]
      exact readValue_string fuel s rest
  | @array items each ih =>
      refine readBack_of_succ (.array each) fun fuel rest hfuel _ => ?_
      cases items with
      | nil => rfl
      | cons item more =>
          obtain ⟨c, s, hc, hspace, hbracket⟩ :=
            itemChars_eq_cons more (each item (List.mem_cons_self ..))
          rw [chars, List.length_append, List.length_cons, List.length_singleton] at hfuel
          have hitems := readItems_chars (List.cons_ne_nil _ _) each ih fuel (by omega) rest
          have hchars : (array (item :: more) none).chars ++ rest
              = '[' :: (itemChars (item :: more) ++ ']' :: rest) := by simp [chars]
          rw [hchars, readValue, dropSpace_cons (by decide)]
          rw [hc, List.cons_append] at hitems ⊢
          simp only [dropSpace_cons hspace]
          split
          next heq => cases heq
          next heq => exact absurd (List.cons.inj heq).1 hbracket
          next => rw [hitems]
  | @object members each ih =>
      refine readBack_of_succ (.object each) fun fuel rest hfuel _ => ?_
      cases members with
      | nil => rfl
      | cons m more =>
          rw [chars, List.length_append, List.length_cons, List.length_singleton] at hfuel
          obtain ⟨s, hs, hmembers⟩ := readMembers_chars (List.cons_ne_nil m more) ih fuel (by omega)
            rest
          have hchars : (object ((m :: more).map member) none).chars ++ rest
              = '\x7b' :: (memberChars ((m :: more).map member) ++ '\x7d' :: rest) := by
            simp [chars]
          rw [hchars, hs, readValue, dropSpace_cons (by decide)]
          simp only [dropSpace_cons (c := '"') (by decide), hmembers]

/-- **READING UNDOES WRITING**: the written form of a whole value is read as that value, and nothing
is left over. -/
theorem ofText_text {value : Json} (h : value.Whole) : ofText value.text = (value, []) := by
  have hread := readBack_of_whole h (2 * value.text.length + 2) []
  have hlist : value.text.toList = value.chars := String.toList_ofList ..
  have hlength : value.text.length = value.chars.length := by
    rw [← hlist, String.length_toList]
  rw [List.append_nil] at hread
  unfold ofText
  rw [hlist, hread (by omega) follows_nil]
  rfl

theorem ofText_eq {value : Json} (h : value.Whole) {s : String} (hs : value.text = s) :
    ofText s = (value, []) :=
  hs ▸ ofText_text h

end Json

end PodPlacement
