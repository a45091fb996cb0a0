import Mathlib
import PodPlacement.Cluster.LabelValue
import PodPlacement.Proofs.TextOrder

/-! # The grammar of label values

    A label value is the empty text, or a word of
    `[A-Za-z0-9]([A-Za-z0-9._-]{0,61}[A-Za-z0-9])?`: a letter or digit, and
    perhaps up to 61 characters more with a letter or digit behind them
    (`grammar`).  The check knows no characters and looks at bytes:

    * the byte of a letter or digit stands for that character and no other,
      since all bytes of a character past ASCII are 128 or more
      (`isInner_encode_iff`);
    * a text of such bytes has one byte for each character, so that it has as
      many of them, and the first and the last byte are those of the first and
      the last character (`bytes_of_inner`).

    Main statement: `check_accepts_exactly_grammar`. -/

namespace PodPlacement.LabelValue

/-! ## The grammar -/

/-- `[A-Za-z0-9]` -/
def Plain (c : Char) : Prop :=
  ('A' ≤ c ∧ c ≤ 'Z') ∨ ('a' ≤ c ∧ c ≤ 'z') ∨ ('0' ≤ c ∧ c ≤ '9')

/-- `[A-Za-z0-9._-]` -/
def Inner (c : Char) : Prop :=
  Plain c ∨ c = '.' ∨ c = '_' ∨ c = '-'

instance : DecidablePred Plain :=
  fun c => inferInstanceAs (Decidable (('A' ≤ c ∧ c ≤ 'Z') ∨ ('a' ≤ c ∧ c ≤ 'z')
    ∨ ('0' ≤ c ∧ c ≤ '9')))

instance : DecidablePred Inner :=
  fun c => inferInstanceAs (Decidable (Plain c ∨ c = '.' ∨ c = '_' ∨ c = '-'))

/-- The words of one character of a kind. -/
def one (kind : Char → Prop) : Language Char :=
  {word | ∃ c, kind c ∧ word = [c]}

/-- Up to `n` words of a language, one after another. -/
def upTo (n : Nat) (words : Language Char) : Language Char :=
  {word | ∃ k ≤ n, word ∈ words ^ k}

/-- `[A-Za-z0-9]([A-Za-z0-9._-]{0,61}[A-Za-z0-9])?` -/
def grammar : Language Char :=
  one Plain * (1 + upTo 61 (one Inner) * one Plain)

theorem mem_pow_one_iff {kind : Char → Prop} {word : List Char} {k : Nat} :
    word ∈ one kind ^ k ↔ word.length = k ∧ ∀ c ∈ word, kind c := by
  induction k generalizing word with
  | zero =>
      rw [pow_zero, Language.mem_one, List.length_eq_zero_iff]
      refine ⟨fun h => ⟨h, ?_⟩, And.left⟩
      rw [h]
      exact fun _ hc => nomatch hc
  | succ k ih =>
      rw [pow_succ', Language.mem_mul]
      constructor
      · rintro ⟨_, ⟨c, hc, rfl⟩, rest, hrest, rfl⟩
        obtain ⟨hlength, hkind⟩ := ih.1 hrest
        exact ⟨congrArg Nat.succ hlength, List.forall_mem_cons.2 ⟨hc, hkind⟩⟩
      · rintro ⟨hlength, hkind⟩
        cases word with
        | nil => exact nomatch hlength
        | cons c rest =>
            obtain ⟨hc, hrest⟩ := List.forall_mem_cons.1 hkind
            exact ⟨[c], ⟨c, hc, rfl⟩, rest, ih.2 ⟨Nat.succ.inj hlength, hrest⟩, rfl⟩

theorem mem_upTo_one_iff {kind : Char → Prop} {word : List Char} {n : Nat} :
    word ∈ upTo n (one kind) ↔ word.length ≤ n ∧ ∀ c ∈ word, kind c := by
  constructor
  · rintro ⟨k, hk, hword⟩
    obtain ⟨rfl, hkind⟩ := mem_pow_one_iff.1 hword
    exact ⟨hk, hkind⟩
  · rintro ⟨hlength, hkind⟩
    exact ⟨word.length, hlength, mem_pow_one_iff.2 ⟨rfl, hkind⟩⟩

/-- A word that obeys the rules for its length, its edges and its characters. -/
structure Obeys (word : List Char) : Prop where
  length_le : word.length ≤ 63
  head : ∃ c, word.head? = some c ∧ Plain c
  last : ∃ c, word.getLast? = some c ∧ Plain c
  inner : ∀ c ∈ word, Inner c

/-- The words of the grammar are those that obey the rules. -/
theorem mem_grammar_iff {word : List Char} : word ∈ grammar ↔ Obeys word := by
  rw [grammar, Language.mem_mul]
  constructor
  · rintro ⟨_, ⟨first, hfirst, rfl⟩, rest, hrest, rfl⟩
    rcases (Language.mem_add _ _ _).1 hrest with hrest | hrest
    · obtain rfl := (Language.mem_one rest).1 hrest
      refine ⟨by simp, ⟨first, rfl, hfirst⟩, ⟨first, rfl, hfirst⟩, ?_⟩
      exact List.forall_mem_singleton.2 (Or.inl hfirst)
    · obtain ⟨middle, hmiddle, _, ⟨last, hlast, rfl⟩, rfl⟩ := Language.mem_mul.1 hrest
      obtain ⟨hlength, hinner⟩ := mem_upTo_one_iff.1 hmiddle
      have hlast' : ([first] ++ (middle ++ [last])).getLast? = some last := by
        rw [← List.append_assoc]
        exact List.getLast?_concat
      refine ⟨by simp; omega, ⟨first, rfl, hfirst⟩, ⟨last, hlast', hlast⟩, ?_⟩
      intro c hc
      simp only [List.mem_append, List.mem_singleton] at hc
      rcases hc with rfl | hc | rfl
      · exact Or.inl hfirst
      · exact hinner c hc
      · exact Or.inl hlast
  · rintro ⟨hlength, ⟨first, hhead, hfirst⟩, ⟨last, hgetLast, hlast⟩, hinner⟩
    obtain ⟨rest, rfl⟩ := List.head?_eq_some_iff.1 hhead
    refine ⟨[first], ⟨first, hfirst, rfl⟩, rest, (Language.mem_add _ _ _).2 ?_, rfl⟩
    rcases List.eq_nil_or_concat' rest with rfl | ⟨middle, last', rfl⟩
    · exact Or.inl rfl
    · refine Or.inr (Language.mem_mul.2 ⟨middle, mem_upTo_one_iff.2 ⟨?_, ?_⟩, [last'], ?_, rfl⟩)
      · simp only [List.length_cons, List.length_append, List.length_nil] at hlength
        omega
      · intro c hc
        exact hinner c (List.mem_cons_of_mem _ (List.mem_append.2 (Or.inl hc)))
      · have hend : ([first] ++ (middle ++ [last'])).getLast? = some last := hgetLast
        rw [← List.append_assoc, List.getLast?_concat] at hend
        exact ⟨last, hlast, by rw [Option.some.inj hend]⟩

/-! ## Bytes and the characters they stand for -/

theorem plain_iff (c : Char) : Plain c ↔ (65 ≤ c.val.toNat ∧ c.val.toNat ≤ 90)
    ∨ (97 ≤ c.val.toNat ∧ c.val.toNat ≤ 122) ∨ (48 ≤ c.val.toNat ∧ c.val.toNat ≤ 57) :=
  Iff.rfl

theorem inner_iff (c : Char) : Inner c ↔ Plain c ∨ c.val.toNat = 46 ∨ c.val.toNat = 95
    ∨ c.val.toNat = 45 := by
  have hchar (d : Char) : c = d ↔ c.val.toNat = d.val.toNat := by
    rw [← Char.val_inj, UInt32.toNat_inj]
  rw [Inner, hchar, hchar, hchar]
  rfl

theorem Inner.ascii {c : Char} (h : Inner c) : c.val.toNat < 0x80 := by
  rw [inner_iff, plain_iff] at h
  omega

theorem isPlain_ofNat_iff {v : Nat} (hv : v < 256) : isPlain (UInt8.ofNat v) = true
    ↔ (65 ≤ v ∧ v ≤ 90) ∨ (97 ≤ v ∧ v ≤ 122) ∨ (48 ≤ v ∧ v ≤ 57) := by
  have hbyte : (UInt8.ofNat v).toNat = v := by
    rw [UInt8.toNat_ofNat']
    exact Nat.mod_eq_of_lt hv
  simp only [isPlain, Bool.or_eq_true, Bool.and_eq_true, decide_eq_true_iff,
    UInt8.le_iff_toNat_le, hbyte]
  show ((48 ≤ v ∧ v ≤ 57) ∨ (65 ≤ v ∧ v ≤ 90)) ∨ (97 ≤ v ∧ v ≤ 122) ↔ _
  omega

theorem isInner_ofNat_iff {v : Nat} (hv : v < 256) : isInner (UInt8.ofNat v) = true
    ↔ isPlain (UInt8.ofNat v) = true ∨ v = 46 ∨ v = 95 ∨ v = 45 := by
  have hbyte (w : Nat) (hw : w < 256) : UInt8.ofNat v = UInt8.ofNat w ↔ v = w := by
    rw [← UInt8.toNat_inj, UInt8.toNat_ofNat', UInt8.toNat_ofNat', Nat.mod_eq_of_lt hv,
      Nat.mod_eq_of_lt hw]
  simp only [isInner, Bool.or_eq_true, decide_eq_true_iff]
  show ((_ ∨ UInt8.ofNat v = UInt8.ofNat 45) ∨ UInt8.ofNat v = UInt8.ofNat 95)
    ∨ UInt8.ofNat v = UInt8.ofNat 46 ↔ _
  rw [hbyte 45 (by decide), hbyte 95 (by decide), hbyte 46 (by decide)]
  tauto

/-- A character of ASCII is one byte. -/
theorem encode_of_ascii {c : Char} (h : c.val.toNat < 0x80) :
    String.utf8EncodeChar c = [UInt8.ofNat c.val.toNat] := by
  obtain ⟨lead, n, hleads, hencode⟩ := Text.leads_encode c
  cases hleads with
  | alone _ => exact hencode
  | one low _ => omega
  | two low _ => omega
  | three low _ => omega

theorem isPlain_iff {c : Char} (h : c.val.toNat < 0x80) :
    isPlain (UInt8.ofNat c.val.toNat) = true ↔ Plain c := by
  rw [isPlain_ofNat_iff (by omega), plain_iff]

/-- A character may stand in a label value exactly if all its bytes may. -/
theorem isInner_encode_iff (c : Char) :
    (∀ b ∈ String.utf8EncodeChar c, isInner b = true) ↔ Inner c := by
  obtain ⟨lead, n, hleads, hencode⟩ := Text.leads_encode c
  by_cases hascii : c.val.toNat < 0x80
  · rw [encode_of_ascii hascii, List.forall_mem_singleton, isInner_ofNat_iff (by omega),
      isPlain_iff hascii, inner_iff]
  · -- The first byte of any other character is past ASCII, too.
    have hlead : 0x80 ≤ lead := by cases hleads <;> omega
    have hbyte := hleads.isByte
    refine ⟨fun h => absurd (h (UInt8.ofNat lead) (by rw [hencode]; exact List.mem_cons_self ..)) ?_,
      fun h => absurd h.ascii hascii⟩
    rw [isInner_ofNat_iff hbyte, isPlain_ofNat_iff hbyte]
    omega

/-- A text of characters that may stand in a label value has one byte for each of them. -/
theorem bytes_of_inner {word : List Char} (h : ∀ c ∈ word, Inner c) :
    word.flatMap String.utf8EncodeChar = word.map fun c => UInt8.ofNat c.val.toNat := by
  induction word with
  | nil => rfl
  | cons c rest ih =>
      obtain ⟨hc, hrest⟩ := List.forall_mem_cons.1 h
      rw [List.flatMap_cons, List.map_cons, encode_of_ascii hc.ascii, ih hrest]
      rfl

/-! ## The check -/

theorem hasPlainEdges_iff {bytes : ByteArray} (nonempty : 0 < bytes.size) :
    hasPlainEdges bytes nonempty = true
      ↔ (∃ b, bytes.data.toList.head? = some b ∧ isPlain b = true)
        ∧ ∃ b, bytes.data.toList.getLast? = some b ∧ isPlain b = true := by
  have hhead : bytes.data.toList.head? = some bytes[0] := by
    rw [List.head?_eq_getElem?]
    exact List.getElem?_eq_getElem nonempty
  have hlast : bytes.data.toList.getLast? = some bytes[bytes.size - 1] := by
    rw [List.getLast?_eq_getElem?]
    exact List.getElem?_eq_getElem (Nat.sub_lt nonempty Nat.one_pos)
  rw [hasPlainEdges, Bool.and_eq_true, hhead, hlast]
  simp

/-- All bytes of a word may stand in a label value exactly if all its characters may. -/
theorem all_isInner_iff (word : List Char) :
    (word.flatMap String.utf8EncodeChar).all isInner = true ↔ ∀ c ∈ word, Inner c := by
  rw [List.all_eq_true]
  constructor
  · intro h c hc
    exact (isInner_encode_iff c).1 fun b hb => h b (List.mem_flatMap.2 ⟨c, hc, hb⟩)
  · intro h b hb
    obtain ⟨c, hc, hb⟩ := List.mem_flatMap.1 hb
    exact (isInner_encode_iff c).2 (h c hc) b hb

/-- An edge of a word of such characters is the byte of a letter or digit exactly if it is a letter
or digit. -/
theorem edge_iff {edge : Option Char} (h : ∀ c, edge = some c → Inner c) :
    (∃ b, (edge.map fun c => UInt8.ofNat c.val.toNat) = some b ∧ isPlain b = true)
      ↔ ∃ c, edge = some c ∧ Plain c := by
  constructor
  · rintro ⟨b, hb, hplain⟩
    obtain ⟨c, hc, rfl⟩ := Option.map_eq_some_iff.1 hb
    exact ⟨c, hc, (isPlain_iff (h c hc).ascii).1 hplain⟩
  · rintro ⟨c, hc, hplain⟩
    exact ⟨_, Option.map_eq_some_iff.2 ⟨c, hc, rfl⟩, (isPlain_iff (h c hc).ascii).2 hplain⟩

/-- The three rules for the bytes of a word are those for its characters. -/
theorem obeys_iff_bytes {word : List Char} {bytes : List UInt8}
    (hword : bytes = word.flatMap String.utf8EncodeChar) :
    Obeys word ↔ bytes.length ≤ maxBytes
      ∧ ((∃ b, bytes.head? = some b ∧ isPlain b = true)
        ∧ ∃ b, bytes.getLast? = some b ∧ isPlain b = true)
      ∧ bytes.all isInner = true := by
  by_cases hinner : ∀ c ∈ word, Inner c
  · have hall : bytes.all isInner = true := by rw [hword, all_isInner_iff]; exact hinner
    rw [hword, bytes_of_inner hinner] at hall ⊢
    rw [List.length_map, List.head?_map, List.getLast?_map,
      edge_iff fun c hc => hinner c (List.mem_of_head? hc),
      edge_iff fun c hc => hinner c (List.mem_of_getLast? hc)]
    exact ⟨fun h => ⟨h.length_le, ⟨h.head, h.last⟩, hall⟩,
      fun ⟨hlength, ⟨hhead, hlast⟩, _⟩ => ⟨hlength, hhead, hlast, hinner⟩⟩
  · refine ⟨fun h => absurd h.inner hinner, fun ⟨_, _, hall⟩ => ?_⟩
    rw [hword, all_isInner_iff] at hall
    exact absurd hall hinner

/-- No fault is found exactly in the empty text and in those that obey the rules. -/
theorem fault?_eq_none_iff (value : String) :
    fault? value = none ↔ value = "" ∨ Obeys value.toList := by
  have hbytes : value.toUTF8.data.toList = value.toList.flatMap String.utf8EncodeChar :=
    Text.bytes_eq value
  by_cases hvalue : value = ""
  · subst hvalue
    exact ⟨fun _ => Or.inl rfl, fun _ => rfl⟩
  · have nonempty : 0 < value.toUTF8.size := by
      rw [Nat.pos_iff_ne_zero]
      exact fun h => hvalue (String.toByteArray_eq_empty_iff.1 (ByteArray.size_eq_zero_iff.1 h))
    rw [or_iff_right hvalue, obeys_iff_bytes hbytes, ← hasPlainEdges_iff nonempty, fault?,
      dif_pos nonempty]
    show _ ↔ value.toUTF8.size ≤ maxBytes ∧ _
    generalize hasPlainEdges value.toUTF8 nonempty = edges
    generalize value.toUTF8.data.toList.all isInner = inner
    by_cases hlong : maxBytes < value.toUTF8.size
    · rw [if_pos hlong]
      exact ⟨nofun, fun h => absurd h.1 (Nat.not_le.2 hlong)⟩
    · rw [if_neg hlong, and_iff_right (Nat.not_lt.1 hlong)]
      cases edges <;> cases inner <;> decide

theorem check_eq_ok_iff (value : String) : check value = .ok () ↔ fault? value = none := by
  rw [check]
  cases fault? value with
  | none => exact ⟨fun _ => rfl, fun _ => rfl⟩
  | some fault => exact ⟨nofun, nofun⟩

/-- A refusal is that of the very text. -/
theorem value_of_check_error {value : String} {e : SelectorError} (h : check value = .error e) :
    e.value = value := by
  rw [check] at h
  split at h
  · exact nomatch h
  · exact congrArg SelectorError.value (Except.error.inj h).symm

/-- The bytes that are looked up by their places are there. -/
theorem exists_edges {bytes : ByteArray} (nonempty : 0 < bytes.size) :
    ∃ first last, bytes[0]? = some first ∧ bytes[bytes.size - 1]? = some last
      ∧ hasPlainEdges bytes nonempty = (isPlain first && isPlain last) :=
  ⟨bytes[0], bytes[bytes.size - 1], getElem?_pos bytes 0 nonempty,
    getElem?_pos bytes (bytes.size - 1) (Nat.sub_lt nonempty Nat.one_pos), rfl⟩

theorem Inner.ne {c d : Char} (h : Inner c) (hd : ¬ Inner d) : c ≠ d := by
  rintro rfl
  exact hd h

/-- **THE CHECK ACCEPTS EXACTLY THE GRAMMAR**: the empty text and the words of the grammar, all
of which have at most 63 characters of ASCII, among them no comma, equals sign or space.  Of every
other text it says that this very text is refused.  It looks up bytes of texts alone that are not
empty, and finds them. -/
theorem check_accepts_exactly_grammar (value : String) :
    (check value = .ok () ↔ value = "" ∨ value.toList ∈ grammar)
      ∧ (check value = .ok () → value.length ≤ 63
          ∧ ∀ c ∈ value.toList, c.toNat < 128 ∧ c ≠ ',' ∧ c ≠ '=' ∧ c ≠ ' ')
      ∧ (∀ e, check value = .error e → e.value = value)
      ∧ ∀ nonempty : 0 < value.toUTF8.size, ∃ first last,
          value.toUTF8[0]? = some first ∧ value.toUTF8[value.toUTF8.size - 1]? = some last
            ∧ hasPlainEdges value.toUTF8 nonempty = (isPlain first && isPlain last) := by
  have haccepts := (check_eq_ok_iff value).trans (fault?_eq_none_iff value)
  refine ⟨?_, ?_, fun e => value_of_check_error, exists_edges⟩
  · rw [haccepts, mem_grammar_iff]
  · intro h
    rcases haccepts.1 h with rfl | hobeys
    · exact ⟨by decide, nofun⟩
    · refine ⟨String.length_toList ▸ hobeys.length_le, fun c hc => ?_⟩
      have hinner := hobeys.inner c hc
      exact ⟨hinner.ascii, hinner.ne (by decide), hinner.ne (by decide), hinner.ne (by decide)⟩

/-- The longest values are accepted, with marks right behind the first and before the last
character; a letter past ASCII is no letter. -/
theorem longest_value_is_accepted :
    let longest := String.ofList ('a' :: '_' :: List.replicate 59 'x' ++ ['.', '9'])
    check longest = .ok () ∧ longest.toList ∈ grammar ∧ longest.length ≤ 63
      ∧ ∃ e, check "b\u00fc" = .error e ∧ e.value = "b\u00fc" := by
  intro longest
  have hok : check longest = .ok () := by decide
  obtain ⟨haccepts, hvalues, _⟩ := check_accepts_exactly_grammar longest
  obtain ⟨_, _, hrefused, _⟩ := check_accepts_exactly_grammar "b\u00fc"
  have herror : check "b\u00fc" = .error ⟨"b\u00fc", .badEdge⟩ := by decide
  refine ⟨hok, ?_, (hvalues hok).1, _, herror, hrefused _ herror⟩
  exact (haccepts.1 hok).resolve_left (by decide)

end PodPlacement.LabelValue
