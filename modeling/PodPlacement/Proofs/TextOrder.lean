import Mathlib

/-! # Text order — texts are ordered as their bytes are

    The order of texts compares characters; a sort of names elsewhere compares
    the bytes of their UTF-8 forms.  The two orders are one: a code point is a
    first byte, which tells how many others follow, and then six bits for each
    of those, so the smaller of two characters has the smaller bytes, whatever
    comes after them (`encode_append_lt`).

    Main statement: `le_iff_bytes_le`. -/

namespace PodPlacement.Text

/-- The bytes of a text in UTF-8. -/
def bytes (s : String) : List UInt8 := s.toUTF8.data.toList

theorem bytes_eq (s : String) : bytes s = s.toList.flatMap String.utf8EncodeChar := by
  rw [bytes, String.toUTF8, ← String.utf8Encode_toList, List.utf8Encode, List.data_toByteArray]

/-! ## The bytes of a code point -/

/-- The last so many bytes of a code point, six bits each. -/
def trailing : Nat → Nat → List UInt8
  | 0, _ => []
  | n + 1, v => UInt8.ofNat (v / 64 ^ n % 64 + 0x80) :: trailing n v

/-- The first byte of a code point, and how many follow it. -/
inductive Leads : Nat → Nat → Nat → Prop where
  | alone {v : Nat} (high : v < 0x80) : Leads v v 0
  | one {v : Nat} (low : 0x80 ≤ v) (high : v < 0x800) : Leads v (v / 64 ^ 1 + 0xc0) 1
  | two {v : Nat} (low : 0x800 ≤ v) (high : v < 0x10000) : Leads v (v / 64 ^ 2 + 0xe0) 2
  | three {v : Nat} (low : 0x10000 ≤ v) (high : v < 0x110000) : Leads v (v / 64 ^ 3 + 0xf0) 3

theorem Leads.isByte {v lead n : Nat} (h : Leads v lead n) : lead < 256 := by
  cases h <;> omega

/-- The smaller of two code points has the smaller first byte, or the same one and as many bytes
after it. -/
theorem Leads.lt_or_eq {v w lead lead' n m : Nat} (hv : Leads v lead n) (hw : Leads w lead' m)
    (h : v < w) : lead < lead' ∨ lead = lead' ∧ n = m ∧ v / 64 ^ n = w / 64 ^ n := by
  cases hv <;> cases hw <;> omega

/-- Every character is written as its first byte and those that follow. -/
theorem leads_encode (c : Char) : ∃ lead n, Leads c.val.toNat lead n
    ∧ String.utf8EncodeChar c = UInt8.ofNat lead :: trailing n c.val.toNat := by
  have hvalid : c.val.toNat < 0x110000 := by
    have h := c.valid
    simp only [UInt32.isValidChar, Nat.isValidChar] at h
    omega
  unfold String.utf8EncodeChar
  generalize c.val.toNat = v at hvalid ⊢
  have hlast : v % 64 = v / 64 ^ 0 % 64 := by omega
  by_cases h₁ : v ≤ 0x7f
  · refine ⟨_, _, .alone (by omega), ?_⟩
    rw [if_pos h₁]
    rfl
  · by_cases h₂ : v ≤ 0x7ff
    · refine ⟨_, _, .one (by omega) (by omega), ?_⟩
      have hlead : v / 64 % 32 = v / 64 ^ 1 := by omega
      rw [if_neg h₁, if_pos h₂, hlead, hlast]
      rfl
    · by_cases h₃ : v ≤ 0xffff
      · refine ⟨_, _, .two (by omega) (by omega), ?_⟩
        have hlead : v / 4096 % 16 = v / 64 ^ 2 := by omega
        rw [if_neg h₁, if_neg h₂, if_pos h₃, hlead, hlast]
        rfl
      · refine ⟨_, _, .three (by omega) (by omega), ?_⟩
        have hlead : v / 262144 % 8 = v / 64 ^ 3 := by omega
        rw [if_neg h₁, if_neg h₂, if_neg h₃, hlead, hlast]
        rfl

/-! ## Smaller characters have smaller bytes -/

theorem byte_cons_lt {a b : Nat} {l l' : List UInt8} (hb : b < 256)
    (h : a < b ∨ a = b ∧ l < l') : UInt8.ofNat a :: l < UInt8.ofNat b :: l' := by
  rw [List.cons_lt_cons_iff]
  rcases h with h | ⟨rfl, h⟩
  · exact Or.inl ((UInt8.ofNat_lt_iff_lt (Nat.lt_trans h hb) hb).2 h)
  · exact Or.inr ⟨rfl, h⟩

/-- Code points that are alike up to their last bytes differ in those as they do themselves. -/
theorem trailing_append_lt {v w : Nat} (n : Nat) (h : v < w) (halike : v / 64 ^ n = w / 64 ^ n)
    (l l' : List UInt8) : trailing n v ++ l < trailing n w ++ l' := by
  induction n with
  | zero =>
      rw [Nat.pow_zero, Nat.div_one, Nat.div_one] at halike
      exact absurd halike (Nat.ne_of_lt h)
  | succ n ih =>
      have hle : v / 64 ^ n ≤ w / 64 ^ n := Nat.div_le_div_right (Nat.le_of_lt h)
      rw [Nat.pow_succ, ← Nat.div_div_eq_div_mul, ← Nat.div_div_eq_div_mul] at halike
      -- Either this byte decides, or the code points are alike down to it as well.
      refine byte_cons_lt (by omega) ?_
      rcases Nat.lt_or_eq_of_le hle with hlt | heq
      · exact Or.inl (by omega)
      · exact Or.inr ⟨by rw [heq], ih heq⟩

theorem encode_append_lt {c d : Char} (h : c < d) (l l' : List UInt8) :
    String.utf8EncodeChar c ++ l < String.utf8EncodeChar d ++ l' := by
  obtain ⟨lead, n, hleads, hc⟩ := leads_encode c
  obtain ⟨lead', m, hleads', hd⟩ := leads_encode d
  have hlt : c.val.toNat < d.val.toNat := h
  rw [hc, hd]
  refine byte_cons_lt hleads'.isByte ?_
  rcases hleads.lt_or_eq hleads' hlt with hfirst | ⟨hfirst, rfl, halike⟩
  · exact Or.inl hfirst
  · exact Or.inr ⟨hfirst, trailing_append_lt n hlt halike l l'⟩

/-! ## Smaller texts have smaller bytes -/

theorem flatMap_encode_lt {cs ds : List Char} (h : cs < ds) :
    cs.flatMap String.utf8EncodeChar < ds.flatMap String.utf8EncodeChar := by
  induction cs generalizing ds with
  | nil =>
      cases ds with
      | nil => exact absurd h (List.lt_irrefl _)
      | cons d ds =>
          obtain ⟨lead, n, _, hd⟩ := leads_encode d
          rw [List.flatMap_nil, List.flatMap_cons, hd]
          exact List.nil_lt_cons ..
  | cons c cs ih =>
      cases ds with
      | nil => exact absurd h (List.not_lt_nil _)
      | cons d ds =>
          rw [List.flatMap_cons, List.flatMap_cons]
          rcases List.cons_lt_cons_iff.1 h with hlt | ⟨rfl, hrest⟩
          · exact encode_append_lt hlt _ _
          · exact List.append_left_lt (ih hrest)

theorem bytes_lt {s t : String} (h : s < t) : bytes s < bytes t := by
  rw [bytes_eq, bytes_eq]
  exact flatMap_encode_lt h

/-- **THE ORDER OF TEXTS** is the order of their bytes. -/
theorem le_iff_bytes_le (s t : String) : s ≤ t ↔ bytes s ≤ bytes t := by
  constructor
  · intro h
    by_cases hlt : s < t
    · exact List.le_of_lt (bytes_lt hlt)
    · rw [String.le_antisymm h (String.not_lt.1 hlt)]
      exact List.le_refl _
  · intro h
    refine String.not_lt.1 fun hlt => ?_
    exact List.not_lt.2 h (bytes_lt hlt)

end PodPlacement.Text
