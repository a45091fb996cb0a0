import PodPlacement.Proofs.DigitRuns
import PodPlacement.Time.Stamp

/-! # Time stamps — reading undoes writing

    `Instant.text` writes one form of an instant, `Instant.ofText` reads many.
    The written form is among them, whatever the year, the fraction of the
    second, and also on a leap second: nothing is rounded and nothing is lost.

    Each part of the stamp is read up to the character that begins the next
    one, so the proof is a chain of one lemma for each part
    (`Stamp.bind_of_ok` links them).

    Main statement: `Instant.ofText_text`. -/

namespace PodPlacement

namespace Stamp

variable {α β : Type}

/-- What one part leaves is what the next one reads. -/
theorem bind_of_ok {part : Part α} {s rest : List Char} {a : α} (h : part s = .ok (a, rest))
    (next : α → Part β) : (part >>= next) s = next a rest := by
  show (part s >>= fun p => next p.1 p.2) = _
  rw [h]
  rfl

theorem get_eq (s : List Char) : (get : Part (List Char)) s = .ok (s, s) := rfl

theorem isBlank_of_isDigit {c : Char} (h : c.isDigit = true) : Text.isBlank c = false := by
  simp only [Char.isDigit, Bool.and_eq_true, decide_eq_true_eq] at h
  have hlow : 48 ≤ c.toNat := h.1
  have hhigh : c.toNat ≤ 57 := h.2
  simp [Text.isBlank]
  omega

theorem blanks_cons {c : Char} (h : Text.isBlank c = false) (rest : List Char) :
    blanks (c :: rest) = .ok ((), c :: rest) := by
  have hdrop : Text.dropBlanks (c :: rest) = c :: rest :=
    List.dropWhile_cons_of_neg (by rw [h]; exact Bool.false_ne_true)
  show Except.ok ((), Text.dropBlanks (c :: rest)) = _
  rw [hdrop]

/-- No blank stands before digits. -/
theorem blanks_digits {ds : List Char} (hne : ds ≠ []) (hds : ∀ c ∈ ds, c.isDigit = true)
    (rest : List Char) : blanks (ds ++ rest) = .ok ((), ds ++ rest) := by
  obtain ⟨c, cs, rfl⟩ := List.exists_cons_of_ne_nil hne
  exact blanks_cons (isBlank_of_isDigit (hds c (List.mem_cons_self ..))) (cs ++ rest)

theorem separator_cons (c : Char) (rest : List Char) :
    separator c (c :: rest) = .ok ((), rest) := by
  show (if c = c then set rest else throw StampFault.malformed : Part Unit) (c :: rest) = _
  rw [if_pos rfl]
  rfl

theorem blanks_nil : blanks [] = .ok ((), []) := rfl

theorem offset_utc : offset ['Z'] = .ok (0, []) := rfl

theorem divider_cons (rest : List Char) : divider ('T' :: rest) = .ok ((), rest) := rfl

/-- Digits are read as the number they stand for: up to the first character that is none, or as many
as may be. -/
theorem number_append {most : Nat} {ds rest : List Char} (hne : ds ≠ [])
    (hds : ∀ c ∈ ds, c.isDigit = true) (hmost : ds.length ≤ most)
    (hrest : ∀ c ∈ rest.head?, c.isDigit = false) :
    number most (ds ++ rest) = .ok (Digits.value ds, rest) := by
  have htake : ((ds ++ rest).take most).takeWhile Char.isDigit = ds := by
    rw [List.take_append, List.take_of_length_le hmost]
    refine congrArg Prod.fst (Digits.span_append hds fun c hc => hrest c ?_)
    rw [List.head?_take] at hc
    split at hc
    next => cases hc
    next => exact hc
  obtain ⟨c, cs, rfl⟩ := List.exists_cons_of_ne_nil hne
  have hc : c.isDigit = true := hds c (List.mem_cons_self ..)
  unfold number
  rw [bind_of_ok (get_eq (c :: cs ++ rest))]
  show (if c.isDigit then _ else _ : Part Nat) (c :: cs ++ rest) = _
  rw [if_pos hc]
  show Except.ok (Digits.value (((c :: cs ++ rest).take most).takeWhile Char.isDigit),
    (c :: cs ++ rest).drop (((c :: cs ++ rest).take most).takeWhile Char.isDigit).length) = _
  rw [htake, List.drop_left]

/-- A number of two digits between two bounds is read. -/
theorem bounded_fixed {low high n : Nat} (hlow : low ≤ n) (hhigh : n ≤ high) (hn : n < 100)
    {rest : List Char} (hrest : ∀ c ∈ rest.head?, c.isDigit = false) :
    bounded 2 low high (Digits.fixed 2 n ++ rest) = .ok (n, rest) := by
  have hdigits := Digits.isDigit_fixed 2 n
  have hvalue : Digits.value (Digits.fixed 2 n) = n := by
    rw [Digits.value_fixed]
    exact Nat.mod_eq_of_lt hn
  unfold bounded
  rw [bind_of_ok (blanks_digits (Digits.fixed_ne_nil 1 n) hdigits rest),
    bind_of_ok (number_append (Digits.fixed_ne_nil 1 n) hdigits (Nat.le_refl 2) hrest), hvalue,
    if_pos ⟨hlow, hhigh⟩]
  rfl

/-- A year of the calendar fits into 32 bits. -/
theorem fitting_of_supported {y : Int} (hfirst : CivilDate.firstYear ≤ y)
    (hlast : y ≤ CivilDate.lastYear) (rest : List Char) : fitting y rest = .ok (y, rest) := by
  unfold CivilDate.firstYear at hfirst
  unfold CivilDate.lastYear at hlast
  unfold fitting
  rw [if_pos ⟨by omega, by omega⟩]
  rfl

/-- A year after a sign is read with all its digits. -/
theorem number_padded (n : Nat) (rest : List Char) :
    number (Digits.padded 4 n ++ '-' :: rest).length (Digits.padded 4 n ++ '-' :: rest)
      = .ok (n, '-' :: rest) := by
  have hlength : (Digits.padded 4 n).length ≤ (Digits.padded 4 n ++ '-' :: rest).length := by
    rw [List.length_append]
    exact Nat.le_add_right ..
  rw [number_append (Digits.padded_ne_nil 3 n) (Digits.isDigit_padded 4 n) hlength
    (by rintro c ⟨⟩; rfl), Digits.value_padded]

theorem year_minus (rest : List Char) :
    year ('-' :: rest) = (number rest.length >>= fun n => fitting (-(n : Int))) rest := rfl

theorem year_plus (rest : List Char) :
    year ('+' :: rest) = (number rest.length >>= fun n => fitting n) rest := rfl

theorem year_digit {c : Char} (h : c.isDigit = true) (rest : List Char) :
    year (c :: rest) = (number 4 >>= fun n => fitting n) (c :: rest) := by
  have hsign : c ≠ '-' ∧ c ≠ '+' := by
    refine ⟨?_, ?_⟩ <;> rintro rfl <;> exact absurd h (by decide)
  unfold year
  rw [bind_of_ok (blanks_cons (isBlank_of_isDigit h) rest),
    bind_of_ok (get_eq (c :: rest))]
  simp [hsign.1, hsign.2]

/-- **A YEAR IS READ BACK**, up to the dash after it. -/
theorem year_yearText {y : Int} (hfirst : CivilDate.firstYear ≤ y) (hlast : y ≤ CivilDate.lastYear)
    (rest : List Char) :
    year (Instant.yearText y ++ '-' :: rest) = .ok (y, '-' :: rest) := by
  unfold Instant.yearText
  split
  next h =>
    obtain ⟨n, rfl⟩ := Int.eq_ofNat_of_zero_le h.1
    have hlt : n < Digits.power 4 := by
      show n < 10000
      omega
    have hdigits := Digits.isDigit_fixed 4 n
    have hnumber : number 4 (Digits.fixed 4 n ++ '-' :: rest) = .ok (n, '-' :: rest) := by
      rw [number_append (Digits.fixed_ne_nil 3 _) hdigits (Nat.le_of_eq (Digits.length_fixed 4 _))
        (by rintro c ⟨⟩; rfl), Digits.value_fixed, Nat.mod_eq_of_lt hlt]
    obtain ⟨c, cs, hc⟩ := List.exists_cons_of_ne_nil (Digits.fixed_ne_nil 3 n)
    rw [Int.toNat_natCast]
    rw [hc, List.cons_append] at hnumber ⊢
    rw [year_digit (hdigits c (hc ▸ List.mem_cons_self ..)), bind_of_ok hnumber]
    exact fitting_of_supported hfirst hlast _
  next h =>
    split
    next hneg =>
      rw [List.cons_append, year_minus, bind_of_ok (number_padded _ _),
        Int.ofNat_natAbs_of_nonpos (by omega), Int.neg_neg]
      exact fitting_of_supported hfirst hlast _
    next hpos =>
      rw [List.cons_append, year_plus, bind_of_ok (number_padded _ _),
        Int.natAbs_of_nonneg (by omega)]
      exact fitting_of_supported hfirst hlast _

theorem number_digit (most : Nat) {c : Char} (h : c.isDigit = true) (rest : List Char) :
    ∃ n s, number most (c :: rest) = .ok (n, s) := by
  unfold number
  rw [bind_of_ok (get_eq (c :: rest))]
  show ∃ n s, (if c.isDigit then _ else _ : Part Nat) (c :: rest) = .ok (n, s)
  rw [if_pos h]
  exact ⟨_, _, rfl⟩

theorem fraction_point {s t : List Char} {k : Nat} (h : number 1 s = .ok (k, t)) :
    fraction ('.' :: s)
      = .ok (Digits.value ((s.takeWhile Char.isDigit).take 9)
          * Digits.power (9 - ((s.takeWhile Char.isDigit).take 9).length),
        s.drop (s.takeWhile Char.isDigit).length) := by
  show (number 1 >>= fun _ => _) s = _
  rw [bind_of_ok h]
  rfl

/-- Up to nine places of the second are read as nanoseconds. -/
theorem fraction_fixed {width : Nat} (hpos : 0 < width) (hnine : width ≤ 9) (n : Nat)
    {rest : List Char} (hrest : ∀ c ∈ rest.head?, c.isDigit = false) :
    fraction ('.' :: Digits.fixed width n ++ rest)
      = .ok (n % Digits.power width * Digits.power (9 - width), rest) := by
  have hlength := Digits.length_fixed width n
  have hdigits := Digits.isDigit_fixed width n
  have htake : (Digits.fixed width n ++ rest).takeWhile Char.isDigit = Digits.fixed width n :=
    congrArg Prod.fst (Digits.span_append hdigits hrest)
  have hnumber : ∃ k s, number 1 (Digits.fixed width n ++ rest) = .ok (k, s) := by
    obtain ⟨c, cs, hc⟩ := List.exists_cons_of_length_pos (hlength ▸ hpos)
    rw [hc]
    exact number_digit 1 (hdigits c (hc ▸ List.mem_cons_self ..)) _
  obtain ⟨k, s, hnumber⟩ := hnumber
  rw [List.cons_append, fraction_point hnumber, htake,
    List.take_of_length_le (hlength.symm ▸ hnine), hlength, Digits.value_fixed,
    List.drop_left' hlength]

/-- **THE PLACES OF THE SECOND ARE READ BACK**, up to the `Z` after them. -/
theorem fraction_fractionText {n : Nat} (h : n < 1000000000) :
    fraction (Instant.fractionText n ++ ['Z']) = .ok (n, ['Z']) := by
  have hend : ∀ c ∈ ['Z'].head?, c.isDigit = false := by
    rintro c ⟨⟩
    rfl
  unfold Instant.fractionText
  split
  next hzero =>
    rw [hzero]
    rfl
  next =>
    split
    next hthree =>
      rw [fraction_fixed (by decide) (by decide) _ hend]
      have hvalue : n / 1000000 % Digits.power 3 * Digits.power (9 - 3) = n := by
        show n / 1000000 % 1000 * 1000000 = n
        omega
      rw [hvalue]
    next =>
      split
      next hsix =>
        rw [fraction_fixed (by decide) (by decide) _ hend]
        have hvalue : n / 1000 % Digits.power 6 * Digits.power (9 - 6) = n := by
          show n / 1000 % 1000000 * 1000 = n
          omega
        rw [hvalue]
      next =>
        rw [fraction_fixed (by decide) (by decide) _ hend]
        have hvalue : n % Digits.power 9 * Digits.power (9 - 9) = n := by
          show n % 1000000000 * 1 = n
          omega
        rw [hvalue]

end Stamp

theorem daysInMonth_le (year : Int) (month : Nat) : daysInMonth year month ≤ 31 := by
  unfold daysInMonth
  repeat' split
  all_goals decide

namespace Instant

/-- A clock without offset shows the time in UTC. -/
theorem ofLocal_zero (date : CivilDate) (time : TimeOfDay) :
    ofLocal date time 0 = some ⟨date, time⟩ := by
  obtain ⟨hour, minute, second, nanosecond, htime⟩ := time
  have hminutes : (60 * hour + minute) / 60 % 24 = hour ∧ (60 * hour + minute) % 60 = minute := by
    omega
  have hday : ((60 * hour + minute : Nat) - 0 : Int) % 1440 = (60 * hour + minute : Nat) := by
    omega
  unfold ofLocal TimeOfDay.minutes
  simp only [hday, Int.toNat_natCast]
  rw [if_neg (by omega), if_pos (by omega)]
  simp only [TimeOfDay.atMinute, hminutes]

/-- No digit stands where the written form goes on after a second. -/
theorem head?_fractionText (n : Nat) :
    ∀ c ∈ (fractionText n ++ ['Z']).head?, c.isDigit = false := by
  unfold fractionText
  intro c hc
  repeat' split at hc
  all_goals
    cases hc
    rfl

/-- The written form of an instant is a time stamp, to its end. -/
theorem instant_chars (i : Instant) : Stamp.instant i.chars = .ok (i, []) := by
  obtain ⟨⟨y, month, day, hdate⟩, ⟨hour, minute, second, nanosecond, htime⟩⟩ := i
  have hparts := hdate
  obtain ⟨⟨hfirst, hlast⟩, ⟨hmonth, hmonth'⟩, ⟨hday, hday'⟩⟩ := hparts
  have hclock := htime
  obtain ⟨hhour, hminute, hsecond, hnano⟩ := hclock
  have hday31 : day ≤ 31 := Nat.le_trans hday' (daysInMonth_le y month)
  have hend {d : Char} (hd : d.isDigit = false) (s : List Char) :
      ∀ c ∈ (d :: s).head?, c.isDigit = false := by
    rintro c ⟨⟩
    exact hd
  unfold chars Stamp.instant
  simp only [List.append_assoc, List.cons_append]
  -- The date.
  rw [Stamp.bind_of_ok (Stamp.year_yearText hfirst hlast _),
    Stamp.bind_of_ok (Stamp.blanks_cons (by decide) _),
    Stamp.bind_of_ok (Stamp.separator_cons _ _),
    Stamp.bind_of_ok (Stamp.bounded_fixed hmonth hmonth' (by omega) (hend (by decide) _)),
    Stamp.bind_of_ok (Stamp.blanks_cons (by decide) _),
    Stamp.bind_of_ok (Stamp.separator_cons _ _),
    Stamp.bind_of_ok (Stamp.bounded_fixed hday hday31 (by omega) (hend (by decide) _))]
  -- The time of the day.
  rw [Stamp.bind_of_ok (Stamp.divider_cons _),
    Stamp.bind_of_ok (Stamp.bounded_fixed (Nat.zero_le _) (Nat.le_of_lt_succ hhour) (by omega)
      (hend (by decide) _)),
    Stamp.bind_of_ok (Stamp.blanks_cons (by decide) _),
    Stamp.bind_of_ok (Stamp.separator_cons _ _),
    Stamp.bind_of_ok (Stamp.bounded_fixed (Nat.zero_le _) (Nat.le_of_lt_succ hminute) (by omega)
      (hend (by decide) _)),
    Stamp.bind_of_ok (Stamp.blanks_cons (by decide) _),
    Stamp.bind_of_ok (Stamp.separator_cons _ _),
    Stamp.bind_of_ok (Stamp.bounded_fixed (Nat.zero_le _) hsecond (by omega)
      (head?_fractionText nanosecond)),
    Stamp.bind_of_ok (Stamp.fraction_fractionText hnano)]
  -- The clock is that of UTC, and nothing follows.
  rw [Stamp.bind_of_ok (Stamp.blanks_cons (by decide) _),
    Stamp.bind_of_ok Stamp.offset_utc, Stamp.bind_of_ok Stamp.blanks_nil]
  have hdate? : CivilDate.of? y month day = some ⟨y, month, day, hdate⟩ := dif_pos hdate
  have htime? : TimeOfDay.of? hour minute second nanosecond
      = some ⟨hour, minute, second, nanosecond, htime⟩ := dif_pos htime
  have hoffset : Int.natAbs 0 < 1440 := by decide
  rw [Stamp.bind_of_ok (Stamp.get_eq []), if_pos List.isEmpty_nil, hdate?, htime?]
  simp only [hoffset, if_true, ofLocal_zero]
  rfl

/-- **READING UNDOES WRITING**: the written form of an instant is a time stamp of that instant. -/
theorem ofText_text (i : Instant) : ofText i.text = .ok i := by
  unfold ofText text
  rw [String.toList_ofList, instant_chars]
  rfl

end Instant

end PodPlacement
