/-! # Decimal digits — writing and reading them

    Numbers are written most significant digit first.  `Digits.fixed` writes
    a given number of digits, `Digits.shortest` writes no leading zero, and
    `Digits.value` reads either back. -/

namespace PodPlacement.Digits

/-- The character of a digit; only the last decimal place of `d` counts. -/
def char (d : Nat) : Char :=
  Char.ofNat (48 + d % 10)

/-- The number that a digit stands for. -/
def ofChar (c : Char) : Nat :=
  c.toNat - 48

/-- The number of numbers of at most `width` digits: ten to the power of `width`. -/
def power (width : Nat) : Nat := Nat.pow 10 width

theorem power_zero : power 0 = 1 := rfl

theorem power_succ (width : Nat) : power (width + 1) = 10 * power width :=
  Nat.mul_comm ..

/-- The last `width` decimal places of `n`. -/
def fixed : (width n : Nat) → List Char
  | 0, _ => []
  | width + 1, n => fixed width (n / 10) ++ [char n]

/-- The number that a row of digits stands for. -/
def value (digits : List Char) : Nat :=
  digits.foldl (fun n c => 10 * n + ofChar c) 0

/-- The digits of `n` without leading zeros. -/
def shortest (n : Nat) : List Char :=
  Nat.toDigits 10 n

/-- The digits of `n`, with leading zeros up to `width` of them. -/
def padded (width n : Nat) : List Char :=
  if n < power width then fixed width n else shortest n

/-- The leading digits of a text, and what follows them. -/
def span (s : List Char) : List Char × List Char :=
  (s.takeWhile Char.isDigit, s.dropWhile Char.isDigit)

theorem length_fixed (width n : Nat) : (fixed width n).length = width := by
  induction width generalizing n with
  | zero => rfl
  | succ width ih => simp [fixed, ih]

theorem value_append_singleton (digits : List Char) (c : Char) :
    value (digits ++ [c]) = 10 * value digits + ofChar c := by
  simp only [value, List.foldl_append, List.foldl_cons, List.foldl_nil]

theorem ofChar_char (d : Nat) : ofChar (char d) = d % 10 := by
  have h : ∀ k < 10, ofChar (Char.ofNat (48 + k)) = k := by decide
  exact h (d % 10) (Nat.mod_lt _ (by decide))

/-- Digits cut off to a width read back as the number without its higher places. -/
theorem value_fixed (width n : Nat) : value (fixed width n) = n % power width := by
  induction width generalizing n with
  | zero => simp [fixed, value, power_zero, Nat.mod_one]
  | succ width ih =>
    rw [fixed, value_append_singleton, ih, ofChar_char, power_succ, Nat.mod_mul]
    omega

theorem foldl_eq_ofDigitChars (digits : List Char) (n : Nat) :
    digits.foldl (fun n c => 10 * n + ofChar c) n = Nat.ofDigitChars 10 digits n := by
  induction digits generalizing n with
  | nil => rfl
  | cons c rest ih =>
    rw [List.foldl_cons, ih, Nat.ofDigitChars_cons]
    rfl

/-- The shortest digits of a number read back as that number. -/
theorem value_shortest (n : Nat) : value (shortest n) = n := by
  rw [value, foldl_eq_ofDigitChars]
  exact Nat.ofDigitChars_toDigits (by decide) (by decide)

end PodPlacement.Digits
