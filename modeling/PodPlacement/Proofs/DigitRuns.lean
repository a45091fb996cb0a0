import Mathlib.Data.List.Basic
import PodPlacement.Number.Digits

/-! # Runs of digits — what is written, and where it ends

    Every form of a number is a row of digits with at least one, and a reader
    finds its end where something else begins.  The shortest form has no zero
    in front, except of zero itself.

    Main statement: `Digits.span_append`. -/

namespace PodPlacement.Digits

theorem isDigit_char (d : Nat) : (char d).isDigit = true := by
  have h : ∀ k < 10, (Char.ofNat (48 + k)).isDigit = true := by decide
  exact h (d % 10) (Nat.mod_lt _ (by decide))

theorem isDigit_fixed (width n : Nat) : ∀ c ∈ fixed width n, c.isDigit = true := by
  induction width generalizing n with
  | zero => exact fun c hc => absurd hc List.not_mem_nil
  | succ width ih =>
      intro c hc
      rcases List.mem_append.1 hc with hc | hc
      · exact ih (n / 10) c hc
      · rw [List.mem_singleton.1 hc]
        exact isDigit_char n

theorem fixed_ne_nil (width n : Nat) : fixed (width + 1) n ≠ [] :=
  List.append_ne_nil_of_right_ne_nil _ (List.cons_ne_nil _ _)

theorem isDigit_shortest (n : Nat) : ∀ c ∈ shortest n, c.isDigit = true :=
  fun _ hc => Nat.isDigit_of_mem_toDigits (by decide) (by decide) hc

theorem shortest_ne_nil (n : Nat) : shortest n ≠ [] := Nat.toDigits_ne_nil

/-- No zero stands before the other digits. -/
theorem head?_shortest {n : Nat} (h : 0 < n) : (shortest n).head? ≠ some '0' := by
  induction n using Nat.strongRecOn with
  | ind n ih =>
      unfold shortest at ih ⊢
      rw [Nat.toDigits_eq_if (by decide)]
      by_cases hlt : n < 10
      · have hdigit : ∀ k < 10, 0 < k → [Nat.digitChar k].head? ≠ some '0' := by decide
        rw [if_pos hlt]
        exact hdigit n hlt h
      · rw [if_neg hlt, List.head?_append_of_ne_nil _ Nat.toDigits_ne_nil]
        exact ih (n / 10) (by omega) (by omega)

theorem isDigit_padded (width n : Nat) : ∀ c ∈ padded width n, c.isDigit = true := by
  unfold padded
  split
  next => exact isDigit_fixed width n
  next => exact isDigit_shortest n

theorem padded_ne_nil (width n : Nat) : padded (width + 1) n ≠ [] := by
  unfold padded
  split
  next => exact fixed_ne_nil width n
  next => exact shortest_ne_nil n

theorem value_padded (width n : Nat) : value (padded width n) = n := by
  unfold padded
  split
  next h => rw [value_fixed, Nat.mod_eq_of_lt h]
  next => exact value_shortest n

/-- **A RUN ENDS WHERE SOMETHING ELSE BEGINS.** -/
theorem span_append {ds rest : List Char} (hds : ∀ c ∈ ds, c.isDigit = true)
    (hrest : ∀ c ∈ rest.head?, c.isDigit = false) : span (ds ++ rest) = (ds, rest) := by
  have hstop : rest.takeWhile Char.isDigit = [] ∧ rest.dropWhile Char.isDigit = rest := by
    cases rest with
    | nil => exact ⟨rfl, rfl⟩
    | cons c rest =>
        have hc : c.isDigit = false := hrest c rfl
        simp [hc]
  unfold span
  rw [List.takeWhile_append_of_pos hds, List.dropWhile_append_of_pos hds, hstop.1, hstop.2,
    List.append_nil]

end PodPlacement.Digits
