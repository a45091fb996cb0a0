import PodPlacement.Draw.WordStream

/-! # Uniform draws — a number below a bound

    A word is a fraction of its width; times the bound, the part before the
    point is the draw.  When the part after the point comes so close to one
    that a longer fraction could carry, a second word lengthens it once.
    `below_lt` says that the draw stays below the bound. -/

namespace PodPlacement

namespace Uniform

/-- The draw below `bound` from words below `modulus`; `second` lengthens the fraction. -/
def scaled (modulus bound first second : Nat) : Nat :=
  let whole := first * bound / modulus
  let part := first * bound % modulus
  if modulus - bound < part ∧ modulus ≤ part + second * bound / modulus then whole + 1
  else whole

/-- The second word has a say. -/
def isClose (modulus bound first : Nat) : Bool :=
  modulus - bound < first * bound % modulus

theorem whole_lt {modulus bound first : Nat} (hb : 0 < bound) (hf : first < modulus) :
    first * bound / modulus < bound := by
  refine (Nat.div_lt_iff_lt_mul (Nat.zero_lt_of_lt hf)).2 ?_
  rw [Nat.mul_comm bound]
  exact Nat.mul_lt_mul_of_pos_right hf hb

theorem scaled_lt {modulus bound first : Nat} (second : Nat) (hb : 0 < bound)
    (hf : first < modulus) : scaled modulus bound first second < bound := by
  have hwhole := whole_lt hb hf
  simp only [scaled]
  split
  next hclose =>
    by_cases hlast : first * bound / modulus + 1 < bound
    · exact hlast
    · -- A draw of `bound - 1` leaves a part too small to carry.
      have hsplit := Nat.div_add_mod (first * bound) modulus
      have heq : first * bound / modulus = bound - 1 := by omega
      rw [heq, Nat.mul_sub, Nat.mul_one] at hsplit
      have hfirst : first * bound ≤ (modulus - 1) * bound :=
        Nat.mul_le_mul_right _ (by omega)
      rw [Nat.sub_mul, Nat.one_mul] at hfirst
      have hle : modulus ≤ modulus * bound := Nat.le_mul_of_pos_right _ hb
      have := hclose.1
      omega
  next => exact hwhole

end Uniform

namespace WordStream

/-- A draw below `bound`, from words of 32 bits where the bound fits into one. -/
def below (stream : WordStream) (bound : Nat) : Nat × WordStream :=
  let modulus := if bound < UInt32.size then UInt32.size else UInt64.size
  let word (stream : WordStream) : Nat × WordStream :=
    if bound < UInt32.size then stream.next32.map UInt32.toNat id
    else stream.next64.map UInt64.toNat id
  let (first, stream) := word stream
  if Uniform.isClose modulus bound first then
    let (second, stream) := word stream
    (Uniform.scaled modulus bound first second, stream)
  else
    (first * bound / modulus, stream)

theorem below_lt (stream : WordStream) {bound : Nat} (hb : 0 < bound) :
    (stream.below bound).1 < bound := by
  rw [below]
  by_cases hsmall : bound < UInt32.size
  · simp only [if_pos hsmall]
    split
    next => exact Uniform.scaled_lt _ hb (UInt32.toNat_lt_size _)
    next => exact Uniform.whole_lt hb (UInt32.toNat_lt_size _)
  · simp only [if_neg hsmall]
    split
    next => exact Uniform.scaled_lt _ hb (UInt64.toNat_lt_size _)
    next => exact Uniform.whole_lt hb (UInt64.toNat_lt_size _)

end WordStream

end PodPlacement
