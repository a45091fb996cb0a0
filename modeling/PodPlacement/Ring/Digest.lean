/-! # The ring's hash — folded multiplication over 64-bit words

    A text is hashed through its UTF-8 bytes.  The state is one word, stirred
    by multiplying two words to 128 bits and folding the halves together.
    The seeds are fixed, so that a position never changes. -/

namespace PodPlacement.Digest

/-- The product of two words, its high half folded onto its low half. -/
def fold (a b : UInt64) : UInt64 :=
  let product := a.toNat * b.toNat
  UInt64.ofNat (product % UInt64.size) ^^^ UInt64.ofNat (product / UInt64.size)

/-- A word with its bits turned left. -/
def rotate (x n : UInt64) : UInt64 :=
  (x <<< n) ||| (x >>> (64 - n))

/-- The multiplier. -/
def multiplier : UInt64 := 6364136223846793005

/-- The four words that the seeds give. -/
def key : UInt64 × UInt64 × UInt64 × UInt64 :=
  (0x452821e638d01377 ^^^ 0x70, 0xbe5466cf34e90c6c ^^^ 0x6f,
   0xc0ac29b7c97c50dd ^^^ 0x64, 0x3f84d5b5b5470917 ^^^ 0x73)

/-- The word that bytes spell, the least significant byte first. -/
def word (bytes : List UInt8) : UInt64 :=
  bytes.foldr (fun b w => (w <<< 8) ||| b.toUInt64) 0

/-- Stirs two words into the state. -/
def stir (state low high : UInt64) : UInt64 :=
  let (pad, _, k₂, k₃) := key
  rotate ((state + pad) ^^^ fold (low ^^^ k₂) (high ^^^ k₃)) 23

/-- Stirs sixteen bytes into the state. -/
def stirBlock (state : UInt64) (bytes : List UInt8) : UInt64 :=
  stir state (word (bytes.take 8)) (word ((bytes.drop 8).take 8))

/-- Stirs blocks of sixteen bytes into the state while more than one is left. -/
def stirBlocks (state : UInt64) (bytes : List UInt8) : UInt64 :=
  if 16 < bytes.length then
    stirBlocks (stirBlock state bytes) (bytes.drop 16)
  else
    state
termination_by bytes.length
decreasing_by simp only [List.length_drop]; omega

/-- Stirs bytes of any number into the state. -/
def absorb (state : UInt64) (bytes : List UInt8) : UInt64 :=
  let n := bytes.length
  let last (k : Nat) := bytes.drop (n - k)
  let counted := (state + UInt64.ofNat n) * multiplier
  if 16 < n then stirBlocks (stirBlock counted (last 16)) bytes
  else if 8 < n then stir counted (word (bytes.take 8)) (word (last 8))
  else if 4 ≤ n then stir counted (word (bytes.take 4)) (word (last 4))
  else if 2 ≤ n then stir counted (word (bytes.take 2)) (word (last 1))
  else stir counted (word bytes) (word bytes)

/-- The hash of a text. -/
def ofText (s : String) : UInt64 :=
  let (pad, start, _, _) := key
  let state := fold (0xff ^^^ absorb start s.toUTF8.toList) multiplier
  rotate (fold state pad) (state % 64)

end PodPlacement.Digest
