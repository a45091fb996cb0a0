/-! # Word streams — the words that a seed gives

    A seed is spread over eight key words by a congruential generator whose
    output is permuted.  The stream of a key is the key stream of the cipher
    ChaCha with twelve rounds: one block of sixteen words per value of a
    counter that starts at zero.

    A block is worked on as a grid of four rows.  Stirring mixes its columns,
    and a stir between two opposite turns of the rows mixes its diagonals. -/

namespace PodPlacement

namespace Chacha

/-- A row of four words. -/
structure Row where
  first : UInt32
  second : UInt32
  third : UInt32
  fourth : UInt32

/-- Two rows, joined word by word. -/
def Row.zip (f : UInt32 → UInt32 → UInt32) (x y : Row) : Row :=
  ⟨f x.first y.first, f x.second y.second, f x.third y.third, f x.fourth y.fourth⟩

instance : Add Row := ⟨Row.zip (· + ·)⟩

/-- The row with every word moved one place to the left. -/
def Row.turn (r : Row) : Row :=
  ⟨r.second, r.third, r.fourth, r.first⟩

/-- The words of a row. -/
def Row.toList (r : Row) : List UInt32 :=
  [r.first, r.second, r.third, r.fourth]

/-- The exclusive or of two words, its bits turned left. -/
def turnedXor (n : UInt32) (x y : UInt32) : UInt32 :=
  ((x ^^^ y) <<< n) ||| ((x ^^^ y) >>> (32 - n))

/-- Sixteen words in four rows. -/
structure Grid where
  top : Row
  upper : Row
  lower : Row
  bottom : Row

namespace Grid

instance : Add Grid :=
  ⟨fun x y => ⟨x.top + y.top, x.upper + y.upper, x.lower + y.lower, x.bottom + y.bottom⟩⟩

/-- One half of a stir; the two halves turn bits by different amounts. -/
def halfStir (n m : UInt32) (g : Grid) : Grid :=
  let top := g.top + g.upper
  let bottom := g.bottom.zip (turnedXor n) top
  let lower := g.lower + bottom
  let upper := g.upper.zip (turnedXor m) lower
  ⟨top, upper, lower, bottom⟩

/-- Mixes every column. -/
def stir (g : Grid) : Grid :=
  (g.halfStir 16 12).halfStir 8 7

/-- Brings the diagonals into columns. -/
def slant (g : Grid) : Grid :=
  ⟨g.top, g.upper.turn, g.lower.turn.turn, g.bottom.turn.turn.turn⟩

/-- Brings the columns back into diagonals. -/
def straighten (g : Grid) : Grid :=
  ⟨g.top, g.upper.turn.turn.turn, g.lower.turn.turn, g.bottom.turn⟩

/-- Mixes columns, then diagonals. -/
def doubleRound (g : Grid) : Grid :=
  g.stir.slant.stir.straighten

/-- The words of a grid, row by row. -/
def toList (g : Grid) : List UInt32 :=
  g.top.toList ++ g.upper.toList ++ g.lower.toList ++ g.bottom.toList

end Grid

/-- The key of a stream. -/
structure Key where
  upper : Row
  lower : Row

/-- The grid that a block starts from. -/
def Key.grid (key : Key) (block : UInt64) : Grid :=
  ⟨⟨0x61707865, 0x3320646e, 0x79622d32, 0x6b206574⟩, key.upper, key.lower,
   ⟨block.toUInt32, (block >>> 32).toUInt32, 0, 0⟩⟩

/-- The words of a block. -/
def Key.block (key : Key) (block : UInt64) : List UInt32 :=
  let start := key.grid block
  ((Nat.repeat Grid.doubleRound 6 start) + start).toList

end Chacha

namespace Seed

/-- The state after this one. -/
def next (state : UInt64) : UInt64 :=
  state * 6364136223846793005 + 11634580027462260723

/-- The word that a state shows: its high bits, folded and turned. -/
def word (state : UInt64) : UInt32 :=
  let folded := (((state >>> 18) ^^^ state) >>> 27).toUInt32
  let turn := (state >>> 59).toUInt32
  (folded >>> turn) ||| (folded <<< ((32 - turn) % 32))

/-- Four words, and the state after them. -/
def row (state : UInt64) : Chacha.Row × UInt64 :=
  let s₁ := next state
  let s₂ := next s₁
  let s₃ := next s₂
  let s₄ := next s₃
  (⟨word s₁, word s₂, word s₃, word s₄⟩, s₄)

/-- The key that a seed gives. -/
def key (seed : UInt64) : Chacha.Key :=
  let (upper, state) := row seed
  ⟨upper, (row state).1⟩

end Seed

/-- A position in the endless row of words of a key. -/
structure WordStream where
  key : Chacha.Key
  /-- The block that comes after the words at hand. -/
  block : UInt64
  /-- The words left of the block before. -/
  atHand : List UInt32

namespace WordStream

/-- The stream of a seed, at its start. -/
def ofSeed (seed : UInt64) : WordStream :=
  ⟨Seed.key seed, 0, []⟩

/-- The next word of 32 bits. -/
def next32 (stream : WordStream) : UInt32 × WordStream :=
  match stream.atHand with
  | word :: rest => (word, { stream with atHand := rest })
  | [] =>
    let words := stream.key.block stream.block
    (words.headD 0, { stream with block := stream.block + 1, atHand := words.tail })

/-- The next word of 64 bits: two words of 32 bits, the low one first. -/
def next64 (stream : WordStream) : UInt64 × WordStream :=
  let (low, stream) := stream.next32
  let (high, stream) := stream.next32
  (low.toUInt64 ||| (high.toUInt64 <<< 32), stream)

end WordStream

end PodPlacement
