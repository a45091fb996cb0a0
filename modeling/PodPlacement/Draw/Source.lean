import PodPlacement.Draw.Uniform

/-! # Draw sources — where random indices come from

    A source is asked for an index below some length.  It may answer with any
    number, which the caller wraps around, or fail; either way it goes on from
    its next state.

    Three sources are given: a seeded stream of words, a script of answers
    that keeps a record of the lengths it was asked with, and a carousel that
    counts. -/

namespace PodPlacement

/-- States of a source of indices. -/
class DrawSource (σ : Type) where
  /-- The answer to a length, `none` when the draw fails, and the next state. -/
  draw : σ → Nat → Option Nat × σ

instance : DrawSource WordStream where
  draw stream len := (stream.below len).map some id

/-- Sources that a seed determines. -/
class SeededSource (σ : Type) extends DrawSource σ where
  /-- The source of a seed, at its start. -/
  ofSeed : UInt64 → σ

/-- Answers given out in order; after the last of them its number is repeated. -/
structure Script where
  answers : List (Option Nat)
  /-- The last number given out. -/
  last : Nat
  /-- The lengths asked with, the latest first. -/
  asked : List Nat

namespace Script

/-- A script from its start. -/
def ofAnswers (answers : List (Option Nat)) : Script :=
  ⟨answers, 0, []⟩

/-- The lengths asked with, in order. -/
def lens (script : Script) : List Nat :=
  script.asked.reverse

/-- Gives out the next answer; a failure leaves the last number as it was. -/
def draw (script : Script) (len : Nat) : Option Nat × Script :=
  let asked := len :: script.asked
  match script.answers with
  | [] => (some script.last, { script with asked })
  | some n :: rest => (some n, ⟨rest, n, asked⟩)
  | none :: rest => (none, ⟨rest, script.last, asked⟩)

end Script

/-- Every draw is recorded with its length, also one that fails. -/
theorem Script.lens_draw (script : Script) (len : Nat) :
    (script.draw len).2.lens = script.lens ++ [len] := by
  rcases script with ⟨_ | ⟨_ | n, rest⟩, last, asked⟩ <;> simp [Script.draw, Script.lens]

instance : DrawSource Script := ⟨Script.draw⟩

/-- Gives out all indices in turn. -/
structure Carousel where
  count : Nat

namespace Carousel

/-- The count, wrapped around. -/
def draw (carousel : Carousel) (len : Nat) : Option Nat × Carousel :=
  (some (carousel.count % len), ⟨carousel.count + 1⟩)

end Carousel

instance : DrawSource Carousel := ⟨Carousel.draw⟩

/-- A source of any of the three kinds. -/
inductive AnySource where
  | seeded (stream : WordStream)
  | scripted (script : Script)
  | turning (carousel : Carousel)

namespace AnySource

/-- Draws from the source within. -/
def draw : AnySource → Nat → Option Nat × AnySource
  | .seeded stream, len => (DrawSource.draw stream len).map id .seeded
  | .scripted script, len => (DrawSource.draw script len).map id .scripted
  | .turning carousel, len => (DrawSource.draw carousel len).map id .turning

/-- The lengths a script was asked with. -/
def lens : AnySource → List Nat
  | .scripted script => script.lens
  | _ => []

end AnySource

instance : SeededSource AnySource where
  draw := AnySource.draw
  ofSeed seed := .seeded (.ofSeed seed)

end PodPlacement
