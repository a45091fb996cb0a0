/-! # Slices — parts of a text between places

    A place in a text is counted in bytes of its UTF-8 form.  Between two of
    them lies a part of the text, unless one of them is inside a character. -/

namespace PodPlacement.Text

/-- What follows a place. -/
def after? : (s : List Char) → (place : Nat) → Option (List Char)
  | [], place => if place = 0 then some [] else none
  | c :: rest, place =>
    if place = 0 then some (c :: rest)
    else if c.utf8Size ≤ place then after? rest (place - c.utf8Size)
    else none

/-- What comes before a place. -/
def upTo? : (s : List Char) → (place : Nat) → Option (List Char)
  | [], place => if place = 0 then some [] else none
  | c :: rest, place =>
    if place = 0 then some []
    else if c.utf8Size ≤ place then (upTo? rest (place - c.utf8Size)).map (c :: ·)
    else none

/-- What lies between two places. -/
def slice? (s : List Char) (first last : Nat) : Option (List Char) :=
  (after? s first).bind fun rest => upTo? rest (last - first)

end PodPlacement.Text
