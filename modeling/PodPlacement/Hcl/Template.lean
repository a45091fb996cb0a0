import PodPlacement.Text.Escape

/-! # Literal text in templates

    A sign before a brace begins a part to fill in; in literal text such a sign
    is doubled.  Between quotes the literal text is escaped as well. -/

namespace PodPlacement.HclText

/-- A text in which no part begins: the sign before a brace is doubled.  After a sign before
another character the next sign is looked for behind both. -/
def doubled : List Char → List Char
  | c :: d :: rest =>
    if c = '$' ∨ c = '%' then
      if d = '\x7b' then c :: c :: d :: doubled rest else c :: d :: doubled rest
    else c :: doubled (d :: rest)
  | s => s

/-- A text in which no part begins; what stands before the first sign with its brace stays. -/
def guarded : List Char → List Char
  | '$' :: '\x7b' :: rest => doubled ('$' :: '\x7b' :: rest)
  | '%' :: '\x7b' :: rest => doubled ('%' :: '\x7b' :: rest)
  | c :: rest => c :: guarded rest
  | [] => []

/-- Literal text as it is written between the quotes of a template. -/
def escaped (s : List Char) : List Char :=
  (guarded s).flatMap Text.EscapeStyle.capital.char

end PodPlacement.HclText
