/-! # Escapes — characters as they stand between quotes

    Quotes, backslashes and the usual control characters have an escape of one
    letter.  A style says which other characters are written by their number,
    and how its hexadecimal digits look. -/

namespace PodPlacement.Text

/-- The letter of the escape that names a character. -/
def escapeLetter? (c : Char) : Option Char :=
  if c = '"' ∨ c = '\\' then some c
  else if c = '\n' then some 'n'
  else if c = '\r' then some 'r'
  else if c = '\t' then some 't'
  else if c = '\x08' then some 'b'
  else if c = '\x0c' then some 'f'
  else none

/-- How characters are escaped that no letter names. -/
structure EscapeStyle where
  /-- A character is written by its number, which is less than 256. -/
  numbered : Char → Bool
  /-- The hexadecimal digit of value ten. -/
  ten : Char

namespace EscapeStyle

/-- A hexadecimal digit. -/
def digit (style : EscapeStyle) (n : Nat) : Char :=
  Char.ofNat (if n < 10 then 48 + n else style.ten.toNat + (n - 10))

/-- A character as it stands between quotes. -/
def char (style : EscapeStyle) (c : Char) : List Char :=
  match escapeLetter? c with
  | some letter => ['\\', letter]
  | none =>
    if style.numbered c then
      ['\\', 'u', '0', '0', style.digit (c.toNat / 16), style.digit (c.toNat % 16)]
    else [c]

/-- A text between quotes. -/
def quoted (style : EscapeStyle) (s : List Char) : List Char :=
  '"' :: s.flatMap style.char ++ ['"']

/-- Control characters below the space are numbered, in small digits. -/
def small : EscapeStyle := ⟨fun c => c.toNat < 0x20, 'a'⟩

/-- All control characters of seven bits are numbered, in capital digits. -/
def capital : EscapeStyle := ⟨fun c => c.toNat < 0x20 || c.toNat = 0x7f, 'A'⟩

end EscapeStyle

end PodPlacement.Text
