import PodPlacement.Hcl.Content
import PodPlacement.Hcl.Parser

/-! # HCL bodies — attributes and blocks

    A body is a row of attributes and blocks, each on lines of its own; the
    braces of a block may also hold one attribute, or none, on one line.  No
    body has two attributes of one name.

    `HclItem.entries` reads a body as an object.  Blocks without labels under
    one name make a list, a single one its only item; labels are keys of nested
    objects.  Of an attribute and a block under one name the later counts. -/

namespace PodPlacement

/-- An attribute or a block. -/
inductive HclItem where
  | attribute (name : String) (value : HclExpr)
  | block (name : String) (labels : List String) (body : List HclItem)

namespace HclItem

open HclToken

/-- The name of an attribute. -/
def attributeName? : HclItem → Option String
  | .attribute name _ => some name
  | .block .. => none

/-- No two attributes have one name. -/
def distinct (items : List HclItem) : Bool :=
  (items.filterMap attributeName?).Nodup

/-- Reads a label in quotes, after the first of them. -/
def readLabel? (s : List Char) : Option (String × List Char) :=
  match literal? .quote (s.length + 1) s with
  | some (label, '"' :: rest) => some (String.ofList label, rest)
  | _ => none

/-- Reads the labels of a block up to its brace, and what follows that. -/
def readLabels? : Nat → List Char → Option (List String × List Char)
  | n + 1, s =>
    match s with
    | '\x7b' :: s => some ([], s)
    | '"' :: s => do
      let (label, s) ← readLabel? s
      let (labels, s) ← readLabels? n (inlineSpace s)
      return (label :: labels, s)
    | s => do
      let (label, s) ← name? s
      let (labels, s) ← readLabels? n (inlineSpace s)
      return (label :: labels, s)
  | 0, _ => none

/-- Reads the value of an attribute after its `=`; it is one level deeper than the attribute. -/
def readValue? (depth : Nat) (s : List Char) : Option (HclExpr × List Char) :=
  let room : HclRoom := ⟨depth + 1, HclRoom.maxOperators⟩
  (HclSyntax.read? (HclSyntax.fuelFor s) room false (inlineSpace s)).map fun (e, s) =>
    (e.content, s)

/-- Reads an attribute without its line end. -/
def readAttribute? (depth : Nat) (s : List Char) : Option (HclItem × List Char) := do
  let (name, s) ← name? s
  let '=' :: s := inlineSpace s | none
  let (value, s) ← readValue? depth s
  return (.attribute name value, s)

mutual

/-- Reads an attribute or a block without its line end. -/
def readItem? : Nat → Nat → List Char → Option (HclItem × List Char)
  | fuel + 1, depth, s => do
    let (name, rest) ← name? s
    match inlineSpace rest with
    | '=' :: _ => readAttribute? depth s
    | rest =>
      let (labels, s) ← readLabels? (rest.length + 1) rest
      let (body, s) ← readBlock? fuel depth s
      return (.block name labels body, s)
  | 0, _, _ => none

/-- Reads the body of a block after its brace, and what follows the other. -/
def readBlock? : Nat → Nat → List Char → Option (List HclItem × List Char)
  | fuel + 1, depth + 1, s =>
    let inner := inlineSpace s
    match (lineComment? inner).getD inner with
    | '\n' :: s | '\r' :: '\n' :: s => do
      let (items, s) ← readItems? fuel depth (space s)
      let '\x7d' :: s := s | none
      guard (distinct items)
      return (items, s)
    | '\x7d' :: s => some ([], s)
    | s => do
      let (item, s) ← readAttribute? depth s
      let '\x7d' :: s := inlineSpace s | none
      return ([item], s)
  | _, _, _ => none

/-- Reads items with their line ends as long as there are any, and what follows. -/
def readItems? : Nat → Nat → List Char → Option (List HclItem × List Char)
  | fuel + 1, depth, s =>
    match name? s with
    | none => some ([], s)
    | some _ => do
      let (item, s) ← readItem? fuel depth s
      let (items, s) ← readItems? fuel depth (space (← lineEnd? s))
      return (item :: items, s)
  | 0, _, _ => none

end

/-- Reads a body that makes up a whole text. -/
def ofText? (s : String) : Option (List HclItem) := do
  let (items, []) ← readItems? (2 * s.length + 2) HclRoom.maxLevels (space s.toList) | none
  guard (distinct items)
  return items

/-- What stands under a name. -/
inductive Slot where
  | value (e : HclExpr)
  /-- Blocks without labels. -/
  | bodies (objects : List HclExpr)
  /-- Blocks by their first label. -/
  | labelled (slots : List (String × Slot))

/-- Changes what stands under a name, in its place or after all others. -/
def update (name : String) (f : Option Slot → Slot) : List (String × Slot) → List (String × Slot)
  | [] => [(name, f none)]
  | (n, slot) :: rest =>
    if n = name then (n, f (some slot)) :: rest else (n, slot) :: update name f rest

/-- Puts a block under a name and its labels. -/
def putBlock (object : HclExpr) :
    (labels : List String) → (name : String) → List (String × Slot) → List (String × Slot)
  | [], name, slots =>
    update name (fun
      | some (.bodies objects) => .bodies (objects ++ [object])
      | _ => .bodies [object]) slots
  | label :: labels, name, slots =>
    update name (fun
      | some (.labelled inner) => .labelled (putBlock object labels label inner)
      | _ => .labelled (putBlock object labels label [])) slots

mutual

/-- The expression of a slot. -/
def slotExpr : Slot → HclExpr
  | .value e => e
  | .bodies [object] => object
  | .bodies objects => .array objects
  | .labelled slots => .object (slotEntries slots)

/-- The entries of slots by name. -/
def slotEntries : List (String × Slot) → List (HclKey × HclExpr)
  | [] => []
  | (name, slot) :: rest => (.name name, slotExpr slot) :: slotEntries rest

end

/-- What stands under each name after items were put to it. -/
def putAll (slots : List (String × Slot)) : List HclItem → List (String × Slot)
  | [] => slots
  | .attribute name value :: rest => putAll (update name (fun _ => .value value) slots) rest
  | .block name labels body :: rest =>
    putAll (putBlock (.object (slotEntries (putAll [] body))) labels name slots) rest

/-- A body as the entries of an object. -/
def entries (items : List HclItem) : List (HclKey × HclExpr) :=
  slotEntries (putAll [] items)

end HclItem

end PodPlacement
