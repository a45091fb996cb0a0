import PodPlacement.Event.Basic
import PodPlacement.Event.Pattern
import PodPlacement.Text.Slice

/-! # Event filters — which events are let through

    A filter is a comma-separated list of directives, each a level or a target
    with an optional level.  Between the two a scope may stand in brackets: the
    name of a span, and in braces a field that an event must have.  A directive
    speaks for the events whose target it begins; of those that speak for an
    event the one with the longest target decides, then one that asks for a
    field, and of equal ones the last.  A directive without target speaks for
    all targets, one without level lets every level through.

    No event is inside a span, so a directive that names a span or the value of
    a field speaks for none.

    Blanks around a directive do not count when its parts are told apart, but
    they do when the parts are taken out: after blanks in front each part
    begins that much too early. -/

namespace PodPlacement

/-- Lets through what matters as much as `rank` or more; zero lets nothing through. -/
structure Directive where
  target : String
  rank : Nat
  /-- The field that an event must have. -/
  field : Option String
  /-- Speaks only for what is inside a span. -/
  inSpan : Bool
  deriving DecidableEq

namespace Directive

/-- The rank that a word for a level names. -/
def rankOfName? (word : List Char) : Option Nat :=
  let lower := String.ofList (word.map Char.toLower)
  if lower = "off" then some 0
  else (Level.all.find? fun l => l.name.toLower = lower).map Level.rank

/-- The rank that a number names, written with or without a plus sign. -/
def rankOfNumber? (word : List Char) : Option Nat :=
  let digits := match word with
    | '+' :: rest => rest
    | _ => word
  if digits ≠ [] ∧ digits.all Char.isDigit ∧ Digits.value digits ≤ 5 then
    some (Digits.value digits)
  else
    none

/-- The rank that a word names. -/
def rank? (word : List Char) : Option Nat :=
  (rankOfNumber? word).or (rankOfName? word)

/-- May begin a directive without a scope. -/
def isStart (c : Char) : Bool :=
  c = '-' || c = ':' || c = '_' || Text.isAlphanumeric c

/-- Speaks for all events whose target begins so. -/
def ofTarget (target : List Char) (rank : Nat) : Directive :=
  ⟨String.ofList target, rank, none, false⟩

/-- Says nothing yet. -/
def blank : Directive := ofTarget [] Level.trace.rank

/-- What the reader of a directive is in, with the place where that begins. -/
inductive Part where
  | start
  | word
  | span (first : Nat)
  | field (first : Nat)
  | fieldEnd
  | scopeEnd
  | level (first : Nat)

/-- Why a filter is none. -/
inductive Fault where
  | malformed
  /-- A part that would begin or end inside a character. -/
  | broken
  deriving DecidableEq

/-- The part of a directive between two places. -/
def cut (s : List Char) (first last : Nat) : Except Fault (List Char) :=
  match Text.slice? s first last with
  | some part => .ok part
  | none => .error .broken

/-- Takes in a field: its name, and the value that it may have to match. -/
def withField (d : Directive) (field : List Char) : Except Fault Directive :=
  match field.splitOn '=' with
  | [name] =>
    if name = [] then .error .malformed else .ok { d with field := some (String.ofList name) }
  | name :: value :: _ =>
    if Pattern.isValue value then .ok { d with field := some (String.ofList name), inSpan := true }
    else .error .malformed
  | [] => .error .malformed

/-- Takes in the level that a word asks for. -/
def withLevel (d : Directive) (word : List Char) : Except Fault Directive :=
  if word = [] then .ok d
  else match rank? word with
    | some rank => .ok { d with rank }
    | none => .error .malformed

/-- Reads a character at a place. -/
def step (s : List Char) (place : Nat) (c : Char) (d : Directive) :
    Part → Except Fault (Part × Directive)
  | .start =>
    if c = '[' then .ok (.span (place + 1), d)
    else if isStart c then .ok (.word, d)
    else .error .malformed
  | .word => do
    if c ≠ '=' ∧ c ≠ '[' then return (.word, d)
    let d := { d with target := String.ofList (← cut s 0 place) }
    return (if c = '=' then .level (place + 1) else .span (place + 1), d)
  | .span first => do
    if c ≠ ']' ∧ c ≠ '\x7b' then return (.span first, d)
    let name ← cut s first place
    if c = ']' then return (.scopeEnd, { d with inSpan := true })
    return (.field (place + 1), { d with inSpan := name ≠ [] })
  | .field first => do
    if c ≠ '\x7d' then return (.field first, d)
    return (.fieldEnd, ← d.withField (← cut s first place))
  | .fieldEnd => if c = ']' then .ok (.scopeEnd, d) else .error .malformed
  | .scopeEnd => if c = '=' then .ok (.level (place + 1), d) else .error .malformed
  | .level first => .ok (.level first, d)

/-- Reads the characters from a place on. -/
def steps (s : List Char) : (place : Nat) → List Char → Part → Directive →
    Except Fault (Part × Directive)
  | _, [], part, d => .ok (part, d)
  | place, c :: rest, part, d => do
    let (part, d) ← step s place c d part
    steps s (place + c.utf8Size) rest part d

/-- Reads a directive. -/
def ofText (s : List Char) : Except Fault Directive := do
  let bare := (Text.dropBlanks (Text.dropBlanks s).reverse).reverse
  match ← steps s 0 bare .start blank with
  | (.word, d) =>
    match rank? s with
    | some rank => return { d with rank }
    | none => return { d with target := String.ofList s }
  | (.level first, d) =>
    match Text.after? s first with
    | some word => d.withLevel word
    | none => throw .broken
  | (.scopeEnd, d) => return d
  | _ => throw .malformed

/-- Speaks for an event. -/
def covers (d : Directive) (event : Event) : Bool :=
  !d.inSpan && d.target.toList.isPrefixOf event.target.toList
    && d.field.all fun name => (event.field? name).isSome

/-- The first directive says no more about an event than the second. -/
def leads (a b : Directive) : Bool :=
  let size (d : Directive) : Nat := d.target.length
  size a < size b || (size a = size b && match a.field, b.field with
    | none, _ => true
    | some _, none => false
    | some x, some y => x ≤ y)

end Directive

/-- The directives of a filter. -/
structure EventFilter where
  directives : List Directive
  deriving DecidableEq

namespace EventFilter

/-- Lets through what matters as much as `level` or more, whatever its target. -/
def atLevel (level : Level) : EventFilter := ⟨[.ofTarget [] level.rank]⟩

/-- Reads a filter.  Empty directives do not count; without any, only errors pass. -/
def ofText (s : String) : Except Directive.Fault EventFilter := do
  let words := (s.toList.splitOn ',').filter (· ≠ [])
  let directives ← words.mapM Directive.ofText
  return if directives = [] then atLevel .error else ⟨directives⟩

/-- The filter that a setting asks for; where it is missing or malformed, `info` and above.  There
is none where a directive would be cut inside a character. -/
def ofSetting? : Option String → Option EventFilter
  | none => some (atLevel .info)
  | some s =>
    match ofText s with
    | .ok filter => some filter
    | .error .malformed => some (atLevel .info)
    | .error .broken => none

/-- The directive that decides about an event. -/
def deciding? (filter : EventFilter) (event : Event) : Option Directive :=
  (filter.directives.filter (·.covers event)).foldl
    (fun best d => some (best.elim d fun a => if a.leads d then d else a)) none

/-- Lets an event through. -/
def passes (filter : EventFilter) (event : Event) : Bool :=
  (filter.deciding? event).any (event.level.rank ≤ ·.rank)

end EventFilter

end PodPlacement
