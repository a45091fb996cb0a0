/-! # Events — what the program says about its work

    An event has a level, a target that tells which part of the program speaks,
    and named values in the order in which they were recorded. -/

namespace PodPlacement

/-- How much an event matters; `error` matters most. -/
inductive Level where
  | error
  | warn
  | info
  | debug
  | trace
  deriving DecidableEq

namespace Level

/-- All levels, from the one that matters most. -/
def all : List Level := [.error, .warn, .info, .debug, .trace]

/-- The name of a level. -/
def name : Level → String
  | .error => "ERROR"
  | .warn => "WARN"
  | .info => "INFO"
  | .debug => "DEBUG"
  | .trace => "TRACE"

/-- The rank of a level; a level that matters more has a lower rank. -/
def rank : Level → Nat
  | .error => 1
  | .warn => 2
  | .info => 3
  | .debug => 4
  | .trace => 5

end Level

/-- A value of an event. -/
inductive FieldValue where
  | text (s : String)
  | count (n : Nat)
  | signed (n : Int)
  | flag (b : Bool)
  deriving DecidableEq

/-- The value in words. -/
def FieldValue.toText : FieldValue → String
  | .text s => s
  | .count n => String.ofList (Nat.toDigits 10 n)
  | .signed n => if n < 0 then "-" ++ String.ofList (Nat.toDigits 10 n.natAbs)
      else String.ofList (Nat.toDigits 10 n.natAbs)
  | .flag b => if b then "true" else "false"

/-- One thing that was said. -/
structure Event where
  level : Level
  target : String
  fields : List (String × FieldValue)
  deriving DecidableEq

namespace Event

/-- The first value of a name. -/
def field? (event : Event) (name : String) : Option FieldValue :=
  (event.fields.find? (·.1 = name)).map Prod.snd

/-- The message. -/
def message? (event : Event) : Option String :=
  (event.field? "message").map FieldValue.toText

/-- An event of a message and further values. -/
def say (level : Level) (target message : String) (fields : List (String × FieldValue)) : Event :=
  ⟨level, target, ("message", .text message) :: fields⟩

end Event

end PodPlacement
