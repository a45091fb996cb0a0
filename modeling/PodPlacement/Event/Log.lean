import PodPlacement.Event.Filter

/-! # The log — one for the whole process

    The log can be set up once.  Whoever tries again is told so, and whoever
    insists fails.  Before it is set up nothing is logged; after that, what the
    filter lets through.  Without a filter nobody can set it up. -/

namespace PodPlacement

/-- How the log is set up: by one who can be refused, or by one who cannot. -/
inductive LogSetup where
  | attempt
  | insist
  deriving DecidableEq

/-- What comes of setting up the log. -/
inductive LogOutcome where
  | installed
  | refused
  | fails
  deriving DecidableEq

/-- The wording of a refusal. -/
def LogOutcome.refusal : String := "a global default trace dispatcher has already been set"

namespace Log

/-- What comes of a set-up, by whether the log has been set up before. -/
def setUp (installed : Bool) : LogSetup → LogOutcome
  | .attempt => if installed then .refused else .installed
  | .insist => if installed then .fails else .installed

/-- What comes of set-ups one after another. -/
def setUpAll (filter? : Option EventFilter) : List LogSetup → List LogOutcome
  | [] => []
  | s :: rest =>
    if filter?.isNone then (s :: rest).map fun _ => .fails
    else setUp false s :: rest.map (setUp true)

/-- The events that are logged after these set-ups. -/
def lines (setUps : List LogSetup) (filter? : Option EventFilter) (events : List Event) :
    List Event :=
  match filter? with
  | some filter => if setUps.isEmpty then [] else events.filter filter.passes
  | none => []

end Log

end PodPlacement
