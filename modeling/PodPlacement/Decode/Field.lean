import PodPlacement.Decode.Fault

/-! # Fields — each read at most once -/

namespace PodPlacement

/-- Fills the slot of a field, unless it has been filled before. -/
def fillField {α ε : Type} (fail : DecodeFault → ε) (name : String) (slot : Option α)
    (read : Unit → Except ε α) : Except ε (Option α) :=
  if slot.isSome then .error (fail (.duplicateField name))
  else (read ()).map some

end PodPlacement
