/-! # Locks — contents that outlive a failing holder

    Whoever takes a lock gets its content and gives it back.  A holder that
    panics poisons the lock, for good: from then on it is taken with an error,
    which has the content all the same. -/

namespace PodPlacement

/-- A lock that nobody holds. -/
structure Lock (α : Type) where
  content : α
  poisoned : Bool

/-- Told to whoever takes a poisoned lock. -/
structure PoisonError (α : Type) where
  content : α

namespace PoisonError

variable {α : Type}

/-- The content of a lock, poisoned or not. -/
def recover : Except (PoisonError α) α → α
  | .ok content => content
  | .error e => e.content

end PoisonError

namespace Lock

variable {α : Type}

/-- A lock that nobody has held. -/
def new (content : α) : Lock α := ⟨content, false⟩

/-- What taking a lock gives. -/
def take (lock : Lock α) : Except (PoisonError α) α :=
  if lock.poisoned then .error ⟨lock.content⟩ else .ok lock.content

/-- The lock after a holder who leaves this content and may have panicked. -/
def giveBack (lock : Lock α) (content : α) (panicked : Bool) : Lock α :=
  ⟨content, lock.poisoned || panicked⟩

/-- No content is lost to poison. -/
@[simp] theorem recover_take (lock : Lock α) : PoisonError.recover lock.take = lock.content := by
  rw [take]
  split <;> rfl

/-- A holder who changes nothing leaves the lock as it was. -/
@[simp] theorem giveBack_content (lock : Lock α) : lock.giveBack lock.content false = lock := by
  rw [giveBack, Bool.or_false]

end Lock

end PodPlacement
