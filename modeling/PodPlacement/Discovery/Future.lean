import PodPlacement.Discovery.Lister

/-! # Futures — what a call waits for

    A future is known by what each turn of the waiting call finds: the value,
    once it is there, and the listing as far as the turn has got to it.  A
    future that is not looked at does nothing, so a listing is asked for in the
    first turn that gets to it.

    Of two futures the second is looked at only while the first has no value.
    A time limit looks at its future first and at the clock afterwards. -/

namespace PodPlacement

/-- What a turn finds. -/
structure Progress (α : Type) where
  value : Option α
  /-- The listing that was asked for by then. -/
  listing : Option ListCall

/-- What a call can wait for. -/
def Future (α : Type) : Type := Poll → Progress α

namespace Future

variable {α β : Type}

/-- The future of what a function makes of the value. -/
def map (f : α → β) (future : Future α) : Future β := fun poll =>
  ⟨(future poll).value.map f, (future poll).listing⟩

/-- The cancellation. -/
def cancelled (cancellation : Cancellation) : Future Unit := fun poll =>
  ⟨if poll.seesCancelled cancellation then some () else none, none⟩

/-- The answer to a listing, which the first turn asks for. -/
def listing {κ ε : Type} [Orchestrator κ ε] (lister : κ) (selector : LabelSelector) :
    Future (Except ε (List Pod)) := fun poll =>
  if poll.reaches (Orchestrator.delay lister selector) then
    ⟨some (Orchestrator.answer lister selector), some ⟨selector, true⟩⟩
  else ⟨none, some ⟨selector, false⟩⟩

/-- The value of a future if it comes within a limit, and nothing if the limit is over before. -/
def within (limit : Span) (future : Future α) : Future (Option α) := fun poll =>
  match (future poll).value with
  | some a => ⟨some (some a), (future poll).listing⟩
  | none =>
    ⟨if poll.reaches (.tick limit.ticks) then some none else none, (future poll).listing⟩

/-- The first of two futures with a value; they are looked at in this order. -/
def select (first : Future α) (second : Future β) : Future (α ⊕ β) := fun poll =>
  match (first poll).value with
  | some a => ⟨some (.inl a), (first poll).listing⟩
  | none => ⟨(second poll).value.map .inr, (second poll).listing.or (first poll).listing⟩

/-- What turns one after another find, up to the first with a value; without one the call waits for
ever. -/
def await (future : Future α) : List Poll → Progress α
  | [] => ⟨none, none⟩
  | poll :: later =>
    match (future poll).value with
    | some a => ⟨some a, (future poll).listing⟩
    | none => ⟨(future.await later).value, (future.await later).listing.or (future poll).listing⟩

/-- A turn that finds the value is the last. -/
theorem await_cons_of_some {future : Future α} {poll : Poll} {a : α} (later : List Poll)
    (h : (future poll).value = some a) : future.await (poll :: later) = future poll := by
  rw [await]
  split
  next b hb => rw [← hb]
  next hnone => exact nomatch h.symm.trans hnone

theorem await_cons_of_none {future : Future α} {poll : Poll} (later : List Poll)
    (h : (future poll).value = none) :
    future.await (poll :: later)
      = ⟨(future.await later).value, (future.await later).listing.or (future poll).listing⟩ := by
  rw [await]
  split
  next a ha => exact nomatch ha.symm.trans h
  next => rfl

end Future

end PodPlacement
