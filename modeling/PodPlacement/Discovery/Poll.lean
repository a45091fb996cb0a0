import PodPlacement.Time.Span

/-! # Polls — when a waiting call is looked at

    A call that waits is looked at in turns, which the executor gives it; time
    goes in ticks from the beginning of the call.  An executor is known here by
    what every call may rely on: the first turn begins the call, the turns come
    in order, and whatever the call waits for wakes it at the tick of it.

    At one tick the call and whoever cancels it may have their turns in either
    order.  A turn therefore tells whether the canceller has had its own
    before. -/

namespace PodPlacement

/-- When something happens, in ticks from the beginning of a call. -/
inductive Moment where
  | tick (n : Nat)
  | never
  deriving DecidableEq

namespace Moment

/-- The tick of a moment. -/
def tick? : Moment → Option Nat
  | .tick n => some n
  | .never => none

/-- The end of a time limit. -/
def ofLimit : Option Span → Moment
  | none => .never
  | some span => .tick span.ticks

end Moment

/-- The caller's cancellation: requested before the call, or at some moment of it. -/
inductive Cancellation where
  | before
  | during (moment : Moment)
  deriving DecidableEq

/-- The moment of a call at which its cancellation wakes it. -/
def Cancellation.moment : Cancellation → Moment
  | .before => .never
  | .during moment => moment

/-- A turn of a waiting call. -/
structure Poll where
  tick : Nat
  /-- Whoever cancels at this tick has done so before the turn. -/
  afterCanceller : Bool
  deriving DecidableEq

namespace Poll

/-- Comes no later than another turn. -/
def NotAfter (poll other : Poll) : Prop :=
  poll.tick < other.tick
    ∨ poll.tick = other.tick ∧ (poll.afterCanceller = true → other.afterCanceller = true)

/-- A moment has come by this turn. -/
def reaches (poll : Poll) : Moment → Bool
  | .tick n => n ≤ poll.tick
  | .never => false

/-- A cancellation has been requested by this turn. -/
def seesCancelled (poll : Poll) : Cancellation → Bool
  | .before => true
  | .during (.tick n) => n < poll.tick || (n = poll.tick && poll.afterCanceller)
  | .during .never => false

/-- Whoever cancels during the call has not done so by its first turn. -/
theorem seesCancelled_first (moment : Moment) :
    seesCancelled ⟨0, false⟩ (.during moment) = false := by
  cases moment <;> simp [seesCancelled]

end Poll

/-- What gives a waiting call its turns, by the moments at which the call is answered, cancelled and
at the end of its limit. -/
class Executor where
  polls (answer cancelled deadline : Moment) : List Poll
  /-- The first turn begins the call; whoever cancels before it cancels before the call. -/
  begins (answer cancelled deadline : Moment) :
    ∃ later, polls answer cancelled deadline = ⟨0, false⟩ :: later
  /-- The turns come one after another. -/
  ordered (answer cancelled deadline : Moment) :
    (polls answer cancelled deadline).Pairwise Poll.NotAfter
  /-- An answer gives the call a turn at its tick. -/
  wakesAnswered (n : Nat) (cancelled deadline : Moment) :
    ∃ poll ∈ polls (.tick n) cancelled deadline, poll.tick = n
  /-- A cancellation gives it one behind the canceller's. -/
  wakesCancelled (answer : Moment) (n : Nat) (deadline : Moment) :
    ⟨n, true⟩ ∈ polls answer (.tick n) deadline
  /-- The end of the limit gives it one at its tick. -/
  wakesExpired (answer cancelled : Moment) (n : Nat) :
    ∃ poll ∈ polls answer cancelled (.tick n), poll.tick = n

namespace Executor

/-- The ticks at which something happens, in order. -/
def ticks (answer cancelled deadline : Moment) : List Nat :=
  ([answer, cancelled, deadline].filterMap Moment.tick?).mergeSort (· ≤ ·)

theorem mem_ticks_iff {answer cancelled deadline : Moment} {n : Nat} :
    n ∈ ticks answer cancelled deadline
      ↔ answer = .tick n ∨ cancelled = .tick n ∨ deadline = .tick n := by
  have htick (moment : Moment) : moment.tick? = some n ↔ moment = .tick n := by
    cases moment <;> simp [Moment.tick?]
  rw [ticks, List.mem_mergeSort, List.mem_filterMap]
  simp [htick, @eq_comm _ (Moment.tick n)]

theorem pairwise_ticks (answer cancelled deadline : Moment) :
    (ticks answer cancelled deadline).Pairwise (· ≤ ·) := by
  have h := @List.pairwise_mergeSort Nat (fun a b => decide (a ≤ b))
    (fun a b c hab hbc => decide_eq_true (Nat.le_trans (of_decide_eq_true hab)
      (of_decide_eq_true hbc)))
    (fun a b => by simpa using Nat.le_total a b)
    ([answer, cancelled, deadline].filterMap Moment.tick?)
  exact h.imp of_decide_eq_true

end Executor

end PodPlacement
