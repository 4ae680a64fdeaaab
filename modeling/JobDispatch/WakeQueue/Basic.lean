/-!
# The wake queue

Tokens wake idle workers and leave the queue in the order in which they came. A token that comes
while workers are blocked wakes the one that has been blocked longest; it takes the token when it
runs. A token that comes while nobody is blocked leaves a permit, which lets the next worker that
would block look once more.
-/

namespace JobDispatch

/-- The state of the queue. -/
structure WakeQueue (Waiter : Type) where
  /-- The tokens, oldest first. -/
  tokens : List String
  /-- A token has come that woke nobody. -/
  permit : Bool
  /-- Who is blocked, the longest blocked first. -/
  waiters : List Waiter
deriving Repr

namespace WakeQueue

variable {Waiter : Type}

/-- The queue without tokens. -/
def empty : WakeQueue Waiter := ⟨[], false, []⟩

/-- Adds a token; the answer is who is woken by it. -/
def push (queue : WakeQueue Waiter) (token : String) : Option Waiter × WakeQueue Waiter :=
  let tokens := queue.tokens ++ [token]
  match queue.waiters with
  | waiter :: others => (some waiter, ⟨tokens, queue.permit, others⟩)
  | [] => (none, ⟨tokens, true, []⟩)

/-- Takes the oldest token. -/
def take? (queue : WakeQueue Waiter) : Option (String × WakeQueue Waiter) :=
  match queue.tokens with
  | [] => none
  | token :: rest => some (token, { queue with tokens := rest })

/-- Looks for a token, and blocks when there is none: the answer is the token. A permit may be left
of a token that is gone; it is used up, and the waiter looks again before it blocks. -/
def seek (queue : WakeQueue Waiter) (waiter : Waiter) : Option String × WakeQueue Waiter :=
  match queue.take? with
  | some (token, rest) => (some token, rest)
  | none =>
    if _ : queue.permit then seek { queue with permit := false } waiter
    else (none, { queue with waiters := queue.waiters ++ [waiter] })
termination_by queue.permit.toNat
decreasing_by simp_all

/-- A waiter that finds tokens takes the oldest, whatever permit is left. -/
theorem seek_cons (token : String) (rest : List String) (permit : Bool) (waiters : List Waiter)
    (waiter : Waiter) :
    seek ⟨token :: rest, permit, waiters⟩ waiter = (some token, ⟨rest, permit, waiters⟩) := by
  rw [seek]
  rfl

/-- A waiter that finds no token blocks behind the others, whatever permit was left. -/
theorem seek_nil (permit : Bool) (waiters : List Waiter) (waiter : Waiter) :
    seek ⟨[], permit, waiters⟩ waiter = (none, ⟨[], false, waiters ++ [waiter]⟩) := by
  have unpermitted : seek ⟨[], false, waiters⟩ waiter =
      (none, ⟨[], false, waiters ++ [waiter]⟩) := by
    rw [seek]
    rfl
  cases permit with
  | false => exact unpermitted
  | true =>
    rw [seek]
    exact unpermitted

/-- Stops waiting. -/
def leave [DecidableEq Waiter] (queue : WakeQueue Waiter) (waiter : Waiter) : WakeQueue Waiter :=
  { queue with waiters := queue.waiters.filter (· ≠ waiter) }

end WakeQueue

end JobDispatch
