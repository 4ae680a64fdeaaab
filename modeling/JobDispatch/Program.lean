import JobDispatch.Store.Call

/-!
# Programs over the store

A program makes store calls one after another, each with a limit on the time that it may take, and
publishes wake tokens. What it does next depends on how the last call ended. A program says nothing
about time and scheduling: it can be run alone, or interleaved with others between its calls.
-/

namespace JobDispatch

/-- How a call with a limit ends. -/
inductive CallEnd (α : Type)
  /-- The store answered. -/
  | answered (value : α)
  /-- The store answered with an error. -/
  | refused (error : StoreError)
  /-- The limit passed first. -/
  | overran

/-- The result of a call, given what it counts as that the limit passed. -/
def CallEnd.result {α : Type} (overran : Error) : CallEnd α → Except Error α
  | .answered value => .ok value
  | .refused error => .error error.toError
  | .overran => .error overran

/-- Store calls and wake tokens in order. -/
inductive Program (α : Type) : Type
  /-- The program has ended. -/
  | done (value : α)
  /-- A store call, and what comes after it. -/
  | call (request : StoreCall) (limit : Option Duration)
      (next : CallEnd request.Answer → Program α)
  /-- A wake token is published; the truth value says whether that worked. -/
  | push (token : String) (next : Bool → Program α)

namespace Program

/-- One program after another. -/
def bind {α β : Type} : Program α → (α → Program β) → Program β
  | .done value, next => next value
  | .call request limit after, next => .call request limit fun ended => bind (after ended) next
  | .push token after, next => .push token fun sent => bind (after sent) next

instance : Monad Program where
  pure := .done
  bind := bind

/-- A program with its result changed. -/
def change {α β : Type} (program : Program α) (result : α → β) : Program β :=
  program.bind fun value => .done (result value)

end Program

/-- A program that may fail. -/
abbrev Attempt (α : Type) := ExceptT Error Program α

namespace Attempt

/-- A store call that may take a limited time, with the error for one that takes longer. -/
def ofCall (request : StoreCall) (limit : Duration) (overran : Error) : Attempt request.Answer :=
  ExceptT.mk <| .call request (some limit) fun ended => .done (ended.result overran)

/-- The program of an attempt. -/
def program {α : Type} (attempt : Attempt α) : Program (Except Error α) := attempt.run

end Attempt

end JobDispatch
