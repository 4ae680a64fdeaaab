import JobDispatch.Proofs.Store.Turn
import JobDispatch.Simulation.World

/-!
# Programs that run alone

A backend is what programs work on: a store and a wake queue. A program that runs alone makes its
calls one after another while nobody else does anything. Each call has a fate: it takes effect at
some clock reading, or it fails before it reaches the store. What a program ensures under every
fate of its calls is put together from what its parts ensure.
-/

namespace JobDispatch

/-- A store and a wake queue. -/
structure Backend where
  /-- The store. -/
  store : Store
  /-- The wake queue; those who wait go by a number. -/
  queue : WakeQueue Nat

/-- What becomes of a store call. -/
inductive CallFate
  /-- It takes effect at a clock reading; a new record takes the given identifier. -/
  | effective (now : Instant) (fresh : ResourceId)
  /-- Its limit passes before it takes effect. -/
  | overran
  /-- It fails with an error before it takes effect. -/
  | refused (error : StoreError)

namespace Backend

/-- Makes a call that has a fate. At the end of the calendar a call does not end. -/
def perform (backend : Backend) (request : StoreCall) :
    CallFate → Option (CallEnd request.Answer × Backend)
  | .effective now fresh =>
    match request.run now fresh backend.store with
    | (.ok answer, store) => some (.answered answer, { backend with store })
    | (.error (.error error), store) => some (.refused error, { backend with store })
    | (.error .calendarEnd, _) => none
  | .overran => some (.overran, backend)
  | .refused error => some (.refused error, backend)

/-- A call that ends has changed nothing and is not answered, or it has taken effect and ends as the
store answers it, and the wake queue is as it was. -/
theorem perform_cases {backend after : Backend} {request : StoreCall} {fate : CallFate}
    {ended : CallEnd request.Answer}
    (performed : backend.perform request fate = some (ended, after)) :
    (after = backend ∧ ∀ answer, ended ≠ .answered answer) ∨
      ∃ now fresh, fate = .effective now fresh ∧
        after = { backend with store := (request.run now fresh backend.store).2 } ∧
        ((∃ answer, ended = .answered answer ∧
            (request.run now fresh backend.store).1 = .ok answer) ∨
          ∃ error, ended = .refused error ∧
            (request.run now fresh backend.store).1 = .error (.error error)) := by
  cases fate with
  | overran | refused =>
    obtain ⟨rfl, rfl⟩ := Prod.mk.inj (Option.some.inj performed)
    exact .inl ⟨rfl, nofun⟩
  | effective now fresh =>
    refine .inr ⟨now, fresh, rfl, ?_⟩
    unfold perform at performed
    dsimp only at performed
    generalize request.run now fresh backend.store = result at performed ⊢
    obtain ⟨⟨error | _⟩ | answer, store⟩ := result
    · obtain ⟨rfl, rfl⟩ := Prod.mk.inj (Option.some.inj performed)
      exact ⟨rfl, .inr ⟨error, rfl, rfl⟩⟩
    · contradiction
    · obtain ⟨rfl, rfl⟩ := Prod.mk.inj (Option.some.inj performed)
      exact ⟨rfl, .inl ⟨answer, rfl, rfl⟩⟩

/-- Publishes a token, if the queue is up. -/
def push (backend : Backend) (up : Bool) (token : String) : Backend :=
  if up then { backend with queue := (backend.queue.push token).2 } else backend

end Backend

namespace Program

variable {α β : Type}

/-- Runs a program alone, given the fates of its calls in their order and whether the queue is up.
There is no result when a call has no fate or does not end. -/
def alone (up : Bool) : Program α → List CallFate → Backend → Option (α × Backend)
  | .done value, _, backend => some (value, backend)
  | .call _ _ _, [], _ => none
  | .call request _ next, fate :: fates, backend =>
    match backend.perform request fate with
    | some (ended, after) => (next ended).alone up fates after
    | none => none
  | .push token next, fates, backend => (next up).alone up fates (backend.push up token)

/-- Whatever the fates of its calls, as far as they are admitted, a program that ends does so with a
result and a backend that are in a relation. -/
def Ensures (program : Program α) (up : Bool) (admitted : CallFate → Prop) (before : Backend)
    (relation : α → Backend → Prop) : Prop :=
  ∀ fates value after, (∀ fate ∈ fates, admitted fate) →
    program.alone up fates before = some (value, after) → relation value after

section

variable {up : Bool} {admitted : CallFate → Prop} {before : Backend}
  {relation : α → Backend → Prop}

/-- A program that has ended ensures what holds of its result. -/
theorem ensures_done {value : α} (holds : relation value before) :
    (done value).Ensures up admitted before relation := by
  intro fates result after _ ran
  obtain ⟨rfl, rfl⟩ := Prod.mk.inj (Option.some.inj ran)
  exact holds

/-- A program that starts with a call ensures what the rest ensures after each end of the call. -/
theorem ensures_call {request : StoreCall} {limit : Option Duration}
    {next : CallEnd request.Answer → Program α}
    (rest : ∀ fate ended after, admitted fate → before.perform request fate = some (ended, after) →
      (next ended).Ensures up admitted after relation) :
    (call request limit next).Ensures up admitted before relation := by
  intro fates value after allowed ran
  cases fates with
  | nil => contradiction
  | cons fate fates =>
    rw [alone] at ran
    split at ran
    · rename_i ended between performed
      exact rest fate ended between (allowed fate List.mem_cons_self) performed fates value after
        (fun fate member => allowed fate (List.mem_cons_of_mem _ member)) ran
    · contradiction

/-- A program that starts by publishing a token ensures what the rest ensures. -/
theorem ensures_push {token : String} {next : Bool → Program α}
    (rest : (next up).Ensures up admitted (before.push up token) relation) :
    (push token next).Ensures up admitted before relation := rest

/-- A program after another ensures what it ensures after each end of the first. -/
theorem Ensures.bind {program : Program α} {next : α → Program β} {last : β → Backend → Prop}
    (first : program.Ensures up admitted before relation)
    (rest : ∀ value between, relation value between →
      (next value).Ensures up admitted between last) :
    (program.bind next).Ensures up admitted before last := by
  induction program generalizing before with
  | done value => exact rest value before (first [] value before (by simp) rfl)
  | call request limit after ih =>
    refine ensures_call fun fate ended between allowed performed =>
      ih ended fun fates value last within ran => ?_
    refine first (fate :: fates) value last (by simpa using ⟨allowed, within⟩) ?_
    rw [alone, performed]
    exact ran
  | push token after ih => exact ih up first

/-- A program with its result changed ensures what holds of the changed result. -/
theorem ensures_change {program : Program α} {result : α → β} {last : β → Backend → Prop}
    (ensures : program.Ensures up admitted before fun value => last (result value)) :
    (program.change result).Ensures up admitted before last :=
  ensures.bind fun _ _ holds => ensures_done holds

/-- A program ensures all that follows from what it ensures. -/
theorem Ensures.mono {program : Program α} {weaker : α → Backend → Prop}
    (ensures : program.Ensures up admitted before relation)
    (follows : ∀ value after, relation value after → weaker value after) :
    program.Ensures up admitted before weaker :=
  fun fates value after allowed ran => follows value after (ensures fates value after allowed ran)

end

/-- A program ensures two things together that it ensures each alone. -/
theorem Ensures.and {program : Program α} {up : Bool} {admitted : CallFate → Prop}
    {before : Backend} {first second : α → Backend → Prop}
    (one : program.Ensures up admitted before first)
    (other : program.Ensures up admitted before second) :
    program.Ensures up admitted before fun value after => first value after ∧ second value after :=
  fun fates value after allowed ran =>
    ⟨one fates value after allowed ran, other fates value after allowed ran⟩

/-- What a program ensures under all fates holds however it ends. -/
theorem Ensures.holds {program : Program α} {up : Bool} {before : Backend}
    {relation : α → Backend → Prop} (ensures : program.Ensures up (fun _ => True) before relation)
    {fates : List CallFate} {value : α} {after : Backend}
    (ran : program.alone up fates before = some (value, after)) : relation value after :=
  ensures fates value after (fun _ _ => trivial) ran

/-- A program with its result changed runs as before. -/
theorem alone_change (program : Program α) (result : α → β) (up : Bool) (fates : List CallFate)
    (before : Backend) :
    (program.change result).alone up fates before =
      (program.alone up fates before).map fun (value, after) => (result value, after) := by
  induction program generalizing fates before with
  | done value => rfl
  | call request limit next ih =>
    cases fates with
    | nil => rfl
    | cons fate fates =>
      change (call request limit fun ended => (next ended).change result).alone up _ before = _
      rw [alone, alone]
      cases before.perform request fate with
      | none => rfl
      | some performed => exact ih performed.1 fates performed.2
  | push token next ih => exact ih up fates (before.push up token)

end Program

section

variable {ε α β : Type} {up : Bool} {admitted : CallFate → Prop} {before : Backend}

/-- A single call under a limit ensures what holds of each of its ends. -/
theorem Attempt.ensures_ofCall {request : StoreCall} {limit : Duration} {overran : Error}
    {relation : Except Error request.Answer → Backend → Prop}
    (ends : ∀ fate ended after, admitted fate →
      before.perform request fate = some (ended, after) → relation (ended.result overran) after) :
    (ofCall request limit overran).program.Ensures up admitted before relation :=
  Program.ensures_call fun fate ended after allowed performed =>
    Program.ensures_done (ends fate ended after allowed performed)

/-- A check that needs no store ensures what holds of its result. -/
theorem Program.ensures_check {result : Except ε α} {relation : Except ε α → Backend → Prop}
    (holds : relation result before) :
    (liftM result : ExceptT ε Program α).run.Ensures up admitted before relation :=
  ensures_done holds

/-- A program that may fail and then another ensure what the second ensures after each answer of
the first, and what holds of each error of the first. -/
theorem Program.ensures_then (relation : Except ε α → Backend → Prop)
    {first : ExceptT ε Program α} {next : α → ExceptT ε Program β}
    {last : Except ε β → Backend → Prop}
    (ensures : first.run.Ensures up admitted before relation)
    (rest : ∀ value between, relation (.ok value) between →
      (next value).run.Ensures up admitted between last)
    (failed : ∀ error between, relation (.error error) between → last (.error error) between) :
    (first >>= next).run.Ensures up admitted before last := by
  refine Ensures.bind ensures fun result between holds => ?_
  cases result with
  | ok value => exact rest value between holds
  | error error => exact ensures_done (failed error between holds)

end

namespace Simulation.World

/-- The store and the wake queue of a simulated world. -/
def backend (world : World) : Backend := ⟨world.store, world.queue⟩

/-- What an attempt at a call comes to in a simulated world is one of its fates. -/
theorem performs_attempt {world after : World} {request : StoreCall}
    {ended : CallEnd request.Answer} (attempted : world.attempt request = some (ended, after)) :
    after.pushesFail = world.pushesFail ∧
      ∃ fate, world.backend.perform request fate = some (ended, after.backend) := by
  unfold attempt at attempted
  split at attempted
  · rename_i error interference taken
    obtain ⟨rfl, rfl⟩ := Prod.mk.inj (Option.some.inj attempted)
    exact ⟨rfl, .refused error, rfl⟩
  · unfold perform at attempted
    cases shown : world.now? with
    | none => simp [shown] at attempted
    | some now =>
      rw [shown] at attempted
      have made : world.backend.perform request (.effective now world.freshId) =
          match request.run now world.freshId world.store with
          | (.ok answer, store) => some (.answered answer, ⟨store, world.queue⟩)
          | (.error (.error error), store) => some (.refused error, ⟨store, world.queue⟩)
          | (.error .calendarEnd, _) => none := rfl
      rcases ran : request.run now world.freshId world.store with ⟨⟨_ | _⟩ | answer, store⟩ <;>
        rw [ran] at made <;> simp [ran] at attempted
      · obtain ⟨rfl, rfl⟩ := attempted
        exact ⟨rfl, _, made⟩
      · obtain ⟨rfl, rfl⟩ := attempted
        exact ⟨rfl, _, made⟩

/-- A program that is run in a simulated world runs alone on its store and its wake queue. -/
theorem alone_of_run {α : Type} {program : Program α} {world after : World} {value : α}
    (ran : world.run program = some (value, after)) :
    ∃ fates, program.alone (!world.pushesFail) fates world.backend =
      some (value, after.backend) := by
  induction program generalizing world with
  | done result =>
    obtain ⟨rfl, rfl⟩ := Prod.mk.inj (Option.some.inj ran)
    exact ⟨[], rfl⟩
  | call request limit next ih =>
    unfold run at ran
    split at ran
    · obtain ⟨⟨ended, between⟩, attempted, rest⟩ := Option.bind_eq_some_iff.mp ran
      obtain ⟨same, fate, performed⟩ := performs_attempt attempted
      obtain ⟨fates, later⟩ := ih ended rest
      refine ⟨fate :: fates, ?_⟩
      rw [Program.alone, performed, ← same]
      exact later
    · obtain ⟨fates, later⟩ := ih .overran ran
      exact ⟨.overran :: fates, later⟩
    · contradiction
  | push token next ih =>
    unfold run push at ran
    by_cases fails : world.pushesFail
    · rw [if_pos fails] at ran
      obtain ⟨fates, later⟩ := ih false ran
      refine ⟨fates, ?_⟩
      rw [fails] at later ⊢
      exact later
    · rw [if_neg fails] at ran
      obtain ⟨fates, later⟩ := ih true ran
      refine ⟨fates, ?_⟩
      simp only [fails] at later ⊢
      exact later

end Simulation.World

end JobDispatch
