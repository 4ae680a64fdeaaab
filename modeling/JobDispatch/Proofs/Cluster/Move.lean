import JobDispatch.Proofs.Cluster.Basic
import JobDispatch.Proofs.Store.Running

/-!
# The moves of a cluster

An action does one of a few things: a call of a loop takes effect, a loop goes on with an event, a
call of an errand takes effect, or nothing happens that loops and jobs would notice. The moves say
so once, with everything that had to be the case. Errands never claim jobs nor report outcomes, and
only those that reap settle any.
-/

namespace JobDispatch

namespace Program

/-- Every store call of a program is of a kind. -/
def Calls {α : Type} (kind : StoreCall → Prop) : Program α → Prop
  | .done _ => True
  | .call request _ next => kind request ∧ ∀ ended, (next ended).Calls kind
  | .push _ next => ∀ sent, (next sent).Calls kind

variable {α β : Type} {kind : StoreCall → Prop}

/-- A program after another makes the calls of both. -/
theorem Calls.bind {program : Program α} {next : α → Program β} (first : program.Calls kind)
    (rest : ∀ value, (next value).Calls kind) : (program.bind next).Calls kind := by
  induction program with
  | done value => exact rest value
  | call request limit after ih => exact ⟨first.1, fun ended => ih ended (first.2 ended)⟩
  | push token after ih => exact fun sent => ih sent (first sent)

/-- A program with its result changed makes the same calls. -/
theorem Calls.change {program : Program α} (calls : program.Calls kind) (result : α → β) :
    (program.change result).Calls kind :=
  calls.bind fun _ => trivial

end Program

namespace Attempt

variable {α β : Type} {kind : StoreCall → Prop}

/-- An attempt after another makes the calls of both. -/
theorem calls_bind {attempt : Attempt α} {next : α → Attempt β}
    (first : attempt.program.Calls kind) (rest : ∀ value, (next value).program.Calls kind) :
    (attempt >>= next).program.Calls kind := by
  refine Program.Calls.bind first fun result => ?_
  cases result with
  | ok value => exact rest value
  | error error => trivial

/-- An attempt whose answer does not matter makes the same calls. -/
theorem calls_discard {attempt : Attempt α} (calls : attempt.program.Calls kind) :
    (discard attempt).program.Calls kind := by
  refine Program.Calls.bind calls fun result => ?_
  cases result <;> trivial

/-- A single call under a limit. -/
theorem calls_ofCall {request : StoreCall} (allowed : kind request) (limit : Duration)
    (overran : Error) : (ofCall request limit overran).program.Calls kind :=
  ⟨allowed, fun _ => trivial⟩

end Attempt

/-- An errand makes no claims and no reports, and fails no jobs unless it reaps. -/
theorem Errand.calls (dispatcher : Dispatcher) (errand : Errand) {reaping : Bool}
    (allowed : errand.reaps → reaping) :
    (errand.program dispatcher).Calls (StoreCall.IsErrand reaping) := by
  cases errand with
  | submit submission =>
    refine .change (Attempt.calls_bind ?_ fun _ => ?_) _
    · cases submission.validate <;> trivial
    · refine Attempt.calls_bind (Attempt.calls_ofCall trivial _ _) fun job => ?_
      exact Attempt.calls_bind (fun _ => trivial) fun _ => trivial
  | getJob job =>
    refine .change (Attempt.calls_bind (Attempt.calls_ofCall trivial _ _) fun found => ?_) _
    cases found <;> trivial
  | jobStats =>
    refine .change (Attempt.calls_bind (Attempt.calls_ofCall trivial _ _) fun rows => ?_) _
    trivial
  | checkStore => exact .change (Attempt.calls_discard (Attempt.calls_ofCall trivial _ _)) _
  | sweep monitor =>
    have pass : monitor.pass.Calls (StoreCall.IsErrand reaping) := by
      refine ⟨trivial, fun ended => ?_⟩
      cases ended with
      | answered demoted =>
        dsimp only
        split
        · rename_i reaps
          refine .change (Attempt.calls_bind (Attempt.calls_ofCall trivial _ _) fun workers => ?_) _
          exact Attempt.calls_discard (Attempt.calls_ofCall (allowed reaps) _ _)
        · trivial
      | refused error => trivial
      | overran => trivial
    exact .change (.change pass _) _
  | heartbeat worker => exact .change (Attempt.calls_ofCall trivial _ _) _
  | listJobs limit offset => exact .change (Attempt.calls_ofCall trivial _ _) _
  | listWorkers => exact .change (Attempt.calls_ofCall trivial _ _) _

/-- What a loop in a phase asks the store, and the event that each end of the call is for it. -/
inductive WorkerLoop.Phase.Asks (settings : WorkerLoop.Settings) :
    WorkerLoop.Phase → (request : StoreCall) → (CallEnd request.Answer → WorkerLoop.Event) → Prop
  | register (overran : Error) :
      Asks settings .registering (.register settings.hostname)
        fun ended => .registered (ended.result overran)
  | claim (worker : ResourceId) (overran : Error) :
      Asks settings (.claiming worker) (.claimNext worker)
        fun ended => .claimed (ended.result overran)
  | report (worker : ResourceId) (job : ClaimedJob) (outcome : JobOutcome) (attempt : UInt32)
      (last : Bool) (overran : Error) :
      Asks settings (.reporting worker job outcome attempt last)
        (.reportOutcome job.id outcome (some worker)) fun ended => .reported (ended.result overran)

namespace Cluster

variable {ι : Type} {crew : Crew ι} {cluster : Cluster ι} {loop : ι}

/-- The call of a loop is what its phase asks. -/
theorem program?_cases {program : Program WorkerLoop.Event}
    (found : cluster.program? crew loop = some program) :
    (cluster.loops loop).isAsking ∧ ∃ request event limit,
      (cluster.loops loop).phase.Asks (crew.settings loop) request event ∧
        program = .call request limit fun ended => .done (event ended) := by
  unfold program? request? at found
  split at found
  · rename_i asking
    refine ⟨asking, ?_⟩
    cases phase : (cluster.loops loop).phase with
    | registering =>
      rw [phase] at found
      exact ⟨_, _, _, .register _, (Option.some.inj found).symm⟩
    | claiming worker =>
      rw [phase] at found
      exact ⟨_, _, _, .claim worker _, (Option.some.inj found).symm⟩
    | reporting worker job outcome attempt last =>
      rw [phase] at found
      exact ⟨_, _, _, .report worker job outcome attempt last _, (Option.some.inj found).symm⟩
    | executing | retrying | resting | waiting | stopped | crashed =>
      rw [phase] at found
      contradiction
  · contradiction

variable [DecidableEq ι]

/-- What an action can do to a cluster. -/
inductive Move (crew : Crew ι) (cluster : Cluster ι) : Action ι → Cluster ι → Prop
  | still (action : Action ι) : Move crew cluster action cluster
  | landed {loop : ι} {now : Instant} {fresh : ResourceId} {request : StoreCall}
      {event : CallEnd request.Answer → WorkerLoop.Event} {ended : CallEnd request.Answer}
      (asking : (cluster.loops loop).isAsking)
      (asks : (cluster.loops loop).phase.Asks (crew.settings loop) request event)
      (new : mayTake cluster.ledger.store fresh request)
      (ends : CallEnd.ofResult? (cluster.ledger.perform request now fresh).1 = some ended) :
      Move crew cluster (.perform loop now fresh)
        ({ cluster with ledger := (cluster.ledger.perform request now fresh).2 }.setLoop loop
          ((cluster.loops loop).land cluster.ledger (event ended)))
  | broken {loop : ι} {now : Instant} {fresh : ResourceId} {request : StoreCall}
      {event : CallEnd request.Answer → WorkerLoop.Event}
      (asking : (cluster.loops loop).isAsking)
      (asks : (cluster.loops loop).phase.Asks (crew.settings loop) request event)
      (stopped : (cluster.ledger.perform request now fresh).1 = .error .calendarEnd) :
      Move crew cluster (.breakOff loop now fresh)
        ({ cluster with ledger := (cluster.ledger.perform request now fresh).2 }.setLoop loop
          { cluster.loops loop with call := .broken })
  | delivered {loop : ι} {event : WorkerLoop.Event}
      (answered : (cluster.loops loop).call = .answered event) :
      Move crew cluster (.deliver loop) (cluster.turn crew loop event)
  | refused {loop : ι} {error : Error} {event : WorkerLoop.Event}
      (asking : (cluster.loops loop).isAsking)
      (failure : cluster.failure? crew loop error = some event) :
      Move crew cluster (.refuse loop error) (cluster.turn crew loop event)
  | lost {loop : ι} {error : Error} {event : WorkerLoop.Event}
      (failure : cluster.failure? crew loop error = some event) :
      Move crew cluster (.lose loop error) (cluster.turn crew loop event)
  | happened {loop : ι} {event : WorkerLoop.Event} (asking : (cluster.loops loop).isAsking)
      (inside : event.isLocal) :
      Move crew cluster (.happen loop event) (cluster.turn crew loop event)
  | cancelled (loop : ι) :
      Move crew cluster (.cancel loop)
        (cluster.setLoop loop ((cluster.loops loop).cancel (crew.settings loop)))
  | entered (dispatcher : Dispatcher) (errand : Errand) :
      Move crew cluster (.enter dispatcher errand)
        { cluster with errands := cluster.errands ++ [errand.program dispatcher] }
  | spoiled {place : Nat} {failure : CallFailure} {request : StoreCall} {limit : Option Duration}
      {next : CallEnd request.Answer → Program Unit}
      (stands : cluster.errands[place]? = some (.call request limit next)) :
      Move crew cluster (.spoil place failure) (cluster.setErrand place (next failure.ended))
  | published {place : Nat} {sent : Bool} {token : String} {next : Bool → Program Unit}
      (stands : cluster.errands[place]? = some (.push token next)) :
      Move crew cluster (.publish place sent) (cluster.setErrand place (next sent))
  | visited {place : Nat} {now : Instant} {fresh : ResourceId} {lost : Option CallFailure}
      {request : StoreCall} {limit : Option Duration}
      {next : CallEnd request.Answer → Program Unit}
      (stands : cluster.errands[place]? = some (.call request limit next))
      (new : mayTake cluster.ledger.store fresh request) (ended : Option (CallEnd request.Answer)) :
      Move crew cluster (.visit place now fresh lost)
        ({ cluster with ledger := (cluster.ledger.perform request now fresh).2 }.setErrand place
          (ended.elim (.done ()) next))
  | switched (available : Bool) :
      Move crew cluster (.setAvailable available)
        { cluster with ledger := cluster.ledger.setAvailable available }

/-- The call of a loop takes effect, or nothing happens. -/
theorem move_perform (crew : Crew ι) (cluster : Cluster ι) (loop : ι) (now : Instant)
    (fresh : ResourceId) :
    Move crew cluster (.perform loop now fresh) (cluster.step crew (.perform loop now fresh)) := by
  cases found : cluster.program? crew loop with
  | none =>
    rw [step, found]
    exact .still _
  | some program =>
    obtain ⟨asking, request, event, limit, asks, rfl⟩ := program?_cases found
    simp only [step, found, Option.elim_some, perform]
    split
    · rename_i new
      cases ends : CallEnd.ofResult? (cluster.ledger.perform request now fresh).1 with
      | none => exact .still _
      | some ended => exact .landed asking asks new ends
    · exact .still _

/-- The call of a loop reaches the end of the calendar, or nothing happens. -/
theorem move_breakOff (crew : Crew ι) (cluster : Cluster ι) (loop : ι) (now : Instant)
    (fresh : ResourceId) :
    Move crew cluster (.breakOff loop now fresh)
      (cluster.step crew (.breakOff loop now fresh)) := by
  cases found : cluster.program? crew loop with
  | none =>
    rw [step, found]
    exact .still _
  | some program =>
    obtain ⟨asking, request, event, limit, asks, rfl⟩ := program?_cases found
    simp only [step, found, Option.elim_some, breakOff]
    split
    · rename_i ledger stopped
      obtain rfl : (cluster.ledger.perform request now fresh).2 = ledger := by rw [stopped]
      exact .broken asking asks (by rw [stopped])
    · exact .still _

/-- The call of an errand takes effect, or nothing happens. -/
theorem move_visit (crew : Crew ι) (cluster : Cluster ι) (place : Nat) (now : Instant)
    (fresh : ResourceId) (lost : Option CallFailure) :
    Move crew cluster (.visit place now fresh lost)
      (cluster.step crew (.visit place now fresh lost)) := by
  cases stands : cluster.errands[place]? with
  | none =>
    rw [step, stands]
    exact .still _
  | some program =>
    rw [step, stands, Option.elim_some]
    cases program with
    | call request limit next =>
      unfold visit
      dsimp only
      split
      · rename_i new
        exact .visited stands new _
      · exact .still _
    | done value => exact .still _
    | push token next => exact .still _

/-- Every action makes one of the moves. -/
theorem step_move (crew : Crew ι) (cluster : Cluster ι) (action : Action ι) :
    Move crew cluster action (cluster.step crew action) := by
  cases action with
  | perform loop now fresh => exact move_perform crew cluster loop now fresh
  | breakOff loop now fresh => exact move_breakOff crew cluster loop now fresh
  | deliver loop =>
    rw [step]
    split
    · rename_i event answered
      exact .delivered answered
    · exact .still _
    · exact .still _
  | refuse loop error =>
    rw [step]
    split
    · rename_i asking
      cases failure : cluster.failure? crew loop error with
      | none => exact .still _
      | some event => exact .refused asking failure
    · exact .still _
  | lose loop error =>
    rw [step]
    split
    · cases failure : cluster.failure? crew loop error with
      | none => exact .still _
      | some event => exact .lost failure
    · exact .still _
  | happen loop event =>
    rw [step]
    split
    · rename_i allowed
      exact .happened allowed.1 allowed.2
    · exact .still _
  | cancel loop => exact .cancelled loop
  | enter dispatcher errand => exact .entered dispatcher errand
  | visit place now fresh lost => exact move_visit crew cluster place now fresh lost
  | spoil place failure =>
    rw [step]
    split
    · rename_i stands
      exact .spoiled stands
    · exact .still _
  | publish place sent =>
    rw [step]
    split
    · rename_i stands
      exact .published stands
    · exact .still _
  | setAvailable available => exact .switched available

/-- What holds after every move holds after an action. -/
theorem step_induction {motive : Cluster ι → Prop} (crew : Crew ι) (cluster : Cluster ι)
    (action : Action ι) (each : ∀ after, Move crew cluster action after → motive after) :
    motive (cluster.step crew action) :=
  each _ (cluster.step_move crew action)

/-- The action lets an errand begin that fails the jobs of offline workers. -/
def Action.reaps : Action ι → Bool
  | .enter _ errand => errand.reaps
  | _ => false

/-- The errands of a cluster make no claims and no reports, and fail no jobs unless some reap. -/
def OnlyErrands (reaping : Bool) (cluster : Cluster ι) : Prop :=
  ∀ program ∈ cluster.errands, program.Calls (StoreCall.IsErrand reaping)

variable {reaping : Bool}

omit [DecidableEq ι] in
/-- An errand in a place may go on as it would. -/
theorem OnlyErrands.setErrand (only : OnlyErrands reaping cluster) (place : Nat)
    {program : Program Unit} (calls : program.Calls (StoreCall.IsErrand reaping)) :
    OnlyErrands reaping (cluster.setErrand place program) := by
  intro other member
  obtain before | rfl := List.mem_or_eq_of_mem_set member
  · exact only other before
  · exact calls

/-- Errands go on as they would. -/
theorem OnlyErrands.step (only : OnlyErrands reaping cluster) {action : Action ι}
    (allowed : action.reaps → reaping) : OnlyErrands reaping (cluster.step crew action) := by
  apply step_induction
  intro after move
  cases move with
  | entered dispatcher errand =>
    intro program member
    obtain before | new := List.mem_append.mp member
    · exact only program before
    · rw [List.mem_singleton.mp new]
      exact errand.calls dispatcher allowed
  | spoiled stands =>
    have calls := only _ (List.mem_of_getElem? stands)
    exact only.setErrand _ (calls.2 _)
  | published stands =>
    have calls := only _ (List.mem_of_getElem? stands)
    exact only.setErrand _ (calls _)
  | @visited _ _ _ _ _ _ next stands new ended =>
    have calls := only _ (List.mem_of_getElem? stands)
    have rest : (ended.elim (.done ()) next).Calls (StoreCall.IsErrand reaping) := by
      cases ended with
      | none => trivial
      | some ended => exact calls.2 ended
    exact OnlyErrands.setErrand only _ rest
  | still | landed | broken | delivered | refused | lost | happened | cancelled | switched =>
    exact only

end Cluster

end JobDispatch
