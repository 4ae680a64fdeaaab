import JobDispatch.Proofs.Backend.Refusal
import JobDispatch.Proofs.Cluster.Basic
import JobDispatch.Proofs.Identifier

/-!
# Outages of the wake queue

Two runs of the same operations of a dispatcher may differ in which of their wake tokens are
published. Nobody can tell them apart by their answers or by the store, whatever becomes of the
store calls: an operation goes on in the same way whether its token was published or not. The tokens
that a run publishes are those of the submissions that have succeeded while the queue was up.
-/

namespace JobDispatch

/-- How the store treats a call. -/
inductive Treatment
  /-- It takes effect at a clock reading and is answered; a new record takes the given identifier. -/
  | answered (now : Instant) (fresh : ResourceId)
  /-- It takes effect, but its answer is lost. -/
  | unheard (now : Instant) (fresh : ResourceId) (failure : CallFailure)
  /-- It fails before it takes effect. -/
  | failed (failure : CallFailure)

/-- The identifier for a new record. -/
def Treatment.fresh? : Treatment → Option ResourceId
  | .answered _ fresh | .unheard _ fresh _ => some fresh
  | .failed _ => none

/-- The answer of the store, if a call has ended with one. -/
def CallEnd.answer? {α : Type} : CallEnd α → Option α
  | .answered answer => some answer
  | .refused _ | .overran => none

/-- A failure is no answer. -/
@[simp] theorem CallFailure.answer?_ended {α : Type} (failure : CallFailure) :
    (failure.ended : CallEnd α).answer? = none := by
  cases failure <;> rfl

namespace Backend

/-- Makes a call that is treated in some way. At the end of the calendar a call does not end. -/
def treat (backend : Backend) (request : StoreCall) :
    Treatment → Option (CallEnd request.Answer) × Backend
  | .answered now fresh =>
    let (result, store) := request.run now fresh backend.store
    (CallEnd.ofResult? result, { backend with store })
  | .unheard now fresh failure =>
    (some failure.ended, { backend with store := (request.run now fresh backend.store).2 })
  | .failed failure => (some failure.ended, backend)

/-- A call leaves the wake queue as it is. -/
@[simp] theorem queue_treat (backend : Backend) (request : StoreCall) (treatment : Treatment) :
    (backend.treat request treatment).2.queue = backend.queue := by
  cases treatment <;> rfl

/-- How a call ends, and the store afterwards, do not depend on the wake queue. -/
theorem treat_congr {one other : Backend} (same : one.store = other.store) (request : StoreCall)
    (treatment : Treatment) :
    (one.treat request treatment).1 = (other.treat request treatment).1 ∧
      (one.treat request treatment).2.store = (other.treat request treatment).2.store := by
  cases treatment with
  | answered now fresh => simp [treat, same]
  | unheard now fresh failure => simp [treat, same]
  | failed failure => exact ⟨rfl, same⟩

/-- The call of a submission is not answered, or the store has taken the job in under the new
identifier. -/
theorem treat_create (backend : Backend) (submission : Submission) (treatment : Treatment) :
    (∃ ended after, backend.treat (.create submission) treatment = (some ended, after) ∧
        ended.answer? = none) ∨
      ∃ job after, backend.treat (.create submission) treatment = (some (.answered job), after) ∧
        treatment.fresh? = some job.id ∧ after.store.jobs.get? job.id = some job := by
  cases treatment with
  | failed failure => exact .inl ⟨_, _, rfl, failure.answer?_ended⟩
  | unheard now fresh failure => exact .inl ⟨_, _, rfl, failure.answer?_ended⟩
  | answered now fresh =>
    unfold treat
    dsimp only
    rw [StoreCall.run_create]
    cases submission.validate with
    | error error => exact .inl ⟨_, _, rfl, rfl⟩
    | ok accepted =>
      by_cases available : backend.store.available
      · rw [if_pos available]
        refine .inr ⟨Job.ofSubmission submission fresh now, _, rfl, rfl, ?_⟩
        exact (Table.get?_insert _ fresh fresh _).trans (if_pos rfl)
      · rw [if_neg available]
        exact .inl ⟨_, _, rfl, rfl⟩

/-- A token changes nothing about the store. -/
@[simp] theorem store_push (backend : Backend) (up : Bool) (token : String) :
    (backend.push up token).store = backend.store := by
  cases up <;> rfl

/-- A token that is published joins the queue behind the others. -/
theorem tokens_push (backend : Backend) (up : Bool) (token : String) :
    (backend.push up token).queue.tokens = backend.queue.tokens ++ if up then [token] else [] := by
  obtain ⟨store, tokens, permit, waiters⟩ := backend
  cases up with
  | false => exact (List.append_nil tokens).symm
  | true => cases waiters <;> rfl

end Backend

namespace Program

variable {α β : Type}

/-- Runs a program whose store calls are all treated in the same way: how it ends, unless it does
not, and what it leaves behind. -/
def under (up : Bool) (treatment : Treatment) : Program α → Backend → Option α × Backend
  | .done value, backend => (some value, backend)
  | .call request _ next, backend =>
    match backend.treat request treatment with
    | (some ended, after) => (next ended).under up treatment after
    | (none, after) => (none, after)
  | .push token next, backend => (next up).under up treatment (backend.push up token)

/-- A program that goes on in the same way whether or not a token of it is published. -/
inductive Deaf : Program α → Prop
  | done (value : α) : Deaf (.done value)
  | call {request : StoreCall} {limit : Option Duration}
      {next : CallEnd request.Answer → Program α} (rest : ∀ ended, Deaf (next ended)) :
      Deaf (.call request limit next)
  | push {token : String} {next : Bool → Program α} (same : next true = next false)
      (rest : ∀ sent, Deaf (next sent)) : Deaf (.push token next)

/-- A program that publishes no token. -/
inductive Silent : Program α → Prop
  | done (value : α) : Silent (.done value)
  | call {request : StoreCall} {limit : Option Duration}
      {next : CallEnd request.Answer → Program α} (rest : ∀ ended, Silent (next ended)) :
      Silent (.call request limit next)

/-- A program without tokens cannot tell whether they are published. -/
theorem Silent.deaf {program : Program α} (silent : program.Silent) : program.Deaf := by
  induction silent with
  | done value => exact .done value
  | call rest ih => exact .call ih

/-- A program without tokens leaves the wake queue as it is. -/
theorem Silent.queue_under {program : Program α} (silent : program.Silent) (up : Bool)
    (treatment : Treatment) (before : Backend) :
    (program.under up treatment before).2.queue = before.queue := by
  induction silent generalizing before with
  | done value => rfl
  | @call request limit next rest ih =>
    have kept := before.queue_treat request treatment
    unfold under
    generalize before.treat request treatment = treated at kept ⊢
    obtain ⟨_ | ended, after⟩ := treated
    · exact kept
    · exact (ih ended after).trans kept

/-- A program that does not hear of its tokens ends in the same way, and leaves the same store,
whether or not they are published. -/
theorem Deaf.under_congr {program : Program α} (deaf : program.Deaf) (up down : Bool)
    (treatment : Treatment) {one other : Backend} (same : one.store = other.store) :
    (program.under up treatment one).1 = (program.under down treatment other).1 ∧
      (program.under up treatment one).2.store =
        (program.under down treatment other).2.store := by
  induction deaf generalizing one other with
  | done value => exact ⟨rfl, same⟩
  | @call request limit next rest ih =>
    obtain ⟨ends, leaves⟩ := Backend.treat_congr same request treatment
    unfold under
    generalize one.treat request treatment = first at ends leaves ⊢
    generalize other.treat request treatment = second at ends leaves ⊢
    obtain ⟨ended, after⟩ := first
    obtain ⟨_, afterwards⟩ := second
    obtain rfl : ended = _ := ends
    cases ended with
    | none => exact ⟨rfl, leaves⟩
    | some ended => exact ih ended leaves
  | @push token next unheard rest ih =>
    have goesOn : next up = next down := by
      cases up <;> cases down <;> simp [unheard]
    unfold under
    rw [← goesOn]
    exact ih up (by rw [Backend.store_push, Backend.store_push, same])

/-- A program without tokens and then another without tokens publish none. -/
theorem Silent.bind {program : Program α} {next : α → Program β} (silent : program.Silent)
    (rest : ∀ value, (next value).Silent) : (program.bind next).Silent := by
  induction silent with
  | done value => exact rest value
  | call _ ih => exact .call ih

/-- An attempt without tokens and then another without tokens publish none. -/
theorem Silent.andThen {ε : Type} {first : ExceptT ε Program α} {next : α → ExceptT ε Program β}
    (silent : first.run.Silent) (rest : ∀ value, (next value).run.Silent) :
    (first >>= next).run.Silent := by
  refine Silent.bind silent fun result => ?_
  cases result with
  | ok value => exact rest value
  | error error => exact .done _

end Program

/-- The operation is a submission. -/
def DispatcherCall.submits : DispatcherCall → Bool
  | submit _ => true
  | _ => false

/-- The job of a submission that has succeeded. -/
def DispatcherCall.submitted? :
    (call : DispatcherCall) → Option (Except Error call.Answer) → Option Job
  | submit _, some (.ok job) => some job
  | _, _ => none

/-- An operation of a dispatcher, and how the store treats its call. -/
structure Undertaking where
  /-- The operation. -/
  call : DispatcherCall
  /-- How the store treats its call. -/
  treatment : Treatment

/-- An operation that has been performed. -/
structure Episode where
  /-- The operation, and how the store has treated its call. -/
  undertaking : Undertaking
  /-- The wake queue was up. -/
  up : Bool
  /-- How the operation has ended, unless its call has met the end of the calendar. -/
  answer : Option (Except Error undertaking.call.Answer)
  /-- What it has left behind. -/
  after : Backend

namespace Episode

/-- What a client and the store know of an operation: how it has ended, and the store that it has
left behind. -/
def seen (episode : Episode) :
    (undertaking : Undertaking) × Option (Except Error undertaking.call.Answer) × Store :=
  ⟨episode.undertaking, episode.answer, episode.after.store⟩

/-- The job that it has submitted with success. -/
def submitted? (episode : Episode) : Option Job :=
  episode.undertaking.call.submitted? episode.answer

/-- The token of a job that it has submitted with success while the queue was up. -/
def token? (episode : Episode) : Option String :=
  if episode.up then episode.submitted?.map (·.id.text) else none

end Episode

namespace Dispatcher

variable {dispatcher : Dispatcher}

/-- A store call of the dispatcher publishes no token. -/
theorem store_silent (name : String) (request : StoreCall) :
    (dispatcher.store name request).program.Silent :=
  .call fun _ => .done _

/-- Only a submission publishes a token. -/
theorem attempt_silent {call : DispatcherCall} (other : call.submits = false) :
    (dispatcher.attempt call).program.Silent := by
  cases call with
  | submit submission => contradiction
  | getJob job =>
    refine Program.Silent.andThen (store_silent _ _) fun found => ?_
    cases found <;> exact .done _
  | jobStats | checkStore => exact Program.Silent.andThen (store_silent _ _) fun _ => .done _
  | claimNext | reportOutcome | listJobs | registerWorker | heartbeat | listWorkers =>
    exact store_silent _ _

/-- A submission is checked, then stored under the limit, and then its token is published; what
comes of the token is not looked at. -/
theorem submit_program (submission : Submission) :
    (dispatcher.submit submission).program =
      match submission.validate with
      | .error error => .done (.error error)
      | .ok () => .call (.create submission) (some dispatcher.storeTimeout) fun ended =>
        match ended.result ⟨.timeout, "create job did not complete within " ++
          dispatcher.storeTimeout.text⟩ with
        | .error error => .done (.error error)
        | .ok job => .push job.id.text fun _ => .done (.ok job) := by
  rw [submit]
  cases submission.validate with
  | error error => rfl
  | ok accepted =>
    refine congrArg (Program.call _ _) (funext fun ended => ?_)
    cases ended <;> rfl

/-- No operation goes on in another way because its token was not published. -/
theorem attempt_deaf (call : DispatcherCall) : (dispatcher.attempt call).program.Deaf := by
  cases call with
  | submit submission =>
    change (dispatcher.submit submission).program.Deaf
    rw [submit_program]
    split
    · exact .done _
    · refine .call fun ended => ?_
      split
      · exact .done _
      · exact .push rfl fun _ => .done _
  | _ => exact (attempt_silent rfl).deaf

/-- Performs an operation. -/
def operate (dispatcher : Dispatcher) (up : Bool) (undertaking : Undertaking)
    (before : Backend) : Episode :=
  let (answer, after) :=
    (dispatcher.attempt undertaking.call).program.under up undertaking.treatment before
  ⟨undertaking, up, answer, after⟩

/-- Performs operations one after another; the wake queue is up for those in some places. -/
def serve (dispatcher : Dispatcher) (up : Nat → Bool) (before : Backend) :
    List Undertaking → List Episode
  | [] => []
  | undertaking :: rest =>
    let episode := dispatcher.operate (up 0) undertaking before
    episode :: dispatcher.serve (fun place => up (place + 1)) episode.after rest

/-- What operations leave behind. -/
def leave (dispatcher : Dispatcher) (up : Nat → Bool) (before : Backend)
    (work : List Undertaking) : Backend :=
  ((dispatcher.serve up before work).map Episode.after).getLastD before

/-- An operation is seen to go in the same way whether or not the wake queue is up. -/
theorem seen_operate (up down : Bool) (undertaking : Undertaking) {one other : Backend}
    (same : one.store = other.store) :
    (dispatcher.operate up undertaking one).seen =
      (dispatcher.operate down undertaking other).seen := by
  have deaf : (dispatcher.attempt undertaking.call).program.Deaf := attempt_deaf undertaking.call
  obtain ⟨ends, leaves⟩ := deaf.under_congr up down undertaking.treatment same
  unfold operate Episode.seen
  dsimp only
  rw [ends, leaves]

/-- The operations of two runs are seen to go in the same way. -/
theorem seen_serve (up down : Nat → Bool) (work : List Undertaking) {one other : Backend}
    (same : one.store = other.store) :
    (dispatcher.serve up one work).map Episode.seen =
      (dispatcher.serve down other work).map Episode.seen := by
  induction work generalizing up down one other with
  | nil => rfl
  | cons undertaking rest ih =>
    have first : (dispatcher.operate (up 0) undertaking one).seen =
        (dispatcher.operate (down 0) undertaking other).seen := seen_operate _ _ _ same
    have leaves : (dispatcher.operate (up 0) undertaking one).after.store =
        (dispatcher.operate (down 0) undertaking other).after.store :=
      congrArg (fun seen => seen.2.2) first
    exact List.cons_eq_cons.mpr ⟨first, ih _ _ leaves⟩

/-- A submission has failed and has published nothing, or the store has taken the job in under the
new identifier and its answer has come, and then its token has been published if the queue was
up. -/
theorem operate_submit (submission : Submission) (treatment : Treatment) (up : Bool)
    (before : Backend) {episode : Episode}
    (performed : dispatcher.operate up ⟨.submit submission, treatment⟩ before = episode) :
    (episode.submitted? = none ∧ episode.after.queue = before.queue) ∨
      ∃ job between, episode.submitted? = some job ∧ treatment.fresh? = some job.id ∧
        between.store.jobs.get? job.id = some job ∧ between.queue = before.queue ∧
        episode.after = Backend.push between up job.id.text := by
  subst performed
  unfold operate attempt Episode.submitted?
  dsimp only
  rw [submit_program]
  cases submission.validate with
  | error error => exact .inl ⟨rfl, rfl⟩
  | ok accepted =>
    have kept := before.queue_treat (.create submission) treatment
    unfold Program.under
    obtain ⟨ended, after, treated, unanswered⟩ | ⟨job, after, treated, fresh, stored⟩ :=
      before.treat_create submission treatment
    · rw [treated] at kept ⊢
      cases ended with
      | answered job => contradiction
      | refused | overran => exact .inl ⟨rfl, kept⟩
    · rw [treated] at kept ⊢
      exact .inr ⟨job, after, rfl, fresh, stored, kept, rfl⟩

/-- The job that an operation has submitted with success is stored under the new identifier. -/
theorem operate_submitted {up : Bool} {undertaking : Undertaking} {before : Backend} {job : Job}
    (submitted : (dispatcher.operate up undertaking before).submitted? = some job) :
    undertaking.treatment.fresh? = some job.id ∧
      (dispatcher.operate up undertaking before).after.store.jobs.get? job.id = some job := by
  obtain ⟨call, treatment⟩ := undertaking
  cases call with
  | submit submission =>
    obtain ⟨failed, -⟩ | ⟨accepted, between, succeeded, fresh, stored, -, leaves⟩ :=
      operate_submit submission treatment up before (Eq.refl (dispatcher.operate up _ before))
    · rw [failed] at submitted
      contradiction
    · obtain rfl : accepted = job := Option.some.inj (succeeded.symm.trans submitted)
      rw [leaves, Backend.store_push]
      exact ⟨fresh, stored⟩
  | _ => contradiction

/-- The token of an operation is the text of the identifier for its new record. -/
theorem operate_token {up : Bool} {undertaking : Undertaking} {before : Backend} {token : String}
    (told : (dispatcher.operate up undertaking before).token? = some token) :
    ∃ job : Job, undertaking.treatment.fresh? = some job.id ∧ job.id.text = token := by
  cases up with
  | false => contradiction
  | true =>
    obtain ⟨job, submitted, text⟩ := Option.map_eq_some_iff.mp told
    exact ⟨job, (operate_submitted submitted).1, text⟩

/-- An operation publishes the token of the job that it has submitted with success, if the queue is
up, and nothing else. -/
theorem tokens_operate (up : Bool) (undertaking : Undertaking) (before : Backend) :
    (dispatcher.operate up undertaking before).after.queue.tokens =
      before.queue.tokens ++ (dispatcher.operate up undertaking before).token?.toList := by
  obtain ⟨call, treatment⟩ := undertaking
  by_cases submits : call.submits
  · cases call with
    | submit submission =>
      rw [Episode.token?]
      obtain ⟨failed, kept⟩ | ⟨job, between, succeeded, -, -, kept, leaves⟩ :=
        operate_submit submission treatment up before (Eq.refl (dispatcher.operate up _ before))
      · rw [failed, kept]
        simp
      · rw [succeeded, leaves, Backend.tokens_push, kept]
        cases up <;> rfl
    | _ => contradiction
  · have other : call.submits = false := Bool.eq_false_iff.mpr submits
    have silent : (dispatcher.attempt call).program.Silent := attempt_silent other
    have nothing : (dispatcher.operate up ⟨call, treatment⟩ before).token? = none := by
      cases call with
      | submit => contradiction
      | _ => cases up <;> rfl
    have kept := silent.queue_under up treatment before
    rw [nothing]
    exact (congrArg WakeQueue.tokens kept).trans (List.append_nil _).symm

/-- What operations leave behind is what the others leave behind after the first. -/
theorem leave_cons (up : Nat → Bool) (before : Backend) (undertaking : Undertaking)
    (rest : List Undertaking) :
    dispatcher.leave up before (undertaking :: rest) =
      dispatcher.leave (fun place => up (place + 1))
        (dispatcher.operate (up 0) undertaking before).after rest :=
  List.getLastD_cons

/-- The tokens of operations are the token of the first, if it has one, and those of the others. -/
theorem tokens_cons (up : Nat → Bool) (before : Backend) (undertaking : Undertaking)
    (rest : List Undertaking) :
    (dispatcher.serve up before (undertaking :: rest)).filterMap Episode.token? =
      (dispatcher.operate (up 0) undertaking before).token?.toList ++
        (dispatcher.serve (fun place => up (place + 1))
          (dispatcher.operate (up 0) undertaking before).after rest).filterMap Episode.token? := by
  rw [serve, List.filterMap_cons]
  cases (dispatcher.operate (up 0) undertaking before).token? <;> rfl

/-- Operations publish the tokens of the jobs that they have submitted with success while the queue
was up, in their order, and nothing else. -/
theorem tokens_leave (up : Nat → Bool) (before : Backend) (work : List Undertaking) :
    (dispatcher.leave up before work).queue.tokens =
      before.queue.tokens ++ (dispatcher.serve up before work).filterMap Episode.token? := by
  induction work generalizing up before with
  | nil => exact (List.append_nil _).symm
  | cons undertaking rest ih =>
    rw [leave_cons, ih, tokens_operate, tokens_cons, List.append_assoc]

/-- Each token that is published is the text of an identifier that an operation was given for its
new record. -/
theorem tokens_sublist (up : Nat → Bool) (before : Backend) (work : List Undertaking) :
    ((dispatcher.serve up before work).filterMap Episode.token?).Sublist
      ((work.filterMap (·.treatment.fresh?)).map ResourceId.text) := by
  induction work generalizing up before with
  | nil => exact .slnil
  | cons undertaking rest ih =>
    have later := ih (fun place => up (place + 1))
      (dispatcher.operate (up 0) undertaking before).after
    rw [tokens_cons]
    cases told : (dispatcher.operate (up 0) undertaking before).token? with
    | none => exact later.trans (((List.sublist_cons_self undertaking rest).filterMap _).map _)
    | some token =>
      obtain ⟨job, fresh, rfl⟩ := operate_token told
      rw [List.filterMap_cons, fresh]
      exact later.cons_cons job.id.text

/-- The episodes of a run are operations that have been performed. -/
theorem mem_serve {up : Nat → Bool} {before : Backend} {work : List Undertaking}
    {episode : Episode} (member : episode ∈ dispatcher.serve up before work) :
    ∃ place undertaking between, work[place]? = some undertaking ∧
      episode = dispatcher.operate (up place) undertaking between := by
  induction work generalizing up before with
  | nil => contradiction
  | cons undertaking rest ih =>
    obtain rfl | later := List.mem_cons.mp member
    · exact ⟨0, undertaking, before, rfl, rfl⟩
    · obtain ⟨place, other, between, found, rfl⟩ := ih later
      exact ⟨place + 1, other, between, found, rfl⟩

/-- Operations of a dispatcher do not suffer from outages of the wake queue. -/
structure Withstands (dispatcher : Dispatcher) (before : Backend) (work : List Undertaking) :
    Prop where
  /-- Whichever tokens fail to be published, the operations end in the same way, each with the same
  store. -/
  same : ∀ one other : Nat → Bool, (dispatcher.serve one before work).map Episode.seen =
    (dispatcher.serve other before work).map Episode.seen
  /-- The tokens that are published are those of the jobs that have been submitted with success
  while the queue was up, one for each, in the order of the submissions. -/
  published : ∀ up : Nat → Bool, (dispatcher.leave up before work).queue.tokens =
    before.queue.tokens ++ (dispatcher.serve up before work).filterMap Episode.token?
  /-- No token is published twice, if the identifiers for new records are distinct. -/
  once : ∀ up : Nat → Bool, (work.filterMap (·.treatment.fresh?)).Nodup →
    ((dispatcher.serve up before work).filterMap Episode.token?).Nodup
  /-- A job that has been submitted with success is stored under its new identifier. -/
  stored : ∀ up : Nat → Bool, ∀ episode ∈ dispatcher.serve up before work, ∀ job,
    episode.submitted? = some job →
      episode.undertaking.treatment.fresh? = some job.id ∧
        episode.after.store.jobs.get? job.id = some job

/-- Whatever becomes of their store calls, operations of a dispatcher do not suffer from outages of
the wake queue. -/
theorem withstands_outages (dispatcher : Dispatcher) (before : Backend) (work : List Undertaking) :
    dispatcher.Withstands before work where
  same one other := seen_serve one other work rfl
  published up := tokens_leave up before work
  once up new := by
    have apart : ((work.filterMap (·.treatment.fresh?)).map ResourceId.text).Nodup :=
      List.pairwise_map.mpr (new.imp fun distinct same => distinct (ResourceId.text_inj same))
    exact (tokens_sublist up before work).nodup apart
  stored up episode member job submitted := by
    obtain ⟨place, undertaking, between, -, rfl⟩ := mem_serve member
    exact operate_submitted submitted

end Dispatcher

end JobDispatch
