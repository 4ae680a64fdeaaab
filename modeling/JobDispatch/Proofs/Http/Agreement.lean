import JobDispatch.Proofs.Backend.Write
import JobDispatch.Proofs.Http.Coordinate
import JobDispatch.Proofs.Store.Payload

/-!
# Workers near and far

A worker may talk to a dispatcher in its own process or to the HTTP interface over one. Whatever it
asks for, both ways end or neither does, the answers agree, and the store and the wake queue are the
same afterwards, except for one text: a failure that is reported with a blank text is recorded under
a name. The claims of both sides are the same only as far as JSON carries the payload of the job.
-/

namespace JobDispatch

/-- The store with the text of the failure of one job. -/
def Store.withError (store : Store) (id : ResourceId) (text : String) : Store :=
  { store with jobs := store.jobs.map fun job =>
      if job.id = id then { job with error := some text } else job }

namespace CoordinatorCall

/-- Two answers agree: about a registration on the identifier and the status, else in full. -/
def SameAnswer : (call : CoordinatorCall) → (far near : call.Answer) → Prop
  | register _, far, near => far.id = near.id ∧ far.status = near.status
  | heartbeat _, far, near => far = near
  | claimNext _, far, near => far = near
  | reportOutcome _ _ _, far, near => far = near

/-- The results of a call over HTTP and of the same call in the process agree: answers do, and an
error is the one that arrives over HTTP, which is passing exactly when the other is. -/
def SameResult (call : CoordinatorCall) : (far near : Except Error call.Answer) → Prop
  | .ok far, .ok near => call.SameAnswer far near
  | .error far, .error near => far = near.overHttp ∧ far.isTransient = near.isTransient
  | _, _ => False

/-- The store that a call over HTTP leaves, given what the same call in the process leaves: the
same, but for the text of a failure that is reported with a blank one. -/
def recorded : (call : CoordinatorCall) → Except Error call.Answer → Store → Store
  | .reportOutcome job _ (.failure text), .ok _, store =>
    if Text.isBlankText text then store.withError job "job failed" else store
  | _, _, store => store

/-- A call over HTTP and the same call in the process agree, in their results and in what they
leave. -/
structure Agreement (call : CoordinatorCall) (far near : Except Error call.Answer × Backend) :
    Prop where
  /-- The results agree. -/
  result : call.SameResult far.1 near.1
  /-- The stores are the same, but for the name of a failure without a text. -/
  store : far.2.store = call.recorded near.1 near.2.store
  /-- The wake queues are the same. -/
  queue : far.2.queue = near.2.queue

end CoordinatorCall

/-- The text of a failure makes no difference but in the job. -/
theorem Job.applyOutcome_failure (job : Job) (text other : String) (expected : Option ResourceId)
    (now : Instant) :
    job.applyOutcome (.failure other) expected now =
      (job.applyOutcome (.failure text) expected now).map fun (updated, report) =>
        ({ updated with error := some other }, report) := by
  unfold applyOutcome settled touch
  dsimp only
  cases job.checkRunning expected with
  | error fault => rfl
  | ok accepted =>
    cases RetryDecision.decide job.retryCount job.maxRetries <;>
      cases nextUpdate job.updatedAt now <;> rfl

namespace Store

/-- A job that is written and whose failure then has another text is written with that text. -/
theorem withError_withJob {store : Store} (keyed : store.Keyed) (job : Job) (text : String) :
    (store.withJob job).withError job.id text = store.withJob { job with error := some text } := by
  have same : (store.jobs.replace job.id job).map (fun other =>
      if other.id = job.id then { other with error := some text } else other) =
        store.jobs.replace job.id { job with error := some text } := by
    refine Table.ext_entries ?_
    simp only [Table.map, Table.replace, List.map_map]
    refine List.map_congr_left fun entry member => ?_
    have named : entry.2.id = entry.1 :=
      keyed entry.1 entry.2 (Table.get?_eq_some_iff.mpr member)
    by_cases here : entry.1 = job.id
    · simp [here]
    · simp [here, named]
  rw [withJob, withError, withJob]
  dsimp only
  rw [same]

end Store

/-- The text of a failure makes no difference to how its report ends, only to the recorded one. -/
theorem StoreCall.run_failure {store : Store} (keyed : store.Keyed) (id : ResourceId)
    (text other : String) (expected : Option ResourceId) (now : Instant) (fresh : ResourceId) :
    (reportOutcome id (.failure other) expected).run now fresh store =
      match (reportOutcome id (.failure text) expected).run now fresh store with
      | (.ok report, after) => (.ok report, after.withError id other)
      | (.error fault, after) => (.error fault, after) := by
  rw [run_reportOutcome, run_reportOutcome]
  split
  · cases stored : store.jobs.get? id with
    | none => rfl
    | some job =>
      dsimp only
      rw [job.applyOutcome_failure text other]
      cases applied : job.applyOutcome (.failure text) expected now with
      | error fault => rfl
      | ok settled =>
        obtain ⟨updated, report⟩ := settled
        obtain ⟨-, touched, -⟩ := Job.applyOutcome_eq_ok_iff.mp applied
        have named : updated.id = id :=
          (Job.touch_id touched).trans ((job.settled_id _).trans (keyed id job stored))
        subst named
        exact congrArg (Prod.mk _) (Store.withError_withJob keyed updated other).symm
  · rfl

/-- The text of a failure makes no difference to what becomes of its report, only to the recorded
one. -/
theorem Backend.perform_failure {before : Backend} (keyed : before.store.Keyed) (id : ResourceId)
    (text other : String) (expected : Option ResourceId) (fate : CallFate) :
    before.perform (.reportOutcome id (.failure other) expected) fate =
      (before.perform (.reportOutcome id (.failure text) expected) fate).map fun
        | (.answered report, after) =>
          (.answered report, { after with store := after.store.withError id other })
        | (.refused error, after) => (.refused error, after)
        | (.overran, after) => (.overran, after) := by
  cases fate with
  | overran | refused => rfl
  | effective now fresh =>
    unfold perform
    dsimp only
    rw [StoreCall.run_failure keyed id text other]
    rcases (StoreCall.reportOutcome id (.failure text) expected).run now fresh before.store with
      ⟨⟨error | _⟩ | report, after⟩ <;> rfl

/-- A call ends, short of the end of the calendar. -/
theorem Backend.perform_ends {before : Backend} (keyed : before.store.Keyed)
    (unexhausted : ¬ before.store.Exhausted) (request : StoreCall) (fate : CallFate) :
    ∃ ended after, before.perform request fate = some (ended, after) := by
  cases fate with
  | overran => exact ⟨.overran, before, rfl⟩
  | refused error => exact ⟨.refused error, before, rfl⟩
  | effective now fresh =>
    have ended := request.ending now fresh keyed
    unfold perform
    dsimp only
    generalize request.run now fresh before.store = result at ended
    cases ended with
    | answered => exact ⟨_, _, rfl⟩
    | refused error => exact ⟨.refused error, _, rfl⟩
    | stopped continues exhausted => exact absurd exhausted unexhausted

/-- What a worker asks for in the process ends when its store call does. -/
theorem Dispatcher.coordinate_ends {dispatcher : Dispatcher} {up : Bool} {fates : List CallFate}
    {before : Backend} (keyed : before.store.Keyed) (unexhausted : ¬ before.store.Exhausted)
    (call : CoordinatorCall) (fated : fates ≠ []) :
    ((dispatcher.coordinate call).program.alone up fates before).isSome := by
  obtain ⟨fate, rest, rfl⟩ := List.exists_cons_of_ne_nil fated
  cases call with
  | register hostname | claimNext worker | reportOutcome job worker outcome =>
    change (Program.alone up (.call _ _ _) _ _).isSome
    obtain ⟨ended, after, performed⟩ := before.perform_ends keyed unexhausted _ fate
    rw [Program.alone, performed]
    rfl
  | heartbeat worker =>
    change (Program.alone up (.call (.heartbeat worker) _ _) _ _).isSome
    obtain ⟨ended, after, performed⟩ :=
      before.perform_ends keyed unexhausted (.heartbeat worker) fate
    rw [Program.alone, performed]
    cases ended <;> rfl

namespace Http

section

variable {call : CoordinatorCall} {up : Bool} {fates : List CallFate} {before : Backend}

/-- Results agree when answers do, for errors arrive as they should. -/
theorem sameResult_overHttp {arrives : call.Answer → Except Error call.Answer}
    {result : Except Error call.Answer}
    (same : ∀ value, result = .ok value →
      ∃ far, arrives value = .ok far ∧ call.SameAnswer far value) :
    call.SameResult (overHttp arrives result) result := by
  cases result with
  | error error => exact ⟨rfl, error.isTransient_overHttp⟩
  | ok value =>
    obtain ⟨far, arrived, agrees⟩ := same value rfl
    rw [overHttp, arrived]
    exact agrees

/-- A call over HTTP that is the same operation with its result translated agrees with it when the
translation does. -/
theorem rel_of_change {far near : Program (Except Error call.Answer)}
    {translate : Except Error call.Answer → Except Error call.Answer}
    (same : far = near.change translate)
    (agrees : ∀ result after, near.alone up fates before = some (result, after) →
      call.Agreement (translate result, after) (result, after)) :
    Option.Rel call.Agreement (far.alone up fates before) (near.alone up fates before) := by
  rw [same, Program.alone_change]
  cases ran : near.alone up fates before with
  | none => exact .none
  | some ended => exact .some (agrees ended.1 ended.2 ran)

end

section

variable {client : Client} {dispatcher : Dispatcher} {now : Instant} {up : Bool}
  {fates : List CallFate} {before : Backend}
  (rooted : client.base.path = .segments [""])
  (web : client.base.scheme = "http" ∨ client.base.scheme = "https")
include rooted web

/-- A heartbeat agrees. -/
theorem heartbeat_agrees {worker : ResourceId}
    (short : ((Inquiry.heartbeat worker).body.elim "" Json.compact).utf8ByteSize ≤ longestBody) :
    Option.Rel (CoordinatorCall.heartbeat worker).Agreement
      ((client.coordinate dispatcher now (.heartbeat worker)).program.alone up fates before)
      ((dispatcher.coordinate (.heartbeat worker)).program.alone up fates before) := by
  have near : (dispatcher.coordinate (.heartbeat worker)).program =
      (dispatcher.heartbeat worker).program.change fun result => result.map fun _ => () := by
    refine congrArg (dispatcher.heartbeat worker).program.bind (funext fun result => ?_)
    cases result <;> rfl
  have far : (client.coordinate dispatcher now (.heartbeat worker)).program =
      (dispatcher.coordinate (.heartbeat worker)).program.change (overHttp .ok) := by
    rw [coordinate_heartbeat rooted web short, near, Program.change_change]
    refine congrArg (Program.change _) (funext fun result => ?_)
    cases result <;> rfl
  exact rel_of_change far fun result after _ =>
    ⟨sameResult_overHttp fun value _ => ⟨value, rfl, rfl⟩, rfl, rfl⟩

/-- A claim agrees when the payloads in the store are portable. -/
theorem claimNext_agrees (keyed : before.store.Keyed)
    (portable : ∀ id job, before.store.jobs.get? id = some job → job.payload.Portable 100)
    {worker : ResourceId}
    (short : ((Inquiry.claimNext worker).body.elim "" Json.compact).utf8ByteSize ≤ longestBody) :
    Option.Rel (CoordinatorCall.claimNext worker).Agreement
      ((client.coordinate dispatcher now (.claimNext worker)).program.alone up fates before)
      ((dispatcher.coordinate (.claimNext worker)).program.alone up fates before) := by
  refine rel_of_change (coordinate_claimNext rooted web short) fun result after ran =>
    ⟨sameResult_overHttp fun handed answered => ?_, rfl, rfl⟩
  cases handed with
  | none => exact ⟨none, rfl, rfl⟩
  | some claimed =>
    obtain ⟨time, fresh, -, handed, -⟩ :=
      (Dispatcher.store_answered "claim job" (.claimNext worker)).holds ran _ answered
    obtain ⟨id, job, stored, same⟩ := Store.payload_of_claimed keyed handed
    have carried := ClaimedJob.carries_format (same ▸ portable id job stored)
    refine ⟨some claimed, ?_, rfl⟩
    dsimp only
    rw [readBody_carried carried (by decide)]
    rfl

/-- A registration agrees. -/
theorem register_agrees {hostname : String}
    (short : ((Inquiry.register hostname now).body.elim "" Json.compact).utf8ByteSize ≤
      longestBody) :
    Option.Rel (CoordinatorCall.register hostname).Agreement
      ((client.coordinate dispatcher now (.register hostname)).program.alone up fates before)
      ((dispatcher.coordinate (.register hostname)).program.alone up fates before) :=
  rel_of_change (coordinate_register rooted web short) fun _ _ _ =>
    ⟨sameResult_overHttp fun _ _ => ⟨_, rfl, rfl, rfl⟩, rfl, rfl⟩

/-- A report agrees, where a blank text of a failure gives way in the store. -/
theorem reportOutcome_agrees (keyed : before.store.Keyed) {job worker : ResourceId}
    {outcome : JobOutcome}
    (short : ((Inquiry.reportOutcome job worker outcome).body.elim "" Json.compact).utf8ByteSize ≤
      longestBody) :
    Option.Rel (CoordinatorCall.reportOutcome job worker outcome).Agreement
      ((client.coordinate dispatcher now (.reportOutcome job worker outcome)).program.alone up fates
        before)
      ((dispatcher.coordinate (.reportOutcome job worker outcome)).program.alone up fates
        before) := by
  have far : (client.coordinate dispatcher now (.reportOutcome job worker outcome)).program = _ :=
    coordinate_reportOutcome rooted web short
  have agrees (result : Except Error OutcomeReport) :
      (CoordinatorCall.reportOutcome job worker outcome).SameResult (overHttp .ok result) result :=
    sameResult_overHttp fun value _ => ⟨value, rfl, rfl⟩
  cases outcome with
  | success => exact rel_of_change far fun result after _ => ⟨agrees result, rfl, rfl⟩
  | failure text =>
    cases blank : Text.isBlankText text with
    | false =>
      rw [JobOutcome.named, blank] at far
      refine rel_of_change far fun result after _ => ⟨agrees result, ?_, rfl⟩
      cases result with
      | error error => rfl
      | ok report => exact (if_neg (by simp [blank])).symm
    | true =>
      rw [JobOutcome.named, blank] at far
      rw [far, Program.alone_change]
      cases fates with
      | nil => exact .none
      | cons fate fates =>
        change Option.Rel _ (Option.map _ (Program.alone up (.call _ _ _) _ _))
          (Program.alone up (.call (.reportOutcome job (.failure text) (some worker)) _ _) _ _)
        rw [Program.alone, Program.alone, Backend.perform_failure keyed job text]
        rcases before.perform (.reportOutcome job (.failure text) (some worker)) fate with
          _ | ⟨report | error | _, after⟩
        · exact .none
        · exact .some ⟨agrees (.ok report), (if_pos blank).symm, rfl⟩
        · exact .some ⟨agrees (.error error.toError), rfl, rfl⟩
        · exact .some ⟨agrees (.error _), rfl, rfl⟩

/-- Whatever has been done to the store, a call of a worker over HTTP agrees with the same call in
the process, when requests and responses arrive, the body of the request is one that is accepted,
and the payloads in the store are ones that JSON carries. Both end, whatever becomes of the store
call, short of the end of the calendar. -/
theorem agreement_after (operations : List Operation) (queue : WakeQueue Nat)
    (call : CoordinatorCall) (up : Bool) (fates : List CallFate)
    (short : ((Inquiry.ofCall now call).body.elim "" Json.compact).utf8ByteSize ≤ longestBody)
    (portable : ∀ id job, (Ledger.empty.after operations).store.jobs.get? id = some job →
      job.payload.Portable 100) :
    Option.Rel call.Agreement
      ((client.coordinate dispatcher now call).program.alone up fates
        ⟨(Ledger.empty.after operations).store, queue⟩)
      ((dispatcher.coordinate call).program.alone up fates
        ⟨(Ledger.empty.after operations).store, queue⟩) ∧
    (fates ≠ [] → ¬ (Ledger.empty.after operations).store.Exhausted →
      ((dispatcher.coordinate call).program.alone up fates
        ⟨(Ledger.empty.after operations).store, queue⟩).isSome) := by
  have keyed : (Ledger.empty.after operations).store.Keyed :=
    (Ledger.sound_operations Ledger.sound_empty operations).keyed
  refine ⟨?_, fun fated unexhausted => Dispatcher.coordinate_ends keyed unexhausted call fated⟩
  cases call with
  | register hostname => exact register_agrees rooted web short
  | heartbeat worker => exact heartbeat_agrees rooted web short
  | claimNext worker => exact claimNext_agrees rooted web keyed portable short
  | reportOutcome job worker outcome => exact reportOutcome_agrees rooted web keyed short

end

/-- A client for the interface on the local host. -/
def localClient : Client :=
  ⟨⟨"http", some ⟨"", none, some (.name "localhost"), none⟩, .segments [""], none, none⟩,
    .ofSeconds 5⟩

/-- A submission with a payload. -/
def mailSubmission : Submission := ⟨"mail", .object [("to", .string "ops")], 3, 300⟩

/-- A worker registers, and a job is submitted. -/
def mailOperations : List Operation :=
  [.call (.register "worker-a") .epoch (.ofCode 1),
    .call (.create mailSubmission) .epoch (.ofCode 2)]

/-- The worker that asks for the job is handed it either way. -/
theorem agreement_of_claim :
    ¬ (Ledger.empty.after mailOperations).store.Exhausted ∧
    ∃ (far near : Except Error (Option ClaimedJob) × Backend) (job : ClaimedJob),
      (localClient.coordinate .standard .epoch (.claimNext (.ofCode 1))).program.alone true
        [.effective .epoch (.ofCode 3)] ⟨(Ledger.empty.after mailOperations).store, .empty⟩ =
          some far ∧
      (Dispatcher.standard.coordinate (.claimNext (.ofCode 1))).program.alone true
        [.effective .epoch (.ofCode 3)] ⟨(Ledger.empty.after mailOperations).store, .empty⟩ =
          some near ∧
      near.1 = .ok (some job) ∧ (CoordinatorCall.claimNext (.ofCode 1)).Agreement far near := by
  have unexhausted : ¬ (Ledger.empty.after mailOperations).store.Exhausted := by
    have early : ((Ledger.empty.after mailOperations).store.jobs.values.all fun job =>
        job.updatedAt.nextMicro?.isSome) = true := by decide +kernel
    rintro ⟨id, job, stored, -, last⟩
    have next := List.all_eq_true.mp early job (Table.mem_values_iff.mpr ⟨id, stored⟩)
    simp [last] at next
  have submitted (submission : Submission) (now : Instant) (fresh : ResourceId)
      (member : .call (.create submission) now fresh ∈ mailOperations) :
      submission.payload.Portable 100 := by
    obtain ⟨rfl, -⟩ : submission = mailSubmission ∧ now = .epoch ∧ fresh = .ofCode 2 := by
      simpa [mailOperations] using member
    exact .object (List.pairwise_singleton _ _) (by simpa using .string "ops")
  have ⟨agrees, ends⟩ := @agreement_after localClient .standard .epoch rfl (.inl rfl)
    mailOperations .empty (.claimNext (.ofCode 1)) true [.effective .epoch (.ofCode 3)]
    (by decide +kernel) (Ledger.payload_after (Json.Portable 100) mailOperations submitted)
  have handed : (((Dispatcher.standard.coordinate (.claimNext (.ofCode 1))).program.alone true
      [.effective .epoch (.ofCode 3)] ⟨(Ledger.empty.after mailOperations).store, .empty⟩).bind
        fun ended => ended.1.toOption.join).isSome = true := by decide +kernel
  obtain ⟨job, handed⟩ := Option.isSome_iff_exists.mp handed
  obtain ⟨⟨result, after⟩, near⟩ :=
    Option.isSome_iff_exists.mp (ends (List.cons_ne_nil _ _) unexhausted)
  rw [near] at agrees handed
  cases result with
  | error error => contradiction
  | ok answer =>
    obtain rfl : answer = some job := handed
    generalize
      (localClient.coordinate .standard .epoch (.claimNext (.ofCode 1))).program.alone true
        [.effective .epoch (.ofCode 3)] ⟨(Ledger.empty.after mailOperations).store, .empty⟩ = ended
      at agrees ⊢
    cases agrees with
    | some same => exact ⟨unexhausted, _, _, job, rfl, near, rfl, same⟩

end Http

end JobDispatch
