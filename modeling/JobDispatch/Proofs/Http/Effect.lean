import JobDispatch.Http.Api
import JobDispatch.Proofs.Backend.Write

/-!
# What a response says about the state

A handler checks its request in several places and in different orders, but all before its one
operation of the dispatcher. A response that does not say success, or says that there is no content,
has therefore left everything as it was, and so has every answer to a method other than `POST`. Any
other success tells that exactly one record has been written.
-/

namespace JobDispatch.Http

/-- A response tells truly whether anything has been written. -/
structure Response.Accounts (response : Response) (method : String) (before after : Backend) :
    Prop where
  /-- Nothing has changed unless something was posted and the response says success with content. -/
  unchanged : response.isSuccess = false ∨ response.status = 204 ∨ method ≠ "POST" → after = before
  /-- Otherwise exactly one record has been written. -/
  written : response.isSuccess → response.status ≠ 204 → method = "POST" → before.WritesOne after

/-- A result is no response of success, unless it is a value. -/
def Refuses {α : Type} (result : Except Response α) : Prop :=
  ∀ response, result = .error response → response.isSuccess = false

/-- The answer to an error does not say success. -/
theorem errorResponse_isSuccess (error : Error) : (errorResponse error).isSuccess = false := by
  obtain ⟨kind, detail⟩ := error
  cases kind <;> rfl

namespace Refuses

variable {α : Type}

/-- The answer to an error refuses. -/
theorem mapError (result : Except Error α) : Refuses (result.mapError errorResponse) := by
  intro response refused
  cases result with
  | ok value => contradiction
  | error error =>
    obtain rfl := Except.error.inj refused
    exact errorResponse_isSuccess error

/-- A body that cannot be read is refused. -/
theorem read (request : Request) (format : Json.Format α) : Refuses (request.read format) := by
  intro response refused
  unfold Request.read at refused
  split at refused
  · cases refused
    rfl
  · split at refused
    · cases refused
      rfl
    · split at refused
      · cases refused
      · split at refused
        · cases refused
          rfl
        · cases refused
          rfl

/-- A text that is no identifier is refused. -/
theorem parseId (what text : String) : Refuses (parseId what text) := by
  intro response refused
  unfold Http.parseId at refused
  split at refused
  · cases refused
  · obtain rfl := Except.error.inj refused
    exact errorResponse_isSuccess _

/-- A path without a text is refused. -/
theorem pathId (segment : List Char) : Refuses (pathId segment) := by
  intro response refused
  unfold Http.pathId at refused
  split at refused
  · cases refused
  · obtain rfl := Except.error.inj refused
    rfl

/-- A named worker that is no identifier is refused. -/
theorem mapM_parseId (what : String) (text : Option String) :
    Refuses (text.mapM (Http.parseId what) : Except Response (Option ResourceId)) := by
  intro response refused
  cases text with
  | none => cases refused
  | some text =>
    refine parseId what text response ?_
    rw [Option.mapM_some] at refused
    generalize Http.parseId what text = parsed at refused ⊢
    cases parsed with
    | error other => exact congrArg Except.error (Except.error.inj refused)
    | ok id => cases refused

/-- An unknown outcome is refused. -/
theorem outcome (report : ReportRequest) : Refuses report.outcome := by
  intro response refused
  unfold ReportRequest.outcome at refused
  by_cases succeeded : report.status = "SUCCESS"
  · rw [if_pos succeeded] at refused
    cases refused
  · rw [if_neg succeeded] at refused
    by_cases failed : report.status = "FAILED"
    · rw [if_pos failed] at refused
      cases refused
    · rw [if_neg failed] at refused
      obtain rfl := Except.error.inj refused
      exact errorResponse_isSuccess _

end Refuses

/-- What a handler of posted requests comes to tells whether anything has been written. -/
def Posted (before : Backend) : Except Response Response → Backend → Prop
  | .ok response, after =>
    (response.status = 204 ∧ after = before) ∨
      response.isSuccess ∧ response.status ≠ 204 ∧ before.WritesOne after
  | .error response, after => response.isSuccess = false ∧ after = before

section

variable {α : Type} {up : Bool} {admitted : CallFate → Prop} {before : Backend}
  {dispatcher : Dispatcher}

/-- A check in front of a handler either passes or refuses, and changes nothing. -/
theorem check_then {result : Except Response α} {next : α → Handler Response}
    (refuses : Refuses result)
    (rest : ∀ value, (next value).run.Ensures up admitted before (Posted before)) :
    ((liftM result : Handler α) >>= next).run.Ensures up admitted before (Posted before) := by
  refine Program.ensures_then (fun answer between => answer = result ∧ between = before)
    (Program.ensures_check ⟨rfl, rfl⟩) (fun value between passed => ?_)
    fun response between refused => ⟨refuses response refused.1.symm, refused.2⟩
  obtain ⟨-, rfl⟩ := passed
  exact rest value

/-- An operation in a handler that fails is answered by a response to the error. -/
theorem ask_ensures {attempt : Attempt α} {relation : Except Error α → Backend → Prop}
    {last : Except Response α → Backend → Prop}
    (ensures : attempt.program.Ensures up admitted before relation)
    (answered : ∀ value after, relation (.ok value) after → last (.ok value) after)
    (refused : ∀ error after, relation (.error error) after →
      last (.error (errorResponse error)) after) :
    (ask attempt).run.Ensures up admitted before last := by
  refine Program.ensures_change (ensures.mono fun result after holds => ?_)
  cases result with
  | ok value => exact answered value after holds
  | error error => exact refused error after holds

/-- An operation in a handler is answered, or refused without a change. -/
theorem ask_then (relation : α → Backend → Prop) {attempt : Attempt α} {next : α → Handler Response}
    (refused : attempt.program.Ensures up admitted before
      fun answer after => ∀ error, answer = .error error → after = before)
    (answered : attempt.program.Ensures up admitted before
      fun answer after => ∀ value, answer = .ok value → relation value after)
    (rest : ∀ value after, relation value after →
      (next value).run.Ensures up admitted after (Posted before)) :
    (ask attempt >>= next).run.Ensures up admitted before (Posted before) := by
  let told (result : Except Response α) (after : Backend) : Prop := match result with
    | .ok value => relation value after
    | .error response => response.isSuccess = false ∧ after = before
  refine Program.ensures_then told ?_ rest fun _ _ held => held
  refine ask_ensures (refused.and answered) (fun value after held => held.2 value rfl) ?_
  exact fun error after held => ⟨errorResponse_isSuccess error, held.1 error rfl⟩

/-- A success with content accounts for a record that has been written. -/
theorem posted_json {status : Nat} {body : Json} {after : Backend}
    (success : status = 200 ∨ status = 201) (written : before.WritesOne after) :
    Posted before (.ok (.json status body)) after := by
  obtain rfl | rfl := success
  · exact .inr ⟨rfl, by simp [Response.json], written⟩
  · exact .inr ⟨rfl, by simp [Response.json], written⟩

/-- What the handlers of posted requests come to tells whether anything has been written. -/
theorem serve_posted (keyed : before.store.Keyed) (staffed : before.store.Staffed)
    (request : Request) {resource : Resource} (canPost : resource.canPost) :
    (serve dispatcher request resource .post).run.Ensures up (·.IsNew before.store) before
      (Posted before) := by
  cases resource with
  | jobs =>
    refine check_then (.read _ _) fun body => ?_
    refine check_then (.mapError _) fun submission => ?_
    exact ask_then _ (Dispatcher.attempt_refused keyed (.submit submission))
      (Dispatcher.submit_writes submission) fun job after written =>
        Program.ensures_done (posted_json (.inr rfl) written)
  | nextJob =>
    refine check_then (.read _ _) fun text => ?_
    refine check_then (.parseId _ _) fun worker => ?_
    let told (handed : Option ClaimedJob) (after : Backend) : Prop :=
      (handed = none → after = before) ∧ ∀ job, handed = some job → before.WritesOne after
    have answered := ((Dispatcher.claimNext_idle keyed worker).and
      (Dispatcher.claimNext_writes keyed worker) :
        (dispatcher.claimNext worker).program.Ensures up (·.IsNew before.store) before _)
    refine ask_then told (Dispatcher.attempt_refused keyed (.claimNext worker))
      (answered.mono fun _ _ held handed same => ?_) fun handed after held => ?_
    · subst same
      exact ⟨fun idle => held.1 (congrArg _ idle), fun job given => held.2 job (congrArg _ given)⟩
    · cases handed with
      | none => exact Program.ensures_done (.inl ⟨rfl, held.1 rfl⟩)
      | some job => exact Program.ensures_done (posted_json (.inl rfl) (held.2 job rfl))
  | jobReport segment =>
    refine check_then (.pathId _) fun text => ?_
    refine check_then (.read _ _) fun report => ?_
    refine check_then (.parseId _ _) fun job => ?_
    refine check_then (.mapM_parseId _ _) fun worker => ?_
    refine check_then (.outcome _) fun outcome => ?_
    exact ask_then _ (Dispatcher.attempt_refused keyed (.reportOutcome job outcome worker))
      (Dispatcher.reportOutcome_writes keyed job outcome worker) fun report after written =>
        Program.ensures_done (posted_json (.inl rfl) written)
  | workerRegistration =>
    refine check_then (.read _ _) fun hostname => ?_
    exact ask_then _ (Dispatcher.attempt_refused keyed (.registerWorker hostname))
      (Dispatcher.registerWorker_writes hostname) fun worker after written =>
        Program.ensures_done (posted_json (.inr rfl) written)
  | workerHeartbeat =>
    refine check_then (.read _ _) fun text => ?_
    refine check_then (.parseId _ _) fun worker => ?_
    exact ask_then _ (Dispatcher.attempt_refused keyed (.heartbeat worker))
      (Dispatcher.heartbeat_writes staffed worker) fun record after written =>
        Program.ensures_done (posted_json (.inl rfl) written)
  | _ => contradiction

/-- A check in front of a handler that only reads changes nothing. -/
theorem check_reads {β : Type} {result : Except Response α} {next : α → Handler β}
    (rest : ∀ value, (next value).run.Ensures up admitted before fun _ after => after = before) :
    ((liftM result : Handler α) >>= next).run.Ensures up admitted before
      fun _ after => after = before := by
  refine Program.ensures_then (fun _ after => after = before)
    (Program.ensures_check rfl) (fun value between same => ?_) fun _ _ same => same
  exact same ▸ rest value

/-- An operation that only reads changes nothing in a handler either. -/
theorem ask_reads {attempt : Attempt α} {result : α → Response}
    (reading : attempt.program.Ensures up admitted before fun _ after => after = before) :
    (ask attempt >>= fun value => return result value : Handler Response).run.Ensures up admitted
      before fun _ after => after = before :=
  Program.ensures_then (fun _ after => after = before)
    (ask_ensures reading (fun _ _ same => same) fun _ _ same => same)
    (fun _ _ same => Program.ensures_done same) fun _ _ same => same

/-- What is got changes nothing. -/
theorem serve_got (request : Request) {resource : Resource} (canGet : resource.canGet) :
    (serve dispatcher request resource .get).run.Ensures up admitted before
      fun _ after => after = before := by
  cases resource with
  | health => exact Program.ensures_done rfl
  | ready =>
    refine Program.ensures_then (fun _ after => after = before)
      (Program.ensures_change (Dispatcher.attempt_reads .checkStore rfl))
      (fun _ _ same => Program.ensures_done same) fun _ _ same => same
  | jobs =>
    refine check_reads fun page => ?_
    exact ask_reads (Dispatcher.attempt_reads (.listJobs page.1 page.2) rfl)
  | jobStats => exact ask_reads (Dispatcher.attempt_reads .jobStats rfl)
  | job segment =>
    refine check_reads fun text => ?_
    refine check_reads fun id => ?_
    exact ask_reads (Dispatcher.attempt_reads (.getJob id) rfl)
  | workers => exact ask_reads (Dispatcher.attempt_reads .listWorkers rfl)
  | _ => contradiction

/-- The access that a method means is one that the resource allows, and only `POST` posts. -/
theorem access?_spec {resource : Resource} {method : String} {access : Access}
    (meant : resource.access? method = some access) :
    (access = .get ∧ method ≠ "POST" ∧ resource.canGet) ∨
      access = .post ∧ method = "POST" ∧ resource.canPost := by
  unfold Resource.access? at meant
  split at meant
  · rename_i got
    obtain rfl := Option.some.inj meant
    refine .inl ⟨rfl, ?_, got.2⟩
    rintro rfl
    simp at got
  · split at meant
    · rename_i posted
      obtain rfl := Option.some.inj meant
      exact .inr ⟨rfl, posted⟩
    · contradiction

/-- Every response tells truly whether anything has been written. -/
theorem respond_accounts (before : Backend) (keyed : before.store.Keyed)
    (staffed : before.store.Staffed) (request : Request) :
    (respond dispatcher request).Ensures up (·.IsNew before.store) before
      fun response after => response.Accounts request.method before after := by
  have idle {response : Response} (refused : response.isSuccess = false) :
      response.Accounts request.method before before :=
    ⟨fun _ => rfl, fun success => by simp [refused] at success⟩
  unfold respond
  split
  · exact Program.ensures_done (idle rfl)
  · rename_i resource _
    split
    · exact Program.ensures_done (idle rfl)
    · rename_i access meant
      obtain ⟨rfl, other, canGet⟩ | ⟨rfl, post, canPost⟩ := access?_spec meant
      · refine Program.ensures_change ((serve_got request canGet).mono fun result after same => ?_)
        exact ⟨fun _ => same, fun _ _ post => absurd post other⟩
      · have same (response : Response) : shown request.method response = response := by
          rw [shown, if_neg (by simp [post])]
        refine Program.ensures_change ((serve_posted keyed staffed request canPost).mono
          fun result after held => ?_)
        simp only [same]
        obtain response | response := result
        · obtain ⟨refused, rfl⟩ := held
          exact idle refused
        · obtain ⟨empty, rfl⟩ | ⟨success, content, written⟩ := held
          · exact ⟨fun _ => rfl, fun _ content => absurd empty content⟩
          · refine ⟨?_, fun _ _ _ => written⟩
            rintro (refused | empty | other)
            · simp [success] at refused
            · exact absurd empty content
            · exact absurd post other

end

/-- Whatever has been done to the store, every response to a request over it tells truly whether
anything has been written, and that is one record at most. -/
theorem accounts_after (operations : List Operation) (queue : WakeQueue Nat)
    (dispatcher : Dispatcher) (request : Request) (up : Bool) (fates : List CallFate)
    (response : Response) (after : Backend)
    (isNew : ∀ fate ∈ fates, fate.IsNew (Ledger.empty.after operations).store)
    (answered : (respond dispatcher request).alone up fates
      ⟨(Ledger.empty.after operations).store, queue⟩ = some (response, after)) :
    response.Accounts request.method ⟨(Ledger.empty.after operations).store, queue⟩ after :=
  respond_accounts ⟨_, queue⟩ (Ledger.sound_operations Ledger.sound_empty operations).keyed
    (Ledger.staffed_after operations) request fates response after isNew answered

/-- A submission with a body. -/
def submission (body : ByteArray) : Request where
  method := "POST"
  target := ⟨"/api/v1/jobs", none⟩
  headers := [("content-type", "application/json".toUTF8)]
  body

/-- A worker registers and claims the first of two jobs. -/
def manning : List Operation :=
  [.call (.register "host") .epoch (.ofCode 7),
    .call (.create ⟨"mail", .null, 1, 30⟩) .epoch (.ofCode 2),
    .call (.create ⟨"sleep", .null, 0, 5⟩) .epoch (.ofCode 3),
    .call (.claimNext (.ofCode 7)) .epoch default]

/-- A submission beside a running job, a waiting one and a worker is answered with success, and so
one job has been written and these are as they were. -/
theorem accounts_of_submission :
    let before : Backend := ⟨(Ledger.empty.after manning).store, .empty⟩
    before.store.jobs.entries.map (fun entry => (entry.1, entry.2.status)) =
        [(.ofCode 2, .running), (.ofCode 3, .pending)] ∧
      before.store.workers.entries.map (·.1) = [.ofCode 7] ∧
      ∃ response after, (respond .standard (submission "\x7b\"type\":\"mail\"\x7d")).alone true
          [.effective .epoch (.ofCode 1)] before = some (response, after) ∧
        response.status = 201 ∧ response.Accounts "POST" before after := by
  intro before
  have jobs : before.store.jobs.entries.map (fun entry => (entry.1, entry.2.status)) =
      [(.ofCode 2, .running), (.ofCode 3, .pending)] := by decide +kernel
  have workers : before.store.workers.entries.map (·.1) = [.ofCode 7] := by decide +kernel
  have created : ((respond .standard (submission "\x7b\"type\":\"mail\"\x7d")).alone true
      [.effective .epoch (.ofCode 1)] before).map (·.1.status) = some 201 := by decide +kernel
  obtain ⟨⟨response, after⟩, answered, status⟩ := Option.map_eq_some_iff.mp created
  refine ⟨jobs, workers, response, after, answered, status, ?_⟩
  refine accounts_after manning .empty .standard (submission _) true _ response after ?_ answered
  intro fate member
  obtain rfl := List.mem_singleton.mp member
  have unused : before.store.jobs.get? (.ofCode 1) = none := by decide +kernel
  have unnamed : before.store.workers.get? (.ofCode 1) = none := by decide +kernel
  exact ⟨unused, unnamed⟩

/-- A body whose job type is no text is refused, and the store is not asked. -/
example : ((respond .standard (submission ⟨#[0x7B, 0x22, 0x74, 0x79, 0x70, 0x65, 0x22, 0x3A, 0x22,
    0xFF, 0x22, 0x7D]⟩)).alone true [] ⟨.empty, .empty⟩).map (·.1.status) = some 400 := by
  decide +kernel

end JobDispatch.Http
