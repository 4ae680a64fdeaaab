import JobDispatch.Proofs.Worker.Shift

/-!
# The duties of a worker

Whatever a worker is answered and whenever it is cancelled, it runs every job that it is handed once
and reports what has come of it before it claims again or ends. It claims no job once it is
cancelled, it rests after a failed attempt, and it fails only when it cannot register. Only a job
whose attempts cannot be counted is not run, and only where the log takes the line that counts them:
the loop panics at this line.
-/

namespace JobDispatch.WorkerLoop

namespace Request

/-- A claim of a job. -/
def isClaim : Request → Bool
  | claim _ => true
  | _ => false

/-- A run of a job. -/
def isRun : Request → Bool
  | execute _ _ => true
  | _ => false

/-- A report of an outcome. -/
def isReport : Request → Bool
  | report _ _ _ => true
  | _ => false

end Request

/-- The calls before the next claim. -/
def upToClaim (calls : List Call) : List Call := calls.takeWhile fun call => !call.request.isClaim

/-- The next claim. -/
def nextClaim? (calls : List Call) : Option Call := calls.find? (·.request.isClaim)

/-- The pause after a failed attempt at a job, in nanoseconds. -/
def pauseAfter (settings : Settings) (job : ClaimedJob) : Nat :=
  (settings.backoff.delay (.ofNat job.retryCount.toInt.toNat)).nanos

/-- A worker serves a job with the calls that follow its claim and with the phase after them. -/
structure Serves (settings : Settings) (worker : ResourceId) (job : ClaimedJob)
    (calls : List Call) (last : Phase) : Prop where
  /-- The job is run once before the next claim, and every report tells what has come of this
  run. -/
  runs : ∃ run limit, (upToClaim calls).filter (·.request.isRun) = [run] ∧
    run.request = .execute job limit ∧
    limit.nanos = max 1 job.timeoutSeconds.toInt.toNat * nanosPerSecond ∧
    ∀ call ∈ upToClaim calls, call.request.isReport → ∃ execution time,
      run.reply = some (.ran execution, time) ∧
      call.request = .report job.id worker (outcomeWithin job execution)
  /-- There is a report before the worker claims again or ends. -/
  reports : (nextClaim? calls).isSome ∨ (∃ result, last = .stopped result) →
    ∃ call ∈ upToClaim calls, call.request.isReport
  /-- After a failed attempt the worker does not claim again before it has paused. -/
  pauses : ∀ next, nextClaim? calls = some next → ∀ call ∈ upToClaim calls,
    ∀ error reply time, call.request = .report job.id worker (.failure error) →
      call.reply = some (reply, time) → time + pauseAfter settings job ≤ next.began

section

variable {settings : Settings} {logged : Bool} {phase next last : Phase} {began time : Nat}
  {late cancelled : Bool} {request : Request} {call : Call} {calls rest : List Call}
  {worker : ResourceId} {job : ClaimedJob} {outcome : JobOutcome}

/-- There are no calls before a claim. -/
theorem upToClaim_claim (claims : call.request.isClaim) : upToClaim (call :: rest) = [] := by
  simp [upToClaim, claims]

/-- Another call comes before the next claim. -/
theorem upToClaim_other (other : call.request.isClaim = false) :
    upToClaim (call :: rest) = call :: upToClaim rest := by
  simp [upToClaim, other]

/-- A claim is the next one. -/
theorem nextClaim?_claim (claims : call.request.isClaim) :
    nextClaim? (call :: rest) = some call := by
  simp [nextClaim?, claims]

/-- After another call the next claim is that of the rest. -/
theorem nextClaim?_other (other : call.request.isClaim = false) :
    nextClaim? (call :: rest) = nextClaim? rest := by
  simp [nextClaim?, other]

/-- What holds of a call, if it is no claim, and of those after it up to a claim. -/
theorem forall_upToClaim_cons {property : Call → Prop} (first : property call)
    (others : call.request.isClaim = false → ∀ later ∈ upToClaim rest, property later) :
    ∀ later ∈ upToClaim (call :: rest), property later := by
  cases claims : call.request.isClaim with
  | true =>
    rw [upToClaim_claim claims]
    exact List.forall_mem_nil _
  | false =>
    rw [upToClaim_other claims]
    exact List.forall_mem_cons.mpr ⟨first, others claims⟩

/-- The next claim is the first call, or comes after it. -/
theorem eq_or_of_nextClaim?_cons {claim : Call} (found : nextClaim? (call :: rest) = some claim) :
    (call.request.isClaim ∧ call = claim) ∨ nextClaim? rest = some claim := by
  cases claims : call.request.isClaim with
  | true =>
    rw [nextClaim?_claim claims] at found
    exact .inl ⟨rfl, Option.some.inj found⟩
  | false =>
    rw [nextClaim?_other claims] at found
    exact .inr found

/-- A loop that asks for nothing makes no calls. -/
theorem Follows.of_silent (silent : phase.request? settings = none)
    (follows : Follows settings logged phase began late calls last) :
    calls = [] ∧ last = phase := by
  cases follows with
  | ended | crashed => exact ⟨rfl, rfl⟩
  | pending asks | answered asks =>
    rw [silent] at asks
    contradiction

/-- The time that has to pass in a phase, or after it, before the next claim. -/
def Phase.owed (settings : Settings) : Phase → Nat
  | .reporting _ job (.failure _) _ _ | .retrying _ job (.failure _) _ => pauseAfter settings job
  | .resting _ length => length.nanos
  | _ => 0

/-- A phase that claims owes no time. -/
theorem owed_of_claim (asks : phase.request? settings = some request) (claims : request.isClaim) :
    phase.owed settings = 0 := by
  cases phase with
  | claiming worker => rfl
  | stopped | crashed => contradiction
  | registering | executing | reporting | retrying | resting | waiting =>
    obtain rfl := Option.some.inj asks
    contradiction

/-- What a phase owes has passed, or is owed by the next, unless the loop ends. -/
theorem Goes.owed {elapsed : Nat} {reply : Reply}
    (goes : Goes settings logged cancelled elapsed phase reply next) :
    phase.owed settings ≤ elapsed + next.owed settings ∨ next.request? settings = none := by
  cases goes with
  | rested whole => exact .inl (Nat.le_trans whole (Nat.le_add_right _ _))
  | restCut => exact .inr rfl
  | @reported worker job outcome attempt last result =>
    cases outcome with
    | success => exact .inl (Nat.zero_le _)
    | failure error => exact .inl (Nat.le_add_left _ _)
  | @unreported worker job outcome attempt error =>
    cases outcome <;> exact .inl (Nat.le_add_left _ _)
  | @repeated worker job outcome attempt again last reply resumes =>
    cases outcome <;> exact .inl (Nat.le_add_left _ _)
  | _ => exact .inl (Nat.zero_le _)

/-- The next claim does not begin before the time has passed that a phase owes. -/
theorem Follows.owed (follows : Follows settings logged phase began late calls last) {claim : Call}
    (found : nextClaim? calls = some claim) : began + phase.owed settings ≤ claim.began := by
  induction follows with
  | ended | crashed => contradiction
  | pending asks =>
    obtain ⟨claims, rfl⟩ | found := eq_or_of_nextClaim?_cons found
    · rw [owed_of_claim asks claims]
      exact Nat.le_refl _
    · contradiction
  | answered asks later goes follows ih =>
    obtain ⟨claims, rfl⟩ | found := eq_or_of_nextClaim?_cons found
    · rw [owed_of_claim asks claims]
      exact Nat.le_refl _
    · obtain passes | silent := goes.owed
      · have remains := ih found
        omega
      · rw [(follows.of_silent silent).1] at found
        contradiction

/-- The loop is registered and has no job. -/
def Phase.isFree : Phase → Bool
  | .claiming _ | .resting _ _ | .waiting _ | .stopped _ => true
  | _ => false

/-- A worker that turns to the next job has none. -/
theorem isFree_turn (cancelled : Bool) (worker : ResourceId) :
    (turn cancelled worker).isFree := by
  cases cancelled <;> rfl

/-- A loop without a job neither runs nor reports any. -/
theorem request_of_free (asks : phase.request? settings = some request) (free : phase.isFree) :
    request.isRun = false ∧ request.isReport = false := by
  cases phase with
  | claiming | resting | waiting =>
    obtain rfl := Option.some.inj asks
    exact ⟨rfl, rfl⟩
  | _ => contradiction

/-- A loop without a job has none until it claims. -/
theorem Goes.free {elapsed : Nat} {reply : Reply}
    (goes : Goes settings logged cancelled elapsed phase reply next) (free : phase.isFree)
    (asks : phase.request? settings = some request) (other : request.isClaim = false) :
    next.isFree := by
  cases goes with
  | rested | woken => exact isFree_turn _ _
  | unwoken | restCut | waitCut => rfl
  | claimed | crashed | idle | unclaimed =>
    obtain rfl := Option.some.inj asks
    contradiction
  | _ => contradiction

/-- Before its next claim a loop without a job neither runs nor reports any. -/
theorem Follows.quiet (follows : Follows settings logged phase began late calls last)
    (free : phase.isFree) :
    ∀ call ∈ upToClaim calls, call.request.isRun = false ∧ call.request.isReport = false := by
  induction follows with
  | ended | crashed => exact List.forall_mem_nil _
  | pending asks =>
    exact forall_upToClaim_cons (request_of_free asks free) fun _ => List.forall_mem_nil _
  | answered asks later goes follows ih =>
    exact forall_upToClaim_cons (request_of_free asks free) fun other =>
      ih (goes.free free asks other)

/-- The loop reports the outcome of a job, or pauses before it does so again. -/
inductive Phase.Tells (worker : ResourceId) (job : ClaimedJob) (outcome : JobOutcome) : Phase → Prop
  | reporting {attempt : UInt32} {last : Bool} :
      Tells worker job outcome (.reporting worker job outcome attempt last)
  | retrying {attempt : UInt32} : Tells worker job outcome (.retrying worker job outcome attempt)

/-- A loop that tells an outcome asks for nothing but reports of it and pauses. -/
theorem request_of_tells (asks : phase.request? settings = some request)
    (tells : phase.Tells worker job outcome) :
    request.isClaim = false ∧ request.isRun = false ∧
      (request.isReport → request = .report job.id worker outcome) := by
  cases tells with
  | reporting =>
    obtain rfl := Option.some.inj asks
    exact ⟨rfl, rfl, fun _ => rfl⟩
  | retrying =>
    obtain rfl := Option.some.inj asks
    exact ⟨rfl, rfl, nofun⟩

/-- A loop that tells an outcome goes on to tell it, or has no job afterwards. After a failure it
owes a pause in both cases. -/
theorem Goes.tells {elapsed : Nat} {reply : Reply}
    (goes : Goes settings logged cancelled elapsed phase reply next)
    (tells : phase.Tells worker job outcome) :
    (next.Tells worker job outcome ∨ next.isFree) ∧
      ∀ error, outcome = .failure error → next.owed settings = pauseAfter settings job := by
  cases tells with
  | reporting =>
    cases goes with
    | reported =>
      cases outcome with
      | success => exact ⟨.inr (isFree_turn _ _), nofun⟩
      | failure error => exact ⟨.inr rfl, fun _ _ => rfl⟩
    | unreported =>
      refine ⟨.inl .retrying, fun error failed => ?_⟩
      rw [failed]
      rfl
  | retrying =>
    cases goes with
    | repeated =>
      refine ⟨.inl .reporting, fun error failed => ?_⟩
      rw [failed]
      rfl

/-- What a worker calls while it tells an outcome, and afterwards before its next claim. -/
structure Told (settings : Settings) (worker : ResourceId) (job : ClaimedJob) (outcome : JobOutcome)
    (calls : List Call) : Prop where
  /-- It runs no job. -/
  still : ∀ call ∈ upToClaim calls, call.request.isRun = false
  /-- It reports nothing else. -/
  same : ∀ call ∈ upToClaim calls, call.request.isReport →
    call.request = .report job.id worker outcome
  /-- After a failure it pauses before its next claim. -/
  pauses : ∀ error, outcome = .failure error → ∀ next, nextClaim? calls = some next →
    ∀ call ∈ upToClaim calls, call.request.isReport → ∀ reply time,
      call.reply = some (reply, time) → time + pauseAfter settings job ≤ next.began

/-- A worker that has no job tells nothing. -/
theorem Follows.told_of_free (follows : Follows settings logged phase began late calls last)
    (free : phase.isFree) : Told settings worker job outcome calls where
  still call member := (follows.quiet free call member).1
  same call member reports := by
    rw [(follows.quiet free call member).2] at reports
    contradiction
  pauses error _ next _ call member reports := by
    rw [(follows.quiet free call member).2] at reports
    contradiction

/-- One more call of a worker that tells an outcome. -/
theorem Told.cons (told : Told settings worker job outcome rest)
    (other : call.request.isClaim = false) (still : call.request.isRun = false)
    (same : call.request.isReport → call.request = .report job.id worker outcome)
    (pauses : ∀ error, outcome = .failure error → ∀ next, nextClaim? rest = some next →
      ∀ reply time, call.reply = some (reply, time) →
        time + pauseAfter settings job ≤ next.began) :
    Told settings worker job outcome (call :: rest) where
  still := by
    rw [upToClaim_other other]
    exact List.forall_mem_cons.mpr ⟨still, told.still⟩
  same := by
    rw [upToClaim_other other]
    exact List.forall_mem_cons.mpr ⟨same, told.same⟩
  pauses error failed next found := by
    rw [nextClaim?_other other] at found
    rw [upToClaim_other other]
    exact List.forall_mem_cons.mpr
      ⟨fun _ => pauses error failed next found, told.pauses error failed next found⟩

/-- A worker that tells an outcome tells it and nothing else before its next claim. -/
theorem Follows.told (follows : Follows settings logged phase began late calls last)
    (tells : phase.Tells worker job outcome) : Told settings worker job outcome calls := by
  induction follows with
  | ended | crashed => cases tells
  | @pending phase began late request asks =>
    obtain ⟨other, still, same⟩ := request_of_tells asks tells
    have nothing : Told settings worker job outcome [] :=
      ⟨List.forall_mem_nil _, List.forall_mem_nil _, fun _ _ _ found => nomatch found⟩
    exact nothing.cons other still same fun _ _ _ found => nomatch found
  | @answered phase next last began time late cancelled request reply rest asks later goes follows
      ih =>
    obtain ⟨other, still, same⟩ := request_of_tells asks tells
    obtain ⟨goesOn, owes⟩ := goes.tells tells
    have told : Told settings worker job outcome rest :=
      goesOn.elim ih follows.told_of_free
    refine told.cons other still same fun error failed claim found reply ended answered => ?_
    -- The next claim waits for all that is owed from the time of this reply on.
    obtain ⟨-, rfl⟩ := Prod.mk.inj (Option.some.inj answered)
    rw [← owes error failed]
    exact follows.owed found

/-- What a worker tells comes to at least one report before it claims again or ends. -/
theorem Follows.reports {attempt : UInt32} {final : Bool}
    (follows : Follows settings logged (.reporting worker job outcome attempt final) began late
      calls last) :
    ∃ call ∈ upToClaim calls, call.request.isReport := by
  generalize tells : Phase.reporting worker job outcome attempt final = phase at follows
  cases follows with
  | ended | crashed => contradiction
  | pending asks | answered asks =>
    subst tells
    obtain rfl := Option.some.inj asks
    rw [upToClaim_other rfl]
    refine ⟨_, List.mem_cons_self, ?_⟩
    rfl

/-- Only a loop that claims asks for a job. -/
theorem claiming_of_claim (asks : phase.request? settings = some (.claim worker)) :
    phase = .claiming worker := by
  cases phase with
  | claiming other => rw [Request.claim.inj (Option.some.inj asks)]
  | stopped | crashed => contradiction
  | registering | executing | reporting | retrying | resting | waiting =>
    have other := Option.some.inj asks
    contradiction

/-- After a claim that hands a job to a worker, its loop goes on from what this answer does. -/
theorem Follows.hands {before : List Call} {claim : Call}
    (follows : Follows settings logged phase began late (before ++ claim :: rest) last)
    (asks : claim.request = .claim worker)
    (handed : claim.reply = some (.claimed (.ok (some job)), time)) :
    ∃ next began late elapsed cancelled,
      Goes settings logged cancelled elapsed (.claiming worker) (.claimed (.ok (some job))) next ∧
        Follows settings logged next began late rest last := by
  generalize same : before ++ claim :: rest = calls at follows
  induction follows generalizing before with
  | ended | crashed => cases before <;> contradiction
  | pending request =>
    cases before with
    | nil =>
      obtain ⟨rfl, -⟩ := List.cons.inj same
      contradiction
    | cons head before => cases before <;> simp at same
  | @answered phase next last began answered late cancelled request reply others requests later
      goes follows ih =>
    cases before with
    | cons head before => exact ih (List.cons.inj same).2
    | nil =>
      obtain ⟨rfl, rfl⟩ := List.cons.inj same
      obtain ⟨rfl, rfl⟩ := Prod.mk.inj (Option.some.inj handed)
      subst asks
      obtain rfl := claiming_of_claim requests
      exact ⟨_, _, _, _, _, goes, follows⟩

/-- The loop panics only at a job whose attempts it has to count and cannot. -/
theorem Goes.crashes {elapsed : Nat} {reply : Reply}
    (goes : Goes settings logged cancelled elapsed phase reply next) (panics : next = .crashed) :
    logged ∧ ∃ worker job, phase = .claiming worker ∧ reply = .claimed (.ok (some job)) ∧
      ¬ IsCountable job := by
  have turns (cancelled : Bool) (worker : ResourceId) : turn cancelled worker ≠ .crashed := by
    cases cancelled <;> exact nofun
  cases goes with
  | @crashed worker job named uncounted => exact ⟨named, worker, job, rfl, rfl, uncounted⟩
  | registered | rested | woken => exact absurd panics (turns _ _)
  | @reported worker job outcome attempt last result =>
    cases outcome with
    | success => exact absurd panics (turns _ _)
    | failure error => contradiction
  | idle => cases cancelled <;> contradiction
  | _ => contradiction

/-- A loop that has panicked has done so at the last claim, at a job whose attempts it had to count
and could not. -/
theorem Follows.uncounted (follows : Follows settings logged phase began late calls last)
    (running : phase ≠ .crashed) (panicked : last = .crashed) :
    logged ∧ ∃ before claim worker job time, calls = before ++ [claim] ∧
      claim.request = .claim worker ∧ claim.reply = some (.claimed (.ok (some job)), time) ∧
      ¬ IsCountable job := by
  induction follows with
  | ended => contradiction
  | crashed | pending => exact absurd panicked running
  | @answered phase next last began time late cancelled request reply rest asks later goes follows
      ih =>
    by_cases panics : next = .crashed
    · obtain ⟨named, worker, job, rfl, rfl, uncounted⟩ := goes.crashes panics
      subst panics
      obtain ⟨rfl, -⟩ := follows.of_silent rfl
      exact ⟨named, [], _, worker, job, time, rfl, (Option.some.inj asks).symm, rfl, uncounted⟩
    · obtain ⟨named, before, claim, worker, job, time, rfl, found⟩ := ih panics panicked
      exact ⟨named, _ :: before, claim, worker, job, time, rfl, found⟩

/-- A loop that has to count the attempts of a job and cannot has panicked. -/
theorem Follows.panicked {before : List Call} {claim : Call}
    (follows : Follows settings logged phase began late (before ++ [claim]) last) (named : logged)
    (asks : claim.request = .claim worker)
    (handed : claim.reply = some (.claimed (.ok (some job)), time))
    (uncounted : ¬ IsCountable job) : last = .crashed := by
  obtain ⟨next, began, late, elapsed, cancelled, goes, follows⟩ := follows.hands asks handed
  cases goes with
  | claimed counted => exact absurd (counted named) uncounted
  | crashed => exact (follows.of_silent rfl).2

/-- The loop neither registers nor has failed to. -/
def Phase.isRegistered : Phase → Bool
  | .registering | .stopped (.error _) => false
  | _ => true

/-- A worker that turns to the next job is registered. -/
theorem isRegistered_turn (cancelled : Bool) (worker : ResourceId) :
    (turn cancelled worker).isRegistered := by
  cases cancelled <;> rfl

/-- A registered worker stays registered, and gets no answer to a registration. -/
theorem Goes.registered_of {elapsed : Nat} {reply : Reply}
    (goes : Goes settings logged cancelled elapsed phase reply next)
    (registered : phase.isRegistered) :
    next.isRegistered ∧ ∀ result, reply = .registered result → False := by
  cases goes with
  | registered | unregistered => contradiction
  | rested | woken => exact ⟨isRegistered_turn _ _, fun _ other => nomatch other⟩
  | @reported worker job outcome attempt last result =>
    cases outcome with
    | success => exact ⟨isRegistered_turn _ _, fun _ other => nomatch other⟩
    | failure error => exact ⟨rfl, fun _ other => nomatch other⟩
  | idle => exact ⟨by cases cancelled <;> rfl, fun _ other => nomatch other⟩
  | repeated resumes =>
    obtain rfl | rfl := resumes <;> exact ⟨rfl, fun _ other => nomatch other⟩
  | claimed | crashed | unclaimed | ran | unreported | unwoken | restCut | waitCut =>
    exact ⟨rfl, fun _ other => nomatch other⟩

/-- A registered worker stays registered to the end of its shift. -/
theorem Follows.registered_of (follows : Follows settings logged phase began late calls last)
    (registered : phase.isRegistered) :
    last.isRegistered ∧ ∀ call ∈ calls, ∀ result time,
      call.reply = some (.registered result, time) → False := by
  induction follows with
  | ended | crashed => exact ⟨registered, List.forall_mem_nil _⟩
  | pending => exact ⟨registered, List.forall_mem_singleton.mpr fun _ _ other => nomatch other⟩
  | answered asks later goes follows ih =>
    obtain ⟨stays, other⟩ := goes.registered_of registered
    obtain ⟨stayed, others⟩ := ih stays
    refine ⟨stayed, List.forall_mem_cons.mpr ⟨fun result time same => ?_, others⟩⟩
    exact other result (Prod.mk.inj (Option.some.inj same)).1

/-- The loop fails exactly with the error of its registration. -/
theorem Follows.fails (follows : Follows settings logged .registering began late calls last)
    (error : Error) :
    last = .stopped (.error error) ↔
      ∃ call ∈ calls, ∃ time, call.reply = some (.registered (.error error), time) := by
  generalize registers : Phase.registering = phase at follows
  cases follows with
  | ended | crashed => contradiction
  | pending =>
    subst registers
    constructor
    · intro failed
      contradiction
    · rintro ⟨call, member, time, answered⟩
      obtain rfl := List.mem_singleton.mp member
      contradiction
  | @answered _ _ _ _ time _ _ _ _ rest asks later goes follows =>
    subst registers
    cases goes with
    | unregistered =>
      obtain ⟨rfl, rfl⟩ := follows.of_silent rfl
      constructor
      · intro failed
        obtain rfl := Except.error.inj (Phase.stopped.inj failed)
        exact ⟨_, List.mem_cons_self, time, rfl⟩
      · rintro ⟨call, member, time, answered⟩
        obtain rfl := List.mem_singleton.mp member
        obtain ⟨same, -⟩ := Prod.mk.inj (Option.some.inj answered)
        exact congrArg Phase.stopped (congrArg _ (Except.error.inj (Reply.registered.inj same)))
    | registered =>
      obtain ⟨stayed, others⟩ := follows.registered_of (isRegistered_turn _ _)
      constructor
      · intro failed
        rw [failed] at stayed
        contradiction
      · rintro ⟨call, member, time, answered⟩
        obtain rfl | member := List.mem_cons.mp member
        · obtain ⟨same, -⟩ := Prod.mk.inj (Option.some.inj answered)
          have impossible := Reply.registered.inj same
          contradiction
        · exact (others call member _ _ answered).elim

end

/-- A worker that is cancelled while it claims still runs and reports the job that it gets. -/
example (settings : Settings) (worker : Worker) (job : ClaimedJob) (report : OutcomeReport) :
    let limited := { job with timeoutSeconds := 1 }
    let (calls, last) := (Shift.start 0 false).run settings
      [.answer (.registered (.ok worker)) 0, .cancel, .answer (.claimed (.ok (some limited))) 0,
        .answer (.ran (some ⟨.ofSeconds 0, .ok ()⟩)) 0, .answer (.reported (.ok report)) 0]
    calls.map (·.request) = [.register settings.hostname, .claim worker.id,
      .execute limited (timeLimit limited), .report job.id worker.id .success] ∧
      last = .stopped (.ok ()) :=
  ⟨rfl, rfl⟩

end JobDispatch.WorkerLoop
