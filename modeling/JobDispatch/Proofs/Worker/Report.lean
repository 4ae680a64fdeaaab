import JobDispatch.Proofs.Backoff
import JobDispatch.Proofs.Worker.Shift

/-!
# How long a worker reports

A report ends with the first answer that is final: the outcome is accepted, or the error is one that
does not pass, or the report began after the cancellation. Any other answer is followed by a pause
and the same report again. The pauses are those of the backoff, one after another, and only the
cancellation cuts them short. So a worker that is not cancelled reports until it has a final answer,
and one that is cancelled begins at most one more report.

Reports and pauses take turns, so the place of a call tells what it asks for: reports stand at even
places, and after each of them its pause.
-/

namespace JobDispatch.WorkerLoop

/-- The loop reports an outcome, or pauses before it does so again. -/
def Phase.isReporting : Phase → Bool
  | .reporting _ _ _ _ _ | .retrying _ _ _ _ => true
  | _ => false

/-- The loop when it begins to report an outcome. -/
def Shift.toReport (worker : ResourceId) (job : ClaimedJob) (outcome : JobOutcome) (time : Nat)
    (cancelled logged : Bool) : Shift :=
  ⟨.reporting worker job outcome 0 cancelled, time, cancelled, cancelled, logged⟩

/-- The calls of a report, and the phase in which it leaves the loop or has come to. What cannot
happen changes nothing. -/
def Shift.report (settings : Settings) (shift : Shift) : List Move → List Call × Phase
  | [] => ((shift.present? settings).toList, shift.phase)
  | .cancel :: rest => { shift with cancelled := true }.report settings rest
  | .answer reply time :: rest =>
    match shift.answer? settings reply time with
    | some (call, next) =>
      if next.phase.isReporting then
        let (calls, last) := next.report settings rest
        (call :: calls, last)
      else ([call], next.phase)
    | none => shift.report settings rest

/-- The failed reports before a place, as the loop counts them. -/
def failuresAt (place : Nat) : UInt32 := .ofNat (min (place / 2) (UInt32.size - 1))

/-- What is asked for at a place of a report. -/
def requestAt (settings : Settings) (worker : ResourceId) (job : ClaimedJob) (outcome : JobOutcome)
    (place : Nat) : Request :=
  if place % 2 = 0 then .report job.id worker outcome
  else .pause (settings.backoff.delay (failuresAt place))

/-- A report that did not begin late has failed with an error that may pass. -/
def Call.Passes (call : Call) : Prop :=
  call.late = false ∧
    ∃ error time, call.reply = some (.reported (.error error), time) ∧ error.isTransient

/-- A report has a final answer: the outcome is accepted, the error does not pass, or the report
began late. -/
def Call.IsFinal (call : Call) : Prop :=
  ∃ result time, call.reply = some (.reported result, time) ∧
    ∀ error, result = .error error → error.isTransient → call.late

/-- A call stands at a place of a report, before the next call if there is one. -/
structure Stands (settings : Settings) (worker : ResourceId) (job : ClaimedJob)
    (outcome : JobOutcome) (place : Nat) (call : Call) (next? : Option Call) : Prop where
  /-- It asks for what belongs to the place: a report of the outcome, or a pause of the backoff. -/
  asks : call.request = requestAt settings worker job outcome place
  /-- The next call begins when it is answered. -/
  meets : ∀ next, next? = some next → ∃ reply, call.reply = some (reply, next.began)
  /-- A report is followed by another call exactly when it fails with an error that may pass and has
  not begun late. -/
  repeats : place % 2 = 0 → (next?.isSome ↔ call.Passes)
  /-- A pause that is ended is followed by a report. It has lasted as long as it should, or the
  cancellation has cut it short and the report begins late. -/
  resumes : place % 2 = 1 → ∀ reply time, call.reply = some (reply, time) →
    ∃ next, next? = some next ∧
      (reply = .slept ∧
          call.began + (settings.backoff.delay (failuresAt place)).nanos ≤ next.began ∨
        reply = .noticed ∧ next.late)

/-- The calls of one report of an outcome, with the phase after them. -/
structure Persists (settings : Settings) (worker : ResourceId) (job : ClaimedJob)
    (outcome : JobOutcome) (calls : List Call) (last : Phase) : Prop where
  /-- There is a report. -/
  begins : calls ≠ []
  /-- Each call stands at its place. -/
  stands : ∀ place call, calls[place]? = some call →
    Stands settings worker job outcome place call calls[place + 1]?
  /-- A report that begins late is the last call. -/
  once : ∀ place call, calls[place]? = some call → place % 2 = 0 → call.late →
    place + 1 = calls.length
  /-- The loop is through with its report exactly when the last call has a final answer. -/
  ends : last.isReporting = false ↔ ∃ call, calls.getLast? = some call ∧ call.IsFinal
  /-- No pause is shorter than one before it, and none is longer than the longest. -/
  grows : ∀ first second, first ≤ second →
    settings.backoff.delay (failuresAt first) ≤ settings.backoff.delay (failuresAt second) ∧
      settings.backoff.delay (failuresAt second) ≤ settings.backoff.max

section

variable {settings : Settings} {worker : ResourceId} {job : ClaimedJob} {outcome : JobOutcome}
  {place began time : Nat} {late cancelled : Bool} {calls : List Call} {last : Phase}

/-- The count of failed reports stays at the largest number of thirty-two bits. -/
theorem toNat_failuresAt (place : Nat) :
    (failuresAt place).toNat = min (place / 2) (UInt32.size - 1) := by
  have size : UInt32.size = 4294967296 := rfl
  exact UInt32.toNat_ofNat_of_lt' (by omega)

/-- The failed reports are counted in order. -/
theorem failuresAt_mono {first second : Nat} (order : first ≤ second) :
    failuresAt first ≤ failuresAt second := by
  rw [UInt32.le_iff_toNat_le, toNat_failuresAt, toNat_failuresAt]
  omega

/-- A pause is counted with the report before it. -/
theorem failuresAt_succ (even : place % 2 = 0) : failuresAt (place + 1) = failuresAt place := by
  rw [failuresAt, failuresAt, show (place + 1) / 2 = place / 2 by omega]

/-- One more failed report is counted after its pause. -/
theorem nextAttempt_failuresAt (odd : place % 2 = 1) :
    nextAttempt (failuresAt place) = failuresAt (place + 1) := by
  have size : UInt32.size = 4294967296 := rfl
  rw [nextAttempt]
  split
  · rename_i more
    apply UInt32.toNat_inj.mp
    rw [UInt32.toNat_add, UInt32.toNat_one, toNat_failuresAt, toNat_failuresAt] at *
    omega
  · rename_i most
    apply UInt32.toNat_inj.mp
    rw [toNat_failuresAt] at *
    rw [toNat_failuresAt]
    omega

/-- The phase at a place of a report. -/
def phaseAt (worker : ResourceId) (job : ClaimedJob) (outcome : JobOutcome) (place : Nat)
    (late : Bool) : Phase :=
  if place % 2 = 0 then .reporting worker job outcome (failuresAt place) late
  else .retrying worker job outcome (failuresAt place)

/-- The loop asks at each place for what belongs there. -/
theorem request_phaseAt (place : Nat) (late : Bool) :
    (phaseAt worker job outcome place late).request? settings =
      some (requestAt settings worker job outcome place) := by
  unfold phaseAt requestAt
  split <;> rfl

/-- A loop at a place of a report is reporting. -/
theorem isReporting_phaseAt (place : Nat) (late : Bool) :
    (phaseAt worker job outcome place late).isReporting := by
  unfold phaseAt
  split <;> rfl

/-- After a report the loop rests or turns to the next job. -/
theorem isReporting_afterReport (settings : Settings) (cancelled : Bool) (worker : ResourceId)
    (job : ClaimedJob) (outcome : JobOutcome) :
    (afterReport settings cancelled worker job outcome).isReporting = false := by
  cases outcome with
  | success => cases cancelled <;> rfl
  | failure error => rfl

/-- A report goes on at the next place when a call has been answered at a time. -/
inductive Resumes (settings : Settings) (place : Nat) (call : Call) (time : Nat) (late : Bool) :
    Prop
  /-- A report has failed with an error that may pass. -/
  | failed (even : place % 2 = 0) (passes : call.Passes)
  /-- A pause has lasted as long as it should. -/
  | slept (odd : place % 2 = 1) (whole : call.reply = some (.slept, time))
      (long : call.began + (settings.backoff.delay (failuresAt place)).nanos ≤ time)
  /-- The cancellation has cut a pause short. -/
  | noticed (odd : place % 2 = 1) (cut : call.reply = some (.noticed, time)) (late : late = true)

/-- A reply to a report is final, or a pause follows. -/
theorem next_of_report {reply : Reply} {event : Event} (late logged : Bool) (even : place % 2 = 0)
    (answers : reply.event? cancelled (time - began)
      (requestAt settings worker job outcome place) = some event) :
    let call : Call :=
      ⟨requestAt settings worker job outcome place, began, late, some (reply, time)⟩
    let next := (phaseAt worker job outcome place late).next settings logged cancelled event
    (call.IsFinal ∧ next.isReporting = false) ∨
      (call.Passes ∧ next = phaseAt worker job outcome (place + 1) cancelled) := by
  have asks : requestAt settings worker job outcome place = .report job.id worker outcome :=
    if_pos even
  have phase : phaseAt worker job outcome place late =
      .reporting worker job outcome (failuresAt place) late := if_pos even
  have pause : phaseAt worker job outcome (place + 1) cancelled =
      .retrying worker job outcome (failuresAt place) := by
    rw [phaseAt, if_neg (by omega), failuresAt_succ even]
  have ended := isReporting_afterReport settings cancelled worker job outcome
  rw [asks] at answers ⊢
  rw [phase, pause]
  cases reply with
  | reported result =>
    obtain rfl := Option.some.inj answers
    cases result with
    | ok report => exact .inl ⟨⟨.ok report, time, rfl, nofun⟩, ended⟩
    | error error =>
      simp only [Phase.next, Phase.step]
      split
      · rename_i again
        exact .inr ⟨⟨by simpa using again.2, error, time, rfl, again.1⟩, rfl⟩
      · rename_i final
        refine .inl ⟨⟨.error error, time, rfl, fun other same passes => ?_⟩, ended⟩
        obtain rfl := Except.error.inj same
        simpa [passes] using final
  | _ => contradiction

/-- After a pause the report is repeated. -/
theorem next_of_pause {reply : Reply} {event : Event} (late logged : Bool) (odd : place % 2 = 1)
    (later : began ≤ time)
    (answers : reply.event? cancelled (time - began)
      (requestAt settings worker job outcome place) = some event) :
    Resumes settings place
        ⟨requestAt settings worker job outcome place, began, late, some (reply, time)⟩ time
        cancelled ∧
      (phaseAt worker job outcome place late).next settings logged cancelled event =
        phaseAt worker job outcome (place + 1) cancelled := by
  have asks : requestAt settings worker job outcome place =
      .pause (settings.backoff.delay (failuresAt place)) := if_neg (by omega)
  have phase : phaseAt worker job outcome place late =
      .retrying worker job outcome (failuresAt place) := if_neg (by omega)
  have next : phaseAt worker job outcome (place + 1) cancelled =
      .reporting worker job outcome (nextAttempt (failuresAt place)) cancelled := by
    rw [phaseAt, if_pos (by omega), nextAttempt_failuresAt odd]
  rw [asks] at answers ⊢
  rw [phase, next]
  cases reply with
  | slept =>
    obtain ⟨rfl, whole⟩ := paused_of_slept answers
    have long : began + (settings.backoff.delay (failuresAt place)).nanos ≤ time := by omega
    exact ⟨.slept odd rfl long, rfl⟩
  | noticed =>
    obtain ⟨rfl, same⟩ := Option.ite_none_right_eq_some.mp answers
    obtain rfl := Option.some.inj same
    exact ⟨.noticed odd rfl rfl, rfl⟩
  | _ => contradiction

/-- The calls from a place of a report on, and the phase after them. -/
inductive Tries (settings : Settings) (worker : ResourceId) (job : ClaimedJob)
    (outcome : JobOutcome) : Nat → Nat → Bool → List Call → Phase → Prop
  /-- There is no answer. -/
  | pending {place began : Nat} {late : Bool} :
      Tries settings worker job outcome place began late
        [⟨requestAt settings worker job outcome place, began, late, none⟩]
        (phaseAt worker job outcome place late)
  /-- The answer is final. -/
  | final {place : Nat} {call : Call} {last : Phase} (even : place % 2 = 0)
      (asks : call.request = requestAt settings worker job outcome place) (final : call.IsFinal)
      (ended : last.isReporting = false) :
      Tries settings worker job outcome place call.began call.late [call] last
  /-- The loop goes on. -/
  | resumed {place time : Nat} {call : Call} {reply : Reply} {late : Bool} {calls : List Call}
      {last : Phase} (asks : call.request = requestAt settings worker job outcome place)
      (answered : call.reply = some (reply, time))
      (resumes : Resumes settings place call time late)
      (rest : Tries settings worker job outcome (place + 1) time late calls last) :
      Tries settings worker job outcome place call.began call.late (call :: calls) last

/-- The calls of a report follow each other in this way. -/
theorem tries_report (moves : List Move) (place began : Nat) (late cancelled logged : Bool) :
    let shift : Shift := ⟨phaseAt worker job outcome place late, began, late, cancelled, logged⟩
    Tries settings worker job outcome place began late (shift.report settings moves).1
      (shift.report settings moves).2 := by
  induction moves generalizing place began late cancelled with
  | nil =>
    simp only [Shift.report, Shift.present?, request_phaseAt, Option.map_some, Option.toList_some]
    exact .pending
  | cons move rest ih =>
    cases move with
    | cancel => exact ih place began late true
    | answer reply time =>
      unfold Shift.report Shift.answer?
      dsimp only
      by_cases later : began ≤ time
      · rw [if_pos later, request_phaseAt]
        simp only [Option.bind_eq_bind, Option.bind_some]
        cases answers : reply.event? cancelled (time - began)
            (requestAt settings worker job outcome place) with
        | none => exact ih place began late cancelled
        | some event =>
          simp only [Option.bind_some, Option.pure_def]
          have repeated := ih (place + 1) time cancelled cancelled
          obtain even | odd := Nat.mod_two_eq_zero_or_one place
          · obtain ⟨final, ended⟩ | ⟨passes, next⟩ := next_of_report late logged even answers
            · rw [if_neg (by simp [ended])]
              exact .final even rfl final ended
            · rw [next, if_pos (isReporting_phaseAt _ _)]
              exact .resumed rfl rfl (.failed even passes) repeated
          · obtain ⟨resumes, next⟩ := next_of_pause late logged odd later answers
            rw [next, if_pos (isReporting_phaseAt _ _)]
            exact .resumed rfl rfl resumes repeated
      · rw [if_neg later]
        exact ih place began late cancelled

/-- The calls from a place on begin with one that begins as the loop comes there. -/
theorem Tries.first (tries : Tries settings worker job outcome place began late calls last) :
    ∃ call rest, calls = call :: rest ∧ call.began = began ∧ call.late = late := by
  cases tries with
  | pending | final | resumed => exact ⟨_, _, rfl, rfl, rfl⟩

/-- A call that is the last of a report stands at its place. -/
theorem stands_of_last {call : Call}
    (asks : call.request = requestAt settings worker job outcome place)
    (stays : place % 2 = 0 → ¬ call.Passes) (waits : place % 2 = 1 → call.reply = none) :
    Stands settings worker job outcome place call none where
  asks := asks
  meets next same := nomatch same
  repeats even := ⟨fun more => (nomatch more), fun passes => absurd passes (stays even)⟩
  resumes odd reply time answered := by
    rw [waits odd] at answered
    contradiction

/-- A call with which a report goes on stands at its place. -/
theorem Resumes.stands {call next : Call} {reply : Reply}
    (resumes : Resumes settings place call time late)
    (asks : call.request = requestAt settings worker job outcome place)
    (answered : call.reply = some (reply, time)) (begins : next.began = time)
    (follows : next.late = late) :
    Stands settings worker job outcome place call (some next) where
  asks := asks
  meets other same := by
    obtain rfl := Option.some.inj same
    exact ⟨reply, begins ▸ answered⟩
  repeats even := by
    cases resumes with
    | failed _ passes => exact ⟨fun _ => passes, fun _ => rfl⟩
    | slept odd | noticed odd => omega
  resumes odd other ended same := by
    refine ⟨next, rfl, ?_⟩
    cases resumes with
    | failed even => omega
    | slept _ whole long =>
      rw [whole] at same
      exact .inl ⟨(Prod.mk.inj (Option.some.inj same)).1.symm, begins ▸ long⟩
    | noticed _ cut cancelled =>
      rw [cut] at same
      exact .inr ⟨(Prod.mk.inj (Option.some.inj same)).1.symm, follows.trans cancelled⟩

/-- A final answer does not let a report be repeated. -/
theorem Call.IsFinal.not_passes {call : Call} (final : call.IsFinal) : ¬ call.Passes := by
  obtain ⟨result, time, answered, lasting⟩ := final
  rintro ⟨early, error, ended, failed, passes⟩
  rw [answered] at failed
  obtain ⟨same, -⟩ := Prod.mk.inj (Option.some.inj failed)
  have late := lasting error (Reply.reported.inj same) passes
  rw [early] at late
  contradiction

/-- Each of the calls from a place on stands at its place. -/
theorem Tries.stands (tries : Tries settings worker job outcome place began late calls last) :
    ∀ index call, calls[index]? = some call →
      Stands settings worker job outcome (place + index) call calls[index + 1]? := by
  induction tries with
  | pending =>
    intro index call found
    cases index with
    | zero =>
      obtain rfl := Option.some.inj found
      refine stands_of_last rfl ?_ fun _ => rfl
      rintro - ⟨-, error, time, answered, -⟩
      contradiction
    | succ index => contradiction
  | final even asks final =>
    intro index call found
    cases index with
    | zero =>
      obtain rfl := Option.some.inj found
      refine stands_of_last asks (fun _ => final.not_passes) fun odd => ?_
      rw [Nat.add_zero, even] at odd
      contradiction
    | succ index => contradiction
  | @resumed place time first reply late calls last asks answered resumes rest ih =>
    intro index call found
    cases index with
    | zero =>
      obtain rfl := Option.some.inj found
      obtain ⟨next, more, rfl, begins, follows⟩ := rest.first
      exact resumes.stands asks answered begins follows
    | succ index =>
      have later := ih index call found
      rw [Nat.add_right_comm] at later
      exact later

/-- The report is ended exactly when the last call has a final answer. -/
theorem Tries.ends (tries : Tries settings worker job outcome place began late calls last) :
    last.isReporting = false ↔ ∃ call, calls.getLast? = some call ∧ call.IsFinal := by
  induction tries with
  | pending =>
    constructor
    · intro ended
      rw [isReporting_phaseAt] at ended
      contradiction
    · rintro ⟨call, same, result, time, answered, -⟩
      obtain rfl := Option.some.inj same
      contradiction
  | final even asks final ended => exact ⟨fun _ => ⟨_, rfl, final⟩, fun _ => ended⟩
  | resumed asks answered resumes rest ih =>
    obtain ⟨next, more, rfl, -⟩ := rest.first
    rw [ih, List.getLast?_cons_cons]

/-- The calls of a report persist. -/
theorem Tries.persists (tries : Tries settings worker job outcome 0 began late calls last) :
    Persists settings worker job outcome calls last where
  begins := by
    obtain ⟨first, rest, rfl, -⟩ := tries.first
    exact List.cons_ne_nil _ _
  stands place call found := by
    have stands := tries.stands place call found
    rwa [Nat.zero_add] at stands
  once place call found even late := by
    have stands := tries.stands place call found
    rw [Nat.zero_add] at stands
    have here : place < calls.length := (List.getElem?_eq_some_iff.mp found).1
    cases more : calls[place + 1]? with
    | none =>
      have end_ := List.getElem?_eq_none_iff.mp more
      omega
    | some next =>
      have early := ((stands.repeats even).mp (more ▸ rfl)).1
      rw [early] at late
      contradiction
  ends := tries.ends
  grows first second order :=
    ⟨Backoff.delay_mono _ (failuresAt_mono order), Backoff.delay_le_max _ _⟩

/-- The calls of a report are the first of a shift that goes on from there. -/
theorem Shift.report_prefix (shift : Shift) (moves : List Move) :
    (shift.report settings moves).1 <+: (shift.run settings moves).1 := by
  induction moves generalizing shift with
  | nil => exact List.prefix_rfl
  | cons move rest ih =>
    cases move with
    | cancel => exact ih { shift with cancelled := true }
    | answer reply time =>
      unfold Shift.report Shift.run
      cases shift.answer? settings reply time with
      | none => exact ih shift
      | some found =>
        obtain ⟨call, next⟩ := found
        dsimp only
        split
        · exact List.cons_prefix_cons.mpr ⟨rfl, ih next⟩
        · exact List.cons_prefix_cons.mpr ⟨rfl, List.nil_prefix⟩

/-- After a call that has been answered, a shift goes on from where its answer has led. -/
theorem Shift.run_split {shift : Shift} {moves : List Move} {before rest : List Call} {call : Call}
    {reply : Reply} (split : (shift.run settings moves).1 = before ++ call :: rest)
    (answered : call.reply = some (reply, time)) :
    ∃ earlier next later, Shift.answer? settings earlier reply time = some (call, next) ∧
      rest = (next.run settings later).1 := by
  induction moves generalizing shift before with
  | nil =>
    have alone : (shift.present? settings).toList = before ++ call :: rest := split
    have member : call ∈ (shift.present? settings).toList := by
      rw [alone]
      exact List.mem_append_right _ List.mem_cons_self
    obtain ⟨request, -, rfl⟩ := Option.map_eq_some_iff.mp (Option.mem_toList.mp member)
    contradiction
  | cons move more ih =>
    cases move with
    | cancel => exact ih split
    | answer other ended =>
      rw [Shift.run] at split
      cases found : shift.answer? settings other ended with
      | none =>
        rw [found] at split
        exact ih split
      | some pair =>
        obtain ⟨first, next⟩ := pair
        rw [found] at split
        cases before with
        | cons head before => exact ih (List.cons.inj split).2
        | nil =>
          obtain ⟨rfl, rfl⟩ := List.cons.inj split
          have same : first.reply = some (other, ended) := by
            obtain ⟨-, gets⟩ := Option.ite_none_right_eq_some.mp found
            obtain ⟨request, -, gets⟩ := Option.bind_eq_some_iff.mp gets
            obtain ⟨event, -, gets⟩ := Option.bind_eq_some_iff.mp gets
            obtain ⟨rfl, -⟩ := Prod.mk.inj (Option.some.inj gets)
            rfl
          obtain ⟨rfl, rfl⟩ := Prod.mk.inj (Option.some.inj (same.symm.trans answered))
          exact ⟨shift, next, more, found, rfl⟩

/-- A job that has been run is reported from then on. -/
theorem Shift.toReport_of_run {shift next : Shift} {call : Call} {limit : Duration}
    {execution : Option Execution}
    (found : shift.answer? settings (.ran execution) time = some (call, next))
    (runs : call.request = .execute job limit) :
    ∃ worker cancelled logged,
      next = toReport worker job (outcomeWithin job execution) time cancelled logged := by
  obtain ⟨-, gets⟩ := Option.ite_none_right_eq_some.mp found
  obtain ⟨request, asks, gets⟩ := Option.bind_eq_some_iff.mp gets
  obtain ⟨event, answers, gets⟩ := Option.bind_eq_some_iff.mp gets
  obtain ⟨rfl, rfl⟩ := Prod.mk.inj (Option.some.inj gets)
  dsimp only at runs
  subst runs
  have goes : Goes settings shift.logged shift.cancelled (time - shift.began) shift.phase
      (.ran execution) (shift.phase.next settings shift.logged shift.cancelled event) :=
    goes_of_event asks answers
  generalize shift.phase = phase at asks goes
  generalize phase.next settings shift.logged shift.cancelled event = after at goes
  cases goes with
  | @ran worker other =>
    obtain ⟨rfl, -⟩ := Request.execute.inj (Option.some.inj asks)
    exact ⟨worker, shift.cancelled, shift.logged, rfl⟩
  | repeated resumes => rcases resumes with slept | noticed <;> contradiction

end

/-- How a worker with some settings reports. -/
structure Persistent (settings : Settings) : Prop where
  /-- Every report persists, whatever is answered and whenever the loop is cancelled. -/
  persists : ∀ worker job outcome time cancelled logged moves,
    let report := (Shift.toReport worker job outcome time cancelled logged).report settings moves
    Persists settings worker job outcome report.1 report.2
  /-- In a shift there is such a report after every run of a job. -/
  follows : ∀ time logged moves before run rest job limit execution ended,
    ((Shift.start time logged).run settings moves).1 = before ++ run :: rest →
    run.request = .execute job limit → run.reply = some (.ran execution, ended) →
    ∃ worker cancelled logged later, ((Shift.toReport worker job (outcomeWithin job execution) ended
      cancelled logged).report settings later).1 <+: rest

/-- A worker reports until it has a final answer, and begins no more than one report once it is
cancelled. -/
theorem persistent_reports (settings : Settings) : Persistent settings where
  persists worker job outcome time cancelled logged moves :=
    (tries_report moves 0 time cancelled cancelled logged).persists
  follows time logged moves before run rest job limit execution ended split runs answered := by
    obtain ⟨earlier, next, later, found, rfl⟩ := Shift.run_split split answered
    obtain ⟨worker, cancelled, logged, rfl⟩ := Shift.toReport_of_run found runs
    exact ⟨worker, cancelled, logged, later, Shift.report_prefix _ later⟩

end JobDispatch.WorkerLoop
