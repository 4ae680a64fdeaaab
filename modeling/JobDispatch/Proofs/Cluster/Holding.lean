import JobDispatch.Proofs.Cluster.Move
import JobDispatch.Proofs.Store.Attempt

/-!
# Who a loop is, and the job that it holds

A loop has an identifier from the moment at which the store has registered it. It holds a job from
the moment at which the store has handed it out until it has accepted the outcome or the loop has
given up. No two loops have the same identifier, and an identifier stays registered. The attempts at
a job that a store hands out can be counted, so no loop panics at it, whatever its log takes.
-/

namespace JobDispatch

/-- The attempts at a job that a store hands out can be counted. -/
theorem WorkerLoop.isCounted_of_handed {store : Store} (sound : store.Sound)
    {worker fresh : ResourceId} {now : Instant} {job : ClaimedJob}
    (handed : ((StoreCall.claimNext worker).run now fresh store).1 = .ok (some job)) :
    isCounted job := by
  have ended := claiming sound.keyed worker now fresh
  generalize (StoreCall.claimNext worker).run now fresh store = result at ended handed
  cases ended with
  | claimed stored registered next touched =>
    obtain ⟨later, -, rfl⟩ := Job.touch_eq_ok_iff.mp touched
    obtain rfl := Option.some.inj (Except.ok.inj handed)
    obtain ⟨-, used, most⟩ := (sound _ _ stored).retries
    have hundred : (100 : Int32).toInt = 100 := rfl
    rw [Int32.le_iff_toInt_le] at used most
    have attempt := ClaimedJob.successor?_small (Int.le_trans used (hundred ▸ most))
    have attempts := ClaimedJob.successor?_small (hundred ▸ most)
    rw [isCounted, ClaimedJob.attempt?, ClaimedJob.maxAttempts?]
    simp only [Job.claimed, Job.bound, attempt, attempts, Option.isSome_some, Bool.and_self]
  | refused | idle | stopped => simp at handed

namespace WorkerLoop.Phase

/-- The identifier under which a loop works in a phase. -/
def worker? : Phase → Option ResourceId
  | .claiming worker | .executing worker _ | .reporting worker _ _ _ _ | .retrying worker _ _ _
  | .resting worker _ | .waiting worker => some worker
  | .registering | .stopped _ | .crashed => none

/-- The worker and the job that it runs or reports in a phase. -/
def held? : Phase → Option (ResourceId × ClaimedJob)
  | .executing worker job | .reporting worker job _ _ _ | .retrying worker job _ _ =>
    some (worker, job)
  | .registering | .claiming _ | .resting _ _ | .waiting _ | .stopped _ | .crashed => none

variable {settings : Settings} {cancelled : Bool} {phase : Phase} {event : Event}

/-- A loop goes on from a job that a store hands out as it would without a log. -/
theorem next_of_handed {store : Store} (sound : store.Sound) {worker fresh : ResourceId}
    {now : Instant} {job : ClaimedJob}
    (handed : ((StoreCall.claimNext worker).run now fresh store).1 = .ok (some job))
    (logged : Bool) :
    phase.next settings logged cancelled (.claimed (.ok (some job))) =
      phase.step settings cancelled (.claimed (.ok (some job))) := by
  have counted := isCounted_of_handed sound handed
  cases phase with
  | claiming other => rw [next, counted, Bool.not_true, Bool.and_false, if_neg Bool.false_ne_true]
  | _ => rfl

/-- A loop that turns to the next job holds none. -/
@[simp] theorem held?_turn (worker : ResourceId) : (turn cancelled worker).held? = none := by
  unfold turn
  split <;> rfl

/-- After a report the loop holds no job. -/
@[simp] theorem held?_afterReport (worker : ResourceId) (job : ClaimedJob) (outcome : JobOutcome) :
    (afterReport settings cancelled worker job outcome).held? = none := by
  cases outcome with
  | success => exact held?_turn worker
  | failure reason => rfl

/-- A loop that turns to the next job keeps its identifier. -/
theorem worker?_turn {worker other : ResourceId}
    (named : (turn cancelled worker).worker? = some other) : worker = other := by
  unfold turn at named
  split at named
  · contradiction
  · exact Option.some.inj named

/-- After a report the loop keeps its identifier. -/
theorem worker?_afterReport {worker other : ResourceId} {job : ClaimedJob} {outcome : JobOutcome}
    (named : (afterReport settings cancelled worker job outcome).worker? = some other) :
    worker = other := by
  cases outcome with
  | success => exact worker?_turn named
  | failure reason => exact Option.some.inj named

/-- An event lets a loop hold a job only when it answers a claim or the loop held it before. -/
theorem held?_step {worker : ResourceId} {job : ClaimedJob}
    (held : (phase.step settings cancelled event).held? = some (worker, job)) :
    phase.held? = some (worker, job) ∨
      (phase = .claiming worker ∧ event = .claimed (.ok (some job))) := by
  revert held
  fun_cases Phase.step settings cancelled phase event <;> intro held <;>
    grind [held?, held?_turn, held?_afterReport]

/-- An event gives a loop an identifier only when it answers its registration or the loop had the
identifier before. -/
theorem worker?_step {worker : ResourceId}
    (named : (phase.step settings cancelled event).worker? = some worker) :
    phase.worker? = some worker ∨
      (phase = .registering ∧ ∃ record, event = .registered (.ok record) ∧ record.id = worker) := by
  revert named
  fun_cases Phase.step settings cancelled phase event <;> intro named <;>
    grind [worker?, worker?_turn, worker?_afterReport]

/-- A loop that holds a job has an identifier. -/
theorem worker?_of_held? {worker : ResourceId} {job : ClaimedJob}
    (held : phase.held? = some (worker, job)) : phase.worker? = some worker := by
  cases phase with
  | executing | reporting | retrying =>
    obtain ⟨rfl, rfl⟩ := Prod.mk.inj (Option.some.inj held)
    rfl
  | registering | claiming | resting | waiting | stopped | crashed => contradiction

end WorkerLoop.Phase

namespace Member

/-- The identifier that the store has given the loop. -/
def id? (member : Member) : Option ResourceId :=
  match member.phase, member.call with
  | .registering, .answered (.registered (.ok record)) => some record.id
  | phase, _ => phase.worker?

/-- The worker and the job that the store has handed it, until the loop turns to the next. -/
def processing? (member : Member) : Option (ResourceId × ClaimedJob) :=
  match member.phase, member.call with
  | .claiming worker, .answered (.claimed (.ok (some job))) => some (worker, job)
  | phase, _ => phase.held?

variable {settings : WorkerLoop.Settings} {member : Member} {event : WorkerLoop.Event}
  {worker : ResourceId} {job : ClaimedJob}

/-- An event that grants a loop something is the answer to its call. -/
def Hears (member : Member) (event : WorkerLoop.Event) : Prop :=
  (∀ record, event = .registered (.ok record) → member.call = .answered event) ∧
    ∀ job, event = .claimed (.ok (some job)) → member.call = .answered event

/-- A loop keeps its identifier with an event that it hears. -/
theorem id?_turn (hears : member.Hears event)
    (named : (member.turn settings event).id? = some worker) : member.id? = some worker := by
  have after : (member.phase.step settings member.cancelled event).worker? = some worker := by
    unfold id? turn at named
    simpa using named
  obtain before | ⟨registering, record, rfl, rfl⟩ := WorkerLoop.Phase.worker?_step after
  · unfold id?
    grind [WorkerLoop.Phase.worker?]
  · simp [id?, registering, hears.1 record rfl]

/-- A loop processes no other job with an event that it hears. -/
theorem processing?_turn (hears : member.Hears event)
    (held : (member.turn settings event).processing? = some (worker, job)) :
    member.processing? = some (worker, job) := by
  have after : (member.phase.step settings member.cancelled event).held? = some (worker, job) := by
    unfold processing? turn at held
    simpa using held
  obtain before | ⟨claiming, rfl⟩ := WorkerLoop.Phase.held?_step after
  · unfold processing?
    grind [WorkerLoop.Phase.held?]
  · simp [processing?, claiming, hears.2 job rfl]

/-- A loop processes the job of its phase. -/
theorem processing?_of_held? (held : member.phase.held? = some (worker, job)) :
    member.processing? = some (worker, job) := by
  unfold processing?
  split
  · rename_i claiming answered
    rw [claiming] at held
    contradiction
  · exact held

/-- A loop that processes a job has an identifier. -/
theorem id?_of_processing? (held : member.processing? = some (worker, job)) :
    member.id? = some worker := by
  unfold processing? at held
  split at held
  · rename_i other again claiming answered
    obtain ⟨rfl, rfl⟩ := Prod.mk.inj (Option.some.inj held)
    simp [id?, claiming, answered, WorkerLoop.Phase.worker?]
  · have named := WorkerLoop.Phase.worker?_of_held? held
    unfold id?
    grind [WorkerLoop.Phase.worker?]

/-- The effect of a call gives a loop an identifier only when it answers its registration. -/
theorem id?_land {ledger : Ledger} (named : (member.land ledger event).id? = some worker) :
    member.id? = some worker ∨ (member.phase = .registering ∧
      ∃ record, event = .registered (.ok record) ∧ record.id = worker) := by
  unfold id? land at named
  split at named
  · rename_i record registering answered
    obtain rfl := CallState.answered.inj answered
    exact .inr ⟨registering, record, rfl, Option.some.inj named⟩
  · left
    unfold id?
    grind [WorkerLoop.Phase.worker?]

/-- The effect of a call gives a loop a job only when it answers its claim. -/
theorem processing?_land {ledger : Ledger}
    (held : (member.land ledger event).processing? = some (worker, job)) :
    member.processing? = some (worker, job) ∨
      (member.phase = .claiming worker ∧ event = .claimed (.ok (some job))) := by
  unfold processing? land at held
  split at held
  · rename_i other again claiming answered
    obtain rfl := CallState.answered.inj answered
    obtain ⟨rfl, rfl⟩ := Prod.mk.inj (Option.some.inj held)
    exact .inr ⟨claiming, rfl⟩
  · left
    unfold processing?
    grind [WorkerLoop.Phase.held?]

/-- The end of the calendar gives a loop no identifier. -/
theorem id?_broken (named : { member with call := .broken }.id? = some worker) :
    member.id? = some worker := by
  unfold id? at *
  grind [WorkerLoop.Phase.worker?]

/-- The end of the calendar gives a loop no job. -/
theorem processing?_broken
    (held : { member with call := .broken }.processing? = some (worker, job)) :
    member.processing? = some (worker, job) := by
  unfold processing? at *
  grind [WorkerLoop.Phase.held?]

/-- A loop without an answer on its way is asking. -/
theorem call_of_isAsking (asking : member.isAsking) : member.call = .asking := by
  unfold isAsking at asking
  split at asking
  · assumption
  · contradiction
  · contradiction

/-- A cancelled loop keeps its identifier. -/
theorem id?_cancel (named : (member.cancel settings).id? = some worker) :
    member.id? = some worker := by
  obtain ⟨phase, call, claim, cancelled⟩ := member
  cases phase with
  | resting | waiting => contradiction
  | registering | claiming | executing | reporting | retrying | stopped | crashed => exact named

/-- A cancelled loop processes no other job. -/
theorem processing?_cancel (held : (member.cancel settings).processing? = some (worker, job)) :
    member.processing? = some (worker, job) := by
  obtain ⟨phase, call, claim, cancelled⟩ := member
  cases phase with
  | resting | waiting => contradiction
  | registering | claiming | executing | reporting | retrying | stopped | crashed => exact held

end Member

namespace Cluster

variable {ι : Type} {crew : Crew ι} {cluster : Cluster ι}

/-- The store is sound, and the loops have different identifiers that it has registered. -/
structure Enrolled (cluster : Cluster ι) : Prop where
  /-- Every job is sound. -/
  sound : cluster.ledger.store.Sound
  /-- Every identifier of a loop is registered. -/
  registered : ∀ loop worker, (cluster.loops loop).id? = some worker →
    cluster.ledger.store.workers.contains worker
  /-- No two loops have the same identifier. -/
  distinct : ∀ loop other worker, (cluster.loops loop).id? = some worker →
    (cluster.loops other).id? = some worker → loop = other

/-- Before any loop has started there are no identifiers. -/
theorem enrolled_start : (start : Cluster ι).Enrolled where
  sound := Ledger.sound_empty
  registered := by
    intro loop worker named
    contradiction
  distinct := by
    intro loop other worker named
    contradiction

/-- Loops keep their identifiers while no worker is forgotten and no loop gets a new one. -/
theorem Enrolled.keep (enrolled : cluster.Enrolled) {after : Cluster ι}
    (sound : after.ledger.store.Sound)
    (kept : ∀ worker, cluster.ledger.store.workers.contains worker →
      after.ledger.store.workers.contains worker)
    (same : ∀ loop worker, (after.loops loop).id? = some worker →
      (cluster.loops loop).id? = some worker) : after.Enrolled where
  sound := sound
  registered := fun loop worker named =>
    kept worker (enrolled.registered loop worker (same _ _ named))
  distinct := fun loop other worker named again =>
    enrolled.distinct loop other worker (same _ _ named) (same _ _ again)

/-- A failure grants nothing. -/
theorem hears_failure {loop : ι} {error : Error} {event : WorkerLoop.Event} {member : Member}
    (failure : cluster.failure? crew loop error = some event) : member.Hears event := by
  unfold failure? at failure
  cases asked : cluster.request? crew loop with
  | none => simp [asked] at failure
  | some request =>
    rw [asked, Option.bind_some] at failure
    cases request with
    | register | claim | report =>
      obtain rfl := Option.some.inj failure
      exact ⟨by simp, by simp⟩
    | execute | pause | wait => contradiction

/-- An event inside the loop grants nothing. -/
theorem hears_local {event : WorkerLoop.Event} {member : Member} (inside : event.isLocal) :
    member.Hears event := by
  cases event with
  | executed | overran | paused | woken => exact ⟨by simp, by simp⟩
  | registered | claimed | reported | cancelled => contradiction

/-- The answer to a call is heard. -/
theorem hears_answer {event : WorkerLoop.Event} {member : Member}
    (answered : member.call = .answered event) : member.Hears event :=
  ⟨fun _ _ => answered, fun _ _ => answered⟩

variable [DecidableEq ι]

/-- A loop in a cluster in which one loop has been changed. -/
theorem loops_setLoop (cluster : Cluster ι) (loop other : ι) (member : Member) :
    (cluster.setLoop loop member).loops other =
      if other = loop then member else cluster.loops other := rfl

/-- The loop that has been changed. -/
theorem loops_setLoop_self {loop : ι} {member : Member} :
    (cluster.setLoop loop member).loops loop = member := if_pos rfl

/-- Every other loop is as it was. -/
theorem loops_setLoop_of_ne {loop other : ι} {member : Member} (apart : other ≠ loop) :
    (cluster.setLoop loop member).loops other = cluster.loops other := if_neg apart

/-- A loop that goes on with an event that it hears keeps all identifiers. -/
theorem Enrolled.turn (enrolled : cluster.Enrolled) {loop : ι} {event : WorkerLoop.Event}
    (hears : (cluster.loops loop).Hears event) : (cluster.turn crew loop event).Enrolled := by
  refine enrolled.keep enrolled.sound (fun _ => id) fun other worker => ?_
  rw [Cluster.turn, loops_setLoop]
  split
  · rename_i same
    subst same
    exact Member.id?_turn hears
  · exact id

/-- A call succeeds with the answer of the store. -/
theorem result_eq_ok {α : Type} {ended : CallEnd α} {overran : Error} {value : α}
    (succeeds : ended.result overran = .ok value) : ended = .answered value := by
  cases ended with
  | answered answer =>
    obtain rfl := Except.ok.inj succeeds
    rfl
  | refused | overran => contradiction

/-- A loop that registers gets an identifier that no other loop has. -/
theorem Enrolled.register (enrolled : cluster.Enrolled) {after : Cluster ι} {loop : ι}
    {fresh : ResourceId} (sound : after.ledger.store.Sound)
    (kept : ∀ worker, cluster.ledger.store.workers.contains worker →
      after.ledger.store.workers.contains worker)
    (new : ¬ cluster.ledger.store.workers.contains fresh)
    (others : ∀ other, other ≠ loop → after.loops other = cluster.loops other)
    (named : ∀ worker, (after.loops loop).id? = some worker →
      worker = fresh ∧ after.ledger.store.workers.contains fresh) : after.Enrolled := by
  have alone : ∀ other worker, other ≠ loop → (after.loops other).id? = some worker →
      cluster.ledger.store.workers.contains worker ∧ worker ≠ fresh := by
    intro other worker apart same
    rw [others other apart] at same
    have present := enrolled.registered other worker same
    exact ⟨present, fun equal => new (equal ▸ present)⟩
  refine ⟨sound, fun other worker same => ?_, fun first second worker one two => ?_⟩
  · by_cases own : other = loop
    · subst own
      obtain ⟨rfl, present⟩ := named worker same
      exact present
    · exact kept worker (alone other worker own same).1
  · by_cases own : first = loop
    · subst own
      by_cases also : second = first
      · exact also.symm
      · exact absurd (named worker one).1 (alone second worker also two).2
    · by_cases also : second = loop
      · subst also
        exact absurd (named worker two).1 (alone first worker own one).2
      · rw [others first own] at one
        rw [others second also] at two
        exact enrolled.distinct first second worker one two

omit [DecidableEq ι] in
/-- What a call leaves of the store keeps it sound and its workers registered. -/
theorem Enrolled.performed (enrolled : cluster.Enrolled) (request : StoreCall) (now : Instant)
    (fresh : ResourceId) :
    (cluster.ledger.perform request now fresh).2.store.Sound ∧
      ∀ worker, cluster.ledger.store.workers.contains worker →
        (cluster.ledger.perform request now fresh).2.store.workers.contains worker :=
  ⟨Ledger.sound_operate enrolled.sound (.call request now fresh),
    (Ledger.perform_continues enrolled.sound.keyed request now fresh).registered⟩

/-- A loop whose call takes effect leaves different registered identifiers. -/
theorem Enrolled.land (enrolled : cluster.Enrolled) {loop : ι} {now : Instant}
    {fresh : ResourceId} {request : StoreCall} {event : CallEnd request.Answer → WorkerLoop.Event}
    {ended : CallEnd request.Answer}
    (asks : (cluster.loops loop).phase.Asks (crew.settings loop) request event)
    (new : mayTake cluster.ledger.store fresh request)
    (ends : CallEnd.ofResult? (cluster.ledger.perform request now fresh).1 = some ended) :
    Enrolled ({ cluster with ledger := (cluster.ledger.perform request now fresh).2 }.setLoop loop
      ((cluster.loops loop).land cluster.ledger (event ended))) := by
  obtain ⟨sound, kept⟩ := enrolled.performed request now fresh
  have others : ∀ other, other ≠ loop → ({ cluster with
      ledger := (cluster.ledger.perform request now fresh).2 }.setLoop loop
        ((cluster.loops loop).land cluster.ledger (event ended))).loops other =
      cluster.loops other := fun other apart => loops_setLoop_of_ne apart
  by_cases registers : ∃ record, event ended = .registered (.ok record)
  · obtain ⟨record, told⟩ := registers
    generalize standing : (cluster.loops loop).phase = phase at asks
    cases asks with
    | claim | report => contradiction
    | register overran =>
      obtain rfl := result_eq_ok (WorkerLoop.Event.registered.inj told)
      have absent : ¬ cluster.ledger.store.workers.contains fresh := by
        simp only [mayTake, Bool.and_eq_true, Bool.not_eq_true'] at new
        simp [new.2]
      have answered : (cluster.ledger.perform
          (.register (crew.settings loop).hostname) now fresh).1 = .ok record :=
        CallEnd.ofResult?_answered ends
      obtain ⟨same, present⟩ := Ledger.perform_registered answered
      refine enrolled.register sound kept absent others fun worker named => ?_
      rw [loops_setLoop_self] at named
      have own : record.id = worker := by
        simpa [Member.id?, Member.land, standing, CallEnd.result] using named
      exact ⟨own.symm.trans same, present⟩
  · refine enrolled.keep sound kept fun other worker => ?_
    rw [loops_setLoop]
    split
    · rename_i same
      subst same
      intro named
      obtain before | ⟨-, record, told, -⟩ := Member.id?_land named
      · exact before
      · exact absurd ⟨record, told⟩ registers
    · exact id

/-- Loops keep different registered identifiers whatever happens. -/
theorem Enrolled.step (enrolled : cluster.Enrolled) (action : Action ι) :
    (cluster.step crew action).Enrolled := by
  apply step_induction
  intro after move
  cases move with
  | still => exact enrolled
  | landed asking asks new ends => exact enrolled.land asks new ends
  | @broken loop now fresh request event asking asks stopped =>
    obtain ⟨sound, kept⟩ := enrolled.performed request now fresh
    refine enrolled.keep sound kept fun other worker => ?_
    rw [loops_setLoop]
    split
    · rename_i same
      subst same
      exact Member.id?_broken
    · exact id
  | delivered answered => exact enrolled.turn (hears_answer answered)
  | refused asking failure => exact enrolled.turn (hears_failure failure)
  | lost failure => exact enrolled.turn (hears_failure failure)
  | happened asking inside => exact enrolled.turn (hears_local inside)
  | cancelled loop =>
    refine enrolled.keep enrolled.sound (fun _ => id) fun other worker => ?_
    rw [loops_setLoop]
    split
    · rename_i same
      subst same
      exact Member.id?_cancel
    · exact id
  | entered | spoiled | published =>
    exact enrolled.keep enrolled.sound (fun _ => id) fun _ _ => id
  | visited stands new ended =>
    obtain ⟨sound, kept⟩ := enrolled.performed _ _ _
    exact enrolled.keep sound kept fun _ _ => id
  | switched available => exact enrolled.keep enrolled.sound (fun _ => id) fun _ _ => id

end Cluster

end JobDispatch
