import JobDispatch.Proofs.Cluster.Basic
import JobDispatch.Proofs.Store.Staff
import JobDispatch.Proofs.Time.Elapsed
import JobDispatch.Proofs.Worker.Shift
import JobDispatch.Time.Ticker

/-!
# A worker at work stays online

From its registration to the end of its shift a worker sends heartbeats beside its loop, whatever
the loop waits for and whether or not it is cancelled. The registration counts as the first
heartbeat, and the ticker fires once in each interval. The clock of the store shows the time that
has passed since the registration, heartbeats take effect when the ticker fires, and anybody may
call the store at any time between.

At each moment the ticker is due no later than an interval after the last heartbeat, and it is not
overdue. So the last heartbeat is never older than an interval, and no sweep with a threshold of at
least this interval finds the worker stale.
-/

namespace JobDispatch.WorkerLoop

/-- The loop has ended, or has panicked. -/
def Phase.hasEnded : Phase → Bool
  | .stopped _ | .crashed => true
  | _ => false

/-- A worker between its registration and the end of its shift. -/
structure Presence where
  /-- Its loop. -/
  shift : Shift
  /-- Its heartbeats. -/
  ticker : Ticker
  /-- The store. -/
  store : Store
  /-- The nanoseconds that have passed since the registration. -/
  time : Nat

namespace Presence

/-- Something that happens while a worker is present. -/
inductive Move
  /-- Time passes. -/
  | pass (span : Nat)
  /-- The ticker fires, and the heartbeat takes effect. -/
  | beat
  /-- The loop gets a reply. -/
  | answer (reply : Reply)
  /-- The loop is cancelled. -/
  | cancel
  /-- Somebody's call takes effect. -/
  | call (request : StoreCall) (fresh : ResourceId)
  /-- The store answers from now on, or it does not. -/
  | setAvailable (available : Bool)

/-- If this is a sweep, its threshold is no shorter than an interval. -/
def Move.Allows (interval : Duration) : Move → Prop
  | .call (.markStaleOffline threshold) _ => interval ≤ threshold
  | _ => True

instance (interval : Duration) (move : Move) : Decidable (move.Allows interval) := by
  unfold Move.Allows
  split <;> infer_instance

variable (settings : Settings) (origin : Instant) (worker : ResourceId)

/-- A worker registers under an identifier when the clock shows an instant. The log of its process
takes the lines of the loop or does not, and the loop may have been cancelled before. -/
def enter? (logged cancelled : Bool) (store : Store) : Option Presence := do
  let ticker ← Ticker.start? 0 settings.heartbeatInterval
  match (StoreCall.register settings.hostname).run origin worker store with
  | (.ok record, store) =>
    let phase := Phase.next settings logged cancelled .registering (.registered (.ok record))
    return ⟨⟨phase, 0, cancelled, cancelled, logged⟩, ticker, store, 0⟩
  | (.error _, _) => none

/-- How a call ends that takes effect now, and the store after it. -/
def perform? (presence : Presence) (request : StoreCall) (fresh : ResourceId) :
    Option (Except (Fault StoreError) request.Answer × Store) :=
  (origin.add? presence.time).map fun now => request.run now fresh presence.store

/-- What comes of a move, if it is possible. No time passes beyond the next heartbeat or after the
end of the shift. -/
def step? (presence : Presence) : Move → Option Presence
  | .pass span =>
    if ¬ presence.shift.phase.hasEnded ∧
        presence.time + span ≤ presence.ticker.due * 1000000 then
      some { presence with time := presence.time + span }
    else none
  | .beat =>
    if ¬ presence.shift.phase.hasEnded ∧ presence.ticker.due * 1000000 ≤ presence.time then
      match presence.perform? origin (.heartbeat worker) worker with
      | some (.ok _, store) =>
        some { presence with
          store
          ticker := presence.ticker.fire (presence.time / 1000000) }
      | _ => none
    else none
  | .answer reply =>
    (presence.shift.answer? settings reply presence.time).map fun (_, shift) =>
      { presence with shift }
  | .cancel => some { presence with shift := { presence.shift with cancelled := true } }
  | .call request fresh =>
    if Cluster.mayTake presence.store fresh request then
      (presence.perform? origin request fresh).map fun (_, store) => { presence with store }
    else none
  | .setAvailable available =>
    some { presence with store := { presence.store with available } }

/-- What comes of some moves. A move that is not possible changes nothing. -/
def after (presence : Presence) (moves : List Move) : Presence :=
  moves.foldl (fun presence move => (presence.step? settings origin worker move).getD presence)
    presence

/-- A worker is online, and no sweep with a threshold of an interval or more finds it stale. -/
structure Attends (presence : Presence) : Prop where
  /-- It is online. -/
  online : ∃ record, presence.store.workers.get? worker = some record ∧ record.status = .online
  /-- Its last heartbeat is not too old. -/
  timely : ∀ record now threshold, presence.store.workers.get? worker = some record →
    origin.add? presence.time = some now → settings.heartbeatInterval ≤ threshold →
    record.isStale now threshold = false
  /-- A sweep does not name it and leaves it online. -/
  spared : ∀ threshold now fresh lost store, settings.heartbeatInterval ≤ threshold →
    origin.add? presence.time = some now →
    (StoreCall.markStaleOffline threshold).run now fresh presence.store = (.ok lost, store) →
    worker ∉ lost ∧ ∃ record, store.workers.get? worker = some record ∧ record.status = .online
  /-- When a heartbeat is due it can take effect, as long as the store answers. -/
  heeded : presence.store.available → (origin.add? presence.time).isSome →
    presence.shift.phase.hasEnded = false → presence.ticker.due * 1000000 ≤ presence.time →
    (presence.step? settings origin worker .beat).isSome

variable {settings : Settings} {origin : Instant} {worker : ResourceId} {interval : Duration}
  {presence : Presence}

/-- A worker has been heard of at a time. -/
structure HeardAt (origin : Instant) (worker : ResourceId) (store : Store) (beat : Nat)
    (record : Worker) : Prop where
  /-- It is stored. -/
  stored : store.workers.get? worker = some record
  /-- It is online. -/
  online : record.status = .online
  /-- The clock has shown this time. -/
  shown : origin.add? beat = some record.lastHeartbeat

/-- The heartbeats of a worker come in time. -/
structure Beats (interval : Duration) (origin : Instant) (worker : ResourceId)
    (presence : Presence) : Prop where
  /-- Every worker is stored under its own identifier. -/
  staffed : presence.store.Staffed
  /-- The ticker fires once in each interval. -/
  period : presence.ticker.period = interval
  /-- It is due no later than an interval after the last heartbeat. -/
  heard : ∃ beat record, HeardAt origin worker presence.store beat record ∧ beat ≤ presence.time ∧
    presence.ticker.due * 1000000 ≤ beat + interval.nanos
  /-- It is not overdue. -/
  punctual : presence.time ≤ presence.ticker.due * 1000000

/-- A heartbeat that is no older than an interval is not stale. -/
theorem not_stale {record : Worker} {beat time : Nat} {now : Instant} {threshold : Duration}
    (shown : origin.add? beat = some record.lastHeartbeat) (shows : origin.add? time = some now)
    (order : beat ≤ time) (recent : time ≤ beat + interval.nanos) (long : interval ≤ threshold) :
    record.isStale now threshold = false := by
  have passed := Instant.since_reading_le shown shows order
  have longest := Instant.since_le_longest now record.lastHeartbeat
  have long : interval.nanos ≤ threshold.nanos := long
  rw [Worker.isStale, Worker.longestSpan]
  apply decide_eq_false
  omega

/-- A ticker that fires when it is due is set to no later than an interval from now, and not to a
time that has passed. -/
theorem due_fire {ticker : Ticker} {time millis : Nat} (punctual : time = ticker.due * 1000000)
    (whole : ticker.period.nanos = millis * 1000000) :
    time ≤ (ticker.fire (time / 1000000)).due * 1000000 ∧
      (ticker.fire (time / 1000000)).due * 1000000 ≤ time + ticker.period.nanos := by
  have now : time / 1000000 = ticker.due := by omega
  have milliseconds : ticker.period.millisUp = millis := by
    rw [Duration.millisUp, whole]
    omega
  have seconds : ticker.period.seconds = millis / 1000 := by
    rw [Duration.seconds, whole, nanosPerSecond]
    omega
  have set : (ticker.fire ticker.due).due = Timer.due ticker.due ticker.period := by
    rw [Ticker.fire, ite_self]
  have forward : ticker.due ≤ Timer.due ticker.due ticker.period := Timer.le_due _ _
  have soon : Timer.due ticker.due ticker.period ≤ ticker.due + millis := by
    rw [Timer.due, milliseconds, seconds, Timer.thirtyYears]
    split <;> omega
  rw [now, set, whole, punctual]
  generalize Timer.due ticker.due ticker.period = next at forward soon ⊢
  omega

/-- What is done to a worker keeps it heard of: its record stays, or is that of a heartbeat now. -/
theorem HeardAt.of_record {store after : Store} {beat time : Nat} {record changed : Worker}
    {now : Instant} (heard : HeardAt origin worker store beat record)
    (stored : after.workers.get? worker = some changed)
    (shows : origin.add? time = some now)
    (same : changed = record ∨ changed = record.heartbeat now) (order : beat ≤ time) :
    ∃ last record, HeardAt origin worker after last record ∧ beat ≤ last ∧ last ≤ time := by
  obtain rfl | rfl := same
  · exact ⟨beat, changed, ⟨stored, heard.online, heard.shown⟩, Nat.le_refl _, order⟩
  · exact ⟨time, record.heartbeat now, ⟨stored, rfl, shows⟩, order, Nat.le_refl _⟩

/-- A call leaves the record of a worker that is not stale as it is, or records a heartbeat. -/
theorem record_run {request : StoreCall} {now : Instant} {fresh : ResourceId} {store : Store}
    {record : Worker} (stored : store.workers.get? worker = some record)
    (new : Cluster.mayTake store fresh request)
    (spares : ∀ threshold, request = .markStaleOffline threshold →
      record.isStale now threshold = false) :
    ∃ changed, (request.run now fresh store).2.workers.get? worker = some changed ∧
      (changed = record ∨ changed = record.heartbeat now) := by
  by_cases about : request.isAboutWorkers = false
  · rw [StoreCall.workers_of_run about]
    exact ⟨record, stored, .inl rfl⟩
  cases request with
  | register hostname =>
    have apart : worker ≠ fresh := by
      rintro rfl
      have present : store.workers.contains worker := Table.contains_iff.mpr ⟨record, stored⟩
      simp [Cluster.mayTake, present] at new
    rw [StoreCall.run_register]
    split
    · exact ⟨record, stored, .inl rfl⟩
    · split
      · exact ⟨record, by rw [Table.get?_insert, if_neg apart, stored], .inl rfl⟩
      · exact ⟨record, stored, .inl rfl⟩
  | heartbeat id =>
    rw [StoreCall.run_heartbeat]
    split
    · split
      · exact ⟨record, stored, .inl rfl⟩
      · rename_i other found
        by_cases named : worker = id
        · subst named
          obtain rfl := Option.some.inj (found.symm.trans stored)
          exact ⟨_, by rw [Table.get?_replace, if_pos rfl, found]; rfl, .inr rfl⟩
        · exact ⟨record, by rw [Table.get?_replace, if_neg named, stored], .inl rfl⟩
    · exact ⟨record, stored, .inl rfl⟩
  | markStaleOffline threshold =>
    rw [StoreCall.run_markStaleOffline]
    split
    · have kept : Store.demoted now threshold record = record := by
        rw [Store.demoted, Store.isLost, spares threshold rfl, Bool.and_false]
        rfl
      exact ⟨record, by rw [Table.get?_map, stored, Option.map_some, kept], .inl rfl⟩
    · exact ⟨record, stored, .inl rfl⟩
  | _ => exact absurd rfl about

/-- A worker that has registered is stored as it is answered, and heard of. -/
theorem heard_register {hostname : String} {store after : Store} {record : Worker}
    (registered : (StoreCall.register hostname).run origin worker store = (.ok record, after)) :
    HeardAt origin worker after 0 record := by
  rw [StoreCall.run_register] at registered
  split at registered
  · cases (Prod.mk.inj registered).1
  · rename_i made accepted
    split at registered
    · obtain ⟨answered, rfl⟩ := Prod.mk.inj registered
      obtain rfl := Except.ok.inj answered
      obtain ⟨name, -, same⟩ := bind_eq_ok_iff.mp accepted
      obtain rfl := Except.ok.inj same
      refine ⟨?_, rfl, Instant.add?_zero origin⟩
      rw [Table.get?_insert, if_pos rfl]
    · cases (Prod.mk.inj registered).1

/-- A worker whose heartbeat has taken effect has been heard of now. -/
theorem heard_heartbeat {time : Nat} {now : Instant} {fresh : ResourceId} {store after : Store}
    {record : Worker} (shows : origin.add? time = some now)
    (ran : (StoreCall.heartbeat worker).run now fresh store = (.ok record, after)) :
    HeardAt origin worker after time record := by
  rw [StoreCall.run_heartbeat] at ran
  split at ran
  · split at ran
    · cases (Prod.mk.inj ran).1
    · rename_i before stored
      obtain ⟨answered, rfl⟩ := Prod.mk.inj ran
      obtain rfl := Except.ok.inj answered
      refine ⟨?_, rfl, shows⟩
      rw [Table.get?_replace, if_pos rfl, stored]
      rfl
  · cases (Prod.mk.inj ran).1

/-- The heartbeats of a worker that has registered come in time. -/
theorem beats_enter {millis : Nat} (whole : settings.heartbeatInterval.nanos = millis * 1000000)
    {logged cancelled : Bool} {store : Store} (staffed : store.Staffed)
    (entered : enter? settings origin worker logged cancelled store = some presence) :
    Beats settings.heartbeatInterval origin worker presence := by
  obtain ⟨ticker, started, registers⟩ := Option.bind_eq_some_iff.mp entered
  obtain ⟨-, same⟩ := Option.ite_none_left_eq_some.mp started
  obtain rfl := Option.some.inj same
  have due : ((Ticker.mk settings.heartbeatInterval 0).fire (0 / 1000000)).due * 1000000 ≤
      0 + settings.heartbeatInterval.nanos := (due_fire (Nat.zero_mul _).symm whole).2
  rw [Nat.zero_div] at due
  split at registers
  · rename_i record after registered
    obtain rfl := Option.some.inj registers
    have kept : ((StoreCall.register settings.hostname).run origin worker store).2.Staffed :=
      StoreCall.staffed_run staffed
    rw [registered] at kept
    exact ⟨kept, rfl, ⟨0, record, heard_register registered, Nat.le_refl _, due⟩, Nat.zero_le _⟩
  · contradiction

/-- The heartbeats of a worker come in time, whatever happens. -/
theorem Beats.step {millis : Nat} (whole : interval.nanos = millis * 1000000)
    (beats : Beats interval origin worker presence) {move : Move} (fair : move.Allows interval)
    {next : Presence} (steps : presence.step? settings origin worker move = some next) :
    Beats interval origin worker next := by
  obtain ⟨beat, record, heard, order, due⟩ := beats.heard
  cases move with
  | pass span =>
    obtain ⟨⟨-, inTime⟩, same⟩ := Option.ite_none_right_eq_some.mp steps
    obtain rfl := Option.some.inj same
    exact ⟨beats.staffed, beats.period, ⟨beat, record, heard, by dsimp only; omega, due⟩, inTime⟩
  | beat =>
    obtain ⟨⟨-, isDue⟩, fires⟩ := Option.ite_none_right_eq_some.mp steps
    split at fires
    · rename_i answer store performed
      obtain ⟨now, shows, ran⟩ := Option.map_eq_some_iff.mp performed
      obtain rfl := Option.some.inj fires
      have kept : ((StoreCall.heartbeat worker).run now worker presence.store).2.Staffed :=
        StoreCall.staffed_run beats.staffed
      rw [ran] at kept
      -- Neither late nor early, the ticker fires when it is due.
      have punctual := Nat.le_antisymm beats.punctual isDue
      obtain ⟨later, soon⟩ := due_fire punctual (beats.period ▸ whole)
      rw [beats.period] at soon
      exact ⟨kept, beats.period, ⟨presence.time, answer, heard_heartbeat shows ran,
        Nat.le_refl _, soon⟩, later⟩
    · contradiction
  | answer reply =>
    obtain ⟨⟨call, shift⟩, -, rfl⟩ := Option.map_eq_some_iff.mp steps
    exact ⟨beats.staffed, beats.period, ⟨beat, record, heard, order, due⟩, beats.punctual⟩
  | cancel =>
    obtain rfl := Option.some.inj steps
    exact ⟨beats.staffed, beats.period, ⟨beat, record, heard, order, due⟩, beats.punctual⟩
  | setAvailable available =>
    obtain rfl := Option.some.inj steps
    exact ⟨beats.staffed, beats.period, ⟨beat, record, ⟨heard.stored, heard.online, heard.shown⟩,
      order, due⟩, beats.punctual⟩
  | call request fresh =>
    obtain ⟨new, performs⟩ := Option.ite_none_right_eq_some.mp steps
    obtain ⟨⟨result, store⟩, performed, rfl⟩ := Option.map_eq_some_iff.mp performs
    obtain ⟨now, shows, ran⟩ := Option.map_eq_some_iff.mp performed
    have kept : (request.run now fresh presence.store).2.Staffed :=
      StoreCall.staffed_run beats.staffed
    have recent := Nat.le_trans beats.punctual due
    have spares : ∀ threshold, request = .markStaleOffline threshold →
        record.isStale now threshold = false := by
      rintro threshold rfl
      exact not_stale heard.shown shows order recent fair
    obtain ⟨changed, stored, same⟩ := record_run heard.stored new spares
    rw [ran] at kept stored
    obtain ⟨last, again, heardAgain, after, before⟩ := heard.of_record stored shows same order
    exact ⟨kept, beats.period, ⟨last, again, heardAgain, before, by dsimp only; omega⟩,
      beats.punctual⟩

/-- The heartbeats of a worker come in time after any moves. -/
theorem Beats.after {millis : Nat} (whole : settings.heartbeatInterval.nanos = millis * 1000000)
    (beats : Beats settings.heartbeatInterval origin worker presence) (moves : List Move)
    (fair : ∀ move ∈ moves, move.Allows settings.heartbeatInterval) :
    Beats settings.heartbeatInterval origin worker
      (presence.after settings origin worker moves) := by
  induction moves generalizing presence with
  | nil => exact beats
  | cons move rest ih =>
    obtain ⟨here, later⟩ := List.forall_mem_cons.mp fair
    have next : Beats settings.heartbeatInterval origin worker
        ((presence.step? settings origin worker move).getD presence) := by
      cases steps : presence.step? settings origin worker move with
      | none => exact beats
      | some next => exact beats.step whole here steps
    exact ih next later

/-- A heartbeat can take effect while the store answers. -/
theorem HeardAt.run_heartbeat {store : Store} {beat : Nat} {record : Worker}
    (heard : HeardAt origin worker store beat record) (available : store.available)
    (now : Instant) (fresh : ResourceId) :
    (StoreCall.heartbeat worker).run now fresh store =
      (.ok (record.heartbeat now),
        { store with workers := store.workers.replace worker (record.heartbeat now) }) := by
  rw [StoreCall.run_heartbeat, if_pos available, heard.stored]

/-- A worker whose heartbeats come in time is online, and no sweep finds it stale. -/
theorem Beats.attends (beats : Beats settings.heartbeatInterval origin worker presence) :
    Attends settings origin worker presence := by
  obtain ⟨beat, record, heard, order, due⟩ := beats.heard
  have recent := Nat.le_trans beats.punctual due
  refine ⟨⟨record, heard.stored, heard.online⟩, ?timely, ?spared, ?heeded⟩
  case timely =>
    intro found now threshold stored shows long
    obtain rfl := Option.some.inj (heard.stored.symm.trans stored)
    exact not_stale heard.shown shows order recent long
  case spared =>
    intro threshold now fresh lost store long shows swept
    have kept := not_stale heard.shown shows order recent long
    have sweeps := record_run heard.stored (show Cluster.mayTake presence.store fresh
      (.markStaleOffline threshold) from rfl) fun other named => by
        obtain rfl := StoreCall.markStaleOffline.inj named
        exact kept
    rw [swept] at sweeps
    obtain ⟨changed, stored, same⟩ := sweeps
    refine ⟨fun named => ?_, changed, stored, ?_⟩
    · rw [StoreCall.run_markStaleOffline] at swept
      split at swept
      · obtain rfl := Except.ok.inj (Prod.mk.inj swept).1
        obtain ⟨found, stored, -, stale⟩ :=
          ((Store.lost_spec beats.staffed now threshold).2 worker).mp named
        obtain rfl := Option.some.inj (heard.stored.symm.trans stored)
        rw [kept] at stale
        contradiction
      · cases (Prod.mk.inj swept).1
    · obtain rfl | rfl := same
      · exact heard.online
      · rfl
  case heeded =>
    intro available shows going isDue
    obtain ⟨now, shows⟩ := Option.isSome_iff_exists.mp shows
    have performed : presence.perform? origin (.heartbeat worker) worker = some (.ok
        (record.heartbeat now), { presence.store with
          workers := presence.store.workers.replace worker (record.heartbeat now) }) := by
      rw [perform?, shows, Option.map_some, heard.run_heartbeat available]
    simp [step?, going, isDue, performed]

/-- From its registration to the end of its shift a worker is online, and no sweep with a threshold
of an interval or more finds it stale. This holds for every interval of whole milliseconds, however
the loop fares and whenever it is cancelled, and whatever others do meanwhile, with a store that
any operations have led to. -/
theorem attends_after (settings : Settings) {millis : Nat}
    (whole : settings.heartbeatInterval.nanos = millis * 1000000) (operations : List Operation)
    {origin : Instant} {worker : ResourceId} {logged cancelled : Bool} {presence : Presence}
    (entered : enter? settings origin worker logged cancelled
      (Ledger.empty.after operations).store = some presence)
    (moves : List Move) (fair : ∀ move ∈ moves, move.Allows settings.heartbeatInterval) :
    Attends settings origin worker (presence.after settings origin worker moves) := by
  have start := beats_enter whole (Ledger.staffed_after operations) entered
  exact (start.after whole moves fair).attends

/-- A worker claims a job that does not end within its limit. While it reports this it is cancelled,
and the report fails; it is repeated at once, and accepted. A sweep looks at the worker each time
before it is heard of again. -/
def draining : List Move :=
  let job := ResourceId.ofCode 2
  let failure := JobOutcome.failure "job exceeded timeout of 30s"
  let interval := [.pass 5000000000, .call (.markStaleOffline (.ofSeconds 5)) default, .beat]
  [.call (.claimNext (.ofCode 1)) default,
    .answer (.claimed (.ok (some ⟨job, "mail", .null, 0, 1, 30⟩)))] ++
  (List.replicate 6 interval).flatten ++
  [.answer (.ran none), .cancel, .answer (.reported (.error ⟨.timeout, "late"⟩)),
    .answer .noticed] ++
  interval ++
  [.call (.reportOutcome job failure (some (.ofCode 1))) default,
    .answer (.reported (.ok ⟨job, .pending, 1, .requeued⟩)), .answer .noticed]

/-- The submission of a job. -/
def submitting : List Operation := [.call (.create ⟨"mail", .null, 1, 30⟩) .epoch (.ofCode 2)]

/-- A worker is online until a job is drained and its report has been repeated. -/
theorem attends_of_draining :
    let settings := Settings.standard "host"
    let worker := ResourceId.ofCode 1
    let store := (Ledger.empty.after submitting).store
    settings.heartbeatInterval.nanos = 5000 * 1000000 ∧
      (∀ move ∈ draining, move.Allows settings.heartbeatInterval) ∧
      ∃ presence, enter? settings .epoch worker true false store = some presence ∧
        (presence.after settings .epoch worker draining).time = 35000000000 ∧
        (presence.after settings .epoch worker draining).shift.phase.hasEnded = true ∧
        Attends settings .epoch worker (presence.after settings .epoch worker draining) := by
  intro settings worker store
  have whole : settings.heartbeatInterval.nanos = 5000 * 1000000 := by decide
  have fair : ∀ move ∈ draining, move.Allows settings.heartbeatInterval := by decide +kernel
  have runs : (enter? settings .epoch worker true false store).map (fun presence =>
      ((presence.after settings .epoch worker draining).time,
        (presence.after settings .epoch worker draining).shift.phase.hasEnded)) =
      some (35000000000, true) := by decide +kernel
  obtain ⟨presence, entered, ran⟩ := Option.map_eq_some_iff.mp runs
  obtain ⟨time, ended⟩ := Prod.mk.inj ran
  exact ⟨whole, fair, presence, entered, time, ended,
    attends_after settings whole submitting entered draining fair⟩

end Presence

end JobDispatch.WorkerLoop
