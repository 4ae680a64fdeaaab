import JobDispatch.Proofs.WakeQueue.Schedule
import Mathlib

/-!
# The wake queue as a channel

A wake queue keeps its tokens apart from the permit that a push leaves when it wakes nobody, so a
permit may be left of a token that is gone, and several tokens may come with one permit. None of
this can be seen from outside: a session of waits and pushes goes as in an ideal channel, which has
no permits and hands each token to whoever has waited longest.
-/

namespace JobDispatch.WakeQueue

/-- An ideal channel: tokens leave it in the order in which they come, and those who wait are served
in the order in which they come. -/
structure Channel where
  /-- The tokens that nobody has received, oldest first. -/
  queued : List String
  /-- The waits that are blocked, the longest blocked first. -/
  blocked : List Nat
  /-- The waits that have ended, the latest first. -/
  ended : List (Nat × Received)
  /-- The waits that have panicked, the latest first. -/
  crashed : List Nat
deriving DecidableEq

namespace Channel

/-- The channel before the first moment. -/
def start : Channel := ⟨[], [], [], []⟩

/-- What happens at a moment. A wait that begins receives the oldest token at once, and blocks when
there is none; a push is received at once by the wait that has been blocked longest, and stays
queued when there is none; a wait that is still blocked at its deadline ends without a token. A wait
that panics touches nothing. -/
def step (channel : Channel) (time : Nat) : Moment → Channel
  | .begin wait =>
    match channel.queued with
    | token :: rest =>
      { channel with queued := rest, ended := (wait, ⟨some token, time⟩) :: channel.ended }
    | [] => { channel with blocked := channel.blocked ++ [wait] }
  | .crash wait => { channel with crashed := wait :: channel.crashed }
  | .push token =>
    match channel.blocked with
    | wait :: others =>
      { channel with blocked := others, ended := (wait, ⟨some token, time⟩) :: channel.ended }
    | [] => { channel with queued := channel.queued ++ [token] }
  | .expire wait =>
    if wait ∈ channel.blocked then
      { channel with
        blocked := channel.blocked.filter (· ≠ wait)
        ended := (wait, ⟨none, time⟩) :: channel.ended }
    else channel

/-- The channel after some moments. -/
def after (channel : Channel) (moments : List (Nat × Moment)) : Channel :=
  moments.foldl (fun channel (time, moment) => channel.step time moment) channel

end Channel

/-- What is received lies within the time of a wait, and at its end when it is nothing. -/
structure Received.OnTime (received : Received) (wait : Wait) : Prop where
  /-- The clock can count to the end of the wait. -/
  counted : wait.IsCounted
  /-- The wait has begun. -/
  start : wait.start ≤ received.time
  /-- The wait has not lasted too long. -/
  due : received.time ≤ wait.due
  /-- A wait that has received no token has lasted as long as it may. -/
  none : received.token = none → received.time = wait.due

/-- The tokens that waits have received, in the order of their delivery. -/
def delivered (ended : List (Nat × Received)) : List String :=
  ended.reverse.filterMap (·.2.token)

/-- What a wait receives is delivered after all that was delivered before. -/
theorem delivered_cons (place : Nat) (received : Received) (ended : List (Nat × Received)) :
    delivered ((place, received) :: ended) = delivered ended ++ received.token.toList := by
  obtain ⟨_ | token, happened⟩ := received <;> simp [delivered]

namespace Session

/-- What can be seen of a session. -/
def channel (session : Session) : Channel :=
  ⟨session.queue.tokens, session.queue.waiters, session.ended, session.crashed⟩

/-- No wait is blocked while a token is queued. -/
def IsAwake (session : Session) : Prop :=
  session.queue.tokens = [] ∨ session.queue.waiters = []

/-- What holds of a session after the first of its moments. -/
structure Fits (waits : List Wait) (first : List (Nat × Moment)) (session : Session) : Prop where
  /-- No wait is blocked while a token is queued. -/
  awake : session.IsAwake
  /-- Each wait that has begun has ended or is blocked. -/
  begun : (session.ended.map Prod.fst ++ session.queue.waiters).Perm (begun first)
  /-- Each wait that has panicked is known as such. -/
  crashed : session.crashed.Perm (crashes first)
  /-- A wait whose deadline has passed has ended. -/
  expired : ∀ time place, (time, .expire place) ∈ first → place ∈ session.ended.map Prod.fst
  /-- Waits have ended within their times. -/
  onTime : ∀ entry ∈ session.ended, ∃ wait, waits[entry.1]? = some wait ∧ entry.2.OnTime wait
  /-- The tokens that have come are those that have been received and those that are left. -/
  conserved : delivered session.ended ++ session.queue.tokens = (pushed first).map Push.token

variable {session : Session} {time place : Nat}

/-- A wait that finds tokens ends with the oldest. -/
theorem look_cons {token : String} {rest : List String} {permit : Bool} {waiters : List Nat}
    {ended : List (Nat × Received)} {crashed : List Nat} :
    look ⟨⟨token :: rest, permit, waiters⟩, ended, crashed⟩ time place =
      ⟨⟨rest, permit, waiters⟩, (place, ⟨some token, time⟩) :: ended, crashed⟩ := by
  rw [look, seek_cons]

/-- A wait that finds no token blocks. -/
theorem look_nil {permit : Bool} {waiters : List Nat} {ended : List (Nat × Received)}
    {crashed : List Nat} :
    look ⟨⟨[], permit, waiters⟩, ended, crashed⟩ time place =
      ⟨⟨[], false, waiters ++ [place]⟩, ended, crashed⟩ := by
  rw [look, seek_nil]

/-- A wait has ended when there is a record of its end. -/
theorem received?_isSome_iff : (session.received? place).isSome ↔
    place ∈ session.ended.map Prod.fst := by
  simp [received?]

section

variable {waits : List Wait} {pushes : List Push} {first rest : List (Nat × Moment)}
  {moment : Moment}

/-- Earlier moments come before a moment, and later ones after it. -/
theorem precedes_of_split (split : moments waits pushes = first ++ (time, moment) :: rest) :
    (∀ earlier ∈ first, precedes earlier (time, moment)) ∧
      ∀ later ∈ rest, precedes (time, moment) later := by
  have sorted := pairwise_moments waits pushes
  rw [split, List.pairwise_append, List.pairwise_cons] at sorted
  exact ⟨fun earlier member => sorted.2.2 earlier member _ List.mem_cons_self, sorted.2.1.1⟩

/-- A wait that expires has begun before. -/
theorem begun_of_expire (split : moments waits pushes = first ++ (time, .expire place) :: rest) :
    place ∈ WakeQueue.begun first := by
  obtain ⟨-, after⟩ := precedes_of_split split
  have expires : (time, Moment.expire place) ∈ moments waits pushes :=
    split ▸ List.mem_append_right _ List.mem_cons_self
  obtain ⟨wait, known, counted, rfl⟩ := mem_moments_expire.mp expires
  have begins : (wait.start, Moment.begin place) ∈ moments waits pushes :=
    mem_moments_begin.mpr ⟨wait, known, counted, rfl⟩
  rw [split] at begins
  refine mem_begun_iff.mpr ⟨_, (List.mem_append.mp begins).resolve_right fun later => ?_⟩
  obtain now | later := List.mem_cons.mp later
  · exact absurd (Prod.mk.inj now).2 nofun
  · have ordered := wait.start_le_due
    have beginsAfter := precedes_iff.mp (after _ later)
    simp only [Moment.rank] at beginsAfter
    omega

/-- No wait has both ended and been blocked, or ended twice. -/
theorem Fits.distinct (fits : Fits waits first session)
    (split : moments waits pushes = first ++ rest) :
    (session.ended.map Prod.fst ++ session.queue.waiters).Nodup := by
  have once : (WakeQueue.begun (moments waits pushes)).Nodup :=
    (List.nodup_append.mp ((begun_crashes_moments waits pushes).nodup_iff.mpr List.nodup_range)).1
  rw [split, WakeQueue.begun, List.filterMap_append, List.nodup_append] at once
  exact fits.begun.nodup_iff.mpr once.1

/-- A wait that is blocked when a moment comes has begun, and its deadline has not passed. -/
theorem Fits.blocked_onTime (fits : Fits waits first session)
    (split : moments waits pushes = first ++ (time, moment) :: rest)
    (blocked : place ∈ session.queue.waiters) :
    ∃ wait, waits[place]? = some wait ∧ wait.IsCounted ∧ wait.start ≤ time ∧ time ≤ wait.due := by
  obtain ⟨before, after⟩ := precedes_of_split split
  obtain ⟨start, began⟩ :=
    mem_begun_iff.mp (fits.begun.subset (List.mem_append_right _ blocked))
  have beganBefore := precedes_iff.mp (before _ began)
  have known : (start, Moment.begin place) ∈ moments waits pushes :=
    split ▸ List.mem_append_left _ began
  obtain ⟨wait, found, counted, rfl⟩ := mem_moments_begin.mp known
  refine ⟨wait, found, counted, by omega, ?_⟩
  -- Its end is none of the earlier moments, because it would have ended by then.
  have expires : (wait.due, Moment.expire place) ∈ moments waits pushes :=
    mem_moments_expire.mpr ⟨wait, found, counted, rfl⟩
  rw [split] at expires
  obtain earlier | later := List.mem_append.mp expires
  · have apart := List.nodup_append.mp (fits.distinct split)
    exact absurd rfl (apart.2.2 place (fits.expired _ _ earlier) place blocked)
  · obtain now | later := List.mem_cons.mp later
    · exact Nat.le_of_eq (Prod.mk.inj now).1.symm
    · have expiresAfter := precedes_iff.mp (after _ later)
      omega

/-- A wait that begins fits in. -/
theorem Fits.begin (fits : Fits waits first session)
    (split : moments waits pushes = first ++ (time, .begin place) :: rest) :
    Fits waits (first ++ [(time, .begin place)]) (session.step time (.begin place)) ∧
      (session.step time (.begin place)).channel = session.channel.step time (.begin place) := by
  have known : (time, Moment.begin place) ∈ moments waits pushes :=
    split ▸ List.mem_append_right _ List.mem_cons_self
  obtain ⟨wait, found, counted, rfl⟩ := mem_moments_begin.mp known
  obtain ⟨⟨tokens, permit, waiters⟩, ended, panicked⟩ := session
  obtain ⟨awake, begun, crashed, expired, onTime, conserved⟩ := fits
  have sameCrashed : crashes (first ++ [(wait.start, Moment.begin place)]) = crashes first := by
    simp [crashes, Moment.crashed?]
  rw [step]
  cases tokens with
  | nil =>
    rw [look_nil]
    refine ⟨⟨.inl rfl, ?_, sameCrashed ▸ crashed, by simpa using expired, onTime, ?_⟩, rfl⟩
    · simpa [WakeQueue.begun, ← List.append_assoc, Moment.begun?] using begun.append_right [place]
    · simpa [pushed, Moment.push?] using conserved
  | cons token others =>
    have nobody : waiters = [] := awake.resolve_left (by simp)
    subst nobody
    rw [look_cons]
    refine ⟨⟨.inr rfl, ?_, sameCrashed ▸ crashed, fun time other member => ?_, ?_, ?_⟩, rfl⟩
    · rw [WakeQueue.begun, List.filterMap_append, List.map_cons, List.cons_append]
      exact (begun.cons place).trans (List.perm_append_singleton _ _).symm
    · exact List.mem_cons_of_mem _ (expired time other (by simpa using member))
    · rintro entry (_ | ⟨_, member⟩)
      · exact ⟨wait, found, counted, Nat.le_refl _, wait.start_le_due,
          fun missing => absurd missing (Option.some_ne_none token)⟩
      · exact onTime entry member
    · rw [delivered_cons]
      simpa [pushed, Moment.push?] using conserved

/-- A wait that panics fits in. -/
theorem Fits.crash (fits : Fits waits first session) (time place : Nat) :
    Fits waits (first ++ [(time, .crash place)]) (session.step time (.crash place)) ∧
      (session.step time (.crash place)).channel = session.channel.step time (.crash place) := by
  obtain ⟨awake, begun, crashed, expired, onTime, conserved⟩ := fits
  rw [step]
  refine ⟨⟨awake, ?_, ?_, by simpa using expired, onTime, ?_⟩, rfl⟩
  · simpa [WakeQueue.begun, Moment.begun?] using begun
  · rw [crashes, List.filterMap_append]
    exact (crashed.cons place).trans (List.perm_append_singleton _ _).symm
  · simpa [pushed, Moment.push?] using conserved

/-- A token that comes fits in. -/
theorem Fits.push (fits : Fits waits first session) {token : String}
    (split : moments waits pushes = first ++ (time, .push token) :: rest) :
    Fits waits (first ++ [(time, .push token)]) (session.step time (.push token)) ∧
      (session.step time (.push token)).channel = session.channel.step time (.push token) := by
  have waiting : ∀ place ∈ session.queue.waiters,
      ∃ wait, waits[place]? = some wait ∧ wait.IsCounted ∧ wait.start ≤ time ∧ time ≤ wait.due :=
    fun place blocked => fits.blocked_onTime split blocked
  obtain ⟨⟨tokens, permit, waiters⟩, ended, panicked⟩ := session
  obtain ⟨awake, begun, crashed, expired, onTime, conserved⟩ := fits
  have sameCrashed : crashes (first ++ [(time, Moment.push token)]) = crashes first := by
    simp [crashes, Moment.crashed?]
  cases waiters with
  | nil =>
    have unheard : step ⟨⟨tokens, permit, []⟩, ended, panicked⟩ time (.push token) =
        ⟨⟨tokens ++ [token], true, []⟩, ended, panicked⟩ := rfl
    rw [unheard]
    refine ⟨⟨.inr rfl, ?_, sameCrashed ▸ crashed, by simpa using expired, onTime, ?_⟩, rfl⟩
    · simpa [WakeQueue.begun, Moment.begun?] using begun
    · rw [← List.append_assoc, conserved]
      simp [pushed, Moment.push?]
  | cons waiter others =>
    have nothing : tokens = [] := awake.resolve_right (by simp)
    subst nothing
    have woken : step ⟨⟨[], permit, waiter :: others⟩, ended, panicked⟩ time (.push token) =
        ⟨⟨[], permit, others⟩, (waiter, ⟨some token, time⟩) :: ended, panicked⟩ := look_cons
    obtain ⟨wait, found, counted, begins, expires⟩ := waiting waiter List.mem_cons_self
    rw [woken]
    refine ⟨⟨.inl rfl, ?_, sameCrashed ▸ crashed, fun time other member => ?_, ?_, ?_⟩, rfl⟩
    · have moved := List.perm_middle.symm.trans begun
      simpa [WakeQueue.begun, Moment.begun?] using moved
    · exact List.mem_cons_of_mem _ (expired time other (by simpa using member))
    · rintro entry (_ | ⟨_, member⟩)
      · exact ⟨wait, found, counted, begins, expires,
          fun missing => absurd missing (Option.some_ne_none token)⟩
      · exact onTime entry member
    · rw [delivered_cons]
      simpa [pushed, Moment.push?] using conserved

/-- A deadline fits in. -/
theorem Fits.expire (fits : Fits waits first session)
    (split : moments waits pushes = first ++ (time, .expire place) :: rest) :
    Fits waits (first ++ [(time, .expire place)]) (session.step time (.expire place)) ∧
      (session.step time (.expire place)).channel = session.channel.step time (.expire place) := by
  obtain ⟨wait, found, counted, rfl⟩ := mem_moments_expire.mp
    (split ▸ List.mem_append_right _ List.mem_cons_self :
      (time, Moment.expire place) ∈ moments waits pushes)
  -- It has begun, so that it has either ended or is blocked.
  have either : place ∈ session.ended.map Prod.fst ++ session.queue.waiters :=
    fits.begun.symm.subset (begun_of_expire split)
  have apart := List.nodup_append.mp (fits.distinct split)
  have sameBegun : WakeQueue.begun (first ++ [(wait.due, Moment.expire place)]) =
      WakeQueue.begun first := by simp [WakeQueue.begun, Moment.begun?]
  have sameCrashed : crashes (first ++ [(wait.due, Moment.expire place)]) = crashes first := by
    simp [crashes, Moment.crashed?]
  have samePushed : pushed (first ++ [(wait.due, Moment.expire place)]) = pushed first := by
    simp [pushed, Moment.push?]
  obtain ⟨⟨tokens, permit, waiters⟩, ended, panicked⟩ := session
  obtain ⟨awake, begun, crashed, expired, onTime, conserved⟩ := fits
  rw [step]
  by_cases hasEnded : place ∈ ended.map Prod.fst
  · have unblocked : place ∉ waiters := fun blocked => apart.2.2 place hasEnded place blocked rfl
    rw [if_pos (received?_isSome_iff.mpr hasEnded)]
    refine ⟨⟨awake, sameBegun ▸ begun, sameCrashed ▸ crashed, fun time other member => ?_, onTime,
      samePushed ▸ conserved⟩, (if_neg unblocked).symm⟩
    obtain earlier | now := List.mem_append.mp member
    · exact expired time other earlier
    · obtain ⟨-, same⟩ := Prod.mk.inj (List.mem_singleton.mp now)
      exact Moment.expire.inj same ▸ hasEnded
  · have blocked : place ∈ waiters := (List.mem_append.mp either).resolve_left hasEnded
    have moved : waiters.Perm (place :: waiters.filter (· ≠ place)) := by
      simpa [apart.2.1.erase_eq_filter, bne, beq_eq_decide] using List.perm_cons_erase blocked
    have settles := (moved.append_left (ended.map Prod.fst)).symm.trans begun
    rw [if_neg fun isEnded => hasEnded (received?_isSome_iff.mp isEnded)]
    refine ⟨⟨?_, ?_, sameCrashed ▸ crashed, fun time other member => ?_, ?_, ?_⟩,
      (if_pos blocked).symm⟩
    · exact awake.imp id fun nobody => by rw [leave, nobody, List.filter_nil]
    · rw [sameBegun]
      exact List.perm_middle.symm.trans settles
    · obtain earlier | now := List.mem_append.mp member
      · exact List.mem_cons_of_mem _ (expired time other earlier)
      · obtain ⟨-, same⟩ := Prod.mk.inj (List.mem_singleton.mp now)
        exact Moment.expire.inj same ▸ List.mem_cons_self
    · rintro entry (_ | ⟨_, member⟩)
      · exact ⟨wait, found, counted, wait.start_le_due, Nat.le_refl _, fun _ => rfl⟩
      · exact onTime entry member
    · rw [samePushed, delivered_cons]
      simpa [leave] using conserved

end

end Session

end JobDispatch.WakeQueue
