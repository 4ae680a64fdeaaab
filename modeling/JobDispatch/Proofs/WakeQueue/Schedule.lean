import JobDispatch.WakeQueue.Session
import Mathlib.Data.List.Perm.Basic

/-!
# The moments of a session

A session goes through its moments in the order of time. Each wait begins once and expires once, and
it begins before it expires, unless the clock cannot count to its deadline: then it panics once.
Each push happens once.
-/

namespace JobDispatch.WakeQueue

namespace Wait

/-- The first millisecond that is not before the start of a wait and the longest time that it
lasts. -/
def due (wait : Wait) : Nat := wait.start + (wait.longest.nanos + 999999) / 1000000

/-- The clock, whose seconds are signed and have sixty-four bits, can count to the start of a wait
and the longest time that it lasts. -/
def IsCounted (wait : Wait) : Prop :=
  1000000 * wait.start + wait.longest.nanos < 0x8000000000000000 * nanosPerSecond

variable {wait : Wait}

/-- A wait that the clock can count ends when it is due at the latest, and no other has a
deadline. -/
theorem deadline?_eq_some_iff {time : Nat} :
    wait.deadline? = some time ↔ wait.IsCounted ∧ wait.due = time := by
  have range : Timer.clockEnd = 0x8000000000000000 := rfl
  unfold deadline? Timer.deadline? IsCounted due Duration.millisUp
  rw [Option.ite_none_right_eq_some, Option.some_inj, range]

/-- A wait that the clock cannot count has no deadline. -/
theorem deadline?_eq_none_iff : wait.deadline? = none ↔ ¬ wait.IsCounted := by
  rw [Option.eq_none_iff_forall_ne_some]
  constructor
  · intro missing counted
    exact missing wait.due (deadline?_eq_some_iff.mpr ⟨counted, rfl⟩)
  · intro uncounted time found
    exact uncounted (deadline?_eq_some_iff.mp found).1

/-- A wait is not due before it begins. -/
theorem start_le_due (wait : Wait) : wait.start ≤ wait.due := Nat.le_add_right _ _

end Wait

/-- The wait that begins at a moment. -/
def Moment.begun? : Moment → Option Nat
  | .begin wait => some wait
  | .crash _ | .push _ | .expire _ => none

/-- The wait that panics at a moment. -/
def Moment.crashed? : Moment → Option Nat
  | .crash wait => some wait
  | .begin _ | .push _ | .expire _ => none

/-- The push at a moment. -/
def Moment.push? (time : Nat) : Moment → Option Push
  | .push token => some ⟨time, token⟩
  | .begin _ | .crash _ | .expire _ => none

/-- The waits that begin at some moments. -/
def begun (moments : List (Nat × Moment)) : List Nat := moments.filterMap (·.2.begun?)

/-- The waits that panic at some moments. -/
def crashes (moments : List (Nat × Moment)) : List Nat := moments.filterMap (·.2.crashed?)

/-- The pushes at some moments. -/
def pushed (moments : List (Nat × Moment)) : List Push :=
  moments.filterMap fun moment => moment.2.push? moment.1

/-- A wait begins at a moment of its own. -/
theorem mem_begun_iff {moments : List (Nat × Moment)} {place : Nat} :
    place ∈ begun moments ↔ ∃ time, (time, .begin place) ∈ moments := by
  simp only [begun, List.mem_filterMap, Prod.exists]
  constructor
  · rintro ⟨time, moment, member, begins⟩
    cases moment with
    | begin wait =>
      obtain rfl := Option.some.inj begins
      exact ⟨time, member⟩
    | crash | push | expire => contradiction
  · rintro ⟨time, member⟩
    exact ⟨time, _, member, rfl⟩

/-- What happens with some waits and pushes, and when: a wait begins at its start and expires after
the longest time that it lasts, or panics at its start when the clock cannot count so far. -/
inductive Happens (waits : List Wait) (pushes : List Push) : Nat → Moment → Prop
  | begin {place : Nat} {wait : Wait} (known : waits[place]? = some wait)
      (counted : wait.IsCounted) : Happens waits pushes wait.start (.begin place)
  | expire {place : Nat} {wait : Wait} (known : waits[place]? = some wait)
      (counted : wait.IsCounted) : Happens waits pushes wait.due (.expire place)
  | crash {place : Nat} {wait : Wait} (known : waits[place]? = some wait)
      (uncounted : ¬ wait.IsCounted) : Happens waits pushes wait.start (.crash place)
  | push {push : Push} (member : push ∈ pushes) :
      Happens waits pushes push.time (.push push.token)

namespace Session

variable {waits : List Wait} {pushes : List Push}

/-- One moment comes no later than another when its time is earlier, or the same and its rank no
greater. -/
theorem precedes_iff {left right : Nat × Moment} : precedes left right ↔
    left.1 < right.1 ∨ (left.1 = right.1 ∧ left.2.rank ≤ right.2.rank) := by
  simp [precedes]

/-- The moments stand in their order. -/
theorem pairwise_moments (waits : List Wait) (pushes : List Push) :
    (moments waits pushes).Pairwise fun left right => precedes left right := by
  refine List.pairwise_mergeSort (fun first second third before after => ?_)
    (fun left right => ?_) _
  · rw [precedes_iff] at before after ⊢
    omega
  · rw [Bool.or_eq_true, precedes_iff, precedes_iff]
    omega

/-- The moments of a wait are its start and its deadline, or a panic. -/
theorem mem_momentsOf_iff {wait : Wait} {place time : Nat} {moment : Moment} :
    (time, moment) ∈ momentsOf wait place ↔
      (wait.IsCounted ∧ (time = wait.start ∧ moment = .begin place ∨
        time = wait.due ∧ moment = .expire place)) ∨
      (¬ wait.IsCounted ∧ time = wait.start ∧ moment = .crash place) := by
  unfold momentsOf
  cases found : wait.deadline? with
  | some deadline =>
    obtain ⟨counted, rfl⟩ := Wait.deadline?_eq_some_iff.mp found
    simp [counted]
  | none => simp [Wait.deadline?_eq_none_iff.mp found]

/-- What happens in a session are its moments. -/
theorem mem_moments_iff {time : Nat} {moment : Moment} :
    (time, moment) ∈ moments waits pushes ↔ Happens waits pushes time moment := by
  simp only [moments, List.mem_mergeSort, List.mem_append, List.mem_flatMap, List.mem_map,
    Prod.exists, List.mem_zipIdx_iff_getElem?, mem_momentsOf_iff, Prod.mk.injEq]
  constructor
  · rintro (⟨wait, place, known, ⟨counted, ⟨rfl, rfl⟩ | ⟨rfl, rfl⟩⟩ | ⟨uncounted, rfl, rfl⟩⟩ |
      ⟨push, member, rfl, rfl⟩)
    · exact .begin known counted
    · exact .expire known counted
    · exact .crash known uncounted
    · exact .push member
  · rintro (⟨known, counted⟩ | ⟨known, counted⟩ | ⟨known, uncounted⟩ | member)
    · exact .inl ⟨_, _, known, .inl ⟨counted, .inl ⟨rfl, rfl⟩⟩⟩
    · exact .inl ⟨_, _, known, .inl ⟨counted, .inr ⟨rfl, rfl⟩⟩⟩
    · exact .inl ⟨_, _, known, .inr ⟨uncounted, rfl, rfl⟩⟩
    · exact .inr ⟨_, member, rfl, rfl⟩

/-- A wait that the clock can count begins at its start. -/
theorem mem_moments_begin {time place : Nat} :
    (time, .begin place) ∈ moments waits pushes ↔
      ∃ wait, waits[place]? = some wait ∧ wait.IsCounted ∧ wait.start = time := by
  rw [mem_moments_iff]
  constructor
  · intro happens
    cases happens with
    | begin known counted => exact ⟨_, known, counted, rfl⟩
  · rintro ⟨wait, known, counted, rfl⟩
    exact .begin known counted

/-- A wait that the clock can count expires when it is due. -/
theorem mem_moments_expire {time place : Nat} :
    (time, .expire place) ∈ moments waits pushes ↔
      ∃ wait, waits[place]? = some wait ∧ wait.IsCounted ∧ wait.due = time := by
  rw [mem_moments_iff]
  constructor
  · intro happens
    cases happens with
    | expire known counted => exact ⟨_, known, counted, rfl⟩
  · rintro ⟨wait, known, counted, rfl⟩
    exact .expire known counted

/-- What is found in the moments, but not in pushes, is found in the moments of the waits. -/
theorem filterMap_moments (waits : List Wait) (pushes : List Push)
    (find : Nat × Moment → Option Nat) (unpushed : ∀ time token, find (time, .push token) = none) :
    ((moments waits pushes).filterMap find).Perm
      (waits.zipIdx.flatMap fun (wait, place) => (momentsOf wait place).filterMap find) := by
  have silent :
      (pushes.map fun push => (push.time, Moment.push push.token)).filterMap find = [] := by
    rw [List.filterMap_map, List.filterMap_eq_nil_iff]
    exact fun push _ => unpushed push.time push.token
  refine ((List.mergeSort_perm _ _).filterMap _).trans (List.Perm.of_eq ?_)
  rw [List.filterMap_append, silent, List.append_nil, List.filterMap_flatMap]

/-- Each wait begins or panics, once. -/
theorem begun_crashes_moments (waits : List Wait) (pushes : List Push) :
    (begun (moments waits pushes) ++ crashes (moments waits pushes)).Perm
      (List.range waits.length) := by
  have once : ∀ wait place, ((momentsOf wait place).filterMap fun moment => moment.2.begun?) ++
      ((momentsOf wait place).filterMap fun moment => moment.2.crashed?) = [place] := by
    intro wait place
    unfold momentsOf
    cases wait.deadline? <;> rfl
  have begins := filterMap_moments waits pushes (·.2.begun?) fun _ _ => rfl
  have panics := filterMap_moments waits pushes (·.2.crashed?) fun _ _ => rfl
  refine (begins.append panics).trans ((List.flatMap_append_perm _ _ _).trans (List.Perm.of_eq ?_))
  simp only [once]
  rw [← List.map_eq_flatMap, List.zipIdx_map_snd, List.range_eq_range']

end Session

end JobDispatch.WakeQueue
