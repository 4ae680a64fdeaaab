import JobDispatch.Job.Submission
import JobDispatch.Proofs.Result
import JobDispatch.Proofs.Text.Trimmed

/-!
# The rules for submissions

A submission has to name its job type, and keeps to bounds for the length of that name, the number
of retries and the time limit. The length is meant in characters and measured in bytes, so that the
bound for bytes comes on top of the one for characters, and a name in another script than Latin may
be refused although it is short. A submission is made from any text by trimming it, and a submission
that has been made keeps the rules.
-/

namespace JobDispatch

namespace Text

/-- A text has at least as many bytes as characters. -/
theorem length_le_utf8ByteSize (text : String) : text.length ≤ text.utf8ByteSize := by
  induction text using String.push_induction with
  | empty => exact Nat.le_refl 0
  | push text char ih =>
    have some := char.utf8Size_pos
    rw [String.length_push, String.utf8ByteSize_push]
    omega

/-- A character that is repeated has its bytes as often. -/
theorem utf8ByteSize_replicate (times : Nat) (char : Char) :
    (String.ofList (List.replicate times char)).utf8ByteSize = times * char.utf8Size := by
  induction times with
  | zero => simp
  | succ times ih =>
    rw [List.replicate_succ, String.ofList_cons, String.utf8ByteSize_append,
      String.utf8ByteSize_singleton, ih, Nat.succ_mul, Nat.add_comm]

/-- A text that is left over has at least a byte. -/
theorem utf8ByteSize_pos_iff {text : String} : 1 ≤ text.utf8ByteSize ↔ text ≠ "" := by
  rw [Nat.one_le_iff_ne_zero, ne_eq, String.utf8ByteSize_eq_zero_iff]

end Text

namespace Submission

/-- The rules for a submission, for a way to measure the length of its job type. -/
structure Rules (length : String → Nat) (submission : Submission) : Prop where
  /-- The job type has a name. -/
  named : 1 ≤ length submission.jobType
  /-- The name is not too long. -/
  short : length submission.jobType ≤ longestType
  /-- There may be no retries, but not too many. -/
  retries : 0 ≤ submission.maxRetries ∧ submission.maxRetries ≤ mostRetries
  /-- The time limit is at least a second, and not too long. -/
  timeLimit : 1 ≤ submission.timeoutSeconds ∧ submission.timeoutSeconds ≤ longestTimeout

/-- The rules that measure bytes are those that measure characters, and a bound for the bytes. -/
theorem rules_bytes_iff {submission : Submission} :
    submission.Rules String.utf8ByteSize ↔
      submission.Rules String.length ∧ submission.jobType.utf8ByteSize ≤ longestType := by
  have fewer := Text.length_le_utf8ByteSize submission.jobType
  constructor
  · rintro ⟨named, short, retries, timeLimit⟩
    have some : submission.jobType.length ≠ 0 := fun none => by
      rw [String.length_eq_zero_iff] at none
      exact Text.utf8ByteSize_pos_iff.mp named none
    exact ⟨⟨Nat.one_le_iff_ne_zero.mpr some, fewer.trans short, retries, timeLimit⟩, short⟩
  · rintro ⟨⟨named, -, retries, timeLimit⟩, short⟩
    exact ⟨named.trans fewer, short, retries, timeLimit⟩

/-- A submission is accepted exactly when it keeps the rules, in bytes, and the name of its job type
is not blank. -/
theorem validate_eq_ok_iff {submission : Submission} :
    submission.validate = .ok () ↔
      Text.trim submission.jobType ≠ "" ∧ submission.Rules String.utf8ByteSize := by
  have named : Text.trim submission.jobType ≠ "" → 1 ≤ submission.jobType.utf8ByteSize := by
    intro left
    refine Text.utf8ByteSize_pos_iff.mpr fun none => left ?_
    rw [none]
    rfl
  rw [ne_eq, ← Text.isBlankText_iff] at named ⊢
  unfold validate
  simp only [fail_else_eq_ok_iff, not_or, Nat.not_lt, Int32.not_lt, and_true]
  constructor
  · rintro ⟨unblank, short, retries, timeLimit⟩
    exact ⟨unblank, named unblank, short, retries, timeLimit⟩
  · rintro ⟨unblank, -, short, retries, timeLimit⟩
    exact ⟨unblank, short, retries, timeLimit⟩

/-- Whatever rule a submission breaks, it is refused as malformed. -/
theorem kind_of_validate {submission : Submission} {error : Error}
    (refused : submission.validate = .error error) : error.kind = .validation := by
  unfold validate at refused
  simp only [fail_else_eq_error_iff, reduceCtorEq, and_false, or_false] at refused
  rcases refused with ⟨-, rfl⟩ | ⟨-, ⟨-, rfl⟩ | ⟨-, ⟨-, rfl⟩ | ⟨-, -, rfl⟩⟩⟩ <;> rfl

variable {text : String} {payload : Json} {maxRetries timeoutSeconds : Int32}
  {submission : Submission}

/-- A submission is made from a text exactly when it keeps the rules, in bytes, with that text
trimmed. -/
theorem make_eq_ok_iff :
    make text payload maxRetries timeoutSeconds = .ok submission ↔
      submission = ⟨Text.trim text, payload, maxRetries, timeoutSeconds⟩ ∧
        submission.Rules String.utf8ByteSize := by
  unfold make
  dsimp only
  rw [bind_eq_ok_iff]
  constructor
  · rintro ⟨⟨⟩, accepted, same⟩
    obtain rfl := Except.ok.inj same
    exact ⟨rfl, (validate_eq_ok_iff.mp accepted).2⟩
  · rintro ⟨rfl, rules⟩
    refine ⟨(), validate_eq_ok_iff.mpr ⟨?_, rules⟩, rfl⟩
    rw [Text.trim_trim]
    exact Text.utf8ByteSize_pos_iff.mp rules.named

/-- What can be made of a text is a submission that keeps the rules in characters, and one for
bytes. -/
theorem exists_make_iff :
    (∃ submission, make text payload maxRetries timeoutSeconds = .ok submission) ↔
      Rules String.length ⟨Text.trim text, payload, maxRetries, timeoutSeconds⟩ ∧
        (Text.trim text).utf8ByteSize ≤ longestType := by
  simp only [make_eq_ok_iff, exists_eq_left]
  exact rules_bytes_iff

/-- A name of so many letters with accents. -/
def accented (letters : Nat) : String := String.ofList (List.replicate letters 'é')

/-- A letter with an accent has two bytes. -/
theorem accented_spec (letters : Nat) :
    Text.trim (accented letters) = accented letters ∧ (accented letters).length = letters ∧
      (accented letters).utf8ByteSize = letters * 2 := by
  refine ⟨?_, ?_, Text.utf8ByteSize_replicate letters 'é'⟩
  · refine Text.trim_of_unblank fun char member => ?_
    rw [accented, String.toList_ofList] at member
    obtain rfl := List.eq_of_mem_replicate member
    decide
  · rw [accented, String.length_ofList, List.length_replicate]

/-- A name of 128 letters is short enough in characters, and is refused when it has 256 bytes. -/
theorem not_made_of_accentedName :
    ¬ ∀ text payload maxRetries timeoutSeconds,
      (∃ submission, make text payload maxRetries timeoutSeconds = .ok submission) ↔
        Rules String.length ⟨Text.trim text, payload, maxRetries, timeoutSeconds⟩ := by
  intro always
  obtain ⟨trimmed, characters, bytes⟩ := accented_spec 128
  have rules : Rules String.length ⟨accented 128, .object [], 3, 30⟩ :=
    ⟨by rw [characters]; decide, by rw [characters]; decide, by decide, by decide⟩
  have made := (always (accented 128) (.object []) 3 30).mpr (by rwa [trimmed])
  obtain ⟨-, short⟩ := exists_make_iff.mp made
  rw [trimmed, bytes] at short
  exact absurd short (by decide)

/-- A submission that has been made is accepted, and is made again from what it gives. -/
theorem make_again (made : make text payload maxRetries timeoutSeconds = .ok submission) :
    submission.validate = .ok () ∧
      make submission.jobType submission.payload submission.maxRetries
        submission.timeoutSeconds = .ok submission := by
  obtain ⟨rfl, rules⟩ := make_eq_ok_iff.mp made
  have trimmed : Text.trim (Text.trim text) = Text.trim text := Text.trim_trim text
  refine ⟨validate_eq_ok_iff.mpr ⟨?_, rules⟩, make_eq_ok_iff.mpr ⟨?_, rules⟩⟩
  · rw [trimmed]
    exact Text.utf8ByteSize_pos_iff.mp rules.named
  · rw [trimmed]

/-- What cannot be made is malformed. -/
theorem kind_of_make {error : Error}
    (refused : make text payload maxRetries timeoutSeconds = .error error) :
    error.kind = .validation := by
  unfold make at refused
  dsimp only at refused
  cases checked : validate ⟨Text.trim text, payload, maxRetries, timeoutSeconds⟩ with
  | error first =>
    rw [checked] at refused
    obtain rfl : first = error := Except.error.inj refused
    exact kind_of_validate checked
  | ok accepted =>
    rw [checked] at refused
    contradiction

end Submission

end JobDispatch
