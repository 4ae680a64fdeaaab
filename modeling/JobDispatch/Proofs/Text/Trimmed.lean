import JobDispatch.Text.Blank
import Mathlib.Data.List.TakeWhile

/-!
# Trimmed texts

Trimming takes the blanks off both ends of a text and leaves alone what stands between them. This
says all about it: a text has no other part that neither begins nor ends with a blank and has only
blanks around it. What is left over is not empty unless the text is blank, and there is nothing to
trim in it.
-/

namespace JobDispatch.Text

/-- A text is another one with blanks around it, which neither begins nor ends with a blank. -/
structure Trims (text trimmed : String) : Prop where
  /-- Only blanks stand around it. -/
  around : ∃ before after, text.toList = before ++ trimmed.toList ++ after ∧
    (∀ char ∈ before, isBlank char) ∧ ∀ char ∈ after, isBlank char
  /-- It does not begin with a blank. -/
  first : ∀ char ∈ trimmed.toList.head?, ¬ isBlank char
  /-- It does not end with a blank. -/
  last : ∀ char ∈ trimmed.toList.getLast?, ¬ isBlank char

/-- There is nothing to trim in front of a character that is not blank. -/
theorem trimStart_of_first {chars : List Char} (first : ∀ char ∈ chars.head?, ¬ isBlank char) :
    trimStart chars = chars := by
  cases chars with
  | nil => rfl
  | cons char rest => exact List.dropWhile_cons_of_neg (first char rfl)

/-- Blanks in front are trimmed. -/
theorem trimStart_append {before : List Char} (blank : ∀ char ∈ before, isBlank char)
    (chars : List Char) : trimStart (before ++ chars) = trimStart chars :=
  List.dropWhile_append_of_pos blank

/-- What is trimmed at the start is blank. -/
theorem exists_trimStart (chars : List Char) :
    ∃ before, chars = before ++ trimStart chars ∧ ∀ char ∈ before, isBlank char :=
  ⟨chars.takeWhile isBlank, List.takeWhile_append_dropWhile.symm, fun _ => List.mem_takeWhile_imp⟩

/-- Characters that are trimmed at the start do not begin with a blank. -/
theorem head?_trimStart (chars : List Char) :
    ∀ char ∈ (trimStart chars).head?, ¬ isBlank char := by
  intro char member
  have unblank := List.head?_dropWhile_not isBlank chars
  rw [Option.mem_def] at member
  rw [← trimStart, member] at unblank
  simpa using unblank

/-- What is trimmed at the end is blank. -/
theorem exists_trimEnd (chars : List Char) :
    ∃ after, chars = trimEnd chars ++ after ∧ ∀ char ∈ after, isBlank char := by
  obtain ⟨before, split, blank⟩ := exists_trimStart chars.reverse
  refine ⟨before.reverse, ?_, fun char member => blank char (List.mem_reverse.mp member)⟩
  rw [trimEnd, ← List.reverse_append, ← split, List.reverse_reverse]

/-- A text without the blanks at its ends is trimmed. -/
theorem trims_trim (text : String) : Trims text (trim text) := by
  obtain ⟨before, front, frontBlank⟩ := exists_trimStart text.toList
  obtain ⟨after, back, backBlank⟩ := exists_trimEnd (trimStart text.toList)
  have chars : (trim text).toList = trimEnd (trimStart text.toList) := String.toList_ofList
  refine ⟨⟨before, after, ?_, frontBlank, backBlank⟩, ?_, ?_⟩
  · rw [chars, List.append_assoc, ← back]
    exact front
  · -- What is left over begins as the characters do before those at the end are trimmed.
    intro char member
    rw [chars] at member
    have first := head?_trimStart text.toList char
    rw [back, List.head?_append, Option.mem_def.mp member] at first
    exact first rfl
  · intro char member
    rw [chars, trimEnd, List.getLast?_reverse] at member
    exact head?_trimStart _ char member

/-- Nothing else of a text is left over when it is trimmed. -/
theorem Trims.eq_trim {text trimmed : String} (trims : Trims text trimmed) :
    trimmed = trim text := by
  obtain ⟨⟨before, after, chars, frontBlank, backBlank⟩, first, last⟩ := trims
  have reversed : trimEnd (trimmed.toList ++ after) = trimmed.toList := by
    have blank : ∀ char ∈ after.reverse, isBlank char :=
      fun char member => backBlank char (List.mem_reverse.mp member)
    rw [trimEnd, List.reverse_append, trimStart_append blank, trimStart_of_first,
      List.reverse_reverse]
    rwa [List.head?_reverse]
  have start : trimEnd (trimStart (trimmed.toList ++ after)) = trimmed.toList := by
    cases left : trimmed.toList with
    | nil =>
      -- The text is blank, and is already used up at the start.
      have none : trimStart after = [] := List.dropWhile_eq_nil_iff.mpr backBlank
      rw [List.nil_append, none]
      rfl
    | cons char rest =>
      rw [← left, trimStart_of_first, reversed]
      simpa [left] using first
  rw [trim, chars, List.append_assoc, trimStart_append frontBlank, start, String.ofList_toList]

/-- What is left over when a text is trimmed is told by how it lies in the text. -/
theorem trims_iff {text trimmed : String} : Trims text trimmed ↔ trimmed = trim text :=
  ⟨Trims.eq_trim, fun same => same ▸ trims_trim text⟩

/-- A text stays as it is when it neither begins nor ends with a blank. -/
theorem trim_of_ends {text : String} (first : ∀ char ∈ text.toList.head?, ¬ isBlank char)
    (last : ∀ char ∈ text.toList.getLast?, ¬ isBlank char) : trim text = text :=
  (Trims.eq_trim ⟨⟨[], [], by simp, by simp, by simp⟩, first, last⟩).symm

/-- There is nothing to trim in a trimmed text. -/
@[simp] theorem trim_trim (text : String) : trim (trim text) = trim text :=
  trim_of_ends (trims_trim text).first (trims_trim text).last

/-- Trimming leaves a text without blanks as it is. -/
theorem trim_of_unblank {text : String}
    (unblank : ∀ char ∈ text.toList, isBlank char = false) : trim text = text := by
  have apart (char : Char) (member : char ∈ text.toList) : ¬ isBlank char := by
    rw [unblank char member]
    exact Bool.false_ne_true
  exact trim_of_ends (fun char begins => apart char (List.mem_of_head? begins))
    fun char ends => apart char (List.mem_of_getLast? ends)

/-- Nothing is left over of a blank text, and of no other. -/
theorem isBlankText_iff (text : String) : isBlankText text ↔ trim text = "" := by
  rw [isBlankText, List.all_eq_true]
  constructor
  · intro blank
    exact (Trims.eq_trim ⟨⟨text.toList, [], by simp, blank, by simp⟩, by simp, by simp⟩).symm
  · intro empty
    obtain ⟨⟨before, after, chars, frontBlank, backBlank⟩, -, -⟩ := trims_trim text
    rw [chars, empty]
    intro char member
    have either : char ∈ before ∨ char ∈ after := by simpa using member
    exact either.elim (frontBlank char) (backBlank char)

end JobDispatch.Text
