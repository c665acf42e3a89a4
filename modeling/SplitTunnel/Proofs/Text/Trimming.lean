import Mathlib
import SplitTunnel.Text.Blank

namespace SplitTunnel.Text

/-!
# Blanks around a text

Trimming is known by what it leaves: a text is what remains after trimming with
blanks before and after it, and what remains begins and ends with no blank.
There is one such part of every text, so blanks put around a text do not matter.
-/

/-- One text is another without the blanks around it. -/
structure Trims (text trimmed : List Char) : Prop where
  parts :
    ∃ before after,
      text = before ++ trimmed ++ after ∧
        isAllBlank before = true ∧ isAllBlank after = true
  headNotBlank : ∀ c ∈ trimmed.head?, isBlank c = false
  lastNotBlank : ∀ c ∈ trimmed.getLast?, isBlank c = false

theorem isAllBlank_iff
    {text : List Char} :
    isAllBlank text = true ↔ ∀ c ∈ text, isBlank c = true :=
  List.all_eq_true

theorem isAllBlank_reverse
    (text : List Char) :
    isAllBlank text.reverse = isAllBlank text :=
  List.all_reverse

/-- Blanks before a text are removed. -/
theorem trimStart_append
    {before : List Char}
    (areBlank : isAllBlank before = true)
    (text : List Char) :
    trimStart (before ++ text) = trimStart text :=
  List.dropWhile_append_of_pos (isAllBlank_iff.mp areBlank)

/-- A text that does not begin with a blank stays as it is. -/
theorem trimStart_of_head
    {text : List Char}
    (headNotBlank : ∀ c ∈ text.head?, isBlank c = false) :
    trimStart text = text := by
  cases text with
  | nil => rfl
  | cons c rest =>
      have notBlank : isBlank c = false := headNotBlank c rfl
      rw [trimStart, List.dropWhile_cons, notBlank]
      rfl

/-- What is removed from the start of a text is blank, and what stays does not begin so. -/
theorem exists_trimStart
    (text : List Char) :
    ∃ before,
      text = before ++ trimStart text ∧
        isAllBlank before = true ∧
        ∀ c ∈ (trimStart text).head?, isBlank c = false := by
  refine ⟨text.takeWhile isBlank, List.takeWhile_append_dropWhile.symm, ?_, ?_⟩
  · exact isAllBlank_iff.mpr fun c member => List.mem_takeWhile_imp member
  · intro c isHead
    have notBlank := List.head?_dropWhile_not isBlank text
    change (text.dropWhile isBlank).head? = some c at isHead
    rw [isHead] at notBlank
    simpa using notBlank

/-- Trimming leaves the part of a text between the blanks around it. -/
theorem trims_trim
    (text : List Char) :
    Trims text (trim text) := by
  obtain ⟨before, startParts, beforeBlank, startHead⟩ := exists_trimStart text
  obtain ⟨after, endParts, afterBlank, endHead⟩ := exists_trimStart (trimStart text).reverse
  have middleParts : trimStart text = trim text ++ after.reverse := by
    rw [trim, trimEnd, ← List.reverse_append, ← endParts, List.reverse_reverse]
  refine ⟨⟨before, after.reverse, ?_, beforeBlank, ?_⟩, ?_, ?_⟩
  · rw [List.append_assoc, ← middleParts]
    exact startParts
  · rw [isAllBlank_reverse]
    exact afterBlank
  · intro c isHead
    apply startHead
    rw [middleParts, List.head?_append, Option.mem_def.mp isHead]
    rfl
  · intro c isLast
    apply endHead
    rw [trim, trimEnd, List.getLast?_reverse] at isLast
    exact isLast

/-- No other part of a text lies between all its blanks. -/
theorem Trims.eq_trim
    {text trimmed : List Char}
    (trims : Trims text trimmed) :
    trimmed = trim text := by
  obtain ⟨⟨before, after, parts, beforeBlank, afterBlank⟩, headNotBlank, lastNotBlank⟩ := trims
  have endStays : trimEnd trimmed = trimmed := by
    rw [trimEnd, trimStart_of_head, List.reverse_reverse]
    rw [List.head?_reverse]
    exact lastNotBlank
  rw [parts, List.append_assoc, trim, trimStart_append beforeBlank]
  cases trimmed with
  | nil =>
      have nothing : trimStart after = [] :=
        List.dropWhile_eq_nil_iff.mpr (isAllBlank_iff.mp afterBlank)
      rw [List.nil_append, nothing]
      rfl
  | cons c rest =>
      rw [trimStart_of_head (by simpa using headNotBlank), trimEnd, List.reverse_append,
        trimStart_append (by rw [isAllBlank_reverse]; exact afterBlank)]
      exact endStays.symm

/-- A text without blanks is not shortened by trimming. -/
theorem trim_of_noBlank
    {text : List Char}
    (noBlank : ∀ c ∈ text, isBlank c = false) :
    trim text = text := by
  have trims : Trims text text :=
    { parts := ⟨[], [], by rw [List.nil_append, List.append_nil], rfl, rfl⟩
      headNotBlank := fun c isHead => noBlank c (List.mem_of_mem_head? isHead)
      lastNotBlank := fun c isLast => noBlank c (List.mem_of_mem_getLast? isLast) }
  exact trims.eq_trim.symm

/-- Trimming leaves nothing of a text if and only if it is blank. -/
theorem trim_eq_nil_iff
    {text : List Char} :
    trim text = [] ↔ isAllBlank text = true := by
  constructor
  · intro nothing
    obtain ⟨⟨before, after, parts, beforeBlank, afterBlank⟩, _, _⟩ := trims_trim text
    rw [parts, nothing, List.append_nil, isAllBlank, List.all_append, Bool.and_eq_true]
    exact ⟨beforeBlank, afterBlank⟩
  · intro isBlank
    have trims : Trims text [] := ⟨⟨text, [], by simp, isBlank, rfl⟩, by simp, by simp⟩
    exact trims.eq_trim.symm

/-- Blanks put around a text do not change what trimming leaves. -/
theorem trim_append_blanks
    {before after : List Char}
    (beforeBlank : isAllBlank before = true)
    (afterBlank : isAllBlank after = true)
    (text : List Char) :
    trim (before ++ text ++ after) = trim text := by
  obtain ⟨⟨first, last, parts, firstBlank, lastBlank⟩, headNotBlank, lastNotBlank⟩ :=
    trims_trim text
  have trims : Trims (before ++ text ++ after) (trim text) := by
    refine ⟨⟨before ++ first, last ++ after, ?_, ?_, ?_⟩, headNotBlank, lastNotBlank⟩
    · conv_lhs => rw [parts]
      simp only [List.append_assoc]
    · rw [isAllBlank, List.all_append, Bool.and_eq_true]
      exact ⟨beforeBlank, firstBlank⟩
    · rw [isAllBlank, List.all_append, Bool.and_eq_true]
      exact ⟨lastBlank, afterBlank⟩
  exact trims.eq_trim.symm

end SplitTunnel.Text
