import SplitTunnel.Proofs.FileTree.Canonical
import SplitTunnel.Proofs.Store.Siblings

namespace SplitTunnel

/-!
# Files right in a directory

A name without a slash that is joined to a directory is a child of it: the path
spells the way to the directory and the name after it, however the directory is
written.  So names that differ stay different files in every directory.
-/

namespace Path

variable {directory path : Path} {name : String}

/-- A slash ends the segment before it. -/
theorem splitSlashes_append_slash
    (text rest : List Char) :
    splitSlashes (text ++ '/' :: rest) = splitSlashes text ++ splitSlashes rest := by
  induction text with
  | nil => rfl
  | cons c more inductionHypothesis =>
      by_cases isSlash : c = '/'
      · simp [splitSlashes, isSlash, inductionHypothesis]
      · rw [List.cons_append, splitSlashes, splitSlashes, if_neg isSlash, if_neg isSlash,
          inductionHypothesis]
        cases shape : splitSlashes more with
        | nil =>
            rw [splitSlashes_eq_splitOn] at shape
            exact absurd shape (List.splitOn_ne_nil '/' more)
        | cons first others => rfl

/-- What stands between a directory as it is written and a name in it. -/
def separator (directory : Path) : String :=
  if endsOpen directory.text then "" else "/"

theorem join_text
    (noSlash : '/' ∉ name.toList)
    (directory : Path) :
    (directory.join name).text = directory.text ++ directory.separator ++ name := by
  have notAbsolute : isAbsolute name = false := by
    rw [isAbsolute]
    cases shape : name.toList with
    | nil => rfl
    | cons c rest =>
        have notSlash : c ≠ '/' := by
          rintro rfl
          simp [shape] at noSlash
        simpa using notSlash
  rw [join, separator, notAbsolute]
  by_cases isOpen : endsOpen directory.text = true
  · simp [isOpen]
  · simp [isOpen]

theorem isNoise_part
    (isPart : IsPart name) :
    isNoise name = false := by
  simp [isNoise, isPart.notEmpty, isPart.notHere]

theorem splitSlashes_part
    (isPart : IsPart name) :
    splitSlashes name.toList = [name.toList] := by
  rw [splitSlashes_eq_splitOn]
  exact List.splitOn_eq_singleton isPart.noSlash

/-- A name behind a slash is the last segment. -/
theorem segments_of_slash
    {front : List Char}
    (isPart : IsPart name)
    (text : path.text.toList = front ++ '/' :: name.toList) :
    path.segments = (splitSlashes front).map String.ofList ++ [name] := by
  have notEmpty : path.text ≠ "" := by
    intro isEmpty
    simp [isEmpty] at text
  rw [segments_of_ne notEmpty, text, splitSlashes_append_slash, splitSlashes_part isPart]
  simp

/-- A text that a name may follow at once is empty or ends in a slash. -/
theorem exists_front_of_endsOpen
    (notEmpty : directory.text ≠ "")
    (isOpen : endsOpen directory.text = true) :
    ∃ front, directory.text.toList = front ++ ['/'] := by
  rw [endsOpen] at isOpen
  cases ending : directory.text.toList.getLast? with
  | none =>
      have isNil := List.getLast?_eq_none_iff.mp ending
      exact absurd (String.toList_eq_nil_iff.mp isNil) notEmpty
  | some c =>
      rw [ending] at isOpen
      obtain rfl : c = '/' := by simpa using isOpen
      exact List.getLast?_eq_some_iff.mp ending

/-- Names in a directory stand behind the same segments, which lead to the directory. -/
theorem segments_join
    (directory : Path) :
    ∃ before,
      resolve [] before = directory.canonical ∧
        ∀ name, IsPart name → (directory.join name).segments = before ++ [name] := by
  by_cases noText : directory.text = ""
  · refine ⟨[], by simp [canonical, segments, noText, resolve], fun name isPart => ?_⟩
    have isAlone : (directory.join name).text = name := by
      rw [join_text isPart.noSlash, separator, noText]
      simp [endsOpen]
    have notEmpty : (directory.join name).text ≠ "" := by
      rw [isAlone]
      exact isPart.notEmpty
    rw [segments_of_ne notEmpty, isAlone, splitSlashes_part isPart]
    simp
  · have directoryShape := segments_of_ne noText
    by_cases isOpen : endsOpen directory.text = true
    · obtain ⟨front, slashEnds⟩ := exists_front_of_endsOpen noText isOpen
      refine ⟨(splitSlashes front).map String.ofList, ?_, fun name isPart => ?_⟩
      · -- The slash at the end adds an empty segment, which leads nowhere else.
        have shape : directory.segments = (splitSlashes front).map String.ofList ++ [""] := by
          rw [directoryShape, slashEnds, splitSlashes_append_slash]
          simp [splitSlashes]
        rw [canonical, shape, resolve_append]
        rfl
      · apply segments_of_slash isPart
        rw [join_text isPart.noSlash, separator, isOpen]
        simp [slashEnds]
    · refine ⟨directory.segments, rfl, fun name isPart => ?_⟩
      rw [directoryShape]
      apply segments_of_slash isPart
      rw [join_text isPart.noSlash, separator]
      simp [isOpen]

/-- A path leads to a name right in a directory and is written as the two joined. -/
structure IsChild (directory : Path) (name : String) (path : Path) : Prop where
  text : path.text = directory.text ++ directory.separator ++ name
  canonical : path.canonical = name :: directory.canonical

/-- A name that is joined to a directory is a child of it. -/
theorem isChild_join
    (isPart : IsPart name)
    (notAbove : name ≠ "..")
    (directory : Path) :
    IsChild directory name (directory.join name) := by
  obtain ⟨before, leads, segmentsShape⟩ := segments_join directory
  refine ⟨join_text isPart.noSlash directory, ?_⟩
  rw [canonical, segmentsShape name isPart, resolve_append, leads,
    resolve_name (isNoise_part isPart) notAbove]

/-- Different names in a directory are different paths, to different locations. -/
theorem IsChild.ne
    {other : Path}
    {otherName : String}
    (isChild : IsChild directory name path)
    (isOther : IsChild directory otherName other)
    (different : name ≠ otherName) :
    path ≠ other ∧ path.canonical ≠ other.canonical := by
  have apart : path.canonical ≠ other.canonical := by
    rw [isChild.canonical, isOther.canonical]
    simpa using different
  exact ⟨fun same => apart (congrArg Path.canonical same), apart⟩

end Path

end SplitTunnel
