import SplitTunnel.Proofs.FileTree.Directories

namespace SplitTunnel

/-!
# How paths are spelled

The segments of a path are what stands between its slashes, so joining segments
and splitting the result gives them back.  A name that is put behind a text
changes the last segment only.
-/

namespace Path

variable {path : Path} {directory : Location} {name : String}

theorem splitSlashes_eq_splitOn (text : List Char) :
    splitSlashes text = text.splitOn '/' := by
  induction text with
  | nil => rfl
  | cons c rest inductionHypothesis =>
      rw [splitSlashes, List.splitOn_cons_eq_if_modifyHead, inductionHypothesis]
      by_cases isSlash : c = '/'
      · simp [isSlash]
      · have notEmpty := List.splitOn_ne_nil '/' rest
        simp only [isSlash, beq_iff_eq, ↓reduceIte]
        cases parts : List.splitOn '/' rest with
        | nil => exact absurd parts notEmpty
        | cons first more => rfl

/-- What stands between slashes has no slash. -/
theorem not_mem_splitSlashes
    {text part : List Char}
    (member : part ∈ splitSlashes text) :
    '/' ∉ part := by
  induction text generalizing part with
  | nil => simp_all [splitSlashes]
  | cons c rest inductionHypothesis =>
      rw [splitSlashes] at member
      split at member
      · rcases List.mem_cons.mp member with isEmpty | inRest
        · simp [isEmpty]
        · exact inductionHypothesis inRest
      · rename_i notSlash
        split at member
        · rw [List.mem_singleton.mp member]
          simpa using Ne.symm notSlash
        · rename_i first more shape
          rcases List.mem_cons.mp member with isFirst | inMore
          · have firstHas := inductionHypothesis (shape ▸ List.mem_cons_self ..)
            rw [isFirst, List.mem_cons]
            rintro (isSlash | inFirst)
            · exact notSlash isSlash.symm
            · exact firstHas inFirst
          · exact inductionHypothesis (shape ▸ List.mem_cons_of_mem _ inMore)

theorem segments_of_ne
    (notEmpty : path.text ≠ "") :
    path.segments = (splitSlashes path.text.toList).map String.ofList := by
  rw [segments]
  split
  · rename_i isEmpty
    exact absurd (String.toList_eq_nil_iff.mp isEmpty) notEmpty
  · rfl

theorem not_mem_segments
    {segment : String}
    (member : segment ∈ path.segments) :
    '/' ∉ segment.toList := by
  by_cases isEmpty : path.text = ""
  · simp [segments, isEmpty] at member
  · rw [segments_of_ne isEmpty] at member
    obtain ⟨part, inParts, rfl⟩ := List.mem_map.mp member
    rw [String.toList_ofList]
    exact not_mem_splitSlashes inParts

/-- Segments that are joined and split again are the same, unless only an empty one is joined. -/
theorem segments_ofSegments
    {segments : List String}
    (noSlash : ∀ segment ∈ segments, '/' ∉ segment.toList)
    (notNone : segments ≠ [])
    (notEmpty : segments ≠ [""]) :
    (ofSegments segments).text ≠ "" ∧ (ofSegments segments).segments = segments := by
  have textShape : (ofSegments segments).text = String.intercalate "/" segments := by
    rw [ofSegments]
    exact notEmpty
  have split : splitSlashes (ofSegments segments).text.toList = segments.map String.toList := by
    rw [textShape, String.toList_intercalate, splitSlashes_eq_splitOn]
    refine List.splitOn_intercalate '/' ?_ (by simpa using notNone)
    intro part member
    obtain ⟨segment, inSegments, rfl⟩ := List.mem_map.mp member
    exact noSlash segment inSegments
  have hasText : (ofSegments segments).text ≠ "" := by
    intro isEmpty
    rw [isEmpty] at split
    obtain ⟨only, isOnly, onlyEmpty⟩ := List.map_eq_singleton_iff.mp split.symm
    rw [String.toList_eq_nil_iff.mp onlyEmpty] at isOnly
    exact notEmpty isOnly
  refine ⟨hasText, ?_⟩
  rw [segments_of_ne hasText, split, List.map_map]
  exact List.map_id'' (fun segment => String.ofList_toList) segments

/-- The root is the one directory that is spelled with a segment more. -/
theorem segments_ofSegments_cases
    {segments : List String}
    (noSlash : ∀ segment ∈ segments, '/' ∉ segment.toList)
    (notNone : segments ≠ []) :
    (ofSegments segments).text ≠ "" ∧
      ((ofSegments segments).segments = segments ∨
        (segments = [""] ∧ (ofSegments segments).segments = ["", ""])) := by
  by_cases isRoot : segments = [""]
  · subst isRoot
    exact ⟨by decide, Or.inr ⟨rfl, by decide⟩⟩
  · obtain ⟨hasText, sameSegments⟩ := segments_ofSegments noSlash notNone isRoot
    exact ⟨hasText, Or.inl sameSegments⟩

/-- A text ends in a segment that a suffix without slashes only makes longer. -/
theorem splitSlashes_append
    (text : List Char) :
    ∃ before last, ∀ suffix : List Char, '/' ∉ suffix →
      splitSlashes (text ++ suffix) = before ++ [last ++ suffix] := by
  induction text with
  | nil =>
      refine ⟨[], [], fun suffix noSlash => ?_⟩
      rw [List.nil_append, splitSlashes_eq_splitOn, List.splitOn_eq_singleton noSlash]
      rfl
  | cons c rest inductionHypothesis =>
      obtain ⟨before, last, shape⟩ := inductionHypothesis
      by_cases isSlash : c = '/'
      · refine ⟨[] :: before, last, fun suffix noSlash => ?_⟩
        rw [List.cons_append, splitSlashes, if_pos isSlash, shape suffix noSlash]
        rfl
      · cases before with
        | nil =>
            refine ⟨[], c :: last, fun suffix noSlash => ?_⟩
            rw [List.cons_append, splitSlashes, if_neg isSlash, shape suffix noSlash]
            rfl
        | cons first more =>
            refine ⟨(c :: first) :: more, last, fun suffix noSlash => ?_⟩
            rw [List.cons_append, splitSlashes, if_neg isSlash, shape suffix noSlash]
            rfl

/-- The parent that is written in a path is what stands before its name, without what names nothing. -/
theorem writtenParent?_concat
    {before : List String}
    (segmentsShape : path.segments = before ++ [name])
    (noNoise : isNoise name = false) :
    (path.writtenParent? = none ∧ before = []) ∨
    (path.writtenParent? = some (ofSegments (dropNoise before.reverse).reverse) ∧
      before ≠ [] ∧
      (ofSegments (dropNoise before.reverse).reverse).text ≠ "" ∧
      ((ofSegments (dropNoise before.reverse).reverse).segments =
          (dropNoise before.reverse).reverse ∨
        ((dropNoise before.reverse).reverse = [""] ∧
          (ofSegments (dropNoise before.reverse).reverse).segments = ["", ""]))) := by
  have reversedShape : path.segments.reverse = name :: before.reverse := by
    rw [segmentsShape, List.reverse_append, List.reverse_singleton, List.singleton_append]
  by_cases isAlone : before = []
  · subst isAlone
    have notEmpty : name ≠ "" := by
      intro isEmpty
      rw [isEmpty] at noNoise
      contradiction
    refine Or.inl ⟨?_, rfl⟩
    rw [writtenParent?, parent?, reversedShape]
    simp [parentReversed?, dropNoise, notEmpty, ofSegments]
  · have notAlone : before.reverse ≠ [] := by simpa using isAlone
    have parentShape : path.parent? =
        some (ofSegments (dropNoise before.reverse).reverse) := by
      rw [parent?, reversedShape, parentReversed?_cons noNoise notAlone]
      rfl
    have noSlash : ∀ segment ∈ (dropNoise before.reverse).reverse, '/' ∉ segment.toList := by
      intro segment member
      have inBefore : segment ∈ before :=
        List.mem_reverse.mp ((dropNoise_suffix _).subset (List.mem_reverse.mp member))
      have inPath : segment ∈ path.segments := by
        rw [segmentsShape]
        exact List.mem_append_left _ inBefore
      exact not_mem_segments inPath
    obtain ⟨hasText, spelled⟩ :=
      segments_ofSegments_cases noSlash (by simpa using dropNoise_ne_nil notAlone)
    refine Or.inr ⟨?_, isAlone, hasText, spelled⟩
    rw [writtenParent?, parentShape, Option.filter_some]
    simp [hasText]

/-- The parent that is written in a plain path leads to its directory. -/
theorem writtenParent?_cases (names : Names path directory name) :
    (path.writtenParent? = none ∧ directory = []) ∨
    ∃ parent,
      path.writtenParent? = some parent ∧
        parent.text ≠ "" ∧
        ".." ∉ parent.segments ∧
        IsTidy parent.segments.reverse ∧
        lead [] parent.segments = directory := by
  obtain ⟨before, segmentsShape, noStep, leads, noNoise, isName⟩ := names
  rcases writtenParent?_concat segmentsShape noNoise with
    ⟨noParent, rfl⟩ | ⟨isParent, _, hasText, spelled⟩
  · exact Or.inl ⟨noParent, leads.symm⟩
  · have kept : ∀ segment ∈ (dropNoise before.reverse).reverse, segment ∈ before := by
      intro segment member
      exact List.mem_reverse.mp ((dropNoise_suffix _).subset (List.mem_reverse.mp member))
    have keptLeads : lead [] (dropNoise before.reverse).reverse = directory := by
      rw [lead_dropNoise, List.reverse_reverse, leads]
    refine Or.inr ⟨_, isParent, hasText, ?_⟩
    rcases spelled with sameSegments | ⟨isRoot, rootSegments⟩
    · rw [sameSegments, List.reverse_reverse]
      exact ⟨fun member => noStep (kept ".." member), isTidy_dropNoise _, keptLeads⟩
    · rw [isRoot] at keptLeads
      rw [rootSegments]
      refine ⟨by decide, ?_, keptLeads⟩
      intro last _ _ segment member
      have isEmpty : segment = "" := by simpa using member
      rw [isEmpty]
      rfl

end Path

end SplitTunnel
