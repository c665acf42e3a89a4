import SplitTunnel.Proofs.FileTree.Passage

namespace SplitTunnel

/-!
# Making directories

The directories of a plain path are made if nothing is in the way.  What is made
are missing directories on the way, and a directory stands at the end if all
went well.
-/

namespace Path

/-- Segments in reversed order that name nothing at their end name nothing at all. -/
def IsTidy (reversed : List String) : Prop :=
  ∀ last ∈ reversed.head?, isNoise last = true → ∀ segment ∈ reversed, isNoise segment = true

/-- Dropping segments that name nothing leaves tidy segments. -/
theorem isTidy_dropNoise (reversed : List String) : IsTidy (dropNoise reversed) := by
  fun_induction dropNoise reversed with
  | case1 last before more _ inductionHypothesis => exact inductionHypothesis
  | case2 last before more notNoise =>
      intro head isHead noise
      cases isHead
      exact absurd noise notNoise
  | case3 reversed short =>
      intro head isHead noise segment member
      cases reversed with
      | nil => contradiction
      | cons last others =>
          cases others with
          | nil =>
              cases isHead
              rw [List.mem_singleton.mp member]
              exact noise
          | cons before more => exact absurd rfl (short last before more)

/-- What is dropped names nothing. -/
theorem exists_dropNoise (reversed : List String) :
    ∃ dropped,
      reversed = dropped ++ dropNoise reversed ∧
        ∀ segment ∈ dropped, isNoise segment = true := by
  fun_induction dropNoise reversed with
  | case1 last before more noise inductionHypothesis =>
      obtain ⟨dropped, shape, allNoise⟩ := inductionHypothesis
      refine ⟨last :: dropped, ?_, ?_⟩
      · rw [List.cons_append, ← shape]
      · intro segment member
        rcases List.mem_cons.mp member with isLast | inDropped
        · rw [isLast]
          exact noise
        · exact allNoise segment inDropped
  | case2 => exact ⟨[], rfl, by simp⟩
  | case3 => exact ⟨[], rfl, by simp⟩

theorem dropNoise_suffix (reversed : List String) : dropNoise reversed <:+ reversed := by
  obtain ⟨dropped, shape, _⟩ := exists_dropNoise reversed
  exact ⟨dropped, shape.symm⟩

/-- What is dropped leads nowhere else. -/
theorem lead_dropNoise
    (start : Location)
    (reversed : List String) :
    lead start (dropNoise reversed).reverse = lead start reversed.reverse := by
  obtain ⟨dropped, shape, allNoise⟩ := exists_dropNoise reversed
  have droppedNoise : ∀ segment ∈ dropped.reverse, isNoise segment = true :=
    fun segment member => allNoise segment (List.mem_reverse.mp member)
  calc
    lead start (dropNoise reversed).reverse =
        lead start ((dropNoise reversed).reverse ++ dropped.reverse) :=
      (lead_append_noise droppedNoise).symm
    _ = lead start reversed.reverse := by rw [← List.reverse_append, ← shape]

theorem dropNoise_ne_nil
    {reversed : List String}
    (notNone : reversed ≠ []) :
    dropNoise reversed ≠ [] := by
  fun_induction dropNoise reversed with
  | case1 last before more _ inductionHypothesis =>
      exact inductionHypothesis (List.cons_ne_nil before more)
  | case2 => exact notNone
  | case3 => exact notNone

theorem parentReversed?_cons
    {name : String}
    {reversed : List String}
    (noNoise : isNoise name = false)
    (notAlone : reversed ≠ []) :
    parentReversed? (name :: reversed) = some (dropNoise reversed) := by
  cases reversed with
  | nil => exact absurd rfl notAlone
  | cons before more => simp [parentReversed?, dropNoise, noNoise]

/-- The parent is spelled with segments from the front, and ends in a name if it has one. -/
theorem parentReversed?_suffix
    {reversed parent : List String}
    (isParent : parentReversed? reversed = some parent) :
    parent <:+ reversed ∧ IsTidy parent := by
  have isSuffix := dropNoise_suffix reversed
  rw [parentReversed?] at isParent
  split at isParent
  · contradiction
  · split at isParent
    · contradiction
    · cases isParent
      exact ⟨List.nil_suffix, by simp [IsTidy]⟩
  · rename_i last before _ dropped
    cases isParent
    rw [dropped] at isSuffix
    have isBefore : before <:+ reversed := (List.suffix_cons last before).trans isSuffix
    exact ⟨(dropNoise_suffix before).trans isBefore, isTidy_dropNoise before⟩

end Path

namespace FileTree

open SplitTunnel.Path (lead isNoise isTooLong IsTidy)

variable {tree : FileTree} {reached : Location} {name : String}
variable {segments before rest : List String}

theorem not_mem_of_noise
    (allNoise : ∀ segment ∈ segments, isNoise segment = true) :
    ".." ∉ segments := by
  intro member
  have noise := allNoise ".." member
  contradiction

theorem walk_noise
    (allNoise : ∀ segment ∈ segments, isNoise segment = true) :
    tree.walk [] segments = .ok [] := by
  have allShort : segments.any isTooLong = false :=
    List.any_eq_false.mpr fun segment member =>
      Bool.eq_false_iff.mp (Path.isTooLong_noise (allNoise segment member))
  have leads := Path.lead_noise allNoise []
  rw [walk_of_directory (not_mem_of_noise allNoise) (by rw [leads]; rfl), allShort, leads]
  rfl

/-- Segments that name nothing end at no place where something could be made. -/
theorem place?_noise
    (allNoise : ∀ segment ∈ segments, isNoise segment = true) :
    tree.place? segments = .ok none := by
  rw [place?]
  split
  · rfl
  · rename_i name above shape
    have kept : ∀ segment ∈ name :: above, isNoise segment = true := by
      intro segment member
      rw [← shape] at member
      exact allNoise segment (List.mem_reverse.mp ((List.dropWhile_suffix _).subset member))
    have isDot : name = "." := by
      have notEmpty := List.head?_dropWhile_not (fun segment => segment == "") segments.reverse
      rw [shape] at notEmpty
      have noise := kept name (List.mem_cons_self ..)
      simp only [isNoise, Bool.or_eq_true, beq_iff_eq] at noise
      rcases noise with isEmpty | isDot
      · simp [isEmpty] at notEmpty
      · exact isDot
    have aboveNoise : ∀ segment ∈ above.reverse, isNoise segment = true :=
      fun segment member => kept segment (List.mem_cons_of_mem _ (List.mem_reverse.mp member))
    rw [walk_noise aboveNoise]
    simp only [requireDirectory, get?_root, isDot, true_or, ↓reduceIte]
    rfl

/-- Segments that name nothing lead to a directory that is there. -/
theorem ensureDirectory_noise
    (allNoise : ∀ segment ∈ segments, isNoise segment = true) :
    tree.ensureDirectory segments = .ok tree := by
  have leads : tree.leadsToDirectory segments = true := by
    rw [leadsToDirectory, walk_noise allNoise]
    exact isDirectory_iff.mpr rfl
  rw [ensureDirectory, makeDirectory, place?_noise allNoise]
  simp [Except.bind, leads]

/-- A directory cannot be made where its parent cannot be approached. -/
theorem ensureDirectory_of_obstacle
    {fault : FileFault}
    (noNoise : isNoise name = false)
    (noStep : name ≠ "..")
    (fails : tree.approach [] before = .error fault) :
    tree.ensureDirectory (before ++ [name]) = .error fault := by
  have noPlace : tree.place? (before ++ [name]) = .error fault := by
    rw [place?_approach before noNoise noStep, fails]
    rfl
  have leadsNowhere : tree.leadsToDirectory (before ++ [name]) = false := by
    rw [leadsToDirectory, walk_concat, fails]
    rfl
  rw [ensureDirectory, makeDirectory, noPlace]
  simp [Except.bind, leadsNowhere]

theorem leadsToDirectory_of_approach
    (noNoise : isNoise name = false)
    (noStep : name ≠ "..")
    (arrives : tree.approach [] before = .ok reached) :
    tree.leadsToDirectory (before ++ [name]) =
      (!isTooLong name && tree.isDirectory (name :: reached)) := by
  rw [leadsToDirectory, walk_concat, arrives]
  simp only [Except.bind]
  rw [follow_name noNoise noStep]
  cases isTooLong name <;> rfl

theorem makeDirectory_of_approach
    (noNoise : isNoise name = false)
    (noStep : name ≠ "..")
    (arrives : tree.approach [] before = .ok reached) :
    tree.makeDirectory (before ++ [name]) =
      if isTooLong name then
        .error .nameTooLong
      else if (tree.get? (name :: reached)).isSome then
        .error .alreadyExists
      else
        .ok (tree.addDirectory (name :: reached)) := by
  rw [makeDirectory, place?_approach before noNoise noStep, arrives]
  change (Place.location _).bind _ = _
  rw [location_eq]
  cases isTooLong name <;> rfl

/-- What becomes of a single directory in a parent that is there. -/
theorem ensureDirectory_of_approach
    (noNoise : isNoise name = false)
    (noStep : name ≠ "..")
    (arrives : tree.approach [] before = .ok reached)
    (found : tree.get? reached = some .directory) :
    (∃ next,
      tree.ensureDirectory (before ++ [name]) = .ok next ∧
        tree.passage reached [name] = .ok () ∧
        Keeps (name :: reached) [] tree next ∧
        next.get? (name :: reached) = some .directory) ∨
    (∃ fault,
      tree.ensureDirectory (before ++ [name]) = .error fault ∧
        fault ≠ .notFound ∧
        tree.passage reached [name] = .error fault) := by
  rw [ensureDirectory, makeDirectory_of_approach noNoise noStep arrives,
    leadsToDirectory_of_approach noNoise noStep arrives]
  cases isLong : isTooLong name with
  | true => exact Or.inr ⟨.nameTooLong, rfl, by decide, by simp [passage, noNoise, isLong]⟩
  | false =>
      have passes : tree.passage reached [name] =
          if tree.isFile (name :: reached) then .error .alreadyExists else .ok () := by
        simp [passage, noNoise, isLong]
      cases stored : tree.get? (name :: reached) with
      | none =>
          refine Or.inl ⟨tree.addDirectory (name :: reached), rfl, ?_, ?_, ?_⟩
          · simp [passes, isFile, stored]
          · intro place _
            by_cases isHere : place = name :: reached
            · subst isHere
              exact Or.inr ⟨stored, get?_addDirectory_self found stored, List.suffix_refl _⟩
            · exact Or.inl (get?_addDirectory_of_ne isHere)
          · exact get?_addDirectory_self found stored
      | some entry =>
          cases entry with
          | directory =>
              refine Or.inl ⟨tree, ?_, ?_, Keeps.refl tree, stored⟩
              · simp [isDirectory, stored]
              · simp [passes, isFile, stored]
          | file content =>
              refine Or.inr ⟨.alreadyExists, ?_, by decide, ?_⟩
              · simp [isDirectory, stored]
              · simp [passes, isFile, stored]

/--
What making a directory and those above it comes to: it succeeds if nothing is
in the way, makes missing directories only, and leaves a directory at the end.
-/
structure Ensured
    (tree : FileTree)
    (segments : List String)
    (outcome : FileTree × Except FileFault Unit) :
    Prop where
  result : outcome.2 = tree.passage [] segments
  kept : Keeps (lead [] segments) [] tree outcome.1
  isThere : outcome.2 = .ok () → outcome.1.get? (lead [] segments) = some .directory

/-- Nothing has to be made for segments that name nothing. -/
theorem Ensured.ofNoise
    (allNoise : ∀ segment ∈ segments, isNoise segment = true) :
    Ensured tree segments (tree, .ok ()) where
  result := (passage_noise allNoise).symm
  kept := Keeps.refl tree
  isThere _ := by
    rw [Path.lead_noise allNoise]
    rfl

/-- Segments that name nothing may follow. -/
theorem Ensured.withNoise
    {outcome : FileTree × Except FileFault Unit}
    (ensured : Ensured tree segments outcome)
    (allNoise : ∀ segment ∈ rest, isNoise segment = true) :
    Ensured tree (segments ++ rest) outcome where
  result := by
    rw [passage_append_noise allNoise]
    exact ensured.result
  kept := by
    rw [Path.lead_append_noise allNoise]
    exact ensured.kept
  isThere := by
    rw [Path.lead_append_noise allNoise]
    exact ensured.isThere

/-- A directory in a parent that is there is made at once. -/
theorem Ensured.ofApproach
    (noNoise : isNoise name = false)
    (noStep : ".." ∉ before ++ [name])
    (arrives : tree.approach [] before = .ok reached) :
    Ensured tree (before ++ [name])
      (match tree.ensureDirectory (before ++ [name]) with
      | .error fault => (tree, .error fault)
      | .ok next => (next, .ok ())) ∧
      tree.ensureDirectory (before ++ [name]) ≠ .error .notFound := by
  have beforeStays : ".." ∉ before :=
    fun member => noStep (List.mem_append_left _ member)
  have nameStays : name ≠ ".." :=
    fun isStep => noStep (List.mem_append_right _ (List.mem_singleton.mpr isStep.symm))
  obtain ⟨isReached, found, passes⟩ := passage_of_approach beforeStays rfl arrives [name]
  have leads : lead [] (before ++ [name]) = name :: reached := by
    rw [Path.lead_append, Path.lead_cons_name noNoise, Path.lead_nil, isReached]
  rcases ensureDirectory_of_approach noNoise nameStays arrives found with
    ⟨next, ensured, passesName, kept, isThere⟩ | ⟨fault, failed, isOther, failsName⟩
  · rw [ensured]
    refine ⟨⟨?_, ?_, ?_⟩, by simp⟩
    · rw [passes, passesName]
    · rw [leads]
      exact kept
    · intro _
      rw [leads]
      exact isThere
  · rw [failed]
    refine ⟨⟨?_, Keeps.refl tree, ?_⟩, by simpa using isOther⟩
    · rw [passes, failsName]
    · intro isOk
      cases isOk

/-- A directory is made after its missing parent. -/
theorem Ensured.ofParent
    {parent : FileTree × Except FileFault Unit}
    (noNoise : isNoise name = false)
    (noStep : ".." ∉ before ++ [name])
    (isMissing : tree.approach [] before = .error .notFound) :
    Ensured tree before parent →
      Ensured tree (before ++ [name])
        (match parent with
        | (next, .error fault) => (next, .error fault)
        | (next, .ok ()) =>
            match next.ensureDirectory (before ++ [name]) with
            | .error fault => (next, .error fault)
            | .ok final => (final, .ok ())) := by
  intro parentEnsured
  have beforeStays : ".." ∉ before :=
    fun member => noStep (List.mem_append_left _ member)
  have isBelow : lead [] before <:+ lead [] (before ++ [name]) := by
    rw [Path.lead_append]
    exact Path.suffix_lead _ _
  obtain ⟨next, result⟩ := parent
  obtain ⟨parentResult, parentKept, parentThere⟩ := parentEnsured
  cases result with
  | error fault =>
      have noFile : tree.isFile (lead [] before) = false := by
        rw [isFile, get?_of_approach beforeStays rfl isMissing]
      refine ⟨?_, parentKept.mono isBelow (by simp), ?_⟩
      · exact (passage_append_error parentResult.symm noFile [name]).symm
      · intro isOk
        cases isOk
  | ok _ =>
      have passes : tree.passage [] before = .ok () := parentResult.symm
      have arrives : next.approach [] before = .ok (lead [] before) :=
        approach_of_directory beforeStays (parentThere rfl) (isTooLong_of_passage passes)
      obtain ⟨⟨result, kept, isThere⟩, _⟩ := Ensured.ofApproach noNoise noStep arrives
      refine ⟨?_, ?_, isThere⟩
      · refine result.trans (passage_congr ?_).symm
        intro place _
        exact (parentKept.isFile_eq (List.not_mem_nil)).symm
      · exact (parentKept.mono isBelow (by simp)).trans kept

section Reversed

variable {others : List String}

/-- Nothing more is tried unless a directory is missing above. -/
theorem ensureReversed_once
    (isOther : tree.ensureDirectory (others.reverse ++ [name]) ≠ .error .notFound) :
    tree.ensureReversed (name :: others) =
      match tree.ensureDirectory (others.reverse ++ [name]) with
      | .error fault => (tree, .error fault)
      | .ok next => (next, .ok ()) := by
  rw [ensureReversed.eq_def, if_neg (List.cons_ne_nil name others), List.reverse_cons]
  cases made : tree.ensureDirectory (others.reverse ++ [name]) with
  | ok next => rfl
  | error fault =>
      rw [made] at isOther
      cases fault <;>
        first
          | exact absurd rfl isOther
          | rfl

/-- Where the parent is there, no other directory is made. -/
theorem ensured_of_reached
    (noNoise : isNoise name = false)
    (noStep : ".." ∉ others.reverse ++ [name])
    (arrives : tree.approach [] others.reverse = .ok reached) :
    Ensured tree (others.reverse ++ [name]) (tree.ensureReversed (name :: others)) := by
  obtain ⟨ensured, isOther⟩ := Ensured.ofApproach noNoise noStep arrives
  rw [ensureReversed_once isOther]
  exact ensured

/-- Where more than a directory is missing above, nothing is made. -/
theorem ensured_of_obstacle
    {fault : FileFault}
    (noNoise : isNoise name = false)
    (noStep : ".." ∉ others.reverse ++ [name])
    (fails : tree.approach [] others.reverse = .error fault)
    (isObstacle : fault ≠ .notFound) :
    Ensured tree (others.reverse ++ [name]) (tree.ensureReversed (name :: others)) := by
  have othersStay : ".." ∉ others.reverse :=
    fun member => noStep (List.mem_append_left _ member)
  have nameStays : name ≠ ".." :=
    fun isStep => noStep (List.mem_append_right _ (List.mem_singleton.mpr isStep.symm))
  have blocked := passage_of_obstacle othersStay rfl fails isObstacle noNoise
  have refused := ensureDirectory_of_obstacle noNoise nameStays fails
  have isOther : tree.ensureDirectory (others.reverse ++ [name]) ≠ .error .notFound := by
    simpa [refused] using isObstacle
  rw [ensureReversed_once isOther, refused]
  exact ⟨blocked.symm, Keeps.refl tree, by simp⟩

/-- Where the parent is missing, it is made first. -/
theorem ensured_of_missing
    (noNoise : isNoise name = false)
    (noStep : ".." ∉ others.reverse ++ [name])
    (isMissing : tree.approach [] others.reverse = .error .notFound)
    (parentEnsured :
      Ensured tree (Path.dropNoise others).reverse
        (tree.ensureReversed (Path.dropNoise others))) :
    Ensured tree (others.reverse ++ [name]) (tree.ensureReversed (name :: others)) := by
  have nameStays : name ≠ ".." :=
    fun isStep => noStep (List.mem_append_right _ (List.mem_singleton.mpr isStep.symm))
  have notAlone : others ≠ [] := by
    intro isAlone
    subst isAlone
    contradiction
  obtain ⟨dropped, othersShape, allNoise⟩ := Path.exists_dropNoise others
  have droppedNoise : ∀ segment ∈ dropped.reverse, isNoise segment = true :=
    fun segment member => allNoise segment (List.mem_reverse.mp member)
  have aboveEnsured := parentEnsured.withNoise droppedNoise
  rw [← List.reverse_append, ← othersShape] at aboveEnsured
  have parentShape := Path.parentReversed?_cons noNoise notAlone
  rw [ensureReversed.eq_def, if_neg (List.cons_ne_nil name others), List.reverse_cons,
    ensureDirectory_of_obstacle noNoise nameStays isMissing]
  dsimp only
  split
  · rename_i hasNone
    rw [parentShape] at hasNone
    contradiction
  · rename_i parent hasParent
    rw [parentShape] at hasParent
    cases hasParent
    exact Ensured.ofParent noNoise noStep isMissing aboveEnsured

end Reversed

/-- Making a directory and those above it comes to what it should. -/
theorem ensured_ensureReversed
    (tree : FileTree)
    (reversed : List String)
    (noStep : ".." ∉ reversed)
    (tidy : IsTidy reversed) :
    Ensured tree reversed.reverse (tree.ensureReversed reversed) := by
  by_cases allNoise : ∀ segment ∈ reversed, isNoise segment = true
  · have allNoise' : ∀ segment ∈ reversed.reverse, isNoise segment = true :=
      fun segment member => allNoise segment (List.mem_reverse.mp member)
    have unchanged : tree.ensureReversed reversed = (tree, .ok ()) := by
      rw [ensureReversed.eq_def]
      split
      · rfl
      · rw [ensureDirectory_noise allNoise']
    rw [unchanged]
    exact Ensured.ofNoise allNoise'
  · cases shape : reversed with
    | nil => simp [shape] at allNoise
    | cons name others =>
        rw [shape] at noStep tidy allNoise
        have noNoise : isNoise name = false := by
          cases noise : isNoise name with
          | false => rfl
          | true => exact absurd (tidy name rfl noise) allNoise
        have noStep' : ".." ∉ others.reverse ++ [name] := by
          rw [← List.reverse_cons]
          exact fun member => noStep (List.mem_reverse.mp member)
        rw [List.reverse_cons]
        cases approached : tree.approach [] others.reverse with
        | ok reached => exact ensured_of_reached noNoise noStep' approached
        | error fault =>
            by_cases isMissing : fault = .notFound
            · subst isMissing
              have parentStays : ".." ∉ Path.dropNoise others := fun member =>
                noStep (List.mem_cons_of_mem _ ((Path.dropNoise_suffix others).subset member))
              exact ensured_of_missing noNoise noStep' approached
                (ensured_ensureReversed tree (Path.dropNoise others) parentStays
                  (Path.isTidy_dropNoise others))
            · exact ensured_of_obstacle noNoise noStep' approached isMissing
termination_by reversed.length
decreasing_by
  rw [shape]
  exact Nat.lt_succ_of_le (Path.length_dropNoise_le others)

end FileTree

end SplitTunnel
