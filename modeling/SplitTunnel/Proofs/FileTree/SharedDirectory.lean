import SplitTunnel.Proofs.FileTree.Remaking

namespace SplitTunnel

/-!
# The directory that files share

Paths that end in names after the same segments share a directory.  It is made in
the same way for each of them, and once that was tried, nothing changes any more:
a directory that was made is there, and one that could not be made still cannot.
-/

namespace Path

open FileTree (approach)

variable {path other : Path} {before : List String} {name otherName : String}

/-- A path ends in a name after some segments. -/
structure EndsIn (path : Path) (before : List String) (name : String) : Prop where
  shape : path.segments = before ++ [name]
  noNoise : isNoise name = false
  noStep : name ≠ ".."

theorem EndsIn.canonical_eq
    (ends : path.EndsIn before name) :
    path.canonical = name :: resolve [] before := by
  rw [canonical, ends.shape, resolve_append, resolve_name ends.noNoise ends.noStep]

/-- Names after the same segments have the same parent. -/
theorem EndsIn.writtenParent?_eq
    (ends : path.EndsIn before name)
    (otherEnds : other.EndsIn before otherName) :
    path.writtenParent? = other.writtenParent? := by
  rcases writtenParent?_concat ends.shape ends.noNoise with
    ⟨noParent, isAlone⟩ | ⟨isParent, notAlone, _⟩
  · rcases writtenParent?_concat otherEnds.shape otherEnds.noNoise with
      ⟨noOther, _⟩ | ⟨_, notAlone, _⟩
    · rw [noParent, noOther]
    · exact absurd isAlone notAlone
  · rcases writtenParent?_concat otherEnds.shape otherEnds.noNoise with
      ⟨_, isAlone⟩ | ⟨isOtherParent, _⟩
    · exact absurd isAlone notAlone
    · rw [isParent, isOtherParent]

/-- What is dropped names nothing. -/
theorem dropNoise_append_name
    {trailing rest : List String}
    (allNoise : ∀ segment ∈ trailing, isNoise segment = true)
    (noNoise : isNoise name = false) :
    dropNoise (trailing ++ name :: rest) = name :: rest := by
  induction trailing with
  | nil => cases rest <;> simp [dropNoise, noNoise]
  | cons segment others inductionHypothesis =>
      have noise := allNoise segment (List.mem_cons_self ..)
      have dropped := inductionHypothesis fun other member =>
        allNoise other (List.mem_cons_of_mem _ member)
      cases others with
      | nil =>
          rw [List.singleton_append, dropNoise, if_pos noise]
          exact dropped
      | cons second more =>
          rw [List.cons_append, List.cons_append, dropNoise, if_pos noise]
          exact dropped

end Path

namespace FileTree

open SplitTunnel.Path (isNoise isTooLong parentReversed? resolve)

variable {tree next : FileTree} {start reached : Location} {path : Path} {name : String}
variable {segments before rest reversed parent : List String} {fault : FileFault}

section Approaching

/-- The way to a directory passes through directories only. -/
theorem approach_of_append
    (arrives : tree.approach start (segments ++ rest) = .ok reached) :
    ∃ between, tree.approach start segments = .ok between := by
  obtain ⟨walked, isThere⟩ := approach_eq_ok_iff.mp arrives
  rw [walk_append] at walked
  obtain ⟨between, walkedThere, walked⟩ := bind_eq_ok walked
  refine ⟨between, approach_eq_ok_iff.mpr ⟨walkedThere, ?_⟩⟩
  cases rest with
  | nil =>
      cases walked
      exact isThere
  | cons segment others =>
      rw [walk_cons] at walked
      obtain ⟨_, required, _⟩ := bind_eq_ok walked
      exact requireDirectory_eq_ok.mp required

/-- Segments that name nothing lead on to the same directory. -/
theorem approach_append_noise
    (arrives : tree.approach start segments = .ok reached)
    (allNoise : ∀ segment ∈ rest, isNoise segment = true) :
    tree.approach start (segments ++ rest) = .ok reached := by
  obtain ⟨walked, isThere⟩ := approach_eq_ok_iff.mp arrives
  have allShort : rest.any isTooLong = false :=
    List.any_eq_false.mpr fun segment member =>
      Bool.eq_false_iff.mp (Path.isTooLong_noise (allNoise segment member))
  have leads := Path.lead_noise allNoise reached
  refine approach_eq_ok_iff.mpr ⟨?_, isThere⟩
  rw [walk_append, walked]
  change tree.walk reached rest = _
  rw [walk_of_directory (not_mem_of_noise allNoise) (by rw [leads]; exact isThere), allShort,
    leads]
  rfl

theorem resolve_of_approach
    (arrives : tree.approach start segments = .ok reached) :
    resolve start segments = reached :=
  resolve_of_walk (approach_eq_ok_iff.mp arrives).1

end Approaching

section Failing

/-- A directory is there whose child was made or found. -/
theorem leadsToDirectory_of_ensured_child
    (ensured : tree.ensureDirectory reversed.reverse = .ok next)
    (isParent : parentReversed? reversed = some parent) :
    parent = [] ∨ tree.leadsToDirectory parent.reverse = true := by
  rw [ensureDirectory] at ensured
  split at ensured
  · rename_i made
    obtain ⟨place, _, placed, _⟩ := makeDirectory_eq_ok made
    obtain ⟨others, trailing, shape, allNoise, noNoise, _, arrives, _⟩ := place?_eq_some placed
    have reversedShape : reversed = trailing.reverse ++ place.name :: others.reverse := by
      have reversedTwice := congrArg List.reverse shape
      simpa using reversedTwice
    have dropped : Path.dropNoise reversed = place.name :: others.reverse := by
      rw [reversedShape]
      exact Path.dropNoise_append_name
        (fun segment member => allNoise segment (List.mem_reverse.mp member)) noNoise
    rw [parentReversed?, dropped] at isParent
    split at isParent
    · contradiction
    · split at isParent
      · contradiction
      · cases isParent
        exact Or.inl rfl
    · rename_i between _ isCons
      cases isCons
      cases isParent
      right
      -- The parent is the place's own, without the segments that name nothing.
      obtain ⟨noise, othersShape, _⟩ := Path.exists_dropNoise others.reverse
      have forward := congrArg List.reverse othersShape
      rw [List.reverse_reverse, List.reverse_append] at forward
      rw [forward] at arrives
      exact leadsToDirectory_iff.mpr (approach_of_append arrives)
  · split at ensured
    · rename_i leads
      obtain ⟨location, arrives⟩ := leadsToDirectory_iff.mp leads
      obtain ⟨more, shape⟩ := List.reverse_prefix.mpr (Path.parentReversed?_suffix isParent).1
      rw [← shape] at arrives
      exact Or.inr (leadsToDirectory_iff.mpr (approach_of_append arrives))
    · contradiction

/-- Directories that are there are not made again. -/
theorem ensureReversed_of_leadsToDirectory
    (leads : reversed = [] ∨ tree.leadsToDirectory reversed.reverse = true) :
    tree.ensureReversed reversed = (tree, .ok ()) := by
  by_cases isEmpty : reversed = []
  · rw [ensureReversed.eq_def, if_pos isEmpty]
  · rw [ensureReversed.eq_def, if_neg isEmpty,
      ensureDirectory_of_leadsToDirectory (leads.resolve_left isEmpty)]

/-- A directory that is not there and whose parents are there or cannot be made is not made. -/
theorem ensureReversed_fails
    (notEmpty : reversed ≠ [])
    (notThere : tree.ensureDirectory reversed.reverse = .error fault)
    (above :
      ∀ parent, parentReversed? reversed = some parent →
        tree.ensureReversed parent = (tree, .ok ()) ∨
          ∃ obstacle, (tree.ensureReversed parent).2 = .error obstacle) :
    ∃ obstacle, (tree.ensureReversed reversed).2 = .error obstacle := by
  rw [ensureReversed.eq_def, if_neg notEmpty, notThere]
  cases fault with
  | notFound =>
      dsimp only
      split
      · exact ⟨_, rfl⟩
      · rename_i parent isParent
        rcases above parent isParent with isThere | ⟨obstacle, fails⟩
        · rw [isThere]
          dsimp only
          rw [notThere]
          exact ⟨_, rfl⟩
        · split
          · exact ⟨_, rfl⟩
          · rename_i made
            rw [made] at fails
            cases fails
  | _ => exact ⟨_, rfl⟩

/-- Directories that could not be made cannot be made by whoever tries again. -/
theorem ensureReversed_fails_again
    (reversed : List String)
    (failed : tree.ensureReversed reversed = (next, .error fault)) :
    ∃ again, (next.ensureReversed reversed).2 = .error again := by
  have first := failed
  rw [ensureReversed.eq_def] at failed
  split at failed
  · cases failed
  · rename_i notEmpty
    split at failed
    · cases failed
    · rename_i notThere
      split at failed
      · -- There is nothing above that could be made.
        cases failed
        exact ⟨_, congrArg Prod.snd first⟩
      · rename_i parent isParent
        split at failed
        · -- The parent could not be made, so the directory cannot be there either.
          rename_i parentFailed
          cases failed
          obtain ⟨again, failsAgain⟩ := ensureReversed_fails_again parent parentFailed
          have notLeads : ¬(parent = [] ∨ next.leadsToDirectory parent.reverse = true) := by
            intro leads
            rw [ensureReversed_of_leadsToDirectory leads] at failsAgain
            cases failsAgain
          cases ensured : next.ensureDirectory reversed.reverse with
          | ok final => exact absurd (leadsToDirectory_of_ensured_child ensured isParent) notLeads
          | error obstacle =>
              refine ensureReversed_fails notEmpty ensured fun other isOther => Or.inr ?_
              rw [isParent] at isOther
              cases isOther
              exact ⟨again, failsAgain⟩
        · rename_i between parentMade
          split at failed
          · -- The parent is there by now, and the directory could not be made in it.
            rename_i childFailed
            cases failed
            refine ensureReversed_fails notEmpty childFailed fun other isOther => Or.inl ?_
            rw [isParent] at isOther
            cases isOther
            apply ensureReversed_of_leadsToDirectory
            by_cases isEmpty : parent = []
            · exact Or.inl isEmpty
            · exact Or.inr (leadsToDirectory_of_ensureReversed parentMade isEmpty)
          · cases failed
    · cases failed
      exact ⟨_, congrArg Prod.snd first⟩
termination_by reversed.length
decreasing_by exact Path.length_parentReversed?_lt (by assumption)

theorem makeDirectories_fails_again
    (failed : tree.makeDirectories path = (next, .error fault)) :
    ∃ again, (next.makeDirectories path).2 = .error again := by
  rw [makeDirectories] at failed ⊢
  split at failed
  · cases failed
  · rename_i notEmpty
    rw [if_neg notEmpty]
    split at failed
    · cases failed
      exact ⟨_, rfl⟩
    · exact ensureReversed_fails_again _ failed

end Failing

end FileTree

namespace DiskStep

open FileTree (KeepsDirectories)
open SplitTunnel.Path (resolve)

variable {tree next : FileTree} {path other : Path} {before : List String}
variable {name otherName : String} {failed : AccessFault}

/-- The directory of names after the same segments is made in the same way. -/
theorem makeParent_eq
    (ends : path.EndsIn before name)
    (otherEnds : other.EndsIn before otherName) :
    makeParent path = makeParent other := by
  rw [makeParent, makeParent, ends.writtenParent?_eq otherEnds]

/-- A directory that was made is approached by the segments before the name. -/
theorem approach_of_makeParent
    (ends : path.EndsIn before name)
    (made : runAll tree (makeParent path) = (next, .ok ())) :
    next.approach [] before = .ok (resolve [] before) := by
  rcases Path.writtenParent?_concat ends.shape ends.noNoise with
    ⟨_, rfl⟩ | ⟨isParent, notAlone, hasText, spelled⟩
  · exact FileTree.approach_nil rfl
  · rw [makeParent, isParent] at made
    obtain ⟨between, made, ended⟩ := runAll_cons_eq_ok made
    cases ended
    obtain ⟨dropped, shape, allNoise⟩ := Path.exists_dropNoise before.reverse
    have forward : before = (Path.dropNoise before.reverse).reverse ++ dropped.reverse := by
      have reversedTwice := congrArg List.reverse shape
      rwa [List.reverse_reverse, List.reverse_append] at reversedTwice
    have restNoise : ∀ segment ∈ dropped.reverse, Path.isNoise segment = true :=
      fun segment member => allNoise segment (List.mem_reverse.mp member)
    have arrives :
        ∃ reached, next.approach [] (Path.dropNoise before.reverse).reverse = .ok reached := by
      rcases spelled with sameSegments | ⟨isRoot, _⟩
      · rw [run, FileTree.makeDirectories, if_neg hasText] at made
        split at made
        · cases made
        · rename_i segments checked
          rw [Path.segments_of_checked checked, sameSegments, List.reverse_reverse] at made
          have notEmpty : Path.dropNoise before.reverse ≠ [] :=
            Path.dropNoise_ne_nil (by simpa using notAlone)
          exact FileTree.leadsToDirectory_iff.mp
            (FileTree.leadsToDirectory_of_ensureReversed made notEmpty)
      · -- The root is spelled with a segment more, and is always there.
        rw [isRoot]
        exact ⟨[], FileTree.approach_noise rfl rfl []⟩
    obtain ⟨reached, arrives⟩ := arrives
    have whole := FileTree.approach_append_noise arrives restNoise
    rw [← forward] at whole
    rw [whole, FileTree.resolve_of_approach whole]

/-- A directory that could not be made cannot be made by whoever tries again. -/
theorem runAll_makeParent_fails_again
    (made : runAll tree (makeParent path) = (next, .error failed)) :
    ∃ again, (runAll next (makeParent path)).2 = .error again := by
  rw [makeParent] at made ⊢
  split at made
  · cases made
  · rename_i parent _
    rw [runAll_singleton] at made ⊢
    cases ran : run tree (.makeDirectories parent) with
    | mk reached result =>
        rw [ran] at made
        cases result with
        | ok _ => cases made
        | error fault =>
            cases made
            obtain ⟨again, failsAgain⟩ := FileTree.makeDirectories_fails_again ran
            exact ⟨{ action := .create, path := parent, fault := again }, by
              rw [run, failsAgain]
              rfl⟩

end DiskStep

end SplitTunnel
