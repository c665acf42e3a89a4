import SplitTunnel.Lock
import SplitTunnel.Proofs.FileTree.Remaking

namespace SplitTunnel

/-!
# What is added on the way to a file

Making directories and opening a file take nothing away.  What they add are
directories at the locations that the path passes, and an empty file at its end,
so whoever only opens a file leaves all else as it was.
-/

open SplitTunnel.Path (isNoise parentReversed? resolve)

/-- A location that a path passes before its last name. -/
def Path.Passes (path : Path) (place : Location) : Prop :=
  ∃ leading, leading <+: path.segments.dropLast ∧ resolve [] leading = place

namespace FileTree

variable {tree middle next : FileTree} {first second : Location → Entry → Prop}
variable {location : Location} {segments : List String} {path : Path} {content : List UInt8}

/-- Every entry stays as it is, and only some entries are added. -/
structure AddsOnly
    (added : Location → Entry → Prop)
    (tree next : FileTree) :
    Prop where
  kept : Extends tree next
  added :
    ∀ place entry, tree.get? place = none → next.get? place = some entry → added place entry

/-- A directory at a location that segments pass or lead to. -/
def IsDirectoryAlong (segments : List String) (place : Location) (entry : Entry) : Prop :=
  entry = .directory ∧ ∃ leading, leading <+: segments ∧ resolve [] leading = place

namespace AddsOnly

theorem refl (tree : FileTree) : AddsOnly first tree tree where
  kept := Extends.refl tree
  added place entry isMissing found := by
    rw [isMissing] at found
    cases found

theorem trans
    (before : AddsOnly first tree middle)
    (after : AddsOnly first middle next) :
    AddsOnly first tree next where
  kept := before.kept.trans after.kept
  added place entry isMissing found := by
    cases between : middle.get? place with
    | none => exact after.added place entry between found
    | some earlier =>
        have stays := after.kept place earlier between
        rw [found] at stays
        cases stays
        exact before.added place entry isMissing between

theorem mono
    (adds : AddsOnly first tree next)
    (included : ∀ place entry, first place entry → second place entry) :
    AddsOnly second tree next where
  kept := adds.kept
  added place entry isMissing found :=
    included place entry (adds.added place entry isMissing found)

end AddsOnly

/-- The content of a file can still be read where entries are only added. -/
theorem Extends.fileContent_eq
    (extended : Extends tree next)
    (read : tree.fileContent path = .ok content) :
    next.fileContent path = .ok content := by
  rw [fileContent] at read
  split at read
  · contradiction
  · contradiction
  · rename_i location stored found
    cases read
    obtain ⟨reached, located, found⟩ := bind_eq_ok found
    obtain ⟨segments, checked, walked⟩ := bind_eq_ok located
    split at found
    · contradiction
    · rename_i entry isThere
      cases found
      have stillLocated : next.locate path = .ok location := by
        rw [locate, checked]
        exact extended.keepsDirectories.walk_eq walked
      rw [fileContent, find, stillLocated]
      simp only [Except.bind, extended location _ isThere]

/-- A directory that is made stands where its segments lead. -/
theorem addsOnly_ensureDirectory
    (ensured : tree.ensureDirectory segments = .ok next) :
    AddsOnly (IsDirectoryAlong segments) tree next where
  kept := extends_ensureDirectory ensured
  added place entry isMissing found := by
    rw [ensureDirectory] at ensured
    split at ensured
    · rename_i made
      cases ensured
      obtain ⟨child, location, placed, located, isFree, rfl⟩ := makeDirectory_eq_ok made
      obtain ⟨_, rfl⟩ := location_of_place located
      by_cases isHere : place = child.name :: child.parent
      · subst isHere
        obtain ⟨_, _, _, _, _, _, arrives, _⟩ := place?_eq_some placed
        obtain ⟨_, isParent⟩ := approach_eq_ok_iff.mp arrives
        rw [get?_addDirectory_self isParent isFree] at found
        cases found
        exact ⟨rfl, segments, List.prefix_refl segments, resolve_of_place placed⟩
      · rw [get?_addDirectory_of_ne isHere, isMissing] at found
        cases found
    · split at ensured
      · cases ensured
        rw [isMissing] at found
        cases found
      · contradiction

/-- The directories that are made stand where leading segments lead. -/
theorem addsOnly_ensureReversed
    (tree : FileTree)
    (reversed : List String) :
    AddsOnly (IsDirectoryAlong reversed.reverse) tree (tree.ensureReversed reversed).1 := by
  rw [ensureReversed.eq_def]
  split
  · exact .refl tree
  · split
    · rename_i ensured
      exact addsOnly_ensureDirectory ensured
    · split
      · exact .refl tree
      · rename_i parent isParent
        have isPrefix := List.reverse_prefix.mpr (Path.parentReversed?_suffix isParent).1
        have parentAdds : AddsOnly (IsDirectoryAlong reversed.reverse) tree
            (tree.ensureReversed parent).1 := by
          refine (addsOnly_ensureReversed tree parent).mono ?_
          rintro place entry ⟨isDirectory, leading, isLeading, leads⟩
          exact ⟨isDirectory, leading, isLeading.trans isPrefix, leads⟩
        split
        · rename_i made
          rw [made] at parentAdds
          exact parentAdds
        · rename_i made
          rw [made] at parentAdds
          split
          · exact parentAdds
          · rename_i ensured
            exact parentAdds.trans (addsOnly_ensureDirectory ensured)
    · exact .refl tree
termination_by reversed.length
decreasing_by exact Path.length_parentReversed?_lt (by assumption)

theorem addsOnly_makeDirectories
    (tree : FileTree)
    (path : Path) :
    AddsOnly (IsDirectoryAlong path.segments) tree (tree.makeDirectories path).1 := by
  rw [makeDirectories]
  split
  · exact .refl tree
  · split
    · exact .refl tree
    · rename_i segments checked
      have adds := addsOnly_ensureReversed tree segments.reverse
      rw [List.reverse_reverse, Path.segments_of_checked checked] at adds
      rw [Path.segments_of_checked checked]
      exact adds

/-- A file that is opened is empty if it was not there. -/
theorem addsOnly_touch
    (touched : tree.touch path = .ok next) :
    AddsOnly (fun place entry => place = path.canonical ∧ entry = .file []) tree next where
  kept := extends_touch touched
  added place entry isMissing found := by
    obtain ⟨location, points, isFree, rfl⟩ := touch_eq_ok touched
    split at found
    · by_cases isHere : place = location
      · subst isHere
        obtain ⟨name, directory, rfl, isDirectory⟩ := points.inDirectory
        rw [get?_putFile_self isDirectory isFree] at found
        cases found
        exact ⟨points.canonical_eq.symm, rfl⟩
      · rw [get?_putFile_of_ne isHere, isMissing] at found
        cases found
    · rw [isMissing] at found
      cases found

end FileTree

/-- What opening a file may add: the file, empty, and directories that its path passes. -/
def Path.MayGain (path : Path) (place : Location) (entry : Entry) : Prop :=
  (place = path.canonical ∧ entry = .file []) ∨ (entry = .directory ∧ path.Passes place)

namespace DiskStep

open FileTree (AddsOnly IsDirectoryAlong)

variable {tree : FileTree} {path : Path} {before : List String} {name : String}

/-- The directories that are made for a file are those that its path passes. -/
theorem addsOnly_makeParent
    (tree : FileTree)
    (segmentsShape : path.segments = before ++ [name])
    (noNoise : isNoise name = false) :
    AddsOnly path.MayGain tree (runAll tree (makeParent path)).1 := by
  rw [makeParent]
  rcases Path.writtenParent?_concat segmentsShape noNoise with
    ⟨noParent, _⟩ | ⟨isParent, _, _, spelled⟩
  · rw [noParent]
    exact .refl tree
  · rw [isParent]
    dsimp only
    rw [runAll_singleton, run]
    refine (FileTree.addsOnly_makeDirectories tree _).mono ?_
    rintro place entry ⟨isDirectory, leading, isLeading, leads⟩
    have leadingSegments : (Path.dropNoise before.reverse).reverse <+: before := by
      have isPrefix := List.reverse_prefix.mpr (Path.dropNoise_suffix before.reverse)
      rwa [List.reverse_reverse] at isPrefix
    refine Or.inr ⟨isDirectory, ?_⟩
    rw [Path.Passes, segmentsShape, List.dropLast_concat]
    rcases spelled with sameSegments | ⟨isRoot, rootSegments⟩
    · rw [sameSegments] at isLeading
      exact ⟨leading, isLeading.trans leadingSegments, leads⟩
    · -- The root is spelled with a segment more, but both segments lead nowhere else.
      rw [rootSegments] at isLeading
      have allNoise : ∀ segment ∈ leading, isNoise segment = true := by
        intro segment member
        have isEmpty : segment = "" := by simpa using isLeading.subset member
        rw [isEmpty]
        rfl
      rw [Path.resolve_noise allNoise] at leads
      exact ⟨[], List.nil_prefix, leads⟩

end DiskStep

namespace Lock

open FileTree (AddsOnly)

variable {path : Path} {before : List String} {name : String}

/-- Opening a lock file adds it, empty, and the directories that its path passes at most. -/
theorem addsOnly_opening
    (tree : FileTree)
    (segmentsShape : path.segments = before ++ [name])
    (noNoise : isNoise name = false) :
    AddsOnly path.MayGain tree (DiskStep.runAll tree (opening path)).1 := by
  have parentAdds := DiskStep.addsOnly_makeParent tree segmentsShape noNoise
  rw [opening, DiskStep.runAll_append]
  cases made : DiskStep.runAll tree (DiskStep.makeParent path) with
  | mk between result =>
      rw [made] at parentAdds
      cases result with
      | error failed => exact parentAdds
      | ok _ =>
          dsimp only
          rw [DiskStep.runAll_singleton, DiskStep.run]
          cases touched : between.touch path with
          | error fault => exact parentAdds
          | ok next =>
              exact parentAdds.trans
                ((FileTree.addsOnly_touch touched).mono fun _ _ => Or.inl)

end Lock

end SplitTunnel
