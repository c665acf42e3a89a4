import SplitTunnel.Proofs.FileTree.SharedDirectory

namespace SplitTunnel

/-!
# Trees that look alike to some files

What steps on files do depends on the directories of a tree and on the entries
that they look at.  So the same steps end alike in two trees that agree on these,
and steps elsewhere do not disturb the likeness.  A file that is written is the
same in both afterwards, whatever was there.
-/

namespace FileTree

open SplitTunnel.Path (isTooLong)

variable {tree other third next : FileTree} {own fewer : List Location}
variable {location place : Location}
variable {content : List UInt8} {path source target : Path} {before : List String}
variable {directory : Location} {name : String}

/-- Two trees have the same directories, and the same entries at some locations. -/
structure Alike (own : List Location) (tree other : FileTree) : Prop where
  directories :
    ∀ place, tree.get? place = some .directory ↔ other.get? place = some .directory
  entries : ∀ place ∈ own, tree.get? place = other.get? place

namespace Alike

theorem refl (tree : FileTree) : Alike own tree tree :=
  ⟨fun _ => Iff.rfl, fun _ _ => rfl⟩

theorem symm
    (alike : Alike own tree other) :
    Alike own other tree :=
  ⟨fun place => (alike.directories place).symm, fun place isOwn => (alike.entries place isOwn).symm⟩

theorem trans
    (first : Alike own tree other)
    (second : Alike own other third) :
    Alike own tree third :=
  ⟨fun place => (first.directories place).trans (second.directories place),
    fun place isOwn => (first.entries place isOwn).trans (second.entries place isOwn)⟩

theorem mono
    (alike : Alike own tree other)
    (isSubset : fewer ⊆ own) :
    Alike fewer tree other :=
  ⟨alike.directories, fun place isOwn => alike.entries place (isSubset isOwn)⟩

theorem keepsDirectories
    (alike : Alike own tree other) :
    KeepsDirectories tree other :=
  fun place => (alike.directories place).mp

theorem isDirectory_eq
    (alike : Alike own tree other)
    (place : Location) :
    tree.isDirectory place = other.isDirectory place := by
  rw [Bool.eq_iff_iff, isDirectory_iff, isDirectory_iff]
  exact alike.directories place

end Alike

section Changes

/-- Writing a file neither makes nor removes a directory. -/
theorem directory_putFile_iff :
    (tree.putFile location content).get? place = some .directory ↔
      tree.get? place = some .directory := by
  refine ⟨fun found => ?_, keepsDirectories_putFile tree location content place⟩
  by_cases isHere : place = location
  · subst isHere
    cases place with
    | nil => rfl
    | cons name parent =>
        rw [putFile] at found
        split at found
        · rw [get?_putEntry, if_pos rfl] at found
          cases found
        · exact found
  · rwa [get?_putFile_of_ne isHere] at found

/-- Removing a file neither makes nor removes a directory. -/
theorem directory_eraseFile_iff :
    (tree.eraseFile location).get? place = some .directory ↔
      tree.get? place = some .directory := by
  refine ⟨fun found => ?_, keepsDirectories_eraseFile tree location place⟩
  by_cases isHere : place = location
  · subst isHere
    by_cases isThere : tree.get? place = some .directory
    · exact isThere
    · cases place with
      | nil => rfl
      | cons name parent =>
          rw [get?_eraseFile_self isThere] at found
          cases found
  · rwa [get?_eraseFile_of_ne isHere] at found

/-- What stands where a file is written depends on directories only. -/
theorem get?_putFile_eq
    (isHere : location = name :: directory) :
    (tree.putFile location content).get? location =
      if tree.get? location = some .directory then
        some .directory
      else if tree.get? directory = some .directory then
        some (.file content)
      else
        none := by
  subst isHere
  split
  · rename_i isDirectory
    exact keepsDirectories_putFile tree _ content _ isDirectory
  · rename_i isFree
    split
    · rename_i inDirectory
      exact get?_putFile_self inDirectory isFree
    · rename_i noDirectory
      have notAllowed : ¬(HasDirectory tree.entries directory ∧
          tree.entries.get? (name :: directory) ≠ some .directory) :=
        fun allowed => noDirectory (hasDirectory_iff.mp allowed.1)
      rw [putFile, dif_neg notAllowed]
      cases found : tree.get? (name :: directory) with
      | none => rfl
      | some entry => exact absurd (get?_parent found) noDirectory

/-- A file that is written in both trees is the same in both. -/
theorem Alike.putFile
    (alike : Alike own tree other)
    (location : Location)
    (content : List UInt8) :
    Alike (location :: own) (tree.putFile location content) (other.putFile location content) where
  directories place := by
    rw [directory_putFile_iff, directory_putFile_iff]
    exact alike.directories place
  entries place isOwn := by
    by_cases isHere : place = location
    · subst isHere
      cases place with
      | nil => rfl
      | cons name parent =>
          rw [get?_putFile_eq rfl, get?_putFile_eq rfl]
          simp only [alike.directories]
    · rw [get?_putFile_of_ne isHere, get?_putFile_of_ne isHere]
      exact alike.entries place (List.mem_of_ne_of_mem isHere isOwn)

/-- The same file is removed in both trees. -/
theorem Alike.eraseFile
    (alike : Alike own tree other)
    (location : Location) :
    Alike own (tree.eraseFile location) (other.eraseFile location) where
  directories place := by
    rw [directory_eraseFile_iff, directory_eraseFile_iff]
    exact alike.directories place
  entries place isOwn := by
    by_cases isHere : place = location
    · subst isHere
      by_cases isThere : tree.get? place = some .directory
      · have isOther := (alike.directories place).mp isThere
        rw [keepsDirectories_eraseFile tree place place isThere,
          keepsDirectories_eraseFile other place place isOther]
      · have notOther : other.get? place ≠ some .directory :=
          fun isOther => isThere ((alike.directories place).mpr isOther)
        cases place with
        | nil => rfl
        | cons name parent => rw [get?_eraseFile_self isThere, get?_eraseFile_self notOther]
    · rw [get?_eraseFile_of_ne isHere, get?_eraseFile_of_ne isHere]
      exact alike.entries place isOwn

/-- A file that is written elsewhere makes no difference. -/
theorem alike_putFile
    (tree : FileTree)
    (content : List UInt8)
    (isElsewhere : location ∉ own) :
    Alike own tree (tree.putFile location content) where
  directories _ := directory_putFile_iff.symm
  entries place isOwn := by
    have different : place ≠ location := by
      rintro rfl
      exact isElsewhere isOwn
    exact (get?_putFile_of_ne different).symm

/-- A file that is removed elsewhere makes no difference. -/
theorem alike_eraseFile
    (tree : FileTree)
    (isElsewhere : location ∉ own) :
    Alike own tree (tree.eraseFile location) where
  directories _ := directory_eraseFile_iff.symm
  entries place isOwn := by
    have different : place ≠ location := by
      rintro rfl
      exact isElsewhere isOwn
    exact (get?_eraseFile_of_ne different).symm

end Changes

section Elsewhere

theorem alike_touch
    (touched : tree.touch path = .ok next)
    (isElsewhere : path.canonical ∉ own) :
    Alike own tree next := by
  obtain ⟨location, points, _, rfl⟩ := touch_eq_ok touched
  rw [points.canonical_eq] at isElsewhere
  split
  · exact alike_putFile tree [] isElsewhere
  · exact .refl tree

theorem alike_storeFile
    (stored : tree.storeFile path content = .ok next)
    (isElsewhere : path.canonical ∉ own) :
    Alike own tree next := by
  obtain ⟨location, points, _, rfl⟩ := storeFile_eq_ok stored
  rw [points.canonical_eq] at isElsewhere
  exact alike_putFile tree content isElsewhere

theorem alike_unlink
    (removed : tree.unlink path = .ok next)
    (isElsewhere : path.canonical ∉ own) :
    Alike own tree next := by
  obtain ⟨location, points, rfl⟩ := unlink_eq_ok removed
  rw [points.canonical_eq] at isElsewhere
  exact alike_eraseFile tree isElsewhere

theorem alike_moveFile
    (moved : tree.moveFile source target = .ok next)
    (sourceElsewhere : source.canonical ∉ own)
    (targetElsewhere : target.canonical ∉ own) :
    Alike own tree next := by
  obtain ⟨old, new, content, oldPoints, newPoints, _, shape⟩ := moveFile_eq_ok moved
  rw [oldPoints.canonical_eq] at sourceElsewhere
  rw [newPoints.canonical_eq] at targetElsewhere
  rcases shape with ⟨_, rfl⟩ | ⟨_, _, rfl⟩
  · exact .refl next
  · exact (alike_eraseFile tree sourceElsewhere).trans
      (alike_putFile (tree.eraseFile old) content targetElsewhere)

end Elsewhere

section SameFiles

/-- Two attempts end alike: they fail for the same reason, or leave trees that are alike. -/
inductive EndAlike (own : List Location) :
    Except FileFault FileTree → Except FileFault FileTree → Prop where
  | failed (fault : FileFault) :
      EndAlike own (.error fault) (.error fault)
  | done
      {tree other : FileTree}
      (alike : Alike own tree other) :
      EndAlike own (.ok tree) (.ok other)

theorem EndAlike.mono
    {result otherResult : Except FileFault FileTree}
    (ended : EndAlike own result otherResult)
    (isSubset : fewer ⊆ own) :
    EndAlike fewer result otherResult := by
  cases ended with
  | failed fault => exact .failed fault
  | done alike => exact .done (alike.mono isSubset)

/-- A name in a directory that is approached names the same place in every tree. -/
theorem place?_of_approach
    (ends : path.EndsIn before name)
    (arrives : tree.approach [] before = .ok directory) :
    path.checked.bind tree.place? =
      path.checked.map fun _ =>
        some { parent := directory, name := name, slashFollows := false } := by
  cases checked : path.checked with
  | error fault => rfl
  | ok segments =>
      rw [Path.segments_of_checked checked, ends.shape]
      change tree.place? (before ++ [name]) = _
      rw [place?_approach before ends.noNoise ends.noStep, arrives]
      rfl

theorem Alike.place?_eq
    (alike : Alike own tree other)
    (ends : path.EndsIn before name)
    (arrives : tree.approach [] before = .ok directory) :
    path.checked.bind tree.place? = path.checked.bind other.place? := by
  rw [place?_of_approach ends arrives,
    place?_of_approach ends (alike.keepsDirectories.approach_eq arrives)]

theorem Alike.writable_eq
    (alike : Alike own tree other)
    (ends : path.EndsIn before name)
    (arrives : tree.approach [] before = .ok directory) :
    tree.writable path = other.writable path := by
  rw [writable, writable, alike.place?_eq ends arrives]
  simp only [alike.isDirectory_eq]

theorem Alike.touch
    (alike : Alike own tree other)
    (ends : path.EndsIn before name)
    (arrives : tree.approach [] before = .ok directory)
    (isOwn : path.canonical ∈ own) :
    EndAlike own (tree.touch path) (other.touch path) := by
  rw [FileTree.touch, FileTree.touch, ← alike.writable_eq ends arrives]
  cases allowed : tree.writable path with
  | error fault => exact .failed fault
  | ok location =>
      rw [(writable_eq_ok_iff_points.mp allowed).1.canonical_eq] at isOwn
      refine .done ?_
      simp only [alike.entries location isOwn]
      split
      · exact (alike.putFile _ []).mono (List.subset_cons_self _ _)
      · exact alike

/-- A file that is stored is the same in both trees, also if it was not before. -/
theorem Alike.storeFile
    (alike : Alike own tree other)
    (ends : path.EndsIn before name)
    (arrives : tree.approach [] before = .ok directory)
    (content : List UInt8) :
    EndAlike (path.canonical :: own) (tree.storeFile path content)
      (other.storeFile path content) := by
  rw [FileTree.storeFile, FileTree.storeFile, ← alike.writable_eq ends arrives]
  cases allowed : tree.writable path with
  | error fault => exact .failed fault
  | ok location =>
      rw [(writable_eq_ok_iff_points.mp allowed).1.canonical_eq]
      exact .done (alike.putFile location content)

theorem Alike.moveFile
    {newName : String}
    (alike : Alike own tree other)
    (sourceEnds : source.EndsIn before name)
    (targetEnds : target.EndsIn before newName)
    (arrives : tree.approach [] before = .ok directory)
    (sourceOwn : name :: directory ∈ own) :
    EndAlike own (tree.moveFile source target) (other.moveFile source target) := by
  rw [FileTree.moveFile, FileTree.moveFile, ← alike.place?_eq sourceEnds arrives,
    ← alike.place?_eq targetEnds arrives, place?_of_approach sourceEnds arrives,
    place?_of_approach targetEnds arrives]
  cases source.checked with
  | error fault => exact .failed fault
  | ok segments =>
      cases target.checked with
      | error fault => exact .failed fault
      | ok others =>
          change EndAlike own ((Place.location _).bind _) ((Place.location _).bind _)
          rw [location_eq]
          cases isTooLong name with
          | true => exact .failed .nameTooLong
          | false =>
              simp only [Bool.false_eq_true, ↓reduceIte, Except.bind,
                ← alike.entries _ sourceOwn]
              cases tree.get? (name :: directory) with
              | none => exact .failed .notFound
              | some entry =>
                  cases entry with
                  | directory => exact .failed .isDirectory
                  | file content =>
                      simp only [location_eq, alike.isDirectory_eq]
                      split
                      · exact .failed _
                      · rename_i new _
                        split
                        · exact .failed .notDirectory
                        · split
                          · exact .failed .notEmpty
                          · split
                            · exact .done alike
                            · split
                              · exact .failed .isDirectory
                              · exact .done (((alike.eraseFile _).putFile new content).mono
                                  (List.subset_cons_self _ _))

/-- What is found at an own location is the same. -/
theorem Alike.find_eq
    (alike : Alike own tree other)
    (ends : path.EndsIn before name)
    (arrives : tree.approach [] before = .ok directory)
    (isOwn : path.canonical ∈ own) :
    tree.find path = other.find path := by
  have otherArrives := alike.keepsDirectories.approach_eq arrives
  have sameLocation : tree.locate path = other.locate path := by
    rw [locate, locate]
    cases checked : path.checked with
    | error fault => rfl
    | ok segments =>
        rw [Path.segments_of_checked checked, ends.shape]
        change tree.walk [] (before ++ [name]) = other.walk [] (before ++ [name])
        rw [walk_concat, walk_concat, arrives, otherArrives]
  rw [find, find, ← sameLocation]
  cases located : tree.locate path with
  | error fault => rfl
  | ok location =>
      rw [canonical_of_locate located] at isOwn
      simp only [Except.bind, alike.entries location isOwn]

end SameFiles

end FileTree

namespace DiskStep

open FileTree (Alike EndAlike)
open SplitTunnel.Path (resolve)

variable {tree other : FileTree} {own : List Location} {before : List String}
variable {step : DiskStep} {steps : List DiskStep}

/-- A step makes no directories and changes files elsewhere than at some locations. -/
inductive IsElsewhere (own : List Location) : DiskStep → Prop where
  | touch
      {path : Path}
      (isElsewhere : path.canonical ∉ own) :
      IsElsewhere own (.touch path)
  | truncate
      {path : Path}
      (isElsewhere : path.canonical ∉ own) :
      IsElsewhere own (.truncate path)
  | write
      {path : Path}
      {content : List UInt8}
      (isElsewhere : path.canonical ∉ own) :
      IsElsewhere own (.write path content)
  | sync (path : Path) :
      IsElsewhere own (.sync path)
  | replace
      {source target : Path}
      (sourceElsewhere : source.canonical ∉ own)
      (targetElsewhere : target.canonical ∉ own) :
      IsElsewhere own (.replace source target)

/-- A step is about files in one directory, and the entry that it looks at is an own one. -/
inductive LooksInside (before : List String) (own : List Location) : DiskStep → Prop where
  | touch
      {path : Path}
      {name : String}
      (ends : path.EndsIn before name)
      (isOwn : path.canonical ∈ own) :
      LooksInside before own (.touch path)
  | truncate
      {path : Path}
      {name : String}
      (ends : path.EndsIn before name) :
      LooksInside before own (.truncate path)
  | write
      {path : Path}
      {name : String}
      {content : List UInt8}
      (ends : path.EndsIn before name) :
      LooksInside before own (.write path content)
  | sync (path : Path) :
      LooksInside before own (.sync path)
  | replace
      {source target : Path}
      {name newName : String}
      (sourceEnds : source.EndsIn before name)
      (sourceOwn : source.canonical ∈ own)
      (targetEnds : target.EndsIn before newName) :
      LooksInside before own (.replace source target)

/-- No directory is made by a step that looks at files. -/
theorem LooksInside.isElsewhere
    (looks : step.LooksInside before own) :
    step.IsElsewhere [] := by
  cases looks with
  | touch ends isOwn => exact .touch List.not_mem_nil
  | truncate ends => exact .truncate List.not_mem_nil
  | write ends => exact .write List.not_mem_nil
  | sync path => exact .sync path
  | replace sourceEnds sourceOwn targetEnds => exact .replace List.not_mem_nil List.not_mem_nil

theorem orUnchanged_elsewhere
    {result : Except FileFault FileTree}
    (whenDone : ∀ next, result = .ok next → Alike own tree next) :
    Alike own tree (orUnchanged tree result).1 := by
  cases result with
  | error fault => exact .refl tree
  | ok next => exact whenDone next rfl

/-- A step elsewhere makes no difference. -/
theorem run_elsewhere
    (tree : FileTree)
    (isElsewhere : step.IsElsewhere own) :
    Alike own tree (step.run tree).1 := by
  cases isElsewhere with
  | touch isElsewhere =>
      exact orUnchanged_elsewhere fun _ touched => FileTree.alike_touch touched isElsewhere
  | truncate isElsewhere =>
      exact orUnchanged_elsewhere fun _ stored => FileTree.alike_storeFile stored isElsewhere
  | write isElsewhere =>
      exact orUnchanged_elsewhere fun _ stored => FileTree.alike_storeFile stored isElsewhere
  | sync path => exact .refl tree
  | replace sourceElsewhere targetElsewhere =>
      exact orUnchanged_elsewhere fun _ moved =>
        FileTree.alike_moveFile moved sourceElsewhere targetElsewhere

/-- Steps elsewhere make no difference. -/
theorem runAll_elsewhere
    (tree : FileTree)
    (allElsewhere : ∀ step ∈ steps, step.IsElsewhere own) :
    Alike own tree (runAll tree steps).1 := by
  induction steps generalizing tree with
  | nil => exact .refl tree
  | cons step rest inductionHypothesis =>
      have now := run_elsewhere tree (allElsewhere step (List.mem_cons_self ..))
      rw [runAll_cons]
      split
      · rename_i next ran
        rw [ran] at now
        exact now.trans (inductionHypothesis next fun later member =>
          allElsewhere later (List.mem_cons_of_mem _ member))
      · rename_i next _ ran
        rw [ran] at now
        exact now

theorem orUnchanged_alike
    {result otherResult : Except FileFault FileTree}
    (ended : EndAlike own result otherResult)
    (alike : Alike own tree other) :
    (orUnchanged tree result).2 = (orUnchanged other otherResult).2 ∧
      Alike own (orUnchanged tree result).1 (orUnchanged other otherResult).1 := by
  cases ended with
  | failed fault => exact ⟨rfl, alike⟩
  | done endAlike => exact ⟨rfl, endAlike⟩

/-- A step that looks at own files ends alike in trees that are alike. -/
theorem run_alike
    (looks : step.LooksInside before own)
    (alike : Alike own tree other)
    (arrives : tree.approach [] before = .ok (resolve [] before)) :
    (step.run tree).2 = (step.run other).2 ∧ Alike own (step.run tree).1 (step.run other).1 := by
  have fewer (location : Location) : own ⊆ location :: own := List.subset_cons_self location own
  cases looks with
  | touch ends isOwn => exact orUnchanged_alike (alike.touch ends arrives isOwn) alike
  | truncate ends =>
      exact orUnchanged_alike ((alike.storeFile ends arrives []).mono (fewer _)) alike
  | @write path name content ends =>
      exact orUnchanged_alike ((alike.storeFile ends arrives content).mono (fewer _)) alike
  | sync path => exact ⟨rfl, alike⟩
  | replace sourceEnds sourceOwn targetEnds =>
      rw [sourceEnds.canonical_eq] at sourceOwn
      exact orUnchanged_alike (alike.moveFile sourceEnds targetEnds arrives sourceOwn) alike

/-- Steps that look at own files end alike in trees that are alike. -/
theorem runAll_alike
    (allLook : ∀ step ∈ steps, step.LooksInside before own)
    (alike : Alike own tree other)
    (arrives : tree.approach [] before = .ok (resolve [] before)) :
    (runAll tree steps).2 = (runAll other steps).2 ∧
      Alike own (runAll tree steps).1 (runAll other steps).1 := by
  induction steps generalizing tree other with
  | nil => exact ⟨rfl, alike⟩
  | cons step rest inductionHypothesis =>
      have looks := allLook step (List.mem_cons_self ..)
      obtain ⟨sameResult, nextAlike⟩ := run_alike looks alike arrives
      -- No step on files takes a directory away, so the way is still there.
      have kept := run_elsewhere tree looks.isElsewhere
      rw [runAll_cons, runAll_cons]
      cases ran : step.run tree with
      | mk next result =>
          cases otherRan : step.run other with
          | mk otherNext otherResult =>
              rw [ran] at sameResult nextAlike kept
              rw [otherRan] at sameResult nextAlike
              change result = otherResult at sameResult
              subst sameResult
              cases result with
              | error fault => exact ⟨rfl, nextAlike⟩
              | ok _ =>
                  exact inductionHypothesis
                    (fun later member => allLook later (List.mem_cons_of_mem _ member)) nextAlike
                    (kept.keepsDirectories.approach_eq arrives)

/-- Later steps may also look at a file that was emptied first, whatever was there. -/
theorem runAll_truncate_alike
    {path : Path}
    {name : String}
    (ends : path.EndsIn before name)
    (allLook : ∀ step ∈ steps, step.LooksInside before (path.canonical :: own))
    (alike : Alike own tree other)
    (arrives : tree.approach [] before = .ok (resolve [] before)) :
    (runAll tree (.truncate path :: steps)).2 = (runAll other (.truncate path :: steps)).2 ∧
      Alike own (runAll tree (.truncate path :: steps)).1
        (runAll other (.truncate path :: steps)).1 := by
  have ended := alike.storeFile ends arrives []
  rw [runAll_cons, runAll_cons, run, run]
  cases stored : tree.storeFile path [] with
  | error fault =>
      rw [stored] at ended
      generalize other.storeFile path [] = otherStored at ended ⊢
      cases ended
      exact ⟨rfl, alike⟩
  | ok next =>
      have kept := FileTree.alike_storeFile stored List.not_mem_nil
      rw [stored] at ended
      generalize other.storeFile path [] = otherStored at ended ⊢
      cases ended with
      | done nextAlike =>
          obtain ⟨sameResult, restAlike⟩ :=
            runAll_alike allLook nextAlike (kept.keepsDirectories.approach_eq arrives)
          exact ⟨sameResult, restAlike.mono (List.subset_cons_self _ _)⟩

end DiskStep

end SplitTunnel
