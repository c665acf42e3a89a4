import SplitTunnel.FileTree.Step
import SplitTunnel.Proofs.Path.Spelling

namespace SplitTunnel

/-!
# Steps in one directory

Each step on a plain path changes the entry that it is about and nothing else,
apart from the directories that the first step makes.
-/

namespace DiskStep

open FileTree (Keeps)
open SplitTunnel.Path (Names)

variable {tree next : FileTree} {directory : Location} {path : Path} {name : String}
variable {content : List UInt8}

@[simp]
theorem runAll_nil
    (tree : FileTree)
    (answers : List StepAnswer) :
    runAll tree [] answers = (tree, .ok ()) :=
  rfl

/-- The first of several steps that the system does not refuse. -/
theorem runAll_cons
    (tree : FileTree)
    (step : DiskStep)
    (rest : List DiskStep) :
    runAll tree (step :: rest) =
      match step.run tree with
      | (next, .ok ()) =>
          runAll next rest
      | (next, .error fault) =>
          (next, .error { action := step.subject.1, path := step.subject.2, fault := fault }) :=
  rfl

/-- A step that was done was not refused. -/
theorem run_of_answered
    {step : DiskStep}
    {answer : StepAnswer}
    (ran : step.answered tree answer = (next, .ok ())) :
    step.run tree = (next, .ok ()) := by
  cases answer with
  | done => exact ran
  | refused fault extent => cases ran

/-- Steps that were all done are done as if the system were not asked. -/
theorem runAll_of_answered
    {steps : List DiskStep}
    {answers : List StepAnswer}
    (ran : runAll tree steps answers = (next, .ok ())) :
    runAll tree steps = (next, .ok ()) := by
  induction steps generalizing tree answers with
  | nil => exact ran
  | cons step rest inductionHypothesis =>
      rw [runAll] at ran
      split at ran
      · rename_i ranFirst
        rw [runAll_cons, run_of_answered ranFirst]
        exact inductionHypothesis ran
      · cases ran

theorem runAll_append
    (tree : FileTree)
    (first second : List DiskStep) :
    runAll tree (first ++ second) =
      match runAll tree first with
      | (next, .ok ()) => runAll next second
      | (next, .error failed) => (next, .error failed) := by
  induction first generalizing tree with
  | nil => rfl
  | cons step rest inductionHypothesis =>
      rw [List.cons_append, runAll_cons, runAll_cons]
      split
      · exact inductionHypothesis _
      · rfl

theorem runAll_singleton
    (tree : FileTree)
    (step : DiskStep) :
    runAll tree [step] =
      ((step.run tree).1,
        (step.run tree).2.mapError fun fault =>
          { action := step.subject.1, path := step.subject.2, fault := fault }) := by
  rw [runAll_cons]
  split
  · rename_i ran
    rw [ran]
    rfl
  · rename_i ran
    rw [ran]
    rfl

/-- Steps one after another succeed if each part does. -/
theorem runAll_append_eq_ok
    {first second : List DiskStep}
    (ran : runAll tree (first ++ second) = (next, .ok ())) :
    ∃ between, runAll tree first = (between, .ok ()) ∧ runAll between second = (next, .ok ()) := by
  rw [runAll_append] at ran
  cases began : runAll tree first with
  | mk between result =>
      rw [began] at ran
      cases result with
      | error failed => cases ran
      | ok _ => exact ⟨between, rfl, ran⟩

theorem runAll_cons_eq_ok
    {step : DiskStep}
    {rest : List DiskStep}
    (ran : runAll tree (step :: rest) = (next, .ok ())) :
    ∃ between, step.run tree = (between, .ok ()) ∧ runAll between rest = (next, .ok ()) := by
  rw [runAll_cons] at ran
  split at ran
  · rename_i between began
    exact ⟨between, began, ran⟩
  · cases ran

theorem orUnchanged_eq_ok
    {result : Except FileFault FileTree}
    (ran : orUnchanged tree result = (next, .ok ())) :
    result = .ok next := by
  cases result with
  | error fault => simp [orUnchanged] at ran
  | ok reached =>
      cases ran
      rfl

/-- What making the directory of a plain path comes to: the path is refused or followed. -/
theorem makeDirectories_cases
    {parent : Path}
    (hasText : parent.text ≠ "") :
    (∃ fault, ∀ tree : FileTree, tree.makeDirectories parent = (tree, .error fault)) ∨
      ∀ tree : FileTree,
        tree.makeDirectories parent = tree.ensureReversed parent.segments.reverse := by
  cases checked : parent.checked with
  | error fault =>
      refine Or.inl ⟨fault, fun tree => ?_⟩
      rw [FileTree.makeDirectories, if_neg hasText, checked]
  | ok segments =>
      refine Or.inr fun tree => ?_
      rw [FileTree.makeDirectories, if_neg hasText, checked, Path.segments_of_checked checked]

/-- Making the directory of a plain path makes missing directories on the way to it only. -/
theorem runAll_makeParent
    (tree : FileTree)
    (names : Names path directory name) :
    Keeps directory [] tree (runAll tree (makeParent path)).1 ∧
      ((runAll tree (makeParent path)).2 = .ok () →
        (runAll tree (makeParent path)).1.get? directory = some .directory) := by
  rw [makeParent]
  rcases Path.writtenParent?_cases names with
    ⟨noParent, isRoot⟩ | ⟨parent, isParent, hasText, noStep, tidy, leads⟩
  · rw [noParent, isRoot]
    exact ⟨Keeps.refl tree, fun _ => rfl⟩
  · rw [isParent]
    dsimp only
    rw [runAll_singleton, run]
    rcases makeDirectories_cases hasText with ⟨fault, refused⟩ | followed
    · rw [refused]
      refine ⟨Keeps.refl tree, fun isOk => ?_⟩
      cases isOk
    · have ensured := FileTree.ensured_ensureReversed tree parent.segments.reverse
        (by simpa using noStep) tidy
      rw [List.reverse_reverse] at ensured
      rw [followed, ← leads]
      refine ⟨ensured.kept, fun isOk => ensured.isThere ?_⟩
      cases made : (tree.ensureReversed parent.segments.reverse).2 with
      | error fault =>
          rw [made] at isOk
          cases isOk
      | ok _ => rfl

/-- Whether the directory of a plain path can be made is decided by the files on the way. -/
theorem runAll_makeParent_congr
    {other : FileTree}
    (names : Names path directory name)
    (sameFiles : ∀ place, place <:+ directory → tree.isFile place = other.isFile place) :
    (runAll tree (makeParent path)).2 = (runAll other (makeParent path)).2 := by
  rw [makeParent]
  rcases Path.writtenParent?_cases names with
    ⟨noParent, _⟩ | ⟨parent, isParent, hasText, noStep, tidy, leads⟩
  · rw [noParent]
    rfl
  · rw [isParent]
    dsimp only
    rw [runAll_singleton, runAll_singleton, run, run]
    rcases makeDirectories_cases hasText with ⟨fault, refused⟩ | followed
    · rw [refused, refused]
    · have noStep' : ".." ∉ parent.segments.reverse := by simpa using noStep
      have ensured := FileTree.ensured_ensureReversed tree parent.segments.reverse noStep' tidy
      have otherEnsured :=
        FileTree.ensured_ensureReversed other parent.segments.reverse noStep' tidy
      rw [List.reverse_reverse] at ensured otherEnsured
      have samePassage :
          tree.passage [] parent.segments = other.passage [] parent.segments := by
        apply FileTree.passage_congr
        rw [leads]
        exact sameFiles
      rw [followed, followed, ensured.result, otherEnsured.result, samePassage]

/-- Opening a file makes an empty one at most. -/
theorem touch_keeps
    (names : Names path directory name)
    (touched : tree.touch path = .ok next) :
    Keeps directory [name :: directory] tree next ∧
      ((tree.get? (name :: directory) = none ∧
          next.get? (name :: directory) = some (.file [])) ∨
        ∃ content, tree.get? (name :: directory) = some (.file content) ∧ next = tree) := by
  obtain ⟨_, found, isFree, shape⟩ := (FileTree.touch_eq_ok_iff names).mp touched
  cases stored : tree.get? (name :: directory) with
  | none =>
      rw [stored] at shape
      refine ⟨fun place isOther => Or.inl ?_, Or.inl ⟨rfl, ?_⟩⟩
      · rw [shape]
        exact FileTree.get?_putFile_of_ne (by simpa using isOther)
      · rw [shape]
        exact FileTree.get?_putFile_self found isFree
  | some entry =>
      rw [stored] at shape
      cases entry with
      | directory => exact absurd stored isFree
      | file content =>
          have same : next = tree := shape
          refine ⟨?_, Or.inr ⟨content, rfl, same⟩⟩
          rw [same]
          exact Keeps.refl tree

/-- Storing a file changes that file only. -/
theorem storeFile_keeps
    (names : Names path directory name)
    (stored : tree.storeFile path content = .ok next) :
    Keeps directory [name :: directory] tree next ∧
      next.get? (name :: directory) = some (.file content) := by
  obtain ⟨_, found, isFree, shape⟩ := (FileTree.storeFile_eq_ok_iff names).mp stored
  rw [shape]
  refine ⟨fun place isOther => Or.inl ?_, FileTree.get?_putFile_self found isFree⟩
  exact FileTree.get?_putFile_of_ne (by simpa using isOther)

/-- Removing a file changes that file only. -/
theorem unlink_keeps
    (names : Names path directory name)
    (removed : tree.unlink path = .ok next) :
    Keeps directory [name :: directory] tree next ∧
      next.get? (name :: directory) = none := by
  obtain ⟨_, ⟨content, stored⟩, shape⟩ := (FileTree.unlink_eq_ok_iff names).mp removed
  rw [shape]
  refine ⟨fun place isOther => Or.inl ?_, FileTree.get?_eraseFile_self ?_⟩
  · exact FileTree.get?_eraseFile_of_ne (by simpa using isOther)
  · rw [stored]
    simp

/-- Moving a file changes the two names of the move only. -/
theorem moveFile_keeps
    {source target : Path}
    {old new : String}
    (sourceNames : Names source directory old)
    (targetNames : Names target directory new)
    (different : new ≠ old)
    (moved : tree.moveFile source target = .ok next) :
    Keeps directory [old :: directory, new :: directory] tree next ∧
      next.get? (old :: directory) = none ∧
      ∃ content,
        tree.get? (old :: directory) = some (.file content) ∧
          next.get? (new :: directory) = some (.file content) := by
  obtain ⟨_, _, isFree, content, stored, shape⟩ :=
    (FileTree.moveFile_eq_ok_iff sourceNames targetNames different).mp moved
  have notSame : new :: directory ≠ old :: directory := by simpa using different
  have aboveStays : directory ≠ old :: directory := FileTree.parent_ne old directory
  have notDirectory : tree.get? (old :: directory) ≠ some .directory := by simp [stored]
  rw [shape]
  refine ⟨fun place isOther => Or.inl ?_, ?_, content, stored, ?_⟩
  · obtain ⟨notOld, notNew⟩ : place ≠ old :: directory ∧ place ≠ new :: directory := by
      simpa using isOther
    rw [FileTree.get?_putFile_of_ne notNew, FileTree.get?_eraseFile_of_ne notOld]
  · rw [FileTree.get?_putFile_of_ne notSame.symm]
    exact FileTree.get?_eraseFile_self notDirectory
  · apply FileTree.get?_putFile_self
    · rw [FileTree.get?_eraseFile_of_ne aboveStays]
      exact FileTree.get?_parent stored
    · rw [FileTree.get?_eraseFile_of_ne notSame]
      exact isFree

end DiskStep

end SplitTunnel
