import SplitTunnel.Proofs.Store.Registry
import SplitTunnel.Proofs.Store.Siblings

namespace SplitTunnel

/-!
# A store that is opened again

A save that succeeds leaves the lock file with its directory and the bytes in
the target.  Whoever opens the store later, by the same paths, finds all that
and changes nothing, so any number of loads give the same value, in whatever
directory the store lies and however the way to it is spelled.
-/

open FileTree (KeepsDirectories Points)

namespace FileTree

variable {tree next : FileTree} {path source target : Path}
variable {content : List UInt8}

/-- A file that was stored is found by its path, beside what was there. -/
theorem storeFile_leaves
    (stored : tree.storeFile path content = .ok next) :
    KeepsDirectories tree next ∧
      next.get? path.canonical = some (.file content) ∧
      ∀ place, place ≠ path.canonical → next.get? place = tree.get? place := by
  obtain ⟨location, points, isFree, rfl⟩ := storeFile_eq_ok stored
  rw [points.canonical_eq]
  refine ⟨keepsDirectories_putFile tree location content, ?_,
    fun place isOther => get?_putFile_of_ne isOther⟩
  obtain ⟨name, directory, rfl, isDirectory⟩ := points.inDirectory
  exact get?_putFile_self isDirectory isFree

/-- A file that was moved to another location is found there, beside what was there. -/
theorem moveFile_leaves
    (moved : tree.moveFile source target = .ok next)
    (different : target.canonical ≠ source.canonical) :
    KeepsDirectories tree next ∧
      Points next source source.canonical ∧
      Points next target target.canonical ∧
      next.get? target.canonical = tree.get? source.canonical ∧
      ∀ place, place ≠ source.canonical → place ≠ target.canonical →
        next.get? place = tree.get? place := by
  obtain ⟨old, new, content, oldPoints, newPoints, stored, shape⟩ := moveFile_eq_ok moved
  rw [oldPoints.canonical_eq, newPoints.canonical_eq] at different ⊢
  rcases shape with ⟨same, _⟩ | ⟨_, isFree, rfl⟩
  · exact absurd same different
  have kept := (keepsDirectories_eraseFile tree old).trans
    (keepsDirectories_putFile (tree.eraseFile old) new content)
  refine ⟨kept, kept.points oldPoints, kept.points newPoints, ?_, ?_⟩
  · obtain ⟨name, directory, rfl, isDirectory⟩ := newPoints.inDirectory
    rw [stored]
    apply get?_putFile_self
    · exact keepsDirectories_eraseFile tree old _ isDirectory
    · rw [get?_eraseFile_of_ne different]
      exact isFree
  · intro place notOld notNew
    rw [get?_putFile_of_ne notNew, get?_eraseFile_of_ne notOld]

end FileTree

/-- Names side by side lead to three locations. -/
theorem StorePaths.SideBySide.canonical_ne
    {paths : StorePaths}
    {before : List String}
    {lock temp target : String}
    (sideBySide : paths.SideBySide before lock temp target) :
    paths.target.canonical ≠ paths.temp.canonical ∧
      paths.lock.canonical ≠ paths.temp.canonical ∧
      paths.lock.canonical ≠ paths.target.canonical := by
  have lockName := sideBySide.areNames lock (by simp)
  have tempName := sideBySide.areNames temp (by simp)
  have targetName := sideBySide.areNames target (by simp)
  exact ⟨
    Path.canonical_ne sideBySide.targetShape sideBySide.tempShape targetName tempName
      sideBySide.target_ne_temp,
    Path.canonical_ne sideBySide.lockShape sideBySide.tempShape lockName tempName
      sideBySide.lock_ne_temp,
    Path.canonical_ne sideBySide.lockShape sideBySide.targetShape lockName targetName
      sideBySide.lock_ne_target⟩

namespace Lock

variable {session locked : Session} {tree next : FileTree} {path : Path} {mode : LockMode}
variable {granted : Lock} {answer : SystemAnswer} {openingAnswers : List StepAnswer}

/-- The lock file of a lock that was granted was opened. -/
theorem opened_of_acquire
    (acquired : acquire session path mode answer openingAnswers = (.ok granted, locked)) :
    DiskStep.runAll session.tree (opening path) = (locked.tree, .ok ()) := by
  cases opened : DiskStep.runAll session.tree (opening path) openingAnswers with
  | mk next result =>
      cases result with
      | error failed =>
          rw [acquire_of_failed opened] at acquired
          cases acquired
      | ok _ =>
          have sameTree : locked.tree = next := by
            rw [← congrArg (fun outcome => outcome.2.tree) acquired, acquire_tree, opened]
          rw [sameTree]
          exact DiskStep.runAll_of_answered opened

/-- A file stands where a lock file was opened. -/
theorem exists_file_of_opened
    (opened : DiskStep.runAll tree (opening path) = (next, .ok ())) :
    Points next path path.canonical ∧
      ∃ content, next.get? path.canonical = some (.file content) := by
  obtain ⟨between, _, touched⟩ := touch_of_opened opened
  obtain ⟨location, points, isFree, shape⟩ := FileTree.touch_eq_ok touched
  have stays := (FileTree.extends_touch touched).keepsDirectories.points points
  rw [points.canonical_eq]
  refine ⟨stays, ?_⟩
  obtain ⟨name, directory, rfl, isDirectory⟩ := points.inDirectory
  cases stored : between.get? (name :: directory) with
  | none =>
      rw [stored] at shape
      refine ⟨[], ?_⟩
      rw [shape]
      exact FileTree.get?_putFile_self isDirectory isFree
  | some entry =>
      rw [stored] at shape
      cases entry with
      | directory => exact absurd stored isFree
      | file content =>
          refine ⟨content, ?_⟩
          rw [shape]
          exact stored

/-- A lock file that was opened is opened again without any change. -/
theorem opening_again
    {later : FileTree}
    {content : List UInt8}
    (opened : DiskStep.runAll tree (opening path) = (next, .ok ()))
    (kept : KeepsDirectories next later)
    (stored : later.get? path.canonical = some (.file content)) :
    DiskStep.runAll later (opening path) = (later, .ok ()) := by
  obtain ⟨between, made, touched⟩ := touch_of_opened opened
  have keptSince := (FileTree.extends_touch touched).keepsDirectories.trans kept
  have points := kept.points (exists_file_of_opened opened).1
  rw [opening, DiskStep.runAll_append, DiskStep.runAll_makeParent_again made keptSince]
  dsimp only
  rw [DiskStep.runAll_singleton, DiskStep.run, FileTree.touch_again points stored]
  rfl

end Lock

namespace Store

variable {α : Type} {store : Store α} {paths : StorePaths} {session next : Session}
variable {tree written : FileTree} {before : List String} {lock temp target : String}
variable {content : List UInt8} {value : α} {answers : SaveAnswers}

/-- What putting bytes into the target leaves, wherever the paths lead. -/
structure Replaced
    (paths : StorePaths)
    (content : List UInt8)
    (tree written : FileTree) :
    Prop where
  kept : KeepsDirectories tree written
  temp : Points written paths.temp paths.temp.canonical
  target : Points written paths.target paths.target.canonical
  stored : written.get? paths.target.canonical = some (.file content)
  others :
    ∀ place entry,
      place ≠ paths.temp.canonical →
        place ≠ paths.target.canonical →
          tree.get? place = some entry →
            written.get? place = some entry

/-- The bytes are written to the temp file, beside what was there, before that is moved. -/
theorem filled_of_runAll
    (ran : DiskStep.runAll tree (replacing paths content) = (written, .ok ())) :
    ∃ filled : FileTree,
      KeepsDirectories tree filled ∧
        filled.get? paths.temp.canonical = some (.file content) ∧
        (∀ place entry,
          place ≠ paths.temp.canonical →
            tree.get? place = some entry →
              filled.get? place = some entry) ∧
        filled.moveFile paths.temp paths.target = .ok written := by
  rw [replacing_eq] at ran
  obtain ⟨made, madeParent, ran⟩ := DiskStep.runAll_append_eq_ok ran
  obtain ⟨emptied, truncated, ran⟩ := DiskStep.runAll_cons_eq_ok ran
  obtain ⟨filled, wrote, ran⟩ := DiskStep.runAll_cons_eq_ok ran
  obtain ⟨synced, sync, ran⟩ := DiskStep.runAll_cons_eq_ok ran
  obtain ⟨moved, replaced, ran⟩ := DiskStep.runAll_cons_eq_ok ran
  cases ran
  cases sync
  have extended := DiskStep.extends_makeParent tree paths.temp
  rw [madeParent] at extended
  obtain ⟨emptiedKept, _, emptiedOthers⟩ :=
    FileTree.storeFile_leaves (DiskStep.orUnchanged_eq_ok truncated)
  obtain ⟨filledKept, isFilled, filledOthers⟩ :=
    FileTree.storeFile_leaves (DiskStep.orUnchanged_eq_ok wrote)
  refine ⟨filled, ?_, isFilled, ?_, DiskStep.orUnchanged_eq_ok replaced⟩
  · exact extended.keepsDirectories.trans (emptiedKept.trans filledKept)
  · intro place entry notTemp stored
    rw [filledOthers place notTemp, emptiedOthers place notTemp]
    exact extended place entry stored

/-- The bytes that were written to the temp file are those that are moved to the target. -/
theorem replaced_of_runAll
    (different : paths.target.canonical ≠ paths.temp.canonical)
    (ran : DiskStep.runAll tree (replacing paths content) = (written, .ok ())) :
    Replaced paths content tree written := by
  obtain ⟨filled, filledKept, isFilled, filledOthers, moved⟩ := filled_of_runAll ran
  obtain ⟨movedKept, tempPoints, targetPoints, isMoved, movedOthers⟩ :=
    FileTree.moveFile_leaves moved different
  refine ⟨filledKept.trans movedKept, tempPoints, targetPoints, isMoved.trans isFilled, ?_⟩
  intro place entry notTemp notTarget stored
  rw [movedOthers place notTemp notTarget]
  exact filledOthers place entry notTemp stored

/-- Removing what was left of the temp file leaves everything beside it as it was. -/
theorem Replaced.removeLeftover
    (replaced : Replaced paths content tree written)
    (different : paths.target.canonical ≠ paths.temp.canonical)
    (answer : StepAnswer) :
    Replaced paths content tree (removeLeftover paths written answer) := by
  rcases removeLeftover_cases paths written answer with same | ⟨_, removed⟩
  · rw [same]
    exact replaced
  · obtain ⟨location, points, shape⟩ := FileTree.unlink_eq_ok removed
    have kept := FileTree.keepsDirectories_eraseFile written location
    rw [shape]
    rw [← points.canonical_eq] at kept ⊢
    refine ⟨replaced.kept.trans kept, kept.points replaced.temp, kept.points replaced.target,
      ?_, ?_⟩
    · rw [FileTree.get?_eraseFile_of_ne different]
      exact replaced.stored
    · intro place entry notTemp notTarget stored
      rw [FileTree.get?_eraseFile_of_ne notTemp]
      exact replaced.others place entry notTemp notTarget stored

/-- A store that can be opened without any change and holds bytes. -/
structure Settled (paths : StorePaths) (content : List UInt8) (tree : FileTree) : Prop where
  opens : DiskStep.runAll tree (Lock.opening paths.lock) = (tree, .ok ())
  stored : tree.fileContent paths.target = .ok content

/-- A save that succeeds leaves a store that can be opened again and holds the value's bytes. -/
theorem settled_of_trySave
    (sideBySide : store.paths.SideBySide before lock temp target)
    (saved : store.trySave session value answers = (.ok (), next)) :
    ∃ content, store.codec.encode value = .ok content ∧ Settled store.paths content next.tree := by
  obtain ⟨granted, locked, content, written, acquired, encoded, ran, left⟩ :=
    trySave_eq_ok (congrArg Prod.fst saved)
  rw [saved] at left
  change next = _ at left
  have opened := Lock.opened_of_acquire acquired
  obtain ⟨lockPoints, lockContent, lockStored⟩ := Lock.exists_file_of_opened opened
  obtain ⟨targetNotTemp, lockNotTemp, lockNotTarget⟩ := sideBySide.canonical_ne
  have replaced := replaced_of_runAll targetNotTemp ran
  -- The lock file is neither of the files that are written, so it can be opened again.
  have cleaned := replaced.removeLeftover targetNotTemp answers.removal
  have lockStays := cleaned.others _ _ lockNotTemp lockNotTarget lockStored
  refine ⟨content, encoded, ?_, ?_⟩
  · rw [left, Lock.release_tree]
    exact Lock.opening_again opened cleaned.kept lockStays
  · rw [left, Lock.release_tree]
    exact cleaned.target.fileContent_eq cleaned.stored

/-- A load finds what a store keeps, and changes nothing. -/
theorem Settled.tryLoad
    (settled : Settled store.paths content session.tree)
    (decoded : store.codec.decode content = .ok value)
    (notHeld : session.held.contains store.paths.lock.canonical = false) :
    store.tryLoad session = (.ok (some value), session) := by
  have isPresent : session.tree.isPresent store.paths.target = true := by
    have stored := settled.stored
    rw [FileTree.fileContent] at stored
    rw [FileTree.isPresent]
    cases found : session.tree.find store.paths.target with
    | error fault =>
        rw [found] at stored
        contradiction
    | ok _ => rfl
  have isRead : store.readTarget session.tree = .ok (some value) := by
    rw [readTarget, if_pos isPresent, settled.stored]
    dsimp only
    rw [decoded]
    rfl
  rw [Store.tryLoad, Lock.acquire_of_opened settled.opens, notHeld]
  change (store.readTarget session.tree, _) = _
  rw [isRead]
  congr 1
  -- The lock was new, so giving it back leaves the registry as it was before.
  change Session.mk session.tree _ = session
  rw [SortedMap.erase_insert notHeld]

end Store

end SplitTunnel
