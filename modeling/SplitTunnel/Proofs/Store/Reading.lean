import SplitTunnel.Proofs.Store.Locking
import SplitTunnel.Proofs.Store.Siblings

namespace SplitTunnel

/-!
# What a load finds

Once the lock is taken, a load depends on the entry at the target alone.  So a
load cannot tell apart two trees with the same target entry in which the lock is
granted alike.
-/

/-- What is okay is a value. -/
theorem exists_ok
    {ε α : Type}
    {result : Except ε α}
    (isOk : result.isOk = true) :
    ∃ value, result = .ok value := by
  cases result with
  | error fault => contradiction
  | ok value => exact ⟨value, rfl⟩

namespace Store

variable {store : Store α} {session : Session} {tree : FileTree}
variable {directory : Location} {lock temp target : String}

/-- What is read from the entry at the target. -/
def reading (store : Store α) (stored? : Option Entry) : Except StoreFault (Option α) :=
  match store.paths.target.admission, stored? with
  | .error _, _ =>
      .ok none
  | .ok _, none =>
      .ok none
  | .ok _, some .directory =>
      .error (.file { action := .read, path := store.paths.target, fault := .isDirectory })
  | .ok _, some (.file content) =>
      (store.codec.decode content).map some |>.mapError .codec

@[simp]
theorem reading_none (store : Store α) : store.reading none = .ok none := by
  unfold reading
  cases store.paths.target.admission <;> rfl

theorem reading_refused
    {fault : FileFault}
    (refused : store.paths.target.admission = .error fault)
    (stored? : Option Entry) :
    store.reading stored? = .ok none := by
  unfold reading
  rw [refused]

theorem reading_file
    (admitted : store.paths.target.admission = .ok ())
    (content : List UInt8) :
    store.reading (some (.file content)) =
      ((store.codec.decode content).map some).mapError .codec := by
  unfold reading
  rw [admitted]

theorem find_of_directory
    {path : Path}
    {name : String}
    (names : path.Names directory name)
    (found : tree.get? directory = some .directory) :
    tree.find path =
      path.admission.bind fun _ =>
        match tree.get? (name :: directory) with
        | none => .error .notFound
        | some entry => .ok (name :: directory, entry) := by
  rw [FileTree.find, FileTree.locate_of_directory names found]
  cases path.admission <;> rfl

theorem readTarget_of_directory
    (siblings : store.paths.Siblings directory lock temp target)
    (found : tree.get? directory = some .directory) :
    store.readTarget tree = store.reading (tree.get? (target :: directory)) := by
  unfold reading
  rw [readTarget, FileTree.isPresent, FileTree.fileContent,
    find_of_directory siblings.targetNames found]
  cases store.paths.target.admission with
  | error fault => rfl
  | ok _ =>
      cases tree.get? (target :: directory) with
      | none => rfl
      | some entry => cases entry <;> rfl

/-- A load opens the lock file and changes no other file. -/
theorem tryLoad_tree
    (store : Store α)
    (session : Session)
    (answer : SystemAnswer)
    (openingAnswers : List StepAnswer) :
    (store.tryLoad session answer openingAnswers).2.tree =
      (DiskStep.runAll session.tree (Lock.opening store.paths.lock) openingAnswers).1 := by
  rw [← Lock.acquire_tree session store.paths.lock .shared answer openingAnswers, tryLoad]
  cases Lock.acquire session store.paths.lock .shared answer openingAnswers with
  | mk result locked =>
      cases result with
      | error fault => rfl
      | ok granted =>
          dsimp only
          rw [Lock.release_tree]

/-- A load is refused the lock, or reads the entry at the target. -/
theorem tryLoad_fst
    (siblings : store.paths.Siblings directory lock temp target)
    (session : Session)
    (answer : SystemAnswer := .ok ())
    (openingAnswers : List StepAnswer := []) :
    (store.tryLoad session answer openingAnswers).1 =
      match (Lock.acquire session store.paths.lock .shared answer openingAnswers).1 with
      | .error fault => .error (.lock fault)
      | .ok _ => store.reading (session.tree.get? (target :: directory)) := by
  have attempt :=
    Lock.attempt_acquire session siblings.lockNames .shared answer openingAnswers
  have targetStays := attempt.get?_inside target siblings.target_not_lock
  rw [tryLoad]
  cases acquired : Lock.acquire session store.paths.lock .shared answer openingAnswers with
  | mk result locked =>
      rw [acquired] at attempt targetStays
      cases result with
      | error fault => rfl
      | ok granted =>
          obtain ⟨_, _, _, _, isThere⟩ := attempt.granted granted rfl
          change store.readTarget locked.tree = _
          rw [readTarget_of_directory siblings isThere]
          change locked.tree.get? _ = _ at targetStays
          rw [targetStays]

/-- A load gives the default value where one that is tried finds nothing or fails. -/
theorem load_fst
    (session : Session)
    (answer : SystemAnswer)
    (openingAnswers : List StepAnswer) :
    (store.load session answer openingAnswers).1 =
      match (store.tryLoad session answer openingAnswers).1 with
      | .ok (some value) => value
      | .ok none => store.default
      | .error _ => store.default := by
  unfold load
  split <;> simp_all

/-- A load does to the files and the registry what one that is tried does. -/
theorem load_snd
    (session : Session)
    (answer : SystemAnswer)
    (openingAnswers : List StepAnswer) :
    (store.load session answer openingAnswers).2 =
      (store.tryLoad session answer openingAnswers).2 := by
  unfold load
  split <;> simp_all

/-- Two trees that a load cannot tell apart, but for what it may find at the lock file. -/
structure LoadsAlike
    (directory : Location)
    (lock target : String)
    (tree other : FileTree) :
    Prop where
  sameFiles : ∀ place, place <:+ directory → tree.isFile place = other.isFile place
  sameLock : tree.isDirectory (lock :: directory) = other.isDirectory (lock :: directory)
  sameTarget : tree.get? (target :: directory) = other.get? (target :: directory)

namespace LoadsAlike

variable {other third : FileTree}

theorem symm
    (alike : LoadsAlike directory lock target tree other) :
    LoadsAlike directory lock target other tree where
  sameFiles place isAbove := (alike.sameFiles place isAbove).symm
  sameLock := alike.sameLock.symm
  sameTarget := alike.sameTarget.symm

theorem trans
    (alike : LoadsAlike directory lock target tree other)
    (next : LoadsAlike directory lock target other third) :
    LoadsAlike directory lock target tree third where
  sameFiles place isAbove := (alike.sameFiles place isAbove).trans (next.sameFiles place isAbove)
  sameLock := alike.sameLock.trans next.sameLock
  sameTarget := alike.sameTarget.trans next.sameTarget

/-- A change of the lock file and the temp file is not noticed, as long as the lock can be opened. -/
theorem ofKept
    {next : FileTree}
    {paths : StorePaths}
    (siblings : paths.Siblings directory lock temp target)
    (kept : FileTree.Keeps directory [lock :: directory, temp :: directory] tree next)
    (lockFile :
      next.get? (lock :: directory) = tree.get? (lock :: directory) ∨
        (tree.get? (lock :: directory) = none ∧
          next.get? (lock :: directory) = some (.file []))) :
    LoadsAlike directory lock target tree next where
  sameFiles place isAbove :=
    (kept.isFile_eq (by simp [Location.ne_of_above isAbove])).symm
  sameLock := (FileTree.isDirectory_of_fileMade lockFile).symm
  sameTarget := by
    have isOther : target :: directory ∉ [lock :: directory, temp :: directory] := by
      simp [siblings.lock_ne_target.symm, siblings.target_ne_temp]
    exact (kept.get?_inside target isOther).symm

/-- What one load leaves, the next cannot tell from what was there before. -/
theorem ofLoad
    (siblings : store.paths.Siblings directory lock temp target)
    (session : Session) :
    LoadsAlike directory lock target session.tree (store.tryLoad session).2.tree := by
  obtain ⟨kept, lockFile, _⟩ := Lock.runAll_opening session.tree siblings.lockNames
  rw [tryLoad_tree]
  exact ofKept siblings (kept.mono (List.suffix_refl _) (by simp)) lockFile

/-- A load of trees that are alike finds the same, where the same locks are held. -/
theorem tryLoad
    {elsewhere : Session}
    (siblings : store.paths.Siblings directory lock temp target)
    (alike : LoadsAlike directory lock target session.tree elsewhere.tree)
    (sameHeld : session.held = elsewhere.held) :
    (store.tryLoad session).1 = (store.tryLoad elsewhere).1 := by
  rw [tryLoad_fst siblings, tryLoad_fst siblings, alike.sameTarget,
    Lock.acquire_congr siblings.lockNames alike.sameFiles alike.sameLock sameHeld .shared]

end LoadsAlike

end Store

end SplitTunnel
