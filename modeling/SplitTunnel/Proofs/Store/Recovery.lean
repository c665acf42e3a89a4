import SplitTunnel.Proofs.Store.Interruption
import SplitTunnel.Proofs.Store.Reading

namespace SplitTunnel

/-!
# After an interruption

What an interrupted save leaves behind keeps no later process from loading what
is in the target or from saving again.
-/

namespace Store

open FileTree (Keeps)
open Location (ne_of_above not_cons_suffix)

variable {store : Store α} {paths : StorePaths} {session : Session} {value : α}
variable {tree other stopped : FileTree} {answers : SaveAnswers}
variable {directory : Location} {lock temp target : String}

/-- Bytes can be put into a file in place of what is there unless that is a directory. -/
theorem storeFile_succeeds
    {path : Path}
    {name : String}
    (names : path.Names directory name)
    (admitted : path.admission = .ok ())
    (found : tree.get? directory = some .directory)
    (isFree : tree.get? (name :: directory) ≠ some .directory)
    (content : List UInt8) :
    ∃ next,
      tree.storeFile path content = .ok next ∧
        Keeps directory [name :: directory] tree next ∧
        next.get? (name :: directory) = some (.file content) := by
  have stored :
      tree.storeFile path content = .ok (tree.putFile (name :: directory) content) :=
    (FileTree.storeFile_eq_ok_iff names).mpr ⟨admitted, found, isFree, rfl⟩
  exact ⟨_, stored, DiskStep.storeFile_keeps names stored⟩

/-- In a directory that is there, bytes are put into the target unless something refuses them. -/
theorem runAll_writing_eq_ok_iff
    (siblings : paths.Siblings directory lock temp target)
    (found : tree.get? directory = some .directory)
    (content : List UInt8) :
    (DiskStep.runAll tree
        [.truncate paths.temp, .write paths.temp content, .sync paths.temp,
          .replace paths.temp paths.target]).2 = .ok () ↔
      paths.temp.admission = .ok () ∧
        paths.target.admission = .ok () ∧
        tree.get? (temp :: directory) ≠ some .directory ∧
        tree.get? (target :: directory) ≠ some .directory := by
  have directoryOther : directory ∉ [temp :: directory] := by simp
  have targetOther := siblings.target_not_temp
  simp only [DiskStep.runAll_cons, DiskStep.runAll_nil, DiskStep.run]
  constructor
  · intro isOk
    cases emptied : tree.storeFile paths.temp [] with
    | error fault => simp [emptied, DiskStep.orUnchanged] at isOk
    | ok begun =>
        cases stored : begun.storeFile paths.temp content with
        | error fault => simp [emptied, stored, DiskStep.orUnchanged] at isOk
        | ok written =>
            cases moved : written.moveFile paths.temp paths.target with
            | error fault => simp [emptied, stored, moved, DiskStep.orUnchanged] at isOk
            | ok final =>
                obtain ⟨admitted, _, isFree, _⟩ :=
                  (FileTree.storeFile_eq_ok_iff siblings.tempNames).mp emptied
                obtain ⟨_, targetAdmitted, targetFree, _⟩ :=
                  (FileTree.moveFile_eq_ok_iff siblings.tempNames siblings.targetNames
                    siblings.target_ne_temp).mp moved
                have begunKept := (DiskStep.storeFile_keeps siblings.tempNames emptied).1
                have writtenKept := (DiskStep.storeFile_keeps siblings.tempNames stored).1
                rw [writtenKept.get?_inside target targetOther,
                  begunKept.get?_inside target targetOther] at targetFree
                exact ⟨admitted, targetAdmitted, isFree, targetFree⟩
  · rintro ⟨admitted, targetAdmitted, isFree, targetFree⟩
    obtain ⟨begun, emptied, begunKept, isEmpty⟩ :=
      storeFile_succeeds siblings.tempNames admitted found isFree []
    obtain ⟨written, stored, writtenKept, isStored⟩ :=
      storeFile_succeeds siblings.tempNames admitted (begunKept.get?_stored directoryOther found)
        (by simp [isEmpty]) content
    rw [← begunKept.get?_inside target targetOther,
      ← writtenKept.get?_inside target targetOther] at targetFree
    have moved := (FileTree.moveFile_eq_ok_iff siblings.tempNames siblings.targetNames
      siblings.target_ne_temp).mpr ⟨admitted, targetAdmitted, targetFree, content, isStored, rfl⟩
    simp [emptied, stored, moved, DiskStep.orUnchanged]

/-- Bytes are put into the target unless a path is refused or a directory is in the way. -/
theorem runAll_replacing_eq_ok_iff
    (siblings : paths.Siblings directory lock temp target)
    (content : List UInt8) :
    (DiskStep.runAll tree (replacing paths content)).2 = .ok () ↔
      (DiskStep.runAll tree (DiskStep.makeParent paths.temp)).2 = .ok () ∧
        paths.temp.admission = .ok () ∧
        paths.target.admission = .ok () ∧
        tree.get? (temp :: directory) ≠ some .directory ∧
        tree.get? (target :: directory) ≠ some .directory := by
  obtain ⟨kept, isThere⟩ := DiskStep.runAll_makeParent tree siblings.tempNames
  rw [← kept.get?_inside temp List.not_mem_nil,
    ← kept.get?_inside target List.not_mem_nil,
    replacing_eq, DiskStep.runAll_append]
  cases made : DiskStep.runAll tree (DiskStep.makeParent paths.temp) with
  | mk next result =>
      rw [made] at isThere
      cases result with
      | error failed => simp
      | ok _ =>
          simpa using runAll_writing_eq_ok_iff siblings (isThere rfl) content

theorem writeAndReplace_eq_ok_iff :
    (store.writeAndReplace tree value).2 = .ok () ↔
      ∃ content,
        store.codec.encode value = .ok content ∧
          (DiskStep.runAll tree (replacing store.paths content)).2 = .ok () := by
  cases encoded : store.codec.encode value with
  | error fault =>
      rw [writeAndReplace_of_refused encoded]
      simp
  | ok content =>
      rw [writeAndReplace_of_encoded encoded]
      cases ran : (DiskStep.runAll tree (replacing store.paths content)).2 <;>
        simp [ran, Except.mapError]

/-- A save that would succeed may be stopped with any first part of its bytes in the temp file. -/
theorem Interrupted.insideWrite
    {content part : List UInt8}
    (siblings : store.paths.Siblings directory lock temp target)
    (saved : (store.trySave session value answers).1 = .ok ())
    (encoded : store.codec.encode value = .ok content)
    (isStart : part <+: content) :
    ∃ stopped,
      Interrupted store session value answers stopped ∧
        stopped.get? (temp :: directory) = some (.file part) := by
  obtain ⟨granted, locked, same, _, acquired, encodedSame, ran, _⟩ := trySave_eq_ok saved
  rw [encoded] at encodedSame
  cases encodedSame
  obtain ⟨madeOk, admitted, _, isFree, _⟩ :=
    (runAll_replacing_eq_ok_iff siblings content).mp (by rw [ran])
  obtain ⟨kept, isThere⟩ := DiskStep.runAll_makeParent locked.tree siblings.tempNames
  rw [← kept.get?_inside temp List.not_mem_nil] at isFree
  obtain ⟨begun, emptied, begunKept, isEmpty⟩ :=
    storeFile_succeeds siblings.tempNames admitted (isThere madeOk) isFree []
  obtain ⟨stopped, stored, _, isStored⟩ :=
    storeFile_succeeds siblings.tempNames admitted
      (begunKept.get?_stored (by simp) (isThere madeOk)) (by simp [isEmpty]) part
  refine ⟨stopped, interrupted_iff.mpr (Or.inr ⟨granted, locked, acquired, ?_⟩), isStored⟩
  refine Or.inl ⟨content, encoded, ?_⟩
  rw [replacing_eq]
  refine .append (Prod.ext rfl madeOk) (.later ?_ (.during (.insideWrite isStart stored)))
  rw [DiskStep.run, emptied]
  rfl

/-- A save that would succeed still does where no more files and directories are in the way. -/
theorem trySave_resumes
    {session other : Session}
    (siblings : store.paths.Siblings directory lock temp target)
    (sameFiles :
      ∀ place, place <:+ directory → session.tree.isFile place = other.tree.isFile place)
    (sameLock :
      session.tree.isDirectory (lock :: directory) = other.tree.isDirectory (lock :: directory))
    (sameHeld : session.held = other.held)
    (tempFree :
      other.tree.get? (temp :: directory) = some .directory →
        session.tree.get? (temp :: directory) = some .directory)
    (targetFree :
      other.tree.get? (target :: directory) = some .directory →
        session.tree.get? (target :: directory) = some .directory)
    (saved : (store.trySave session value).1 = .ok ()) :
    (store.trySave other value).1 = .ok () := by
  have sameAnswer := Lock.acquire_congr siblings.lockNames sameFiles sameLock sameHeld .exclusive
  have attempt := Lock.attempt_acquire session siblings.lockNames .exclusive
  have otherAttempt := Lock.attempt_acquire other siblings.lockNames .exclusive
  rcases trySave_cases store session value with
    ⟨fault, _, outcome⟩ | ⟨granted, locked, acquired, outcome⟩
  · rw [outcome] at saved
    contradiction
  rcases trySave_cases store other value with
    ⟨fault, refused, _⟩ | ⟨otherGranted, otherLocked, otherAcquired, otherOutcome⟩
  · rw [← sameAnswer, acquired] at refused
    contradiction
  rw [acquired] at attempt
  rw [otherAcquired] at otherAttempt
  rw [outcome] at saved
  rw [otherOutcome]
  have lockOther : ∀ place, place <:+ directory → place ∉ [lock :: directory] := by
    intro place isAbove member
    exact ne_of_above isAbove lock (List.mem_singleton.mp member)
  have lockedFiles :
      ∀ place, place <:+ directory → locked.tree.isFile place = otherLocked.tree.isFile place := by
    intro place isAbove
    rw [attempt.kept.isFile_eq (lockOther place isAbove),
      otherAttempt.kept.isFile_eq (lockOther place isAbove)]
    exact sameFiles place isAbove
  obtain ⟨content, encoded, ran⟩ := writeAndReplace_eq_ok_iff.mp saved
  obtain ⟨made, tempAdmitted, targetAdmitted, tempIsFree, targetIsFree⟩ :=
    (runAll_replacing_eq_ok_iff siblings content).mp ran
  rw [attempt.get?_inside temp siblings.temp_not_lock] at tempIsFree
  rw [attempt.get?_inside target siblings.target_not_lock] at targetIsFree
  rw [DiskStep.runAll_makeParent_congr siblings.tempNames lockedFiles] at made
  refine writeAndReplace_eq_ok_iff.mpr ⟨content, encoded, ?_⟩
  refine (runAll_replacing_eq_ok_iff siblings content).mpr
    ⟨made, tempAdmitted, targetAdmitted, ?_, ?_⟩
  · rw [otherAttempt.get?_inside temp siblings.temp_not_lock]
    exact fun isThere => tempIsFree (tempFree isThere)
  · rw [otherAttempt.get?_inside target siblings.target_not_lock]
    exact fun isThere => targetIsFree (targetFree isThere)

/-- What an interrupted save leaves on the way to the store is in no later process's way. -/
theorem StopEffect.sameWay
    {reopened : FileTree}
    (siblings : store.paths.Siblings directory lock temp target)
    (effect : StopEffect store directory lock temp target value tree stopped)
    (sameElsewhere :
      ∀ place, place ≠ temp :: directory → reopened.get? place = stopped.get? place) :
    (∀ place, place <:+ directory → tree.isFile place = reopened.isFile place) ∧
      tree.isDirectory (lock :: directory) = reopened.isDirectory (lock :: directory) := by
  constructor
  · intro place isAbove
    have isOther :
        place ∉ [lock :: directory, temp :: directory, target :: directory] := by
      simp [ne_of_above isAbove]
    rw [← effect.kept.isFile_eq isOther, FileTree.isFile, FileTree.isFile,
      sameElsewhere place (ne_of_above isAbove temp)]
  · have lockOther : lock :: directory ≠ temp :: directory := by
      simpa using siblings.lock_ne_temp
    rw [← FileTree.isDirectory_of_fileMade effect.lockFile, FileTree.isDirectory,
      FileTree.isDirectory, sameElsewhere _ lockOther]

/-- A new process loads what it would have loaded before the save, or the value saved. -/
theorem StopEffect.tryLoad
    {reopened : FileTree}
    (siblings : store.paths.Siblings directory lock temp target)
    (effect : StopEffect store directory lock temp target value tree stopped)
    (sameElsewhere :
      ∀ place, place ≠ temp :: directory → reopened.get? place = stopped.get? place) :
    (store.tryLoad (.ofTree reopened)).1 = (store.tryLoad (.ofTree tree)).1 ∨
      ∃ content,
        store.codec.encode value = .ok content ∧
          (store.tryLoad (.ofTree reopened)).1 =
            ((store.codec.decode content).map some).mapError .codec := by
  obtain ⟨sameFiles, sameLock⟩ := effect.sameWay siblings sameElsewhere
  have sameAnswer :
      (Lock.acquire (.ofTree tree) store.paths.lock .shared).1 =
        (Lock.acquire (.ofTree reopened) store.paths.lock .shared).1 := by
    apply Lock.acquire_congr siblings.lockNames
    · exact sameFiles
    · exact sameLock
    · rfl
  have targetOther : target :: directory ≠ temp :: directory := by
    simpa using siblings.target_ne_temp
  rw [tryLoad_fst siblings, tryLoad_fst siblings, ← sameAnswer]
  cases (Lock.acquire (.ofTree tree) store.paths.lock .shared).1 with
  | error fault => exact Or.inl rfl
  | ok granted =>
      change store.reading (reopened.get? _) = store.reading (tree.get? _) ∨ _
      rw [sameElsewhere _ targetOther]
      rcases effect.targetFile with same | ⟨content, encoded, admitted, stored⟩
      · rw [same]
        exact Or.inl rfl
      · refine Or.inr ⟨content, encoded, ?_⟩
        change store.reading (reopened.get? _) = _
        rw [sameElsewhere _ targetOther, stored, reading_file admitted]

/--
Saves are consistent wherever they are interrupted, and whatever the system refuses.

The target is exactly what it was before, or a file with exactly the bytes of
the value.  So whatever bytes are at the temp path, a new process loads what it
would have loaded before the save or what those bytes stand for.  Nothing that
is left behind keeps a later save from succeeding.
-/
theorem Interrupted.consistent
    (siblings : store.paths.Siblings directory lock temp target)
    (interrupted : Interrupted store session value answers stopped) :
    ((∀ place, target :: directory <:+ place →
          stopped.get? place = session.tree.get? place) ∨
        ∃ content,
          store.codec.encode value = .ok content ∧
            stopped.get? (target :: directory) = some (.file content) ∧
            stopped.fileContent store.paths.target = .ok content) ∧
      (∀ reopened : FileTree,
        (∀ place, place ≠ temp :: directory → reopened.get? place = stopped.get? place) →
          (store.tryLoad (.ofTree reopened)).1 =
              (store.tryLoad (.ofTree session.tree)).1 ∨
            ∃ content,
              store.codec.encode value = .ok content ∧
                (store.tryLoad (.ofTree reopened)).1 =
                  ((store.codec.decode content).map some).mapError .codec) ∧
      ∀ later,
        (store.trySave (.ofTree session.tree) later).1 = .ok () →
          (store.trySave (.ofTree stopped) later).1 = .ok () := by
  have effect := interrupted.effect siblings
  refine ⟨?_, fun reopened => effect.tryLoad siblings, fun later => ?_⟩
  · rcases effect.targetFile with same | ⟨content, encoded, admitted, stored⟩
    · refine Or.inl fun place isBelow => ?_
      by_cases isTarget : place = target :: directory
      · rw [isTarget]
        exact same
      · have notLock := Location.not_below_sibling siblings.lock_ne_target.symm isBelow
        have notTemp := Location.not_below_sibling siblings.target_ne_temp isBelow
        refine effect.kept.get?_apart (by simp [isTarget, notLock, notTemp]) ?_
        exact fun isAbove => not_cons_suffix target directory (isBelow.trans isAbove)
    · have read := (FileTree.fileContent_eq_ok_iff siblings.targetNames).mpr ⟨admitted, stored⟩
      exact Or.inr ⟨content, encoded, stored, read⟩
  · obtain ⟨sameFiles, sameLock⟩ := effect.sameWay siblings fun _ _ => rfl
    refine trySave_resumes siblings sameFiles sameLock rfl effect.tempFile ?_
    intro isDirectory
    rcases effect.targetFile with same | ⟨content, _, _, stored⟩
    · exact same.symm.trans isDirectory
    · cases stored.symm.trans isDirectory

theorem Interrupted.consistent_insideWrite :
    ∃ stopped,
      Interrupted (json (.inDirectory ⟨"data"⟩ "rules") : Store UInt32) (.ofTree .empty) 12 {}
          stopped ∧
        stopped.get? ["rules_temp.json", "data"] = some (.file [49]) ∧
        ((json (.inDirectory ⟨"data"⟩ "rules") : Store UInt32).trySave
          (.ofTree stopped) 7).1 = .ok () := by
  have siblings :
      (json (.inDirectory ⟨"data"⟩ "rules") : Store UInt32).paths.Siblings ["data"]
        "rules.lock" "rules_temp.json" "rules.json" :=
    StorePaths.siblings_dataRules
  have saves :
      ((json (.inDirectory ⟨"data"⟩ "rules") : Store UInt32).trySave
        (.ofTree .empty) 12).1.isOk = true := by
    decide +kernel
  have savesLater :
      ((json (.inDirectory ⟨"data"⟩ "rules") : Store UInt32).trySave
        (.ofTree .empty) 7).1.isOk = true := by
    decide +kernel
  obtain ⟨_, saved⟩ := exists_ok saves
  obtain ⟨_, savedLater⟩ := exists_ok savesLater
  have isStart : [49] <+: Json.encodeTyped (12 : UInt32) := ⟨[50], by decide +kernel⟩
  obtain ⟨stopped, interrupted, isStored⟩ :=
    Interrupted.insideWrite siblings saved rfl isStart
  obtain ⟨_, _, resumes⟩ := Interrupted.consistent siblings interrupted
  exact ⟨stopped, interrupted, isStored, resumes 7 savedLater⟩

end Store

end SplitTunnel
