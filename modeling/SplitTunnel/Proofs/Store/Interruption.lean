import SplitTunnel.Proofs.FileTree.Stops
import SplitTunnel.Proofs.Store.Effect

namespace SplitTunnel

/-!
# Saves that are interrupted

A process may be stopped at any point of a save.  The target then holds what it
held before or the whole new value, whatever was left at the temp path, and the
next process finds nothing that keeps it from loading or from saving again.
-/

namespace Store

open FileTree (Keeps)

variable {store : Store α} {paths : StorePaths} {session : Session} {value : α}
variable {tree stopped : FileTree} {content : List UInt8} {answers : SaveAnswers}
variable {directory : Location} {lock temp target : String}

/-- The trees in which a process may be stopped that saves a value. -/
def Interrupted
    (store : Store α)
    (session : Session)
    (value : α)
    (answers : SaveAnswers)
    (stopped : FileTree) :
    Prop :=
  (store.saving session value answers).StopsIn stopped

/-- A save is stopped while it opens the lock file, while it writes or while it cleans up. -/
theorem interrupted_iff :
    Interrupted store session value answers stopped ↔
      DiskStep.StopsWithin session.tree (Lock.opening store.paths.lock) stopped ∨
        ∃ granted locked,
          Lock.acquire session store.paths.lock .exclusive answers.lock answers.opening =
              (.ok granted, locked) ∧
            ((∃ content,
                store.codec.encode value = .ok content ∧
                  DiskStep.StopsWithin locked.tree (replacing store.paths content) stopped) ∨
              DiskStep.StopsWithin
                (store.writeAndReplace locked.tree value answers.replacing).1
                [.remove store.paths.temp] stopped) := by
  have opens :
      (Lock.acquiring session store.paths.lock .exclusive answers.lock
          answers.opening).StopsIn stopped ↔
        DiskStep.StopsWithin session.tree (Lock.opening store.paths.lock) stopped := by
    rw [Lock.acquiring, Activity.StopsIn]
    split <;> simp [Activity.StopsIn]
  have writes (tree : FileTree) :
      (store.writing tree value answers.replacing).StopsIn stopped ↔
        ∃ content,
          store.codec.encode value = .ok content ∧
            DiskStep.StopsWithin tree (replacing store.paths content) stopped := by
    rw [writing]
    cases store.codec.encode value <;> simp [Activity.StopsIn]
  rw [Interrupted, saving, Activity.stopsIn_andThen, opens, Lock.acquire]
  refine or_congr_right ?_
  cases (Lock.acquiring session store.paths.lock .exclusive answers.lock answers.opening).run with
  | mk result locked =>
      cases result with
      | error fault => simp [Activity.StopsIn]
      | ok granted =>
          dsimp only
          rw [Activity.stopsIn_andThen, writes]
          simp [Activity.stopsIn_andThen, removing, Activity.StopsIn, writeAndReplace]

/-- A process may also be stopped when a save has come to its end. -/
theorem interrupted_trySave
    (store : Store α)
    (session : Session)
    (value : α)
    (answers : SaveAnswers) :
    Interrupted store session value answers (store.trySave session value answers).2.tree := by
  rw [interrupted_iff]
  rcases trySave_cases store session value answers with
    ⟨fault, _, outcome⟩ | ⟨granted, locked, acquired, outcome⟩
  · refine Or.inl ?_
    rw [outcome]
    dsimp only
    rw [Lock.acquire_tree]
    exact DiskStep.stopsWithin_runAll ..
  · refine Or.inr ⟨granted, locked, acquired, Or.inr ?_⟩
    rw [outcome]
    dsimp only
    rw [Lock.release_tree]
    exact DiskStep.stopsWithin_runAll ..

/-- What an interrupted save leaves behind, entry by entry. -/
structure StopEffect
    (store : Store α)
    (directory : Location)
    (lock temp target : String)
    (value : α)
    (tree stopped : FileTree) :
    Prop where
  kept :
    Keeps directory [lock :: directory, temp :: directory, target :: directory] tree stopped
  lockFile :
    stopped.get? (lock :: directory) = tree.get? (lock :: directory) ∨
      (tree.get? (lock :: directory) = none ∧
        stopped.get? (lock :: directory) = some (.file []))
  tempFile :
    stopped.get? (temp :: directory) = some .directory →
      tree.get? (temp :: directory) = some .directory
  targetFile :
    stopped.get? (target :: directory) = tree.get? (target :: directory) ∨
      ∃ content,
        store.codec.encode value = .ok content ∧
          store.paths.target.admission = .ok () ∧
          stopped.get? (target :: directory) = some (.file content)

/-- A change of the lock file alone is what a save may be stopped at. -/
theorem StopEffect.ofLocking
    (siblings : store.paths.Siblings directory lock temp target)
    (kept : Keeps directory [lock :: directory] tree stopped)
    (lockFile :
      stopped.get? (lock :: directory) = tree.get? (lock :: directory) ∨
        (tree.get? (lock :: directory) = none ∧
          stopped.get? (lock :: directory) = some (.file []))) :
    StopEffect store directory lock temp target value tree stopped where
  kept := kept.mono (List.suffix_refl _) (by simp)
  lockFile := lockFile
  tempFile isDirectory := by
    rw [← kept.get?_inside temp siblings.temp_not_lock]
    exact isDirectory
  targetFile := Or.inl (kept.get?_inside target siblings.target_not_lock)

/-- What a write leaves, begun or finished, is added to what taking the lock left. -/
theorem StopEffect.andReplacing
    {locked : FileTree}
    (siblings : store.paths.Siblings directory lock temp target)
    (effect : StopEffect store directory lock temp target value tree locked)
    (encoded : store.codec.encode value = .ok content)
    (stops :
      Unfinished store.paths directory temp locked stopped ∨
        Finished store.paths directory temp target content locked stopped) :
    StopEffect store directory lock temp target value tree stopped := by
  rcases stops with unfinished | finished
  · have kept : Keeps directory [temp :: directory, target :: directory] locked stopped :=
      unfinished.kept.mono (List.suffix_refl _) (by simp)
    have lockStays := kept.get?_inside lock siblings.lock_not_written
    have targetStays := unfinished.kept.get?_inside target siblings.target_not_temp
    refine ⟨effect.kept.trans (kept.mono (List.suffix_refl _) (by simp)), ?_, ?_, ?_⟩
    · rw [lockStays]
      exact effect.lockFile
    · intro isDirectory
      rcases unfinished.begun with same | ⟨part, read⟩
      · rw [same] at isDirectory
        exact effect.tempFile isDirectory
      · obtain ⟨_, isFile⟩ := (FileTree.fileContent_eq_ok_iff siblings.tempNames).mp read
        rw [isFile] at isDirectory
        cases isDirectory
    · rw [targetStays]
      exact effect.targetFile
  · have lockStays := finished.kept.get?_inside lock siblings.lock_not_written
    refine ⟨effect.kept.trans (finished.kept.mono (List.suffix_refl _) (by simp)), ?_, ?_, ?_⟩
    · rw [lockStays]
      exact effect.lockFile
    · intro isDirectory
      rw [finished.tempGone] at isDirectory
      cases isDirectory
    · exact Or.inr ⟨content, encoded, finished.admitted, finished.stored⟩

/-- Removing what was left of the temp file is added to what was there before. -/
theorem StopEffect.andRemoval
    {written : FileTree}
    (siblings : store.paths.Siblings directory lock temp target)
    (effect : StopEffect store directory lock temp target value tree written)
    (stops : stopped = written ∨ written.unlink store.paths.temp = .ok stopped) :
    StopEffect store directory lock temp target value tree stopped := by
  rcases stops with same | removed
  · rw [same]
    exact effect
  · obtain ⟨kept, gone⟩ := DiskStep.unlink_keeps siblings.tempNames removed
    have lockStays := kept.get?_inside lock (by simp [siblings.lock_ne_temp])
    have targetStays := kept.get?_inside target siblings.target_not_temp
    refine ⟨effect.kept.trans (kept.mono (List.suffix_refl _) (by simp)), ?_, ?_, ?_⟩
    · rw [lockStays]
      exact effect.lockFile
    · intro isDirectory
      rw [gone] at isDirectory
      cases isDirectory
    · rw [targetStays]
      exact effect.targetFile

/-- What a write comes to that ran to its end, done or not, is added to what was there before. -/
theorem StopEffect.andWriting
    {locked : FileTree}
    (siblings : store.paths.Siblings directory lock temp target)
    (effect : StopEffect store directory lock temp target value tree locked)
    (answers : List StepAnswer) :
    StopEffect store directory lock temp target value tree
      (store.writeAndReplace locked value answers).1 := by
  cases encoded : store.codec.encode value with
  | error refusal =>
      rw [writeAndReplace_of_refused encoded]
      exact effect
  | ok content =>
      rw [writeAndReplace_of_encoded encoded]
      exact effect.andReplacing siblings encoded
        (stopsWithin_replacing siblings (DiskStep.stopsWithin_runAll ..))

/-- Wherever a save is stopped, the target holds its old entry or the whole new value. -/
theorem Interrupted.effect
    (siblings : store.paths.Siblings directory lock temp target)
    (interrupted : Interrupted store session value answers stopped) :
    StopEffect store directory lock temp target value session.tree stopped := by
  rcases interrupted_iff.mp interrupted with opening | ⟨granted, locked, acquired, stops⟩
  · obtain ⟨kept, lockFile⟩ := Lock.stopsWithin_opening siblings.lockNames opening
    exact .ofLocking siblings kept lockFile
  · have attempt :=
      Lock.attempt_acquire session siblings.lockNames .exclusive answers.lock answers.opening
    rw [acquired] at attempt
    have locking : StopEffect store directory lock temp target value session.tree locked.tree :=
      .ofLocking siblings attempt.kept attempt.lockFile
    rcases stops with ⟨content, encoded, stops⟩ | stops
    · exact locking.andReplacing siblings encoded (stopsWithin_replacing siblings stops)
    · refine (locking.andWriting siblings answers.replacing).andRemoval siblings ?_
      exact DiskStep.mayStopAt_remove (DiskStep.stopsWithin_singleton stops)

end Store

end SplitTunnel
