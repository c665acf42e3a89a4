import SplitTunnel.Proofs.Store.Saving
import SplitTunnel.Proofs.Store.Siblings

namespace SplitTunnel

/-!
# What a save does to the files

The three files of a store stand side by side in one directory.  A save changes
the lock file and the temp file on its way, and the target in one step at the
end; whatever goes wrong before that step leaves the target as it was, and a
temp file that was begun is removed again, unless the system refuses that, too.
-/

namespace Store

open FileTree (Keeps)
open Location (not_cons_suffix not_below_sibling)

variable {store : Store α} {paths : StorePaths} {session : Session} {tree : FileTree}
variable {directory : Location} {lock temp target : String} {content : List UInt8} {value : α}
variable {stopped : FileTree} {answers : SaveAnswers}

/-- What is found after a write that failed: only the temp file may have changed. -/
structure Unfinished
    (paths : StorePaths)
    (directory : Location)
    (temp : String)
    (tree next : FileTree) :
    Prop where
  kept : Keeps directory [temp :: directory] tree next
  begun :
    next.get? (temp :: directory) = tree.get? (temp :: directory) ∨
      ∃ content, next.fileContent paths.temp = .ok content

/-- What is found after a write that was done: the bytes stand in the target. -/
structure Finished
    (paths : StorePaths)
    (directory : Location)
    (temp target : String)
    (content : List UInt8)
    (tree next : FileTree) :
    Prop where
  kept : Keeps directory [temp :: directory, target :: directory] tree next
  stored : next.get? (target :: directory) = some (.file content)
  tempGone : next.get? (temp :: directory) = none
  admitted : paths.target.admission = .ok ()

/-- A temp file that was stored is what an unfinished write leaves. -/
theorem Unfinished.ofStored
    {next : FileTree}
    (siblings : paths.Siblings directory lock temp target)
    (unfinished : Unfinished paths directory temp tree next)
    {final : FileTree}
    (stored : next.storeFile paths.temp content = .ok final) :
    Unfinished paths directory temp tree final := by
  obtain ⟨kept, isFile⟩ := DiskStep.storeFile_keeps siblings.tempNames stored
  obtain ⟨admitted, _⟩ := (FileTree.storeFile_eq_ok_iff siblings.tempNames).mp stored
  refine ⟨unfinished.kept.trans kept, Or.inr ⟨content, ?_⟩⟩
  exact (FileTree.fileContent_eq_ok_iff siblings.tempNames).mpr ⟨admitted, isFile⟩

/-- A temp file that is moved to the target finishes the write. -/
theorem Unfinished.finish
    {written final : FileTree}
    (siblings : paths.Siblings directory lock temp target)
    (unfinished : Unfinished paths directory temp tree written)
    (isTemp : written.get? (temp :: directory) = some (.file content))
    (moved : written.moveFile paths.temp paths.target = .ok final) :
    Finished paths directory temp target content tree final := by
  obtain ⟨movedKept, tempGone, movedContent, wasTemp, isTarget⟩ :=
    DiskStep.moveFile_keeps siblings.tempNames siblings.targetNames
      siblings.target_ne_temp moved
  obtain ⟨_, admitted, _⟩ :=
    (FileTree.moveFile_eq_ok_iff siblings.tempNames siblings.targetNames
      siblings.target_ne_temp).mp moved
  have writtenKept : Keeps directory [temp :: directory, target :: directory] tree written :=
    unfinished.kept.mono (List.suffix_refl _) (by simp)
  rw [isTemp] at wasTemp
  cases wasTemp
  exact ⟨writtenKept.trans movedKept, isTarget, tempGone, admitted⟩

/-- Directories that were made for the temp file are what an unfinished write leaves. -/
theorem Unfinished.ofDirectories
    {next : FileTree}
    (kept : Keeps directory [] tree next) :
    Unfinished paths directory temp tree next where
  kept := kept.mono (List.suffix_refl _) (by simp)
  begun := Or.inl (kept.get?_inside temp List.not_mem_nil)

/-- Storing bytes at the temp path, or stopping before that, leaves an unfinished write. -/
theorem Unfinished.cutShort
    {next : FileTree}
    (siblings : paths.Siblings directory lock temp target)
    (unfinished : Unfinished paths directory temp tree next)
    (stops : stopped = next ∨ ∃ part, next.storeFile paths.temp part = .ok stopped) :
    Unfinished paths directory temp tree stopped := by
  rcases stops with same | ⟨part, stored⟩
  · rw [same]
    exact unfinished
  · exact unfinished.ofStored siblings stored

/-- Wherever the filling of the temp file is stopped, only that file changed. -/
theorem stopsWithin_filling
    (siblings : paths.Siblings directory lock temp target)
    (stops : DiskStep.StopsWithin tree (filling paths content) stopped) :
    Unfinished paths directory temp tree stopped := by
  rcases DiskStep.stopsWithin_append stops with within | ⟨next, made, stops⟩
  · exact .ofDirectories (DiskStep.stopsWithin_makeParent siblings.tempNames within)
  have parentKept := (DiskStep.runAll_makeParent tree siblings.tempNames).1
  rw [made] at parentKept
  have parentMade : Unfinished paths directory temp tree next := .ofDirectories parentKept
  cases stops with
  | during stops =>
      refine parentMade.cutShort siblings ?_
      exact (DiskStep.mayStopAt_truncate stops).imp_right fun stored => ⟨[], stored⟩
  | @later _ begun _ _ _ ran stops =>
      have begunLeft := parentMade.ofStored siblings (DiskStep.orUnchanged_eq_ok ran)
      cases stops with
      | during stops =>
          refine begunLeft.cutShort siblings ?_
          rcases DiskStep.mayStopAt_write stops with unchanged | ⟨part, _, stored⟩
          · exact Or.inl unchanged
          · exact Or.inr ⟨part, stored⟩
      | @later _ written _ _ _ ran stops =>
          have writtenLeft := begunLeft.ofStored siblings (DiskStep.orUnchanged_eq_ok ran)
          rw [DiskStep.mayStopAt_sync (DiskStep.stopsWithin_singleton stops)]
          exact writtenLeft

/-- A temp file that was filled holds the bytes, and nothing else changed. -/
theorem stored_of_filling
    {filled : FileTree}
    (siblings : paths.Siblings directory lock temp target)
    (ran : DiskStep.runAll tree (filling paths content) = (filled, .ok ())) :
    Unfinished paths directory temp tree filled ∧
      filled.get? (temp :: directory) = some (.file content) := by
  have stops := DiskStep.stopsWithin_runAll tree (filling paths content) []
  rw [ran] at stops
  refine ⟨stopsWithin_filling siblings stops, ?_⟩
  obtain ⟨made, _, ran⟩ := DiskStep.runAll_append_eq_ok ran
  obtain ⟨begun, _, ran⟩ := DiskStep.runAll_cons_eq_ok ran
  obtain ⟨written, wrote, ran⟩ := DiskStep.runAll_cons_eq_ok ran
  obtain ⟨synced, sync, ended⟩ := DiskStep.runAll_cons_eq_ok ran
  cases sync
  cases ended
  exact (DiskStep.storeFile_keeps siblings.tempNames (DiskStep.orUnchanged_eq_ok wrote)).2

/-- Wherever the writing of a value is stopped, it is finished or changed the temp file only. -/
theorem stopsWithin_replacing
    (siblings : paths.Siblings directory lock temp target)
    (stops : DiskStep.StopsWithin tree (replacing paths content) stopped) :
    Unfinished paths directory temp tree stopped ∨
      Finished paths directory temp target content tree stopped := by
  rcases DiskStep.stopsWithin_append stops with within | ⟨filled, ran, stops⟩
  · exact Or.inl (stopsWithin_filling siblings within)
  obtain ⟨filledLeft, stored⟩ := stored_of_filling siblings ran
  rcases DiskStep.mayStopAt_replace (DiskStep.stopsWithin_singleton stops) with same | moved
  · rw [same]
    exact Or.inl filledLeft
  · exact Or.inr (filledLeft.finish siblings stored moved)

/-- Steps that put bytes into the target and were all done have finished the write. -/
theorem finished_of_replacing
    {next : FileTree}
    (siblings : paths.Siblings directory lock temp target)
    (ran : DiskStep.runAll tree (replacing paths content) = (next, .ok ())) :
    Finished paths directory temp target content tree next := by
  obtain ⟨filled, ranFilling, ran⟩ := DiskStep.runAll_append_eq_ok ran
  obtain ⟨moved, replaced, ended⟩ := DiskStep.runAll_cons_eq_ok ran
  cases ended
  obtain ⟨filledLeft, stored⟩ := stored_of_filling siblings ranFilling
  exact filledLeft.finish siblings stored (DiskStep.orUnchanged_eq_ok replaced)

/-- The steps that put bytes into the target are finished, or only the temp file changed. -/
theorem runAll_replacing
    (tree : FileTree)
    (siblings : paths.Siblings directory lock temp target)
    (content : List UInt8)
    (answers : List StepAnswer) :
    ((DiskStep.runAll tree (replacing paths content) answers).2 = .ok () →
      Finished paths directory temp target content tree
        (DiskStep.runAll tree (replacing paths content) answers).1) ∧
      ∀ failed, (DiskStep.runAll tree (replacing paths content) answers).2 = .error failed →
        Unfinished paths directory temp tree
          (DiskStep.runAll tree (replacing paths content) answers).1 := by
  cases ran : DiskStep.runAll tree (replacing paths content) answers with
  | mk next result =>
      cases result with
      | ok _ =>
          refine ⟨fun _ => finished_of_replacing siblings (DiskStep.runAll_of_answered ran), ?_⟩
          intro failed isError
          cases isError
      | error failed =>
          refine ⟨fun isOk => ?_, fun _ _ => ?_⟩
          · cases isOk
          · exact stopsWithin_filling siblings (DiskStep.stopsWithin_of_failed ran)

/-- Writing a value is finished with its bytes in the target, or only the temp file changed. -/
theorem writeAndReplace_cases
    (tree : FileTree)
    (siblings : store.paths.Siblings directory lock temp target)
    (value : α)
    (answers : List StepAnswer) :
    ((store.writeAndReplace tree value answers).2 = .ok () →
      ∃ content,
        store.codec.encode value = .ok content ∧
          Finished store.paths directory temp target content tree
            (store.writeAndReplace tree value answers).1) ∧
      ∀ fault, (store.writeAndReplace tree value answers).2 = .error fault →
        Unfinished store.paths directory temp tree
          (store.writeAndReplace tree value answers).1 := by
  cases encoded : store.codec.encode value with
  | error refusal =>
      rw [writeAndReplace_of_refused encoded]
      refine ⟨(fun isOk => ?_), fun _ _ => ⟨Keeps.refl tree, Or.inl rfl⟩⟩
      cases isOk
  | ok content =>
      rw [writeAndReplace_of_encoded encoded]
      obtain ⟨whenDone, whenFailed⟩ := runAll_replacing tree siblings content answers
      cases ran : (DiskStep.runAll tree (replacing store.paths content) answers).2 with
      | error failed =>
          refine ⟨fun isOk => ?_, fun _ _ => whenFailed failed ran⟩
          cases isOk
      | ok _ =>
          refine ⟨fun _ => ⟨content, rfl, whenDone ran⟩, fun fault isError => ?_⟩
          cases isError

/-- Removing what was left of the temp file changes no other entry. -/
theorem removeLeftover_keeps
    (tree : FileTree)
    (siblings : paths.Siblings directory lock temp target)
    (answer : StepAnswer) :
    Keeps directory [temp :: directory] tree (removeLeftover paths tree answer) ∧
      ((removeLeftover paths tree answer).get? (temp :: directory) =
          tree.get? (temp :: directory) ∨
        (removeLeftover paths tree answer).get? (temp :: directory) = none) := by
  rcases removeLeftover_cases paths tree answer with same | ⟨_, removed⟩
  · rw [same]
    exact ⟨Keeps.refl tree, Or.inl rfl⟩
  · obtain ⟨kept, gone⟩ := DiskStep.unlink_keeps siblings.tempNames removed
    exact ⟨kept, Or.inr gone⟩

/-- A temp file that can be read is removed. -/
theorem removeLeftover_gone
    (siblings : paths.Siblings directory lock temp target)
    (read : tree.fileContent paths.temp = .ok content) :
    (removeLeftover paths tree).get? (temp :: directory) = none := by
  obtain ⟨admitted, isFile⟩ := (FileTree.fileContent_eq_ok_iff siblings.tempNames).mp read
  have removed := (FileTree.unlink_eq_ok_iff siblings.tempNames).mpr
    ⟨admitted, ⟨content, isFile⟩, rfl⟩
  rw [removeLeftover_eq, removed]
  exact (DiskStep.unlink_keeps siblings.tempNames removed).2

/-- Once leftovers are removed, no file can be read at the temp path. -/
theorem fileContent_removeLeftover
    (tree : FileTree)
    (siblings : paths.Siblings directory lock temp target)
    (content : List UInt8) :
    (removeLeftover paths tree).fileContent paths.temp ≠ .ok content := by
  intro read
  obtain ⟨admitted, isFile⟩ := (FileTree.fileContent_eq_ok_iff siblings.tempNames).mp read
  rcases (removeLeftover_keeps tree siblings .done).2 with same | gone
  · rw [same] at isFile
    have wasRead := (FileTree.fileContent_eq_ok_iff siblings.tempNames).mpr ⟨admitted, isFile⟩
    rw [← same, removeLeftover_gone siblings wasRead] at isFile
    contradiction
  · rw [gone] at isFile
    contradiction

/-- What an unfinished write left is removed, if that is not refused; the rest is as it was. -/
theorem Unfinished.removeLeftover
    {next : FileTree}
    (siblings : paths.Siblings directory lock temp target)
    (unfinished : Unfinished paths directory temp tree next)
    (answer : StepAnswer) :
    Keeps directory [temp :: directory] tree (removeLeftover paths next answer) ∧
      ((Store.removeLeftover paths next answer).get? (temp :: directory) =
          tree.get? (temp :: directory) ∨
        (Store.removeLeftover paths next answer).get? (temp :: directory) = none ∨
        (answer ≠ .done ∧
          ∃ content,
            (Store.removeLeftover paths next answer).get? (temp :: directory) =
              some (.file content))) := by
  obtain ⟨kept, tempFile⟩ := removeLeftover_keeps next siblings answer
  refine ⟨unfinished.kept.trans kept, ?_⟩
  rcases unfinished.begun with same | ⟨content, read⟩
  · rw [← same]
    exact tempFile.imp_right Or.inl
  · cases answer with
    | done => exact Or.inr (Or.inl (removeLeftover_gone siblings read))
    | refused fault extent =>
        obtain ⟨_, isFile⟩ := (FileTree.fileContent_eq_ok_iff siblings.tempNames).mp read
        exact Or.inr (Or.inr ⟨by simp, content, isFile⟩)

/-- After a finished write there is nothing to remove. -/
theorem Finished.removeLeftover
    {next : FileTree}
    (siblings : paths.Siblings directory lock temp target)
    (finished : Finished paths directory temp target content tree next)
    (answer : StepAnswer) :
    Finished paths directory temp target content tree (removeLeftover paths next answer) := by
  obtain ⟨kept, tempFile⟩ := removeLeftover_keeps next siblings answer
  have kept' : Keeps directory [temp :: directory, target :: directory] next
      (Store.removeLeftover paths next answer) :=
    kept.mono (List.suffix_refl _) (by simp)
  refine ⟨finished.kept.trans kept', kept.get?_stored siblings.target_not_temp finished.stored, ?_,
    finished.admitted⟩
  rcases tempFile with same | gone
  · rw [same]
    exact finished.tempGone
  · exact gone

/-- What a save leaves behind, entry by entry, whether it succeeds or not. -/
structure SaveEffect
    (store : Store α)
    (directory : Location)
    (lock temp target : String)
    (session : Session)
    (value : α)
    (answers : SaveAnswers)
    (outcome : Except StoreFault Unit × Session) :
    Prop where
  succeeded :
    outcome.1 = .ok () →
      ∃ content,
        store.codec.encode value = .ok content ∧
          store.paths.target.admission = .ok () ∧
          outcome.2.tree.get? (target :: directory) = some (.file content) ∧
          outcome.2.tree.get? (temp :: directory) = none
  failed :
    ∀ fault, outcome.1 = .error fault →
      Keeps directory [lock :: directory, temp :: directory] session.tree outcome.2.tree
  unread :
    ∀ granted,
      (Lock.acquire session store.paths.lock .exclusive answers.lock answers.opening).1 =
          .ok granted →
        answers.removal = .done →
          ∀ content, outcome.2.tree.fileContent store.paths.temp ≠ .ok content
  tempFile :
    outcome.2.tree.get? (temp :: directory) = session.tree.get? (temp :: directory) ∨
      outcome.2.tree.get? (temp :: directory) = none ∨
      (answers.removal ≠ .done ∧
        ∃ content, outcome.2.tree.get? (temp :: directory) = some (.file content))
  lockFile :
    outcome.2.tree.get? (lock :: directory) = session.tree.get? (lock :: directory) ∨
      (session.tree.get? (lock :: directory) = none ∧
        outcome.2.tree.get? (lock :: directory) = some (.file []))
  held : outcome.2.held = session.held
  kept :
    Keeps directory [lock :: directory, temp :: directory, target :: directory]
      session.tree outcome.2.tree

/-- A change of the lock file and the temp file leaves the target and all below it alone. -/
theorem target_kept
    (siblings : paths.Siblings directory lock temp target)
    {next : FileTree}
    (kept : Keeps directory [lock :: directory, temp :: directory] tree next)
    {place : Location}
    (isBelow : target :: directory <:+ place) :
    next.get? place = tree.get? place := by
  have notLock := not_below_sibling siblings.lock_ne_target.symm isBelow
  have notTemp := not_below_sibling siblings.target_ne_temp isBelow
  refine kept.get?_apart (by simp [notLock, notTemp]) ?_
  intro onTheWay
  exact not_cons_suffix target directory (isBelow.trans onTheWay)

/-- A save that was refused the lock changes at most the lock file. -/
theorem effect_refused
    (siblings : store.paths.Siblings directory lock temp target)
    {outcome : Except LockFault Lock × Session}
    (attempt : Lock.Attempt session (lock :: directory) outcome)
    {fault : LockFault}
    (acquired :
      Lock.acquire session store.paths.lock .exclusive answers.lock answers.opening = outcome)
    (refused : outcome.1 = .error fault) :
    SaveEffect store directory lock temp target session value answers
      (.error (.lock fault), outcome.2) where
  succeeded isOk := by cases isOk
  failed _ _ := attempt.kept.mono (List.suffix_refl _) (by simp)
  unread granted isGranted := by
    rw [acquired, refused] at isGranted
    cases isGranted
  tempFile := Or.inl (attempt.get?_inside temp siblings.temp_not_lock)
  lockFile := attempt.lockFile
  held := attempt.refused fault refused
  kept := attempt.kept.mono (List.suffix_refl _) (by simp)

/-- A save that was granted the lock adds what it writes to what taking the lock did. -/
theorem effect_granted
    (siblings : store.paths.Siblings directory lock temp target)
    {granted : Lock}
    {locked : Session}
    (attempt : Lock.Attempt session (lock :: directory) (.ok granted, locked))
    {cleaned : FileTree}
    {result : Except StoreFault Unit}
    (unread :
      answers.removal = .done → ∀ content, cleaned.fileContent store.paths.temp ≠ .ok content)
    (whenDone :
      result = .ok () →
        ∃ content,
          store.codec.encode value = .ok content ∧
            Finished store.paths directory temp target content locked.tree cleaned)
    (whenFailed :
      ∀ fault, result = .error fault →
        Keeps directory [temp :: directory] locked.tree cleaned ∧
          (cleaned.get? (temp :: directory) = locked.tree.get? (temp :: directory) ∨
            cleaned.get? (temp :: directory) = none ∨
            (answers.removal ≠ .done ∧
              ∃ content, cleaned.get? (temp :: directory) = some (.file content)))) :
    SaveEffect store directory lock temp target session value answers
      (result, (granted.release { locked with tree := cleaned }).2) := by
  have tempStays : locked.tree.get? (temp :: directory) = session.tree.get? (temp :: directory) :=
    attempt.get?_inside temp siblings.temp_not_lock
  have kept : Keeps directory [temp :: directory, target :: directory] locked.tree cleaned := by
    cases result with
    | ok _ =>
        obtain ⟨_, _, finished⟩ := whenDone rfl
        exact finished.kept
    | error fault => exact (whenFailed fault rfl).1.mono (List.suffix_refl _) (by simp)
  have lockStays := kept.get?_inside lock siblings.lock_not_written
  have lockKept :
      ∀ more : List Location, lock :: directory ∈ more →
        Keeps directory more session.tree locked.tree := by
    intro more isIncluded
    exact attempt.kept.mono (List.suffix_refl _) (by simpa using isIncluded)
  refine {
    succeeded := ?_
    failed := ?_
    unread := ?_
    tempFile := ?_
    lockFile := ?_
    held := Lock.release_held attempt rfl cleaned
    kept := ?_ }
  all_goals
    dsimp only
    rw [Lock.release_tree]
  · intro isOk
    obtain ⟨content, encoded, finished⟩ := whenDone isOk
    exact ⟨content, encoded, finished.admitted, finished.stored, finished.tempGone⟩
  · intro fault isError
    refine (lockKept _ (by simp)).trans ?_
    exact (whenFailed fault isError).1.mono (List.suffix_refl _) (by simp)
  · exact fun _ _ => unread
  · rw [← tempStays]
    cases result with
    | ok _ =>
        obtain ⟨_, _, finished⟩ := whenDone rfl
        exact Or.inr (Or.inl finished.tempGone)
    | error fault => exact (whenFailed fault rfl).2
  · rw [lockStays]
    exact attempt.lockFile
  · exact (lockKept _ (by simp)).trans (kept.mono (List.suffix_refl _) (by simp))

theorem effect_trySave
    (siblings : store.paths.Siblings directory lock temp target)
    (session : Session)
    (value : α)
    (answers : SaveAnswers := {}) :
    SaveEffect store directory lock temp target session value answers
      (store.trySave session value answers) := by
  have attempt :=
    Lock.attempt_acquire session siblings.lockNames .exclusive answers.lock answers.opening
  rcases trySave_cases store session value answers with
    ⟨fault, refused, outcome⟩ | ⟨granted, locked, acquired, outcome⟩
  · rw [outcome]
    exact effect_refused siblings attempt rfl refused
  · rw [acquired] at attempt
    obtain ⟨whenDone, whenFailed⟩ :=
      writeAndReplace_cases locked.tree siblings value answers.replacing
    rw [outcome]
    refine effect_granted siblings attempt ?_ ?_ ?_
    · intro isDone
      rw [isDone]
      exact fileContent_removeLeftover _ siblings
    · intro isOk
      obtain ⟨content, encoded, finished⟩ := whenDone isOk
      exact ⟨content, encoded, finished.removeLeftover siblings answers.removal⟩
    · intro fault isError
      exact (whenFailed fault isError).removeLeftover siblings answers.removal

/--
The full effect of a save on the files and on the held locks.

Whatever the system answers to the lock and to each step, a save that succeeds
leaves exactly the bytes of the value in the target and nothing at the temp path.
One that fails leaves the target and all that is below it as it was.  Once the
lock was taken, no file is left at the temp path, unless the system refuses to
remove it.  Held locks survive, a lock file keeps its content, and besides the
three files only directories that were missing on the way to them are made.
-/
theorem trySave_effect
    (siblings : store.paths.Siblings directory lock temp target)
    (session : Session)
    (value : α)
    (answers : SaveAnswers) :
    ((store.trySave session value answers).1 = .ok () →
        ∃ content,
          store.codec.encode value = .ok content ∧
            (store.trySave session value answers).2.tree.fileContent store.paths.target =
              .ok content ∧
            (store.trySave session value answers).2.tree.isPresent store.paths.temp = false ∧
            (store.trySave session value answers).2.tree.get? (temp :: directory) = none) ∧
      (∀ fault, (store.trySave session value answers).1 = .error fault →
        ∀ place, target :: directory <:+ place →
          (store.trySave session value answers).2.tree.get? place = session.tree.get? place) ∧
      (∀ granted,
        (Lock.acquire session store.paths.lock .exclusive answers.lock answers.opening).1 =
            .ok granted →
          answers.removal = .done →
            ∀ content,
              (store.trySave session value answers).2.tree.fileContent store.paths.temp ≠
                .ok content) ∧
      (store.trySave session value answers).2.held = session.held ∧
      ((store.trySave session value answers).2.tree.get? (temp :: directory) =
          session.tree.get? (temp :: directory) ∨
        (store.trySave session value answers).2.tree.get? (temp :: directory) = none ∨
        (answers.removal ≠ .done ∧
          ∃ content,
            (store.trySave session value answers).2.tree.get? (temp :: directory) =
              some (.file content))) ∧
      ((store.trySave session value answers).2.tree.get? (lock :: directory) =
          session.tree.get? (lock :: directory) ∨
        (session.tree.get? (lock :: directory) = none ∧
          (store.trySave session value answers).2.tree.get? (lock :: directory) =
            some (.file []))) ∧
      ∀ place,
        place ∉ [lock :: directory, temp :: directory, target :: directory] →
          (store.trySave session value answers).2.tree.get? place = session.tree.get? place ∨
            (session.tree.get? place = none ∧
              (store.trySave session value answers).2.tree.get? place = some .directory ∧
              place <:+ directory) := by
  have effect := effect_trySave siblings session value answers
  refine ⟨?_, ?_, effect.unread, effect.held, effect.tempFile, effect.lockFile, effect.kept⟩
  · intro isOk
    obtain ⟨content, encoded, admitted, stored, tempGone⟩ := effect.succeeded isOk
    have read := (FileTree.fileContent_eq_ok_iff siblings.targetNames).mpr ⟨admitted, stored⟩
    refine ⟨content, encoded, read, ?_, tempGone⟩
    rw [Bool.eq_false_iff]
    intro isThere
    obtain ⟨_, entry, present⟩ := (FileTree.isPresent_iff siblings.tempNames).mp isThere
    rw [tempGone] at present
    contradiction
  · intro fault isError place isBelow
    exact target_kept siblings (effect.failed fault isError) isBelow

theorem trySave_effect_inDirectory :
    ((json (.inDirectory ⟨"data"⟩ "rules") : Store UInt32).trySave (.ofTree .empty) 7).1.isOk =
        true ∧
      ((json (.inDirectory ⟨"data"⟩ "rules") : Store UInt32).trySave
          (.ofTree .empty) 7).2.held = ∅ ∧
      ((json (.inDirectory ⟨"data"⟩ "rules") : Store UInt32).trySave
          (.ofTree .empty) 7).2.tree.get? ["rules.txt", "data"] = none := by
  have siblings :
      (json (.inDirectory ⟨"data"⟩ "rules") : Store UInt32).paths.Siblings ["data"]
        "rules.lock" "rules_temp.json" "rules.json" :=
    StorePaths.siblings_dataRules
  obtain ⟨_, _, _, held, _, _, kept⟩ := trySave_effect siblings (.ofTree .empty) 7 {}
  refine ⟨by decide +kernel, held, ?_⟩
  rcases kept ["rules.txt", "data"] (by decide) with same | ⟨_, _, onTheWay⟩
  · exact same
  · exact absurd onTheWay (by decide)

end Store

end SplitTunnel
