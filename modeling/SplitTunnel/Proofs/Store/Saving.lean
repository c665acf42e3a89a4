import SplitTunnel.Proofs.Store.Locking
import SplitTunnel.Store

namespace SplitTunnel

/-!
# What a save comes to

A save is work that is done step by step.  Here is what it comes to when it is done
to its end: it stops at the lock, or it writes, cleans up and gives the lock back.
-/

namespace Store

variable {store : Store α} {paths : StorePaths} {tree : FileTree} {value : α}
variable {session locked : Session}
variable {content : List UInt8} {answers : List StepAnswer}

/-- The steps that put bytes into the target, one after another. -/
theorem replacing_eq
    (paths : StorePaths)
    (content : List UInt8) :
    replacing paths content =
      DiskStep.makeParent paths.temp ++
        [.truncate paths.temp, .write paths.temp content, .sync paths.temp,
          .replace paths.temp paths.target] := by
  rw [replacing, filling, List.append_assoc]
  rfl

/-- A value that cannot be encoded is not written. -/
theorem writeAndReplace_of_refused
    {fault : CodecFault}
    (refused : store.codec.encode value = .error fault) :
    store.writeAndReplace tree value answers = (tree, .error (.codec fault)) := by
  rw [writeAndReplace, writing, refused]
  rfl

/-- The bytes of a value are put into the target step by step. -/
theorem writeAndReplace_of_encoded
    (encoded : store.codec.encode value = .ok content) :
    store.writeAndReplace tree value answers =
      ((DiskStep.runAll tree (replacing store.paths content) answers).1,
        (DiskStep.runAll tree (replacing store.paths content) answers).2.mapError .file) := by
  rw [writeAndReplace, writing, encoded]
  rfl

/-- A value that was written was encoded, and its bytes were put into the target. -/
theorem runAll_of_writeAndReplace
    (isOk : (store.writeAndReplace tree value answers).2 = .ok ()) :
    ∃ content,
      store.codec.encode value = .ok content ∧
        DiskStep.runAll tree (replacing store.paths content) =
          ((store.writeAndReplace tree value answers).1, .ok ()) := by
  cases encoded : store.codec.encode value with
  | error fault =>
      rw [writeAndReplace_of_refused encoded] at isOk
      cases isOk
  | ok content =>
      refine ⟨content, rfl, ?_⟩
      rw [writeAndReplace_of_encoded encoded] at isOk ⊢
      cases ran : DiskStep.runAll tree (replacing store.paths content) answers with
      | mk written result =>
          rw [ran] at isOk
          cases result with
          | error failed => cases isOk
          | ok _ => exact DiskStep.runAll_of_answered ran

/-- What is left at the temp path is removed, if it can be. -/
theorem removeLeftover_eq
    (paths : StorePaths)
    (tree : FileTree) :
    removeLeftover paths tree =
      match tree.unlink paths.temp with
      | .error _ => tree
      | .ok next => next := by
  change (Activity.done (DiskStep.runAll tree [.remove paths.temp]).1).run = _
  rw [Activity.run, DiskStep.runAll_singleton, DiskStep.run]
  cases tree.unlink paths.temp <;> rfl

/-- Whatever the system answers, what was left is removed, or everything stays. -/
theorem removeLeftover_cases
    (paths : StorePaths)
    (tree : FileTree)
    (answer : StepAnswer) :
    removeLeftover paths tree answer = tree ∨
      (answer = .done ∧ tree.unlink paths.temp = .ok (removeLeftover paths tree answer)) := by
  cases answer with
  | refused fault extent => exact Or.inl rfl
  | done =>
      rw [removeLeftover_eq]
      cases tree.unlink paths.temp with
      | error fault => exact Or.inl rfl
      | ok next => exact Or.inr ⟨rfl, rfl⟩

/-- A save that does not get the lock does nothing more. -/
theorem trySave_of_refused
    {fault : LockFault}
    (saveAnswers : SaveAnswers)
    (refused :
      Lock.acquire session store.paths.lock .exclusive saveAnswers.lock saveAnswers.opening =
        (.error fault, locked)) :
    store.trySave session value saveAnswers = (.error (.lock fault), locked) := by
  rw [Lock.acquire] at refused
  rw [trySave, saving, Activity.run_andThen, refused]
  rfl

/-- A save that gets the lock writes, cleans up and gives the lock back. -/
theorem trySave_of_granted
    {granted : Lock}
    (saveAnswers : SaveAnswers)
    (acquired :
      Lock.acquire session store.paths.lock .exclusive saveAnswers.lock saveAnswers.opening =
        (.ok granted, locked)) :
    store.trySave session value saveAnswers =
      ((store.writeAndReplace locked.tree value saveAnswers.replacing).2,
        (granted.release
          { locked with
            tree := removeLeftover store.paths
              (store.writeAndReplace locked.tree value saveAnswers.replacing).1
              saveAnswers.removal }).2) := by
  rw [Lock.acquire] at acquired
  rw [trySave, saving, Activity.run_andThen, acquired]
  dsimp only
  rw [Activity.run_andThen, Activity.run_andThen]
  rfl

/-- A save comes to the same where taking the lock comes to the same. -/
theorem trySave_congr
    {other : Session}
    (saveAnswers : SaveAnswers)
    (same :
      Lock.acquire session store.paths.lock .exclusive saveAnswers.lock saveAnswers.opening =
        Lock.acquire other store.paths.lock .exclusive saveAnswers.lock saveAnswers.opening) :
    store.trySave session value saveAnswers = store.trySave other value saveAnswers := by
  rw [Lock.acquire, Lock.acquire] at same
  rw [trySave, trySave, saving, saving, Activity.run_andThen, Activity.run_andThen, same]

/-- A save stops at the lock, or writes, cleans up and gives the lock back. -/
theorem trySave_cases
    (store : Store α)
    (session : Session)
    (value : α)
    (answers : SaveAnswers := {}) :
    (∃ fault,
        (Lock.acquire session store.paths.lock .exclusive answers.lock answers.opening).1 =
            .error fault ∧
          store.trySave session value answers =
            (.error (.lock fault),
              (Lock.acquire session store.paths.lock .exclusive answers.lock
                answers.opening).2)) ∨
      ∃ granted locked,
        Lock.acquire session store.paths.lock .exclusive answers.lock answers.opening =
            (.ok granted, locked) ∧
          store.trySave session value answers =
            ((store.writeAndReplace locked.tree value answers.replacing).2,
              (granted.release
                { locked with
                  tree := removeLeftover store.paths
                    (store.writeAndReplace locked.tree value answers.replacing).1
                    answers.removal }).2) := by
  cases acquired :
      Lock.acquire session store.paths.lock .exclusive answers.lock answers.opening with
  | mk result locked =>
      cases result with
      | error fault => exact Or.inl ⟨fault, rfl, trySave_of_refused answers acquired⟩
      | ok granted => exact Or.inr ⟨granted, locked, rfl, trySave_of_granted answers acquired⟩

/-- A save that succeeded was granted the lock, and did all its steps before it cleaned up. -/
theorem trySave_eq_ok
    {saveAnswers : SaveAnswers}
    (saved : (store.trySave session value saveAnswers).1 = .ok ()) :
    ∃ granted locked content written,
      Lock.acquire session store.paths.lock .exclusive saveAnswers.lock saveAnswers.opening =
          (.ok granted, locked) ∧
        store.codec.encode value = .ok content ∧
        DiskStep.runAll locked.tree (replacing store.paths content) = (written, .ok ()) ∧
        (store.trySave session value saveAnswers).2 =
          (granted.release
            { locked with
              tree := removeLeftover store.paths written saveAnswers.removal }).2 := by
  rcases trySave_cases store session value saveAnswers with
    ⟨fault, _, outcome⟩ | ⟨granted, locked, acquired, outcome⟩
  · rw [outcome] at saved
    cases saved
  · rw [outcome] at saved ⊢
    obtain ⟨content, encoded, ran⟩ := runAll_of_writeAndReplace saved
    exact ⟨granted, locked, content, _, acquired, encoded, ran, rfl⟩

theorem save_snd
    (session : Session)
    (value : α)
    (answers : SaveAnswers) :
    (store.save session value answers).2 = (store.trySave session value answers).2 := by
  unfold save
  split <;> simp_all

theorem save_fst
    (session : Session)
    (value : α)
    (answers : SaveAnswers) :
    (store.save session value answers).1 =
      match (store.trySave session value answers).1 with
      | .ok _ => .committed
      | .error _ => .skipped := by
  unfold save
  split <;> simp_all

end Store

end SplitTunnel
