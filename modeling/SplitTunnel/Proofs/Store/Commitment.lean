import SplitTunnel.Proofs.Store.Reopening

namespace SplitTunnel

/-!
# What a reported commit means

The paths of a store may be anything: the same, or spelled differently, or one
below another.  Only one of these ways makes a report of a commit false.  Where
the temp path and the target path lead to one location, the file is moved onto
itself, which succeeds and changes nothing, and is then removed as a leftover.
Everywhere else a save that is reported as committed has put the bytes of the
value into the target.  The lock file may be either of the two files: after it was
opened, nothing is done to it by its own path.
-/

namespace Store

variable {α : Type} {store : Store α} {paths : StorePaths} {session next : Session}
variable {tree written : FileTree} {content : List UInt8} {value : α} {answers : SaveAnswers}

/-- A file that was moved onto itself holds the bytes, until it is removed as a leftover. -/
theorem target_of_same
    (same : paths.target.canonical = paths.temp.canonical)
    (ran : DiskStep.runAll tree (replacing paths content) = (written, .ok ())) :
    written.fileContent paths.target = .ok content ∧
      (removeLeftover paths written).isPresent paths.target = false := by
  obtain ⟨filled, _, isFilled, _, moved⟩ := filled_of_runAll ran
  obtain ⟨old, new, stored, tempPoints, targetPoints, isFile, shape⟩ :=
    FileTree.moveFile_eq_ok moved
  rw [tempPoints.canonical_eq, targetPoints.canonical_eq] at same
  rw [tempPoints.canonical_eq] at isFilled
  subst same
  rcases shape with ⟨_, rfl⟩ | ⟨different, _⟩
  · refine ⟨targetPoints.fileContent_eq isFilled, ?_⟩
    rw [removeLeftover_eq, tempPoints.unlink_eq isFile]
    have stays := (FileTree.keepsDirectories_eraseFile written new).points targetPoints
    obtain ⟨name, directory, rfl, _⟩ := targetPoints.inDirectory
    have isGone : (written.eraseFile (name :: directory)).get? (name :: directory) = none :=
      FileTree.get?_eraseFile_self (by rw [isFile]; simp)
    rw [stays.isPresent_eq, isGone]
    rfl
  · exact absurd rfl different

/-- A save is reported as committed if it succeeds when it is tried. -/
theorem trySave_of_committed
    (saved : store.save session value answers = (.committed, next)) :
    store.trySave session value answers = (.ok (), next) := by
  rw [save] at saved
  split at saved
  · rename_i tried
    cases saved
    exact tried
  · cases saved

/--
A report of a commit is true unless the temp path leads to the target.

Whatever the paths, whatever was on disk and whatever the system refused, the
bytes of a value that was reported as committed stand in the target if the temp
path leads to another location.  If it leads to the same, nothing is left at the
target, unless the system refuses to remove the temp file.
-/
theorem target_of_committed
    (saved : store.save session value answers = (.committed, next)) :
    ∃ content,
      store.codec.encode value = .ok content ∧
        (store.paths.target.canonical ≠ store.paths.temp.canonical →
          next.tree.fileContent store.paths.target = .ok content) ∧
        (store.paths.target.canonical = store.paths.temp.canonical →
          (answers.removal = .done → next.tree.isPresent store.paths.target = false) ∧
            (answers.removal ≠ .done →
              next.tree.fileContent store.paths.target = .ok content)) := by
  have tried := trySave_of_committed saved
  obtain ⟨granted, locked, content, written, _, encoded, ran, left⟩ :=
    trySave_eq_ok (congrArg Prod.fst tried)
  rw [tried] at left
  change next = _ at left
  rw [left, Lock.release_tree]
  refine ⟨content, encoded, ?_, ?_⟩
  · intro different
    have cleaned := (replaced_of_runAll different ran).removeLeftover different answers.removal
    exact cleaned.target.fileContent_eq cleaned.stored
  · intro same
    obtain ⟨isFilled, isGone⟩ := target_of_same same ran
    cases answers.removal with
    | done => exact ⟨fun _ => isGone, fun isRefused => absurd rfl isRefused⟩
    | refused fault extent =>
        refine ⟨fun isDone => ?_, fun _ => isFilled⟩
        cases isDone

/-- The target is the lock file, and the temp file lies beside it by a way that steps up. -/
theorem target_of_committed_lockedTarget :
    let store : Store (List UInt8) := {
      paths := { lock := ⟨"data/rules"⟩, temp := ⟨"data/../data/new"⟩, target := ⟨"data//rules"⟩ }
      codec := ⟨.ok, .ok⟩
      default := [] }
    ∃ next,
      store.save (.ofTree .empty) [7] = (.committed, next) ∧
        next.tree.fileContent store.paths.target = .ok [7] := by
  intro store
  have isCommitted : (store.save (.ofTree .empty) [7]).1 = .committed := by decide +kernel
  have saved : store.save (.ofTree .empty) [7] =
      (.committed, (store.save (.ofTree .empty) [7]).2) :=
    Prod.ext isCommitted rfl
  obtain ⟨content, encoded, isTrue, _⟩ := target_of_committed saved
  cases encoded
  exact ⟨_, saved, isTrue (by decide +kernel)⟩

/-- A commit is reported where the temp file is the target, and the value is gone. -/
theorem committed_lost_tempIsTarget :
    let store : Store (List UInt8) := {
      paths := { lock := ⟨"rules.lock"⟩, temp := ⟨"rules.json"⟩, target := ⟨"rules.json"⟩ }
      codec := ⟨.ok, .ok⟩
      default := [] }
    (store.save (.ofTree .empty) [7]).1 = .committed ∧
      store.codec.encode [7] = .ok [7] ∧
      (store.save (.ofTree .empty) [7]).2.tree.fileContent store.paths.target =
        .error .notFound := by
  decide +kernel

end Store

end SplitTunnel
