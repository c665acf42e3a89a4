import SplitTunnel.Lock
import SplitTunnel.Proofs.FileTree.Remaking
import SplitTunnel.Proofs.FileTree.Stops

namespace SplitTunnel

/-!
# What taking a lock does

Taking a lock may make the lock file and the directories above it.  Only a lock
that is granted is remembered, and giving it back forgets it again, so a scope
that takes a lock and gives it back leaves the held locks as they were.
-/

namespace Lock

open FileTree (Keeps)
open SplitTunnel.Path (Names)

variable {session : Session} {path : Path} {mode : LockMode} {answer : SystemAnswer}
variable {tree next stopped : FileTree} {lock : Lock} {directory : Location} {name : String}
variable {openingAnswers : List StepAnswer}

/-- A lock file is opened after its directory was made. -/
theorem touch_of_opened
    (opened : DiskStep.runAll tree (opening path) = (next, .ok ())) :
    ∃ between,
      DiskStep.runAll tree (DiskStep.makeParent path) = (between, .ok ()) ∧
        between.touch path = .ok next := by
  obtain ⟨between, made, touched⟩ := DiskStep.runAll_append_eq_ok opened
  obtain ⟨final, touched, ended⟩ := DiskStep.runAll_cons_eq_ok touched
  cases ended
  exact ⟨between, made, DiskStep.orUnchanged_eq_ok touched⟩

/-- A lock file that was opened is resolved to its canonical location. -/
theorem locate_of_opened
    (opened : DiskStep.runAll tree (opening path) = (next, .ok ())) :
    next.locate path = .ok path.canonical := by
  obtain ⟨between, _, touched⟩ := touch_of_opened opened
  obtain ⟨location, points, _⟩ := FileTree.touch_eq_ok touched
  have located := ((FileTree.extends_touch touched).keepsDirectories.points points).locate_eq
  rw [points.canonical_eq]
  exact located

/-- A lock whose file cannot be opened is not taken. -/
theorem acquire_of_failed
    {failed : AccessFault}
    (opened :
      DiskStep.runAll session.tree (opening path) openingAnswers = (next, .error failed)) :
    acquire session path mode answer openingAnswers =
      (.error (.createFailed failed), { session with tree := next }) := by
  rw [acquire, acquiring, Activity.run, opened]
  rfl

/-- What is answered, and what is left, when a lock file was opened. -/
theorem acquire_of_opened
    (opened : DiskStep.runAll session.tree (opening path) openingAnswers = (next, .ok ())) :
    acquire session path mode answer openingAnswers =
      if session.held.contains path.canonical then
        (.error (.alreadyHeld path), { session with tree := next })
      else
        match answer with
        | .error reason =>
            (.error (.acquireFailed reason), { session with tree := next })
        | .ok () =>
            (.ok { path := path, key := path.canonical, mode := mode, isHeld := true },
              { tree := next, held := session.held.insert path.canonical () }) := by
  have located := locate_of_opened (DiskStep.runAll_of_answered opened)
  rw [acquire, acquiring, Activity.run, opened]
  simp only [Activity.run, enter, located]
  split
  · rfl
  · rename_i isNew
    cases answer with
    | error reason =>
        simp only [SortedMap.erase_insert (Bool.not_eq_true _ ▸ isNew)]
    | ok _ => rfl

/-- Asking for a lock opens the lock file and changes no other file. -/
theorem acquire_tree
    (session : Session)
    (path : Path)
    (mode : LockMode)
    (answer : SystemAnswer)
    (openingAnswers : List StepAnswer) :
    (acquire session path mode answer openingAnswers).2.tree =
      (DiskStep.runAll session.tree (opening path) openingAnswers).1 := by
  cases opened : DiskStep.runAll session.tree (opening path) openingAnswers with
  | mk next result =>
      cases result with
      | error failed => rw [acquire_of_failed opened]
      | ok _ =>
          rw [acquire_of_opened opened]
          split
          · rfl
          · cases answer <;> rfl

/-- A lock that is asked for is refused, and nothing is registered, or granted and registered. -/
theorem acquire_cases
    (session : Session)
    (path : Path)
    (mode : LockMode)
    (answer : SystemAnswer)
    (openingAnswers : List StepAnswer) :
    (∃ fault next,
      acquire session path mode answer openingAnswers =
        (.error fault, { session with tree := next })) ∨
    (∃ next,
      session.held.contains path.canonical = false ∧
        acquire session path mode answer openingAnswers =
          (.ok { path := path, key := path.canonical, mode := mode, isHeld := true },
            { tree := next, held := session.held.insert path.canonical () })) := by
  cases opened : DiskStep.runAll session.tree (opening path) openingAnswers with
  | mk next result =>
      cases result with
      | error failed => exact Or.inl ⟨.createFailed failed, next, acquire_of_failed opened⟩
      | ok _ =>
          rw [acquire_of_opened opened]
          cases isHeld : session.held.contains path.canonical with
          | true => exact Or.inl ⟨.alreadyHeld path, next, rfl⟩
          | false =>
              cases answer with
              | error reason => exact Or.inl ⟨.acquireFailed reason, next, rfl⟩
              | ok _ => exact Or.inr ⟨next, rfl, rfl⟩

/-- What asking for a lock leaves behind, whether the lock is granted or not. -/
structure Attempt
    (session : Session)
    (location : Location)
    (outcome : Except LockFault Lock × Session) :
    Prop where
  kept : Keeps location.tail [location] session.tree outcome.2.tree
  lockFile :
    outcome.2.tree.get? location = session.tree.get? location ∨
      (session.tree.get? location = none ∧
        outcome.2.tree.get? location = some (.file []))
  refused : ∀ fault, outcome.1 = .error fault → outcome.2.held = session.held
  granted :
    ∀ lock, outcome.1 = .ok lock →
      lock.key = location ∧
        lock.isHeld = true ∧
        session.held.contains location = false ∧
        outcome.2.held = session.held.insert location () ∧
        outcome.2.tree.get? location.tail = some .directory

/-- Other entries beside the lock file stay as they were. -/
theorem Attempt.get?_inside
    {outcome : Except LockFault Lock × Session}
    (attempt : Attempt session (name :: directory) outcome)
    (other : String)
    (isOther : other :: directory ∉ [name :: directory]) :
    outcome.2.tree.get? (other :: directory) = session.tree.get? (other :: directory) :=
  attempt.kept.get?_inside other isOther

/-- Opening a lock file makes missing directories and an empty lock file at most. -/
theorem runAll_opening
    (tree : FileTree)
    (names : Names path directory name) :
    Keeps directory [name :: directory] tree (DiskStep.runAll tree (opening path)).1 ∧
      ((DiskStep.runAll tree (opening path)).1.get? (name :: directory) =
          tree.get? (name :: directory) ∨
        (tree.get? (name :: directory) = none ∧
          (DiskStep.runAll tree (opening path)).1.get? (name :: directory) =
            some (.file []))) ∧
      ((DiskStep.runAll tree (opening path)).2 = .ok () →
        path.admission = .ok () ∧
          (DiskStep.runAll tree (opening path)).1.get? directory = some .directory) := by
  obtain ⟨parentKept, parentThere⟩ := DiskStep.runAll_makeParent tree names
  rw [opening, DiskStep.runAll_append]
  cases made : DiskStep.runAll tree (DiskStep.makeParent path) with
  | mk next result =>
      rw [made] at parentKept parentThere
      have lockStays := parentKept.get?_inside name List.not_mem_nil
      have parentKept' : Keeps directory [name :: directory] tree next :=
        parentKept.mono (List.suffix_refl _) (by simp)
      cases result with
      | error failed => exact ⟨parentKept', Or.inl lockStays, by simp⟩
      | ok _ =>
          dsimp only
          rw [DiskStep.runAll_singleton, DiskStep.run]
          cases touched : next.touch path with
          | error fault =>
              refine ⟨parentKept', Or.inl lockStays, ?_⟩
              intro isOk
              cases isOk
          | ok final =>
              obtain ⟨kept, stored⟩ := DiskStep.touch_keeps names touched
              obtain ⟨admitted, _⟩ := (FileTree.touch_eq_ok_iff names).mp touched
              have directoryStays : directory ∉ [name :: directory] := by simp
              refine ⟨parentKept'.trans kept, ?_, fun _ => ⟨admitted, ?_⟩⟩
              · rcases stored with ⟨wasMissing, isMade⟩ | ⟨content, _, same⟩
                · rw [lockStays] at wasMissing
                  exact Or.inr ⟨wasMissing, isMade⟩
                · refine Or.inl ?_
                  change final.get? _ = _
                  rw [same]
                  exact lockStays
              · exact kept.get?_stored directoryStays (parentThere rfl)

/-- Wherever the opening of a lock file is stopped, only an empty lock file may be new. -/
theorem stopsWithin_opening
    (names : Names path directory name)
    (stops : DiskStep.StopsWithin tree (opening path) stopped) :
    Keeps directory [name :: directory] tree stopped ∧
      (stopped.get? (name :: directory) = tree.get? (name :: directory) ∨
        (tree.get? (name :: directory) = none ∧
          stopped.get? (name :: directory) = some (.file []))) := by
  rcases DiskStep.stopsWithin_append stops with within | ⟨next, made, touching⟩
  · have kept := DiskStep.stopsWithin_makeParent names within
    have lockStays := kept.get?_inside name List.not_mem_nil
    exact ⟨kept.mono (List.suffix_refl _) (by simp), Or.inl lockStays⟩
  · have whole := runAll_opening tree names
    have parentKept := (DiskStep.runAll_makeParent tree names).1
    rw [made] at parentKept
    rcases DiskStep.mayStopAt_touch (DiskStep.stopsWithin_singleton touching) with
      same | touched
    · rw [same]
      have lockStays := parentKept.get?_inside name List.not_mem_nil
      exact ⟨parentKept.mono (List.suffix_refl _) (by simp), Or.inl lockStays⟩
    · rw [opening, DiskStep.runAll_append, made] at whole
      simp only [DiskStep.runAll_cons, DiskStep.runAll_nil, DiskStep.run, touched,
        DiskStep.orUnchanged] at whole
      exact ⟨whole.1, whole.2.1⟩

/-- Whether a lock file can be opened is decided by the files on the way and by its own entry. -/
theorem runAll_opening_congr
    {tree other : FileTree}
    (names : Names path directory name)
    (sameFiles : ∀ place, place <:+ directory → tree.isFile place = other.isFile place)
    (sameLock : tree.isDirectory (name :: directory) = other.isDirectory (name :: directory)) :
    (DiskStep.runAll tree (opening path)).2 = (DiskStep.runAll other (opening path)).2 := by
  have sameMade := DiskStep.runAll_makeParent_congr names sameFiles
  obtain ⟨kept, isThere⟩ := DiskStep.runAll_makeParent tree names
  obtain ⟨otherKept, otherThere⟩ := DiskStep.runAll_makeParent other names
  have lockStays := kept.get?_inside name List.not_mem_nil
  have otherStays := otherKept.get?_inside name List.not_mem_nil
  rw [opening, DiskStep.runAll_append, DiskStep.runAll_append]
  cases made : DiskStep.runAll tree (DiskStep.makeParent path) with
  | mk next result =>
      cases otherMade : DiskStep.runAll other (DiskStep.makeParent path) with
      | mk otherNext otherResult =>
          rw [made] at sameMade isThere lockStays
          rw [otherMade] at sameMade otherThere otherStays
          change result = otherResult at sameMade
          subst sameMade
          cases result with
          | error failed => rfl
          | ok _ =>
              have sameFree : next.isDirectory (name :: directory) =
                  otherNext.isDirectory (name :: directory) := by
                rw [FileTree.isDirectory, FileTree.isDirectory] at sameLock ⊢
                change next.get? _ = _ at lockStays
                change otherNext.get? _ = _ at otherStays
                rw [lockStays, otherStays, sameLock]
              have sameWritable : next.writable path = otherNext.writable path := by
                rw [FileTree.writable_of_directory names (isThere rfl),
                  FileTree.writable_of_directory names (otherThere rfl), sameFree]
              dsimp only
              rw [DiskStep.runAll_singleton, DiskStep.runAll_singleton, DiskStep.run,
                DiskStep.run, FileTree.touch, FileTree.touch, sameWritable]
              cases otherNext.writable path <;> rfl

/-- What is answered to a process that asks for a lock. -/
theorem acquire_fst
    (session : Session)
    (names : Names path directory name)
    (mode : LockMode) :
    (acquire session path mode).1 =
      match (DiskStep.runAll session.tree (opening path)).2 with
      | .error failed => .error (.createFailed failed)
      | .ok () =>
          if session.held.contains (name :: directory) then
            .error (.alreadyHeld path)
          else
            .ok { path := path, key := name :: directory, mode := mode, isHeld := true } := by
  cases opened : DiskStep.runAll session.tree (opening path) with
  | mk tree result =>
      cases result with
      | error failed => rw [acquire_of_failed opened]
      | ok _ =>
          rw [acquire_of_opened opened, names.canonical_eq]
          split <;> rfl

/-- The same answer is given where the same files are in the way and the same locks are held. -/
theorem acquire_congr
    {other : Session}
    (names : Names path directory name)
    (sameFiles :
      ∀ place, place <:+ directory → session.tree.isFile place = other.tree.isFile place)
    (sameLock :
      session.tree.isDirectory (name :: directory) = other.tree.isDirectory (name :: directory))
    (sameHeld : session.held = other.held)
    (mode : LockMode) :
    (acquire session path mode).1 = (acquire other path mode).1 := by
  rw [acquire_fst session names mode, acquire_fst other names mode, sameHeld,
    runAll_opening_congr names sameFiles sameLock]

/-- Asking for a lock at a plain path. -/
theorem attempt_acquire
    (session : Session)
    (names : Names path directory name)
    (mode : LockMode)
    (answer : SystemAnswer := .ok ())
    (openingAnswers : List StepAnswer := []) :
    Attempt session (name :: directory) (acquire session path mode answer openingAnswers) := by
  have stops := DiskStep.stopsWithin_runAll session.tree (opening path) openingAnswers
  obtain ⟨kept, lockFile⟩ := stopsWithin_opening names stops
  cases opened : DiskStep.runAll session.tree (opening path) openingAnswers with
  | mk tree result =>
      rw [opened] at kept lockFile
      cases result with
      | error failed =>
          rw [acquire_of_failed opened]
          exact ⟨kept, lockFile, fun _ _ => rfl, by simp⟩
      | ok _ =>
          obtain ⟨_, _, isOpen⟩ := runAll_opening session.tree names
          rw [DiskStep.runAll_of_answered opened] at isOpen
          obtain ⟨_, isThere⟩ := isOpen rfl
          rw [acquire_of_opened opened, names.canonical_eq]
          cases isHeld : session.held.contains (name :: directory) with
          | true => exact ⟨kept, lockFile, fun _ _ => rfl, by simp⟩
          | false =>
              cases answer with
              | error reason => exact ⟨kept, lockFile, fun _ _ => rfl, by simp⟩
              | ok _ =>
                  refine ⟨kept, lockFile, ?_, ?_⟩
                  · intro fault isError
                    cases isError
                  · intro lock isOk
                    cases isOk
                    exact ⟨rfl, rfl, isHeld, rfl, isThere⟩

/-- Giving a lock back changes no file. -/
@[simp]
theorem release_tree
    (lock : Lock)
    (session : Session) :
    (lock.release session).2.tree = session.tree := by
  rw [release]
  split <;> rfl

/-- A lock that was granted and given back is forgotten. -/
theorem release_held
    {location : Location}
    {outcome : Except LockFault Lock × Session}
    (attempt : Attempt session location outcome)
    (granted : outcome.1 = .ok lock)
    (tree : FileTree) :
    (lock.release { outcome.2 with tree := tree }).2.held = session.held := by
  obtain ⟨isKey, isHeld, isNew, held, _⟩ := attempt.granted lock granted
  rw [release, isHeld, if_pos rfl, isKey]
  change outcome.2.held.erase location = _
  rw [held]
  exact SortedMap.erase_insert isNew ()

end Lock

end SplitTunnel
