import SplitTunnel.FileTree.Activity

namespace SplitTunnel

/-!
# File locks

A store is guarded by a lock on a file of its own.  Within one process a second
lock on the same file would wait for the first for ever, so a process remembers
the canonical locations of the locks that it holds and refuses at once to take
one again, whatever the modes.  Other processes are not modelled: what the
system answers to a request is given, and a lock that the process does not hold
itself is granted unless another answer is given.  So is what the system answers
to the steps that open the lock file.
-/

/-- How a lock is shared between processes. -/
inductive LockMode where
  | shared
  | exclusive
  deriving Repr, DecidableEq

/-- Why a lock was not taken or not given back. -/
inductive LockFault where
  | alreadyHeld (path : Path)
  | createFailed (failed : AccessFault)
  | acquireFailed (reason : String)
  | releaseFailed (reason : String)
  deriving Repr, DecidableEq

/-- What is said about a lock that was not taken or not given back. -/
def LockFault.message : LockFault → String
  | .alreadyHeld path => s!"lock on {path.text} is already held by this process"
  | .createFailed failed => s!"failed to create lock: {failed.message}"
  | .acquireFailed reason => s!"failed to acquire lock: {reason}"
  | .releaseFailed reason => s!"failed to release lock: {reason}"

/-- What the system answers to a process: it has done what was asked, or why it has not. -/
abbrev SystemAnswer :=
  Except String Unit

/-- The files as a process sees them and the locations of the locks it holds. -/
structure Session where
  tree : FileTree
  held : SortedSet Location
  deriving Repr, DecidableEq

namespace Session

/-- The session of a process that holds no lock. -/
def ofTree (tree : FileTree) : Session where
  tree := tree
  held := ∅

end Session

/-- A lock that was taken, and whether it is still held. -/
structure Lock where
  path : Path
  key : Location
  mode : LockMode
  isHeld : Bool
  deriving Repr, DecidableEq

namespace Lock

/-- The steps that open a lock file. -/
def opening (path : Path) : List DiskStep :=
  DiskStep.makeParent path ++ [.touch path]

/-- Ask for a lock once its file was opened, unless this process already holds one on it. -/
def enter
    (session : Session)
    (path : Path)
    (mode : LockMode)
    (answer : SystemAnswer) :
    Except LockFault Lock × Session :=
  match session.tree.locate path with
  | .error fault =>
      let failed : AccessFault := { action := .resolve, path := path, fault := fault }
      (.error (.createFailed failed), session)
  | .ok key =>
      if session.held.contains key then
        (.error (.alreadyHeld path), session)
      else
        let lock : Lock := { path := path, key := key, mode := mode, isHeld := true }
        let registered : Session := { session with held := session.held.insert key () }
        match answer with
        | .error reason =>
            let forgotten : Session := { registered with held := registered.held.erase key }
            (.error (.acquireFailed reason), forgotten)
        | .ok () =>
            (.ok lock, registered)

/-- The work of taking a lock; what the system answers to each step of opening the file is given. -/
def acquiring
    (session : Session)
    (path : Path)
    (mode : LockMode)
    (answer : SystemAnswer)
    (openingAnswers : List StepAnswer) :
    Activity (Except LockFault Lock × Session) :=
  .working session.tree (opening path) openingAnswers fun tree outcome =>
    let opened : Session := { session with tree := tree }
    match outcome with
    | .error failed => .done (.error (.createFailed failed), opened)
    | .ok () => .done (enter opened path mode answer)

/-- Take a lock, unless this process already holds one on the same file. -/
def acquire
    (session : Session)
    (path : Path)
    (mode : LockMode)
    (answer : SystemAnswer := .ok ())
    (openingAnswers : List StepAnswer := []) :
    Except LockFault Lock × Session :=
  (acquiring session path mode answer openingAnswers).run

/-- Give a lock back; a lock that is not held is left as it is. -/
def release (lock : Lock) (session : Session) : Lock × Session :=
  if lock.isHeld then
    ({ lock with isHeld := false }, { session with held := session.held.erase lock.key })
  else
    (lock, session)

/-- Give a lock back and say if the system failed to; the process forgets the lock all the same. -/
def tryRelease
    (lock : Lock)
    (session : Session)
    (answer : SystemAnswer := .ok ()) :
    Except LockFault Unit × Lock × Session :=
  (if lock.isHeld then answer.mapError .releaseFailed else .ok (), lock.release session)

end Lock

end SplitTunnel
