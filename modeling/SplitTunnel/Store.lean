import SplitTunnel.Codec
import SplitTunnel.Lock

namespace SplitTunnel

/-!
# Locked stores

A store keeps one value in a file.  A save writes the bytes to a second file and
moves that over the first, so the first always holds a whole value; a third file
is locked meanwhile.  Saves and loads that are asked to try report why they
failed; the others fall back to no change and to the default value.  The system
may refuse a save its lock and each of its steps.
-/

/-- The files of a store: its lock, the value being written, the value kept. -/
structure StorePaths where
  lock : Path
  temp : Path
  target : Path
  deriving Repr, DecidableEq

/-- The files of a store with a base name in a directory. -/
def StorePaths.inDirectory (directory : Path) (stem : String) : StorePaths where
  lock := directory.join (stem ++ ".lock")
  temp := directory.join (stem ++ "_temp.json")
  target := directory.join (stem ++ ".json")

/-- Why a store did not save or load. -/
inductive StoreFault where
  | lock (fault : LockFault)
  | file (failed : AccessFault)
  | codec (fault : CodecFault)
  deriving Repr, DecidableEq

namespace StoreFault

/-- What is said about a save or load that failed. -/
def message : StoreFault → String
  | .lock fault => fault.message
  | .file failed => failed.message
  | .codec fault => fault.message

/-- Whether the process held the lock already. -/
def isContention : StoreFault → Bool
  | .lock (.alreadyHeld _) => true
  | _ => false

end StoreFault

/-- What a save did. -/
inductive SaveOutcome where
  | committed
  | skipped
  deriving Repr, DecidableEq

/-- What the system answers to the lock and to each step of a save. -/
structure SaveAnswers where
  opening : List StepAnswer := []
  lock : SystemAnswer := .ok ()
  replacing : List StepAnswer := []
  removal : StepAnswer := .done
  deriving Repr

/-- A value kept in a file. -/
structure Store (α : Type) where
  paths : StorePaths
  codec : Codec α
  default : α

namespace Store

/-- The store of a type with a JSON form. -/
def json [Json.Typed α] [Inhabited α] (paths : StorePaths) : Store α where
  paths := paths
  codec := .json α
  default := Inhabited.default

/-- The steps that put bytes into the temp file. -/
def filling (paths : StorePaths) (content : List UInt8) : List DiskStep :=
  DiskStep.makeParent paths.temp ++
    [.truncate paths.temp, .write paths.temp content, .sync paths.temp]

/--
The steps that put bytes into the target, once the lock is held.

The directory of the target is synced after them.  That changes no file, and if it
fails, nothing is made of it, so it is left out.
-/
def replacing (paths : StorePaths) (content : List UInt8) : List DiskStep :=
  filling paths content ++ [.replace paths.temp paths.target]

/-- The work of writing a value to the target by way of the temp file. -/
def writing
    (store : Store α)
    (tree : FileTree)
    (value : α)
    (answers : List StepAnswer) :
    Activity (FileTree × Except StoreFault Unit) :=
  match store.codec.encode value with
  | .error fault =>
      .done (tree, .error (.codec fault))
  | .ok content =>
      .working tree (replacing store.paths content) answers fun next outcome =>
        .done (next, outcome.mapError .file)

/-- Write a value to the target by way of the temp file. -/
def writeAndReplace
    (store : Store α)
    (tree : FileTree)
    (value : α)
    (answers : List StepAnswer := []) :
    FileTree × Except StoreFault Unit :=
  (store.writing tree value answers).run

/-- The work of removing a file that was left at the temp path. -/
def removing
    (paths : StorePaths)
    (tree : FileTree)
    (answer : StepAnswer) :
    Activity FileTree :=
  .working tree [.remove paths.temp] [answer] fun next _ => .done next

/-- Remove a file that was left at the temp path; what cannot be removed stays. -/
def removeLeftover
    (paths : StorePaths)
    (tree : FileTree)
    (answer : StepAnswer := .done) :
    FileTree :=
  (removing paths tree answer).run

/-- The work of saving a value. -/
def saving
    (store : Store α)
    (session : Session)
    (value : α)
    (answers : SaveAnswers) :
    Activity (Except StoreFault Unit × Session) :=
  (Lock.acquiring session store.paths.lock .exclusive answers.lock answers.opening).andThen
    fun
    | (.error fault, locked) =>
        .done (.error (.lock fault), locked)
    | (.ok lock, locked) =>
        (store.writing locked.tree value answers.replacing).andThen fun (written, result) =>
          (removing store.paths written answers.removal).andThen fun cleaned =>
            .done (result, (lock.release { locked with tree := cleaned }).2)

/-- Save a value, and say why if that fails. -/
def trySave
    (store : Store α)
    (session : Session)
    (value : α)
    (answers : SaveAnswers := {}) :
    Except StoreFault Unit × Session :=
  (store.saving session value answers).run

/-- Save a value, or leave everything as it was. -/
def save
    (store : Store α)
    (session : Session)
    (value : α)
    (answers : SaveAnswers := {}) :
    SaveOutcome × Session :=
  match store.trySave session value answers with
  | (.ok (), next) => (.committed, next)
  | (.error _, next) => (.skipped, next)

/-- The value in the target, if there is a target. -/
def readTarget (store : Store α) (tree : FileTree) : Except StoreFault (Option α) :=
  if tree.isPresent store.paths.target then
    match tree.fileContent store.paths.target with
    | .error fault =>
        .error (.file { action := .read, path := store.paths.target, fault := fault })
    | .ok content =>
        (store.codec.decode content).map some |>.mapError .codec
  else
    .ok none

/-- Load the value, if one was saved, and say why if that fails. -/
def tryLoad
    (store : Store α)
    (session : Session)
    (answer : SystemAnswer := .ok ())
    (openingAnswers : List StepAnswer := []) :
    Except StoreFault (Option α) × Session :=
  match Lock.acquire session store.paths.lock .shared answer openingAnswers with
  | (.error fault, locked) =>
      (.error (.lock fault), locked)
  | (.ok lock, locked) =>
      (store.readTarget locked.tree, (lock.release locked).2)

/-- Load the value, or the default value if none can be had. -/
def load
    (store : Store α)
    (session : Session)
    (answer : SystemAnswer := .ok ())
    (openingAnswers : List StepAnswer := []) :
    α × Session :=
  match store.tryLoad session answer openingAnswers with
  | (.ok (some value), next) => (value, next)
  | (.ok none, next) => (store.default, next)
  | (.error _, next) => (store.default, next)

end Store

end SplitTunnel
