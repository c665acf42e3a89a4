import SplitTunnel.FileTree.Access

namespace SplitTunnel

/-!
# Steps on disk

What a program does to files is a list of single steps.  A step fails if the
files are in its way, and the system may refuse any step that the files allow.  A
list of steps stops at the first that fails, and a program that is interrupted
stops between two steps or inside one.
-/

/-- What was being done to a path when an operation failed. -/
inductive FileAction where
  | create
  | openFile
  | resolve
  | write
  | sync
  | replace
  | remove
  | read
  deriving Repr, DecidableEq

/-- The words for an action that failed. -/
def FileAction.words : FileAction → String
  | .create => "cannot create"
  | .openFile => "cannot open"
  | .resolve => "cannot resolve"
  | .write => "cannot write"
  | .sync => "cannot sync"
  | .replace => "cannot replace"
  | .remove => "cannot remove"
  | .read => "cannot read"

/-- An action on a path that failed, and why. -/
structure AccessFault where
  action : FileAction
  path : Path
  fault : FileFault
  deriving Repr, DecidableEq

/-- What is said about an action that failed. -/
def AccessFault.message (failed : AccessFault) : String :=
  s!"{failed.action.words} {failed.path.text}: {failed.fault.message}"

/-- One change of the files on disk. -/
inductive DiskStep where
  /-- Make a directory and those above it. -/
  | makeDirectories (path : Path)
  /-- Open a file and keep its content, making an empty one if there is none. -/
  | touch (path : Path)
  /-- Open a file and empty it, making it if there is none. -/
  | truncate (path : Path)
  /-- Write the content of a file that was emptied. -/
  | write (path : Path) (content : List UInt8)
  /-- Have the content of a file that was written reach the disk. -/
  | sync (path : Path)
  /-- Move a file in place of another. -/
  | replace (source target : Path)
  /-- Remove a file. -/
  | remove (path : Path)
  deriving Repr, DecidableEq

/--
What the system answers to a step.

It does the step, as far as the files allow it, or refuses it.  A step that is
refused on the way may have left something behind; the number says how much, as
far as that depends on the system.
-/
inductive StepAnswer where
  | done
  | refused (fault : FileFault) (extent : Nat)
  deriving Repr, DecidableEq

namespace DiskStep

/-- The action of a step and the path that it is about. -/
def subject : DiskStep → FileAction × Path
  | .makeDirectories path => (.create, path)
  | .touch path => (.openFile, path)
  | .truncate path => (.create, path)
  | .write path _ => (.write, path)
  | .sync path => (.sync, path)
  | .replace _ target => (.replace, target)
  | .remove path => (.remove, path)

/-- Keep the tree of before where a step fails. -/
def orUnchanged
    (tree : FileTree)
    (result : Except FileFault FileTree) :
    FileTree × Except FileFault Unit :=
  match result with
  | .error fault => (tree, .error fault)
  | .ok next => (next, .ok ())

/-- Do a step that the system does not refuse. -/
def run (tree : FileTree) : DiskStep → FileTree × Except FileFault Unit
  | .makeDirectories path => tree.makeDirectories path
  | .touch path => orUnchanged tree (tree.touch path)
  | .truncate path => orUnchanged tree (tree.storeFile path [])
  | .write path content => orUnchanged tree (tree.storeFile path content)
  | .sync _ => (tree, .ok ())
  | .replace source target => orUnchanged tree (tree.moveFile source target)
  | .remove path => orUnchanged tree (tree.unlink path)

/--
What a step leaves that the system refused.

Some of several directories are made, or the first bytes of a content are
written; every other step is refused as a whole.
-/
def leftover (tree : FileTree) (extent : Nat) : DiskStep → FileTree
  | .makeDirectories path =>
      match path.checked with
      | .error _ => tree
      | .ok segments => tree.ensureAbove segments.reverse extent
  | .write path content =>
      (orUnchanged tree (tree.storeFile path (content.take extent))).1
  | _ => tree

/-- Do a step as the system answers it. -/
def answered (tree : FileTree) (step : DiskStep) : StepAnswer → FileTree × Except FileFault Unit
  | .done => step.run tree
  | .refused fault extent => (step.leftover tree extent, .error fault)

/-- Do steps up to the first that fails; a step without an answer is not refused. -/
def runAll
    (tree : FileTree)
    (steps : List DiskStep)
    (answers : List StepAnswer := []) :
    FileTree × Except AccessFault Unit :=
  match steps with
  | [] => (tree, .ok ())
  | step :: rest =>
      match step.answered tree (answers.headD .done) with
      | (next, .ok ()) =>
          runAll next rest answers.tail
      | (next, .error fault) =>
          (next, .error { action := step.subject.1, path := step.subject.2, fault := fault })

/-- The step that makes the directory of a file, if the path names one. -/
def makeParent (path : Path) : List DiskStep :=
  match path.writtenParent? with
  | none => []
  | some parent => [.makeDirectories parent]

end DiskStep

end SplitTunnel
