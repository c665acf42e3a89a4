import SplitTunnel.Program

namespace SplitTunnel

/-!
# The command line

The program runs on a copy of the few files that it may look at.  They are read
from disk into a tree, the store's lock is taken before its files are read, and
what the run changed in the tree is then done on disk in the same order: first
the file beside the target, then its move over the target.
-/

namespace CommandLine

/-- What the environment of the process says about files. -/
def readEnvironment : IO Environment := do
  let settingsFile? ← IO.getEnv "TUNRULES_CONFIG"
  let settingsHome? ← IO.getEnv "XDG_CONFIG_HOME"
  let home? ← IO.getEnv "HOME"
  return { settingsFile? := settingsFile?, settingsHome? := settingsHome?, home? := home? }

/-- Whether a directory stands at a path on disk. -/
def isDirectoryOnDisk (path : Path) : IO Bool :=
  try
    let real ← IO.FS.realPath path.text
    real.isDir
  catch _ =>
    return false

/-- Put the file at a path on disk into a tree, with the directories above it. -/
def addFile (tree : FileTree) (path : Path) (content : List UInt8) : FileTree :=
  let prepared :=
    match path.writtenParent? with
    | none => tree
    | some parent => (tree.makeDirectories parent).1
  match prepared.storeFile path content with
  | .ok next => next
  | .error _ => prepared

/-- Copy what stands at a path on disk into a tree. -/
def copyPath (tree : FileTree) (path : Path) : IO FileTree := do
  if ← isDirectoryOnDisk path then
    return (tree.makeDirectories path).1
  try
    let content ← IO.FS.readBinFile path.text
    return addFile tree path content.toList
  catch _ =>
    return tree

/-- A path and the directories above it that are written in it, the outermost first. -/
def withParents (path : Path) : List Path :=
  let reversed := path.segments.reverse
  let ends := (List.range reversed.length).map fun dropped =>
    Path.ofSegments (reversed.drop dropped).reverse
  ends.reverse

/-- Copy what stands at several paths on disk into a tree. -/
def copyPaths (tree : FileTree) (paths : List Path) : IO FileTree :=
  (paths.flatMap withParents).foldlM copyPath tree

/-- Open and lock the lock file of a store, unless it cannot be had. -/
def takeLock? (path : Path) (mode : LockMode) : IO (Option IO.FS.Handle) :=
  try
    for parent in path.writtenParent?.toList do
      IO.FS.createDirAll parent.text
    let handle ← IO.FS.Handle.mk path.text .append
    handle.lock (mode == .exclusive)
    return some handle
  catch _ =>
    return none

/-- Do something while the lock of a store is held; a lock that cannot be had is reported later. -/
def whileLocked (path : Path) (mode : LockMode) (action : IO α) : IO α := do
  let handle? ← takeLock? path mode
  try
    action
  finally
    for handle in handle?.toList do
      handle.unlock

/-- The content of the file at a path of a tree. -/
def contentIn (tree : FileTree) (path : Path) : Option (List UInt8) :=
  (tree.fileContent path).toOption

/-- Do on disk what a run changed in the files of a store. -/
def writeBack (before after : FileTree) (paths : StorePaths) : IO Unit := do
  match contentIn after paths.target with
  | none => pure ()
  | some content =>
      if contentIn before paths.target != some content then
        for parent in paths.temp.writtenParent?.toList do
          IO.FS.createDirAll parent.text
        IO.FS.writeBinFile paths.temp.text content.toByteArray
        IO.FS.rename paths.temp.text paths.target.text
  let isLeft := (contentIn before paths.temp).isSome && (contentIn after paths.temp).isNone
  if isLeft && !(← isDirectoryOnDisk paths.temp) then
    try
      IO.FS.removeFile paths.temp.text
    catch _ =>
      pure ()

/-- Write what a run printed and give its status. -/
def finish (result : RunResult) : IO UInt32 := do
  let output ← IO.getStdout
  let diagnostics ← IO.getStderr
  output.putStr result.output
  output.flush
  diagnostics.putStr result.diagnostics
  return UInt32.ofNat result.status

/-- Run the program on the files on disk. -/
def runOnDisk (words : List String) : IO UInt32 := do
  let environment ← readEnvironment
  let settingsTree ← copyPaths .empty (LoadedSettings.candidates environment)
  match Request.parse? words with
  | some (.execute arguments) =>
      match arguments.command.lockMode?, Program.context environment settingsTree arguments with
      | some mode, .ok context =>
          let paths := context.paths
          let needed := [paths.lock, paths.temp, paths.target] ++ arguments.command.file?.toList
          let result ← whileLocked paths.lock mode do
            let tree ← copyPaths settingsTree needed
            let (result, after) := Program.run environment tree words
            writeBack tree after paths
            return result
          finish result
      | _, _ =>
          finish (Program.run environment settingsTree words).1
  | _ =>
      finish (Program.run environment settingsTree words).1

end CommandLine

end SplitTunnel

/-- Run the program with the words of its command line. -/
def main (words : List String) : IO UInt32 :=
  SplitTunnel.CommandLine.runOnDisk words
