import SplitTunnel.FileTree.Basic
import SplitTunnel.Path

namespace SplitTunnel

/-!
# Access to files by path

A path is followed from the root segment by segment; each segment but the last
must lead to a directory.  Every operation either fails with a fault and leaves
the tree alone, or makes one change; only making several directories can fail
after some of them were made.
-/

/--
Why an operation on files failed.

The first eight follow from the files and the path.  Whatever else the system
may have against an operation, say a full disk, is given in its own words and
with its own number.
-/
inductive FileFault where
  | notFound
  | alreadyExists
  | notDirectory
  | isDirectory
  | notEmpty
  | busy
  | nameTooLong
  | embeddedNul
  | other (words : String) (number : Nat)
  deriving Repr, DecidableEq

namespace FileFault

/-- The words for a fault. -/
def words : FileFault → String
  | .notFound => "No such file or directory"
  | .alreadyExists => "File exists"
  | .notDirectory => "Not a directory"
  | .isDirectory => "Is a directory"
  | .notEmpty => "Directory not empty"
  | .busy => "Device or resource busy"
  | .nameTooLong => "File name too long"
  | .embeddedNul => "file name contained an unexpected NUL byte"
  | .other words _ => words

/-- The system's number of a fault; a path with a NUL never reaches the system. -/
def number? : FileFault → Option Nat
  | .notFound => some 2
  | .alreadyExists => some 17
  | .notDirectory => some 20
  | .isDirectory => some 21
  | .notEmpty => some 39
  | .busy => some 16
  | .nameTooLong => some 36
  | .embeddedNul => none
  | .other _ number => some number

/-- What is said about a fault. -/
def message (fault : FileFault) : String :=
  match fault.number? with
  | none => fault.words
  | some number => s!"{fault.words} (os error {number})"

end FileFault

/-- The most bytes of a name. -/
def longestName : Nat :=
  255

/-- The number of bytes that a path stays below. -/
def pathLimit : Nat :=
  4096

/-- The segments of a path that can be followed. -/
def Path.checked (path : Path) : Except FileFault (List String) :=
  if path.text.toList.contains '\x00' then
    .error .embeddedNul
  else if path.text.utf8ByteSize = 0 then
    .error .notFound
  else if pathLimit ≤ path.text.utf8ByteSize then
    .error .nameTooLong
  else
    .ok path.segments

/-- The name at the end of a path that may be created, moved or removed. -/
structure Place where
  parent : Location
  name : String
  slashFollows : Bool
  deriving Repr, DecidableEq

/-- The location of a place, unless its name is too long to be looked up. -/
def Place.location (place : Place) : Except FileFault Location :=
  if longestName < place.name.utf8ByteSize then
    .error .nameTooLong
  else
    .ok (place.name :: place.parent)

namespace FileTree

/-- Ask for a directory at a location. -/
def requireDirectory (tree : FileTree) (location : Location) : Except FileFault Unit :=
  match tree.get? location with
  | none => .error .notFound
  | some (.file _) => .error .notDirectory
  | some .directory => .ok ()

/-- The location that a segment leads to. -/
def follow (location : Location) (segment : String) : Except FileFault Location :=
  if Path.isNoise segment then
    .ok location
  else if segment = ".." then
    .ok location.tail
  else if longestName < segment.utf8ByteSize then
    .error .nameTooLong
  else
    .ok (segment :: location)

/-- Follow segments through directories; the end need not exist. -/
def walk (tree : FileTree) (location : Location) : List String → Except FileFault Location
  | [] => .ok location
  | segment :: rest =>
      match tree.requireDirectory location with
      | .error fault =>
          .error fault
      | .ok () =>
          match follow location segment with
          | .error fault =>
              .error fault
          | .ok next =>
              tree.walk next rest

/-- The location of a path, whether anything stands there or not. -/
def locate (tree : FileTree) (path : Path) : Except FileFault Location :=
  path.checked.bind (tree.walk [])

/-- The canonical location and the entry of a path. -/
def find (tree : FileTree) (path : Path) : Except FileFault (Location × Entry) :=
  (tree.locate path).bind fun location =>
    match tree.get? location with
    | none => .error .notFound
    | some entry => .ok (location, entry)

/-- Whether anything stands at a path. -/
def isPresent (tree : FileTree) (path : Path) : Bool :=
  (tree.find path).isOk

/-- Whether a directory stands where segments lead. -/
def leadsToDirectory (tree : FileTree) (segments : List String) : Bool :=
  match tree.walk [] segments with
  | .error _ => false
  | .ok location => tree.isDirectory location

/-- The place at the end of segments; there is none if they end at the root or in dots. -/
def place? (tree : FileTree) (segments : List String) : Except FileFault (Option Place) :=
  match segments.reverse.dropWhile (fun segment => segment == "") with
  | [] => .ok none
  | name :: before =>
      match tree.walk [] before.reverse with
      | .error fault =>
          .error fault
      | .ok parent =>
          (tree.requireDirectory parent).map fun _ =>
            if name = "." ∨ name = ".." then
              none
            else
              some {
                parent := parent
                name := name
                slashFollows := segments.getLast? == some ""
              }

/-- The content of the file at a path. -/
def fileContent (tree : FileTree) (path : Path) : Except FileFault (List UInt8) :=
  match tree.find path with
  | .error fault => .error fault
  | .ok (_, .directory) => .error .isDirectory
  | .ok (_, .file content) => .ok content

/-- The location of a file that can be opened for writing, there or not yet. -/
def writable (tree : FileTree) (path : Path) : Except FileFault Location :=
  (path.checked.bind tree.place?).bind fun place? =>
    match place? with
    | none => .error .isDirectory
    | some place =>
        if place.slashFollows then
          .error .isDirectory
        else
          place.location.bind fun location =>
            if tree.isDirectory location then
              .error .isDirectory
            else
              .ok location

/-- Open a file, making an empty one if there is none. -/
def touch (tree : FileTree) (path : Path) : Except FileFault FileTree :=
  (tree.writable path).map fun location =>
    if (tree.get? location).isNone then
      tree.putFile location []
    else
      tree

/-- Replace the content of a file, making the file if there is none. -/
def storeFile
    (tree : FileTree)
    (path : Path)
    (content : List UInt8) :
    Except FileFault FileTree :=
  (tree.writable path).map fun location => tree.putFile location content

/-- Make the directory that segments lead to. -/
def makeDirectory (tree : FileTree) (segments : List String) : Except FileFault FileTree :=
  (tree.place? segments).bind fun place? =>
    match place? with
    | none => .error .alreadyExists
    | some place =>
        place.location.bind fun location =>
          if (tree.get? location).isSome then
            .error .alreadyExists
          else
            .ok (tree.addDirectory location)

/-- Make a directory, content with one that is there. -/
def ensureDirectory (tree : FileTree) (segments : List String) : Except FileFault FileTree :=
  match tree.makeDirectory segments with
  | .ok next =>
      .ok next
  | .error fault =>
      if tree.leadsToDirectory segments then
        .ok tree
      else
        .error fault

/--
Make a directory and the directories above it that are missing.

The directories above are made only if the directory itself cannot be made for
want of them.  What was made stays, even if a later directory cannot be made.
-/
def ensureReversed
    (tree : FileTree)
    (reversed : List String) :
    FileTree × Except FileFault Unit :=
  if reversed = [] then
    (tree, .ok ())
  else
    match tree.ensureDirectory reversed.reverse with
    | .ok next =>
        (next, .ok ())
    | .error .notFound =>
        match _ : Path.parentReversed? reversed with
        | none =>
            (tree, .error .notFound)
        | some parent =>
            match tree.ensureReversed parent with
            | (next, .error fault) =>
                (next, .error fault)
            | (next, .ok ()) =>
                match next.ensureDirectory reversed.reverse with
                | .error fault => (next, .error fault)
                | .ok final => (final, .ok ())
    | .error fault =>
        (tree, .error fault)
termination_by reversed.length
decreasing_by exact Path.length_parentReversed?_lt (by assumption)

/--
What is left if one of the missing directories cannot be made after all.

The last `missing` of the directories above and the directory itself are not
made, while those above them are.
-/
def ensureAbove (tree : FileTree) (reversed : List String) (missing : Nat) : FileTree :=
  match tree.ensureDirectory reversed.reverse, Path.parentReversed? reversed, missing with
  | .error .notFound, some parent, 0 => (tree.ensureReversed parent).1
  | .error .notFound, some parent, more + 1 => tree.ensureAbove parent more
  | _, _, _ => tree

/-- Make the directory at a path and the directories above it that are missing. -/
def makeDirectories (tree : FileTree) (path : Path) : FileTree × Except FileFault Unit :=
  if path.text = "" then
    (tree, .ok ())
  else
    match path.checked with
    | .error fault => (tree, .error fault)
    | .ok segments => tree.ensureReversed segments.reverse

/-- Move a file to another name, in place of a file that stands there. -/
def moveFile (tree : FileTree) (source target : Path) : Except FileFault FileTree :=
  (source.checked.bind tree.place?).bind fun source? =>
    (target.checked.bind tree.place?).bind fun target? =>
      match source?, target? with
      | some source, some target =>
          source.location.bind fun old =>
            match tree.get? old with
            | none => .error .notFound
            | some .directory => .error .isDirectory
            | some (.file content) =>
                target.location.bind fun new =>
                  if source.slashFollows ∨ target.slashFollows then
                    .error .notDirectory
                  else if new <:+ source.parent then
                    .error .notEmpty
                  else if new = old then
                    .ok tree
                  else if tree.isDirectory new then
                    .error .isDirectory
                  else
                    .ok ((tree.eraseFile old).putFile new content)
      | _, _ => .error .busy

/-- Remove the file at a path. -/
def unlink (tree : FileTree) (path : Path) : Except FileFault FileTree :=
  (path.checked.bind tree.place?).bind fun place? =>
    match place? with
    | none => .error .isDirectory
    | some place =>
        place.location.bind fun location =>
          match tree.get? location with
          | none => .error .notFound
          | some .directory => .error .isDirectory
          | some (.file _) =>
              if place.slashFollows then
                .error .notDirectory
              else
                .ok (tree.eraseFile location)

end FileTree

end SplitTunnel
