import SplitTunnel.Proofs.FileTree.Frame
import SplitTunnel.Proofs.FileTree.Operations

namespace SplitTunnel

/-!
# What is in the way

Whether the directories of a plain path can be made is decided by the files on
the way and by the length of the names, not by which of the directories are
there already.
-/

namespace Path

theorem lead_noise
    {segments : List String}
    (allNoise : ∀ segment ∈ segments, isNoise segment = true)
    (start : Location) :
    lead start segments = start := by
  induction segments with
  | nil => rfl
  | cons segment rest inductionHypothesis =>
      rw [lead_cons_noise (allNoise segment (List.mem_cons_self ..))]
      exact inductionHypothesis (fun other member =>
        allNoise other (List.mem_cons_of_mem _ member))

theorem lead_append_noise
    {start : Location}
    {segments rest : List String}
    (allNoise : ∀ segment ∈ rest, isNoise segment = true) :
    lead start (segments ++ rest) = lead start segments := by
  rw [lead_append, lead_noise allNoise]

end Path

namespace FileTree

open SplitTunnel.Path (lead isNoise isTooLong)

variable {tree next : FileTree} {start reached : Location} {name segment : String}
variable {segments rest : List String}

/-- Whether a file stands at a location. -/
def isFile (tree : FileTree) (location : Location) : Bool :=
  match tree.get? location with
  | some (.file _) => true
  | _ => false

/-- What keeps the directories that segments name from being made below a location. -/
def passage (tree : FileTree) (start : Location) : List String → Except FileFault Unit
  | [] => .ok ()
  | segment :: rest =>
      if isNoise segment then
        tree.passage start rest
      else if isTooLong segment then
        .error .nameTooLong
      else if tree.isFile (segment :: start) then
        if rest.all isNoise then .error .alreadyExists else .error .notDirectory
      else
        tree.passage (segment :: start) rest

/-- Follow segments to a directory that is there. -/
def approach
    (tree : FileTree)
    (start : Location)
    (segments : List String) :
    Except FileFault Location :=
  (tree.walk start segments).bind fun reached =>
    (tree.requireDirectory reached).map fun _ => reached

theorem Keeps.isFile_eq
    {directory place : Location}
    {changed : List Location}
    (kept : Keeps directory changed tree next)
    (isOther : place ∉ changed) :
    next.isFile place = tree.isFile place := by
  rcases kept place isOther with same | ⟨wasMissing, isMade, _⟩
  · rw [isFile, isFile, same]
  · rw [isFile, isFile, wasMissing, isMade]

section Passing

theorem passage_cons_noise
    (noise : isNoise segment = true) :
    tree.passage start (segment :: rest) = tree.passage start rest := by
  simp [passage, noise]

theorem passage_cons_tooLong
    (noNoise : isNoise segment = false)
    (isLong : isTooLong segment = true) :
    tree.passage start (segment :: rest) = .error .nameTooLong := by
  simp [passage, noNoise, isLong]

theorem passage_cons_file
    (noNoise : isNoise segment = false)
    (isShort : isTooLong segment = false)
    (isFileThere : tree.isFile (segment :: start) = true) :
    tree.passage start (segment :: rest) =
      if rest.all isNoise then .error .alreadyExists else .error .notDirectory := by
  simp [passage, noNoise, isShort, isFileThere]

theorem passage_cons_free
    (noNoise : isNoise segment = false)
    (isShort : isTooLong segment = false)
    (noFile : tree.isFile (segment :: start) = false) :
    tree.passage start (segment :: rest) = tree.passage (segment :: start) rest := by
  simp [passage, noNoise, isShort, noFile]

/-- Only short names can be passed. -/
theorem isTooLong_of_passage
    (passes : tree.passage start segments = .ok ()) :
    segments.any isTooLong = false := by
  fun_induction passage tree start segments with
  | case1 => rfl
  | case2 start segment rest noise inductionHypothesis =>
      simp [Path.isTooLong_noise noise, inductionHypothesis passes]
  | case3 => contradiction
  | case4 => contradiction
  | case5 => contradiction
  | case6 start segment rest _ isShort _ inductionHypothesis =>
      simp [isShort, inductionHypothesis passes]

/-- What keeps segments from being passed keeps longer ones from it, unless a file ends them. -/
theorem passage_append_error
    {fault : FileFault}
    (fails : tree.passage start segments = .error fault)
    (noFile : tree.isFile (lead start segments) = false)
    (rest : List String) :
    tree.passage start (segments ++ rest) = .error fault := by
  fun_induction passage tree start segments with
  | case1 => contradiction
  | case2 start segment others noise inductionHypothesis =>
      rw [Path.lead_cons_noise noise] at noFile
      rw [List.cons_append, passage_cons_noise noise]
      exact inductionHypothesis fails noFile
  | case3 start segment others noNoise isLong =>
      rw [List.cons_append, passage_cons_tooLong (by simpa using noNoise) isLong]
      exact fails
  | case4 start segment others noNoise _ isFileThere allNoise =>
      -- The file stands where the segments end.
      rw [Path.lead_cons_name (by simpa using noNoise),
        Path.lead_noise (List.all_eq_true.mp allNoise), isFileThere] at noFile
      contradiction
  | case5 start segment others noNoise isShort isFileThere hasName =>
      rw [List.cons_append,
        passage_cons_file (by simpa using noNoise) (by simpa using isShort) isFileThere,
        List.all_append, if_neg (fun both => hasName (Bool.and_eq_true_iff.mp both).1)]
      exact fails
  | case6 start segment others noNoise isShort isFree inductionHypothesis =>
      rw [Path.lead_cons_name (by simpa using noNoise)] at noFile
      rw [List.cons_append, passage_cons_free (by simpa using noNoise) (by simpa using isShort)
        (by simpa using isFree)]
      exact inductionHypothesis fails noFile

/-- Segments that name nothing stand in no way. -/
theorem passage_noise
    (allNoise : ∀ segment ∈ segments, isNoise segment = true) :
    tree.passage start segments = .ok () := by
  induction segments with
  | nil => rfl
  | cons segment rest inductionHypothesis =>
      rw [passage_cons_noise (allNoise segment (List.mem_cons_self ..))]
      exact inductionHypothesis fun other member =>
        allNoise other (List.mem_cons_of_mem _ member)

/-- Segments that name nothing may follow without changing what is in the way. -/
theorem passage_append_noise
    (allNoise : ∀ segment ∈ rest, isNoise segment = true) :
    tree.passage start (segments ++ rest) = tree.passage start segments := by
  induction segments generalizing start with
  | nil => exact passage_noise allNoise
  | cons segment others inductionHypothesis =>
      have restNoise : rest.all isNoise = true := List.all_eq_true.mpr allNoise
      simp [passage, List.all_append, restNoise, inductionHypothesis]

/-- The passage is decided by the names and by the files on the way. -/
theorem passage_congr
    {other : FileTree}
    (sameFiles : ∀ place, place <:+ lead start segments →
      tree.isFile place = other.isFile place) :
    tree.passage start segments = other.passage start segments := by
  induction segments generalizing start with
  | nil => rfl
  | cons segment others inductionHypothesis =>
      cases noise : isNoise segment with
      | true =>
          rw [Path.lead_cons_noise noise] at sameFiles
          rw [passage_cons_noise noise, passage_cons_noise noise]
          exact inductionHypothesis sameFiles
      | false =>
          rw [Path.lead_cons_name noise] at sameFiles
          rw [passage, passage, inductionHypothesis sameFiles,
            sameFiles (segment :: start) (Path.suffix_lead _ _), noise]
          rfl

end Passing

section Approaching

theorem approach_nil
    (found : tree.get? start = some .directory) :
    tree.approach start [] = .ok start := by
  change (tree.requireDirectory start).map _ = _
  rw [requireDirectory_eq_ok.mpr found]
  rfl

theorem approach_noDirectory
    {fault : FileFault}
    (required : tree.requireDirectory start = .error fault)
    (segments : List String) :
    tree.approach start segments = .error fault := by
  cases segments with
  | nil =>
      change (tree.requireDirectory start).map _ = _
      rw [required]
      rfl
  | cons segment rest =>
      rw [approach, walk_cons, required]
      rfl

theorem approach_none
    (missing : tree.get? start = none)
    (segments : List String) :
    tree.approach start segments = .error .notFound := by
  apply approach_noDirectory
  rw [requireDirectory, missing]

theorem approach_file
    {content : List UInt8}
    (stored : tree.get? start = some (.file content))
    (segments : List String) :
    tree.approach start segments = .error .notDirectory := by
  apply approach_noDirectory
  rw [requireDirectory, stored]

theorem approach_noise
    (found : tree.get? start = some .directory)
    (noise : isNoise segment = true)
    (rest : List String) :
    tree.approach start (segment :: rest) = tree.approach start rest := by
  rw [approach, walk_cons, requireDirectory_eq_ok.mpr found]
  change ((follow start segment).bind _).bind _ = _
  rw [follow_noise noise]
  rfl

theorem approach_name
    (found : tree.get? start = some .directory)
    (noNoise : isNoise segment = false)
    (noStep : segment ≠ "..")
    (rest : List String) :
    tree.approach start (segment :: rest) =
      if isTooLong segment then
        .error .nameTooLong
      else
        tree.approach (segment :: start) rest := by
  rw [approach, walk_cons, requireDirectory_eq_ok.mpr found]
  change ((follow start segment).bind _).bind _ = _
  rw [follow_name noNoise noStep]
  cases isTooLong segment <;> rfl

/-- A directory that segments lead to is approached. -/
theorem approach_of_directory
    (noStep : ".." ∉ segments)
    (found : tree.get? (lead start segments) = some .directory)
    (allShort : segments.any isTooLong = false) :
    tree.approach start segments = .ok (lead start segments) := by
  rw [approach, walk_of_directory noStep found, allShort]
  change (tree.requireDirectory _).map _ = _
  rw [requireDirectory_eq_ok.mpr found]
  rfl

/-- A last segment is followed from the directory that those before it approach. -/
theorem walk_concat
    (start : Location)
    (segments : List String)
    (name : String) :
    tree.walk start (segments ++ [name]) =
      (tree.approach start segments).bind fun reached => follow reached name := by
  rw [walk_append, approach]
  cases tree.walk start segments with
  | error fault => rfl
  | ok reached =>
      change tree.walk reached [name] = ((tree.requireDirectory reached).map _).bind _
      rw [walk_cons]
      cases tree.requireDirectory reached with
      | error fault => rfl
      | ok _ =>
          cases followed : follow reached name <;>
            simp [Except.bind, Except.map, walk, followed]

/-- A last segment names a place in the directory that those before it approach. -/
theorem place?_approach
    (before : List String)
    (noNoise : isNoise name = false)
    (noStep : name ≠ "..") :
    tree.place? (before ++ [name]) =
      (tree.approach [] before).map fun parent =>
        some { parent := parent, name := name, slashFollows := false } := by
  rw [place?_concat before noNoise noStep, approach]
  cases tree.walk [] before with
  | error fault => rfl
  | ok reached =>
      change (tree.requireDirectory reached).map _ = ((tree.requireDirectory reached).map _).map _
      cases tree.requireDirectory reached <;> rfl

/-- An approach that arrives does so at a directory, where the passage goes on. -/
theorem passage_of_approach
    (noStep : ".." ∉ segments)
    (found : tree.get? start = some .directory)
    (arrives : tree.approach start segments = .ok reached)
    (rest : List String) :
    reached = lead start segments ∧
      tree.get? reached = some .directory ∧
      tree.passage start (segments ++ rest) = tree.passage reached rest := by
  induction segments generalizing start with
  | nil =>
      rw [approach_nil found] at arrives
      cases arrives
      exact ⟨rfl, found, rfl⟩
  | cons segment others inductionHypothesis =>
      obtain ⟨segmentStays, othersStay⟩ := List.ne_and_not_mem_of_not_mem_cons noStep
      rw [List.cons_append]
      cases noise : isNoise segment with
      | true =>
          rw [approach_noise found noise] at arrives
          rw [Path.lead_cons_noise noise, passage_cons_noise noise]
          exact inductionHypothesis othersStay found arrives
      | false =>
          rw [approach_name found noise segmentStays.symm] at arrives
          rw [Path.lead_cons_name noise]
          split at arrives
          · contradiction
          · rename_i isShort
            cases stored : tree.get? (segment :: start) with
            | none =>
                rw [approach_none stored] at arrives
                contradiction
            | some entry =>
                cases entry with
                | file content =>
                    rw [approach_file stored] at arrives
                    contradiction
                | directory =>
                    have noFile : tree.isFile (segment :: start) = false := by
                      rw [isFile, stored]
                    rw [passage_cons_free noise (by simpa using isShort) noFile]
                    exact inductionHypothesis othersStay stored arrives

/-- Nothing stands where an approach fails for want of a directory. -/
theorem get?_of_approach
    (noStep : ".." ∉ segments)
    (found : tree.get? start = some .directory)
    (fails : tree.approach start segments = .error .notFound) :
    tree.get? (lead start segments) = none := by
  induction segments generalizing start with
  | nil =>
      rw [approach_nil found] at fails
      contradiction
  | cons segment others inductionHypothesis =>
      obtain ⟨segmentStays, othersStay⟩ := List.ne_and_not_mem_of_not_mem_cons noStep
      cases noise : isNoise segment with
      | true =>
          rw [approach_noise found noise] at fails
          rw [Path.lead_cons_noise noise]
          exact inductionHypothesis othersStay found fails
      | false =>
          rw [approach_name found noise segmentStays.symm] at fails
          rw [Path.lead_cons_name noise]
          split at fails
          · cases fails
          · cases stored : tree.get? (segment :: start) with
            | none =>
                by_cases isHere : segment :: start = lead (segment :: start) others
                · rw [← isHere]
                  exact stored
                · exact get?_below (by simp [stored]) (Path.suffix_lead _ _) isHere
            | some entry =>
                cases entry with
                | directory => exact inductionHypothesis othersStay stored fails
                | file content =>
                    rw [approach_file stored] at fails
                    cases fails

/-- An approach that fails for another reason than a missing directory is no passage. -/
theorem passage_of_obstacle
    {fault : FileFault}
    (noStep : ".." ∉ segments)
    (found : tree.get? start = some .directory)
    (fails : tree.approach start segments = .error fault)
    (isObstacle : fault ≠ .notFound)
    (noNoise : isNoise name = false) :
    tree.passage start (segments ++ [name]) = .error fault := by
  induction segments generalizing start with
  | nil =>
      rw [approach_nil found] at fails
      contradiction
  | cons segment others inductionHypothesis =>
      obtain ⟨segmentStays, othersStay⟩ := List.ne_and_not_mem_of_not_mem_cons noStep
      rw [List.cons_append]
      cases noise : isNoise segment with
      | true =>
          rw [approach_noise found noise] at fails
          rw [passage_cons_noise noise]
          exact inductionHypothesis othersStay found fails
      | false =>
          rw [approach_name found noise segmentStays.symm] at fails
          split at fails
          · rename_i isLong
            cases fails
            exact passage_cons_tooLong noise isLong
          · rename_i isShort
            have isShort' : isTooLong segment = false := by simpa using isShort
            cases stored : tree.get? (segment :: start) with
            | none =>
                rw [approach_none stored] at fails
                cases fails
                exact absurd rfl isObstacle
            | some entry =>
                cases entry with
                | directory =>
                    rw [passage_cons_free noise isShort' (by rw [isFile, stored])]
                    exact inductionHypothesis othersStay stored fails
                | file content =>
                    rw [approach_file stored] at fails
                    rw [passage_cons_file noise isShort' (by rw [isFile, stored])]
                    simpa [noNoise] using fails

end Approaching

end FileTree

end SplitTunnel
