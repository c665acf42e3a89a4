import SplitTunnel.Proofs.FileTree.Resolution

namespace SplitTunnel

/-!
# Operations on plain paths

For a path that never steps up, each operation says when it succeeds and what
tree it leaves then, in terms of the entry at the location that the path names.
-/

namespace FileTree

open SplitTunnel.Path (isTooLong Names)

variable {tree next : FileTree} {directory location : Location} {path : Path} {name : String}
variable {content : List UInt8}

/-- A place is named by its location unless its name is too long. -/
theorem location_eq :
    Place.location { parent := directory, name := name, slashFollows := false } =
      if isTooLong name then .error .nameTooLong else .ok (name :: directory) := by
  simp [Place.location, isTooLong]

theorem admission_eq_ok_iff
    (admission : path.admission =
      if isTooLong name then .error .nameTooLong else .ok ()) :
    path.admission = .ok () ↔ isTooLong name = false := by
  rw [admission]
  cases isTooLong name <;> simp

theorem isPresent_iff (names : Names path directory name) :
    tree.isPresent path = true ↔
      path.admission = .ok () ∧ ∃ entry, tree.get? (name :: directory) = some entry := by
  rw [isPresent]
  constructor
  · intro present
    cases found : tree.find path with
    | error fault =>
        rw [found] at present
        contradiction
    | ok reached =>
        obtain ⟨location, entry⟩ := reached
        obtain ⟨admitted, _, stored⟩ := (find_eq_ok_iff names).mp found
        exact ⟨admitted, entry, stored⟩
  · rintro ⟨admitted, entry, stored⟩
    rw [(find_eq_ok_iff names).mpr ⟨admitted, rfl, stored⟩]
    rfl

theorem fileContent_eq_ok_iff (names : Names path directory name) :
    tree.fileContent path = .ok content ↔
      path.admission = .ok () ∧ tree.get? (name :: directory) = some (.file content) := by
  rw [fileContent]
  constructor
  · intro read
    split at read
    · contradiction
    · contradiction
    · rename_i found
      cases read
      obtain ⟨admitted, _, stored⟩ := (find_eq_ok_iff names).mp found
      exact ⟨admitted, stored⟩
  · rintro ⟨admitted, stored⟩
    rw [(find_eq_ok_iff names).mpr ⟨admitted, rfl, stored⟩]

/-- Where a file can be written in a directory that is there. -/
theorem writable_of_directory
    (names : Names path directory name)
    (found : tree.get? directory = some .directory) :
    tree.writable path =
      path.admission.bind fun _ =>
        if tree.isDirectory (name :: directory) then
          .error .isDirectory
        else
          .ok (name :: directory) := by
  rw [writable]
  rcases place?_cases tree names with ⟨fault, failed, refused⟩ | ⟨placed, _, admission⟩
  · rw [failed, refused found]
    rfl
  · rw [placed, admission]
    change (Place.location _).bind _ = _
    rw [location_eq]
    cases isTooLong name <;> rfl

theorem writable_eq_ok_iff (names : Names path directory name) :
    tree.writable path = .ok location ↔
      path.admission = .ok () ∧
        location = name :: directory ∧
        tree.get? directory = some .directory ∧
        tree.get? (name :: directory) ≠ some .directory := by
  constructor
  · intro allowed
    have found : tree.get? directory = some .directory := by
      rcases place?_cases tree names with ⟨fault, failed, _⟩ | ⟨_, found, _⟩
      · rw [writable, failed] at allowed
        contradiction
      · exact found
    rw [writable_of_directory names found] at allowed
    obtain ⟨_, admitted, allowed⟩ := bind_eq_ok allowed
    split at allowed
    · contradiction
    · rename_i isFree
      cases allowed
      exact ⟨admitted, rfl, found, fun isThere => isFree (isDirectory_iff.mpr isThere)⟩
  · rintro ⟨admitted, rfl, found, isFree⟩
    rw [writable_of_directory names found, admitted]
    change (if _ then _ else _) = _
    rw [if_neg (fun isThere => isFree (isDirectory_iff.mp isThere))]

theorem touch_eq_ok_iff (names : Names path directory name) :
    tree.touch path = .ok next ↔
      path.admission = .ok () ∧
        tree.get? directory = some .directory ∧
        tree.get? (name :: directory) ≠ some .directory ∧
        next =
          if (tree.get? (name :: directory)).isNone then
            tree.putFile (name :: directory) []
          else
            tree := by
  constructor
  · intro touched
    obtain ⟨reached, allowed, rfl⟩ := map_eq_ok touched
    obtain ⟨admitted, rfl, found, isFree⟩ := (writable_eq_ok_iff names).mp allowed
    exact ⟨admitted, found, isFree, rfl⟩
  · rintro ⟨admitted, found, isFree, rfl⟩
    rw [touch, (writable_eq_ok_iff names).mpr ⟨admitted, rfl, found, isFree⟩]
    rfl

theorem storeFile_eq_ok_iff (names : Names path directory name) :
    tree.storeFile path content = .ok next ↔
      path.admission = .ok () ∧
        tree.get? directory = some .directory ∧
        tree.get? (name :: directory) ≠ some .directory ∧
        next = tree.putFile (name :: directory) content := by
  constructor
  · intro stored
    obtain ⟨reached, allowed, rfl⟩ := map_eq_ok stored
    obtain ⟨admitted, rfl, found, isFree⟩ := (writable_eq_ok_iff names).mp allowed
    exact ⟨admitted, found, isFree, rfl⟩
  · rintro ⟨admitted, found, isFree, rfl⟩
    rw [storeFile, (writable_eq_ok_iff names).mpr ⟨admitted, rfl, found, isFree⟩]
    rfl

theorem unlink_eq_ok_iff (names : Names path directory name) :
    tree.unlink path = .ok next ↔
      path.admission = .ok () ∧
        (∃ content, tree.get? (name :: directory) = some (.file content)) ∧
        next = tree.eraseFile (name :: directory) := by
  rw [unlink]
  rcases place?_cases tree names with ⟨fault, failed, refused⟩ | ⟨placed, _, admission⟩
  · rw [failed]
    constructor
    · intro removed
      contradiction
    · rintro ⟨admitted, ⟨content, stored⟩, _⟩
      rw [refused (get?_parent stored)] at admitted
      contradiction
  · rw [placed, admission_eq_ok_iff admission]
    change (Place.location _).bind _ = _ ↔ _
    rw [location_eq]
    cases isTooLong name with
    | true =>
        constructor
        · intro removed
          contradiction
        · rintro ⟨short, _⟩
          contradiction
    | false =>
        simp only [Bool.false_eq_true, ↓reduceIte, Except.bind]
        cases tree.get? (name :: directory) with
        | none => simp
        | some entry =>
            cases entry with
            | directory => simp
            | file content => simp [eq_comm]

/-- A file is moved to another name in its directory unless a directory has that name. -/
theorem moveFile_eq_ok_iff
    {source target : Path}
    {old new : String}
    (sourceNames : Names source directory old)
    (targetNames : Names target directory new)
    (different : new ≠ old) :
    tree.moveFile source target = .ok next ↔
      source.admission = .ok () ∧
        target.admission = .ok () ∧
        tree.get? (new :: directory) ≠ some .directory ∧
        ∃ content,
          tree.get? (old :: directory) = some (.file content) ∧
            next = (tree.eraseFile (old :: directory)).putFile (new :: directory) content := by
  rw [moveFile]
  rcases place?_cases tree sourceNames with
    ⟨fault, failed, refused⟩ | ⟨sourcePlaced, found, sourceAdmission⟩
  · rw [failed]
    constructor
    · intro moved
      contradiction
    · rintro ⟨admitted, _, _, content, stored, _⟩
      rw [refused (get?_parent stored)] at admitted
      contradiction
  · rw [sourcePlaced, admission_eq_ok_iff sourceAdmission]
    rcases place?_cases tree targetNames with
      ⟨fault, failed, refused⟩ | ⟨targetPlaced, _, targetAdmission⟩
    · rw [failed, refused found]
      simp [Except.bind]
    · have notAbove := Location.not_cons_suffix new directory
      have notSame : new :: directory ≠ old :: directory := by
        simpa using different
      rw [targetPlaced, admission_eq_ok_iff targetAdmission]
      change (Place.location _).bind _ = _ ↔ _
      rw [location_eq]
      cases isTooLong old with
      | true => simp [Except.bind]
      | false =>
          simp only [Bool.false_eq_true, ↓reduceIte, Except.bind]
          cases tree.get? (old :: directory) with
          | none => simp
          | some entry =>
              cases entry with
              | directory => simp
              | file content =>
                  change (Place.location _).bind _ = _ ↔ _
                  rw [location_eq]
                  cases isTooLong new with
                  | true => simp [Except.bind]
                  | false =>
                      simp only [Except.bind, Bool.false_eq_true, or_self, ↓reduceIte,
                        notAbove, notSame, isDirectory_iff, true_and, ne_eq]
                      by_cases isThere : tree.get? (new :: directory) = some .directory
                      · simp [isThere]
                      · rw [if_neg isThere]
                        constructor
                        · intro moved
                          cases moved
                          exact ⟨isThere, content, rfl, rfl⟩
                        · rintro ⟨_, _, same, rfl⟩
                          cases same
                          rfl

end FileTree

end SplitTunnel
