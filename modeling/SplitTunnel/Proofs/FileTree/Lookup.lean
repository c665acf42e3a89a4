import Mathlib
import SplitTunnel.FileTree.Basic

namespace SplitTunnel

/-!
# What stands where after a change

Each change of a file tree is known by what it does to the entries at all
locations: it sets or clears the entry at its own location and leaves every
other entry alone.  Above an entry there are directories only, so whatever
stands at a location tells something about all locations on the way to it.
-/

/-- A name in a directory does not lie on the way to the directory. -/
theorem Location.not_cons_suffix
    (name : String)
    (directory : Location) :
    ¬(name :: directory <:+ directory) :=
  fun isAbove => Nat.not_succ_le_self _ isAbove.length_le

/-- What lies on the way to a directory is no name in it. -/
theorem Location.ne_of_above
    {directory place : Location}
    (isAbove : place <:+ directory)
    (name : String) :
    place ≠ name :: directory := by
  rintro rfl
  exact Location.not_cons_suffix name directory isAbove

/-- Of two names in a directory neither lies below the other. -/
theorem Location.not_below_sibling
    {first second : String}
    {directory place : Location}
    (different : first ≠ second)
    (isBelow : first :: directory <:+ place) :
    place ≠ second :: directory := by
  intro same
  rw [same] at isBelow
  have isEqual := isBelow.eq_of_length rfl
  cases isEqual
  exact different rfl

namespace FileTree

variable {tree : FileTree} {location place above directory : Location} {content : List UInt8}

@[simp]
theorem get?_root : tree.get? [] = some .directory :=
  rfl

@[simp]
theorem isDirectory_iff : tree.isDirectory place = true ↔ tree.get? place = some .directory := by
  rw [isDirectory, beq_iff_eq]

/-- Where a file was made there was no directory, and there is none now. -/
theorem isDirectory_of_fileMade
    {next : FileTree}
    (isMade :
      next.get? place = tree.get? place ∨
        (tree.get? place = none ∧ next.get? place = some (.file content))) :
    next.isDirectory place = tree.isDirectory place := by
  rw [isDirectory, isDirectory]
  rcases isMade with same | ⟨wasMissing, isFile⟩
  · rw [same]
  · rw [wasMissing, isFile]
    rfl

theorem hasDirectory_iff :
    HasDirectory tree.entries place ↔ tree.get? place = some .directory := by
  cases place with
  | nil => exact ⟨fun _ => rfl, fun _ => Or.inl rfl⟩
  | cons name parent =>
      constructor
      · rintro (isRoot | isStored)
        · contradiction
        · exact isStored
      · exact Or.inr

/-- An entry stands in a directory. -/
theorem get?_parent
    {name : String}
    {entry : Entry}
    (found : tree.get? (name :: directory) = some entry) :
    tree.get? directory = some .directory :=
  hasDirectory_iff.mp (tree.connected name directory entry found)

/-- On the way to an entry there are directories only. -/
theorem get?_above
    {entry : Entry}
    (found : tree.get? place = some entry)
    (isAbove : above <:+ place)
    (different : above ≠ place) :
    tree.get? above = some .directory := by
  induction place generalizing entry with
  | nil => exact absurd (List.suffix_nil.mp isAbove) different
  | cons name parent inductionHypothesis =>
      have parentFound := get?_parent found
      rcases List.suffix_cons_iff.mp isAbove with isPlace | isAboveParent
      · exact absurd isPlace different
      · by_cases isParent : above = parent
        · rw [isParent]
          exact parentFound
        · exact inductionHypothesis parentFound isAboveParent isParent

/-- On the way to a directory, and at it, there are directories only. -/
theorem get?_suffix
    (found : tree.get? directory = some .directory)
    (isAbove : above <:+ directory) :
    tree.get? above = some .directory := by
  by_cases isHere : above = directory
  · rw [isHere]
    exact found
  · exact get?_above found isAbove isHere

/-- Nothing stands below a location that is no directory. -/
theorem get?_below
    (notDirectory : tree.get? above ≠ some .directory)
    (isAbove : above <:+ place)
    (different : above ≠ place) :
    tree.get? place = none := by
  cases found : tree.get? place with
  | none => rfl
  | some entry => exact absurd (get?_above found isAbove different) notDirectory

theorem get?_putEntry
    {name : String}
    {parent : Location}
    {entry : Entry}
    (inDirectory : HasDirectory tree.entries parent)
    (keepsDirectory :
      tree.entries.get? (name :: parent) = some .directory → entry = .directory) :
    (tree.putEntry name parent entry inDirectory keepsDirectory).get? place =
      if place = name :: parent then some entry else tree.get? place := by
  cases place with
  | nil => rfl
  | cons child rest =>
      change (tree.entries.insert (name :: parent) entry).get? (child :: rest) = _
      split
      · rename_i isHere
        rw [isHere, SortedMap.get?_insert_self]
      · rename_i isElsewhere
        rw [SortedMap.get?_insert_of_ne _ isElsewhere]
        rfl

/-- Writing a file changes no other entry. -/
theorem get?_putFile_of_ne (different : place ≠ location) :
    (tree.putFile location content).get? place = tree.get? place := by
  cases location with
  | nil => rfl
  | cons name parent =>
      rw [putFile]
      split
      · rw [get?_putEntry, if_neg different]
      · rfl

/-- A file is there once it was written where it can stand. -/
theorem get?_putFile_self
    {name : String}
    (inDirectory : tree.get? directory = some .directory)
    (isFree : tree.get? (name :: directory) ≠ some .directory) :
    (tree.putFile (name :: directory) content).get? (name :: directory) =
      some (.file content) := by
  have allowed : HasDirectory tree.entries directory ∧
      tree.entries.get? (name :: directory) ≠ some .directory :=
    ⟨hasDirectory_iff.mpr inDirectory, isFree⟩
  rw [putFile, dif_pos allowed, get?_putEntry, if_pos rfl]

/-- Making a directory changes no other entry. -/
theorem get?_addDirectory_of_ne (different : place ≠ location) :
    (tree.addDirectory location).get? place = tree.get? place := by
  cases location with
  | nil => rfl
  | cons name parent =>
      rw [addDirectory]
      split
      · rw [get?_putEntry, if_neg different]
      · rfl

/-- A directory is there once it was made where nothing stood. -/
theorem get?_addDirectory_self
    {name : String}
    (inDirectory : tree.get? directory = some .directory)
    (isFree : tree.get? (name :: directory) = none) :
    (tree.addDirectory (name :: directory)).get? (name :: directory) =
      some .directory := by
  have allowed : HasDirectory tree.entries directory ∧
      tree.entries.get? (name :: directory) = none :=
    ⟨hasDirectory_iff.mpr inDirectory, isFree⟩
  rw [addDirectory, dif_pos allowed, get?_putEntry, if_pos rfl]

/-- Removing a file changes no other entry. -/
theorem get?_eraseFile_of_ne (different : place ≠ location) :
    (tree.eraseFile location).get? place = tree.get? place := by
  rw [eraseFile]
  split
  · cases place with
    | nil => rfl
    | cons name parent => exact SortedMap.get?_erase_of_ne _ different
  · rfl

/-- Nothing stands where a file was removed. -/
theorem get?_eraseFile_self
    {name : String}
    (isFile : tree.get? (name :: directory) ≠ some .directory) :
    (tree.eraseFile (name :: directory)).get? (name :: directory) = none := by
  have removable : tree.entries.get? (name :: directory) ≠ some .directory := isFile
  rw [eraseFile, dif_pos removable]
  exact SortedMap.get?_erase_self _ _

end FileTree

end SplitTunnel
