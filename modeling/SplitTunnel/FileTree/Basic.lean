import SplitTunnel.SortedMap.Lemmas

namespace SplitTunnel

/-!
# File trees

A file tree holds files and directories below the working directory, which is
also the root.  It is a map from locations to entries in which every entry
stands in a directory.  The operations here change one entry, or remove one with
everything below it, and leave the tree alone where the result would be no tree.

There are no links, neither symbolic nor hard ones, so an entry has one location and
a path leads to one at most.  There are no permissions and no owners either: whether
the files allow an operation depends on what stands where, and whatever else the
system may have against it is an answer of the system to a step.  As the working
directory is the root, a relative path stands for the one that is spelled from the
root; a process that works elsewhere is described by putting the names of its working
directory in front of the path.
-/

/-- The names on the way to an entry, the innermost first; the root has none. -/
abbrev Location :=
  List String

/-- A file with its content, or a directory. -/
inductive Entry where
  | file (content : List UInt8)
  | directory
  deriving Repr, DecidableEq

/-- A directory stands at a location of an entry map. -/
def HasDirectory (entries : SortedMap Location Entry) (location : Location) : Prop :=
  location = [] ∨ entries.get? location = some .directory

instance (entries : SortedMap Location Entry) (location : Location) :
    Decidable (HasDirectory entries location) :=
  inferInstanceAs (Decidable (_ ∨ _))

/-- Files and directories below the root, each in a directory. -/
structure FileTree where
  entries : SortedMap Location Entry
  rootApart : entries.get? [] = none
  connected :
    ∀ (name : String) (parent : Location) (entry : Entry),
      entries.get? (name :: parent) = some entry → HasDirectory entries parent

namespace FileTree

instance : DecidableEq FileTree :=
  fun first second =>
    if same : first.entries = second.entries then
      .isTrue (by
        cases first
        cases second
        cases same
        rfl)
    else
      .isFalse fun equal => same (congrArg entries equal)

instance : Repr FileTree where
  reprPrec tree precedence := reprPrec tree.entries precedence

/-- The tree without entries. -/
def empty : FileTree where
  entries := ∅
  rootApart := rfl
  connected := by
    intro name parent entry found
    contradiction

instance : Inhabited FileTree where
  default := empty

/-- The entry at a location; the root is a directory. -/
def get? (tree : FileTree) : Location → Option Entry
  | [] => some .directory
  | location => tree.entries.get? location

/-- Whether a directory stands at a location. -/
def isDirectory (tree : FileTree) (location : Location) : Bool :=
  tree.get? location == some .directory

/-- A parent of an entry differs from the entry. -/
theorem parent_ne
    (name : String)
    (parent : Location) :
    parent ≠ name :: parent := by
  intro same
  have sameLength := congrArg List.length same
  simp at sameLength

/-- Put an entry into a directory; a directory that is there may only stay one. -/
def putEntry
    (tree : FileTree)
    (name : String)
    (parent : Location)
    (entry : Entry)
    (inDirectory : HasDirectory tree.entries parent)
    (keepsDirectory :
      tree.entries.get? (name :: parent) = some .directory → entry = .directory) :
    FileTree where
  entries := tree.entries.insert (name :: parent) entry
  rootApart := by
    rw [SortedMap.get?_insert_of_ne _ (List.cons_ne_nil name parent).symm]
    exact tree.rootApart
  connected := by
    intro child above stored found
    have aboveWas : HasDirectory tree.entries above := by
      by_cases isNew : child :: above = name :: parent
      · cases isNew
        exact inDirectory
      · rw [SortedMap.get?_insert_of_ne _ isNew] at found
        exact tree.connected child above stored found
    rcases aboveWas with isRoot | isStored
    · exact Or.inl isRoot
    · refine Or.inr ?_
      by_cases isNew : above = name :: parent
      · subst isNew
        rw [SortedMap.get?_insert_self, keepsDirectory isStored]
      · rw [SortedMap.get?_insert_of_ne _ isNew]
        exact isStored

/-- Write a file where a directory can take one and none of that name stands. -/
def putFile (tree : FileTree) (location : Location) (content : List UInt8) : FileTree :=
  match location with
  | [] => tree
  | name :: parent =>
      if allowed : HasDirectory tree.entries parent ∧
          tree.entries.get? (name :: parent) ≠ some .directory then
        tree.putEntry name parent (.file content) allowed.1
          (fun isDirectory => absurd isDirectory allowed.2)
      else
        tree

/-- Make a directory where a directory can take one and nothing of that name stands. -/
def addDirectory (tree : FileTree) (location : Location) : FileTree :=
  match location with
  | [] => tree
  | name :: parent =>
      if allowed : HasDirectory tree.entries parent ∧
          tree.entries.get? (name :: parent) = none then
        tree.putEntry name parent .directory allowed.1 (fun _ => rfl)
      else
        tree

/-- Remove the file at a location. -/
def eraseFile (tree : FileTree) (location : Location) : FileTree :=
  if isFile : tree.entries.get? location ≠ some .directory then
    { entries := tree.entries.erase location
      rootApart := by
        by_cases isRoot : location = []
        · rw [isRoot, SortedMap.get?_erase_self]
        · rw [SortedMap.get?_erase_of_ne _ (Ne.symm isRoot)]
          exact tree.rootApart
      connected := by
        intro child above stored found
        have childStays : child :: above ≠ location := by
          intro isErased
          rw [isErased, SortedMap.get?_erase_self] at found
          contradiction
        rw [SortedMap.get?_erase_of_ne _ childStays] at found
        rcases tree.connected child above stored found with isRoot | isStored
        · exact Or.inl isRoot
        · have aboveStays : above ≠ location := by
            intro isErased
            exact isFile (isErased ▸ isStored)
          refine Or.inr ?_
          rw [SortedMap.get?_erase_of_ne _ aboveStays]
          exact isStored }
  else
    tree

/-- Remove the entry at a location with everything below it. -/
def eraseTree (tree : FileTree) (location : Location) : FileTree where
  entries := tree.entries.filter fun stored _ => !decide (location <:+ stored)
  rootApart := by
    rw [SortedMap.get?_filter, tree.rootApart]
    rfl
  connected := by
    intro child above stored found
    rw [SortedMap.get?_filter, Option.filter_eq_some_iff] at found
    obtain ⟨wasStored, isKept⟩ := found
    rcases tree.connected child above stored wasStored with isRoot | isStored
    · exact Or.inl isRoot
    · refine Or.inr ?_
      rw [SortedMap.get?_filter, Option.filter_eq_some_iff]
      refine ⟨isStored, ?_⟩
      simp only [Bool.not_eq_true', decide_eq_false_iff_not] at isKept ⊢
      exact fun isBelow => isKept (isBelow.trans (List.suffix_cons child above))

end FileTree

end SplitTunnel
