import SplitTunnel.Proofs.FileTree.Lookup

namespace SplitTunnel

/-!
# What a change leaves alone

Work on the files of one directory may change the entries that it is about and
may make the directory first, with the directories above it that are missing.
Everything else stays as it was.
-/

namespace FileTree

/--
Everything but some entries stays as it was, apart from directories that were
missing on the way to one directory.
-/
def Keeps
    (directory : Location)
    (changed : List Location)
    (tree next : FileTree) :
    Prop :=
  ∀ place, place ∉ changed →
    next.get? place = tree.get? place ∨
      (tree.get? place = none ∧
        next.get? place = some .directory ∧
        place <:+ directory)

namespace Keeps

variable {tree middle next : FileTree} {directory above place : Location}
variable {changed more : List Location}

theorem refl (tree : FileTree) : Keeps directory changed tree tree :=
  fun _ _ => Or.inl rfl

theorem trans
    (first : Keeps directory changed tree middle)
    (second : Keeps directory changed middle next) :
    Keeps directory changed tree next := by
  intro place isOther
  rcases first place isOther with same | ⟨wasMissing, isMade, isAbove⟩
  · rw [← same]
    exact second place isOther
  · rcases second place isOther with same | ⟨isMissing, _, _⟩
    · rw [same]
      exact Or.inr ⟨wasMissing, isMade, isAbove⟩
    · rw [isMade] at isMissing
      contradiction

/-- More entries may change, and the directory may lie deeper. -/
theorem mono
    (kept : Keeps above changed tree next)
    (isAbove : above <:+ directory)
    (included : ∀ place ∈ changed, place ∈ more) :
    Keeps directory more tree next := by
  intro place isOther
  rcases kept place (fun member => isOther (included place member)) with
    same | ⟨wasMissing, isMade, onTheWay⟩
  · exact Or.inl same
  · exact Or.inr ⟨wasMissing, isMade, onTheWay.trans isAbove⟩

/-- An entry off the way to the directory stays as it was. -/
theorem get?_apart
    (kept : Keeps directory changed tree next)
    (isOther : place ∉ changed)
    (isApart : ¬place <:+ directory) :
    next.get? place = tree.get? place := by
  rcases kept place isOther with same | ⟨_, _, onTheWay⟩
  · exact same
  · exact absurd onTheWay isApart

/-- An entry right in the directory stays as it was. -/
theorem get?_inside
    (kept : Keeps directory changed tree next)
    (name : String)
    (isOther : name :: directory ∉ changed) :
    next.get? (name :: directory) = tree.get? (name :: directory) :=
  kept.get?_apart isOther (Location.not_cons_suffix name directory)

/-- What stood somewhere still stands there. -/
theorem get?_stored
    (kept : Keeps directory changed tree next)
    (isOther : place ∉ changed)
    {entry : Entry}
    (stored : tree.get? place = some entry) :
    next.get? place = some entry := by
  rcases kept place isOther with same | ⟨wasMissing, _, _⟩
  · rw [same]
    exact stored
  · rw [stored] at wasMissing
    contradiction

end Keeps

end FileTree

end SplitTunnel
