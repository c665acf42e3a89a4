import SplitTunnel.Policy
import SplitTunnel.Proofs.Manager.Matching

namespace SplitTunnel

/-!
# Managed and controllable packages

Which installed packages are managed is found by going through the packages that
the tables list; which selected packages a user may still change is found by
asking for every selected package.  The two agree: a selected package that is
installed is either managed in some category or left to the user, never both.
-/

/-- Tables that accept a version of a package list the package. -/
theorem Tables.contains_of_accepts
    {tables : Tables}
    {category : Category}
    {package : String}
    {version : VersionCode}
    (accepted : tables.accepts category package version = true) :
    (tables.table category).contains package = true := by
  unfold accepts at accepted
  unfold SortedMap.contains
  split at accepted
  · contradiction
  · rename_i listed
    simp [listed]

namespace Manager

variable {manager : Manager} {category : Category} {package : String} {lookup : VersionLookup}

/-- A package is managed if the tables of some tier list it. -/
theorem contains_managed_iff :
    (manager.managed category).contains package = true ↔
      ∃ tables ∈ manager.tiers, (tables.table category).contains package = true := by
  simp only [managed, SortedSet.contains_ofList, List.mem_flatMap, SortedMap.mem_keys_iff]

/-- Whoever accepts a version of a package manages the package. -/
theorem contains_managed_of_accepts
    {version : VersionCode}
    (accepted : manager.accepts category package version = true) :
    (manager.managed category).contains package = true := by
  obtain ⟨tables, isTier, acceptedThere⟩ := List.any_eq_true.mp accepted
  exact contains_managed_iff.mpr ⟨tables, isTier, Tables.contains_of_accepts acceptedThere⟩

/-- The installed packages that are managed are those installed at an accepted version. -/
theorem contains_managedInstalled_iff :
    (manager.managedInstalled category lookup).contains package = true ↔
      ∃ version,
        lookup package = some version ∧ manager.accepts category package version = true := by
  rw [managedInstalled, SortedSet.contains_keep, Bool.and_eq_true]
  cases installed : lookup package with
  | none => simp
  | some version =>
      constructor
      · rintro ⟨_, accepted⟩
        exact ⟨version, rfl, accepted⟩
      · rintro ⟨_, same, accepted⟩
        cases same
        exact ⟨contains_managed_of_accepts accepted, accepted⟩

/-- A version is accepted in some category if and only if its package is managed there. -/
theorem acceptsInAny_iff_managedInstalled
    {version : VersionCode}
    (installed : lookup package = some version) :
    manager.acceptsInAny package version = true ↔
      (manager.managedInstalled .excluded lookup).contains package = true ∨
        (manager.managedInstalled .included lookup).contains package = true := by
  simp only [acceptsInAny_eq, contains_managedInstalled_iff, installed, Option.some.injEq,
    exists_eq_left', Bool.or_eq_true]

end Manager

namespace Selection

variable {manager : Manager} {lookup : VersionLookup} {selection : Selection} {package : String}

/-- A user may change the selected packages that are installed and not accepted by any rule. -/
theorem contains_controllable_iff :
    (selection.controllable manager lookup).contains package = true ↔
      selection.contains package = true ∧
        ∃ version,
          lookup package = some version ∧ manager.acceptsInAny package version = false := by
  rw [controllable, SortedSet.contains_keep, Bool.and_eq_true]
  cases lookup package <;> simp

/-- Managed packages and those that a user may change part the selected installed packages. -/
theorem controllable_partition
    (manager : Manager)
    (lookup : VersionLookup)
    (selection : Selection)
    (package : String) :
    ((selection.controllable manager lookup).contains package = true ↔
        selection.contains package = true ∧
          (lookup package).isSome = true ∧
          (manager.managedInstalled .excluded lookup).contains package = false ∧
          (manager.managedInstalled .included lookup).contains package = false) ∧
      (selection.contains package = true → (lookup package).isSome = true →
        Xor
          ((selection.controllable manager lookup).contains package = true)
          ((manager.managedInstalled .excluded lookup).contains package = true ∨
            (manager.managedInstalled .included lookup).contains package = true)) ∧
      (selection.contains package = false ∨ lookup package = none →
        (selection.controllable manager lookup).contains package = false) := by
  have isUnmanaged :
      (selection.controllable manager lookup).contains package = true ↔
        selection.contains package = true ∧
          (lookup package).isSome = true ∧
          ¬((manager.managedInstalled .excluded lookup).contains package = true ∨
            (manager.managedInstalled .included lookup).contains package = true) := by
    rw [contains_controllable_iff]
    cases installed : lookup package with
    | none => simp
    | some version => simp [← Manager.acceptsInAny_iff_managedInstalled installed]
  refine ⟨?_, ?_, ?_⟩
  · simpa only [not_or, Bool.not_eq_true] using isUnmanaged
  · intro isSelected isInstalled
    rw [isUnmanaged, Xor]
    simp only [isSelected, isInstalled, true_and]
    tauto
  · intro isMissing
    refine Bool.eq_false_iff.mpr fun isControllable => ?_
    obtain ⟨isSelected, isInstalled, _⟩ := isUnmanaged.mp isControllable
    rcases isMissing with notSelected | notInstalled
    · rw [notSelected] at isSelected
      contradiction
    · rw [notInstalled] at isInstalled
      contradiction

end Selection

end SplitTunnel
