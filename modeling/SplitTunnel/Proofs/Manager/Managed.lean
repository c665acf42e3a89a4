import SplitTunnel.Proofs.Manager.Partition

namespace SplitTunnel

/-!
# Which packages are managed

The managed packages are found by going through the keys of the tables, and the
rules of a package by looking it up in them.  Because a table lists a package only
with a rule, the two agree: a package is managed if and only if it has a rule, and
a look-up of installed versions can only take packages away.
-/

namespace Rule

/-- Texts have no rules among them exactly if none of them is a rule. -/
theorem parseValid_ne_nil_iff
    {texts : List String} :
    parseValid texts ≠ [] ↔ ∃ text ∈ texts, ∃ rule, parse text = .ok rule := by
  constructor
  · intro notEmpty
    obtain ⟨rule, isRule⟩ := List.exists_mem_of_ne_nil _ notEmpty
    obtain ⟨text, isListed, isRead⟩ := mem_parseValid_iff.mp isRule
    exact ⟨text, isListed, rule, isRead⟩
  · rintro ⟨text, isListed, rule, isRead⟩
    exact List.ne_nil_of_mem (mem_parseValid_iff.mpr ⟨text, isListed, isRead⟩)

end Rule

namespace RuleTable

/-- A table lists a package if and only if one of the texts of the package is a rule. -/
theorem contains_ofTexts_iff
    {texts : RuleTexts}
    {package : String} :
    (ofTexts texts).contains package = true ↔
      Rule.parseValid ((texts.get? package).getD []) ≠ [] := by
  rw [SortedMap.contains, Option.isSome_iff_exists]
  simp only [get?_ofTexts_eq_some_iff, exists_eq_right]

end RuleTable

/-- The tables of a document list the packages for which the document has a rule. -/
theorem Tables.contains_ofDocument_iff
    {document : Document}
    {category : Category}
    {package : String} :
    ((Tables.ofDocument document).table category).contains package = true ↔
      Rule.parseValid (document.texts category package) ≠ [] := by
  rw [table_ofDocument]
  exact RuleTable.contains_ofTexts_iff

/-- A package that a document does not list has no texts there. -/
theorem Document.texts_of_unlisted
    {document : Document}
    {category : Category}
    {package : String}
    (unlisted : (document.category category).contains package = false) :
    document.texts category package = [] := by
  have noEntry : (document.category category).get? package = none := by
    rw [← Option.not_isSome_iff_eq_none]
    exact Bool.eq_false_iff.mp unlisted
  rw [texts, noEntry]
  rfl

namespace Manager

variable {builtin : Document} {documents : List Document} {category : Category}
variable {package : String} {lookup : VersionLookup}

/-- A package is managed if and only if it has a rule. -/
theorem contains_managed_configured_iff :
    ((configured builtin documents).managed category).contains package = true ↔
      (configured builtin documents).rules category package ≠ [] := by
  rw [contains_managed_iff, configured_eq, rules, ne_eq, List.flatMap_eq_nil_iff]
  simp only [tiers, List.mem_cons, List.not_mem_nil, or_false, forall_eq_or_imp, forall_eq,
    exists_eq_or_imp, exists_eq_left, Tables.contains_ofDocument_iff, Tables.getD_ofDocument,
    not_and_or, ne_eq]

/-- A package has a rule if and only if a document lists a text that is a rule for it. -/
theorem rules_configured_ne_nil_iff :
    (configured builtin documents).rules category package ≠ [] ↔
      ∃ document ∈ builtin :: documents.getLast?.toList,
        ∃ text ∈ document.texts category package, ∃ rule, Rule.parse text = .ok rule := by
  rw [rules_configured, ne_eq, List.flatMap_eq_nil_iff]
  simp only [not_forall, exists_prop, ← ne_eq, Rule.parseValid_ne_nil_iff]

/-- The installed packages that are managed are among the managed packages. -/
theorem contains_managed_of_managedInstalled
    {manager : Manager}
    (isManaged : (manager.managedInstalled category lookup).contains package = true) :
    (manager.managed category).contains package = true := by
  obtain ⟨version, _, accepted⟩ := contains_managedInstalled_iff.mp isManaged
  exact contains_managed_of_accepts accepted

/--
The managed packages are exactly those for which a document lists a rule.

A package is managed in a category if and only if it has a rule there, and that is
so if and only if a text that the built-in document or the last document lists for
it is a rule.  Of these the look-up leaves the packages that are installed at an
accepted version.  A package that neither document lists is in neither set, even if
the look-up knows it.
-/
theorem managed_exact
    (builtin : Document)
    (documents : List Document)
    (category : Category)
    (lookup : VersionLookup)
    (package : String) :
    (((configured builtin documents).managed category).contains package = true ↔
        (configured builtin documents).rules category package ≠ []) ∧
      ((configured builtin documents).rules category package ≠ [] ↔
        ∃ document ∈ builtin :: documents.getLast?.toList,
          ∃ text ∈ document.texts category package, ∃ rule, Rule.parse text = .ok rule) ∧
      (((configured builtin documents).managedInstalled category lookup).contains package = true ↔
        ∃ version,
          lookup package = some version ∧
            (configured builtin documents).accepts category package version = true) ∧
      (((configured builtin documents).managedInstalled category lookup).contains package = true →
        ((configured builtin documents).managed category).contains package = true) ∧
      ((∀ document ∈ builtin :: documents.getLast?.toList,
          (document.category category).contains package = false) →
        ((configured builtin documents).managed category).contains package = false ∧
          ((configured builtin documents).managedInstalled category lookup).contains package =
            false) := by
  refine ⟨contains_managed_configured_iff, rules_configured_ne_nil_iff,
    contains_managedInstalled_iff, contains_managed_of_managedInstalled, ?_⟩
  intro unlisted
  have notManaged :
      ¬((configured builtin documents).managed category).contains package = true := by
    rw [contains_managed_configured_iff, rules_configured_ne_nil_iff]
    rintro ⟨document, isSource, text, isListed, _⟩
    rw [document.texts_of_unlisted (unlisted document isSource)] at isListed
    contradiction
  exact ⟨Bool.eq_false_iff.mpr notManaged,
    Bool.eq_false_iff.mpr fun isManaged =>
      notManaged (contains_managed_of_managedInstalled isManaged)⟩

end Manager

end SplitTunnel
