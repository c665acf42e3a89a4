import SplitTunnel.Manager
import SplitTunnel.Proofs.Rule.Meaning
import SplitTunnel.SortedMap.Lemmas

namespace SplitTunnel

/-!
# What a manager accepts

A manager is what its built-in document and the document configured last make of
it.  The rules of a package are those among the texts that the two documents list
for it, and a version is accepted if one of these texts speaks of it.
-/

/-- The rule texts that a document lists for a package in a category. -/
def Document.texts (document : Document) (category : Category) (package : String) : List String :=
  ((document.category category).get? package).getD []

namespace Tables

theorem table_ofDocument
    (document : Document)
    (category : Category) :
    (ofDocument document).table category = .ofTexts (document.category category) := by
  cases category <;> rfl

end Tables

namespace RuleTable

theorem getD_validRules?
    (texts : List String) :
    (validRules? texts).getD [] = Rule.parseValid texts := by
  rw [validRules?]
  split <;> simp_all

/-- A table lists the rules among the texts of a package. -/
theorem getD_ofTexts
    (texts : RuleTexts)
    (package : String) :
    ((ofTexts texts).get? package).getD [] =
      Rule.parseValid ((texts.get? package).getD []) := by
  rw [ofTexts, SortedMap.get?_filterMap]
  cases texts.get? package with
  | none => rfl
  | some listed => exact getD_validRules? listed

/-- Texts have the rules among them, unless there are none. -/
theorem validRules?_eq_some_iff
    {texts : List String}
    {rules : List Rule} :
    validRules? texts = some rules ↔
      rules ≠ [] ∧ rules = Rule.parseValid texts := by
  rw [validRules?]
  split
  · rename_i noRules
    simp [noRules]
  · rename_i someRules
    constructor
    · intro same
      cases same
      exact ⟨someRules, rfl⟩
    · rintro ⟨_, rfl⟩
      rfl

/-- A table finds the rules among the texts of a package, unless there are none. -/
theorem get?_ofTexts_eq_some_iff
    {texts : RuleTexts}
    {package : String}
    {rules : List Rule} :
    (ofTexts texts).get? package = some rules ↔
      rules ≠ [] ∧ rules = Rule.parseValid ((texts.get? package).getD []) := by
  rw [ofTexts, SortedMap.get?_filterMap]
  cases texts.get? package with
  | none => simp [Rule.parseValid]
  | some listed => exact validRules?_eq_some_iff

end RuleTable

/-- The tables of a document list the rules among the texts of a package. -/
theorem Tables.getD_ofDocument
    (document : Document)
    (category : Category)
    (package : String) :
    (((Tables.ofDocument document).table category).get? package).getD [] =
      Rule.parseValid (document.texts category package) := by
  rw [table_ofDocument]
  exact RuleTable.getD_ofTexts _ package

/-- Tables accept the versions that one of the rules of a package accepts. -/
theorem Tables.accepts_eq
    (tables : Tables)
    (category : Category)
    (package : String)
    (version : VersionCode) :
    tables.accepts category package version =
      Rule.anyAccepts (((tables.table category).get? package).getD []) version := by
  rw [accepts]
  cases (tables.table category).get? package <;> rfl

namespace Manager

/-- The manager with these built-in rules after these documents were configured in turn. -/
def configured (builtin : Document) (documents : List Document) : Manager :=
  documents.foldl configure (ofBuiltin builtin)

theorem configured_concat
    (builtin : Document)
    (documents : List Document)
    (document : Document) :
    configured builtin (documents ++ [document]) =
      (configured builtin documents).configure document := by
  rw [configured, List.foldl_append]
  rfl

/-- A manager keeps its built-in tables and has the runtime tables of the last document. -/
theorem configured_eq
    (builtin : Document)
    (documents : List Document) :
    configured builtin documents =
      { builtin := .ofDocument builtin
        runtime := .ofDocument (documents.getLast?.getD .empty) } := by
  induction documents using List.reverseRecOn with
  | nil => rfl
  | append_singleton documents document inductionHypothesis =>
      rw [configured_concat, inductionHypothesis, List.getLast?_concat]
      rfl

/-- Only the document that was configured last counts. -/
theorem configured_getLast?
    (builtin : Document)
    (documents : List Document) :
    configured builtin documents.getLast?.toList = configured builtin documents := by
  rw [configured_eq, configured_eq]
  cases documents.getLast? <;> rfl

/-- The two ways to ask whether a version is accepted agree. -/
theorem accepts_eq_anyAccepts
    (manager : Manager)
    (category : Category)
    (package : String)
    (version : VersionCode) :
    manager.accepts category package version =
      Rule.anyAccepts (manager.rules category package) version := by
  rw [accepts, rules, Rule.anyAccepts, List.any_flatMap]
  simp only [Tables.accepts_eq]
  rfl

/-- The rules of a package are those of the built-in texts, then those of the last document. -/
theorem rules_configured
    (builtin : Document)
    (documents : List Document)
    (category : Category)
    (package : String) :
    (configured builtin documents).rules category package =
      (builtin :: documents.getLast?.toList).flatMap fun document =>
        Rule.parseValid (document.texts category package) := by
  rw [configured_eq, rules, tiers]
  simp only [List.flatMap_cons, List.flatMap_nil, Tables.getD_ofDocument]
  cases documents.getLast? with
  | none => cases category <;> rfl
  | some document => rfl

theorem acceptsInAny_eq
    (manager : Manager)
    (package : String)
    (version : VersionCode) :
    manager.acceptsInAny package version =
      (manager.accepts .excluded package version || manager.accepts .included package version) := by
  simp [acceptsInAny, Named.values]

/--
A manager accepts a version if and only if a text that one of its documents lists
for the package speaks of it.

The rules of the package are those among the built-in texts and then those among
the texts of the last document, and asking these rules gives the same answer.
-/
theorem accepts_configured_iff
    (builtin : Document)
    (documents : List Document)
    (category : Category)
    (package : String)
    (version : VersionCode) :
    ((configured builtin documents).accepts category package version = true ↔
        ∃ document ∈ builtin :: documents.getLast?.toList,
          ∃ text ∈ document.texts category package,
            Rule.Admits version (Text.trim text.toList)) ∧
      (configured builtin documents).accepts category package version =
        Rule.anyAccepts ((configured builtin documents).rules category package) version ∧
      (configured builtin documents).rules category package =
        ((builtin :: documents.getLast?.toList).flatMap fun document =>
          (document.texts category package).filterMap Rule.parse?) ∧
      (configured builtin documents).acceptsInAny package version =
        ((configured builtin documents).accepts .excluded package version ||
          (configured builtin documents).accepts .included package version) := by
  refine ⟨?_, accepts_eq_anyAccepts .., rules_configured .., acceptsInAny_eq ..⟩
  rw [accepts_eq_anyAccepts, rules_configured, Rule.anyAccepts, List.any_flatMap,
    List.any_eq_true]
  constructor
  · rintro ⟨document, member, accepted⟩
    exact ⟨document, member, Rule.anyAccepts_parseValid_iff.mp accepted⟩
  · rintro ⟨document, member, admitted⟩
    exact ⟨document, member, Rule.anyAccepts_parseValid_iff.mpr admitted⟩

end Manager

end SplitTunnel
