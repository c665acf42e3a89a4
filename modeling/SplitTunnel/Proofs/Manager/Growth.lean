import SplitTunnel.Proofs.Manager.History
import SplitTunnel.Proofs.Manager.Managed
import SplitTunnel.Proofs.Rule.Canonical

namespace SplitTunnel

/-!
# More rules manage more packages

Only which rules a document lists for a package matters, not how often, in which
order or in which spelling, and not what else is listed.  With more of them every
version that was accepted still is, so that more packages are managed and fewer
are left to the user.  The rules that are built in cannot be taken back.
-/

/-- Every rule that a document lists is listed by another document for the same package. -/
def Document.RulesWithin (first second : Document) : Prop :=
  ∀ category package,
    Rule.parseValid (first.texts category package) ⊆
      Rule.parseValid (second.texts category package)

/-- Changes to the texts that are listed for a package which change none of its rules. -/
inductive RuleTexts.Immaterial : List String → List String → Prop where
  /-- Texts are put in another order. -/
  | reorder
      {texts others : List String}
      (permuted : texts.Perm others) :
      Immaterial texts others
  /-- A text is repeated. -/
  | again
      {text : String}
      {texts : List String}
      (isListed : text ∈ texts) :
      Immaterial texts (text :: texts)
  /-- A rule is spelled in another way. -/
  | respell
      {text other : String}
      (texts : List String)
      (respells : Rule.Respells text other) :
      Immaterial (text :: texts) (other :: texts)
  /-- A text is added that is no rule. -/
  | noRule
      {text : String}
      {fault : RuleFault}
      (texts : List String)
      (isNone : Rule.parse text = .error fault) :
      Immaterial texts (text :: texts)
  /-- A change is taken back. -/
  | back
      {texts others : List String}
      (change : Immaterial texts others) :
      Immaterial others texts
  /-- One change is made after another. -/
  | next
      {texts between others : List String}
      (first : Immaterial texts between)
      (second : Immaterial between others) :
      Immaterial texts others

/-- Immaterial changes keep the rules among the texts. -/
theorem RuleTexts.Immaterial.mem_parseValid_iff
    {texts others : List String}
    (change : Immaterial texts others)
    (rule : Rule) :
    rule ∈ Rule.parseValid texts ↔ rule ∈ Rule.parseValid others := by
  induction change with
  | reorder permuted => exact (permuted.filterMap Rule.parse?).mem_iff
  | @again text texts isListed =>
      simp only [Rule.parseValid, List.mem_filterMap, List.mem_cons, exists_eq_or_imp]
      exact ⟨Or.inr, fun isRule => isRule.elim (fun isRead => ⟨text, isListed, isRead⟩) id⟩
  | respell texts respells =>
      simp only [Rule.parseValid, List.mem_filterMap, List.mem_cons, exists_eq_or_imp,
        respells.parse?_eq]
  | noRule texts isNone =>
      simp [Rule.parseValid, List.mem_filterMap, Rule.parse?, isNone, Except.toOption]
  | back change inductionHypothesis => exact inductionHypothesis.symm
  | next first second firstHypothesis secondHypothesis =>
      exact firstHypothesis.trans secondHypothesis

namespace Manager

/-- Whatever one manager accepts or manages, another does too, and leaves no more to the user. -/
structure Grows (before after : Manager) : Prop where
  accepts :
    ∀ category package version,
      before.accepts category package version = true →
        after.accepts category package version = true
  acceptsInAny :
    ∀ package version,
      before.acceptsInAny package version = true → after.acceptsInAny package version = true
  managed :
    ∀ category package,
      (before.managed category).contains package = true →
        (after.managed category).contains package = true
  managedInstalled :
    ∀ category lookup package,
      (before.managedInstalled category lookup).contains package = true →
        (after.managedInstalled category lookup).contains package = true
  controllable :
    ∀ (selection : Selection) lookup package,
      (selection.controllable after lookup).contains package = true →
        (selection.controllable before lookup).contains package = true

section Answers

variable {before after : Manager} {category : Category} {package : String} {version : VersionCode}

theorem accepts_of_subset
    (within : before.rules category package ⊆ after.rules category package)
    (accepted : before.accepts category package version = true) :
    after.accepts category package version = true := by
  rw [accepts_eq_anyAccepts] at accepted ⊢
  obtain ⟨rule, isRule, acceptedByRule⟩ := List.any_eq_true.mp accepted
  exact List.any_eq_true.mpr ⟨rule, within isRule, acceptedByRule⟩

/-- A manager that accepts more and manages more grows in all its answers. -/
theorem Grows.ofAccepts
    (accepts :
      ∀ category package version,
        before.accepts category package version = true →
          after.accepts category package version = true)
    (managed :
      ∀ category package,
        (before.managed category).contains package = true →
          (after.managed category).contains package = true) :
    Grows before after := by
  have acceptsInAny :
      ∀ package version,
        before.acceptsInAny package version = true → after.acceptsInAny package version = true := by
    intro package version accepted
    rw [acceptsInAny_eq, Bool.or_eq_true] at accepted ⊢
    exact accepted.imp (accepts .excluded package version) (accepts .included package version)
  refine ⟨accepts, acceptsInAny, managed, ?_, ?_⟩
  · intro category lookup package isManaged
    obtain ⟨version, isInstalled, accepted⟩ := contains_managedInstalled_iff.mp isManaged
    exact contains_managedInstalled_iff.mpr
      ⟨version, isInstalled, accepts category package version accepted⟩
  · intro selection lookup package isControllable
    obtain ⟨isSelected, version, isInstalled, notAccepted⟩ :=
      Selection.contains_controllable_iff.mp isControllable
    refine Selection.contains_controllable_iff.mpr ⟨isSelected, version, isInstalled, ?_⟩
    exact Bool.eq_false_iff.mpr fun accepted =>
      Bool.eq_false_iff.mp notAccepted (acceptsInAny package version accepted)

/-- Managers that grow from each other give the same answers, but for the lists of rules. -/
theorem Grows.answer_eq
    (grows : Grows before after)
    (growsBack : Grows after before)
    {query : Query}
    (noList : ∀ category package, query ≠ .rules category package) :
    before.answer query = after.answer query := by
  cases query with
  | rules category package => exact absurd rfl (noList category package)
  | accepts category package version =>
      exact congrArg Answer.verdict (Bool.eq_iff_iff.mpr
        ⟨grows.accepts category package version, growsBack.accepts category package version⟩)
  | acceptsInAny package version =>
      exact congrArg Answer.verdict (Bool.eq_iff_iff.mpr
        ⟨grows.acceptsInAny package version, growsBack.acceptsInAny package version⟩)
  | managed category =>
      exact congrArg Answer.packages (SortedSet.ext_contains fun package =>
        ⟨grows.managed category package, growsBack.managed category package⟩)
  | managedInstalled category lookup =>
      exact congrArg Answer.packages (SortedSet.ext_contains fun package =>
        ⟨grows.managedInstalled category lookup package,
          growsBack.managedInstalled category lookup package⟩)
  | controllable selection lookup =>
      exact congrArg Answer.packages (SortedSet.ext_contains fun package =>
        ⟨growsBack.controllable selection lookup package,
          grows.controllable selection lookup package⟩)

end Answers

section Documents

variable {builtin document later : Document} {documents others : List Document}

/-- Managers of documents grow with the lists of rules. -/
theorem grows_configured
    (within :
      ∀ category package,
        (configured builtin documents).rules category package ⊆
          (configured builtin others).rules category package) :
    Grows (configured builtin documents) (configured builtin others) := by
  refine .ofAccepts (fun category package version => accepts_of_subset (within category package)) ?_
  intro category package isManaged
  rw [contains_managed_configured_iff] at isManaged ⊢
  obtain ⟨rule, isRule⟩ := List.exists_mem_of_ne_nil _ isManaged
  exact List.ne_nil_of_mem (within category package isRule)

/-- A manager grows with the rules of the document that is configured last. -/
theorem grows_of_rulesWithin
    (within : document.RulesWithin later) :
    Grows (configured builtin (documents ++ [document]))
      (configured builtin (others ++ [later])) := by
  refine grows_configured fun category package rule isRule => ?_
  simp only [rules_configured, List.getLast?_concat, Option.toList_some, List.flatMap_cons,
    List.flatMap_nil, List.append_nil, List.mem_append] at isRule ⊢
  exact isRule.imp id fun isRuntime => within category package isRuntime

/-- What is built in stays, whatever is configured. -/
theorem grows_of_builtin :
    Grows (ofBuiltin builtin) (configured builtin documents) := by
  have within : ∀ category package,
      (configured builtin []).rules category package ⊆
        (configured builtin documents).rules category package := by
    intro category package rule isRule
    simp only [rules_configured, List.getLast?_nil, Option.toList_none, List.flatMap_cons,
      List.flatMap_nil, List.append_nil, List.mem_append] at isRule ⊢
    exact Or.inl isRule
  exact grows_configured within

/--
The answers of a manager depend on the rules of its last document only, and grow with them.

If every rule of one document is a rule of another, then whatever was configured
before, a manager with the second document accepts and manages all that one with
the first does, and leaves no more to the user.  If the same holds the other way
round, the answers are the same; so they do not change when texts are put in
another order, repeated or spelled in another way, or when texts that are no rules
are added or removed.  And no document takes back what the built-in rules accept.
-/
theorem answers_growWithRules
    (builtin document later : Document)
    (documents others : List Document) :
    (document.RulesWithin later →
        Grows (configured builtin (documents ++ [document]))
          (configured builtin (others ++ [later]))) ∧
      (document.RulesWithin later → later.RulesWithin document →
        ∀ query, (∀ category package, query ≠ .rules category package) →
          (configured builtin (documents ++ [document])).answer query =
            (configured builtin (others ++ [later])).answer query) ∧
      ((∀ category package,
          RuleTexts.Immaterial (document.texts category package)
            (later.texts category package)) →
        ∀ query, (∀ category package, query ≠ .rules category package) →
          (configured builtin (documents ++ [document])).answer query =
            (configured builtin (others ++ [later])).answer query) ∧
      Grows (ofBuiltin builtin) (configured builtin (documents ++ [document])) := by
  refine ⟨grows_of_rulesWithin, ?_, ?_, grows_of_builtin⟩
  · intro within withinBack query noList
    exact (grows_of_rulesWithin within).answer_eq (grows_of_rulesWithin withinBack) noList
  · intro change query noList
    have within : document.RulesWithin later := fun category package rule =>
      ((change category package).mem_parseValid_iff rule).mp
    have withinBack : later.RulesWithin document := fun category package rule =>
      ((change category package).mem_parseValid_iff rule).mpr
    exact (grows_of_rulesWithin within).answer_eq (grows_of_rulesWithin withinBack) noList

/-- Blanks, zeros in front and a text that is no rule change no answer. -/
theorem answers_growWithRules_respelled :
    (configured builtinDocument
          [Document.empty.withRules .excluded "a" ["oops", " 007"]]).answer
        (.accepts .excluded "a" 7) =
      (configured builtinDocument [Document.empty.withRules .excluded "a" ["7"]]).answer
        (.accepts .excluded "a" 7) := by
  obtain ⟨_, _, sameAnswers, _⟩ :=
    answers_growWithRules builtinDocument
      (Document.empty.withRules .excluded "a" ["oops", " 007"])
      (Document.empty.withRules .excluded "a" ["7"]) [] []
  refine sameAnswers (fun category package => ?_) _ (fun category package => nofun)
  have noRule : Rule.parse "oops" = .error (.unrecognized "oops") := by decide +kernel
  have isWritten : (RuleForm.exact ['0', '0', '7']).IsWritten := rfl
  have otherIsWritten : (RuleForm.exact ['7']).IsWritten := rfl
  have respells : Rule.Respells " 007" "7" :=
    .forms isWritten otherIsWritten (Text.trims_trim " 007".toList)
      (Text.trims_trim "7".toList) rfl
  cases category with
  | included => exact .reorder (.refl _)
  | excluded =>
      by_cases isListed : package = "a"
      · subst isListed
        exact .next (.back (.noRule [" 007"] noRule)) (.respell [] respells)
      · have noTexts (texts : List String) :
            (Document.empty.withRules .excluded "a" texts).texts .excluded package = [] :=
          congrArg (Option.getD · []) (SortedMap.get?_insert_of_ne _ isListed texts)
        rw [noTexts, noTexts]
        exact .reorder (.refl _)

end Documents

end Manager

end SplitTunnel
