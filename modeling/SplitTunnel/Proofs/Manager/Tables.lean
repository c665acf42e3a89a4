import SplitTunnel.Proofs.Manager.Counting
import SplitTunnel.Proofs.Manager.History
import SplitTunnel.Proofs.Text.ByteOrder

namespace SplitTunnel

/-!
# What the tables hold

A table holds the rules of exactly those packages that have one, in the order of
the bytes of the packages and with the rules of each in the order of its texts.
No type says that the rules of a package are not empty or that a range is not
inverted: that follows from how rules are read.  It is so of every table that can
be reached through a manager, whatever was configured before, because a
reconfiguration makes new tables and changes none.
-/

/-- The rules among several texts are bounded, as each of them was read. -/
theorem Rule.isBounded_of_mem_parseValid
    {texts : List String}
    {rule : Rule}
    (isRule : rule ∈ parseValid texts) :
    rule.IsBounded := by
  obtain ⟨text, _, isRead⟩ := mem_parseValid_iff.mp isRule
  exact (isReadAs_of_parse isRead).isBounded

namespace RuleTable

/-- A table holds the rules among the texts that are listed for packages. -/
structure HoldsRulesOf (table : RuleTable) (texts : RuleTexts) : Prop where
  ascending :
    table.keys.Pairwise fun package other => Text.encode package < Text.encode other
  distinct : table.keys.Nodup
  mem_keys_iff : ∀ package, package ∈ table.keys ↔ table.contains package = true
  found_iff :
    ∀ package, (∃ rules, table.get? package = some rules) ↔ table.contains package = true
  contains_iff :
    ∀ package,
      table.contains package = true ↔
        ∃ text ∈ (texts.get? package).getD [], ∃ rule, Rule.parse text = .ok rule
  rules_iff :
    ∀ package rules,
      table.get? package = some rules ↔
        rules ≠ [] ∧ rules = Rule.parseValid ((texts.get? package).getD [])
  bounded :
    ∀ package rules,
      table.get? package = some rules → ∀ rule ∈ rules, rule.IsBounded
  size : (table.size : ℕ∞) = {package | table.contains package = true}.encard
  isEmpty_iff : table.isEmpty = true ↔ ∀ package, table.contains package = false

/-- The table that is made of texts holds their rules. -/
theorem holdsRulesOf_ofTexts
    (texts : RuleTexts) :
    (ofTexts texts).HoldsRulesOf texts where
  ascending :=
    List.Pairwise.map Prod.fst (fun _ _ => Text.encode_lt_of_compare) (ofTexts texts).ascending
  distinct := SortedMap.nodup_keys _
  mem_keys_iff _ := SortedMap.mem_keys_iff
  found_iff _ := Option.isSome_iff_exists.symm
  contains_iff _ := contains_ofTexts_iff.trans Rule.parseValid_ne_nil_iff
  rules_iff _ _ := get?_ofTexts_eq_some_iff
  bounded := by
    intro package rules isFound rule isRule
    obtain ⟨_, rfl⟩ := get?_ofTexts_eq_some_iff.mp isFound
    exact Rule.isBounded_of_mem_parseValid isRule
  size := (SortedMap.encard_keys _).symm
  isEmpty_iff := SortedMap.isEmpty_iff

/-- No other table holds the rules of the same texts. -/
theorem HoldsRulesOf.eq_ofTexts
    {table : RuleTable}
    {texts : RuleTexts}
    (holds : table.HoldsRulesOf texts) :
    table = ofTexts texts := by
  apply SortedMap.ext_get?
  intro package
  apply Option.ext
  intro rules
  rw [holds.rules_iff, get?_ofTexts_eq_some_iff]

end RuleTable

namespace Tables

/-- Tables hold the rules of a document, category by category. -/
def HoldRulesOf (tables : Tables) (document : Document) : Prop :=
  ∀ category, (tables.table category).HoldsRulesOf (document.category category)

/-- The tables that are made of a document hold its rules. -/
theorem holdRulesOf_ofDocument
    (document : Document) :
    (ofDocument document).HoldRulesOf document := by
  intro category
  rw [table_ofDocument]
  exact RuleTable.holdsRulesOf_ofTexts _

end Tables

namespace Manager

/--
All tables that can be reached hold the rules of the document they were made of.

The built-in tables hold those of the built-in document, the runtime tables those
of the document that was configured last, and each of the tables that were taken
those of the document that was the last one then.
-/
structure World.HoldsRulesOf
    (world : World)
    (builtin : Document)
    (history : List Event) :
    Prop where
  builtin : world.manager.builtin.HoldRulesOf builtin
  runtime : world.manager.runtime.HoldRulesOf ((lastConfigured? history).getD .empty)
  count : world.taken.length = history.countP Event.isTake
  taken :
    ∀ index tables,
      world.taken[index]? = some tables →
        ∃ before after,
          history = before ++ .take :: after ∧
            before.countP Event.isTake = index ∧
            tables.HoldRulesOf ((lastConfigured? before).getD .empty)

section Steps

variable {world next : World} {event : Event} {history : List Event} {builtin : Document}

/-- A fresh manager has the tables of its built-in document and empty runtime tables. -/
theorem World.holdsRulesOf_fresh
    (builtin : Document) :
    (World.fresh builtin).HoldsRulesOf builtin [] where
  builtin := Tables.holdRulesOf_ofDocument builtin
  runtime := Tables.holdRulesOf_ofDocument .empty
  count := rfl
  taken := by
    intro index tables isTaken
    contradiction

/-- Tables that are taken are the current ones, and come after those that were taken before. -/
theorem Step.taken_cases
    {index : Nat}
    {tables : Tables}
    (step : Step world event next)
    (isTaken : next.taken[index]? = some tables) :
    world.taken[index]? = some tables ∨
      event = .take ∧ index = world.taken.length ∧ tables = world.manager.runtime := by
  cases step with
  | configure document => exact Or.inl isTaken
  | configureJson bytes => exact Or.inl isTaken
  | query query => exact Or.inl isTaken
  | take =>
      rw [List.getElem?_append, List.getElem?_singleton] at isTaken
      split at isTaken
      · exact Or.inl isTaken
      · rename_i notBefore
        split at isTaken
        · rename_i isFirst
          cases isTaken
          exact Or.inr ⟨rfl, by omega, rfl⟩
        · contradiction

/-- A step keeps the tables that it does not replace and makes the others of its document. -/
theorem Step.holdsRulesOf
    (step : Step world event next)
    (holds : world.HoldsRulesOf builtin history) :
    next.HoldsRulesOf builtin (history ++ [event]) where
  builtin := by
    rw [step.manager_eq]
    cases event.configured? <;> exact holds.builtin
  runtime := by
    rw [step.manager_eq, lastConfigured?_concat]
    cases event.configured? with
    | none => exact holds.runtime
    | some document => exact Tables.holdRulesOf_ofDocument document
  count := by
    rw [step.taken_eq, List.length_append, holds.count, List.countP_append]
    cases h : event.isTake <;> simp [h]
  taken := by
    intro index tables isTaken
    rcases step.taken_cases isTaken with wasTaken | ⟨rfl, rfl, rfl⟩
    · obtain ⟨before, after, rfl, position, holdRules⟩ := holds.taken index tables wasTaken
      exact ⟨before, after ++ [event], by simp, position, holdRules⟩
    · exact ⟨history, [], rfl, holds.count.symm, holds.runtime⟩

/-- After a run all tables that can be reached hold the rules of their documents. -/
theorem Run.holdsRulesOf
    (run : Run (.fresh builtin) history world) :
    world.HoldsRulesOf builtin history := by
  induction run with
  | start => exact World.holdsRulesOf_fresh builtin
  | next run step inductionHypothesis => exact step.holdsRulesOf inductionHypothesis

/--
Tables hold the rules of the texts they were made of, wherever they are reached.

The table that is made of texts lists the packages with a rule among their texts,
each once and in the strictly ascending order of their bytes.  It finds for such a
package all rules among its texts in their order, and for no other package any.
The rules are bounded, the size is the number of the packages, and no other table
is like this for the same texts.  After any run of a manager this is so of the
built-in tables, of the runtime tables and of all tables that were taken.
-/
theorem tables_holdRules
    (texts : RuleTexts) :
    (RuleTable.ofTexts texts).HoldsRulesOf texts ∧
      (∀ table : RuleTable, table.HoldsRulesOf texts → table = .ofTexts texts) ∧
      ∀ builtin history world,
        Run (.fresh builtin) history world → world.HoldsRulesOf builtin history :=
  ⟨RuleTable.holdsRulesOf_ofTexts texts, fun _ => RuleTable.HoldsRulesOf.eq_ofTexts,
    fun _ _ _ => Run.holdsRulesOf⟩

/-- Tables that were taken keep the rule of a package that has none in the next document. -/
theorem tables_holdRules_invertedLater :
    ∃ summary lastSummary world tables,
      Run (.fresh builtinDocument)
          [.configure (Document.empty.withRules .included "a" ["oops", "[1-5]"]) summary, .take,
            .configure (Document.empty.withRules .included "a" ["[5-1]"]) lastSummary]
          world ∧
        world.taken[0]? = some tables ∧
        tables.included.get? "a" = some [.range 1 5] ∧
        world.manager.runtime.included.contains "a" = false := by
  have run :=
    (((Run.start : Run (.fresh builtinDocument) [] _).next
      (.configure (Document.empty.withRules .included "a" ["oops", "[1-5]"]))).next .take).next
      (.configure (Document.empty.withRules .included "a" ["[5-1]"]))
  obtain ⟨_, _, reached⟩ := tables_holdRules ∅
  have holds := reached _ _ _ run
  obtain ⟨before, after, whole, position, holdRules⟩ := holds.taken 0 _ rfl
  refine ⟨_, _, _, _, run, rfl, ?_, ?_⟩
  · -- Only the first configuration stands before the taking.
    rcases before with _ | ⟨first, _ | ⟨second, rest⟩⟩
    · simp at whole
    · obtain ⟨rfl, _⟩ := List.cons.inj whole
      exact ((holdRules .included).rules_iff "a" [.range 1 5]).mpr
        ⟨by decide, by decide +kernel⟩
    · obtain ⟨_, others⟩ := List.cons.inj whole
      obtain ⟨rfl, _⟩ := List.cons.inj others
      simp [Event.isTake] at position
  · refine Bool.eq_false_iff.mpr fun isListed => ?_
    obtain ⟨rules, isFound⟩ := ((holds.runtime .included).found_iff "a").mpr isListed
    obtain ⟨notEmpty, rfl⟩ := ((holds.runtime .included).rules_iff "a" rules).mp isFound
    exact notEmpty (by decide +kernel)

end Steps

end Manager

end SplitTunnel
