import SplitTunnel.Document.Basic
import SplitTunnel.Rule.Parser

namespace SplitTunnel

/-!
# Rule tables

A table holds the rules of the packages of one category, read from their texts.
A text that is no rule is dropped, and so is a package that is left without a
rule.
-/

/-- The rules of the packages of one category. -/
abbrev RuleTable :=
  SortedMap String (List Rule)

namespace RuleTable

/-- The rules among the texts of a package, if there are any. -/
def validRules? (texts : List String) : Option (List Rule) :=
  match Rule.parseValid texts with
  | [] => none
  | rules => some rules

/-- The table of the rule texts of a category. -/
def ofTexts (texts : RuleTexts) : RuleTable :=
  texts.filterMap fun _ packageTexts => validRules? packageTexts

end RuleTable

/-- The tables of both categories. -/
structure Tables where
  excluded : RuleTable
  included : RuleTable
  deriving Repr, DecidableEq

namespace Tables

/-- Tables without packages. -/
def empty : Tables where
  excluded := ∅
  included := ∅

/-- The tables of a document. -/
def ofDocument (document : Document) : Tables where
  excluded := .ofTexts document.excluded
  included := .ofTexts document.included

/-- The table of a category. -/
def table (tables : Tables) : Category → RuleTable
  | .excluded => tables.excluded
  | .included => tables.included

/-- Whether a rule that the tables list for a package accepts a version. -/
def accepts
    (tables : Tables)
    (category : Category)
    (package : String)
    (version : VersionCode) :
    Bool :=
  match (tables.table category).get? package with
  | none => false
  | some rules => Rule.anyAccepts rules version

end Tables

end SplitTunnel
