import SplitTunnel.Category
import SplitTunnel.SortedMap.Basic

namespace SplitTunnel

/-!
# Rule documents

A rule document lists rule texts for packages in both categories, as they were
written: a package may have no rules, and a text need not be a rule.
-/

/-- The rule texts of the packages of one category. -/
abbrev RuleTexts :=
  SortedMap String (List String)

/-- The rule texts of both categories. -/
structure Document where
  excluded : RuleTexts
  included : RuleTexts
  deriving Repr, DecidableEq

namespace Document

/-- The document without packages. -/
def empty : Document where
  excluded := ∅
  included := ∅

instance : Inhabited Document where
  default := empty

/-- The rule texts of a category. -/
def category (document : Document) : Category → RuleTexts
  | .excluded => document.excluded
  | .included => document.included

/-- Replace the rule texts of a category. -/
def setCategory
    (document : Document)
    (category : Category)
    (rules : RuleTexts) :
    Document :=
  match category with
  | .excluded => { document with excluded := rules }
  | .included => { document with included := rules }

/-- List a package in a category with these rule texts, replacing those it had. -/
def withRules
    (document : Document)
    (category : Category)
    (package : String)
    (rules : List String) :
    Document :=
  document.setCategory category ((document.category category).insert package rules)

/-- The number of packages that a category lists, whatever their rules. -/
def packageCount (document : Document) (category : Category) : Nat :=
  (document.category category).size

/-- Whether no category lists a package. -/
def isEmpty (document : Document) : Bool :=
  document.excluded.isEmpty && document.included.isEmpty

end Document

end SplitTunnel
