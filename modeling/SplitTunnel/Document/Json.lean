import SplitTunnel.Document.Basic
import SplitTunnel.Json.Parsed
import SplitTunnel.Json.Typed

namespace SplitTunnel

/-!
# The JSON form of rule documents

A document is written as an object with the two categories, each an object from
packages to lists of rule texts.  Reading is lenient where authors of rules are
careless: other members are ignored, a category that is not an object lists
nothing, and a number or a boolean in a list of rules stands for its text.  A
later member replaces an earlier one with the same key, but both must fit.
-/

namespace Document

open Json

/-- The text of an element in a list of rules. -/
def ruleTextOfValue (value : ReadValue) : Except Fault String :=
  match value.found with
  | .error fault => .error fault
  | .ok (.string text) => .ok text
  | .ok (.boolean choice) => .ok (toString choice)
  | .ok (.number number) => .ok (String.ofList number.fullText)
  | .ok found => .error (.mismatch found "a rule string")

/-- The rule texts of a package. -/
def ruleListOfValue (value : ReadValue) : Except Fault (List String) :=
  match value with
  | .array elements => elements.mapM ruleTextOfValue
  | _ => .error (value.mismatch "a sequence")

/-- The rule texts of a category; a value that is no object has none. -/
def ruleTextsOfValue (value : ReadValue) : Except Fault RuleTexts :=
  match value with
  | .object members => (membersOfValue ruleListOfValue members).map SortedMap.ofList
  | _ => value.found.map fun _ => ∅

/-- Read one member of a document after the members before it. -/
def readMember
    (document : Document)
    (member : Option String × ReadValue) :
    Except Fault Document :=
  match member.1 with
  | none =>
      .error .malformed
  | some key =>
      match Named.ofName? key with
      | none =>
          .ok document
      | some category =>
          (ruleTextsOfValue member.2).map (document.setCategory category)

/-- Read a document from a JSON value. -/
def ofValue (value : ReadValue) : Except Fault Document :=
  match value with
  | .object members => members.foldlM readMember empty
  | _ => .error (value.mismatch "a rule document object")

/-- The JSON value of the rule texts of a category. -/
def ruleTextsValue (rules : RuleTexts) : WrittenValue :=
  .object (rules.entries.map fun entry => (entry.1, .array (entry.2.map .string)))

/-- The JSON value of a document. -/
def toValue (document : Document) : WrittenValue :=
  .object [
    (Category.excluded.name, ruleTextsValue document.excluded),
    (Category.included.name, ruleTextsValue document.included)
  ]

instance : Typed Document where
  toValue := toValue
  ofValue := ofValue

/-- The bytes of a document. -/
def toJson (document : Document) : List UInt8 :=
  encode document.toValue

/-- Read the bytes of a document. -/
def ofJson (bytes : List UInt8) : Except Fault Document :=
  decode ofValue bytes

/-- Read a document from a JSON value that was parsed before. -/
def ofParsed (value : WrittenValue) : Except Fault Document :=
  ofValue (readBack (sorted value))

end Document

end SplitTunnel
