import SplitTunnel.Codec
import SplitTunnel.Document.Json
import SplitTunnel.Proofs.Json.RoundTrip
import SplitTunnel.SortedMap.Lemmas

namespace SplitTunnel

/-!
# Rule documents are read as they were written

Whatever packages and rule texts a document lists, its bytes are read as the
same document: each list of texts, each package and each category in its turn.
-/

namespace Document

open Json

theorem readBackElements_texts
    (texts : List String) :
    readBackElements (texts.map .string) = texts.map fun text => .string (some text) := by
  induction texts with
  | nil => rfl
  | cons text rest inductionHypothesis =>
      rw [List.map_cons, readBackElements, inductionHypothesis]
      rfl

theorem haveNoNumber_texts
    (texts : List String) :
    haveNoNumber (texts.map .string) = true := by
  induction texts with
  | nil => rfl
  | cons text rest inductionHypothesis => simp [haveNoNumber, hasNoNumber, inductionHypothesis]

/-- The rule texts of a package are read as they were written. -/
theorem ruleListOfValue_texts
    (texts : List String) :
    ruleListOfValue (readBack (.array (texts.map .string))) = .ok texts := by
  rw [readBack, readBackElements_texts, ruleListOfValue]
  induction texts with
  | nil => rfl
  | cons text rest inductionHypothesis =>
      rw [List.map_cons, List.mapM_cons, inductionHypothesis]
      rfl

/-- The members that are written for packages are read as the packages. -/
theorem membersOfValue_packages
    (entries : List (String × List String)) :
    membersOfValue ruleListOfValue
        (readBackMembers
          (entries.map fun entry => (entry.1, .array (entry.2.map .string)))) =
      .ok entries := by
  induction entries with
  | nil => rfl
  | cons entry rest inductionHypothesis =>
      rw [membersOfValue] at inductionHypothesis ⊢
      rw [List.map_cons, readBackMembers, List.mapM_cons, inductionHypothesis,
        readBackMember]
      simp only [ruleListOfValue_texts]
      rfl

theorem membersHaveNoNumber_packages
    (entries : List (String × List String)) :
    membersHaveNoNumber
        (entries.map fun entry => (entry.1, .array (entry.2.map .string))) =
      true := by
  induction entries with
  | nil => rfl
  | cons entry rest inductionHypothesis =>
      simp [membersHaveNoNumber, memberHasNoNumber, hasNoNumber, haveNoNumber_texts,
        inductionHypothesis]

/-- The rule texts of a category are read as they were written. -/
theorem ruleTextsOfValue_ruleTextsValue
    (rules : RuleTexts) :
    ruleTextsOfValue (readBack (ruleTextsValue rules)) = .ok rules := by
  rw [ruleTextsValue, readBack, ruleTextsOfValue, membersOfValue_packages]
  change Except.ok (SortedMap.ofList rules.entries) = _
  rw [SortedMap.ofList_entries]

theorem hasNoNumber_toValue
    (document : Document) :
    hasNoNumber document.toValue = true := by
  simp [toValue, ruleTextsValue, hasNoNumber, membersHaveNoNumber, memberHasNoNumber,
    membersHaveNoNumber_packages]

/-- A document is read as it was written, value by value. -/
theorem ofValue_toValue
    (document : Document) :
    ofValue (readBack document.toValue) = .ok document := by
  have isExclude : Named.ofName? Category.excluded.name = some Category.excluded := by decide
  have isInclude : Named.ofName? Category.included.name = some Category.included := by decide
  rw [toValue, readBack, ofValue]
  simp only [readBackMembers, readBackMember, List.foldlM_cons, List.foldlM_nil, readMember,
    isExclude, isInclude, ruleTextsOfValue_ruleTextsValue]
  rfl

/-- The bytes of a document are read as the document. -/
theorem isRead_toJson
    (document : Document) :
    ofJson document.toJson = .ok document := by
  rw [ofJson, toJson, decode_encode (hasNoNumber_toValue document), ofValue_toValue]

/--
Decoding undoes encoding, whatever packages and texts a document lists.

So bytes that were read as a document may be replaced by those that are written
for it: they are read as the same document, for which the same bytes are
written again.
-/
theorem ofJson_toJson
    (document : Document) :
    (Codec.json Document).encode document = .ok document.toJson ∧
      ofJson document.toJson = .ok document ∧
      (Codec.json Document).decode document.toJson = .ok document ∧
      ∀ bytes, ofJson bytes = .ok document →
        ofJson document.toJson = ofJson bytes ∧
          (ofJson document.toJson).map toJson = .ok document.toJson := by
  have isRead := isRead_toJson document
  refine ⟨rfl, isRead, ?_, ?_⟩
  · change (ofJson document.toJson).mapError _ = _
    rw [isRead]
    rfl
  · intro bytes wasRead
    rw [isRead, wasRead]
    exact ⟨rfl, rfl⟩

end Document

end SplitTunnel
