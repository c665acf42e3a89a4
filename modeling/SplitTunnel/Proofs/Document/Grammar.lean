import SplitTunnel.Proofs.Document.Damage
import SplitTunnel.Proofs.Document.Meaning

namespace SplitTunnel

/-!
# Which bytes hold a rule document

Bytes are read as a document exactly if they hold a JSON object whose members fit.
A key that is read has to be a text, and so has a string that stands for a rule or
in place of a category; a number there has to have a value.  What is skipped, the
value of any other member and the elements of an array in place of a category,
follows the grammar of JSON and is not restricted any further.
-/

namespace Document

open Json
open Text (encodeChars)

/-- A value that stands for a rule text. -/
inductive IsRuleValue : ReadValue → Prop where
  | string
      (text : String) :
      IsRuleValue (.string (some text))
  | boolean
      (choice : Bool) :
      IsRuleValue (.boolean choice)
  | number
      {spelling : NumberText}
      {number : Number}
      (hasValue : spelling.value? = some number) :
      IsRuleValue (.number spelling)

/-- A member that lists rules for a package. -/
inductive IsPackageMember : Option String × ReadValue → Prop where
  | list
      {package : String}
      {elements : List ReadValue}
      (areRules : ∀ element ∈ elements, IsRuleValue element) :
      IsPackageMember (some package, .array elements)

/-- A value in place of a category; one that is no object lists nothing. -/
inductive IsCategoryValue : ReadValue → Prop where
  | null :
      IsCategoryValue .null
  | boolean
      (choice : Bool) :
      IsCategoryValue (.boolean choice)
  | number
      {spelling : NumberText}
      {number : Number}
      (hasValue : spelling.value? = some number) :
      IsCategoryValue (.number spelling)
  | string
      (text : String) :
      IsCategoryValue (.string (some text))
  | array
      (skipped : List ReadValue) :
      IsCategoryValue (.array skipped)
  | object
      {members : ReadMembers}
      (arePackages : ∀ member ∈ members, IsPackageMember member) :
      IsCategoryValue (.object members)

/-- A member of a document: a category, or one that is skipped. -/
inductive IsDocumentMember : Option String × ReadValue → Prop where
  | category
      {category : Category}
      {value : ReadValue}
      (isValue : IsCategoryValue value) :
      IsDocumentMember (some category.name, value)
  | skipped
      {key : String}
      (noCategory : ∀ category : Category, key ≠ category.name)
      (value : ReadValue) :
      IsDocumentMember (some key, value)

section Sequences

variable {ε α β γ : Type}

theorem exists_ok_map_iff
    {result : Except ε α}
    {change : α → β} :
    (∃ value, result.map change = .ok value) ↔ ∃ value, result = .ok value := by
  cases result <;> simp [Except.map]

theorem exists_ok_iff
    {result : Except ε α} :
    (∃ value, result = .ok value) ↔ result.toOption ≠ none := by
  cases result <;> simp [Except.toOption]

/-- A sequence of readings succeeds if each of them does. -/
theorem exists_ok_mapM_iff
    {read : α → Except ε β}
    {values : List α} :
    (∃ results, values.mapM read = .ok results) ↔
      ∀ value ∈ values, ∃ result, read value = .ok result := by
  have forgotten :
      (values.mapM read).toOption = values.mapM fun value => (read value).toOption :=
    toOption_mapM fun _ _ => rfl
  simp only [exists_ok_iff, forgotten, ne_eq, mapM_eq_none_iff, not_exists, not_and]

/-- A fold succeeds if each of its steps does, whatever state it starts in. -/
theorem exists_ok_foldlM_iff
    {read : γ → α → Except ε γ}
    {Fits : α → Prop}
    (step : ∀ state value, (∃ next, read state value = .ok next) ↔ Fits value)
    {values : List α}
    (start : γ) :
    (∃ last, values.foldlM read start = .ok last) ↔ ∀ value ∈ values, Fits value := by
  induction values generalizing start with
  | nil => exact ⟨fun _ => nofun, fun _ => ⟨start, rfl⟩⟩
  | cons value rest inductionHypothesis =>
      rw [List.foldlM_cons, List.forall_mem_cons, ← step start value]
      cases read start value with
      | error fault => simp [bind, Except.bind]
      | ok next => simp [bind, Except.bind, inductionHypothesis next]

end Sequences

section Values

variable {value : ReadValue} {members : ReadMembers}

theorem ruleTextOfValue_succeeds_iff :
    (∃ text, ruleTextOfValue value = .ok text) ↔ IsRuleValue value := by
  constructor
  · rintro ⟨text, isRead⟩
    cases value with
    | null | array | object => contradiction
    | boolean choice => exact .boolean choice
    | number spelling =>
        rw [ruleTextOfValue, Value.found] at isRead
        cases hasValue : spelling.value? with
        | none =>
            rw [hasValue] at isRead
            contradiction
        | some number => exact .number hasValue
    | string text? =>
        cases text? with
        | none => contradiction
        | some found => exact .string found
  · rintro (text | choice | @⟨spelling, number, hasValue⟩)
    · exact ⟨text, rfl⟩
    · exact ⟨toString choice, rfl⟩
    · refine ⟨String.ofList number.fullText, ?_⟩
      rw [ruleTextOfValue, Value.found, hasValue]

theorem ruleListOfValue_succeeds_iff :
    (∃ list, ruleListOfValue value = .ok list) ↔
      ∃ elements, value = .array elements ∧ ∀ element ∈ elements, IsRuleValue element := by
  cases value with
  | array elements =>
      simp only [ruleListOfValue, exists_ok_mapM_iff, ruleTextOfValue_succeeds_iff,
        Value.array.injEq, exists_eq_left']
  | _ => simp [ruleListOfValue]

/-- The members of an object are read if their keys are texts and their values are read. -/
theorem membersOfValue_succeeds_iff
    {α : Type}
    {ofValue : ReadValue → Except Fault α} :
    (∃ entries, membersOfValue ofValue members = .ok entries) ↔
      ∀ member ∈ members,
        ∃ key, member.1 = some key ∧ ∃ result, ofValue member.2 = .ok result := by
  rw [membersOfValue, exists_ok_mapM_iff]
  refine forall₂_congr fun member _ => ?_
  obtain ⟨key?, value⟩ := member
  cases key? with
  | none => simp
  | some key => simp [exists_ok_map_iff]

theorem isPackageMember_iff
    {member : Option String × ReadValue} :
    (∃ package, member.1 = some package ∧ ∃ list, ruleListOfValue member.2 = .ok list) ↔
      IsPackageMember member := by
  simp only [ruleListOfValue_succeeds_iff]
  constructor
  · obtain ⟨package?, value⟩ := member
    rintro ⟨package, rfl, elements, rfl, areRules⟩
    exact .list areRules
  · rintro ⟨areRules⟩
    exact ⟨_, rfl, _, rfl, areRules⟩

theorem ruleTextsOfValue_succeeds_iff :
    (∃ rules, ruleTextsOfValue value = .ok rules) ↔ IsCategoryValue value := by
  cases value with
  | object members =>
      rw [ruleTextsOfValue, exists_ok_map_iff, membersOfValue_succeeds_iff]
      simp only [isPackageMember_iff]
      exact ⟨.object, fun isValue => by cases isValue; assumption⟩
  | null => exact ⟨fun _ => .null, fun _ => ⟨∅, rfl⟩⟩
  | boolean choice => exact ⟨fun _ => .boolean choice, fun _ => ⟨∅, rfl⟩⟩
  | array elements => exact ⟨fun _ => .array elements, fun _ => ⟨∅, rfl⟩⟩
  | string text? =>
      cases text? with
      | none =>
          constructor
          · rintro ⟨rules, isRead⟩
            contradiction
          · intro isValue
            cases isValue
      | some text => exact ⟨fun _ => .string text, fun _ => ⟨∅, rfl⟩⟩
  | number spelling =>
      rw [ruleTextsOfValue, exists_ok_map_iff, Value.found]
      · constructor
        · rintro ⟨found, isFound⟩
          cases hasValue : spelling.value? with
          | none =>
              rw [hasValue] at isFound
              contradiction
          | some number => exact .number hasValue
        · intro isValue
          cases isValue with
          | number hasValue => exact ⟨.number _, by rw [hasValue]⟩
      · intro members isObject
        contradiction

theorem IsDocumentMember.isCategoryValue
    {category : Category}
    (isMember : IsDocumentMember (some category.name, value)) :
    IsCategoryValue value := by
  generalize isSame : (some category.name, value) = member at isMember
  cases isMember with
  | category isValue =>
      cases (Prod.mk.inj isSame).2
      exact isValue
  | skipped noCategory =>
      have isName := Option.some.inj (Prod.mk.inj isSame).1
      exact absurd isName.symm (noCategory category)

/-- A member is read after others whatever they were. -/
theorem readMember_succeeds_iff
    (document : Document)
    (member : Option String × ReadValue) :
    (∃ next, readMember document member = .ok next) ↔ IsDocumentMember member := by
  obtain ⟨key?, value⟩ := member
  cases key? with
  | none => exact ⟨nofun, nofun⟩
  | some key =>
      cases named : (Named.ofName? key : Option Category) with
      | none =>
          have noCategory : ∀ category : Category, key ≠ category.name := by
            rintro category isName
            rw [ofName?_eq_some_iff.mpr isName] at named
            contradiction
          simp only [readMember, named]
          exact ⟨fun _ => .skipped noCategory value, fun _ => ⟨document, rfl⟩⟩
      | some category =>
          have isName := ofName?_eq_some_iff.mp named
          subst isName
          simp only [readMember, named, exists_ok_map_iff, ruleTextsOfValue_succeeds_iff]
          exact ⟨.category, IsDocumentMember.isCategoryValue⟩

end Values

/--
Bytes are read as a document if and only if they hold an object whose members fit.

So they follow the grammar of JSON throughout, with white space around the tokens and
nothing else after the object, also where they are skipped; and what is not skipped is
text in UTF-8, with numbers that have a value.  Whether a number close to the largest
double has one depends on how it is spelled, as it is read by way of a rounded power
of ten.
-/
theorem ofJson_succeeds_iff
    (bytes : List UInt8) :
    (∃ document, ofJson bytes = .ok document) ↔
      ∃ members : ReadMembers,
        HoldsValue (.object members) bytes ∧ ∀ member ∈ members, IsDocumentMember member := by
  constructor
  · rintro ⟨document, isRead⟩
    obtain ⟨members, completes, isDocument⟩ := exists_members isRead
    exact ⟨members, read_eq_complete_iff.mp completes,
      (exists_ok_foldlM_iff readMember_succeeds_iff empty).mp ⟨document, isDocument⟩⟩
  · rintro ⟨members, holds, areMembers⟩
    obtain ⟨document, isDocument⟩ :=
      (exists_ok_foldlM_iff readMember_succeeds_iff empty).mpr areMembers
    refine ⟨document, ?_⟩
    rw [ofJson, decode, read_eq_complete_iff.mpr holds]
    exact isDocument

example :
    (ofJson (encodeChars "\x7b\"x\":[\"\\ud800\"]\x7d".toList)).toOption = some empty := by
  decide +kernel

example :
    (ofJson (encodeChars "\x7b\"\\ud800\":[\"x\"]\x7d".toList)).toOption = none := by
  decide +kernel

/-- The nearest double is the largest one, but the rounded power of ten leads beyond it. -/
example :
    (ofJson (encodeChars
      "\x7b\"exclude\":\x7b\"x\":[1.7976931348623158e308]\x7d\x7d".toList)).toOption = none := by
  decide +kernel

end Document

end SplitTunnel
