import SplitTunnel.Proofs.Document.Meaning

namespace SplitTunnel

/-!
# Documents in values that were parsed before

A document may be read while a text is scanned, member by member as they are
written, or from a value that was parsed, whose members are met in the order of
their keys.  If no key repeats, the order does not matter: a category and a
package mean the same wherever they stand, and a list that is none is found
either way.
-/

namespace Json

/-- A value stands somewhere in a value, at any depth. -/
inductive Holds : WrittenValue → WrittenValue → Prop where
  | here (value : WrittenValue) :
      Holds value value
  | element
      {elements : List WrittenValue}
      {element inner : WrittenValue}
      (isElement : element ∈ elements)
      (holds : Holds element inner) :
      Holds (.array elements) inner
  | member
      {members : List (String × WrittenValue)}
      {key : String}
      {value inner : WrittenValue}
      (isMember : (key, value) ∈ members)
      (holds : Holds value inner) :
      Holds (.object members) inner

theorem sortedElements_eq_map
    (elements : List WrittenValue) :
    sortedElements elements = elements.map sorted := by
  induction elements with
  | nil => rfl
  | cons element rest inductionHypothesis => rw [sortedElements, inductionHypothesis]; rfl

theorem sortedMembers_eq_map
    (members : List (String × WrittenValue)) :
    sortedMembers members = members.map fun member => (member.1, sorted member.2) := by
  induction members with
  | nil => rfl
  | cons member rest inductionHypothesis =>
      obtain ⟨key, value⟩ := member
      rw [sortedMembers, inductionHypothesis, sortedMember]
      rfl

theorem lookup_map_value
    (change : α → β)
    (pairs : List (String × α))
    (key : String) :
    (pairs.map fun pair => (pair.1, change pair.2)).lookup key =
      (pairs.lookup key).map change := by
  induction pairs with
  | nil => rfl
  | cons pair rest inductionHypothesis =>
      obtain ⟨stored, value⟩ := pair
      simp only [List.map_cons, List.lookup_cons, inductionHypothesis]
      cases key == stored <;> rfl

variable {members : List (String × WrittenValue)} {key : String} {value : WrittenValue}

/-- A member of an object that was parsed is a member that was written for it. -/
theorem mem_sorted_iff
    (distinct : (members.map Prod.fst).Nodup) :
    (key, value) ∈ (SortedMap.ofList (sortedMembers members)).entries ↔
      ∃ original, (key, original) ∈ members ∧ sorted original = value := by
  have sortedDistinct : ((sortedMembers members).map Prod.fst).Nodup := by
    rw [sortedMembers_eq_map, List.map_map]
    exact distinct
  rw [SortedMap.mem_entries_ofList_iff sortedDistinct, sortedMembers_eq_map]
  simp only [List.mem_map, Prod.exists, Prod.mk.injEq]
  constructor
  · rintro ⟨_, original, isMember, rfl, isSorted⟩
    exact ⟨original, isMember, isSorted⟩
  · rintro ⟨original, isMember, isSorted⟩
    exact ⟨key, original, isMember, rfl, isSorted⟩

/-- A key of an object that was parsed has the last value that was written for it. -/
theorem lookup_sorted
    (members : List (String × WrittenValue))
    (key : String) :
    (SortedMap.ofList (sortedMembers members)).entries.reverse.lookup key =
      (members.reverse.lookup key).map sorted := by
  rw [SortedMap.lookup_entries_ofList, sortedMembers_eq_map, ← List.map_reverse, lookup_map_value]

/-- A number is parsed to itself, and nothing else is. -/
theorem sorted_eq_number_iff
    {spelling : NumberText} :
    sorted value = .number spelling ↔ value = .number spelling := by
  cases value <;> simp [sorted]

theorem sorted_eq_array_iff
    {elements : List WrittenValue} :
    sorted value = .array elements ↔
      ∃ originals, value = .array originals ∧ originals.map sorted = elements := by
  cases value <;> simp [sorted, sortedElements_eq_map]

theorem sorted_eq_object_iff :
    sorted value = .object members ↔
      ∃ originals,
        value = .object originals ∧
          (SortedMap.ofList (sortedMembers originals)).entries = members := by
  cases value <;> simp [sorted]

end Json

namespace Document

open Json
open Text (encodeChars)

variable {members packages : List (String × WrittenValue)} {value : WrittenValue}

@[simp]
theorem ruleText?_sorted (value : WrittenValue) : ruleText? (sorted value) = ruleText? value := by
  cases value <;> rfl

@[simp]
theorem ruleList?_sorted (value : WrittenValue) : ruleList? (sorted value) = ruleList? value := by
  cases value with
  | array elements =>
      rw [sorted, sortedElements_eq_map, ruleList?, ruleList?, List.mapM_map]
      congr 1
      funext element
      exact ruleText?_sorted element
  | _ => rfl

/-- The meaning of a value in place of a category does not depend on the order of its members. -/
theorem ruleTexts?_sorted
    (distinct : ∀ packages, value = .object packages → (packages.map Prod.fst).Nodup) :
    ruleTexts? (sorted value) = ruleTexts? value := by
  cases value with
  | object packages =>
      have sameFailure :
          ruleTexts? (sorted (.object packages)) = none ↔
            ruleTexts? (.object packages) = none := by
        simp only [ruleTexts?_eq_none_iff, sorted, Value.object.injEq, exists_eq_left',
          Prod.exists, mem_sorted_iff (distinct packages rfl)]
        constructor
        · rintro ⟨package, _, ⟨original, isListed, rfl⟩, isNone⟩
          exact ⟨package, original, isListed, by simpa using isNone⟩
        · rintro ⟨package, original, isListed, isNone⟩
          exact ⟨package, sorted original, ⟨original, isListed, rfl⟩, by simpa using isNone⟩
      cases meaning : ruleTexts? (.object packages) with
      | none => exact sameFailure.mpr meaning
      | some rules =>
          obtain ⟨sortedRules, sortedMeaning⟩ :
              ∃ sortedRules, ruleTexts? (sorted (.object packages)) = some sortedRules := by
            refine Option.ne_none_iff_exists'.mp fun isNone => ?_
            rw [sameFailure.mp isNone] at meaning
            contradiction
          rw [sortedMeaning]
          congr 1
          apply SortedMap.ext_get?
          intro package
          rw [sorted] at sortedMeaning
          rw [get?_of_ruleTexts? meaning, get?_of_ruleTexts? sortedMeaning, lookup_sorted]
          cases packages.reverse.lookup package <;> simp
  | _ => rfl

/-- Documents are the same if they list the same in each category. -/
theorem ext_category
    {first second : Document}
    (same : ∀ category, first.category category = second.category category) :
    first = second := by
  obtain ⟨firstExcluded, firstIncluded⟩ := first
  obtain ⟨secondExcluded, secondIncluded⟩ := second
  have sameExcluded : firstExcluded = secondExcluded := same .excluded
  have sameIncluded : firstIncluded = secondIncluded := same .included
  rw [sameExcluded, sameIncluded]

/-- The meaning of a document does not depend on the order of its members. -/
theorem foldlM_withMember?_sorted
    (distinct : (members.map Prod.fst).Nodup)
    (distinctPackages :
      ∀ key packages, (key, .object packages) ∈ members → (packages.map Prod.fst).Nodup) :
    (SortedMap.ofList (sortedMembers members)).entries.foldlM withMember? empty =
      members.foldlM withMember? empty := by
  have sameTexts :
      ∀ {key original},
        (key, original) ∈ members → ruleTexts? (sorted original) = ruleTexts? original := by
    intro key original isMember
    apply ruleTexts?_sorted
    rintro packages rfl
    exact distinctPackages key packages isMember
  have sameFailure :
      (SortedMap.ofList (sortedMembers members)).entries.foldlM withMember? empty = none ↔
        members.foldlM withMember? empty = none := by
    simp only [foldlM_withMember?_eq_none_iff, mem_sorted_iff distinct]
    constructor
    · rintro ⟨category, _, ⟨original, isMember, rfl⟩, isNone⟩
      exact ⟨category, original, isMember, sameTexts isMember ▸ isNone⟩
    · rintro ⟨category, original, isMember, isNone⟩
      exact ⟨category, _, ⟨original, isMember, rfl⟩, (sameTexts isMember).trans isNone⟩
  -- Both readings fail, or each category is what its last member means, in either order.
  cases meaning : members.foldlM withMember? empty with
  | none => exact sameFailure.mpr meaning
  | some document =>
      obtain ⟨other, sortedMeaning⟩ :
          ∃ other,
            (SortedMap.ofList (sortedMembers members)).entries.foldlM withMember? empty =
              some other := by
        refine Option.ne_none_iff_exists'.mp fun isNone => ?_
        rw [sameFailure.mp isNone] at meaning
        contradiction
      rw [sortedMeaning]
      congr 1
      apply ext_category
      intro category
      have isMeant := category_of_foldlM meaning category
      have isMeantSorted := category_of_foldlM sortedMeaning category
      rw [lookup_sorted] at isMeantSorted
      cases last : members.reverse.lookup category.name with
      | none =>
          rw [last] at isMeant isMeantSorted
          exact Option.some.inj (isMeantSorted.symm.trans isMeant)
      | some original =>
          have isMember : (category.name, original) ∈ members := by
            obtain ⟨_, _, split, _⟩ := List.lookup_eq_some_iff.mp last
            exact List.mem_reverse.mp (split ▸ List.mem_append_right _ (List.mem_cons_self ..))
          rw [last] at isMeant isMeantSorted
          have isMeantSorted : ruleTexts? (sorted original) = some (other.category category) :=
            isMeantSorted
          rw [sameTexts isMember] at isMeantSorted
          exact Option.some.inj (isMeantSorted.symm.trans isMeant)

/-- Every number that is looked at in a value that was parsed stands in what was written. -/
theorem LooksAt.ofSorted
    {spelling : NumberText}
    (distinct :
      ∀ inner, Holds (.object members) (.object inner) → (inner.map Prod.fst).Nodup)
    (looks : LooksAt (SortedMap.ofList (sortedMembers members)).entries spelling) :
    Holds (.object members) (.number spelling) := by
  have membersDistinct := distinct members (.here _)
  cases looks with
  | category isMember =>
      obtain ⟨original, isOriginal, isNumber⟩ := (mem_sorted_iff membersDistinct).mp isMember
      rw [sorted_eq_number_iff] at isNumber
      exact .member isOriginal (isNumber ▸ .here _)
  | rule isMember isListed isElement =>
      obtain ⟨original, isOriginal, isObject⟩ := (mem_sorted_iff membersDistinct).mp isMember
      obtain ⟨originals, rfl, rfl⟩ := sorted_eq_object_iff.mp isObject
      have packagesDistinct := distinct originals (.member isOriginal (.here _))
      obtain ⟨list, isOriginalList, isArray⟩ := (mem_sorted_iff packagesDistinct).mp isListed
      obtain ⟨elements, rfl, rfl⟩ := sorted_eq_array_iff.mp isArray
      obtain ⟨element, isOriginalElement, isNumber⟩ := List.mem_map.mp isElement
      rw [sorted_eq_number_iff] at isNumber
      exact .member isOriginal (.member isOriginalList
        (.element isOriginalElement (isNumber ▸ .here _)))

/-- Every number that is looked at stands in the value. -/
theorem LooksAt.holds
    {spelling : NumberText}
    (looks : LooksAt members spelling) :
    Holds (.object members) (.number spelling) := by
  cases looks with
  | category isMember => exact .member isMember (.here _)
  | rule isMember isListed isElement =>
      exact .member isMember (.member isListed (.element isElement (.here _)))

/--
A document is read from a text as from the value that was parsed from the text.

The members of the value may be written in any order and at any depth.  If no key
repeats in any object and its numbers are integers of 64 bits, both readings fail
or both give the same document.
-/
theorem ofJson_agrees_ofParsed
    {text : List Char}
    (writes : Writes value text)
    (distinct : ∀ members, Holds value (.object members) → (members.map Prod.fst).Nodup)
    (integers : ∀ spelling, Holds value (.number spelling) → IsInteger spelling) :
    (∃ fault other,
        ofJson (encodeChars text) = .error fault ∧ ofParsed value = .error other) ∨
      ∃ document,
        ofJson (encodeChars text) = .ok document ∧ ofParsed value = .ok document := by
  have isRead : ofJson (encodeChars text) = ofValue (readBack value) := by
    rw [ofJson, decode, writes.read_eq]
  rw [isRead, ofParsed]
  cases value with
  | object members =>
      have packagesDistinct :
          ∀ key packages, (key, .object packages) ∈ members → (packages.map Prod.fst).Nodup :=
        fun _ packages isMember => distinct packages (.member isMember (.here _))
      have same :
          (ofValue (readBack (sorted (.object members)))).toOption =
            (ofValue (readBack (.object members))).toOption := by
        rw [sorted, ofValue_readBack fun _ looks => integers _ (looks.ofSorted distinct),
          ofValue_readBack fun _ looks => integers _ looks.holds]
        exact foldlM_withMember?_sorted (distinct members (.here _)) packagesDistinct
      cases read : ofValue (readBack (.object members)) with
      | error fault =>
          rw [read] at same
          obtain ⟨other, failed⟩ := exists_error_iff.mpr same
          exact Or.inl ⟨fault, other, rfl, failed⟩
      | ok document =>
          rw [read] at same
          cases parsed : ofValue (readBack (sorted (.object members))) with
          | error other =>
              rw [parsed] at same
              cases same
          | ok other =>
              rw [parsed] at same
              cases same
              exact Or.inr ⟨document, rfl, rfl⟩
  | _ => exact Or.inl ⟨_, _, rfl, rfl⟩

/-- A value whose members do not stand in the order of their keys, and with a nested number. -/
def includeFirst : WrittenValue :=
  .object [("include", .object [("q", .array [.number (.ofInt 7)])]), ("exclude", .null)]

theorem writes_includeFirst :
    Writes includeFirst "\x7b\"include\": \x7b\"q\":[7]\x7d,\"exclude\":null\x7d".toList := by
  have seven : NumberText.ofInt 7 = ⟨false, ['7'], [], none⟩ := by decide
  have key : ∀ name : String, (∀ c ∈ name.toList, c ≠ '"' ∧ c ≠ '\\' ∧ ¬c < ' ') →
      SpellsToken (.string (some name)) ('"' :: (name.toList ++ ['"'])) :=
    fun _ ordinary => .string (spellsChars_self ordinary)
  have number : SpellsToken (.number ⟨false, ['7'], [], none⟩) ['7'] :=
    .number (show SpellsNumber _ (Decimal.signed false (['7'] ++ [] ++ [])) from
      .parts rfl (by simp) .absent .absent)
  rw [includeFirst, seven]
  exact .tight .beginObject <| .tight (key "include" (by simp)) <| .tight .colon <|
    .cons (show IsBlank [' '] by simp [IsBlank]) .beginObject <| .tight (key "q" (by simp)) <|
    .tight .colon <| .tight .beginArray <| .tight number <| .tight .endArray <|
    .tight .endObject <| .tight .comma <| .tight (key "exclude" (by simp)) <| .tight .colon <|
    .tight .null <| .tight .endObject <| .nil (List.forall_mem_nil _)

theorem ofJson_agrees_ofParsed_includeFirst :
    ∃ document,
      ofJson (encodeChars "\x7b\"include\": \x7b\"q\":[7]\x7d,\"exclude\":null\x7d".toList) =
          .ok document ∧
        ofParsed includeFirst = .ok document ∧
        (document.category .included).get? "q" = some ["7"] := by
  have parsed : ofParsed includeFirst = .ok (empty.withRules .included "q" ["7"]) := by
    decide +kernel
  have outcome := ofJson_agrees_ofParsed writes_includeFirst (by
    rintro members holds
    rcases holds with _ | _ | ⟨isMember, holds⟩
    · decide
    · simp at isMember
      rcases isMember with ⟨rfl, rfl⟩ | ⟨rfl, rfl⟩
      · rcases holds with _ | _ | ⟨isListed, holds⟩
        · decide
        · simp at isListed
          obtain ⟨rfl, rfl⟩ := isListed
          rcases holds with _ | ⟨isElement, holds⟩
          simp at isElement
          subst isElement
          cases holds
      · cases holds) (by
    rintro spelling holds
    rcases holds with _ | _ | ⟨isMember, holds⟩
    simp at isMember
    rcases isMember with ⟨rfl, rfl⟩ | ⟨rfl, rfl⟩
    · rcases holds with _ | _ | ⟨isListed, holds⟩
      simp at isListed
      obtain ⟨rfl, rfl⟩ := isListed
      rcases holds with _ | ⟨isElement, holds⟩
      simp at isElement
      subst isElement
      cases holds
      exact ⟨7, by decide, by decide, rfl⟩
    · cases holds)
  rcases outcome with ⟨fault, other, _, failed⟩ | ⟨document, read, agrees⟩
  · rw [parsed] at failed
    contradiction
  · rw [parsed] at agrees
    cases agrees
    exact ⟨_, read, parsed, by decide⟩

end Document

end SplitTunnel
