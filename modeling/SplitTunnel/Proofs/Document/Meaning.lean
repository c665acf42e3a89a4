import SplitTunnel.Document.Json
import SplitTunnel.Proofs.Json.Grammar
import SplitTunnel.SortedMap.Lemmas

namespace SplitTunnel

/-!
# What the text of a document means

The meaning of a document's text is told from the members of its object, in the
order in which they are written.  Members that name no category mean nothing.  A
category means the last object that is given for it, and a package the last list
that is given for it there; but every list has to be one, also a list that is
replaced by a later one.
-/

namespace Document

open Json
open Text (encodeChars)

/-- The text for which a value stands in a list of rules. -/
def ruleText? : WrittenValue → Option String
  | .string text => some text
  | .boolean choice => some (toString choice)
  | .number spelling => some (String.ofList spelling.toChars)
  | _ => none

/-- The rule texts that a value lists, if it is an array of strings, numbers and booleans. -/
def ruleList? : WrittenValue → Option (List String)
  | .array elements => elements.mapM ruleText?
  | _ => none

/-- The spelling of an integer of 64 bits, signed or unsigned, with no minus before a zero. -/
def IsInteger (spelling : NumberText) : Prop :=
  ∃ value : Int, -2 ^ 63 ≤ value ∧ value < 2 ^ 64 ∧ spelling = .ofInt value

/-- The numbers of a document that are looked at: in place of a category, or of a rule. -/
inductive LooksAt (members : List (String × WrittenValue)) : NumberText → Prop where
  | category
      {category : Category}
      {spelling : NumberText}
      (isMember : (category.name, .number spelling) ∈ members) :
      LooksAt members spelling
  | rule
      {category : Category}
      {packages : List (String × WrittenValue)}
      {package : String}
      {elements : List WrittenValue}
      {spelling : NumberText}
      (isMember : (category.name, .object packages) ∈ members)
      (isListed : (package, .array elements) ∈ packages)
      (isElement : .number spelling ∈ elements) :
      LooksAt members spelling

section Values

theorem integer?_ofInt
    {value : Int}
    (atLeast : -2 ^ 63 ≤ value)
    (below : value < 2 ^ 64) :
    (NumberText.ofInt value).integer? = some value := by
  simp only [NumberText.integer?, NumberText.ofInt, NumberText.isWhole, List.isEmpty_nil,
    Option.isNone_none, Bool.and_true, if_true, Text.numeralValue_numeral, decide_eq_true_iff,
    Int.ofNat_eq_natCast]
  have pow63 : Nat.pow 2 63 = 2 ^ 63 := rfl
  have pow64 : Nat.pow 2 64 = 2 ^ 64 := rfl
  rw [pow63, pow64]
  split
  · rw [if_pos (by omega)]
    congr 1
    omega
  · rw [if_pos (by omega)]
    congr 1
    omega

theorem fullText_ofInt
    (value : Int) :
    (Number.integer value).fullText = (NumberText.ofInt value).toChars := by
  rw [Number.fullText, Int.toString_eq_repr, Int.repr_eq_if]
  simp only [NumberText.toChars, NumberText.ofInt, NumberText.exponentChars, List.append_nil,
    Decimal.signed, decide_eq_true_iff, Text.numeral]
  by_cases isNegative : value < 0
  · have magnitude : (-value).toNat = value.natAbs := by omega
    rw [if_neg (Int.not_le.mpr isNegative), if_pos isNegative, String.toList_append,
      Nat.toList_repr, magnitude]
    rfl
  · have magnitude : value.toNat = value.natAbs := by omega
    rw [if_pos (Int.not_lt.mp isNegative), if_neg isNegative, Nat.toList_repr, magnitude]

/-- The text of an integer is the text that was written for it. -/
theorem ruleTextOfValue_readBack
    {value : WrittenValue}
    (integers : ∀ spelling, value = .number spelling → IsInteger spelling) :
    (ruleTextOfValue (readBack value)).toOption = ruleText? value := by
  cases value with
  | number spelling =>
      obtain ⟨number, atLeast, below, rfl⟩ := integers spelling rfl
      simp only [readBack, ruleTextOfValue, Value.found, NumberText.value?,
        integer?_ofInt atLeast below, fullText_ofInt]
      rfl
  | _ => rfl

theorem readBackElements_eq_map
    (elements : List WrittenValue) :
    readBackElements elements = elements.map readBack := by
  induction elements with
  | nil => rfl
  | cons element rest inductionHypothesis => rw [readBackElements, inductionHypothesis]; rfl

theorem readBackMembers_eq_map
    (members : List (String × WrittenValue)) :
    readBackMembers members = members.map readBackMember := by
  induction members with
  | nil => rfl
  | cons member rest inductionHypothesis => rw [readBackMembers, inductionHypothesis]; rfl

end Values

section Sequences

variable {ε α β γ : Type}

theorem toOption_bind
    (first : Except ε α)
    (next : α → Except ε β) :
    (first >>= next).toOption = first.toOption >>= fun value => (next value).toOption := by
  cases first <;> rfl

theorem toOption_map
    (change : α → β)
    (result : Except ε α) :
    (result.map change).toOption = result.toOption.map change := by
  cases result <;> rfl

theorem exists_error_iff
    {result : Except ε α} :
    (∃ fault, result = .error fault) ↔ result.toOption = none := by
  cases result <;> simp [Except.toOption]

/-- Whether a sequence of readings succeeds, and with what, does not depend on the faults. -/
theorem toOption_mapM
    {read : α → Except ε β}
    {values : List α}
    {meaning : α → Option β}
    (same : ∀ value ∈ values, (read value).toOption = meaning value) :
    (values.mapM read).toOption = values.mapM meaning := by
  induction values with
  | nil => rfl
  | cons value rest inductionHypothesis =>
      have restSame := inductionHypothesis fun other member =>
        same other (List.mem_cons_of_mem _ member)
      rw [List.mapM_cons, List.mapM_cons, toOption_bind, same value (List.mem_cons_self ..)]
      simp only [toOption_bind, restSame]
      rfl

theorem toOption_foldlM
    {read : γ → α → Except ε γ}
    {values : List α}
    {meaning : γ → α → Option γ}
    (same : ∀ state, ∀ value ∈ values, (read state value).toOption = meaning state value)
    (start : γ) :
    (values.foldlM read start).toOption = values.foldlM meaning start := by
  induction values generalizing start with
  | nil => rfl
  | cons value rest inductionHypothesis =>
      have restSame := inductionHypothesis fun state other member =>
        same state other (List.mem_cons_of_mem _ member)
      rw [List.foldlM_cons, List.foldlM_cons, toOption_bind, same start value
        (List.mem_cons_self ..)]
      simp only [restSame]

/-- A sequence of readings fails if one of them does. -/
theorem mapM_eq_none_iff
    {meaning : α → Option β}
    {values : List α} :
    values.mapM meaning = none ↔ ∃ value ∈ values, meaning value = none := by
  induction values with
  | nil => simp
  | cons value rest inductionHypothesis =>
      rw [List.mapM_cons]
      cases isMeaning : meaning value with
      | none => simp [isMeaning]
      | some result =>
          cases restMeaning : rest.mapM meaning with
          | none => simp [isMeaning, ← inductionHypothesis, restMeaning]
          | some results => simp [isMeaning, ← inductionHypothesis, restMeaning]

end Sequences

/-- The rule texts of a package's last list, if every list is one. -/
def packageLists? (packages : List (String × WrittenValue)) :
    Option (List (String × List String)) :=
  packages.mapM fun entry => (ruleList? entry.2).map fun list => (entry.1, list)

/-- The rule texts that a value in place of a category means, if every list in it is one. -/
def ruleTexts? : WrittenValue → Option RuleTexts
  | .object packages => (packageLists? packages).map SortedMap.ofList
  | _ => some ∅

/-- The document after one more member, if every list in the member is one. -/
def withMember? (document : Document) (member : String × WrittenValue) : Option Document :=
  match Named.ofName? member.1 with
  | none => some document
  | some category => (ruleTexts? member.2).map (document.setCategory category)

section Meaning

variable {members packages : List (String × WrittenValue)} {document : Document}

theorem of_packageLists?_concat
    {entry : String × WrittenValue}
    {lists : List (String × List String)}
    (meaning : packageLists? (packages ++ [entry]) = some lists) :
    ∃ earlier list,
      packageLists? packages = some earlier ∧ ruleList? entry.2 = some list ∧
        lists = earlier ++ [(entry.1, list)] := by
  rw [packageLists?, List.mapM_append] at meaning
  obtain ⟨earlier, isEarlier, meaning⟩ := Option.bind_eq_some_iff.mp meaning
  rw [List.mapM_cons] at meaning
  cases isList : ruleList? entry.2 with
  | none => simp [isList] at meaning
  | some list =>
      simp [isList] at meaning
      exact ⟨earlier, list, isEarlier, rfl, meaning.symm⟩

/-- A package means the last list that is given for it. -/
theorem lookup_packageLists?
    {lists : List (String × List String)}
    (meaning : packageLists? packages = some lists)
    (package : String) :
    lists.reverse.lookup package = (packages.reverse.lookup package).bind ruleList? := by
  induction packages using List.reverseRecOn generalizing lists with
  | nil =>
      cases meaning
      rfl
  | append_singleton packages entry inductionHypothesis =>
      obtain ⟨earlier, list, isEarlier, isList, rfl⟩ := of_packageLists?_concat meaning
      obtain ⟨name, value⟩ := entry
      rw [List.reverse_concat, List.reverse_concat, List.lookup_cons, List.lookup_cons]
      cases package == name with
      | true => exact isList.symm
      | false => exact inductionHypothesis isEarlier

theorem ruleTexts?_eq_none_iff
    {value : WrittenValue} :
    ruleTexts? value = none ↔
      ∃ packages, value = .object packages ∧ ∃ entry ∈ packages, ruleList? entry.2 = none := by
  cases value with
  | object packages =>
      rw [ruleTexts?, Option.map_eq_none_iff, packageLists?, mapM_eq_none_iff]
      simp
  | _ => simp [ruleTexts?]

theorem get?_of_ruleTexts?
    {rules : RuleTexts}
    (meaning : ruleTexts? (.object packages) = some rules)
    (package : String) :
    rules.get? package = (packages.reverse.lookup package).bind ruleList? := by
  obtain ⟨lists, isLists, rfl⟩ := Option.map_eq_some_iff.mp meaning
  rw [SortedMap.get?_ofList]
  exact lookup_packageLists? isLists package

theorem ofName?_eq_some_iff
    {name : String}
    {category : Category} :
    Named.ofName? name = some category ↔ name = category.name := by
  have values : (Named.values : List Category) = [.excluded, .included] := rfl
  rw [Named.ofName?, values]
  constructor
  · intro found
    obtain ⟨isName, _⟩ := List.find?_eq_some_iff_append.mp found
    exact (eq_of_beq isName).symm
  · rintro rfl
    cases category <;> decide

/-- A document has no meaning if a list in one of its categories is none. -/
theorem foldlM_withMember?_eq_none_iff
    (start : Document) :
    members.foldlM withMember? start = none ↔
      ∃ category value, (Category.name category, value) ∈ members ∧ ruleTexts? value = none := by
  induction members generalizing start with
  | nil => simp
  | cons member rest inductionHypothesis =>
      obtain ⟨name, value⟩ := member
      rw [List.foldlM_cons]
      cases named : (Named.ofName? name : Option Category) with
      | none =>
          have notName : ∀ category : Category, category.name ≠ name := by
            intro category same
            rw [ofName?_eq_some_iff.mpr same.symm] at named
            contradiction
          have step : withMember? start (name, value) = some start := by rw [withMember?, named]
          simp [step, inductionHypothesis, notName]
      | some category =>
          have isName := ofName?_eq_some_iff.mp named
          cases meaning : ruleTexts? value with
          | none =>
              have step : withMember? start (name, value) = none := by
                simp [withMember?, named, meaning]
              simp only [step, Option.bind_eq_bind, Option.bind_none, true_iff]
              exact ⟨category, value, isName ▸ List.mem_cons_self .., meaning⟩
          | some rules =>
              have step :
                  withMember? start (name, value) =
                    some (start.setCategory category rules) := by
                simp [withMember?, named, meaning]
              simp only [step, Option.bind_eq_bind, Option.bind_some, inductionHypothesis]
              constructor
              · rintro ⟨other, bad, inRest, isBad⟩
                exact ⟨other, bad, List.mem_cons_of_mem _ inRest, isBad⟩
              · rintro ⟨other, bad, member, isBad⟩
                rcases List.mem_cons.mp member with isFirst | inRest
                · cases isFirst
                  rw [meaning] at isBad
                  contradiction
                · exact ⟨other, bad, inRest, isBad⟩

theorem category_setCategory
    (document : Document)
    (changed category : Category)
    (rules : RuleTexts) :
    (document.setCategory changed rules).category category =
      if category = changed then rules else document.category category := by
  cases changed <;> cases category <;> rfl

/-- A category means the last value that is given for it. -/
theorem category_of_foldlM
    (meaning : members.foldlM withMember? empty = some document)
    (category : Category) :
    (match members.reverse.lookup category.name with
      | none => some ∅
      | some value => ruleTexts? value) =
      some (document.category category) := by
  induction members using List.reverseRecOn generalizing document with
  | nil =>
      cases meaning
      cases category <;> rfl
  | append_singleton members member inductionHypothesis =>
      obtain ⟨name, value⟩ := member
      rw [List.foldlM_append] at meaning
      obtain ⟨earlier, isEarlier, meaning⟩ := Option.bind_eq_some_iff.mp meaning
      have before := inductionHypothesis isEarlier
      have step : withMember? earlier (name, value) = some document := by
        simpa using meaning
      rw [List.reverse_concat, List.lookup_cons]
      rw [withMember?] at step
      cases named : (Named.ofName? name : Option Category) with
      | none =>
          have notName : category.name ≠ name := by
            intro same
            rw [ofName?_eq_some_iff.mpr same.symm] at named
            contradiction
          rw [named] at step
          cases step
          rw [beq_false_of_ne notName]
          exact before
      | some changed =>
          rw [named] at step
          obtain ⟨rules, isRules, rfl⟩ := Option.map_eq_some_iff.mp step
          have isName := ofName?_eq_some_iff.mp named
          subst isName
          rw [category_setCategory]
          by_cases same : category = changed
          · rw [same, beq_self_eq_true, if_pos rfl]
            exact isRules
          · have notName : category.name ≠ changed.name := by
              cases category <;> cases changed <;> first | contradiction | decide
            rw [beq_false_of_ne notName, if_neg same]
            exact before

/-- A category lists nothing if the last value that is given for it is no object. -/
theorem category_eq_empty
    (meaning : members.foldlM withMember? empty = some document)
    {category : Category}
    (noObject : ∀ packages, members.reverse.lookup category.name ≠ some (.object packages)) :
    document.category category = ∅ := by
  have isMeant := category_of_foldlM meaning category
  cases last : members.reverse.lookup category.name with
  | none =>
      rw [last] at isMeant
      exact (Option.some.inj isMeant).symm
  | some value =>
      rw [last] at isMeant noObject
      cases value with
      | object packages => exact absurd rfl (noObject packages)
      | _ => exact (Option.some.inj isMeant).symm

/-- A category lists what the last object that is given for it means. -/
theorem get?_category
    (meaning : members.foldlM withMember? empty = some document)
    {category : Category}
    (last : members.reverse.lookup category.name = some (.object packages))
    (package : String) :
    (document.category category).get? package =
      (packages.reverse.lookup package).bind ruleList? := by
  have isMeant := category_of_foldlM meaning category
  rw [last] at isMeant
  exact get?_of_ruleTexts? isMeant package

end Meaning

section Reading

variable {members : List (String × WrittenValue)}

/-- The rule texts of a package are read as they are meant. -/
theorem ruleListOfValue_readBack
    {value : WrittenValue}
    (integers :
      ∀ elements spelling,
        value = .array elements → .number spelling ∈ elements → IsInteger spelling) :
    (ruleListOfValue (readBack value)).toOption = ruleList? value := by
  cases value with
  | array elements =>
      rw [readBack, readBackElements_eq_map, ruleListOfValue, List.mapM_map]
      apply toOption_mapM
      intro element member
      apply ruleTextOfValue_readBack
      rintro spelling rfl
      exact integers elements spelling rfl member
  | _ => rfl

/-- A value in place of a category is read as it is meant. -/
theorem ruleTextsOfValue_readBack
    {category : Category}
    {value : WrittenValue}
    (isMember : (category.name, value) ∈ members)
    (integers : ∀ spelling, LooksAt members spelling → IsInteger spelling) :
    (ruleTextsOfValue (readBack value)).toOption = ruleTexts? value := by
  cases value with
  | object packages =>
      rw [readBack, readBackMembers_eq_map, ruleTextsOfValue, toOption_map, membersOfValue,
        List.mapM_map, ruleTexts?, packageLists?]
      congr 1
      apply toOption_mapM
      rintro ⟨package, list⟩ isListed
      have isRead : (ruleListOfValue (readBack list)).toOption = ruleList? list :=
        ruleListOfValue_readBack fun elements spelling isArray isElement =>
          integers spelling (.rule isMember (isArray ▸ isListed) isElement)
      simp only [Function.comp_apply, readBackMember, toOption_map, isRead]
  | number spelling =>
      obtain ⟨number, atLeast, below, rfl⟩ := integers spelling (.category isMember)
      simp only [readBack, ruleTextsOfValue, Value.found, NumberText.value?,
        integer?_ofInt atLeast below]
      rfl
  | _ => rfl

/-- A document is read as its members mean it. -/
theorem ofValue_readBack
    (integers : ∀ spelling, LooksAt members spelling → IsInteger spelling) :
    (ofValue (readBack (.object members))).toOption = members.foldlM withMember? empty := by
  rw [readBack, readBackMembers_eq_map, ofValue, List.foldlM_map]
  apply toOption_foldlM
  rintro document ⟨name, value⟩ isMember
  simp only [readBackMember, readMember, withMember?]
  cases named : (Named.ofName? name : Option Category) with
  | none => rfl
  | some category =>
      have isName := ofName?_eq_some_iff.mp named
      subst isName
      simp only [toOption_map, ruleTextsOfValue_readBack isMember integers]

/-- The text of a document is read as its members mean it, whichever way it is written. -/
theorem toOption_ofJson
    {text : List Char}
    (writes : Writes (.object members) text)
    (integers : ∀ spelling, LooksAt members spelling → IsInteger spelling) :
    (ofJson (encodeChars text)).toOption = members.foldlM withMember? empty := by
  rw [ofJson, decode, writes.read_eq]
  exact ofValue_readBack integers

/--
The text of a document means what its members mean, whichever way it is written.

It is refused if and only if a category is given as an object in which a package
is given anything but an array of strings, numbers and booleans, also where a
later member takes its place.  Otherwise a category lists nothing if the last
value that is given for it is no object or none is given, and else what the last
object lists: for each package the last array that is given for it there.
-/
theorem ofJson_written
    {text : List Char}
    (writes : Writes (.object members) text)
    (integers : ∀ spelling, LooksAt members spelling → IsInteger spelling) :
    ((∃ fault, ofJson (encodeChars text) = .error fault) ↔
        ∃ category packages package value,
          (Category.name category, .object packages) ∈ members ∧
            (package, value) ∈ packages ∧ ruleList? value = none) ∧
      ∀ document, ofJson (encodeChars text) = .ok document →
        ∀ category,
          ((∀ packages, members.reverse.lookup category.name ≠ some (.object packages)) →
              document.category category = ∅) ∧
            ∀ packages,
              members.reverse.lookup category.name = some (.object packages) →
                ∀ package,
                  (document.category category).get? package =
                    (packages.reverse.lookup package).bind ruleList? := by
  have isRead := toOption_ofJson writes integers
  constructor
  · rw [exists_error_iff, isRead, foldlM_withMember?_eq_none_iff]
    constructor
    · rintro ⟨category, value, isMember, isBad⟩
      obtain ⟨packages, rfl, ⟨package, list⟩, isListed, isNone⟩ :=
        ruleTexts?_eq_none_iff.mp isBad
      exact ⟨category, packages, package, list, isMember, isListed, isNone⟩
    · rintro ⟨category, packages, package, list, isMember, isListed, isNone⟩
      exact ⟨category, .object packages, isMember,
        ruleTexts?_eq_none_iff.mpr ⟨packages, rfl, (package, list), isListed, isNone⟩⟩
  · intro document read category
    rw [read] at isRead
    exact ⟨category_eq_empty isRead.symm, fun packages => get?_category isRead.symm⟩

/-- An object with an escaped key, a repeated package and a large number is written. -/
theorem writes_escapedKey :
    Writes
      (.object
        [("exclude",
            .object [("a", .array [.boolean true]), ("a", .array [.number (.ofInt 7)])]),
          ("b", .number ⟨false, ['1'], [], some (false, ['9'])⟩)])
      "\x7b\"\\u0065xclude\" :\x7b\"a\":[true],\"a\":[7]\x7d,\"b\":1E+9\x7d".toList := by
  have seven : NumberText.ofInt 7 = ⟨false, ['7'], [], none⟩ := by decide
  have escaped : SpellsChar 'e' ['\\', 'u', '0', '0', '6', '5'] :=
    .unit (.digits (a := 0) (b := 0) (c := 6) (d := 5) ⟨by decide, .inl rfl⟩
      ⟨by decide, .inl rfl⟩ ⟨by decide, .inl rfl⟩ ⟨by decide, .inl rfl⟩)
  have xclude : SpellsChars "xclude".toList "xclude".toList := spellsChars_self (by simp)
  have key : SpellsToken (.string (some "exclude")) "\"\\u0065xclude\"".toList :=
    .string (show SpellsChars "exclude".toList _ from .cons escaped xclude)
  have space : IsBlank [' '] := by simp [IsBlank]
  have package : SpellsToken (.string (some "a")) ['"', 'a', '"'] :=
    .string (spellsChars_self (by simp))
  have skipped : SpellsToken (.string (some "b")) ['"', 'b', '"'] :=
    .string (spellsChars_self (by simp))
  have small : SpellsToken (.number ⟨false, ['7'], [], none⟩) ['7'] :=
    .number (show SpellsNumber _ (Decimal.signed false (['7'] ++ [] ++ [])) from
      .parts rfl (by simp) .absent .absent)
  have plus : SpellsExponent (some (false, ['9'])) ('E' :: (['+'] ++ ['9'])) :=
    .present (.inr rfl) (by simp) rfl
  have large :
      SpellsToken (.number ⟨false, ['1'], [], some (false, ['9'])⟩) ['1', 'E', '+', '9'] :=
    .number (show SpellsNumber _ (Decimal.signed false (['1'] ++ [] ++ _)) from
      .parts rfl (by simp) .absent plus)
  rw [seven]
  exact .tight .beginObject <| .tight key <| .cons space .colon <| .tight .beginObject <|
    .tight package <| .tight .colon <| .tight .beginArray <| .tight .trueWord <|
    .tight .endArray <| .tight .comma <| .tight package <| .tight .colon <|
    .tight .beginArray <| .tight small <| .tight .endArray <| .tight .endObject <|
    .tight .comma <| .tight skipped <| .tight .colon <| .tight large <| .tight .endObject <|
    .nil (List.forall_mem_nil _)

/-- A key may be escaped, a package replaced, and what is skipped may hold any number. -/
theorem ofJson_written_escapedKey :
    ∃ document,
      ofJson (encodeChars
            "\x7b\"\\u0065xclude\" :\x7b\"a\":[true],\"a\":[7]\x7d,\"b\":1E+9\x7d".toList) =
          .ok document ∧
        (document.category .excluded).get? "a" = some ["7"] ∧
        document.category .included = ∅ := by
  have excludedName : Category.excluded.name = "exclude" := rfl
  have includedName : Category.included.name = "include" := rfl
  obtain ⟨refused, meaning⟩ := ofJson_written writes_escapedKey (by
    rintro spelling
      (@⟨category, _, isMember⟩ | @⟨category, _, _, _, _, isMember, isListed, isElement⟩)
    · cases category <;> simp [excludedName, includedName] at isMember
    · cases category <;> simp [excludedName, includedName] at isMember
      subst isMember
      simp at isListed
      rcases isListed with ⟨-, rfl⟩ | ⟨-, rfl⟩ <;> simp at isElement
      exact ⟨7, by decide, by decide, isElement⟩)
  cases read :
      ofJson (encodeChars
        "\x7b\"\\u0065xclude\" :\x7b\"a\":[true],\"a\":[7]\x7d,\"b\":1E+9\x7d".toList) with
  | error fault =>
      rw [read] at refused
      obtain ⟨category, _, _, _, isMember, isListed, isNone⟩ := refused.mp ⟨fault, rfl⟩
      cases category <;> simp [excludedName, includedName] at isMember
      subst isMember
      simp at isListed
      rcases isListed with ⟨-, rfl⟩ | ⟨-, rfl⟩ <;> simp [ruleList?, ruleText?] at isNone
  | ok document =>
      obtain ⟨_, listed⟩ := meaning document read .excluded
      obtain ⟨nothing, _⟩ := meaning document read .included
      refine ⟨document, rfl, ?_, nothing ?_⟩
      · rw [listed _ rfl]
        decide
      · rintro packages isLast
        cases isLast

end Reading

end Document

end SplitTunnel
