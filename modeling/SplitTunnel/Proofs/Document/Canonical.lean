import SplitTunnel.Proofs.Document.Parsed
import SplitTunnel.Proofs.Document.RoundTrip
import SplitTunnel.Proofs.Text.ByteOrder

namespace SplitTunnel

/-!
# One form for each document

A document is made by listing packages one after another.  What counts is the last
list of rule texts for each package in each category; how the document came to list
them cannot be seen in its bytes, and different documents have different bytes.
-/

/-- A package that is listed in a category with rule texts. -/
structure Insertion where
  category : Category
  package : String
  rules : List String
  deriving Repr, DecidableEq

namespace Insertion

/-- What an insertion is for: a later one for the same replaces it. -/
def subject (insertion : Insertion) : Category × String :=
  (insertion.category, insertion.package)

/-- The rule texts of the last insertion for a package in a category. -/
def last?
    (insertions : List Insertion)
    (category : Category)
    (package : String) :
    Option (List String) :=
  (insertions.reverse.find? fun insertion => insertion.subject == (category, package)).map rules

variable {insertions first second : List Insertion} {category : Category} {package : String}

theorem last?_concat
    (insertions : List Insertion)
    (insertion : Insertion)
    (category : Category)
    (package : String) :
    last? (insertions ++ [insertion]) category package =
      if insertion.subject = (category, package) then
        some insertion.rules
      else
        last? insertions category package := by
  rw [last?, List.reverse_append, List.reverse_singleton, List.singleton_append, List.find?_cons]
  by_cases isFor : insertion.subject = (category, package)
  · rw [beq_iff_eq.mpr isFor, if_pos isFor]
    rfl
  · rw [beq_false_of_ne isFor, if_neg isFor]
    rfl

/-- If nothing is listed twice, each insertion is the last one for its package. -/
theorem last?_eq_some_iff_mem
    (distinct : (insertions.map subject).Nodup)
    {rules : List String} :
    last? insertions category package = some rules ↔
      { category := category, package := package, rules := rules } ∈ insertions := by
  rw [last?, Option.map_eq_some_iff]
  constructor
  · rintro ⟨insertion, found, rfl⟩
    have isFor : insertion.subject = (category, package) := by simpa using List.find?_some found
    cases isFor
    exact List.mem_reverse.mp (List.mem_of_find?_eq_some found)
  · intro isListed
    cases found : insertions.reverse.find? fun other => other.subject == (category, package) with
    | none =>
        have notFor := List.find?_eq_none.mp found _ (List.mem_reverse.mpr isListed)
        exact absurd (beq_self_eq_true _) notFor
    | some insertion =>
        have isFor : insertion.subject = (category, package) := by simpa using List.find?_some found
        have foundListed := List.mem_reverse.mp (List.mem_of_find?_eq_some found)
        have same := List.inj_on_of_nodup_map distinct foundListed isListed isFor
        exact ⟨insertion, rfl, by rw [same]⟩

/-- Insertions for different packages may come in any order. -/
theorem last?_perm
    (reordered : first.Perm second)
    (distinct : (first.map subject).Nodup) :
    last? first category package = last? second category package := by
  have alsoDistinct := (reordered.map subject).nodup_iff.mp distinct
  apply Option.ext
  intro rules
  rw [last?_eq_some_iff_mem distinct, last?_eq_some_iff_mem alsoDistinct, reordered.mem_iff]

/-- An insertion that is replaced later makes no difference. -/
theorem last?_replaced
    {before after : List Insertion}
    {early late : Insertion}
    (isLater : late ∈ after)
    (isReplaced : late.subject = early.subject) :
    last? (before ++ early :: after) category package =
      last? (before ++ after) category package := by
  rw [last?, last?, List.reverse_append, List.reverse_append, List.reverse_cons,
    List.append_assoc, List.singleton_append, List.find?_append, List.find?_append, List.find?_cons]
  by_cases isFor : early.subject = (category, package)
  · cases found : after.reverse.find? fun other => other.subject == (category, package) with
    | none =>
        have notFor := List.find?_eq_none.mp found late (List.mem_reverse.mpr isLater)
        exact absurd (beq_iff_eq.mpr (isReplaced.trans isFor)) notFor
    | some insertion => rfl
  · rw [beq_false_of_ne isFor]

end Insertion

namespace Document

open Json

/-- The document that insertions make of the empty one, in their order. -/
def ofInsertions (insertions : List Insertion) : Document :=
  insertions.foldl
    (fun document insertion =>
      document.withRules insertion.category insertion.package insertion.rules)
    empty

section Listing

theorem get?_withRules
    (document : Document)
    (insertion : Insertion)
    (category : Category)
    (package : String) :
    ((document.withRules insertion.category insertion.package insertion.rules).category
        category).get? package =
      if insertion.subject = (category, package) then
        some insertion.rules
      else
        (document.category category).get? package := by
  rw [withRules, category_setCategory]
  by_cases sameCategory : category = insertion.category
  · rw [if_pos sameCategory, sameCategory]
    by_cases samePackage : package = insertion.package
    · have isFor : insertion.subject = (insertion.category, insertion.package) := rfl
      rw [samePackage, SortedMap.get?_insert_self, if_pos isFor]
    · rw [SortedMap.get?_insert_of_ne _ samePackage, if_neg]
      exact fun same => samePackage (congrArg Prod.snd same).symm
  · rw [if_neg sameCategory, if_neg]
    exact fun same => sameCategory (congrArg Prod.fst same).symm

/-- A document lists what the last insertion for each package carries. -/
theorem get?_ofInsertions
    (insertions : List Insertion)
    (category : Category)
    (package : String) :
    ((ofInsertions insertions).category category).get? package =
      Insertion.last? insertions category package := by
  induction insertions using List.reverseRecOn with
  | nil => cases category <;> rfl
  | append_singleton insertions insertion inductionHypothesis =>
      rw [ofInsertions, List.foldl_append, Insertion.last?_concat, ← inductionHypothesis]
      exact get?_withRules _ insertion category package

/-- Documents are the same if they list the same rule texts for each package. -/
theorem eq_iff_get?
    {first second : Document} :
    first = second ↔
      ∀ category package,
        (first.category category).get? package = (second.category category).get? package := by
  constructor
  · rintro rfl _ _
    rfl
  · intro same
    exact ext_category fun category => SortedMap.ext_get? (same category)

/-- Different documents have different bytes. -/
theorem toJson_injective : Function.Injective toJson := by
  intro first second same
  have isRead := isRead_toJson first
  rw [same, isRead_toJson second] at isRead
  exact (Except.ok.inj isRead).symm

end Listing

section Writing

/-- A package as it is written, with its rule texts. -/
def packageText (listed : String × List String) : List Char :=
  quote listed.1 ++ ':' :: '[' :: (List.intercalate [','] (listed.2.map quote) ++ [']'])

/-- Packages as they are written, one after another. -/
def packagesText (listed : List (String × List String)) : List Char :=
  '\x7b' :: (List.intercalate [','] (listed.map packageText) ++ ['\x7d'])

/-- What is written one after another with commas between is joined by commas. -/
theorem eq_intercalate_comma
    {α : Type}
    {written : List α → List Char}
    {single : α → List Char}
    (ofNil : written [] = [])
    (ofSingle : ∀ item, written [item] = single item)
    (ofMore : ∀ item next rest,
      written (item :: next :: rest) = single item ++ ',' :: written (next :: rest))
    (items : List α) :
    written items = List.intercalate [','] (items.map single) := by
  induction items with
  | nil => exact ofNil
  | cons item rest inductionHypothesis =>
      cases rest with
      | nil => simp [ofSingle, List.intercalate]
      | cons next others =>
          rw [ofMore, inductionHypothesis]
          simp [List.intercalate]

theorem compactElements_eq
    (elements : List WrittenValue) :
    compactElements elements = List.intercalate [','] (elements.map compact) :=
  eq_intercalate_comma rfl (fun _ => rfl) (fun _ _ _ => rfl) elements

theorem compactMembers_eq
    (members : List (String × WrittenValue)) :
    compactMembers members = List.intercalate [','] (members.map compactMember) :=
  eq_intercalate_comma rfl (fun _ => rfl) (fun _ _ _ => rfl) members

theorem compact_ruleTextsValue
    (rules : RuleTexts) :
    compact (ruleTextsValue rules) = packagesText rules.entries := by
  have sameText (listed : String × List String) :
      compactMember (listed.1, .array (listed.2.map .string)) = packageText listed := by
    rw [compactMember, compact, compactElements_eq, List.map_map]
    rfl
  rw [ruleTextsValue, compact, compactMembers_eq, List.map_map, packagesText]
  congr 4
  exact funext sameText

/-- Both categories as they are written: the excluded packages, then the included ones. -/
def categoriesText (excluded included : List (String × List String)) : List Char :=
  '\x7b' :: (quote "exclude" ++ ':' :: packagesText excluded ++
    ',' :: (quote "include" ++ ':' :: packagesText included) ++ ['\x7d'])

/-- The bytes of a document, character by character. -/
theorem toJson_eq
    (document : Document) :
    document.toJson =
      Text.encodeChars (categoriesText document.excluded.entries document.included.entries) := by
  rw [toJson, encode, toValue, compact, compactMembers, compactMembers, compactMember,
    compactMember, compact_ruleTextsValue, compact_ruleTextsValue]
  · rfl
  · simp

end Writing

/--
The bytes of a document say what it lists and nothing else.

Two lists of insertions give the same bytes if and only if, for each package in
each category, the last insertions carry the same rule texts or there is none.  So
insertions for different packages may change places, and an insertion that is
replaced later may be left out.  In the bytes the excluded packages come before the
included ones, and each package that is listed is written once, with the rule texts
of its last insertion, in strictly ascending order of the bytes of the packages.
-/
theorem toJson_ofInsertions
    (first second : List Insertion) :
    ((ofInsertions first).toJson = (ofInsertions second).toJson ↔
        ∀ category package,
          Insertion.last? first category package = Insertion.last? second category package) ∧
      (∃ listed : Category → List (String × List String),
        (ofInsertions first).toJson =
            Text.encodeChars (categoriesText (listed .excluded) (listed .included)) ∧
          ∀ category,
            (((listed category).map Prod.fst).Pairwise fun package other =>
                Text.encode package < Text.encode other) ∧
              ∀ package rules,
                (package, rules) ∈ listed category ↔
                  Insertion.last? first category package = some rules) ∧
      (first.Perm second → (first.map Insertion.subject).Nodup →
        (ofInsertions first).toJson = (ofInsertions second).toJson) ∧
      ∀ early, (∃ late ∈ second, late.subject = early.subject) →
        (ofInsertions (first ++ early :: second)).toJson =
          (ofInsertions (first ++ second)).toJson := by
  have sameBytes (one other : List Insertion) :
      (ofInsertions one).toJson = (ofInsertions other).toJson ↔
        ∀ category package,
          Insertion.last? one category package = Insertion.last? other category package := by
    rw [toJson_injective.eq_iff, eq_iff_get?]
    simp only [get?_ofInsertions]
  refine ⟨sameBytes first second, ?_, ?_, ?_⟩
  · refine ⟨fun category => ((ofInsertions first).category category).entries, toJson_eq _, ?_⟩
    intro category
    constructor
    · exact List.Pairwise.map Prod.fst (fun _ _ => Text.encode_lt_of_compare)
        ((ofInsertions first).category category).ascending
    · intro package rules
      rw [← SortedMap.get?_eq_some_iff, get?_ofInsertions]
  · intro reordered distinct
    exact (sameBytes first second).mpr fun _ _ => Insertion.last?_perm reordered distinct
  · rintro early ⟨late, isLater, isReplaced⟩
    exact (sameBytes _ _).mpr fun _ _ => Insertion.last?_replaced isLater isReplaced

/-- Two packages change places, and one of them was listed before with other texts. -/
theorem toJson_ofInsertions_changedPlaces :
    [Insertion.mk .included "b" ["1"], .mk .excluded "\u00e9" []].Perm
        [.mk .excluded "\u00e9" [], .mk .included "b" ["1"]] ∧
      (ofInsertions [.mk .included "b" ["1"], .mk .excluded "\u00e9" []]).toJson =
        (ofInsertions [.mk .excluded "\u00e9" [], .mk .included "b" ["1"]]).toJson ∧
      (ofInsertions
          [.mk .included "b" ["1"], .mk .excluded "\u00e9" [], .mk .included "b" ["*"],
            .mk .excluded "\u00e9" [], .mk .included "b" ["1"]]).toJson =
        (ofInsertions
          [.mk .included "b" ["1"], .mk .excluded "\u00e9" [], .mk .excluded "\u00e9" [],
            .mk .included "b" ["1"]]).toJson := by
  obtain ⟨_, _, reordered, replaced⟩ :=
    toJson_ofInsertions [.mk .included "b" ["1"], .mk .excluded "\u00e9" []]
      [.mk .excluded "\u00e9" [], .mk .included "b" ["1"]]
  have isSwap := List.Perm.swap (Insertion.mk .excluded "\u00e9" []) (.mk .included "b" ["1"]) []
  refine ⟨isSwap, reordered isSwap (by decide), ?_⟩
  exact replaced (.mk .included "b" ["*"]) ⟨.mk .included "b" ["1"], by decide, rfl⟩

end Document

end SplitTunnel
