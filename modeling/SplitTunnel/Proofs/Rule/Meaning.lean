import SplitTunnel.Proofs.Rule.Grammar

namespace SplitTunnel

/-!
# What a rule text says of a version

A rule text speaks of versions without a rule being read from it: the star is
for all of them, a numeral for one, an operator and a numeral for one side, and
two numerals in brackets for a range.  The rule that is read accepts exactly the
versions the text speaks of, and a text that is no rule speaks of none.
-/

namespace Comparison

/-- A version lies on the side of a bound that an operator writes. -/
def Holds : Comparison → VersionCode → Int → Prop
  | .greater, version, bound => version > bound
  | .greaterOrEqual, version, bound => version ≥ bound
  | .less, version, bound => version < bound
  | .lessOrEqual, version, bound => version ≤ bound

theorem accepts_iff_holds
    {comparison : Comparison}
    {bound : Int}
    {version : VersionCode} :
    comparison.accepts bound version = true ↔ comparison.Holds version bound := by
  cases comparison <;> exact decide_eq_true_iff

end Comparison

namespace Rule

/-- A text without blanks around it speaks of a version. -/
inductive Admits (version : VersionCode) : List Char → Prop where
  | any :
      Admits version ['*']
  | exact
      {digits : List Char}
      (isNumeral : Text.isNumeral digits = true)
      (fits : Text.numeralValue digits < 2 ^ 63)
      (same : version = Text.numeralValue digits) :
      Admits version digits
  | comparison
      (operator : Comparison)
      {digits : List Char}
      (isNumeral : Text.isNumeral digits = true)
      (fits : Text.numeralValue digits < 2 ^ 63)
      (holds : operator.Holds version (Text.numeralValue digits)) :
      Admits version (operator.symbol.toList ++ digits)
  | range
      {low high : List Char}
      (lowIsNumeral : Text.isNumeral low = true)
      (highIsNumeral : Text.isNumeral high = true)
      (lowFits : Text.numeralValue low < 2 ^ 63)
      (highFits : Text.numeralValue high < 2 ^ 63)
      (atLeast : (Text.numeralValue low : Int) ≤ version)
      (atMost : version ≤ (Text.numeralValue high : Int)) :
      Admits version ('[' :: (low ++ '-' :: (high ++ [']'])))

theorem accepts_range
    {low high : Nat}
    {version : VersionCode} :
    (range low high).accepts version = true ↔ (low : Int) ≤ version ∧ version ≤ (high : Int) := by
  rw [accepts, Bool.and_eq_true, decide_eq_true_iff, decide_eq_true_iff]

/-- A rule that is read in a text accepts the versions that the text speaks of. -/
theorem IsReadAs.admits
    {text : List Char}
    {rule : Rule}
    {version : VersionCode}
    (reads : IsReadAs text (.ok rule))
    (accepted : rule.accepts version = true) :
    Admits version text := by
  cases reads with
  | any => exact .any
  | exact isNumeral fits => exact .exact isNumeral fits (eq_of_beq accepted)
  | comparison operator isNumeral fits =>
      exact .comparison operator isNumeral fits (Comparison.accepts_iff_holds.mp accepted)
  | range lowIsNumeral highIsNumeral fits inOrder =>
      obtain ⟨atLeast, atMost⟩ := accepts_range.mp accepted
      exact .range lowIsNumeral highIsNumeral (Nat.lt_of_le_of_lt inOrder fits) fits atLeast atMost

/-- A text that speaks of a version is read as a rule that accepts it. -/
theorem Admits.exists_rule
    {text : List Char}
    {version : VersionCode}
    (admits : Admits version text) :
    ∃ rule, IsReadAs text (.ok rule) ∧ rule.accepts version = true := by
  cases admits with
  | any => exact ⟨_, .any, rfl⟩
  | exact isNumeral fits same => exact ⟨_, .exact isNumeral fits, beq_iff_eq.mpr same⟩
  | comparison operator isNumeral fits holds =>
      exact ⟨_, .comparison operator isNumeral fits, Comparison.accepts_iff_holds.mpr holds⟩
  | range lowIsNumeral highIsNumeral lowFits highFits atLeast atMost =>
      have inOrder := Int.ofNat_le.mp (Int.le_trans atLeast atMost)
      exact ⟨_, .range lowIsNumeral highIsNumeral highFits inOrder,
        accepts_range.mpr ⟨atLeast, atMost⟩⟩

theorem parse?_eq_some_iff
    {text : String}
    {rule : Rule} :
    parse? text = some rule ↔ parse text = .ok rule := by
  rw [parse?]
  cases parse text <;> simp [Except.toOption]

/-- The rules among several texts are those that one of the texts is read as. -/
theorem mem_parseValid_iff
    {texts : List String}
    {rule : Rule} :
    rule ∈ parseValid texts ↔ ∃ text ∈ texts, parse text = .ok rule := by
  simp only [parseValid, List.mem_filterMap, parse?_eq_some_iff]

/-- The rules of several texts accept the versions that one of the texts speaks of. -/
theorem anyAccepts_parseValid_iff
    {texts : List String}
    {version : VersionCode} :
    anyAccepts (parseValid texts) version = true ↔
      ∃ text ∈ texts, Admits version (Text.trim text.toList) := by
  rw [anyAccepts, List.any_eq_true]
  constructor
  · rintro ⟨rule, member, accepted⟩
    obtain ⟨text, inTexts, read⟩ := mem_parseValid_iff.mp member
    exact ⟨text, inTexts, (isReadAs_of_parse read).admits accepted⟩
  · rintro ⟨text, inTexts, admits⟩
    obtain ⟨rule, reads, accepted⟩ := admits.exists_rule
    exact ⟨rule, mem_parseValid_iff.mpr ⟨text, inTexts, reads.parse_eq rfl⟩, accepted⟩

end Rule

end SplitTunnel
