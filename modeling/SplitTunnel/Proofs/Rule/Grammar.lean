import SplitTunnel.Proofs.Rule.Forms
import SplitTunnel.Proofs.Text.Trimming

namespace SplitTunnel

/-!
# The grammar of rules

What a text is read as depends only on the text between the blanks around it.
The grammar says for each such text which rule it writes or why it writes none,
with digit runs of any length; reading a text follows it exactly.
-/

namespace Rule

/-- The numbers of a rule fit a version code, and a range is not inverted. -/
def IsBounded : Rule → Prop
  | .any => True
  | .exact version => version < 2 ^ 63
  | .comparison _ bound => bound < 2 ^ 63
  | .range low high => low ≤ high ∧ high < 2 ^ 63

/-- What a text without blanks around it is read as. -/
inductive IsReadAs : List Char → Except RuleFault Rule → Prop where
  | empty :
      IsReadAs [] (.error .empty)
  | any :
      IsReadAs ['*'] (.ok .any)
  | exact
      {digits : List Char}
      (isNumeral : Text.isNumeral digits = true)
      (fits : Text.numeralValue digits < 2 ^ 63) :
      IsReadAs digits (.ok (.exact (Text.numeralValue digits)))
  | exactOutOfRange
      {digits : List Char}
      (isNumeral : Text.isNumeral digits = true)
      (tooLarge : 2 ^ 63 ≤ Text.numeralValue digits) :
      IsReadAs digits (.error (.outOfRange (String.ofList digits)))
  | comparison
      (operator : Comparison)
      {digits : List Char}
      (isNumeral : Text.isNumeral digits = true)
      (fits : Text.numeralValue digits < 2 ^ 63) :
      IsReadAs (operator.symbol.toList ++ digits)
        (.ok (.comparison operator (Text.numeralValue digits)))
  | comparisonOutOfRange
      (operator : Comparison)
      {digits : List Char}
      (isNumeral : Text.isNumeral digits = true)
      (tooLarge : 2 ^ 63 ≤ Text.numeralValue digits) :
      IsReadAs (operator.symbol.toList ++ digits)
        (.error (.outOfRange (String.ofList (operator.symbol.toList ++ digits))))
  | range
      {low high : List Char}
      (lowIsNumeral : Text.isNumeral low = true)
      (highIsNumeral : Text.isNumeral high = true)
      (fits : Text.numeralValue high < 2 ^ 63)
      (inOrder : Text.numeralValue low ≤ Text.numeralValue high) :
      IsReadAs ('[' :: (low ++ '-' :: (high ++ [']'])))
        (.ok (.range (Text.numeralValue low) (Text.numeralValue high)))
  | rangeOutOfRange
      {low high : List Char}
      (lowIsNumeral : Text.isNumeral low = true)
      (highIsNumeral : Text.isNumeral high = true)
      (tooLarge : 2 ^ 63 ≤ Text.numeralValue low ∨ 2 ^ 63 ≤ Text.numeralValue high) :
      IsReadAs ('[' :: (low ++ '-' :: (high ++ [']'])))
        (.error (.outOfRange (String.ofList ('[' :: (low ++ '-' :: (high ++ [']']))))))
  | rangeInverted
      {low high : List Char}
      (lowIsNumeral : Text.isNumeral low = true)
      (highIsNumeral : Text.isNumeral high = true)
      (fits : Text.numeralValue low < 2 ^ 63)
      (inverted : Text.numeralValue high < Text.numeralValue low) :
      IsReadAs ('[' :: (low ++ '-' :: (high ++ [']'])))
        (.error (.invertedRange (String.ofList ('[' :: (low ++ '-' :: (high ++ [']']))))))
  | unrecognized
      {text : List Char}
      (notEmpty : text ≠ [])
      (noForm : ∀ form : RuleForm, form.IsWritten → form.toText ≠ text) :
      IsReadAs text (.error (.unrecognized (String.ofList text)))

/-- A number is refused if it does not fit a version code. -/
theorem largest_lt_iff
    {number : Nat} :
    VersionCode.largest < number ↔ 2 ^ 63 ≤ number := by
  rw [VersionCode.largest]
  omega

/-- A form that is written out is read as its text is. -/
theorem isReadAs_ofForm
    {form : RuleForm}
    (isWritten : form.IsWritten) :
    IsReadAs form.toText (ofForm form) := by
  cases form with
  | any => exact .any
  | exact digits =>
      simp only [ofForm, largest_lt_iff]
      split
      · rename_i tooLarge
        exact .exactOutOfRange isWritten tooLarge
      · rename_i fits
        exact .exact isWritten (Nat.lt_of_not_le fits)
  | comparison operator digits =>
      simp only [ofForm, largest_lt_iff]
      split
      · rename_i tooLarge
        exact .comparisonOutOfRange operator isWritten tooLarge
      · rename_i fits
        exact .comparison operator isWritten (Nat.lt_of_not_le fits)
  | range low high =>
      obtain ⟨lowIsNumeral, highIsNumeral⟩ := isWritten
      simp only [ofForm, largest_lt_iff]
      split
      · rename_i tooLarge
        exact .rangeOutOfRange lowIsNumeral highIsNumeral tooLarge
      · rename_i fit
        obtain ⟨lowFits, highFits⟩ := not_or.mp fit
        split
        · rename_i inverted
          exact .rangeInverted lowIsNumeral highIsNumeral (Nat.lt_of_not_le lowFits) inverted
        · rename_i inOrder
          exact .range lowIsNumeral highIsNumeral (Nat.lt_of_not_le highFits)
            (Nat.le_of_not_lt inOrder)

section Reading

variable {text : String} {trimmed : List Char} {answer : Except RuleFault Rule}

theorem parse_of_nil
    (isEmpty : Text.trim text.toList = []) :
    parse text = .error .empty := by
  rw [parse, isEmpty]

theorem parse_of_ne_nil
    (notEmpty : Text.trim text.toList ≠ []) :
    parse text =
      match RuleForm.ofText? (Text.trim text.toList) with
      | none => .error (.unrecognized (String.ofList (Text.trim text.toList)))
      | some form => ofForm form := by
  rw [parse]
  split
  · contradiction
  · rfl

/-- A text whose trimmed part has a form is read as the form is. -/
theorem parse_of_form
    (form : RuleForm)
    (isWritten : form.IsWritten)
    (isText : Text.trim text.toList = form.toText) :
    parse text = ofForm form := by
  rw [parse_of_ne_nil (isText ▸ RuleForm.toText_ne_nil isWritten), isText,
    RuleForm.ofText?_toText isWritten]

/-- A text is read as the grammar says of its trimmed part. -/
theorem isReadAs_parse
    (text : String) :
    IsReadAs (Text.trim text.toList) (parse text) := by
  by_cases isEmpty : Text.trim text.toList = []
  · rw [parse_of_nil isEmpty, isEmpty]
    exact .empty
  · rw [parse_of_ne_nil isEmpty]
    split
    · rename_i unread
      exact .unrecognized isEmpty (RuleForm.ofText?_eq_none_iff.mp unread)
    · rename_i form read
      obtain ⟨isWritten, isText⟩ := RuleForm.of_ofText? read
      rw [← isText]
      exact isReadAs_ofForm isWritten

/-- A text that is read as a rule has a trimmed part of which the grammar says so. -/
theorem isReadAs_of_parse
    {rule : Rule}
    (read : parse text = .ok rule) :
    IsReadAs (Text.trim text.toList) (.ok rule) := by
  rw [← read]
  exact isReadAs_parse text

/-- What the grammar says of the trimmed part of a text is what the text is read as. -/
theorem IsReadAs.parse_eq
    (reads : IsReadAs trimmed answer)
    (isTrimmed : Text.trim text.toList = trimmed) :
    parse text = answer := by
  cases reads with
  | empty => exact parse_of_nil isTrimmed
  | any => exact parse_of_form .any trivial isTrimmed
  | exact isNumeral fits =>
      rw [parse_of_form (.exact _) isNumeral isTrimmed]
      simp only [ofForm, largest_lt_iff]
      exact if_neg (Nat.not_le_of_lt fits)
  | exactOutOfRange isNumeral tooLarge =>
      rw [parse_of_form (.exact _) isNumeral isTrimmed]
      simp only [ofForm, largest_lt_iff]
      exact if_pos tooLarge
  | comparison operator isNumeral fits =>
      rw [parse_of_form (.comparison operator _) isNumeral isTrimmed]
      simp only [ofForm, largest_lt_iff]
      exact if_neg (Nat.not_le_of_lt fits)
  | comparisonOutOfRange operator isNumeral tooLarge =>
      rw [parse_of_form (.comparison operator _) isNumeral isTrimmed]
      simp only [ofForm, largest_lt_iff]
      exact if_pos tooLarge
  | range lowIsNumeral highIsNumeral fits inOrder =>
      have lowFits := Nat.lt_of_le_of_lt inOrder fits
      rw [parse_of_form (.range _ _) ⟨lowIsNumeral, highIsNumeral⟩ isTrimmed]
      simp only [ofForm, largest_lt_iff]
      rw [if_neg (not_or.mpr ⟨Nat.not_le_of_lt lowFits, Nat.not_le_of_lt fits⟩),
        if_neg (Nat.not_lt_of_le inOrder)]
  | rangeOutOfRange lowIsNumeral highIsNumeral tooLarge =>
      rw [parse_of_form (.range _ _) ⟨lowIsNumeral, highIsNumeral⟩ isTrimmed]
      simp only [ofForm, largest_lt_iff]
      exact if_pos tooLarge
  | rangeInverted lowIsNumeral highIsNumeral fits inverted =>
      have highFits := Nat.lt_trans inverted fits
      rw [parse_of_form (.range _ _) ⟨lowIsNumeral, highIsNumeral⟩ isTrimmed]
      simp only [ofForm, largest_lt_iff]
      rw [if_neg (not_or.mpr ⟨Nat.not_le_of_lt fits, Nat.not_le_of_lt highFits⟩), if_pos inverted]
      rfl
  | unrecognized notEmpty noForm =>
      rw [parse_of_ne_nil (isTrimmed ▸ notEmpty), isTrimmed,
        RuleForm.ofText?_eq_none_iff.mpr noForm]

/-- A rule that a text is read as is bounded. -/
theorem IsReadAs.isBounded
    {rule : Rule}
    (reads : IsReadAs trimmed (.ok rule)) :
    rule.IsBounded := by
  cases reads with
  | any => trivial
  | exact _ fits => exact fits
  | comparison _ _ fits => exact fits
  | range _ _ fits inOrder => exact ⟨inOrder, fits⟩

theorem parse_congr
    {other : String}
    (sameTrimmed : Text.trim text.toList = Text.trim other.toList) :
    parse text = parse other := by
  rw [parse, sameTrimmed, parse]

end Reading

/--
Reading a rule follows the grammar, and blanks around the text do not matter.

So a rule that was read holds no number beyond the largest version code, and its
range is not inverted.
-/
theorem parse_eq_iff_isReadAs
    (text : String) :
    Text.Trims text.toList (Text.trim text.toList) ∧
      (∀ answer, parse text = answer ↔ IsReadAs (Text.trim text.toList) answer) ∧
      (∀ rule, parse text = .ok rule → rule.IsBounded) ∧
      ∀ before after,
        Text.isAllBlank before = true →
          Text.isAllBlank after = true →
            parse (String.ofList (before ++ text.toList ++ after)) = parse text := by
  refine ⟨Text.trims_trim _, fun answer => ⟨?_, ?_⟩, ?_, ?_⟩
  · rintro rfl
    exact isReadAs_parse text
  · intro reads
    exact reads.parse_eq rfl
  · intro rule read
    have reads := isReadAs_parse text
    rw [read] at reads
    exact reads.isBounded
  · intro before after beforeBlank afterBlank
    apply parse_congr
    rw [String.toList_ofList]
    exact Text.trim_append_blanks beforeBlank afterBlank text.toList

end Rule

end SplitTunnel
