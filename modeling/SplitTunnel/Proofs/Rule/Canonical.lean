import SplitTunnel.Proofs.Rule.Grammar

namespace SplitTunnel

/-!
# Canonical texts of rules

The text that is written for a rule is one of the texts of the rule: the one
without blanks around it and without zeros in front of its numbers.  It is read as
the rule again, so two texts that are read as rules have the same canonical text if
and only if they are read as the same rule.
-/

/-- A form whose digit runs have no zeros in front. -/
def RuleForm.withoutLeadingZeros : RuleForm → RuleForm
  | .any => .any
  | .exact digits => .exact (Text.withoutLeadingZeros digits)
  | .comparison operator digits => .comparison operator (Text.withoutLeadingZeros digits)
  | .range low high =>
      .range (Text.withoutLeadingZeros low) (Text.withoutLeadingZeros high)

namespace Rule

/-- No character that a canonical text has besides digits is blank. -/
theorem isBlank_of_isMark
    {c : Char}
    (isMark : c ∈ ['*', '>', '<', '=', '[', '-', ']']) :
    Text.isBlank c = false := by
  simp only [List.mem_cons, List.not_mem_nil, or_false] at isMark
  rcases isMark with rfl | rfl | rfl | rfl | rfl | rfl | rfl <;> decide

/-- The characters of a canonical text are digits and marks. -/
theorem isBlank_of_mem_toText
    (rule : Rule)
    {c : Char}
    (member : c ∈ rule.toText) :
    Text.isBlank c = false := by
  have inNumeral : ∀ {value}, c ∈ Text.numeral value → Text.isBlank c = false := by
    intro value isDigit
    exact Text.isBlank_of_isDigit
      ((Text.isNumeral_iff.mp (Text.isNumeral_numeral value)).2 c isDigit)
  cases rule with
  | any =>
      cases List.mem_singleton.mp member
      exact isBlank_of_isMark (by simp)
  | exact version => exact inNumeral member
  | comparison operator bound =>
      rcases List.mem_append.mp member with isSymbol | isDigit
      · have areMarks : operator.symbol.toList ⊆ ['*', '>', '<', '=', '[', '-', ']'] := by
          cases operator <;> simp [Comparison.symbol]
        exact isBlank_of_isMark (areMarks isSymbol)
      · exact inNumeral isDigit
  | range low high =>
      simp only [toText, List.mem_cons, List.mem_append, List.not_mem_nil, or_false] at member
      rcases member with rfl | isLow | rfl | isHigh | rfl
      · exact isBlank_of_isMark (by simp)
      · exact inNumeral isLow
      · exact isBlank_of_isMark (by simp)
      · exact inNumeral isHigh
      · exact isBlank_of_isMark (by simp)

/-- The canonical text of a bounded rule writes the rule. -/
theorem isReadAs_toText
    {rule : Rule}
    (isBounded : rule.IsBounded) :
    IsReadAs rule.toText (.ok rule) := by
  have isNumeral := Text.isNumeral_numeral
  have isValue := Text.numeralValue_numeral
  cases rule with
  | any => exact .any
  | exact version =>
      have reads := IsReadAs.exact (isNumeral version) (by rw [isValue]; exact isBounded)
      rw [isValue] at reads
      exact reads
  | comparison operator bound =>
      have reads :=
        IsReadAs.comparison operator (isNumeral bound) (by rw [isValue]; exact isBounded)
      rw [isValue] at reads
      exact reads
  | range low high =>
      have reads := IsReadAs.range (isNumeral low) (isNumeral high)
        (by rw [isValue]; exact isBounded.2) (by rw [isValue, isValue]; exact isBounded.1)
      rw [isValue, isValue] at reads
      exact reads

/-- A bounded rule is read back from its canonical text. -/
theorem parse_text_of_isBounded
    {rule : Rule}
    (isBounded : rule.IsBounded) :
    parse rule.text = .ok rule := by
  refine (isReadAs_toText isBounded).parse_eq ?_
  rw [text, String.toList_ofList]
  exact Text.trim_of_noBlank fun c => isBlank_of_mem_toText rule

/-- The canonical text of a rule is any text of the rule without the zeros in front of numbers. -/
theorem IsReadAs.exists_form
    {trimmed : List Char}
    {rule : Rule}
    (reads : IsReadAs trimmed (.ok rule)) :
    ∃ form : RuleForm,
      form.IsWritten ∧
        form.toText = trimmed ∧
        rule.toText = form.withoutLeadingZeros.toText := by
  have shortened : ∀ {digits : List Char}, Text.isNumeral digits = true →
      Text.numeral (Text.numeralValue digits) = Text.withoutLeadingZeros digits :=
    fun isNumeral => Text.numeral_numeralValue (Text.isNumeral_iff.mp isNumeral).2
  cases reads with
  | any => exact ⟨.any, trivial, rfl, rfl⟩
  | exact isNumeral fits => exact ⟨.exact _, isNumeral, rfl, shortened isNumeral⟩
  | comparison operator isNumeral fits =>
      refine ⟨.comparison operator _, isNumeral, rfl, ?_⟩
      rw [toText, shortened isNumeral]
      rfl
  | range lowIsNumeral highIsNumeral fits inOrder =>
      refine ⟨.range _ _, ⟨lowIsNumeral, highIsNumeral⟩, rfl, ?_⟩
      rw [toText, shortened lowIsNumeral, shortened highIsNumeral]
      rfl

/-- A form writes the same rule without the zeros in front of its numbers, if it writes one. -/
theorem toOption_ofForm_withoutLeadingZeros
    {form : RuleForm}
    (isWritten : form.IsWritten) :
    (ofForm form.withoutLeadingZeros).toOption = (ofForm form).toOption := by
  have sameValue : ∀ {digits : List Char}, Text.isNumeral digits = true →
      Text.numeralValue (Text.withoutLeadingZeros digits) = Text.numeralValue digits :=
    fun isNumeral => Text.numeralValue_withoutLeadingZeros (Text.isNumeral_iff.mp isNumeral).2
  -- Only the text of a fault shows the zeros.
  cases form with
  | any => rfl
  | exact digits =>
      simp only [RuleForm.withoutLeadingZeros, ofForm, sameValue isWritten]
      split <;> rfl
  | comparison operator digits =>
      simp only [RuleForm.withoutLeadingZeros, ofForm, sameValue isWritten]
      split <;> rfl
  | range low high =>
      simp only [RuleForm.withoutLeadingZeros, ofForm, sameValue isWritten.1,
        sameValue isWritten.2]
      split
      · rfl
      · split <;> rfl

/-- Two texts write one form, but for blanks around it and zeros in front of its numbers. -/
inductive Respells (text other : String) : Prop where
  | forms
      {form otherForm : RuleForm}
      (isWritten : form.IsWritten)
      (otherIsWritten : otherForm.IsWritten)
      (trims : Text.Trims text.toList form.toText)
      (otherTrims : Text.Trims other.toList otherForm.toText)
      (sameForm : form.withoutLeadingZeros = otherForm.withoutLeadingZeros)

/-- Texts that differ in spelling only are read as the same rule. -/
theorem Respells.parse?_eq
    {text other : String}
    (respells : Respells text other) :
    parse? text = parse? other := by
  cases respells with
  | forms isWritten otherIsWritten trims otherTrims sameForm =>
      rw [parse?, parse?, parse_of_form _ isWritten trims.eq_trim.symm,
        parse_of_form _ otherIsWritten otherTrims.eq_trim.symm,
        ← toOption_ofForm_withoutLeadingZeros isWritten, sameForm,
        toOption_ofForm_withoutLeadingZeros otherIsWritten]

/--
A rule that was read is read back from its canonical text.

That is the text it was read from, without the blanks around it and the zeros in
front of its numbers.  Nothing else is lost on the way, as two rules that were read
have the same canonical text only if they are the same rule.
-/
theorem parse_text_canonical
    {text : String}
    {rule : Rule}
    (read : parse text = .ok rule) :
    parse rule.text = .ok rule ∧
      (parse rule.text).map Rule.text = .ok rule.text ∧
      (∃ form : RuleForm,
        form.IsWritten ∧
          Text.Trims text.toList form.toText ∧
          rule.text = String.ofList form.withoutLeadingZeros.toText) ∧
      ∀ other otherRule,
        parse other = .ok otherRule → (rule.text = otherRule.text ↔ rule = otherRule) := by
  have isReadBack : ∀ {source : String} {found : Rule},
      parse source = .ok found →
        IsReadAs (Text.trim source.toList) (.ok found) ∧ parse found.text = .ok found := by
    intro source found isRead
    have reads := isReadAs_parse source
    rw [isRead] at reads
    exact ⟨reads, parse_text_of_isBounded reads.isBounded⟩
  obtain ⟨reads, readBack⟩ := isReadBack read
  obtain ⟨form, isWritten, isTrimmed, isShortened⟩ := reads.exists_form
  refine ⟨readBack, ?_, ⟨form, isWritten, ?_, congrArg String.ofList isShortened⟩, ?_⟩
  · rw [readBack]
    rfl
  · rw [isTrimmed]
    exact Text.trims_trim text.toList
  · intro other otherRule otherRead
    obtain ⟨_, otherReadBack⟩ := isReadBack otherRead
    constructor
    · intro sameText
      rw [sameText, otherReadBack] at readBack
      exact (Except.ok.inj readBack).symm
    · rintro rfl
      rfl

theorem parse_text_canonical_leadingZeros :
    parse " [007-0150]" = .ok (.range 7 150) ∧
      parse (text (.range 7 150)) = .ok (.range 7 150) ∧
      parse ">=007" = .ok (.comparison .greaterOrEqual 7) ∧
      text (.range 7 150) ≠ text (.comparison .greaterOrEqual 7) := by
  have read : parse " [007-0150]" = .ok (.range 7 150) := by decide +kernel
  have otherRead : parse ">=007" = .ok (.comparison .greaterOrEqual 7) := by decide +kernel
  obtain ⟨readBack, _, _, sameText⟩ := parse_text_canonical read
  refine ⟨read, readBack, otherRead, fun isSame => ?_⟩
  cases (sameText _ _ otherRead).mp isSame

end Rule

end SplitTunnel
