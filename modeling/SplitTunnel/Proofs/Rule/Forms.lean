import SplitTunnel.Proofs.Text.Numerals
import SplitTunnel.Rule.Parser

namespace SplitTunnel

/-!
# The forms of rule texts

A text without blanks around it has a form if and only if it is the text of that
form, with a numeral for each of its digit runs.  So no text has two forms, and
the order in which forms are tried does not matter.
-/

namespace RuleForm

/-- The text of a range begins with a bracket, as what follows it is read as the range. -/
theorem range?_toText
    {low high : List Char}
    (lowNumeral : Text.isNumeral low = true)
    (highNumeral : Text.isNumeral high = true) :
    range? (low ++ '-' :: (high ++ [']'])) = some (.range low high) := by
  obtain ⟨lowNotEmpty, lowDigits⟩ := Text.isNumeral_iff.mp lowNumeral
  obtain ⟨highNotEmpty, highDigits⟩ := Text.isNumeral_iff.mp highNumeral
  simp only [range?, Text.takeWhile_numeral lowDigits (c := '-') rfl,
    Text.dropWhile_numeral lowDigits (c := '-') rfl,
    Text.takeWhile_numeral highDigits (c := ']') rfl,
    Text.dropWhile_numeral highDigits (c := ']') rfl]
  exact if_pos ⟨lowNotEmpty, highNotEmpty, trivial⟩

theorem of_range?
    {inner : List Char}
    {form : RuleForm}
    (read : range? inner = some form) :
    form.IsWritten ∧ form.toText = '[' :: inner := by
  rw [range?] at read
  dsimp only at read
  split at read
  · rename_i rest afterLow
    split at read
    · rename_i shape
      obtain ⟨lowNotEmpty, highNotEmpty, afterHigh⟩ := shape
      cases read
      have lowPart := List.takeWhile_append_dropWhile (p := Char.isDigit) (l := inner)
      have highPart := List.takeWhile_append_dropWhile (p := Char.isDigit) (l := rest)
      rw [afterLow] at lowPart
      rw [afterHigh] at highPart
      refine ⟨⟨?_, ?_⟩, ?_⟩
      · exact Text.isNumeral_iff.mpr ⟨lowNotEmpty, fun _ => List.mem_takeWhile_imp⟩
      · exact Text.isNumeral_iff.mpr ⟨highNotEmpty, fun _ => List.mem_takeWhile_imp⟩
      · rw [toText, highPart, lowPart]
    · contradiction
  · contradiction

theorem comparison?_eq_some_iff
    {operator : Comparison}
    {digits : List Char}
    {form : RuleForm} :
    comparison? operator digits = some form ↔
      Text.isNumeral digits = true ∧ form = .comparison operator digits := by
  rw [comparison?]
  split
  · rename_i isNumber
    simp [isNumber, eq_comm]
  · rename_i notNumber
    simp [notNumber]

/-- The text of a form that is written out has that form. -/
theorem ofText?_toText
    {form : RuleForm}
    (isWritten : form.IsWritten) :
    ofText? form.toText = some form := by
  cases form with
  | any => rfl
  | exact digits =>
      obtain ⟨first, rest, shape, isDigit⟩ := Text.exists_numeral isWritten
      rw [toText, ofText?.eq_def]
      -- No other form begins with a digit.
      split
      case h_7 => exact if_pos isWritten
      all_goals
        cases shape
        contradiction
  | comparison operator digits =>
      obtain ⟨first, rest, shape, isDigit⟩ := Text.exists_numeral isWritten
      have notEquals : first ≠ '=' := by
        rintro rfl
        contradiction
      have read : comparison? operator digits = some (.comparison operator digits) :=
        comparison?_eq_some_iff.mpr ⟨isWritten, rfl⟩
      cases operator with
      | greaterOrEqual => exact read
      | lessOrEqual => exact read
      | greater =>
          rw [← read, shape]
          simp [toText, Comparison.symbol, ofText?, notEquals]
      | less =>
          rw [← read, shape]
          simp [toText, Comparison.symbol, ofText?, notEquals]
  | range low high => exact range?_toText isWritten.1 isWritten.2

/-- A text that has a form is the text of that form, written out. -/
theorem of_ofText?
    {text : List Char}
    {form : RuleForm}
    (read : ofText? text = some form) :
    form.IsWritten ∧ form.toText = text := by
  rw [ofText?.eq_def] at read
  split at read
  · cases read
    exact ⟨trivial, rfl⟩
  · exact of_range? read
  iterate 4
    · obtain ⟨isNumber, rfl⟩ := comparison?_eq_some_iff.mp read
      exact ⟨isNumber, rfl⟩
  · split at read
    · rename_i isNumber
      cases read
      exact ⟨isNumber, rfl⟩
    · contradiction

/-- The texts that have a form are the texts of forms, written out. -/
theorem ofText?_eq_some_iff
    {text : List Char}
    {form : RuleForm} :
    ofText? text = some form ↔ form.IsWritten ∧ form.toText = text := by
  constructor
  · exact of_ofText?
  · rintro ⟨isWritten, rfl⟩
    exact ofText?_toText isWritten

/-- A text without a form is not the text of any form. -/
theorem ofText?_eq_none_iff
    {text : List Char} :
    ofText? text = none ↔ ∀ form : RuleForm, form.IsWritten → form.toText ≠ text := by
  rw [Option.eq_none_iff_forall_ne_some]
  constructor
  · intro unread form isWritten same
    exact unread form (ofText?_eq_some_iff.mpr ⟨isWritten, same⟩)
  · intro noForm form read
    obtain ⟨isWritten, same⟩ := ofText?_eq_some_iff.mp read
    exact noForm form isWritten same

/-- No form has an empty text. -/
theorem toText_ne_nil
    {form : RuleForm}
    (isWritten : form.IsWritten) :
    form.toText ≠ [] := by
  intro isEmpty
  have read := ofText?_toText isWritten
  rw [isEmpty] at read
  contradiction

end RuleForm

end SplitTunnel
