import SplitTunnel.Proofs.Json.Grammar

namespace SplitTunnel.Json

/-!
# Where a value ends

A token that was scanned is scanned alike whatever follows it, unless it is a
number at the very end, which may go on.  So a text that is read as any other value
has no more to read: white space may follow, and with anything else after it the
text is no longer read as a value.
-/

section Tokens

variable {bytes rest : List UInt8}

/-- A string that was closed is closed there whatever follows. -/
theorem scanString_append
    {pieces : List Piece}
    (scanned : scanString .plain bytes = some (pieces, rest))
    (more : List UInt8) :
    scanString .plain (bytes ++ more) = some (pieces, rest ++ more) := by
  obtain ⟨body, holds, rfl⟩ := holdsPieces_of_scanString scanned
  rw [List.append_assoc, List.cons_append, holds.scanString_eq]

/-- Digits that end before the end of a text are the same whatever follows the text. -/
theorem afterDigits_append
    (ends : afterDigits bytes ≠ [])
    (more : List UInt8) :
    leadingDigits (bytes ++ more) = leadingDigits bytes ∧
      afterDigits (bytes ++ more) = afterDigits bytes ++ more := by
  induction bytes with
  | nil => exact absurd rfl ends
  | cons byte bytes inductionHypothesis =>
      simp only [leadingDigits, afterDigits, List.cons_append, List.takeWhile_cons,
        List.dropWhile_cons] at ends inductionHypothesis ⊢
      cases isDigit : isDigitByte byte with
      | false => exact ⟨rfl, rfl⟩
      | true =>
          rw [isDigit] at ends
          obtain ⟨leading, after⟩ := inductionHypothesis ends
          exact ⟨congrArg (Char.ofUInt8 byte :: ·) leading, after⟩

theorem scanFraction_append
    {fraction : List Char}
    (scanned : scanFraction bytes = some (fraction, rest))
    (ends : rest ≠ [])
    (more : List UInt8) :
    scanFraction (bytes ++ more) = some (fraction, rest ++ more) := by
  cases bytes with
  | nil =>
      cases scanned
      exact absurd rfl ends
  | cons byte bytes =>
      rw [List.cons_append]
      rw [scanFraction] at scanned ⊢
      split at scanned
      · rename_i isPoint
        rw [if_pos isPoint]
        split at scanned
        · contradiction
        · rename_i hasDigits
          cases scanned
          obtain ⟨leading, after⟩ := afterDigits_append ends more
          rw [leading, if_neg hasDigits, after]
      · rename_i notPoint
        cases scanned
        rw [if_neg notPoint]
        rfl

theorem scanExponentSign_append
    (notEmpty : bytes ≠ [])
    (more : List UInt8) :
    scanExponentSign (bytes ++ more) =
      ((scanExponentSign bytes).1, (scanExponentSign bytes).2 ++ more) := by
  cases bytes with
  | nil => exact absurd rfl notEmpty
  | cons byte bytes =>
      rw [List.cons_append, scanExponentSign, scanExponentSign]
      split
      · rfl
      · split <;> rfl

theorem scanExponent_append
    {exponent? : Option (Bool × List Char)}
    (scanned : scanExponent bytes = some (exponent?, rest))
    (ends : rest ≠ [])
    (more : List UInt8) :
    scanExponent (bytes ++ more) = some (exponent?, rest ++ more) := by
  cases bytes with
  | nil =>
      cases scanned
      exact absurd rfl ends
  | cons byte bytes =>
      rw [List.cons_append]
      rw [scanExponent] at scanned ⊢
      split at scanned
      · rename_i isLetter
        rw [if_pos isLetter]
        dsimp only at scanned ⊢
        split at scanned
        · contradiction
        · rename_i hasDigits
          cases scanned
          have notEmpty : bytes ≠ [] := by
            rintro rfl
            exact hasDigits rfl
          obtain ⟨leading, after⟩ := afterDigits_append ends more
          rw [scanExponentSign_append notEmpty, leading, if_neg hasDigits, after]
      · rename_i notLetter
        cases scanned
        rw [if_neg notLetter]
        rfl

/-- A number that ends before the end of a text ends there whatever follows the text. -/
theorem scanMagnitude_append
    {negative : Bool}
    {token : Token}
    (scanned : scanMagnitude negative bytes = some (token, rest))
    (ends : rest ≠ [])
    (more : List UInt8) :
    scanMagnitude negative (bytes ++ more) = some (token, rest ++ more) := by
  rw [scanMagnitude] at scanned
  split at scanned
  · rename_i isWhole
    obtain ⟨⟨fraction, afterFraction⟩, fractionScanned, scannedRest⟩ :=
      Option.bind_eq_some_iff.mp scanned
    obtain ⟨⟨exponent?, afterExponent⟩, exponentScanned, same⟩ :=
      Option.map_eq_some_iff.mp scannedRest
    cases same
    -- What is left at the end was left after each part before it.
    have fractionEnds : afterFraction ≠ [] := by
      rintro rfl
      exact ends (List.eq_nil_of_length_eq_zero
        (Nat.le_zero.mp (scanExponent_shorter exponentScanned)))
    have wholeEnds : afterDigits bytes ≠ [] := by
      intro isEmpty
      have isShorter := scanFraction_shorter fractionScanned
      rw [isEmpty] at isShorter
      exact fractionEnds (List.eq_nil_of_length_eq_zero (Nat.le_zero.mp isShorter))
    obtain ⟨leading, after⟩ := afterDigits_append wholeEnds more
    rw [scanMagnitude, leading, if_pos isWhole, after,
      scanFraction_append fractionScanned fractionEnds, Option.bind_some,
      scanExponent_append exponentScanned ends]
    rfl
  · contradiction

/-- A literal is scanned whatever follows it. -/
theorem scanLiteral_word
    {literal : String × Token}
    (member : literal ∈ literals)
    (rest : List UInt8) :
    scanLiteral (Text.encode literal.1 ++ rest) = some (literal.2, rest) := by
  simp only [literals, List.mem_cons, List.not_mem_nil, or_false] at member
  rcases member with rfl | rfl | rfl <;> rfl

theorem scanLiteral_append
    {token : Token}
    (scanned : scanLiteral bytes = some (token, rest))
    (more : List UInt8) :
    scanLiteral (bytes ++ more) = some (token, rest ++ more) := by
  obtain ⟨literal, member, found⟩ := List.exists_of_findSome?_eq_some scanned
  obtain ⟨after, starts, same⟩ := Option.map_eq_some_iff.mp found
  cases same
  rw [append_of_isPrefixOf? starts, List.append_assoc]
  exact scanLiteral_word member (rest ++ more)

/-- A token is scanned alike whatever follows, unless it is a number at the end of the text. -/
theorem scanToken_append
    {byte : UInt8}
    {token : Token}
    (scanned : scanToken byte bytes = some (token, rest))
    (ends : ∀ spelling, token = .number spelling → rest ≠ [])
    (more : List UInt8) :
    scanToken byte (bytes ++ more) = some (token, rest ++ more) := by
  have numberEnds
      {negative : Bool}
      {magnitude : List UInt8}
      (found : scanMagnitude negative magnitude = some (token, rest)) :
      scanMagnitude negative (magnitude ++ more) = some (token, rest ++ more) := by
    obtain ⟨spelling, _, isNumber, _⟩ := spellsNumber_of_scanMagnitude found
    exact scanMagnitude_append found (ends spelling isNumber) more
  rw [scanToken] at scanned ⊢
  cases isPunctuation : punctuation? byte with
  | some mark =>
      rw [isPunctuation] at scanned
      cases scanned
      rfl
  | none =>
      rw [isPunctuation] at scanned
      dsimp only at scanned ⊢
      split at scanned
      · rename_i isQuote
        obtain ⟨⟨pieces, after⟩, scannedString, same⟩ := Option.map_eq_some_iff.mp scanned
        cases same
        rw [if_pos isQuote, scanString_append scannedString]
        rfl
      · rename_i notQuote
        rw [if_neg notQuote]
        split at scanned
        · rename_i isMinus
          rw [if_pos isMinus]
          exact numberEnds scanned
        · rename_i notMinus
          rw [if_neg notMinus]
          split at scanned
          · rename_i isDigit
            rw [if_pos isDigit]
            exact numberEnds scanned
          · rename_i notDigit
            rw [if_neg notDigit]
            exact scanLiteral_append scanned more

/-- A text without tokens is white space. -/
theorem tokens_eq_nil_iff :
    tokens bytes = [] ↔ ∀ byte ∈ bytes, isSpace byte = true := by
  fun_induction tokens bytes with
  | case1 => simp
  | case2 byte bytes isSpace inductionHypothesis =>
      rw [inductionHypothesis, List.forall_mem_cons]
      exact (and_iff_right isSpace).symm
  | case3 byte bytes notSpace unscanned => simp [notSpace]
  | case4 byte bytes notSpace token rest scanned => simp [notSpace]

end Tokens

namespace Reading

variable {state : ReadState} {first : List Token} {value : ReadValue}

/-- Nothing may follow a value. -/
theorem resume_afterComplete
    (completes : resume state first = .complete value)
    {more : List Token}
    (notEmpty : more ≠ []) :
    resume state (first ++ more) = .broken (some value) := by
  induction first generalizing state with
  | nil =>
      cases of_atEnd completes
      cases more with
      | nil => exact absurd rfl notEmpty
      | cons token more => rfl
  | cons token first inductionHypothesis =>
      obtain ⟨next, stepped, further⟩ := step_of_complete completes
      rw [List.cons_append, resume, stepped]
      exact inductionHypothesis further

end Reading

variable {bytes : List UInt8} {value : ReadValue}

/-- Tokens that make a value other than a number are the same whatever follows. -/
theorem tokens_append
    {state : ReadState}
    (completes : Reading.resume state (tokens bytes) = .complete value)
    (notNumber : ∀ spelling, value ≠ .number spelling)
    (more : List UInt8) :
    tokens (bytes ++ more) = tokens bytes ++ tokens more := by
  fun_induction tokens bytes generalizing state with
  | case1 => rfl
  | case2 byte bytes isSpace inductionHypothesis =>
      rw [List.cons_append, tokens, if_pos isSpace]
      exact inductionHypothesis completes
  | case3 byte bytes notSpace unscanned =>
      obtain ⟨next, stepped, _⟩ := Reading.step_of_complete completes
      rw [Reading.step_fault] at stepped
      contradiction
  | case4 byte bytes notSpace token rest scanned inductionHypothesis =>
      obtain ⟨next, stepped, further⟩ := Reading.step_of_complete completes
      have ends : ∀ spelling, token = .number spelling → rest ≠ [] := by
        rintro spelling rfl rfl
        -- A number at the end of the text would be the value itself.
        have isAfter := Reading.afterValue_of_number stepped
        rw [tokens] at further
        rw [Reading.of_atEnd further] at isAfter
        cases isAfter
        exact notNumber spelling rfl
      rw [List.cons_append, tokens_cons (Bool.not_eq_true _ ▸ notSpace)
        (scanToken_append scanned ends more), inductionHypothesis further]
      rfl

/-- A text that is read as a value other than a number is only read with white space after it. -/
theorem read_append
    (completes : read bytes = .complete value)
    (notNumber : ∀ spelling, value ≠ .number spelling)
    (more : List UInt8) :
    ((∀ byte ∈ more, isSpace byte = true) → read (bytes ++ more) = .complete value) ∧
      (¬(∀ byte ∈ more, isSpace byte = true) → read (bytes ++ more) = .broken (some value)) := by
  rw [← tokens_eq_nil_iff, read, tokens_append completes notNumber]
  constructor
  · intro noTokens
    rw [noTokens, List.append_nil]
    exact completes
  · exact Reading.resume_afterComplete completes

end SplitTunnel.Json
