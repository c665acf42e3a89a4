import SplitTunnel.Proofs.Json.Spelling
import SplitTunnel.Proofs.Text.Numerals

namespace SplitTunnel.Json

/-!
# Tokens are cut off whichever way they were written

Every text that writes a token is cut off as the token from what follows it.  The
only token whose end is not its own is a number: it ends where the next token or
white space begins.
-/

open Text (encodeChars)

section Characters

variable {bytes rest joined : List UInt8} {c : Char}

theorem IsHexDigit.readsDigit
    {digit : Nat}
    (isDigit : IsHexDigit c digit) :
    ReadsDigit c digit := by
  have everyCapital : ∀ n < 16, ReadsDigit (Nat.digitChar n).toUpper n := by decide
  obtain ⟨isSmall, rfl | rfl⟩ := isDigit
  · exact readsDigit_digitChar digit isSmall
  · exact everyCapital digit isSmall

/-- A code unit is scanned whichever way its digits were written. -/
theorem scanString_unit
    {unit : Nat}
    {digits : List Char}
    (spellsUnit : SpellsUnit unit digits)
    (bytes : List UInt8) :
    scanString .plain (encodeChars ('\\' :: 'u' :: digits) ++ bytes) =
      withPiece (.unit unit) (scanString .plain bytes) := by
  cases spellsUnit with
  | digits firstIs secondIs thirdIs fourthIs =>
      exact scanString_digits firstIs.readsDigit secondIs.readsDigit thirdIs.readsDigit
        fourthIs.readsDigit bytes

/-- The two units of a surrogate pair are joined to the character beyond the first plane. -/
theorem joinPieces_pair
    {pieces : List Piece}
    (isBeyond : 0x10000 ≤ c.toNat)
    (joins : joinPieces pieces = some joined) :
    joinPieces
        (.unit (0xD800 + (c.toNat - 0x10000) / 0x400) ::
          .unit (0xDC00 + (c.toNat - 0x10000) % 0x400) :: pieces) =
      some (String.utf8EncodeChar c ++ joined) := by
  have bounds := toNat_bounds c
  have isHigh : isHighSurrogate (0xD800 + (c.toNat - 0x10000) / 0x400) = true := by
    simp only [isHighSurrogate, Bool.and_eq_true, decide_eq_true_iff]
    omega
  have isLow : isLowSurrogate (0xDC00 + (c.toNat - 0x10000) % 0x400) = true := by
    simp only [isLowSurrogate, Bool.and_eq_true, decide_eq_true_iff]
    omega
  have isChar :
      pairedChar (0xD800 + (c.toNat - 0x10000) / 0x400)
          (0xDC00 + (c.toNat - 0x10000) % 0x400) = c := by
    have isCode :
        0x10000 + (0xD800 + (c.toNat - 0x10000) / 0x400 - 0xD800) * 0x400 +
            (0xDC00 + (c.toNat - 0x10000) % 0x400 - 0xDC00) = c.toNat := by
      omega
    rw [pairedChar, isCode, Char.ofNat_toNat]
  rw [joinPieces, if_pos isHigh, if_pos isLow, joins, isChar]
  rfl

theorem readsAs_pair
    {high low : List Char}
    (reads : ReadsAs bytes joined rest)
    (isBeyond : 0x10000 ≤ c.toNat)
    (spellsHigh : SpellsUnit (0xD800 + (c.toNat - 0x10000) / 0x400) high)
    (spellsLow : SpellsUnit (0xDC00 + (c.toNat - 0x10000) % 0x400) low) :
    ReadsAs (encodeChars ('\\' :: 'u' :: (high ++ '\\' :: 'u' :: low)) ++ bytes)
      (String.utf8EncodeChar c ++ joined) rest := by
  obtain ⟨pieces, scanned, joins⟩ := reads
  refine ⟨_, ?_, joinPieces_pair isBeyond joins⟩
  have apart :
      encodeChars ('\\' :: 'u' :: (high ++ '\\' :: 'u' :: low)) ++ bytes =
        encodeChars ('\\' :: 'u' :: high) ++ (encodeChars ('\\' :: 'u' :: low) ++ bytes) := by
    rw [← List.append_assoc, ← encodeChars_append]
    rfl
  rw [apart, scanString_unit spellsHigh, scanString_unit spellsLow, scanned]
  rfl

/-- The letter of a short escape is one of ASCII, like what it stands for, and no `u`. -/
theorem shortEscapes_spec :
    ∀ entry ∈ shortEscapes,
      entry.1.toNat ≤ 0x7f ∧ entry.2.toNat ≤ 0x7f ∧ entry.1.toUInt8 ≠ 'u'.toUInt8 ∧
        escaped? (Char.ofUInt8 entry.1.toUInt8) = some entry.2 := by
  decide

/-- A character is read whichever way it was written. -/
theorem readsAs_spellsChar
    {written : List Char}
    (reads : ReadsAs bytes joined rest)
    (spells : SpellsChar c written) :
    ReadsAs (encodeChars written ++ bytes) (String.utf8EncodeChar c ++ joined) rest := by
  cases spells with
  | plain notQuote notBackslash notControl =>
      exact readsAs_plain reads notQuote notBackslash notControl
  | short isEscape =>
      obtain ⟨letterIsAscii, isAscii, notUnit, escapes⟩ := shortEscapes_spec _ isEscape
      exact readsAs_escape reads letterIsAscii isAscii notUnit escapes
  | unit spellsUnit => exact readsAs_ofUnit reads (scanString_unit spellsUnit _)
  | pair isBeyond spellsHigh spellsLow => exact readsAs_pair reads isBeyond spellsHigh spellsLow

/-- What stands between quotes is read as the characters that it writes. -/
theorem readsAs_spellsChars
    {chars written : List Char}
    (spells : SpellsChars chars written)
    (rest : List UInt8) :
    ReadsAs (encodeChars written ++ '"'.toUInt8 :: rest) (encodeChars chars) rest := by
  induction spells with
  | nil => exact ⟨[], rfl, rfl⟩
  | cons spellsChar spellsRest inductionHypothesis =>
      rw [encodeChars_append, List.append_assoc, encodeChars_cons]
      exact readsAs_spellsChar inductionHypothesis spellsChar

end Characters

section Numbers

theorem ofUInt8_toUInt8
    {c : Char}
    (isAscii : c.toNat ≤ 0x7f) :
    Char.ofUInt8 c.toUInt8 = c := by
  apply Char.toNat_inj.mp
  change c.val.toNat % 256 = c.val.toNat
  have isSmall : c.val.toNat ≤ 0x7f := isAscii
  omega

theorem toUInt8_ofUInt8
    (byte : UInt8) :
    (Char.ofUInt8 byte).toUInt8 = byte := by
  apply UInt8.toNat_inj.mp
  change (Char.ofUInt8 byte).val.toNat % 256 = _
  exact Nat.mod_eq_of_lt byte.toNat_lt

/-- A byte of ASCII is written for its character. -/
theorem encodeChars_ofUInt8
    {byte : UInt8}
    (isAscii : byte.toNat ≤ 0x7f)
    (text : List Char) :
    encodeChars (Char.ofUInt8 byte :: text) = byte :: encodeChars text := by
  have charIsAscii : (Char.ofUInt8 byte).toNat ≤ 0x7f := isAscii
  rw [encodeChars_ascii charIsAscii, toUInt8_ofUInt8]

theorem toNat_le_of_isDigit
    {c : Char}
    (isDigit : c.isDigit = true) :
    c.toNat ≤ 0x7f := by
  simp only [Char.isDigit, Bool.and_eq_true, decide_eq_true_iff] at isDigit
  have isSmall : c.val.toNat ≤ 57 := isDigit.2
  exact Nat.le_trans isSmall (by decide)

/-- Whether a number may go on with a character. -/
def continuesNumber (c : Char) : Bool :=
  c.isDigit || c == '.' || c == 'e' || c == 'E'

/-- No number goes on with what follows. -/
def EndsNumber (bytes : List UInt8) : Prop :=
  ∀ byte ∈ bytes.head?, continuesNumber (Char.ofUInt8 byte) = false

theorem EndsNumber.head
    {bytes : List UInt8}
    (ends : EndsNumber bytes)
    {byte : UInt8}
    (isHead : byte ∈ bytes.head?) :
    isDigitByte byte = false ∧ byte ≠ '.'.toUInt8 ∧ byte ≠ 'e'.toUInt8 ∧ byte ≠ 'E'.toUInt8 := by
  have apart := ends byte isHead
  refine ⟨?_, ?_, ?_, ?_⟩
  · simp only [continuesNumber, Bool.or_eq_false_iff] at apart
    exact apart.1.1.1
  all_goals
    rintro rfl
    revert apart
    decide

theorem endsNumber_cons
    {c : Char}
    (isAscii : c.toNat ≤ 0x7f)
    (apart : continuesNumber c = false)
    (rest : List UInt8) :
    EndsNumber (c.toUInt8 :: rest) := by
  intro byte isHead
  cases isHead
  rw [ofUInt8_toUInt8 isAscii]
  exact apart

variable {digits written : List Char} {rest : List UInt8}

/-- A run of digits is cut off where no more digits follow. -/
theorem leadingDigits_append
    (areDigits : ∀ c ∈ digits, c.isDigit = true)
    (ends : ∀ byte ∈ rest.head?, isDigitByte byte = false) :
    leadingDigits (encodeChars digits ++ rest) = digits ∧
      afterDigits (encodeChars digits ++ rest) = rest := by
  induction digits with
  | nil =>
      cases rest with
      | nil => exact ⟨rfl, rfl⟩
      | cons byte rest =>
          have notDigit : isDigitByte byte = false := ends byte rfl
          simp [leadingDigits, afterDigits, encodeChars, notDigit]
  | cons c digits inductionHypothesis =>
      have isDigit := areDigits c (List.mem_cons_self ..)
      have isAscii := toNat_le_of_isDigit isDigit
      have isByte : isDigitByte c.toUInt8 = true := by
        rw [isDigitByte, ofUInt8_toUInt8 isAscii, isDigit]
      obtain ⟨leading, after⟩ := inductionHypothesis fun other member =>
        areDigits other (List.mem_cons_of_mem _ member)
      rw [encodeChars_ascii isAscii, List.cons_append]
      constructor
      · rw [leadingDigits, List.takeWhile_cons, isByte]
        change Char.ofUInt8 c.toUInt8 :: leadingDigits _ = _
        rw [leading, ofUInt8_toUInt8 isAscii]
      · rw [afterDigits, List.dropWhile_cons, isByte]
        exact after

/-- A digit is a digit character of its own, none of the other characters of a token. -/
theorem digitByte_spec
    {c : Char}
    (isDigit : c.isDigit = true) :
    isSpace c.toUInt8 = false ∧ punctuation? c.toUInt8 = none ∧ c.toUInt8 ≠ '"'.toUInt8 ∧
      c.toUInt8 ≠ '-'.toUInt8 ∧ c.toUInt8 ≠ '+'.toUInt8 ∧ isDigitByte c.toUInt8 = true := by
  have everyDigit :
      ∀ n < 10,
        isSpace (Nat.digitChar n).toUInt8 = false ∧
          punctuation? (Nat.digitChar n).toUInt8 = none ∧
          (Nat.digitChar n).toUInt8 ≠ '"'.toUInt8 ∧
          (Nat.digitChar n).toUInt8 ≠ '-'.toUInt8 ∧
          (Nat.digitChar n).toUInt8 ≠ '+'.toUInt8 ∧
          isDigitByte (Nat.digitChar n).toUInt8 = true := by
    decide
  obtain ⟨digit, isSmall, rfl⟩ := Text.exists_digitChar isDigit
  exact everyDigit digit isSmall

theorem scanFraction_spelled
    {fraction : List Char}
    (spells : SpellsFraction fraction written)
    (ends : ∀ byte ∈ rest.head?, isDigitByte byte = false ∧ byte ≠ '.'.toUInt8) :
    scanFraction (encodeChars written ++ rest) = some (fraction, rest) := by
  cases spells with
  | absent =>
      cases rest with
      | nil => rfl
      | cons byte rest => exact if_neg (ends byte rfl).2
  | present isNumeral =>
      obtain ⟨notEmpty, areDigits⟩ := Text.isNumeral_iff.mp isNumeral
      obtain ⟨leading, after⟩ := leadingDigits_append areDigits fun byte isHead =>
        (ends byte isHead).1
      rw [encodeChars_ascii (by decide), List.cons_append, scanFraction, if_pos rfl, leading,
        after, if_neg notEmpty]

theorem scanExponentSign_spelled
    {negative : Bool}
    {sign : List Char}
    (isSign : (negative, sign) ∈ [(false, []), (false, ['+']), (true, ['-'])])
    (isNumeral : Text.isNumeral digits = true)
    (rest : List UInt8) :
    scanExponentSign (encodeChars (sign ++ digits) ++ rest) =
      (negative, encodeChars digits ++ rest) := by
  simp only [List.mem_cons, Prod.mk.injEq, List.not_mem_nil, or_false] at isSign
  rcases isSign with ⟨rfl, rfl⟩ | ⟨rfl, rfl⟩ | ⟨rfl, rfl⟩
  · obtain ⟨first, others, rfl, isDigit⟩ := Text.exists_numeral isNumeral
    obtain ⟨_, _, _, notMinus, notPlus, _⟩ := digitByte_spec isDigit
    rw [List.nil_append, encodeChars_ascii (toNat_le_of_isDigit isDigit), List.cons_append,
      scanExponentSign, if_neg notMinus, if_neg notPlus]
  · have notMinus : '+'.toUInt8 ≠ '-'.toUInt8 := by decide
    rw [List.singleton_append, encodeChars_ascii (by decide), List.cons_append,
      scanExponentSign, if_neg notMinus, if_pos rfl]
  · rw [List.singleton_append, encodeChars_ascii (by decide), List.cons_append,
      scanExponentSign, if_pos rfl]

theorem scanExponent_spelled
    {exponent? : Option (Bool × List Char)}
    (spells : SpellsExponent exponent? written)
    (ends : EndsNumber rest) :
    scanExponent (encodeChars written ++ rest) = some (exponent?, rest) := by
  cases spells with
  | absent =>
      cases rest with
      | nil => rfl
      | cons byte rest =>
          obtain ⟨_, _, notSmall, notCapital⟩ := ends.head rfl
          exact if_neg (not_or.mpr ⟨notSmall, notCapital⟩)
  | @present letter negative sign digits isLetter isSign isNumeral =>
      obtain ⟨notEmpty, areDigits⟩ := Text.isNumeral_iff.mp isNumeral
      obtain ⟨leading, after⟩ := leadingDigits_append areDigits fun byte isHead =>
        (ends.head isHead).1
      have isAscii : letter.toNat ≤ 0x7f := by rcases isLetter with rfl | rfl <;> decide
      have isByte : letter.toUInt8 = 'e'.toUInt8 ∨ letter.toUInt8 = 'E'.toUInt8 :=
        isLetter.imp (congrArg Char.toUInt8) (congrArg Char.toUInt8)
      rw [encodeChars_ascii isAscii, List.cons_append, scanExponent, if_pos isByte,
        scanExponentSign_spelled isSign isNumeral]
      simp only [leading, after]
      exact if_neg notEmpty

theorem isWholePart_iff :
    isWholePart digits = true ↔ digits ≠ [] ∧ (digits.head? = some '0' → digits = ['0']) := by
  cases digits with
  | nil => simp [isWholePart]
  | cons first others =>
      cases others with
      | nil => simp [isWholePart]
      | cons second others =>
          by_cases isZero : first = '0'
          · simp [isWholePart, isZero]
          · simp [isWholePart, isZero]

/-- A fraction does not begin with a digit, and what follows it with a point neither. -/
theorem SpellsExponent.ends
    {exponent? : Option (Bool × List Char)}
    (spells : SpellsExponent exponent? written)
    (ends : EndsNumber rest) :
    ∀ byte ∈ (encodeChars written ++ rest).head?,
      isDigitByte byte = false ∧ byte ≠ '.'.toUInt8 := by
  cases spells with
  | absent =>
      intro byte isHead
      obtain ⟨notDigit, notPoint, _⟩ := ends.head isHead
      exact ⟨notDigit, notPoint⟩
  | present isLetter isSign isNumeral =>
      intro byte isHead
      rcases isLetter with rfl | rfl <;>
        · rw [encodeChars_ascii (by decide)] at isHead
          cases isHead
          decide

theorem SpellsFraction.ends
    {fraction : List Char}
    (spells : SpellsFraction fraction written)
    (ends : ∀ byte ∈ rest.head?, isDigitByte byte = false) :
    ∀ byte ∈ (encodeChars written ++ rest).head?, isDigitByte byte = false := by
  cases spells with
  | absent => exact ends
  | present isNumeral =>
      intro byte isHead
      rw [encodeChars_ascii (by decide)] at isHead
      cases isHead
      decide

/-- A number is scanned as it was written, up to where it ends. -/
theorem scanMagnitude_spelled
    {whole fraction : List Char}
    {exponent? : Option (Bool × List Char)}
    {fractionText exponentText : List Char}
    (isNumeral : Text.isNumeral whole = true)
    (noLeadingZero : whole.head? = some '0' → whole = ['0'])
    (spellsFraction : SpellsFraction fraction fractionText)
    (spellsExponent : SpellsExponent exponent? exponentText)
    (ends : EndsNumber rest)
    (negative : Bool) :
    scanMagnitude negative (encodeChars (whole ++ fractionText ++ exponentText) ++ rest) =
      some (.number ⟨negative, whole, fraction, exponent?⟩, rest) := by
  have afterFraction := spellsExponent.ends ends
  obtain ⟨notEmpty, areDigits⟩ := Text.isNumeral_iff.mp isNumeral
  obtain ⟨leading, after⟩ := leadingDigits_append areDigits
    (spellsFraction.ends fun byte isHead => (afterFraction byte isHead).1)
  rw [encodeChars_append, encodeChars_append, List.append_assoc, List.append_assoc, scanMagnitude,
    leading, after, if_pos (isWholePart_iff.mpr ⟨notEmpty, noLeadingZero⟩),
    scanFraction_spelled spellsFraction afterFraction, Option.bind_some,
    scanExponent_spelled spellsExponent ends]
  rfl

/-- A text that writes a number is cut off as the number where it ends. -/
theorem tokens_number
    {spelling : NumberText}
    (spells : SpellsNumber spelling written)
    (ends : EndsNumber rest) :
    tokens (encodeChars written ++ rest) = .number spelling :: tokens rest := by
  cases spells with
  | parts isNumeral noLeadingZero spellsFraction spellsExponent =>
      obtain ⟨negative, whole, fraction, exponent?⟩ := spelling
      have scanned := scanMagnitude_spelled isNumeral noLeadingZero spellsFraction spellsExponent
        ends negative
      cases negative with
      | true =>
          have notQuote : '-'.toUInt8 ≠ '"'.toUInt8 := by decide
          have noPunctuation : punctuation? '-'.toUInt8 = none := by decide
          rw [Decimal.signed, if_pos rfl, encodeChars_ascii (by decide), List.cons_append]
          refine tokens_cons (by decide) ?_
          rw [scanToken, noPunctuation]
          simp only [if_neg notQuote]
          exact scanned
      | false =>
          obtain ⟨first, others, isWhole, isDigit⟩ := Text.exists_numeral isNumeral
          obtain ⟨notSpace, noPunctuation, notQuote, notMinus, _, isByte⟩ := digitByte_spec isDigit
          simp only at isWhole
          subst isWhole
          rw [List.cons_append, List.cons_append,
            encodeChars_ascii (toNat_le_of_isDigit isDigit), List.cons_append] at scanned
          rw [Decimal.signed, if_neg Bool.false_ne_true, List.cons_append, List.cons_append,
            encodeChars_ascii (toNat_le_of_isDigit isDigit), List.cons_append]
          refine tokens_cons notSpace ?_
          rw [scanToken, noPunctuation]
          simp only [if_neg notQuote, if_neg notMinus, if_pos isByte]
          exact scanned

end Numbers

section Tokens

variable {token : Token} {written text : List Char} {rest : List UInt8}

theorem isSpace_of_mem
    {c : Char}
    (isBlank : c ∈ [' ', '\t', '\n', '\r']) :
    c.toNat ≤ 0x7f ∧ isSpace c.toUInt8 = true ∧ continuesNumber c = false := by
  simp only [List.mem_cons, List.not_mem_nil, or_false] at isBlank
  rcases isBlank with rfl | rfl | rfl | rfl <;> decide

/-- The characters of white space between tokens. -/
theorem isSpace_iff
    {byte : UInt8} :
    isSpace byte = true ↔ byte ∈ [' ', '\t', '\n', '\r'].map Char.toUInt8 := by
  constructor
  · intro isWhite
    rw [isSpace] at isWhite
    rw [← toUInt8_ofUInt8 byte]
    refine List.mem_map_of_mem ?_
    split at isWhite
    all_goals simp_all
  · simp only [List.map_cons, List.map_nil, List.mem_cons, List.not_mem_nil, or_false]
    rintro (rfl | rfl | rfl | rfl) <;> decide

theorem IsBlank.tokens_eq
    {blank : List Char}
    (isBlank : IsBlank blank)
    (rest : List UInt8) :
    tokens (encodeChars blank ++ rest) = tokens rest := by
  induction blank with
  | nil => rfl
  | cons c blank inductionHypothesis =>
      obtain ⟨isAscii, isSpace, _⟩ := isSpace_of_mem (isBlank c (List.mem_cons_self ..))
      rw [encodeChars_ascii isAscii, List.cons_append, tokens, if_pos isSpace]
      exact inductionHypothesis fun other member => isBlank other (List.mem_cons_of_mem _ member)

/-- A token that is no number ends by itself. -/
theorem SpellsToken.tokens_eq
    (spells : SpellsToken token written)
    (ends : ∀ spelling, token = .number spelling → EndsNumber rest) :
    tokens (encodeChars written ++ rest) = token :: tokens rest := by
  cases spells with
  | beginObject => exact tokens_punctuation (by decide) (by decide) rfl [] rest
  | endObject => exact tokens_punctuation (by decide) (by decide) rfl [] rest
  | beginArray => exact tokens_punctuation (by decide) (by decide) rfl [] rest
  | endArray => exact tokens_punctuation (by decide) (by decide) rfl [] rest
  | colon => exact tokens_punctuation (by decide) (by decide) rfl [] rest
  | comma => exact tokens_punctuation (by decide) (by decide) rfl [] rest
  | null => exact tokens_literal (by decide) rest
  | trueWord => exact tokens_literal (by decide) rest
  | falseWord => exact tokens_literal (by decide) rest
  | number spellsNumber => exact tokens_number spellsNumber (ends _ rfl)
  | string spellsChars => exact tokens_string (readsAs_spellsChars spellsChars rest)

/-- A number does not go on with a token that is no number. -/
theorem SpellsToken.head
    (spells : SpellsToken token written)
    (noNumber : ∀ spelling, token ≠ .number spelling) :
    ∃ c others, written = c :: others ∧ c.toNat ≤ 0x7f ∧ continuesNumber c = false := by
  cases spells with
  | number spellsNumber => exact absurd rfl (noNumber _)
  | null => exact ⟨'n', "ull".toList, rfl, by decide⟩
  | trueWord => exact ⟨'t', "rue".toList, rfl, by decide⟩
  | falseWord => exact ⟨'f', "alse".toList, rfl, by decide⟩
  | _ => exact ⟨_, _, rfl, by decide⟩

end Tokens

end SplitTunnel.Json
