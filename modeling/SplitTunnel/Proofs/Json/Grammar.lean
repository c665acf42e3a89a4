import SplitTunnel.Proofs.Json.Pieces

namespace SplitTunnel.Json

/-!
# The grammar of values

Bytes hold a value if they hold its tokens one after the other, with white space
around them.  A token is held where it is written, and a string without a text
where its pieces are.  The relations do not read anything, and reading gives a
value exactly for the bytes that hold it.  No value has a number after a number, so
the end of a number is never in doubt.
-/

open Text (encodeChars)

/-- Bytes hold a token: they write it, or write a string that has no text. -/
inductive HoldsToken : Token → List UInt8 → Prop where
  | written
      {token : Token}
      {text : List Char}
      (spellsToken : SpellsToken token text) :
      HoldsToken token (encodeChars text)
  | noText
      {pieces : List Piece}
      {body : List UInt8}
      (holdsPieces : HoldsPieces pieces body)
      (isNoText : ∀ text spelling, SpellsChars text spelling → body ≠ encodeChars spelling) :
      HoldsToken (.string none) ('"'.toUInt8 :: (body ++ ['"'.toUInt8]))

/-- Bytes hold tokens, with white space around them. -/
inductive HoldsTokens : List Token → List UInt8 → Prop where
  | nil
      {blank : List Char}
      (isBlank : IsBlank blank) :
      HoldsTokens [] (encodeChars blank)
  | cons
      {token : Token}
      {tokens : List Token}
      {blank : List Char}
      {held more : List UInt8}
      (isBlank : IsBlank blank)
      (holdsToken : HoldsToken token held)
      (holdsRest : HoldsTokens tokens more) :
      HoldsTokens (token :: tokens) (encodeChars blank ++ held ++ more)

/-- Bytes hold a value. -/
def HoldsValue (value : ReadValue) (bytes : List UInt8) : Prop :=
  HoldsTokens (valueTokens value) bytes

/-- A text that writes tokens holds them. -/
theorem Spells.holdsTokens
    {toks : List Token}
    {text : List Char}
    (spells : Spells toks text) :
    HoldsTokens toks (encodeChars text) := by
  induction spells with
  | nil isBlank => exact .nil isBlank
  | cons isBlank spellsToken spellsRest inductionHypothesis =>
      rw [encodeChars_append, encodeChars_append]
      exact .cons isBlank (.written spellsToken) inductionHypothesis

section Numbers

variable {bytes rest : List UInt8}

/-- The digits at the start and what follows them are the whole text. -/
theorem encodeChars_leadingDigits
    (bytes : List UInt8) :
    encodeChars (leadingDigits bytes) ++ afterDigits bytes = bytes := by
  induction bytes with
  | nil => rfl
  | cons byte bytes inductionHypothesis =>
      rw [leadingDigits, afterDigits, List.takeWhile_cons, List.dropWhile_cons]
      split
      · rename_i isDigit
        rw [List.map_cons, encodeChars_ofUInt8 (toNat_le_of_isDigit isDigit)]
        exact congrArg (byte :: ·) inductionHypothesis
      · rfl

theorem isNumeral_leadingDigits
    (notEmpty : leadingDigits bytes ≠ []) :
    Text.isNumeral (leadingDigits bytes) = true := by
  refine Text.isNumeral_iff.mpr ⟨notEmpty, fun c member => ?_⟩
  obtain ⟨byte, isLeading, rfl⟩ := List.mem_map.mp member
  have isDigit : isDigitByte byte = true := List.mem_takeWhile_imp isLeading
  exact isDigit

/-- What was scanned as a fraction writes it. -/
theorem spellsFraction_of_scanFraction
    {fraction : List Char}
    (scanned : scanFraction bytes = some (fraction, rest)) :
    ∃ text, SpellsFraction fraction text ∧ bytes = encodeChars text ++ rest := by
  cases bytes with
  | nil =>
      cases scanned
      exact ⟨[], .absent, rfl⟩
  | cons byte after =>
      rw [scanFraction] at scanned
      split at scanned
      · rename_i isPoint
        split at scanned
        · contradiction
        · rename_i hasDigits
          cases scanned
          refine ⟨_, .present (isNumeral_leadingDigits hasDigits), ?_⟩
          rw [encodeChars_ascii (by decide), List.cons_append, encodeChars_leadingDigits, isPoint]
      · cases scanned
        exact ⟨[], .absent, rfl⟩

theorem exists_sign
    (bytes : List UInt8) :
    ∃ sign,
      ((scanExponentSign bytes).1, sign) ∈ [(false, []), (false, ['+']), (true, ['-'])] ∧
        bytes = encodeChars sign ++ (scanExponentSign bytes).2 := by
  cases bytes with
  | nil => exact ⟨[], by simp [scanExponentSign], rfl⟩
  | cons byte after =>
      rw [scanExponentSign]
      split
      · rename_i isMinus
        exact ⟨['-'], by simp, by rw [isMinus, encodeChars_ascii (by decide)]; rfl⟩
      · split
        · rename_i isPlus
          exact ⟨['+'], by simp, by rw [isPlus, encodeChars_ascii (by decide)]; rfl⟩
        · exact ⟨[], by simp, rfl⟩

/-- What was scanned as an exponent writes it. -/
theorem spellsExponent_of_scanExponent
    {exponent? : Option (Bool × List Char)}
    (scanned : scanExponent bytes = some (exponent?, rest)) :
    ∃ text, SpellsExponent exponent? text ∧ bytes = encodeChars text ++ rest := by
  cases bytes with
  | nil =>
      cases scanned
      exact ⟨[], .absent, rfl⟩
  | cons byte after =>
      rw [scanExponent] at scanned
      split at scanned
      · rename_i isLetter
        dsimp only at scanned
        split at scanned
        · contradiction
        · rename_i hasDigits
          cases scanned
          obtain ⟨sign, isSign, isAfter⟩ := exists_sign after
          have isNumeral := isNumeral_leadingDigits hasDigits
          have isWritten :
              after =
                encodeChars (sign ++ leadingDigits (scanExponentSign after).2) ++
                  afterDigits (scanExponentSign after).2 := by
            rw [encodeChars_append, List.append_assoc, encodeChars_leadingDigits]
            exact isAfter
          rcases isLetter with rfl | rfl
          · refine ⟨_, .present (.inl rfl) isSign isNumeral, ?_⟩
            rw [encodeChars_ascii (by decide), List.cons_append, ← isWritten]
          · refine ⟨_, .present (.inr rfl) isSign isNumeral, ?_⟩
            rw [encodeChars_ascii (by decide), List.cons_append, ← isWritten]
      · cases scanned
        exact ⟨[], .absent, rfl⟩

/-- What was scanned as a number writes it, behind its sign. -/
theorem spellsNumber_of_scanMagnitude
    {negative : Bool}
    {token : Token}
    (scanned : scanMagnitude negative bytes = some (token, rest)) :
    ∃ spelling text,
      token = .number spelling ∧ SpellsNumber spelling (Decimal.signed negative text) ∧
        bytes = encodeChars text ++ rest := by
  rw [scanMagnitude] at scanned
  split at scanned
  · rename_i isWhole
    obtain ⟨notEmpty, noLeadingZero⟩ := isWholePart_iff.mp isWhole
    obtain ⟨⟨fraction, afterFraction⟩, fractionScanned, scannedRest⟩ :=
      Option.bind_eq_some_iff.mp scanned
    obtain ⟨⟨exponent?, afterExponent⟩, exponentScanned, same⟩ :=
      Option.map_eq_some_iff.mp scannedRest
    cases same
    obtain ⟨fractionText, spellsFraction, isFraction⟩ :=
      spellsFraction_of_scanFraction fractionScanned
    obtain ⟨exponentText, spellsExponent, isExponent⟩ :=
      spellsExponent_of_scanExponent exponentScanned
    refine ⟨_, leadingDigits bytes ++ fractionText ++ exponentText, rfl,
      .parts (isNumeral_leadingDigits notEmpty) noLeadingZero spellsFraction spellsExponent, ?_⟩
    dsimp only at isExponent
    rw [encodeChars_append, encodeChars_append, List.append_assoc, List.append_assoc,
      ← isExponent, ← isFraction, encodeChars_leadingDigits]
  · contradiction

end Numbers

section Tokens

variable {bytes rest : List UInt8} {token : Token} {toks : List Token}

theorem HoldsPieces.noText_iff
    {pieces : List Piece}
    {body : List UInt8}
    (holds : HoldsPieces pieces body) :
    pieceText? pieces = none ↔
      ∀ text spelling, SpellsChars text spelling → body ≠ encodeChars spelling := by
  rw [Option.eq_none_iff_forall_ne_some]
  simp only [ne_eq, holds.pieceText?_eq_some_iff]
  constructor
  · intro noText text spelling spells isBody
    refine noText (String.ofList text) ⟨spelling, ?_, isBody⟩
    rw [String.toList_ofList]
    exact spells
  · rintro noText text ⟨spelling, spells, isBody⟩
    exact noText _ spelling spells isBody

theorem spellsToken_of_punctuation?
    {byte : UInt8}
    (isToken : punctuation? byte = some token) :
    ∃ text, SpellsToken token text ∧ [byte] = encodeChars text := by
  have isWritten
      {c : Char}
      (isChar : Char.ofUInt8 byte = c)
      (isAscii : c.toNat ≤ 0x7f) :
      [byte] = encodeChars [c] := by
    rw [encodeChars_ascii isAscii, ← isChar, toUInt8_ofUInt8]
    rfl
  rw [punctuation?] at isToken
  split at isToken <;> cases isToken <;> rename_i isChar
  · exact ⟨_, .beginObject, isWritten isChar (by decide)⟩
  · exact ⟨_, .endObject, isWritten isChar (by decide)⟩
  · exact ⟨_, .beginArray, isWritten isChar (by decide)⟩
  · exact ⟨_, .endArray, isWritten isChar (by decide)⟩
  · exact ⟨_, .colon, isWritten isChar (by decide)⟩
  · exact ⟨_, .comma, isWritten isChar (by decide)⟩

theorem spellsToken_of_scanLiteral
    (scanned : scanLiteral bytes = some (token, rest)) :
    ∃ text, SpellsToken token text ∧ bytes = encodeChars text ++ rest := by
  obtain ⟨literal, member, found⟩ := List.exists_of_findSome?_eq_some scanned
  obtain ⟨after, starts, same⟩ := Option.map_eq_some_iff.mp found
  cases same
  refine ⟨literal.1.toList, ?_, append_of_isPrefixOf? starts⟩
  simp only [literals, List.mem_cons, List.not_mem_nil, or_false] at member
  rcases member with rfl | rfl | rfl
  · exact .null
  · exact .trueWord
  · exact .falseWord

/-- What was scanned as a token holds it. -/
theorem holdsToken_of_scanToken
    {byte : UInt8}
    (scanned : scanToken byte bytes = some (token, rest)) :
    ∃ held, HoldsToken token held ∧ byte :: bytes = held ++ rest := by
  rw [scanToken] at scanned
  split at scanned
  · rename_i mark isMark
    cases scanned
    obtain ⟨text, spellsToken, isText⟩ := spellsToken_of_punctuation? isMark
    refine ⟨_, .written spellsToken, ?_⟩
    rw [← isText]
    rfl
  · split at scanned
    · rename_i isQuote
      obtain ⟨⟨pieces, after⟩, scannedString, same⟩ := Option.map_eq_some_iff.mp scanned
      cases same
      obtain ⟨body, holds, rfl⟩ := holdsPieces_of_scanString scannedString
      rw [isQuote]
      cases hasText : pieceText? pieces with
      | none =>
          refine ⟨_, .noText holds (holds.noText_iff.mp hasText), ?_⟩
          simp
      | some text =>
          obtain ⟨spelling, spells, rfl⟩ := holds.pieceText?_eq_some_iff.mp hasText
          refine ⟨_, .written (.string spells), ?_⟩
          rw [encodeChars_ascii (by decide), encodeChars_append, encodeChars_ascii (by decide)]
          simp [encodeChars]
    · split at scanned
      · rename_i isMinus
        obtain ⟨spelling, text, rfl, spellsNumber, rfl⟩ := spellsNumber_of_scanMagnitude scanned
        refine ⟨_, .written (.number spellsNumber), ?_⟩
        rw [Decimal.signed, if_pos rfl, encodeChars_ascii (by decide), isMinus]
        rfl
      · split at scanned
        · obtain ⟨spelling, text, rfl, spellsNumber, isText⟩ :=
            spellsNumber_of_scanMagnitude scanned
          exact ⟨_, .written (.number spellsNumber), isText⟩
        · obtain ⟨text, spellsToken, isText⟩ := spellsToken_of_scanLiteral scanned
          exact ⟨_, .written spellsToken, isText⟩

/-- White space may stand before bytes that hold tokens. -/
theorem HoldsTokens.afterSpace
    {byte : UInt8}
    (isWhite : isSpace byte = true)
    (holds : HoldsTokens toks bytes) :
    HoldsTokens toks (byte :: bytes) := by
  obtain ⟨c, isBlankChar, rfl⟩ := List.mem_map.mp (isSpace_iff.mp isWhite)
  obtain ⟨isAscii, _⟩ := isSpace_of_mem isBlankChar
  have areBlank : ∀ {blank : List Char}, IsBlank blank → IsBlank (c :: blank) :=
    fun isBlank => List.forall_mem_cons.mpr ⟨isBlankChar, isBlank⟩
  cases holds with
  | nil isBlank =>
      rw [← encodeChars_ascii isAscii]
      exact .nil (areBlank isBlank)
  | cons isBlank holdsToken holdsRest =>
      rw [← List.cons_append, ← List.cons_append, ← encodeChars_ascii isAscii]
      exact .cons (areBlank isBlank) holdsToken holdsRest

/-- A text in which a token stands everywhere holds its tokens. -/
theorem holdsTokens_tokens
    (noFault : .fault ∉ tokens bytes) :
    HoldsTokens (tokens bytes) bytes := by
  fun_induction tokens bytes with
  | case1 => exact .nil (List.forall_mem_nil _)
  | case2 byte bytes isWhite inductionHypothesis =>
      exact (inductionHypothesis noFault).afterSpace isWhite
  | case3 => simp at noFault
  | case4 byte bytes notSpace token rest scanned inductionHypothesis =>
      obtain ⟨held, holdsToken, isHeld⟩ := holdsToken_of_scanToken scanned
      rw [isHeld]
      exact .cons (List.forall_mem_nil _) holdsToken
        (inductionHypothesis fun inRest => noFault (List.mem_cons_of_mem _ inRest))

/-- A token that is held is cut off from what follows it. -/
theorem HoldsToken.tokens_eq
    {held : List UInt8}
    (holds : HoldsToken token held)
    (ends : ∀ spelling, token = .number spelling → EndsNumber rest) :
    tokens (held ++ rest) = token :: tokens rest := by
  cases holds with
  | written spellsToken => exact spellsToken.tokens_eq ends
  | noText holdsPieces isNoText =>
      rw [List.cons_append, List.append_assoc]
      refine tokens_cons (by decide) ?_
      rw [scanToken_quote, List.singleton_append, holdsPieces.scanString_eq, Option.map_some,
        holdsPieces.noText_iff.mpr isNoText]

/-- Where no number comes next, a number before it ends. -/
theorem HoldsTokens.endsNumber
    (holds : HoldsTokens toks bytes)
    (noNumber : ∀ spelling, toks.head? ≠ some (.number spelling)) :
    EndsNumber bytes := by
  have afterBlank
      {blank : List Char}
      {more : List UInt8}
      (isBlank : IsBlank blank)
      (ends : EndsNumber more) :
      EndsNumber (encodeChars blank ++ more) := by
    cases blank with
    | nil => exact ends
    | cons c others =>
        obtain ⟨isAscii, _, apart⟩ := isSpace_of_mem (isBlank c (List.mem_cons_self ..))
        rw [encodeChars_ascii isAscii]
        exact endsNumber_cons isAscii apart _
  cases holds with
  | nil isBlank =>
      rw [← List.append_nil (encodeChars _)]
      exact afterBlank isBlank nofun
  | @cons token toks blank held more isBlank holdsToken holdsRest =>
      rw [List.append_assoc]
      refine afterBlank isBlank ?_
      cases holdsToken with
      | written spellsToken =>
          obtain ⟨c, others, rfl, isAscii, apart⟩ := spellsToken.head fun spelling same =>
            noNumber spelling (congrArg some same)
          rw [encodeChars_ascii isAscii]
          exact endsNumber_cons isAscii apart _
      | noText => exact endsNumber_cons (by decide) (by decide) _

/-- Bytes that hold the tokens of a value are cut into these tokens. -/
theorem HoldsTokens.tokens_eq
    (holds : HoldsTokens toks bytes)
    {state : ReadState}
    {value : ReadValue}
    (completes : Reading.resume state toks = .complete value) :
    tokens bytes = toks := by
  induction holds generalizing state with
  | nil isBlank =>
      have skipped := isBlank.tokens_eq []
      rw [List.append_nil, tokens] at skipped
      exact skipped
  | cons isBlank holdsToken holdsRest inductionHypothesis =>
      obtain ⟨next, _, further⟩ := Reading.step_of_complete completes
      rw [List.append_assoc, isBlank.tokens_eq, holdsToken.tokens_eq,
        inductionHypothesis further]
      rintro spelling rfl
      exact holdsRest.endsNumber (Reading.no_number_after_number completes)

end Tokens

/-- Bytes are read as a value if and only if they hold it. -/
theorem read_eq_complete_iff
    {bytes : List UInt8}
    {value : ReadValue} :
    read bytes = .complete value ↔ HoldsValue value bytes := by
  constructor
  · intro completes
    have holds := holdsTokens_tokens (Reading.fault_not_mem completes)
    rw [Reading.resume_start_iff.mp completes] at holds
    exact holds
  · intro holds
    rw [read, HoldsTokens.tokens_eq holds (Reading.resume_start value)]
    exact Reading.resume_start value

/-- Every text that writes a value is read as the value. -/
theorem Writes.read_eq
    {value : WrittenValue}
    {text : List Char}
    (writes : Writes value text) :
    read (encodeChars text) = .complete (readBack value) :=
  read_eq_complete_iff.mpr (Spells.holdsTokens writes)

end SplitTunnel.Json
