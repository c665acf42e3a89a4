import SplitTunnel.Proofs.Json.Scanning

namespace SplitTunnel.Json

/-!
# What stands between quotes

A string is scanned as pieces, whatever its bytes are, and has a text if the pieces
join to one.  The relations below say which bytes hold which pieces, without
scanning any of them.  Scanning finds exactly the pieces that are held, and they
have a text exactly where the bytes write its characters.
-/

open Text (encodeChars)

/-- Bytes between two quotes hold a piece: a plain byte, a short escape or a code unit. -/
inductive HoldsPiece : Piece → List UInt8 → Prop where
  | plain
      {byte : UInt8}
      (isPlain : IsPlain byte) :
      HoldsPiece (.byte byte) [byte]
  | short
      {letter c : Char}
      (isEscape : (letter, c) ∈ shortEscapes) :
      HoldsPiece (.byte c.toUInt8) (encodeChars ['\\', letter])
  | unit
      {unit : Nat}
      {digits : List Char}
      (spellsUnit : SpellsUnit unit digits) :
      HoldsPiece (.unit unit) (encodeChars ('\\' :: 'u' :: digits))

/-- The bytes between two quotes hold pieces, one after the other. -/
inductive HoldsPieces : List Piece → List UInt8 → Prop where
  | nil :
      HoldsPieces [] []
  | cons
      {piece : Piece}
      {pieces : List Piece}
      {held more : List UInt8}
      (holdsPiece : HoldsPiece piece held)
      (holdsRest : HoldsPieces pieces more) :
      HoldsPieces (piece :: pieces) (held ++ more)

section Scanning

variable {pieces : List Piece} {body bytes rest : List UInt8}

/-- A piece that is held is scanned before what follows it. -/
theorem HoldsPiece.scanString_eq
    {piece : Piece}
    {held : List UInt8}
    (holds : HoldsPiece piece held)
    (more : List UInt8) :
    scanString .plain (held ++ more) = withPiece piece (scanString .plain more) := by
  cases holds with
  | plain isPlain =>
      obtain ⟨notQuote, notBackslash, notControl⟩ := isPlain
      rw [List.singleton_append, scanString, if_neg notQuote, if_neg notBackslash,
        if_neg notControl]
  | short isEscape =>
      obtain ⟨letterIsAscii, _, notUnit, escapes⟩ := shortEscapes_spec _ isEscape
      exact scanString_escape letterIsAscii notUnit escapes more
  | unit spellsUnit => exact scanString_unit spellsUnit more

/-- The pieces that are held are scanned up to the closing quote. -/
theorem HoldsPieces.scanString_eq
    (holds : HoldsPieces pieces body)
    (rest : List UInt8) :
    scanString .plain (body ++ '"'.toUInt8 :: rest) = some (pieces, rest) := by
  induction holds with
  | nil => rfl
  | cons holdsPiece holdsRest inductionHypothesis =>
      rw [List.append_assoc, holdsPiece.scanString_eq, inductionHypothesis]
      rfl

theorem isHexDigit_of_hexDigit?
    {byte : UInt8}
    {digit : Nat}
    (isDigit : Text.hexDigit? (Char.ofUInt8 byte) = some digit) :
    byte.toNat ≤ 0x7f ∧ IsHexDigit (Char.ofUInt8 byte) digit := by
  have everyDigit :
      ∀ n < 256, ∀ digit ∈ Text.hexDigit? (Char.ofUInt8 (UInt8.ofNat n)),
        n ≤ 0x7f ∧ IsHexDigit (Char.ofUInt8 (UInt8.ofNat n)) digit := by
    decide +kernel
  have ofByte := everyDigit byte.toNat byte.toNat_lt
  rw [UInt8.ofNat_toNat] at ofByte
  exact ofByte digit isDigit

/-- Where a digit of a code unit is missing, a digit is scanned. -/
theorem exists_digit_of_scanString
    {missing value : Nat}
    {found : List Piece × List UInt8}
    (scanned : scanString (.unit missing value) bytes = some found) :
    ∃ c digit more,
      IsHexDigit c digit ∧ c.toNat ≤ 0x7f ∧ bytes = c.toUInt8 :: more ∧
        match missing with
        | 0 => withPiece (.unit (16 * value + digit)) (scanString .plain more) = some found
        | further + 1 => scanString (.unit further (16 * value + digit)) more = some found := by
  cases bytes with
  | nil => simp [scanString] at scanned
  | cons byte more =>
      rw [scanString] at scanned
      cases isDigit : Text.hexDigit? (Char.ofUInt8 byte) with
      | none =>
          rw [isDigit] at scanned
          contradiction
      | some digit =>
          rw [isDigit] at scanned
          obtain ⟨isAscii, isHexDigit⟩ := isHexDigit_of_hexDigit? isDigit
          refine ⟨Char.ofUInt8 byte, digit, more, isHexDigit, isAscii, ?_, ?_⟩
          · rw [toUInt8_ofUInt8]
          · cases missing with
            | zero => exact scanned
            | succ further => exact scanned

/-- After a backslash and a `u` the four digits of a code unit are scanned. -/
theorem exists_unit_of_scanString
    {found : List Piece × List UInt8}
    (scanned : scanString (.unit 3 0) bytes = some found) :
    ∃ unit digits more,
      SpellsUnit unit digits ∧ bytes = encodeChars digits ++ more ∧
        withPiece (.unit unit) (scanString .plain more) = some found := by
  obtain ⟨first, a, _, firstIs, firstIsAscii, rfl, scanned⟩ := exists_digit_of_scanString scanned
  obtain ⟨second, b, _, secondIs, secondIsAscii, rfl, scanned⟩ := exists_digit_of_scanString scanned
  obtain ⟨third, c, _, thirdIs, thirdIsAscii, rfl, scanned⟩ := exists_digit_of_scanString scanned
  obtain ⟨fourth, d, more, fourthIs, fourthIsAscii, rfl, scanned⟩ :=
    exists_digit_of_scanString scanned
  have isUnit :
      16 * (16 * (16 * (16 * 0 + a) + b) + c) + d = 0x1000 * a + 0x100 * b + 0x10 * c + d := by
    omega
  refine ⟨_, _, more, .digits firstIs secondIs thirdIs fourthIs, ?_, isUnit ▸ scanned⟩
  rw [encodeChars_ascii firstIsAscii, encodeChars_ascii secondIsAscii,
    encodeChars_ascii thirdIsAscii, encodeChars_ascii fourthIsAscii]
  rfl

theorem mem_shortEscapes_of_escaped?
    {letter c : Char}
    (escapes : escaped? letter = some c) :
    (letter, c) ∈ shortEscapes := by
  unfold escaped? at escapes
  split at escapes <;> cases escapes <;> decide

/-- After a backslash the rest of an escape is scanned. -/
theorem exists_piece_of_escape
    {found : List Piece × List UInt8}
    (scanned : scanString .escape bytes = some found) :
    ∃ piece held more,
      HoldsPiece piece held ∧ '\\'.toUInt8 :: bytes = held ++ more ∧
        withPiece piece (scanString .plain more) = some found := by
  cases bytes with
  | nil => simp [scanString] at scanned
  | cons letter bytes =>
      rw [scanString] at scanned
      split at scanned
      · rename_i isUnit
        subst isUnit
        obtain ⟨unit, digits, more, spellsUnit, rfl, found⟩ := exists_unit_of_scanString scanned
        refine ⟨_, _, more, .unit spellsUnit, ?_, found⟩
        rw [encodeChars_ascii (by decide), encodeChars_ascii (by decide)]
        rfl
      · split at scanned
        · contradiction
        · rename_i c escapes
          have isEscape := mem_shortEscapes_of_escaped? escapes
          obtain ⟨letterIsAscii, _⟩ := shortEscapes_spec _ isEscape
          refine ⟨_, _, bytes, .short isEscape, ?_, scanned⟩
          rw [encodeChars_ascii (by decide), encodeChars_ascii letterIsAscii, toUInt8_ofUInt8]
          rfl

/-- What is scanned begins with the closing quote, or with a piece. -/
theorem exists_piece_of_scanString
    {found : List Piece × List UInt8}
    (scanned : scanString .plain bytes = some found) :
    bytes = '"'.toUInt8 :: found.2 ∧ found.1 = [] ∨
      ∃ piece held more,
        HoldsPiece piece held ∧ bytes = held ++ more ∧
          withPiece piece (scanString .plain more) = some found := by
  cases bytes with
  | nil => simp [scanString] at scanned
  | cons byte bytes =>
      rw [scanString] at scanned
      split at scanned
      · rename_i isQuote
        cases scanned
        exact .inl ⟨by rw [isQuote], rfl⟩
      · rename_i notQuote
        split at scanned
        · rename_i isBackslash
          subst isBackslash
          exact .inr (exists_piece_of_escape scanned)
        · rename_i notBackslash
          split at scanned
          · contradiction
          · rename_i notControl
            exact .inr ⟨_, [byte], bytes, .plain ⟨notQuote, notBackslash, notControl⟩, rfl, scanned⟩

theorem HoldsPiece.ne_nil
    {piece : Piece}
    {held : List UInt8}
    (holds : HoldsPiece piece held) :
    held ≠ [] := by
  cases holds with
  | plain => exact List.cons_ne_nil _ _
  | short | unit =>
      rw [encodeChars_ascii (by decide)]
      exact List.cons_ne_nil _ _

/-- What was scanned up to the closing quote holds the pieces that were found. -/
theorem holdsPieces_of_scanString
    (scanned : scanString .plain bytes = some (pieces, rest)) :
    ∃ body, HoldsPieces pieces body ∧ bytes = body ++ '"'.toUInt8 :: rest := by
  -- A piece takes up to six bytes, so the induction is on how many there are.
  induction length : bytes.length using Nat.strong_induction_on generalizing bytes pieces with
  | h count inductionHypothesis =>
      subst length
      rcases exists_piece_of_scanString scanned with
        ⟨isClosed, noPieces⟩ | ⟨piece, held, more, holdsPiece, rfl, found⟩
      · cases noPieces
        exact ⟨[], .nil, isClosed⟩
      · obtain ⟨⟨others, after⟩, scannedRest, same⟩ := Option.map_eq_some_iff.mp found
        cases same
        have isShorter : more.length < (held ++ more).length := by
          have notEmpty := List.length_pos_iff.mpr holdsPiece.ne_nil
          rw [List.length_append]
          omega
        obtain ⟨body, holds, rfl⟩ := inductionHypothesis _ isShorter scannedRest rfl
        exact ⟨held ++ body, .cons holdsPiece holds, (List.append_assoc ..).symm⟩

end Scanning

section Texts

variable {pieces : List Piece} {body written joined : List UInt8} {c : Char}

/-- Bytes between quotes join to bytes, piece by piece, or character by character. -/
inductive JoinsTo : List UInt8 → List UInt8 → Prop where
  | nil :
      JoinsTo [] []
  | byte
      {byte : UInt8}
      {written joined : List UInt8}
      (isPlain : IsPlain byte)
      (joinsRest : JoinsTo written joined) :
      JoinsTo (byte :: written) (byte :: joined)
  | char
      {c : Char}
      {spelling : List Char}
      {written joined : List UInt8}
      (spellsChar : SpellsChar c spelling)
      (joinsRest : JoinsTo written joined) :
      JoinsTo (encodeChars spelling ++ written) (String.utf8EncodeChar c ++ joined)

theorem SpellsUnit.lt
    {unit : Nat}
    {digits : List Char}
    (spells : SpellsUnit unit digits) :
    unit < 0x10000 := by
  cases spells with
  | digits firstIs secondIs thirdIs fourthIs =>
      have first := firstIs.1
      have second := secondIs.1
      have third := thirdIs.1
      have fourth := fourthIs.1
      omega

/-- A code unit that is no surrogate writes a character. -/
theorem SpellsUnit.spellsChar
    {unit : Nat}
    {digits : List Char}
    (spells : SpellsUnit unit digits)
    (notHigh : isHighSurrogate unit = false)
    (notLow : isLowSurrogate unit = false) :
    SpellsChar (Char.ofNat unit) ('\\' :: 'u' :: digits) := by
  have isSmall := spells.lt
  simp only [isHighSurrogate, isLowSurrogate, Bool.and_eq_false_iff,
    decide_eq_false_iff_not] at notHigh notLow
  have isValid : unit.isValidChar := by
    simp only [Nat.isValidChar]
    omega
  refine .unit ?_
  rw [Char.toNat_ofNat, if_pos isValid]
  exact spells

/-- Two code units that are the halves of a surrogate pair write a character. -/
theorem SpellsUnit.spellsPair
    {high low : Nat}
    {highDigits lowDigits : List Char}
    (spellsHigh : SpellsUnit high highDigits)
    (spellsLow : SpellsUnit low lowDigits)
    (isHigh : isHighSurrogate high = true)
    (isLow : isLowSurrogate low = true) :
    SpellsChar (pairedChar high low)
      ('\\' :: 'u' :: (highDigits ++ '\\' :: 'u' :: lowDigits)) := by
  simp only [isHighSurrogate, isLowSurrogate, Bool.and_eq_true, decide_eq_true_iff]
    at isHigh isLow
  have isValid : (0x10000 + (high - 0xD800) * 0x400 + (low - 0xDC00)).isValidChar := by
    simp only [Nat.isValidChar]
    omega
  have isCode :
      (pairedChar high low).toNat = 0x10000 + (high - 0xD800) * 0x400 + (low - 0xDC00) := by
    rw [pairedChar, Char.toNat_ofNat, if_pos isValid]
  have highIs : 0xD800 + ((pairedChar high low).toNat - 0x10000) / 0x400 = high := by omega
  have lowIs : 0xDC00 + ((pairedChar high low).toNat - 0x10000) % 0x400 = low := by omega
  refine .pair (by omega) ?_ ?_
  · rw [highIs]
    exact spellsHigh
  · rw [lowIs]
    exact spellsLow

/-- Pieces are joined as the bytes that hold them. -/
theorem HoldsPieces.joinsTo
    (holds : HoldsPieces pieces body)
    (joins : joinPieces pieces = some joined) :
    JoinsTo body joined := by
  fun_induction joinPieces pieces generalizing body joined with
  | case1 =>
      cases holds
      cases joins
      exact .nil
  | case2 byte pieces inductionHypothesis =>
      obtain ⟨further, joinsRest, rfl⟩ := Option.map_eq_some_iff.mp joins
      obtain _ | ⟨holdsPiece, holdsRest⟩ := holds
      have joinsTo := inductionHypothesis holdsRest joinsRest
      cases holdsPiece with
      | plain isPlain => exact .byte isPlain joinsTo
      | short isEscape =>
          obtain ⟨_, isAscii, _⟩ := shortEscapes_spec _ isEscape
          have joinsChar := JoinsTo.char (.short isEscape) joinsTo
          rw [utf8EncodeChar_ascii isAscii] at joinsChar
          exact joinsChar
  | case3 high low pieces isHigh isLow inductionHypothesis =>
      obtain ⟨further, joinsRest, rfl⟩ := Option.map_eq_some_iff.mp joins
      obtain _ | ⟨_ | _ | spellsHigh, _ | ⟨_ | _ | spellsLow, holdsRest⟩⟩ := holds
      rw [← List.append_assoc, ← encodeChars_append]
      exact .char (spellsHigh.spellsPair spellsLow isHigh isLow)
        (inductionHypothesis holdsRest joinsRest)
  | case4 => contradiction
  | case5 => contradiction
  | case6 unit next pieces notHigh notLow inductionHypothesis =>
      obtain ⟨further, joinsRest, rfl⟩ := Option.map_eq_some_iff.mp joins
      obtain _ | ⟨_ | _ | spellsUnit, holdsRest⟩ := holds
      exact .char (spellsUnit.spellsChar (Bool.not_eq_true _ ▸ notHigh)
        (Bool.not_eq_true _ ▸ notLow)) (inductionHypothesis holdsRest joinsRest)
  | case7 => contradiction
  | case8 unit pieces noUnit notSurrogate inductionHypothesis =>
      obtain ⟨further, joinsRest, rfl⟩ := Option.map_eq_some_iff.mp joins
      obtain _ | ⟨_ | _ | spellsUnit, holdsRest⟩ := holds
      rw [Bool.or_eq_true, not_or, Bool.not_eq_true, Bool.not_eq_true] at notSurrogate
      exact .char (spellsUnit.spellsChar notSurrogate.1 notSurrogate.2)
        (inductionHypothesis holdsRest joinsRest)

/-- The bytes of a character begin with the only one of them that begins a character. -/
theorem exists_utf8EncodeChar
    (c : Char) :
    ∃ first others,
      String.utf8EncodeChar c = first :: others ∧ first.IsUTF8FirstByte ∧
        ∀ byte ∈ others, ¬byte.IsUTF8FirstByte := by
  obtain ⟨first, others, shape⟩ := List.exists_cons_of_ne_nil (@String.utf8EncodeChar_ne_nil c)
  refine ⟨first, others, shape, ?_, ?_⟩
  · have isFirst := @UInt8.isUTF8FirstByte_getElem_zero_utf8EncodeChar c
    simp only [shape, List.getElem_cons_zero] at isFirst
    exact isFirst
  · intro byte member isFirst
    obtain ⟨index, inOthers, rfl⟩ := List.getElem_of_mem member
    have inChar : index + 1 < (String.utf8EncodeChar c).length := by
      rw [shape]
      exact Nat.succ_lt_succ inOthers
    have isHead := @UInt8.isUTF8FirstByte_getElem_utf8EncodeChar c (index + 1) inChar
    simp only [shape, List.getElem_cons_succ] at isHead
    exact Nat.succ_ne_zero index (isHead.mp isFirst)

/-- Bytes that begin with a character begin with no other. -/
theorem utf8EncodeChar_append_inj
    {d : Char}
    {first second : List UInt8}
    (same : String.utf8EncodeChar c ++ first = String.utf8EncodeChar d ++ second) :
    c = d ∧ first = second := by
  have decodes (c : Char) (rest : List UInt8) :
      (String.utf8EncodeChar c ++ rest).toByteArray.utf8DecodeChar? 0 = some c := by
    rw [List.toByteArray_append]
    exact ByteArray.utf8DecodeChar?_utf8EncodeChar_append
  have sameChar := decodes c first
  rw [same, decodes d second] at sameChar
  cases sameChar
  exact ⟨rfl, List.append_cancel_left same⟩

/-- Bytes that begin no character are written as they are. -/
theorem JoinsTo.exists_continued
    {continued : List UInt8}
    (joinsTo : JoinsTo written (continued ++ joined))
    (noFirst : ∀ byte ∈ continued, ¬byte.IsUTF8FirstByte) :
    ∃ more, written = continued ++ more ∧ JoinsTo more joined := by
  induction continued generalizing written with
  | nil => exact ⟨written, rfl, joinsTo⟩
  | cons byte continued inductionHypothesis =>
      obtain ⟨notFirst, noneFirst⟩ := List.forall_mem_cons.mp noFirst
      generalize isJoined : byte :: continued ++ joined = whole at joinsTo
      cases joinsTo with
      | nil => contradiction
      | byte isPlain joinsRest =>
          cases isJoined
          obtain ⟨more, rfl, joinsMore⟩ := inductionHypothesis joinsRest noneFirst
          exact ⟨more, rfl, joinsMore⟩
      | @char c spelling written further spellsChar joinsRest =>
          obtain ⟨first, others, shape, isFirst, _⟩ := exists_utf8EncodeChar c
          rw [shape] at isJoined
          cases (List.cons.inj isJoined).1
          contradiction

/-- A character whose first byte stands for itself is written as it is. -/
theorem SpellsChar.ofPlain
    {first : UInt8}
    {others : List UInt8}
    (shape : String.utf8EncodeChar c = first :: others)
    (isPlain : IsPlain first) :
    SpellsChar c [c] := by
  obtain ⟨notQuote, notBackslash, notControl⟩ := isPlain
  refine .plain ?_ ?_ ?_
  · rintro rfl
    cases shape
    contradiction
  · rintro rfl
    cases shape
    contradiction
  · intro isControl
    have isSmall : c.toNat < 32 := isControl
    rw [utf8EncodeChar_ascii (by omega)] at shape
    cases shape
    apply notControl
    rw [UInt8.lt_iff_toNat_lt]
    change c.val.toNat % 256 < 32
    exact Nat.lt_of_le_of_lt (Nat.mod_le _ _) isSmall

/-- Bytes that join to the characters of a text write these characters. -/
theorem JoinsTo.exists_spelling
    {chars : List Char}
    (joinsTo : JoinsTo written (encodeChars chars)) :
    ∃ spelling, SpellsChars chars spelling ∧ written = encodeChars spelling := by
  induction chars generalizing written with
  | nil =>
      generalize isJoined : encodeChars [] = whole at joinsTo
      cases joinsTo with
      | nil => exact ⟨[], .nil, rfl⟩
      | byte => contradiction
      | @char c =>
          obtain ⟨first, others, shape, _⟩ := exists_utf8EncodeChar c
          rw [shape] at isJoined
          contradiction
  | cons c chars inductionHypothesis =>
      rw [encodeChars_cons] at joinsTo
      generalize isJoined : String.utf8EncodeChar c ++ encodeChars chars = whole at joinsTo
      cases joinsTo with
      | nil =>
          obtain ⟨first, others, shape, _⟩ := exists_utf8EncodeChar c
          rw [shape] at isJoined
          contradiction
      | @byte byte written joined isPlain joinsRest =>
          obtain ⟨first, others, shape, _, noFirst⟩ := exists_utf8EncodeChar c
          have isWritten : encodeChars [c] = first :: others := by simp [encodeChars, shape]
          rw [shape] at isJoined
          cases isJoined
          obtain ⟨more, rfl, joinsMore⟩ := joinsRest.exists_continued noFirst
          obtain ⟨spelling, spells, rfl⟩ := inductionHypothesis joinsMore
          refine ⟨[c] ++ spelling, .cons (.ofPlain shape isPlain) spells, ?_⟩
          rw [encodeChars_append, isWritten]
          rfl
      | @char d spelt written joined spellsChar joinsRest =>
          obtain ⟨rfl, rfl⟩ := utf8EncodeChar_append_inj isJoined
          obtain ⟨spelling, spells, rfl⟩ := inductionHypothesis joinsRest
          exact ⟨spelt ++ spelling, .cons spellsChar spells, (encodeChars_append ..).symm⟩

theorem eq_encode_of_decode?
    {bytes : List UInt8}
    {text : String}
    (decodes : Text.decode? bytes = some text) :
    bytes = Text.encode text := by
  rw [Text.decode?, String.fromUTF8?] at decodes
  split at decodes
  · cases decodes
    apply List.toByteArray_inj.mp
    rw [Text.encode, Text.toByteArray_encodeChars, String.utf8Encode_toList]
    rfl
  · contradiction

/-- Pieces have a text exactly where the bytes that hold them write its characters. -/
theorem HoldsPieces.pieceText?_eq_some_iff
    {text : String}
    (holds : HoldsPieces pieces body) :
    pieceText? pieces = some text ↔
      ∃ spelling, SpellsChars text.toList spelling ∧ body = encodeChars spelling := by
  constructor
  · intro hasText
    obtain ⟨joined, joins, decodes⟩ := Option.bind_eq_some_iff.mp hasText
    cases eq_encode_of_decode? decodes
    exact (holds.joinsTo joins).exists_spelling
  · rintro ⟨spelling, spells, rfl⟩
    obtain ⟨others, scanned, joins⟩ := readsAs_spellsChars spells []
    rw [holds.scanString_eq] at scanned
    cases scanned
    rw [pieceText?, joins]
    exact Text.decode?_encode text

end Texts

end SplitTunnel.Json
