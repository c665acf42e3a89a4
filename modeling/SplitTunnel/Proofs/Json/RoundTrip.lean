import SplitTunnel.Json.Fault
import SplitTunnel.Json.Parsed
import SplitTunnel.Proofs.Json.Gathering
import SplitTunnel.Proofs.Json.Strings

namespace SplitTunnel.Json

/-!
# Reading what was written

A value that is written in one line is cut into its tokens again and read as the
same value, with every string known to be a text.  Only values without numbers
are considered: a number ends where something else begins.
-/

open Text (encodeChars)

mutual

/-- Whether a value holds no number. -/
def hasNoNumber : WrittenValue → Bool
  | .number _ => false
  | .array elements => haveNoNumber elements
  | .object members => membersHaveNoNumber members
  | _ => true

/-- Whether no element holds a number. -/
def haveNoNumber : List WrittenValue → Bool
  | [] => true
  | element :: rest => hasNoNumber element && haveNoNumber rest

/-- Whether no member holds a number. -/
def membersHaveNoNumber : List (String × WrittenValue) → Bool
  | [] => true
  | member :: rest => memberHasNoNumber member && membersHaveNoNumber rest

/-- Whether the value of a member holds no number. -/
def memberHasNoNumber : String × WrittenValue → Bool
  | (_, value) => hasNoNumber value

end

theorem tokens_cons
    {byte : UInt8}
    {bytes rest : List UInt8}
    {token : Token}
    (notSpace : isSpace byte = false)
    (scanned : scanToken byte bytes = some (token, rest)) :
    tokens (byte :: bytes) = token :: tokens rest := by
  rw [tokens, notSpace]
  simp only [Bool.false_eq_true, if_false]
  split <;> simp_all

theorem scanToken_quote
    (bytes : List UInt8) :
    scanToken '"'.toUInt8 bytes =
      (scanString .plain bytes).map fun found => (.string (pieceText? found.1), found.2) := by
  have notPunctuation : punctuation? '"'.toUInt8 = none := by decide
  rw [scanToken, notPunctuation]
  exact if_pos rfl

/-- What stands between quotes is a string token, with the text that it is read as. -/
theorem tokens_string
    {text : String}
    {written : List Char}
    {rest : List UInt8}
    (reads : ReadsAs (encodeChars written ++ '"'.toUInt8 :: rest) (encodeChars text.toList) rest) :
    tokens (encodeChars ('"' :: (written ++ ['"'])) ++ rest) =
      .string (some text) :: tokens rest := by
  obtain ⟨pieces, scanned, joins⟩ := reads
  have isText : pieceText? pieces = some text := by
    rw [pieceText?, joins]
    exact Text.decode?_encode text
  rw [encodeChars_ascii (by decide), encodeChars_append, encodeChars_ascii (by decide),
    List.cons_append, List.append_assoc]
  refine tokens_cons (by decide) ?_
  change scanToken _ (encodeChars _ ++ '"'.toUInt8 :: rest) = _
  rw [scanToken_quote, scanned, Option.map_some, isText]

/-- A text between quotes is a string token. -/
theorem tokens_quote
    (text : String)
    (rest : List UInt8) :
    tokens (encodeChars (quote text) ++ rest) = .string (some text) :: tokens rest :=
  tokens_string (readsAs_text text.toList rest)

/-- A character that is a token is cut off at once. -/
theorem tokens_punctuation
    {c : Char}
    {token : Token}
    (isAscii : c.toNat ≤ 0x7f)
    (notSpace : isSpace c.toUInt8 = false)
    (isToken : punctuation? c.toUInt8 = some token)
    (text : List Char)
    (rest : List UInt8) :
    tokens (encodeChars (c :: text) ++ rest) = token :: tokens (encodeChars text ++ rest) := by
  rw [encodeChars_ascii isAscii, List.cons_append]
  refine tokens_cons notSpace ?_
  rw [scanToken, isToken]

theorem tokens_literal
    {word : String}
    {token : Token}
    (member : (word, token) ∈ literals)
    (rest : List UInt8) :
    tokens (encodeChars word.toList ++ rest) = token :: tokens rest := by
  simp only [literals, List.mem_cons, Prod.mk.injEq, List.not_mem_nil, or_false] at member
  rcases member with ⟨rfl, rfl⟩ | ⟨rfl, rfl⟩ | ⟨rfl, rfl⟩ <;>
    exact tokens_cons (by decide) (by rfl)

mutual

/-- What is written for a value is cut into the tokens of the value. -/
theorem tokens_compact
    (value : WrittenValue)
    (noNumber : hasNoNumber value = true)
    (rest : List UInt8) :
    tokens (encodeChars (compact value) ++ rest) =
      valueTokens (readBack value) ++ tokens rest := by
  match value with
  | .null => exact tokens_literal (by decide) rest
  | .boolean true => exact tokens_literal (by decide) rest
  | .boolean false => exact tokens_literal (by decide) rest
  | .string text => exact tokens_quote text rest
  | .array elements =>
      rw [hasNoNumber] at noNumber
      have within := tokens_compactElements elements noNumber (encodeChars [']'] ++ rest)
      rw [tokens_punctuation (by decide) (by decide) rfl] at within
      rw [compact, tokens_punctuation (by decide) (by decide) rfl, encodeChars_append,
        List.append_assoc, within, readBack, valueTokens]
      simp [encodeChars]
  | .object members =>
      rw [hasNoNumber] at noNumber
      have within := tokens_compactMembers members noNumber (encodeChars ['\x7d'] ++ rest)
      rw [tokens_punctuation (by decide) (by decide) rfl] at within
      rw [compact, tokens_punctuation (by decide) (by decide) rfl, encodeChars_append,
        List.append_assoc, within, readBack, valueTokens]
      simp [encodeChars]
termination_by sizeOf value

theorem tokens_compactElements
    (elements : List WrittenValue)
    (noNumber : haveNoNumber elements = true)
    (rest : List UInt8) :
    tokens (encodeChars (compactElements elements) ++ rest) =
      elementTokens (readBackElements elements) ++ tokens rest := by
  match elements with
  | [] => rfl
  | [element] =>
      simp only [haveNoNumber, Bool.and_true] at noNumber
      exact tokens_compact element noNumber rest
  | element :: next :: others =>
      rw [haveNoNumber, Bool.and_eq_true] at noNumber
      have first := tokens_compact element noNumber.1
        (encodeChars (',' :: compactElements (next :: others)) ++ rest)
      have further := tokens_compactElements (next :: others) noNumber.2 rest
      rw [tokens_punctuation (by decide) (by decide) rfl, further] at first
      change tokens (encodeChars (compact element ++ ',' :: compactElements (next :: others)) ++
          rest) =
        valueTokens (readBack element) ++
            .comma :: elementTokens (readBackElements (next :: others)) ++
          tokens rest
      rw [encodeChars_append, List.append_assoc, first, List.append_assoc]
      rfl
termination_by sizeOf elements

theorem tokens_compactMembers
    (members : List (String × WrittenValue))
    (noNumber : membersHaveNoNumber members = true)
    (rest : List UInt8) :
    tokens (encodeChars (compactMembers members) ++ rest) =
      memberTokens (readBackMembers members) ++ tokens rest := by
  match members with
  | [] => rfl
  | [member] =>
      simp only [membersHaveNoNumber, Bool.and_true] at noNumber
      exact tokens_compactMember member noNumber rest
  | member :: next :: others =>
      rw [membersHaveNoNumber, Bool.and_eq_true] at noNumber
      have first := tokens_compactMember member noNumber.1
        (encodeChars (',' :: compactMembers (next :: others)) ++ rest)
      have further := tokens_compactMembers (next :: others) noNumber.2 rest
      rw [tokens_punctuation (by decide) (by decide) rfl, further] at first
      change tokens (encodeChars (compactMember member ++ ',' :: compactMembers (next :: others)) ++
          rest) =
        oneMemberTokens (readBackMember member) ++
            .comma :: memberTokens (readBackMembers (next :: others)) ++
          tokens rest
      rw [encodeChars_append, List.append_assoc, first, List.append_assoc]
      rfl
termination_by sizeOf members

theorem tokens_compactMember
    (member : String × WrittenValue)
    (noNumber : memberHasNoNumber member = true)
    (rest : List UInt8) :
    tokens (encodeChars (compactMember member) ++ rest) =
      oneMemberTokens (readBackMember member) ++ tokens rest := by
  match member with
  | (key, value) =>
      rw [memberHasNoNumber] at noNumber
      have written := tokens_compact value noNumber rest
      rw [compactMember, encodeChars_append, List.append_assoc, tokens_quote,
        tokens_punctuation (by decide) (by decide) rfl, written, readBackMember,
        oneMemberTokens]
      rfl
termination_by sizeOf member

end

/-- A value without numbers is read as it was written. -/
theorem read_encode
    {value : WrittenValue}
    (noNumber : hasNoNumber value = true) :
    read (encode value) = .complete (readBack value) := by
  have cut := tokens_compact value noNumber []
  rw [List.append_nil, tokens, List.append_nil] at cut
  rw [read, encode, cut]
  exact Reading.resume_start _

/-- What is read of a value that was written is what the value is read back as. -/
theorem decode_encode
    {value : WrittenValue}
    (noNumber : hasNoNumber value = true)
    (ofValue : ReadValue → Except Fault α) :
    decode ofValue (encode value) = ofValue (readBack value) := by
  rw [decode, read_encode noNumber]

end SplitTunnel.Json
