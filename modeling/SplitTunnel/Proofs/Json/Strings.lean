import Mathlib
import SplitTunnel.Json.Quoted

namespace SplitTunnel.Json

/-!
# Strings that were written

What is written between the quotes of a string is scanned up to the closing
quote and joined to the text again, whatever characters the text has.
-/

open Text (encodeChars)

theorem encodeChars_append
    (first second : List Char) :
    encodeChars (first ++ second) = encodeChars first ++ encodeChars second :=
  List.flatMap_append

theorem encodeChars_cons
    (c : Char)
    (text : List Char) :
    encodeChars (c :: text) = String.utf8EncodeChar c ++ encodeChars text :=
  List.flatMap_cons

theorem utf8EncodeChar_ascii
    {c : Char}
    (isAscii : c.toNat ≤ 0x7f) :
    String.utf8EncodeChar c = [c.toUInt8] := by
  have isSmall : c.val.toNat ≤ 0x7f := isAscii
  rw [String.utf8EncodeChar, if_pos isSmall]
  rfl

/-- A character of ASCII is written as one byte. -/
theorem encodeChars_ascii
    {c : Char}
    (isAscii : c.toNat ≤ 0x7f)
    (text : List Char) :
    encodeChars (c :: text) = c.toUInt8 :: encodeChars text := by
  rw [encodeChars_cons, utf8EncodeChar_ascii isAscii]
  rfl

/-- A byte that stands for itself between quotes. -/
structure IsPlain (byte : UInt8) : Prop where
  notQuote : byte ≠ '"'.toUInt8
  notBackslash : byte ≠ '\\'.toUInt8
  notControl : ¬byte < ' '.toUInt8

theorem scanString_plain
    {bytes more rest : List UInt8}
    {pieces : List Piece}
    (arePlain : ∀ byte ∈ bytes, IsPlain byte)
    (scanned : scanString .plain more = some (pieces, rest)) :
    scanString .plain (bytes ++ more) = some (bytes.map .byte ++ pieces, rest) := by
  induction bytes with
  | nil => exact scanned
  | cons byte bytes inductionHypothesis =>
      obtain ⟨notQuote, notBackslash, notControl⟩ := arePlain byte (List.mem_cons_self ..)
      have scannedRest := inductionHypothesis fun other member =>
        arePlain other (List.mem_cons_of_mem _ member)
      rw [List.cons_append, scanString, if_neg notQuote, if_neg notBackslash,
        if_neg notControl, scannedRest]
      rfl

theorem joinPieces_bytes
    {pieces : List Piece}
    {joined : List UInt8}
    (bytes : List UInt8)
    (joins : joinPieces pieces = some joined) :
    joinPieces (bytes.map .byte ++ pieces) = some (bytes ++ joined) := by
  induction bytes with
  | nil => exact joins
  | cons byte bytes inductionHypothesis =>
      rw [List.map_cons, List.cons_append, joinPieces, inductionHypothesis]
      rfl

/-- A code unit that is no surrogate is a character, whatever follows it. -/
theorem joinPieces_unit
    {pieces : List Piece}
    {joined : List UInt8}
    {unit : Nat}
    (notSurrogate : unit < 0xD800 ∨ 0xDFFF < unit)
    (joins : joinPieces pieces = some joined) :
    joinPieces (.unit unit :: pieces) =
      some (String.utf8EncodeChar (Char.ofNat unit) ++ joined) := by
  have notHigh : isHighSurrogate unit = false := by
    simp only [isHighSurrogate, Bool.and_eq_false_iff, decide_eq_false_iff_not]
    omega
  have notLow : isLowSurrogate unit = false := by
    simp only [isLowSurrogate, Bool.and_eq_false_iff, decide_eq_false_iff_not]
    omega
  have shape :
      joinPieces (.unit unit :: pieces) =
        (joinPieces pieces).map (String.utf8EncodeChar (Char.ofNat unit) ++ ·) := by
    cases pieces with
    | nil => simp [joinPieces, notHigh, notLow]
    | cons piece rest => cases piece <;> simp [joinPieces, notHigh, notLow]
  rw [shape, joins]
  rfl

theorem isPlain_iff
    {byte : UInt8} :
    IsPlain byte ↔ byte.toNat ≠ 34 ∧ byte.toNat ≠ 92 ∧ 32 ≤ byte.toNat := by
  have quoteIs : '"'.toUInt8.toNat = 34 := by decide
  have backslashIs : '\\'.toUInt8.toNat = 92 := by decide
  have spaceIs : ' '.toUInt8.toNat = 32 := by decide
  constructor
  · rintro ⟨notQuote, notBackslash, notControl⟩
    rw [ne_eq, ← UInt8.toNat_inj] at notQuote notBackslash
    rw [UInt8.lt_iff_toNat_lt] at notControl
    omega
  · rintro ⟨notQuote, notBackslash, notControl⟩
    refine ⟨?_, ?_, ?_⟩
    · rw [ne_eq, ← UInt8.toNat_inj]
      omega
    · rw [ne_eq, ← UInt8.toNat_inj]
      omega
    · rw [UInt8.lt_iff_toNat_lt]
      omega

/-- The bytes of a character that is written as it is stand for themselves. -/
theorem isPlain_of_mem_utf8EncodeChar
    {c : Char}
    (notQuote : c ≠ '"')
    (notBackslash : c ≠ '\\')
    (notControl : ¬c < ' ')
    {byte : UInt8}
    (member : byte ∈ String.utf8EncodeChar c) :
    IsPlain byte := by
  have notQuote : c.toNat ≠ 34 := fun same => notQuote (Char.toNat_inj.mp same)
  have notBackslash : c.toNat ≠ 92 := fun same => notBackslash (Char.toNat_inj.mp same)
  have notControl : 32 ≤ c.toNat := Nat.not_lt.mp notControl
  rw [isPlain_iff]
  change c.val.toNat ≠ 34 at notQuote
  change c.val.toNat ≠ 92 at notBackslash
  change 32 ≤ c.val.toNat at notControl
  rw [String.utf8EncodeChar] at member
  repeat' split at member
  all_goals
    simp only [List.mem_cons, List.not_mem_nil, or_false] at member
    rcases member with rfl | rfl | rfl | rfl <;> simp only [UInt8.toNat_ofNat'] <;> omega

section Characters

variable {bytes rest joined : List UInt8} {pieces : List Piece} {c letter : Char}

/-- Bytes that are scanned and joined to the bytes of a character and those that follow. -/
def ReadsAs (bytes joined rest : List UInt8) : Prop :=
  ∃ pieces,
    scanString .plain bytes = some (pieces, rest) ∧ joinPieces pieces = some joined

/-- After a backslash the letter of a short escape is scanned as the byte it stands for. -/
theorem scanString_escape
    (letterIsAscii : letter.toNat ≤ 0x7f)
    (notUnit : letter.toUInt8 ≠ 'u'.toUInt8)
    (isEscape : escaped? (Char.ofUInt8 letter.toUInt8) = some c)
    (bytes : List UInt8) :
    scanString .plain (encodeChars ['\\', letter] ++ bytes) =
      withPiece (.byte c.toUInt8) (scanString .plain bytes) := by
  have notQuote : '\\'.toUInt8 ≠ '"'.toUInt8 := by decide
  rw [encodeChars_ascii (by decide), encodeChars_ascii letterIsAscii, List.cons_append,
    scanString, if_neg notQuote, if_pos rfl, List.cons_append, scanString, if_neg notUnit,
    isEscape]
  rfl

theorem readsAs_escape
    (reads : ReadsAs bytes joined rest)
    (letterIsAscii : letter.toNat ≤ 0x7f)
    (isAscii : c.toNat ≤ 0x7f)
    (notUnit : letter.toUInt8 ≠ 'u'.toUInt8)
    (isEscape : escaped? (Char.ofUInt8 letter.toUInt8) = some c) :
    ReadsAs (encodeChars ['\\', letter] ++ bytes) (String.utf8EncodeChar c ++ joined) rest := by
  obtain ⟨pieces, scanned, joins⟩ := reads
  refine ⟨.byte c.toUInt8 :: pieces, ?_, ?_⟩
  · rw [scanString_escape letterIsAscii notUnit isEscape, scanned]
    rfl
  · rw [joinPieces, joins, utf8EncodeChar_ascii isAscii]
    rfl

/-- A character of ASCII stands for a hexadecimal digit. -/
def ReadsDigit (c : Char) (digit : Nat) : Prop :=
  c.toNat ≤ 0x7f ∧ Text.hexDigit? (Char.ofUInt8 c.toUInt8) = some digit

instance (c : Char) (digit : Nat) : Decidable (ReadsDigit c digit) :=
  inferInstanceAs (Decidable (_ ∧ _))

theorem readsDigit_digitChar :
    ∀ n < 16, ReadsDigit (Nat.digitChar n) n := by
  decide

/-- After a backslash and a `u` the four digits of a code unit are scanned. -/
theorem scanString_digits
    {first second third fourth : Char}
    {a b c d : Nat}
    (firstReads : ReadsDigit first a)
    (secondReads : ReadsDigit second b)
    (thirdReads : ReadsDigit third c)
    (fourthReads : ReadsDigit fourth d)
    (bytes : List UInt8) :
    scanString .plain (encodeChars ['\\', 'u', first, second, third, fourth] ++ bytes) =
      withPiece (.unit (0x1000 * a + 0x100 * b + 0x10 * c + d)) (scanString .plain bytes) := by
  obtain ⟨firstIsAscii, firstDigit⟩ := firstReads
  obtain ⟨secondIsAscii, secondDigit⟩ := secondReads
  obtain ⟨thirdIsAscii, thirdDigit⟩ := thirdReads
  obtain ⟨fourthIsAscii, fourthDigit⟩ := fourthReads
  have notQuote : '\\'.toUInt8 ≠ '"'.toUInt8 := by decide
  have isUnit :
      16 * (16 * (16 * (16 * 0 + a) + b) + c) + d = 0x1000 * a + 0x100 * b + 0x10 * c + d := by
    omega
  rw [encodeChars_ascii (by decide), encodeChars_ascii (by decide),
    encodeChars_ascii firstIsAscii, encodeChars_ascii secondIsAscii,
    encodeChars_ascii thirdIsAscii, encodeChars_ascii fourthIsAscii, List.cons_append,
    scanString, if_neg notQuote, if_pos rfl, List.cons_append, scanString, if_pos rfl]
  simp only [List.cons_append, scanString, firstDigit, secondDigit, thirdDigit, fourthDigit,
    isUnit]
  rfl

/-- A character is no surrogate and lies in the range of Unicode. -/
theorem toNat_bounds (c : Char) :
    c.toNat < 0xD800 ∨ 0xDFFF < c.toNat ∧ c.toNat < 0x110000 :=
  c.valid

/-- The code unit of a character is read as the character. -/
theorem readsAs_ofUnit
    {written : List UInt8}
    (reads : ReadsAs bytes joined rest)
    (isUnit : scanString .plain written = withPiece (.unit c.toNat) (scanString .plain bytes)) :
    ReadsAs written (String.utf8EncodeChar c ++ joined) rest := by
  obtain ⟨pieces, scanned, joins⟩ := reads
  have bounds := toNat_bounds c
  refine ⟨.unit c.toNat :: pieces, ?_, ?_⟩
  · rw [isUnit, scanned]
    rfl
  · rw [joinPieces_unit (by omega) joins, Char.ofNat_toNat]

theorem readsAs_control
    (reads : ReadsAs bytes joined rest)
    (isControl : c < ' ') :
    ReadsAs (encodeChars ('\\' :: 'u' :: '0' :: '0' :: controlDigits c) ++ bytes)
      (String.utf8EncodeChar c ++ joined) rest := by
  have isSmall : c.toNat < 32 := isControl
  have zero : ReadsDigit '0' 0 := by decide
  have high := readsDigit_digitChar (c.toNat / 16) (by omega)
  have low := readsDigit_digitChar (c.toNat % 16) (by omega)
  have isCode :
      0x1000 * 0 + 0x100 * 0 + 0x10 * (c.toNat / 16) + c.toNat % 16 = c.toNat := by
    omega
  apply readsAs_ofUnit reads
  rw [controlDigits, scanString_digits zero zero high low, isCode]

theorem readsAs_plain
    (reads : ReadsAs bytes joined rest)
    (notQuote : c ≠ '"')
    (notBackslash : c ≠ '\\')
    (notControl : ¬c < ' ') :
    ReadsAs (encodeChars [c] ++ bytes) (String.utf8EncodeChar c ++ joined) rest := by
  obtain ⟨pieces, scanned, joins⟩ := reads
  have isWritten : encodeChars [c] = String.utf8EncodeChar c := by simp [encodeChars]
  refine ⟨(String.utf8EncodeChar c).map .byte ++ pieces, ?_, joinPieces_bytes _ joins⟩
  rw [isWritten]
  exact scanString_plain
    (fun byte => isPlain_of_mem_utf8EncodeChar notQuote notBackslash notControl) scanned

/-- A character as it is written is read as the character, whatever it is. -/
theorem readsAs_escapeChar
    (reads : ReadsAs bytes joined rest)
    (c : Char) :
    ReadsAs (encodeChars (escapeChar c) ++ bytes) (String.utf8EncodeChar c ++ joined) rest := by
  unfold escapeChar
  split
  iterate 7 exact readsAs_escape reads (by decide) (by decide) (by decide) (by decide)
  · rename_i notQuote notBackslash _ _ _ _ _
    split
    · rename_i isControl
      exact readsAs_control reads isControl
    · rename_i notControl
      exact readsAs_plain reads notQuote notBackslash notControl

end Characters

/-- What is written between quotes is read as the text. -/
theorem readsAs_text
    (text : List Char)
    (rest : List UInt8) :
    ReadsAs (encodeChars (text.flatMap escapeChar) ++ '"'.toUInt8 :: rest)
      (encodeChars text) rest := by
  induction text with
  | nil => exact ⟨[], rfl, rfl⟩
  | cons c text inductionHypothesis =>
      have reads := readsAs_escapeChar inductionHypothesis c
      simpa [encodeChars] using reads

end SplitTunnel.Json
