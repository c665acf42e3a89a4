import SplitTunnel.Json.Number
import SplitTunnel.Json.Quoted

namespace SplitTunnel.Json

/-!
# Tokens of JSON texts

A text is cut into tokens up to its end or to the first place where no token
stands, which is marked by a token of its own.  White space between tokens is
the space, the tab and the two line breaks of ASCII, nothing else.
-/

/-- A token; a string has no text if it is not well formed. -/
inductive Token where
  | beginObject
  | endObject
  | beginArray
  | endArray
  | colon
  | comma
  | null
  | boolean (value : Bool)
  | number (spelling : NumberText)
  | string (text? : Option String)
  /-- No token stands here, and nothing after this place is read. -/
  | fault
  deriving Repr, DecidableEq

/-- A token and the bytes after it. -/
abbrev Scanned :=
  Option (Token × List UInt8)

/-- Whether a byte is white space between tokens. -/
def isSpace (byte : UInt8) : Bool :=
  match Char.ofUInt8 byte with
  | ' ' | '\t' | '\n' | '\r' => true
  | _ => false

/-- The token that a single byte writes. -/
def punctuation? (byte : UInt8) : Option Token :=
  match Char.ofUInt8 byte with
  | '{' => some .beginObject
  | '}' => some .endObject
  | '[' => some .beginArray
  | ']' => some .endArray
  | ':' => some .colon
  | ',' => some .comma
  | _ => none

/-- The words that are values. -/
def literals : List (String × Token) :=
  [("null", .null), ("true", .boolean true), ("false", .boolean false)]

/-- The literal at the start of a text. -/
def scanLiteral (bytes : List UInt8) : Scanned :=
  literals.findSome? fun literal =>
    ((Text.encode literal.1).isPrefixOf? bytes).map fun rest => (literal.2, rest)

/-- Whether a byte is an ASCII digit. -/
def isDigitByte (byte : UInt8) : Bool :=
  (Char.ofUInt8 byte).isDigit

/-- The digits at the start of a text. -/
def leadingDigits (bytes : List UInt8) : List Char :=
  (bytes.takeWhile isDigitByte).map Char.ofUInt8

/-- What follows the digits at the start of a text. -/
def afterDigits (bytes : List UInt8) : List UInt8 :=
  bytes.dropWhile isDigitByte

/-- The fraction at the start of a text, empty if there is no point. -/
def scanFraction (bytes : List UInt8) : Option (List Char × List UInt8) :=
  match bytes with
  | [] =>
      some ([], [])
  | byte :: rest =>
      if byte = '.'.toUInt8 then
        if leadingDigits rest = [] then
          none
        else
          some (leadingDigits rest, afterDigits rest)
      else
        some ([], bytes)

/-- The sign of an exponent, which may be left out. -/
def scanExponentSign (bytes : List UInt8) : Bool × List UInt8 :=
  match bytes with
  | [] =>
      (false, [])
  | byte :: rest =>
      if byte = '-'.toUInt8 then
        (true, rest)
      else if byte = '+'.toUInt8 then
        (false, rest)
      else
        (false, bytes)

/-- The exponent at the start of a text, if there is one. -/
def scanExponent (bytes : List UInt8) : Option (Option (Bool × List Char) × List UInt8) :=
  match bytes with
  | [] =>
      some (none, [])
  | byte :: rest =>
      if byte = 'e'.toUInt8 ∨ byte = 'E'.toUInt8 then
        let signed := scanExponentSign rest
        if leadingDigits signed.2 = [] then
          none
        else
          some (some (signed.1, leadingDigits signed.2), afterDigits signed.2)
      else
        some (none, bytes)

/-- Whether digits may stand before the point: a zero is not followed by more. -/
def isWholePart : List Char → Bool
  | [] => false
  | '0' :: _ :: _ => false
  | _ => true

/-- The number at the start of a text without its sign. -/
def scanMagnitude (negative : Bool) (bytes : List UInt8) : Scanned :=
  if isWholePart (leadingDigits bytes) then
    (scanFraction (afterDigits bytes)).bind fun fraction =>
      (scanExponent fraction.2).map fun exponent =>
        (.number {
          negative := negative
          whole := leadingDigits bytes
          fraction := fraction.1
          exponent? := exponent.1
        }, exponent.2)
  else
    none

/-- The token at the start of a text. -/
def scanToken (byte : UInt8) (rest : List UInt8) : Scanned :=
  match punctuation? byte with
  | some token =>
      some (token, rest)
  | none =>
      if byte = '"'.toUInt8 then
        (scanString .plain rest).map fun found => (.string (pieceText? found.1), found.2)
      else if byte = '-'.toUInt8 then
        scanMagnitude true rest
      else if isDigitByte byte then
        scanMagnitude false (byte :: rest)
      else
        scanLiteral (byte :: rest)

/-- Dropping the digits leaves no more bytes. -/
theorem length_afterDigits_le (bytes : List UInt8) :
    (afterDigits bytes).length ≤ bytes.length :=
  (List.dropWhile_suffix isDigitByte).length_le

/-- Digits at the start are not left after dropping them. -/
theorem length_afterDigits_lt
    {bytes : List UInt8}
    (notEmpty : leadingDigits bytes ≠ []) :
    (afterDigits bytes).length < bytes.length := by
  cases bytes with
  | nil => exact absurd rfl notEmpty
  | cons byte rest =>
      cases digit : isDigitByte byte with
      | false => simp [leadingDigits, digit] at notEmpty
      | true =>
          rw [afterDigits, List.dropWhile_cons, digit]
          exact Nat.lt_succ_of_le (length_afterDigits_le rest)

/-- A fraction takes bytes from the start only. -/
theorem scanFraction_shorter
    {bytes rest : List UInt8}
    {fraction : List Char}
    (scanned : scanFraction bytes = some (fraction, rest)) :
    rest.length ≤ bytes.length := by
  cases bytes with
  | nil =>
      cases scanned
      exact Nat.le_refl _
  | cons byte after =>
      rw [scanFraction] at scanned
      split at scanned
      · split at scanned
        · contradiction
        · cases scanned
          exact Nat.le_succ_of_le (length_afterDigits_le after)
      · cases scanned
        exact Nat.le_refl _

/-- A sign takes bytes from the start only. -/
theorem scanExponentSign_shorter (bytes : List UInt8) :
    (scanExponentSign bytes).2.length ≤ bytes.length := by
  cases bytes with
  | nil => exact Nat.le_refl _
  | cons byte after =>
      rw [scanExponentSign]
      split
      · exact Nat.le_succ _
      · split
        · exact Nat.le_succ _
        · exact Nat.le_refl _

/-- An exponent takes bytes from the start only. -/
theorem scanExponent_shorter
    {bytes rest : List UInt8}
    {exponent? : Option (Bool × List Char)}
    (scanned : scanExponent bytes = some (exponent?, rest)) :
    rest.length ≤ bytes.length := by
  cases bytes with
  | nil =>
      cases scanned
      exact Nat.le_refl _
  | cons byte after =>
      rw [scanExponent] at scanned
      split at scanned
      · dsimp only at scanned
        split at scanned
        · contradiction
        · cases scanned
          have afterSign := scanExponentSign_shorter after
          have afterRun := length_afterDigits_le (scanExponentSign after).2
          exact Nat.le_succ_of_le (Nat.le_trans afterRun afterSign)
      · cases scanned
        exact Nat.le_refl _

/-- A number takes at least one byte. -/
theorem scanMagnitude_shorter
    {negative : Bool}
    {bytes rest : List UInt8}
    {token : Token}
    (scanned : scanMagnitude negative bytes = some (token, rest)) :
    rest.length < bytes.length := by
  rw [scanMagnitude] at scanned
  split at scanned
  · rename_i whole
    obtain ⟨⟨fraction, afterFraction⟩, fractionScanned, scannedRest⟩ :=
      Option.bind_eq_some_iff.mp scanned
    obtain ⟨⟨exponent?, afterExponent⟩, exponentScanned, same⟩ :=
      Option.map_eq_some_iff.mp scannedRest
    cases same
    have notEmpty : leadingDigits bytes ≠ [] := by
      intro isEmpty
      rw [isEmpty] at whole
      contradiction
    exact Nat.lt_of_le_of_lt (scanExponent_shorter exponentScanned)
      (Nat.lt_of_le_of_lt (scanFraction_shorter fractionScanned)
        (length_afterDigits_lt notEmpty))
  · contradiction

/-- What follows a word that a text starts with. -/
theorem append_of_isPrefixOf?
    {word bytes rest : List UInt8}
    (starts : word.isPrefixOf? bytes = some rest) :
    bytes = word ++ rest := by
  induction word generalizing bytes with
  | nil =>
      cases starts
      rfl
  | cons first word inductionHypothesis =>
      cases bytes with
      | nil => cases starts
      | cons byte bytes =>
          change (if first == byte then word.isPrefixOf? bytes else none) = some rest at starts
          split at starts
          · rename_i same
            rw [inductionHypothesis starts, eq_of_beq same]
            rfl
          · contradiction

/-- A literal takes at least one byte. -/
theorem scanLiteral_shorter
    {bytes rest : List UInt8}
    {token : Token}
    (scanned : scanLiteral bytes = some (token, rest)) :
    rest.length < bytes.length := by
  obtain ⟨literal, member, found⟩ := List.exists_of_findSome?_eq_some scanned
  obtain ⟨after, starts, same⟩ := Option.map_eq_some_iff.mp found
  cases same
  rw [append_of_isPrefixOf? starts, List.length_append]
  have notEmpty : ∀ literal ∈ literals, 0 < (Text.encode literal.1).length := by decide
  have := notEmpty literal member
  omega

/-- A token takes at least one byte. -/
theorem scanToken_shorter
    {byte : UInt8}
    {bytes rest : List UInt8}
    {token : Token}
    (scanned : scanToken byte bytes = some (token, rest)) :
    rest.length < bytes.length + 1 := by
  rw [scanToken] at scanned
  split at scanned
  · cases scanned
    exact Nat.lt_succ_self _
  · split at scanned
    · obtain ⟨⟨pieces, after⟩, scannedString, same⟩ := Option.map_eq_some_iff.mp scanned
      cases same
      exact Nat.lt_succ_of_lt (scanString_shorter scannedString)
    · split at scanned
      · exact Nat.lt_succ_of_lt (scanMagnitude_shorter scanned)
      · split at scanned
        · exact scanMagnitude_shorter scanned
        · exact scanLiteral_shorter scanned

/-- The tokens of a text. -/
def tokens : List UInt8 → List Token
  | [] => []
  | byte :: bytes =>
      if isSpace byte then
        tokens bytes
      else
        match _ : scanToken byte bytes with
        | none =>
            [.fault]
        | some (token, rest) =>
            token :: tokens rest
termination_by bytes => bytes.length
decreasing_by
  · exact Nat.lt_succ_self _
  · exact scanToken_shorter (by assumption)

end SplitTunnel.Json
