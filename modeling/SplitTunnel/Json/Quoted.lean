import SplitTunnel.Text.Numeral
import SplitTunnel.Text.Utf8

namespace SplitTunnel.Json

/-!
# Strings in JSON texts

Between its quotes a string holds bytes and escapes.  Reading takes two steps:
scanning finds the closing quote and refuses control characters and unknown
escapes; the pieces found are then joined to a text, which fails where a
surrogate stands alone or the bytes are not UTF-8.  A string that nothing looks
at is only scanned.
-/

/-- A part of a string: a byte, or the code unit of a `\u` escape. -/
inductive Piece where
  | byte (value : UInt8)
  | unit (value : Nat)
  deriving Repr, DecidableEq

/-- Where a scan stands: after an escape's `u`, some digits are missing. -/
inductive ScanState where
  | plain
  | escape
  | unit (missing value : Nat)
  deriving Repr, DecidableEq

/-- The character that a one-letter escape stands for. -/
def escaped? : Char → Option Char
  | '"' => some '"'
  | '\\' => some '\\'
  | '/' => some '/'
  | 'b' => some '\x08'
  | 'f' => some '\x0c'
  | 'n' => some '\n'
  | 'r' => some '\r'
  | 't' => some '\t'
  | _ => none

/-- Put a piece before the pieces found further on. -/
def withPiece
    (piece : Piece)
    (found? : Option (List Piece × List UInt8)) :
    Option (List Piece × List UInt8) :=
  found?.map fun found => (piece :: found.1, found.2)

/-- Scan to the closing quote: the pieces before it and the bytes after it. -/
def scanString : ScanState → List UInt8 → Option (List Piece × List UInt8)
  | _, [] => none
  | .plain, byte :: rest =>
      if byte = '"'.toUInt8 then
        some ([], rest)
      else if byte = '\\'.toUInt8 then
        scanString .escape rest
      else if byte < ' '.toUInt8 then
        none
      else
        withPiece (.byte byte) (scanString .plain rest)
  | .escape, byte :: rest =>
      if byte = 'u'.toUInt8 then
        scanString (.unit 3 0) rest
      else
        match escaped? (Char.ofUInt8 byte) with
        | none =>
            none
        | some c =>
            withPiece (.byte c.toUInt8) (scanString .plain rest)
  | .unit missing value, byte :: rest =>
      match Text.hexDigit? (Char.ofUInt8 byte) with
      | none =>
          none
      | some digit =>
          match missing with
          | 0 =>
              withPiece (.unit (16 * value + digit)) (scanString .plain rest)
          | further + 1 =>
              scanString (.unit further (16 * value + digit)) rest

/-- The bytes after the closing quote are fewer than the bytes scanned. -/
theorem scanString_shorter
    {state : ScanState}
    {bytes : List UInt8}
    {pieces : List Piece}
    {rest : List UInt8}
    (scanned : scanString state bytes = some (pieces, rest)) :
    rest.length < bytes.length := by
  induction bytes generalizing state pieces with
  | nil => cases state <;> simp [scanString] at scanned
  | cons byte bytes inductionHypothesis =>
      have further
          {piece : Piece}
          (found : withPiece piece (scanString .plain bytes) = some (pieces, rest)) :
          rest.length < bytes.length := by
        obtain ⟨⟨pieces, rest⟩, scannedRest, same⟩ := Option.map_eq_some_iff.mp found
        cases same
        exact inductionHypothesis scannedRest
      rw [List.length_cons]
      cases state with
      | plain =>
          rw [scanString] at scanned
          split at scanned
          · cases scanned
            exact Nat.lt_succ_self _
          · split at scanned
            · exact Nat.lt_succ_of_lt (inductionHypothesis scanned)
            · split at scanned
              · contradiction
              · exact Nat.lt_succ_of_lt (further scanned)
      | escape =>
          rw [scanString] at scanned
          split at scanned
          · exact Nat.lt_succ_of_lt (inductionHypothesis scanned)
          · split at scanned
            · contradiction
            · exact Nat.lt_succ_of_lt (further scanned)
      | unit missing value =>
          rw [scanString] at scanned
          split at scanned
          · contradiction
          · split at scanned
            · exact Nat.lt_succ_of_lt (further scanned)
            · exact Nat.lt_succ_of_lt (inductionHypothesis scanned)

/-- Whether a code unit is the first of a surrogate pair. -/
def isHighSurrogate (unit : Nat) : Bool :=
  0xD800 ≤ unit && unit ≤ 0xDBFF

/-- Whether a code unit is the second of a surrogate pair. -/
def isLowSurrogate (unit : Nat) : Bool :=
  0xDC00 ≤ unit && unit ≤ 0xDFFF

/-- The character of a surrogate pair. -/
def pairedChar (high low : Nat) : Char :=
  Char.ofNat (0x10000 + (high - 0xD800) * 0x400 + (low - 0xDC00))

/-- The bytes of joined pieces, unless a surrogate stands alone. -/
def joinPieces : List Piece → Option (List UInt8)
  | [] => some []
  | .byte value :: rest =>
      (joinPieces rest).map (value :: ·)
  | .unit high :: .unit low :: rest =>
      if isHighSurrogate high then
        if isLowSurrogate low then
          (joinPieces rest).map (String.utf8EncodeChar (pairedChar high low) ++ ·)
        else
          none
      else if isLowSurrogate high then
        none
      else
        (joinPieces (.unit low :: rest)).map (String.utf8EncodeChar (Char.ofNat high) ++ ·)
  | .unit value :: rest =>
      if isHighSurrogate value || isLowSurrogate value then
        none
      else
        (joinPieces rest).map (String.utf8EncodeChar (Char.ofNat value) ++ ·)

/-- The text of the pieces of a string, if they have one. -/
def pieceText? (pieces : List Piece) : Option String :=
  (joinPieces pieces).bind Text.decode?

/-- The small hexadecimal digits of a control character. -/
def controlDigits (c : Char) : List Char :=
  [Nat.digitChar (c.toNat / 16), Nat.digitChar (c.toNat % 16)]

/-- A character as it is written inside a string. -/
def escapeChar (c : Char) : List Char :=
  match c with
  | '"' => ['\\', '"']
  | '\\' => ['\\', '\\']
  | '\x08' => ['\\', 'b']
  | '\x0c' => ['\\', 'f']
  | '\n' => ['\\', 'n']
  | '\r' => ['\\', 'r']
  | '\t' => ['\\', 't']
  | _ =>
      if c < ' ' then
        '\\' :: 'u' :: '0' :: '0' :: controlDigits c
      else
        [c]

/-- A text between quotes. -/
def quote (text : String) : List Char :=
  '"' :: (text.toList.flatMap escapeChar ++ ['"'])

end SplitTunnel.Json
