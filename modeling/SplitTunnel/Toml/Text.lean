import SplitTunnel.Text.Numeral

namespace SplitTunnel.Toml

/-!
# Strings in TOML texts

A string stands between single or double quotes, one of them or three.  Only
double quotes know escapes, and only three quotes allow line breaks.  The
scanners start after the opening quotes and give the string and what follows the
closing quotes.  A line break is a single character here: the two characters
that some systems write have been joined before.
-/

/-- What a scanner found, and the rest of the text. -/
abbrev Scanned (α : Type) :=
  Option (α × List Char)

/-- Whether a character is a blank inside a line. -/
def isLineBlank (c : Char) : Bool :=
  c == ' ' || c == '\t'

/-- Whether a character may stand in comments and strings: no control character but the tab. -/
def isPlain (c : Char) : Bool :=
  c == '\t' || (' ' ≤ c && c != '\x7f')

/-- Put characters before those found further on. -/
def withChars (chars : List Char) (found? : Scanned (List Char)) : Scanned (List Char) :=
  found?.map fun found => (chars ++ found.1, found.2)

/-- A string between single quotes. -/
def scanLiteral : List Char → Scanned (List Char)
  | [] => none
  | c :: rest =>
      if c = '\'' then
        some ([], rest)
      else if isPlain c then
        withChars [c] (scanLiteral rest)
      else
        none

/-- Where the scan of a string with escapes stands. -/
inductive EscapeState where
  | plain
  | escape
  | scalar (missing value : Nat)
  deriving Repr, DecidableEq

/-- The character that a one-letter escape stands for. -/
def escaped? : Char → Option Char
  | 'b' => some '\x08'
  | 't' => some '\t'
  | 'n' => some '\n'
  | 'f' => some '\x0c'
  | 'r' => some '\r'
  | '"' => some '"'
  | '\\' => some '\\'
  | _ => none

/-- What a character after a backslash gives: a character or the start of a code point. -/
def escapeStart? (c : Char) : Option (List Char × EscapeState) :=
  match c with
  | 'u' => some ([], .scalar 3 0)
  | 'U' => some ([], .scalar 7 0)
  | _ => (escaped? c).map fun char => ([char], .plain)

/-- What a digit of a code point gives: the next digit, or the character at the last. -/
def scalarStep? (missing value : Nat) (c : Char) : Option (List Char × EscapeState) :=
  (Text.hexDigit? c).bind fun digit =>
    let code := 16 * value + digit
    match missing with
    | further + 1 => some ([], .scalar further code)
    | 0 =>
        if code.isValidChar then
          some ([Char.ofNat code], .plain)
        else
          none

/-- A string between double quotes. -/
def scanBasic : EscapeState → List Char → Scanned (List Char)
  | _, [] => none
  | .plain, c :: rest =>
      if c = '"' then
        some ([], rest)
      else if c = '\\' then
        scanBasic .escape rest
      else if isPlain c then
        withChars [c] (scanBasic .plain rest)
      else
        none
  | .escape, c :: rest =>
      (escapeStart? c).bind fun step => withChars step.1 (scanBasic step.2 rest)
  | .scalar missing value, c :: rest =>
      (scalarStep? missing value c).bind fun step => withChars step.1 (scanBasic step.2 rest)

/-- The end of a string in three quotes: up to two further quotes still belong to it. -/
def closeBlock (quote : Char) (rest : List Char) : List Char × List Char :=
  let further := (rest.take 2).takeWhile fun c => c == quote
  (further, rest.drop further.length)

/-- A string between three single quotes each, after some quotes inside it. -/
def scanLiteralBlock (quotes : Nat) : List Char → Scanned (List Char)
  | [] => none
  | c :: rest =>
      if c = '\'' then
        if quotes = 2 then
          some (closeBlock '\'' rest)
        else
          scanLiteralBlock (quotes + 1) rest
      else if isPlain c || c == '\n' then
        withChars (List.replicate quotes '\'' ++ [c]) (scanLiteralBlock 0 rest)
      else
        none

/-- Where the scan of a string in three double quotes stands. -/
inductive BlockState where
  /-- In the text, after some quotes. -/
  | plain (quotes : Nat)
  | escape (state : EscapeState)
  /-- After a backslash and blanks, before the end of the line. -/
  | lineEnd
  /-- After a backslash at the end of a line, among the blanks that it removes. -/
  | lineStart
  deriving Repr, DecidableEq

/-- A string between three double quotes each. -/
def scanBasicBlock : BlockState → List Char → Scanned (List Char)
  | _, [] => none
  | .plain quotes, c :: rest =>
      if c = '"' then
        if quotes = 2 then
          some (closeBlock '"' rest)
        else
          scanBasicBlock (.plain (quotes + 1)) rest
      else
        withChars (List.replicate quotes '"')
          (if c = '\\' then
            scanBasicBlock (.escape .escape) rest
          else if isPlain c || c == '\n' then
            withChars [c] (scanBasicBlock (.plain 0) rest)
          else
            none)
  | .escape .plain, _ => none
  | .escape .escape, c :: rest =>
      if c = '\n' then
        scanBasicBlock .lineStart rest
      else if isLineBlank c then
        scanBasicBlock .lineEnd rest
      else
        (escapeStart? c).bind fun step =>
          withChars step.1 (scanBasicBlock (afterEscape step.2) rest)
  | .escape (.scalar missing value), c :: rest =>
      (scalarStep? missing value c).bind fun step =>
        withChars step.1 (scanBasicBlock (afterEscape step.2) rest)
  | .lineEnd, c :: rest =>
      if c = '\n' then
        scanBasicBlock .lineStart rest
      else if isLineBlank c then
        scanBasicBlock .lineEnd rest
      else
        none
  | .lineStart, c :: rest =>
      if c = '\n' || isLineBlank c then
        scanBasicBlock .lineStart rest
      else if c = '"' then
        scanBasicBlock (.plain 1) rest
      else if c = '\\' then
        scanBasicBlock (.escape .escape) rest
      else if isPlain c then
        withChars [c] (scanBasicBlock (.plain 0) rest)
      else
        none
where
  afterEscape : EscapeState → BlockState
    | .plain => .plain 0
    | state => .escape state

/-- Drop the line break right after three opening quotes. -/
def dropFirstBreak : List Char → List Char
  | '\n' :: rest => rest
  | text => text

/-- A string of any kind at the start of a text. -/
def scanString (text : List Char) : Scanned String :=
  let found? : Scanned (List Char) :=
    match text with
    | '"' :: '"' :: '"' :: rest => scanBasicBlock (.plain 0) (dropFirstBreak rest)
    | '"' :: rest => scanBasic .plain rest
    | '\'' :: '\'' :: '\'' :: rest => scanLiteralBlock 0 (dropFirstBreak rest)
    | '\'' :: rest => scanLiteral rest
    | _ => none
  found?.map fun found => (String.ofList found.1, found.2)

/-- Join the two characters of a line break; other carriage returns stay and fit nowhere. -/
def joinBreaks : List Char → List Char
  | '\r' :: '\n' :: rest => '\n' :: joinBreaks rest
  | c :: rest => c :: joinBreaks rest
  | [] => []

end SplitTunnel.Toml
