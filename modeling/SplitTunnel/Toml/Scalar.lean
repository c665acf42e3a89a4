import SplitTunnel.Decimal.Binary64
import SplitTunnel.Toml.Text

namespace SplitTunnel.Toml

/-!
# Values of TOML other than strings, arrays and tables

No setting takes a number, a boolean or a date, so these are only recognized:
a word is a scalar or it is not.  A number must fit its type: an integer 64 bits,
and a number with a fraction or an exponent must not exceed all doubles.
-/

/-- Whether a character may stand in a scalar. -/
def isScalarChar (c : Char) : Bool :=
  c.isAlphanum || c == '+' || c == '-' || c == '_' || c == '.' || c == ':'

/-- Remove one sign at the start of a word. -/
def dropSign : List Char → List Char
  | '+' :: rest => rest
  | '-' :: rest => rest
  | word => word

/-- Whether a word is made of digits with single underscores between them. -/
def isDigitRun (isDigit : Char → Bool) : List Char → Bool
  | [] => false
  | [c] => isDigit c
  | c :: '_' :: rest => isDigit c && isDigitRun isDigit rest
  | c :: rest => isDigit c && isDigitRun isDigit rest

/-- Whether a word is a decimal number without a sign and without zeros before it. -/
def isWholeNumber : List Char → Bool
  | ['0'] => true
  | '0' :: _ => false
  | word => isDigitRun Char.isDigit word

/-- Whether a word is an integer that fits 64 bits. -/
def isInteger (word : List Char) : Bool :=
  let isHex (c : Char) : Bool := (Text.hexDigit? c).isSome
  let isOctal (c : Char) : Bool := '0' ≤ c && c ≤ '7'
  let isBinary (c : Char) : Bool := c == '0' || c == '1'
  let value (base : Nat) (digits : List Char) : Nat :=
    digits.foldl
      (fun total digit =>
        match Text.hexDigit? digit with
        | none => total
        | some number => base * total + number)
      0
  match word with
  | '0' :: 'x' :: digits => isDigitRun isHex digits && value 16 digits < Nat.pow 2 63
  | '0' :: 'o' :: digits => isDigitRun isOctal digits && value 8 digits < Nat.pow 2 63
  | '0' :: 'b' :: digits => isDigitRun isBinary digits && value 2 digits < Nat.pow 2 63
  | '-' :: digits => isWholeNumber digits && value 10 digits ≤ Nat.pow 2 63
  | _ => isWholeNumber (dropSign word) && value 10 (dropSign word) < Nat.pow 2 63

/-- Whether a word is what follows the `e` of an exponent. -/
def isExponent (word : List Char) : Bool :=
  isDigitRun Char.isDigit (dropSign word)

/-- Split a word before the first character that a test accepts. -/
def splitBefore (test : Char → Bool) (word : List Char) : List Char × List Char :=
  word.span fun c => !test c

/-- The number that the digits among some characters write. -/
def digitsValue (chars : List Char) : Nat :=
  Text.numeralValue (chars.filter Char.isDigit)

/-- The decimal of a number, with the point before its fraction and the mark before its exponent. -/
def decimalOf (whole fraction exponent : List Char) : Decimal where
  significand := digitsValue (whole ++ fraction)
  exponent :=
    let shift : Int :=
      match exponent with
      | _ :: '-' :: digits => -Int.ofNat (digitsValue digits)
      | digits => Int.ofNat (digitsValue digits)
    shift - (fraction.filter Char.isDigit).length

/--
Whether a word is a number with a fraction or an exponent, or a special number.

A number above all doubles is refused; one below them all is taken.
-/
def isFloat (word : List Char) : Bool :=
  let magnitude := dropSign word
  let isMark (c : Char) : Bool := c == 'e' || c == 'E'
  let (number, exponent) := splitBefore isMark magnitude
  let (whole, fraction) := splitBefore (fun c => c == '.') number
  let fractionFits :=
    match fraction with
    | [] => !exponent.isEmpty
    | _ :: digits => isDigitRun Char.isDigit digits
  let exponentFits :=
    match exponent with
    | [] => true
    | _ :: digits => isExponent digits
  let isBounded :=
    word.head? == some '-' || (decimalOf whole fraction exponent).toBinary64?.isSome
  magnitude == "inf".toList || magnitude == "nan".toList ||
    (isWholeNumber whole && fractionFits && exponentFits && isBounded)

/-- The number of so many digits at the start of a word, if it lies in a range. -/
def scanField (size low high : Nat) (word : List Char) : Scanned Nat :=
  let digits := word.take size
  let value := Text.numeralValue digits
  if digits.length = size ∧ digits.all Char.isDigit ∧ low ≤ value ∧ value ≤ high then
    some (value, word.drop size)
  else
    none

/-- Skip a character. -/
def skipChar (expected : Char) : List Char → Option (List Char)
  | [] => none
  | c :: rest => if c = expected then some rest else none

/-- The number of days of a month. -/
def monthDays (year month : Nat) : Nat :=
  if month = 2 then
    if year % 4 = 0 ∧ (year % 100 ≠ 0 ∨ year % 400 = 0) then 29 else 28
  else if month = 4 ∨ month = 6 ∨ month = 9 ∨ month = 11 then
    30
  else
    31

/-- The rest after a date at the start of a word. -/
def skipDate (word : List Char) : Option (List Char) := do
  let (year, rest) ← scanField 4 0 9999 word
  let rest ← skipChar '-' rest
  let (month, rest) ← scanField 2 1 12 rest
  let rest ← skipChar '-' rest
  let (_, rest) ← scanField 2 1 (monthDays year month) rest
  some rest

/-- The rest after a time of day at the start of a word. -/
def skipTime (word : List Char) : Option (List Char) := do
  let (_, rest) ← scanField 2 0 23 word
  let rest ← skipChar ':' rest
  let (_, rest) ← scanField 2 0 59 rest
  let rest ← skipChar ':' rest
  let (_, rest) ← scanField 2 0 60 rest
  match rest with
  | '.' :: c :: fraction =>
      if c.isDigit then
        some (fraction.dropWhile Char.isDigit)
      else
        none
  | _ => some rest

/-- Whether a word is the offset of a time, or nothing. -/
def isOffset (word : List Char) : Bool :=
  let isMinutes (rest : List Char) : Bool :=
    match scanField 2 0 23 rest with
    | some (_, ':' :: minutes) => (scanField 2 0 59 minutes).any fun found => found.2.isEmpty
    | _ => false
  match word with
  | [] => true
  | ['Z'] => true
  | ['z'] => true
  | '+' :: rest => isMinutes rest
  | '-' :: rest => isMinutes rest
  | _ => false

/-- Whether a word is a date, a time, or both with an offset or without. -/
def isDateTime (word : List Char) : Bool :=
  match skipDate word with
  | some [] => true
  | some (separator :: rest) =>
      (separator == 'T' || separator == 't' || separator == ' ') &&
        (skipTime rest).any isOffset
  | none => skipTime word == some []

/-- Whether a word is a scalar. -/
def isScalar (word : List Char) : Bool :=
  word == "true".toList || word == "false".toList ||
    isInteger word || isFloat word || isDateTime word

/-- The word at the start of a text; a date and a time may have a space between them. -/
def scanWord (text : List Char) : List Char × List Char :=
  let (word, rest) := text.span isScalarChar
  match skipDate word, rest with
  | some [], ' ' :: c :: more =>
      if c.isDigit then
        let (time, after) := (c :: more).span isScalarChar
        (word ++ ' ' :: time, after)
      else
        (word, rest)
  | _, _ => (word, rest)

/-- Skip the scalar at the start of a text. -/
def skipScalar (text : List Char) : Option (List Char) :=
  let (word, rest) := scanWord text
  if isScalar word then
    some rest
  else
    none

end SplitTunnel.Toml
