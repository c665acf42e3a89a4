import SplitTunnel.Proofs.Json.RoundTrip

namespace SplitTunnel.Json

/-!
# The ways to write a value

A value has many texts: white space may stand around its tokens, a character of
a string may be written as it is or by any of its escapes, and an exponent in
several ways.  The relations below say which texts write a token, and which
texts write a value, without reading any of them.
-/

/-- Characters that are all white space between tokens. -/
def IsBlank (text : List Char) : Prop :=
  ∀ c ∈ text, c ∈ [' ', '\t', '\n', '\r']

/-- A character writes a hexadecimal digit, in either case. -/
def IsHexDigit (c : Char) (digit : Nat) : Prop :=
  digit < 16 ∧ (c = Nat.digitChar digit ∨ c = (Nat.digitChar digit).toUpper)

instance (c : Char) (digit : Nat) : Decidable (IsHexDigit c digit) :=
  inferInstanceAs (Decidable (_ ∧ _))

/-- Four hexadecimal digits write a code unit. -/
inductive SpellsUnit : Nat → List Char → Prop where
  | digits
      {first second third fourth : Char}
      {a b c d : Nat}
      (firstIs : IsHexDigit first a)
      (secondIs : IsHexDigit second b)
      (thirdIs : IsHexDigit third c)
      (fourthIs : IsHexDigit fourth d) :
      SpellsUnit (0x1000 * a + 0x100 * b + 0x10 * c + d) [first, second, third, fourth]

/-- The letters of short escapes, with the characters that they stand for. -/
def shortEscapes : List (Char × Char) :=
  [('"', '"'), ('\\', '\\'), ('/', '/'), ('b', '\x08'), ('f', '\x0c'), ('n', '\n'), ('r', '\r'),
    ('t', '\t')]

/-- A text between quotes writes a character. -/
inductive SpellsChar (c : Char) : List Char → Prop where
  | plain
      (notQuote : c ≠ '"')
      (notBackslash : c ≠ '\\')
      (notControl : ¬c < ' ') :
      SpellsChar c [c]
  | short
      {letter : Char}
      (isEscape : (letter, c) ∈ shortEscapes) :
      SpellsChar c ['\\', letter]
  | unit
      {digits : List Char}
      (spellsUnit : SpellsUnit c.toNat digits) :
      SpellsChar c ('\\' :: 'u' :: digits)
  | pair
      {high low : List Char}
      (isBeyond : 0x10000 ≤ c.toNat)
      (spellsHigh : SpellsUnit (0xD800 + (c.toNat - 0x10000) / 0x400) high)
      (spellsLow : SpellsUnit (0xDC00 + (c.toNat - 0x10000) % 0x400) low) :
      SpellsChar c ('\\' :: 'u' :: (high ++ '\\' :: 'u' :: low))

/-- A text between quotes writes several characters. -/
inductive SpellsChars : List Char → List Char → Prop where
  | nil :
      SpellsChars [] []
  | cons
      {c : Char}
      {chars written more : List Char}
      (spellsChar : SpellsChar c written)
      (spellsRest : SpellsChars chars more) :
      SpellsChars (c :: chars) (written ++ more)

/-- A text writes the fraction of a number, which may be absent. -/
inductive SpellsFraction : List Char → List Char → Prop where
  | absent :
      SpellsFraction [] []
  | present
      {digits : List Char}
      (isNumeral : Text.isNumeral digits = true) :
      SpellsFraction digits ('.' :: digits)

/-- A text writes the exponent of a number, which may be absent. -/
inductive SpellsExponent : Option (Bool × List Char) → List Char → Prop where
  | absent :
      SpellsExponent none []
  | present
      {letter : Char}
      {negative : Bool}
      {sign digits : List Char}
      (isLetter : letter = 'e' ∨ letter = 'E')
      (isSign : (negative, sign) ∈ [(false, []), (false, ['+']), (true, ['-'])])
      (isNumeral : Text.isNumeral digits = true) :
      SpellsExponent (some (negative, digits)) (letter :: (sign ++ digits))

/-- A text writes a number; a zero does not stand before other digits. -/
inductive SpellsNumber (spelling : NumberText) : List Char → Prop where
  | parts
      {fraction exponent : List Char}
      (isNumeral : Text.isNumeral spelling.whole = true)
      (noLeadingZero : spelling.whole.head? = some '0' → spelling.whole = ['0'])
      (spellsFraction : SpellsFraction spelling.fraction fraction)
      (spellsExponent : SpellsExponent spelling.exponent? exponent) :
      SpellsNumber spelling
        (Decimal.signed spelling.negative (spelling.whole ++ fraction ++ exponent))

/-- A text writes a token. -/
inductive SpellsToken : Token → List Char → Prop where
  | beginObject : SpellsToken .beginObject ['{']
  | endObject : SpellsToken .endObject ['}']
  | beginArray : SpellsToken .beginArray ['[']
  | endArray : SpellsToken .endArray [']']
  | colon : SpellsToken .colon [':']
  | comma : SpellsToken .comma [',']
  | null : SpellsToken .null "null".toList
  | trueWord : SpellsToken (.boolean true) "true".toList
  | falseWord : SpellsToken (.boolean false) "false".toList
  | number
      {spelling : NumberText}
      {written : List Char}
      (spellsNumber : SpellsNumber spelling written) :
      SpellsToken (.number spelling) written
  | string
      {text : String}
      {written : List Char}
      (spellsChars : SpellsChars text.toList written) :
      SpellsToken (.string (some text)) ('"' :: (written ++ ['"']))

/-- A text writes tokens, with white space around them. -/
inductive Spells : List Token → List Char → Prop where
  | nil
      {blank : List Char}
      (isBlank : IsBlank blank) :
      Spells [] blank
  | cons
      {token : Token}
      {tokens : List Token}
      {blank written more : List Char}
      (isBlank : IsBlank blank)
      (spellsToken : SpellsToken token written)
      (spellsRest : Spells tokens more) :
      Spells (token :: tokens) (blank ++ written ++ more)

/-- A text writes a value. -/
def Writes (value : WrittenValue) (text : List Char) : Prop :=
  Spells (valueTokens (readBack value)) text

/-- A token may follow without white space. -/
theorem Spells.tight
    {token : Token}
    {tokens : List Token}
    {written more : List Char}
    (spellsToken : SpellsToken token written)
    (spellsRest : Spells tokens more) :
    Spells (token :: tokens) (written ++ more) :=
  .cons (List.forall_mem_nil _) spellsToken spellsRest

/-- A text without quotes, backslashes and controls writes itself. -/
theorem spellsChars_self
    {chars : List Char}
    (ordinary : ∀ c ∈ chars, c ≠ '"' ∧ c ≠ '\\' ∧ ¬c < ' ') :
    SpellsChars chars chars := by
  induction chars with
  | nil => exact .nil
  | cons c chars inductionHypothesis =>
      obtain ⟨notQuote, notBackslash, notControl⟩ := ordinary c (List.mem_cons_self ..)
      exact .cons (.plain notQuote notBackslash notControl)
        (inductionHypothesis fun other member => ordinary other (List.mem_cons_of_mem _ member))

end SplitTunnel.Json
