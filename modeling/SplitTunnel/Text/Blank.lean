namespace SplitTunnel.Text

/-!
# Blank characters

Rule texts, names and numbers are read after the blank characters around them
are removed.  Blank means the Unicode property White_Space, not only the blanks
of ASCII.
-/

/-- The ranges of the Unicode property White_Space, both ends included. -/
def blankRanges : List (Nat × Nat) :=
  [(0x09, 0x0D), (0x20, 0x20), (0x85, 0x85), (0xA0, 0xA0), (0x1680, 0x1680),
    (0x2000, 0x200A), (0x2028, 0x2029), (0x202F, 0x202F), (0x205F, 0x205F),
    (0x3000, 0x3000)]

/-- Whether a character has the Unicode property White_Space. -/
def isBlank (c : Char) : Bool :=
  blankRanges.any fun range => range.1 ≤ c.toNat && c.toNat ≤ range.2

/-- Remove the blanks at the start of a text. -/
def trimStart (text : List Char) : List Char :=
  text.dropWhile isBlank

/-- Remove the blanks at the end of a text. -/
def trimEnd (text : List Char) : List Char :=
  (trimStart text.reverse).reverse

/-- Remove the blanks at both ends of a text. -/
def trim (text : List Char) : List Char :=
  trimEnd (trimStart text)

/-- Whether a text holds nothing but blanks. -/
def isAllBlank (text : List Char) : Bool :=
  text.all isBlank

/-- Write a text with small ASCII letters. -/
def lowercase (text : List Char) : List Char :=
  text.map Char.toLower

end SplitTunnel.Text
