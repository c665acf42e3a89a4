namespace SplitTunnel.Text

/-!
# Texts in columns

Tables are printed with columns of a fixed least width.  The width counts
characters, the padding is made of spaces, and a text that is too wide is left
as it is unless it is cut to a precision first.
-/

/-- Where a text stands in a column that is wider than the text. -/
inductive Alignment where
  | left
  | center
  | right
  deriving Repr, DecidableEq

/-- Pad a text with spaces to a least width; in the middle, the odd space goes right. -/
def pad
    (alignment : Alignment)
    (width : Nat)
    (text : List Char) :
    List Char :=
  let missing := width - text.length
  let before :=
    match alignment with
    | .left => 0
    | .center => missing / 2
    | .right => missing
  List.replicate before ' ' ++ text ++ List.replicate (missing - before) ' '

/-- A text in a column, cut to a precision first. -/
def column
    (alignment : Alignment)
    (width : Nat)
    (precision? : Option Nat)
    (text : List Char) :
    List Char :=
  match precision? with
  | none =>
      pad alignment width text
  | some precision =>
      pad alignment width (text.take precision)

/-- A text at the left end of a column. -/
def padRight (width : Nat) (text : String) : String :=
  String.ofList (pad .left width text.toList)

end SplitTunnel.Text
