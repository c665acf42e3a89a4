import SplitTunnel.Text.Numeral

namespace SplitTunnel

/-!
# Version codes

An installed build of a package is identified by a version code, a signed
number of 64 bits.  Codes are compared and never added, so they are kept as
integers and the width matters only where a code is read from a text.
-/

/-- The number that identifies an installed build of a package. -/
abbrev VersionCode := Int

namespace VersionCode

/-- The largest version code. -/
def largest : Nat :=
  9223372036854775807

/-- The distance of the smallest version code from zero. -/
def depth : Nat :=
  9223372036854775808

/-- Whether a number fits the width of a version code. -/
def InRange (code : VersionCode) : Prop :=
  -(depth : Int) ≤ code ∧ code ≤ (largest : Int)

instance (code : VersionCode) : Decidable (InRange code) :=
  inferInstanceAs (Decidable (_ ∧ _))

/-- Why a text is not a version code. -/
inductive Fault where
  | empty
  | invalidDigit
  | tooLarge
  | tooSmall
  deriving Repr, DecidableEq

/-- What is said about a text that is not a version code. -/
def Fault.message : Fault → String
  | .empty => "cannot parse integer from empty string"
  | .invalidDigit => "invalid digit found in string"
  | .tooLarge => "number too large to fit in target type"
  | .tooSmall => "number too small to fit in target type"

/--
Read the digits after a sign, up to a limit.

The fault that comes first in the text is reported: a run of digits beyond the
limit before a character that is no digit.
-/
def readMagnitude
    (limit : Nat)
    (beyond : Fault)
    (text : List Char) :
    Except Fault Nat :=
  let value := Text.numeralValue (text.takeWhile Char.isDigit)
  if limit < value then
    .error beyond
  else if Text.isNumeral text then
    .ok value
  else
    .error .invalidDigit

/-- Read a version code: at most one sign, then digits and nothing else. -/
def ofText (text : List Char) : Except Fault VersionCode :=
  match text with
  | [] =>
      .error .empty
  | '+' :: digits =>
      (readMagnitude largest .tooLarge digits).map Int.ofNat
  | '-' :: digits =>
      (readMagnitude depth .tooSmall digits).map fun value => -Int.ofNat value
  | digits =>
      (readMagnitude largest .tooLarge digits).map Int.ofNat

/-- The text of a version code. -/
def toText (code : VersionCode) : List Char :=
  if code < 0 then
    '-' :: Text.numeral code.natAbs
  else
    Text.numeral code.natAbs

end VersionCode

end SplitTunnel
