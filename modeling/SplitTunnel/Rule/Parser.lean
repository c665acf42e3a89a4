import SplitTunnel.Rule.Basic
import SplitTunnel.Text.Blank

namespace SplitTunnel

/-!
# Reading version rules

A rule text is read in two steps.  The form says which kind of rule the text
writes and where its digit runs stand; it is a matter of shape alone.  The
numbers are then checked against the largest version code and, in a range,
against each other.
-/

/-- The shape of a rule text, with its digit runs still unread. -/
inductive RuleForm where
  | any
  | exact (digits : List Char)
  | comparison (operator : Comparison) (digits : List Char)
  | range (low high : List Char)
  deriving Repr, DecidableEq

namespace RuleForm

/-- The text of which a form is the shape. -/
def toText : RuleForm → List Char
  | .any => ['*']
  | .exact digits => digits
  | .comparison operator digits => operator.symbol.toList ++ digits
  | .range low high => '[' :: (low ++ '-' :: (high ++ [']']))

/-- Every digit run of a form is a numeral. -/
def IsWritten : RuleForm → Prop
  | .any => True
  | .exact digits => Text.isNumeral digits = true
  | .comparison _ digits => Text.isNumeral digits = true
  | .range low high => Text.isNumeral low = true ∧ Text.isNumeral high = true

/-- The comparison whose digit run follows its operator. -/
def comparison? (operator : Comparison) (digits : List Char) : Option RuleForm :=
  if Text.isNumeral digits then
    some (.comparison operator digits)
  else
    none

/-- The range whose text follows an opening bracket. -/
def range? (inner : List Char) : Option RuleForm :=
  let low := inner.takeWhile Char.isDigit
  match inner.dropWhile Char.isDigit with
  | '-' :: rest =>
      let high := rest.takeWhile Char.isDigit
      if low ≠ [] ∧ high ≠ [] ∧ rest.dropWhile Char.isDigit = [']'] then
        some (.range low high)
      else
        none
  | _ => none

/-- The form of a text without blanks around it, if it has one. -/
def ofText? : List Char → Option RuleForm
  | ['*'] => some .any
  | '[' :: inner => range? inner
  | '>' :: '=' :: digits => comparison? .greaterOrEqual digits
  | '>' :: digits => comparison? .greater digits
  | '<' :: '=' :: digits => comparison? .lessOrEqual digits
  | '<' :: digits => comparison? .less digits
  | text => if Text.isNumeral text then some (.exact text) else none

end RuleForm

/-- Why a text is no rule; the texts are kept without the blanks around them. -/
inductive RuleFault where
  | empty
  | unrecognized (text : String)
  | outOfRange (text : String)
  | invertedRange (text : String)
  deriving Repr, DecidableEq

/-- What is said about a text that is no rule. -/
def RuleFault.message : RuleFault → String
  | .empty => "rule is empty"
  | .unrecognized text => s!"unrecognized rule '{text}'"
  | .outOfRange text => s!"number out of range in rule '{text}'"
  | .invertedRange text => s!"range minimum exceeds maximum in rule '{text}'"

namespace Rule

/-- The rule that a form writes, unless one of its numbers is refused. -/
def ofForm (form : RuleForm) : Except RuleFault Rule :=
  let text := String.ofList form.toText
  match form with
  | .any =>
      .ok .any
  | .exact digits =>
      let version := Text.numeralValue digits
      if VersionCode.largest < version then
        .error (.outOfRange text)
      else
        .ok (.exact version)
  | .comparison operator digits =>
      let bound := Text.numeralValue digits
      if VersionCode.largest < bound then
        .error (.outOfRange text)
      else
        .ok (.comparison operator bound)
  | .range lowDigits highDigits =>
      let low := Text.numeralValue lowDigits
      let high := Text.numeralValue highDigits
      if VersionCode.largest < low ∨ VersionCode.largest < high then
        .error (.outOfRange text)
      else if high < low then
        .error (.invertedRange text)
      else
        .ok (.range low high)

/-- Read a rule, not minding blanks around it. -/
def parse (text : String) : Except RuleFault Rule :=
  match Text.trim text.toList with
  | [] =>
      .error .empty
  | trimmed =>
      match RuleForm.ofText? trimmed with
      | none =>
          .error (.unrecognized (String.ofList trimmed))
      | some form =>
          ofForm form

/-- The rule that a text writes, if it writes one. -/
def parse? (text : String) : Option Rule :=
  (parse text).toOption

/-- The rules among several texts, in their order; the other texts are dropped. -/
def parseValid (texts : List String) : List Rule :=
  texts.filterMap parse?

end Rule

end SplitTunnel
