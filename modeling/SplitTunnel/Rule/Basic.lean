import SplitTunnel.Version

namespace SplitTunnel

/-!
# Version rules

A rule says which version codes of a package it accepts: all of them, one of
them, those on one side of a bound, or those of a range.  The numbers of a rule
are natural numbers; version codes may also be negative.
-/

/-- The side of a bound that a comparison rule accepts. -/
inductive Comparison where
  | greater
  | greaterOrEqual
  | less
  | lessOrEqual
  deriving Repr, DecidableEq

namespace Comparison

/-- The operator that writes a comparison. -/
def symbol : Comparison → String
  | .greater => ">"
  | .greaterOrEqual => ">="
  | .less => "<"
  | .lessOrEqual => "<="

/-- Whether a version code lies on the accepted side of a bound. -/
def accepts (comparison : Comparison) (bound : Int) (version : VersionCode) : Bool :=
  match comparison with
  | .greater => bound < version
  | .greaterOrEqual => bound ≤ version
  | .less => version < bound
  | .lessOrEqual => version ≤ bound

end Comparison

/-- A condition on version codes. -/
inductive Rule where
  | any
  | exact (version : Nat)
  | comparison (operator : Comparison) (bound : Nat)
  | range (low high : Nat)
  deriving Repr, DecidableEq

namespace Rule

/-- Whether a rule accepts a version code. -/
def accepts (rule : Rule) (version : VersionCode) : Bool :=
  match rule with
  | .any => true
  | .exact expected => version == expected
  | .comparison operator bound => operator.accepts bound version
  | .range low high => (low : Int) ≤ version && version ≤ (high : Int)

/-- The canonical text of a rule, with numbers in their shortest form. -/
def toText : Rule → List Char
  | .any => ['*']
  | .exact version => Text.numeral version
  | .comparison operator bound => operator.symbol.toList ++ Text.numeral bound
  | .range low high =>
      '[' :: (Text.numeral low ++ '-' :: (Text.numeral high ++ [']']))

/-- The canonical text of a rule. -/
def text (rule : Rule) : String :=
  String.ofList rule.toText

/-- Whether one of several rules accepts a version code; no rules accept nothing. -/
def anyAccepts (rules : List Rule) (version : VersionCode) : Bool :=
  rules.any fun rule => rule.accepts version

end Rule

end SplitTunnel
