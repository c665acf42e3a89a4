import SplitTunnel.Json.Value
import SplitTunnel.Text.Visible

namespace SplitTunnel.Json

/-!
# Faults of JSON texts

A text can be malformed, or hold another kind of value than its reader asks for,
or hold a number that does not fit.  Of several faults the first in the text is
reported.  That is why a value that does not fit is looked for in the part of a
broken text that was read, and why a part that nobody looks at is checked for
its grammar only.
-/

/-- The kind of value that was found where another was expected. -/
inductive Found where
  | null
  | boolean (value : Bool)
  | number (value : Number)
  | string (text : String)
  | sequence
  | map
  deriving Repr, DecidableEq

/-- The words for a value that was found. -/
def Found.words : Found → String
  | .null => "null"
  | .boolean value => "boolean `" ++ toString value ++ "`"
  | .number (.integer value) => "integer `" ++ toString value ++ "`"
  | .number (.double negative magnitude) =>
      "floating point `" ++ String.ofList (magnitude.faultText negative) ++ "`"
  | .string text => "string " ++ String.ofList (Text.showQuoted text)
  | .sequence => "sequence"
  | .map => "map"

/-- Why a text does not decode. -/
inductive Fault where
  | malformed
  | mismatch (found : Found) (expected : String)
  | outOfRange (found : Found) (expected : String)
  deriving Repr, DecidableEq

/-- What is said about a text that does not decode. -/
def Fault.message : Fault → String
  | .malformed => "malformed JSON"
  | .mismatch found expected => s!"invalid type: {found.words}, expected {expected}"
  | .outOfRange found expected => s!"invalid value: {found.words}, expected {expected}"

/-- The kind of a value that was read, unless the value itself is malformed. -/
def Value.found : ReadValue → Except Fault Found
  | .null => .ok .null
  | .boolean value => .ok (.boolean value)
  | .number spelling =>
      match spelling.value? with
      | none => .error .malformed
      | some value => .ok (.number value)
  | .string none => .error .malformed
  | .string (some text) => .ok (.string text)
  | .array _ => .ok .sequence
  | .object _ => .ok .map

/-- The fault of a value that stands where another kind was expected. -/
def Value.mismatch (value : ReadValue) (expected : String) : Fault :=
  match value.found with
  | .error fault => fault
  | .ok found => .mismatch found expected

/-- Decode a text: a part that does not fit is reported before a later fault of grammar. -/
def decode (ofValue : ReadValue → Except Fault α) (bytes : List UInt8) : Except Fault α :=
  match read bytes with
  | .complete value =>
      ofValue value
  | .broken none =>
      .error .malformed
  | .broken (some part) =>
      match ofValue part with
      | .error fault =>
          .error fault
      | .ok _ =>
          .error .malformed

end SplitTunnel.Json
