import SplitTunnel.Json.Fault
import SplitTunnel.Json.Writer
import SplitTunnel.Named
import SplitTunnel.SortedMap.Basic

namespace SplitTunnel.Json

/-!
# Types with a JSON form

A type has a JSON form if its values are written as JSON values and read back.
Reading checks the parts of a value in their order, so the first part that does
not fit is the one that is reported.
-/

/-- A type whose values are written as JSON values. -/
class Typed (α : Type) where
  toValue : α → WrittenValue
  ofValue : ReadValue → Except Fault α

/-- The bytes of a typed value. -/
def encodeTyped [Typed α] (value : α) : List UInt8 :=
  encode (Typed.toValue value)

/-- Read the bytes of a typed value. -/
def decodeTyped [Typed α] (bytes : List UInt8) : Except Fault α :=
  decode Typed.ofValue bytes

/-- Read a natural number below a limit. -/
def naturalOfValue
    (limit : Nat)
    (expected : String)
    (value : ReadValue) :
    Except Fault Nat :=
  match value.found with
  | .error fault =>
      .error fault
  | .ok (.number (.integer number)) =>
      if 0 ≤ number ∧ number < limit then
        .ok number.natAbs
      else
        .error (.outOfRange (.number (.integer number)) expected)
  | .ok found =>
      .error (.mismatch found expected)

instance : Typed UInt32 where
  toValue value := .number (.ofNat value.toNat)
  ofValue value := (naturalOfValue (Nat.pow 2 32) "u32" value).map UInt32.ofNat

instance : Typed UInt64 where
  toValue value := .number (.ofNat value.toNat)
  ofValue value := (naturalOfValue (Nat.pow 2 64) "u64" value).map UInt64.ofNat

instance [Typed α] : Typed (List α) where
  toValue elements := .array (elements.map Typed.toValue)
  ofValue
    | .array elements => elements.mapM Typed.ofValue
    | value => .error (value.mismatch "a sequence")

/-- Read the members of an object, whose keys must be texts. -/
def membersOfValue
    (ofValue : ReadValue → Except Fault α)
    (members : ReadMembers) :
    Except Fault (List (String × α)) :=
  members.mapM fun member =>
    match member.1 with
    | none =>
        .error .malformed
    | some key =>
        (ofValue member.2).map fun value => (key, value)

instance [Typed α] : Typed (SortedMap String α) where
  toValue map := .object (map.entries.map fun entry => (entry.1, Typed.toValue entry.2))
  ofValue
    | .object members => (membersOfValue Typed.ofValue members).map SortedMap.ofList
    | value => .error (value.mismatch "a map")

/-- The choice that a name or a member with that name and no value stands for. -/
def namedOfValue [Named α] : ReadValue → Except Fault α
  | .string (some name) => named name
  | .object [(some name, .null)] => named name
  | _ => .error .malformed
where
  named (name : String) : Except Fault α :=
    match Named.ofName? name with
    | some choice =>
        .ok choice
    | none =>
        .error .malformed

end SplitTunnel.Json
