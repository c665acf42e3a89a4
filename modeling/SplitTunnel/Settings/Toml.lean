import SplitTunnel.Settings.Basic
import SplitTunnel.Toml.Parser

namespace SplitTunnel

/-!
# Settings in TOML

Settings are read from a main table with the sections `store` and `policy`.  A
key that is not known and a value of another kind make the whole text invalid.
A section may also be a list of its values in their fixed order, in which values
beyond the last known one are not looked at; several tables under one header are
such a list too.
-/

namespace Settings

open Toml

/-- The text that a node is. -/
def textOfNode? : Node → Option String
  | .text value => some value
  | _ => none

/-- Whether all keys are known. -/
def hasOnly (known : List String) (members : Members) : Bool :=
  members.all fun member => known.contains member.1

/-- The value under a key, if there is one; the outer `none` is a value that does not fit. -/
def field? (ofNode? : Node → Option α) (key : String) (members : Members) : Option (Option α) :=
  match members.lookup key with
  | none => some none
  | some node => (ofNode? node).map some

/-- The value at a place of a list, if the list reaches so far. -/
def element?
    (ofNode? : Node → Option α)
    (place : Nat)
    (elements : List Node) :
    Option (Option α) :=
  match elements[place]? with
  | none => some none
  | some node => (ofNode? node).map some

/-- The elements of a node that is a list. -/
def elementsOfNode? : Node → Option (List Node)
  | .array elements => some elements
  | .tables elements => some (elements.map (Node.table .opened))
  | _ => none

/-- Read the settings of the store from the values of a section. -/
def storeOfElements? (elements : List Node) : Option StoreSettings := do
  let directory? ← element? textOfNode? 0 elements
  let lockName? ← element? textOfNode? 1 elements
  let tempName? ← element? textOfNode? 2 elements
  let rulesName? ← element? textOfNode? 3 elements
  some {
    directory? := directory?
    lockName? := lockName?
    tempName? := tempName?
    rulesName? := rulesName?
  }

/-- Read the settings of the store. -/
def storeOfNode? : Node → Option StoreSettings
  | .table _ members =>
      if hasOnly ["dir", "lock_file", "temp_file", "rules_file"] members then do
        let directory? ← field? textOfNode? "dir" members
        let lockName? ← field? textOfNode? "lock_file" members
        let tempName? ← field? textOfNode? "temp_file" members
        let rulesName? ← field? textOfNode? "rules_file" members
        some {
          directory? := directory?
          lockName? := lockName?
          tempName? := tempName?
          rulesName? := rulesName?
        }
      else
        none
  | node => (elementsOfNode? node).bind storeOfElements?

/-- Whether a node holds nothing, as the value beside the name of a mode must. -/
def isEmptyNode : Node → Bool
  | .table _ [] => true
  | .array [] => true
  | _ => false

/-- Read a tunnel mode: its name, or its name as the only key of a table, with an empty value. -/
def modeOfNode? : Node → Option TunnelMode
  | .text name => Named.ofName? name
  | .table _ [(name, node)] =>
      if isEmptyNode node then
        Named.ofName? name
      else
        none
  | _ => none

/-- Read the settings of the policy from the values of a section. -/
def policyOfElements? (elements : List Node) : Option PolicySettings :=
  (element? modeOfNode? 0 elements).map fun mode? => { mode? := mode? }

/-- Read the settings of the policy. -/
def policyOfNode? : Node → Option PolicySettings
  | .table _ members =>
      if hasOnly ["mode"] members then
        (field? modeOfNode? "mode" members).map fun mode? => { mode? := mode? }
      else
        none
  | node => (elementsOfNode? node).bind policyOfElements?

/-- Read settings from the main table of a text. -/
def ofMembers? (members : Members) : Option Settings :=
  if hasOnly ["store", "policy"] members then do
    let store? ← field? storeOfNode? "store" members
    let policy? ← field? policyOfNode? "policy" members
    some { store? := store?, policy? := policy? }
  else
    none

/-- Read settings from a text. -/
def ofToml? (text : String) : Option Settings :=
  (Toml.parse? text).bind ofMembers?

end Settings

end SplitTunnel
