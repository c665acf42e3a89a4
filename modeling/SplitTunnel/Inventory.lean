import SplitTunnel.SortedMap.Basic
import SplitTunnel.Text.Blank
import SplitTunnel.Version

namespace SplitTunnel

/-!
# Installed packages

Which packages are installed, and at which version, is asked through a look-up,
so that any source of the answer will do.  An inventory is a fixed list of
installed packages.
-/

/-- The installed version of a package, if it is installed. -/
abbrev VersionLookup :=
  String → Option VersionCode

/-- A fixed list of installed packages. -/
abbrev Inventory :=
  SortedMap String VersionCode

namespace Inventory

/-- The look-up in an inventory. -/
def lookup (inventory : Inventory) : VersionLookup :=
  inventory.get?

/-- Why a text does not say which version of a package is installed. -/
inductive EntryFault where
  | noSeparator (text : String)
  | noPackage (text : String)
  | badVersion (text : String) (fault : VersionCode.Fault)
  deriving Repr, DecidableEq

/-- What is said about a text that names no installed package. -/
def EntryFault.message : EntryFault → String
  | .noSeparator text => s!"expected PACKAGE=VERSION, got '{text}'"
  | .noPackage text => s!"missing package in '{text}'"
  | .badVersion text fault => s!"invalid version in '{text}': {fault.message}"

/-- The parts of a text before and after its first equals sign. -/
def splitAtEquals? : List Char → Option (List Char × List Char)
  | [] => none
  | c :: rest =>
      if c = '=' then
        some ([], rest)
      else
        (splitAtEquals? rest).map fun parts => (c :: parts.1, parts.2)

/-- Read a package and its version, with blanks around either ignored. -/
def parseEntry (text : String) : Except EntryFault (String × VersionCode) :=
  match splitAtEquals? text.toList with
  | none =>
      .error (.noSeparator text)
  | some (package, version) =>
      match Text.trim package with
      | [] =>
          .error (.noPackage text)
      | trimmed =>
          match VersionCode.ofText (Text.trim version) with
          | .error fault =>
              .error (.badVersion text fault)
          | .ok code =>
              .ok (String.ofList trimmed, code)

end Inventory

end SplitTunnel
