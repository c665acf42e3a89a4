import SplitTunnel.Policy
import SplitTunnel.Store

namespace SplitTunnel

/-!
# Settings

Settings say where the rule store lies and which tunnel mode is used unless
another is asked for.  What is not set has a default.  The three files of the
store lie in one directory, so their names must be plain names and must differ.
-/

/-- The files of a store that have names of their own. -/
inductive StoreFile where
  | lock
  | temp
  | rules
  deriving Repr, DecidableEq

namespace StoreFile

/-- The key under which the name of a file is set. -/
def key : StoreFile → String
  | .lock => "lock_file"
  | .temp => "temp_file"
  | .rules => "rules_file"

/-- The name of a file that is not set. -/
def defaultName : StoreFile → String
  | .lock => "vpn_rules.lock"
  | .temp => "vpn_rules_temp.json"
  | .rules => "vpn_rules.json"

/-- The files in the order in which their names are checked. -/
def all : List StoreFile :=
  [.lock, .temp, .rules]

/-- Each two files, in the order in which their names are compared. -/
def pairs : List (StoreFile × StoreFile) :=
  [(.lock, .temp), (.lock, .rules), (.temp, .rules)]

end StoreFile

/-- What is set about the rule store. -/
structure StoreSettings where
  directory? : Option String
  lockName? : Option String
  tempName? : Option String
  rulesName? : Option String
  deriving Repr, DecidableEq

/-- Why the name of a file is refused. -/
inductive NameFault where
  | blank (file : StoreFile)
  | notPlain (file : StoreFile) (name : String)
  | same (first second : StoreFile) (name : String)
  deriving Repr, DecidableEq

/-- What is said about a name that is refused. -/
def NameFault.message : NameFault → String
  | .blank file => s!"store.{file.key} cannot be empty"
  | .notPlain file name => s!"store.{file.key} must be a plain file name, got '{name}'"
  | .same first second name =>
      s!"store.{first.key} and store.{second.key} must differ (both '{name}')"

namespace StoreSettings

/-- Settings that leave everything to the defaults. -/
def empty : StoreSettings where
  directory? := none
  lockName? := none
  tempName? := none
  rulesName? := none

/-- The name that is set for a file. -/
def name? (settings : StoreSettings) : StoreFile → Option String
  | .lock => settings.lockName?
  | .temp => settings.tempName?
  | .rules => settings.rulesName?

/-- The name of a file. -/
def name (settings : StoreSettings) (file : StoreFile) : String :=
  (settings.name? file).getD file.defaultName

/-- Whether a name leads to a file in the directory itself. -/
def isPlainName (name : String) : Bool :=
  !(name.toList.contains '/' || name.toList.contains '\\' || name == "." || name == "..")

/-- The fault of the name of a file alone. -/
def nameFault? (settings : StoreSettings) (file : StoreFile) : Option NameFault :=
  if Text.isAllBlank (settings.name file).toList then
    some (.blank file)
  else if isPlainName (settings.name file) then
    none
  else
    some (.notPlain file (settings.name file))

/-- The fault of two files that have the same name. -/
def pairFault? (settings : StoreSettings) (pair : StoreFile × StoreFile) : Option NameFault :=
  if settings.name pair.1 = settings.name pair.2 then
    some (.same pair.1 pair.2 (settings.name pair.1))
  else
    none

/-- The first fault of the names: each name is checked before any two are compared. -/
def fault? (settings : StoreSettings) : Option NameFault :=
  (StoreFile.all.findSome? settings.nameFault?).or
    (StoreFile.pairs.findSome? settings.pairFault?)

/-- The files of the store in a directory. -/
def paths (settings : StoreSettings) (directory : Path) : StorePaths where
  lock := directory.join (settings.name .lock)
  temp := directory.join (settings.name .temp)
  target := directory.join (settings.name .rules)

end StoreSettings

/-- What is set about the tunnel policy. -/
structure PolicySettings where
  mode? : Option TunnelMode
  deriving Repr, DecidableEq

/-- What is set, section by section. -/
structure Settings where
  store? : Option StoreSettings
  policy? : Option PolicySettings
  deriving Repr, DecidableEq

namespace Settings

/-- Settings that leave everything to the defaults. -/
def empty : Settings where
  store? := none
  policy? := none

/-- The settings of the store, or the defaults. -/
def store (settings : Settings) : StoreSettings :=
  settings.store?.getD .empty

/-- The tunnel mode that is set, or the default. -/
def mode (settings : Settings) : TunnelMode :=
  (settings.policy?.bind PolicySettings.mode?).getD default

/-- The fault of a store section. -/
def fault? (settings : Settings) : Option NameFault :=
  settings.store?.bind StoreSettings.fault?

end Settings

end SplitTunnel
