import SplitTunnel.Settings.Toml

namespace SplitTunnel

/-!
# Finding and loading settings

Settings are read from the first of three files that is there: the one that the
environment names, the one in the user's directory for settings, and the one in
the home directory.  If there is none, all settings have their defaults.
-/

/-- What the environment of a process says about files. -/
structure Environment where
  settingsFile? : Option String
  settingsHome? : Option String
  home? : Option String
  deriving Repr, DecidableEq

/-- Why settings could not be had. -/
inductive SettingsFault where
  | unreadable (path : Path) (reason : String)
  | malformed (path : Path)
  | invalid (fault : NameFault)
  | noHome
  deriving Repr, DecidableEq

/-- What is said about settings that could not be had. -/
def SettingsFault.message : SettingsFault → String
  | .unreadable path reason => s!"failed to read config file '{path.text}': {reason}"
  | .malformed path => s!"failed to parse config file '{path.text}': not valid settings"
  | .invalid fault => s!"invalid config value: {fault.message}"
  | .noHome => "home directory not found"

/-- Settings and the file that they were read from. -/
structure LoadedSettings where
  settings : Settings
  source? : Option Path
  deriving Repr, DecidableEq

namespace LoadedSettings

/-- The settings without a file. -/
def defaults : LoadedSettings where
  settings := .empty
  source? := none

/-- Read the settings in a file. -/
def ofFile (tree : FileTree) (path : Path) : Except SettingsFault LoadedSettings :=
  match tree.fileContent path with
  | .error fault =>
      .error (.unreadable path fault.message)
  | .ok content =>
      match Text.decode? content with
      | none =>
          .error (.unreadable path "stream did not contain valid UTF-8")
      | some text =>
          match Settings.ofToml? text with
          | none =>
              .error (.malformed path)
          | some settings =>
              match settings.fault? with
              | some fault => .error (.invalid fault)
              | none => .ok { settings := settings, source? := some path }

/-- The files that may hold settings, the first choice first. -/
def candidates (environment : Environment) : List Path :=
  (environment.settingsFile?.map fun file => Path.mk file).toList ++
    (environment.settingsHome?.map fun home =>
      (Path.mk home).join "tunrules/config.toml").toList ++
    (environment.home?.map fun home =>
      (Path.mk home).join ".tunrules/config.toml").toList

/-- The file that holds the settings, if there is one. -/
def locate? (environment : Environment) (tree : FileTree) : Option Path :=
  (candidates environment).find? tree.isPresent

/-- Load the settings of an environment. -/
def load (environment : Environment) (tree : FileTree) : Except SettingsFault LoadedSettings :=
  match locate? environment tree with
  | none => .ok .defaults
  | some path => ofFile tree path

/-- The directory of the store unless one is set. -/
def defaultDirectory (environment : Environment) : Except SettingsFault Path :=
  match environment.home? with
  | none => .error .noHome
  | some home => .ok ((Path.mk home).join ".tunrules")

/-- The files of the rule store; a directory that is asked for wins over the one that is set. -/
def storePaths
    (loaded : LoadedSettings)
    (environment : Environment)
    (asked? : Option String) :
    Except SettingsFault StorePaths :=
  let store := loaded.settings.store
  match asked?.or store.directory? with
  | some directory =>
      .ok (store.paths { text := directory })
  | none =>
      (defaultDirectory environment).map store.paths

end LoadedSettings

end SplitTunnel
