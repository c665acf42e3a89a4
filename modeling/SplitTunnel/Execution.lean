import SplitTunnel.Arguments.Command
import SplitTunnel.Document.Json
import SplitTunnel.Store
import SplitTunnel.Text.Column

namespace SplitTunnel

/-!
# Executing commands

Commands that ask about rules load the rule document that is kept and give it to
a new manager, as a running host does when it starts.  What a command prints is
collected in a report, together with the failure that ended it, if one did.
-/

/-- What commands need to know. -/
structure Context where
  paths : StorePaths
  mode : TunnelMode
  deriving Repr, DecidableEq

/-- Why a command failed. -/
inductive CommandFault where
  | invalidRules (invalid total : Nat)
  | unreadable (file : Path) (fault : FileFault)
  | notDocument (file : Path) (fault : CodecFault)
  | notSaved (target : Path) (fault : StoreFault)
  | busy (fault : StoreFault)
  deriving Repr, DecidableEq

/-- What is said of the cause below a fault, if the fault has one. -/
def StoreFault.cause? : StoreFault → Option String
  | .file failed => some failed.fault.message
  | _ => none

/-- What is said about a failure: the failure and the chain of its causes. -/
def CommandFault.message : CommandFault → String
  | .invalidRules invalid total => s!"{invalid} of {total} rules are invalid"
  | .unreadable file fault => s!"Failed to read {file.text}: {fault.message}"
  | .notDocument file fault => s!"Invalid rule document {file.text}: {fault.message}"
  | .notSaved target fault =>
      String.intercalate ": "
        ([s!"Failed to save rules to {target.text}", fault.message] ++ fault.cause?.toList)
  | .busy fault => s!"Rule store is busy: {fault.message}"

/-- What a command printed, what it warned of, and why it failed. -/
structure Report where
  printed : List String
  warnings : List String
  fault? : Option CommandFault
  deriving Repr, DecidableEq

namespace Report

/-- The report of a command that succeeded. -/
def ofPrinted (printed : List String) : Report where
  printed := printed
  warnings := []
  fault? := none

/-- The report of a command that failed before it printed anything. -/
def ofFault (fault : CommandFault) : Report where
  printed := []
  warnings := []
  fault? := some fault

/-- Everything that was printed, each text in a line of its own. -/
def output (report : Report) : String :=
  String.join (report.printed.map fun text => text ++ "\n")

end Report

namespace Context

/-- The store of the rule document. -/
def store (context : Context) : Store Document :=
  .json context.paths

/-- A manager with the built-in rules and the rule document that is kept. -/
def manager (context : Context) (session : Session) : Manager × Session :=
  let (document, next) := context.store.load session
  ((Manager.ofBuiltin builtinDocument).configure document, next)

end Context

namespace Command

/-- How a command locks the rule store, if it looks at it. -/
def lockMode? : Command → Option LockMode
  | .validate _ => none
  | .tunneled _ _ _ => none
  | .importFile _ => some .exclusive
  | _ => some .shared

/-- The file that a command reads besides the rule store. -/
def file? : Command → Option Path
  | .importFile file => some { text := file }
  | _ => none

/-- The line about a text that may be a rule. -/
def validateLine (text : String) : String :=
  match Rule.parse text with
  | .ok rule => s!"ok       {Text.padRight 16 text} {rule.text}"
  | .error fault => s!"invalid  {Text.padRight 16 text} {fault.message}"

/-- Say which texts are rules, and fail if some are not. -/
def runValidate (texts : List String) : Report :=
  let invalid := texts.length - (Rule.parseValid texts).length
  { printed := texts.map validateLine
    warnings := []
    fault? := if invalid = 0 then none else some (.invalidRules invalid texts.length) }

/-- The lines about a document that was imported. -/
def importLines (summary : Summary) : List String :=
  s!"Imported {summary.excluded} exclude and {summary.included} include packages" ::
    if summary.omitted = 0 then
      []
    else
      [s!"{summary.omitted} packages had no valid rules and are ignored"]

/-- Keep the rule document in a file. -/
def runImport
    (context : Context)
    (session : Session)
    (file : Path)
    (answers : SaveAnswers := {}) :
    Report × Session :=
  match session.tree.fileContent file with
  | .error fault =>
      (.ofFault (.unreadable file fault), session)
  | .ok content =>
      match (Codec.json Document).decode content with
      | .error fault =>
          (.ofFault (.notDocument file fault), session)
      | .ok document =>
          match context.store.trySave session document answers with
          | (.error fault, next) =>
              (.ofFault (.notSaved context.paths.target fault), next)
          | (.ok (), next) =>
              let summary := ((Manager.ofBuiltin builtinDocument).configureCounting document).1
              (.ofPrinted (importLines summary), next)

/-- The text of a document as it is shown. -/
def shownText (document : Document) : String :=
  Json.prettyText document.toValue

/-- Print the rule document that is kept; one that cannot be had is shown as empty. -/
def runShow (context : Context) (session : Session) : Report × Session :=
  match context.store.tryLoad session with
  | (.ok (some document), next) =>
      (.ofPrinted [shownText document], next)
  | (.ok none, next) =>
      (.ofPrinted [shownText context.store.default], next)
  | (.error fault, next) =>
      if fault.isContention then
        (.ofFault (.busy fault), next)
      else
        ({ printed := [shownText context.store.default]
           warnings := [s!"warning: {fault.message}; showing empty rules"]
           fault? := none }, next)

/-- The line about the rules of a category. -/
def checkLine
    (manager : Manager)
    (package : String)
    (version : VersionCode)
    (category : Category) :
    String :=
  let name := Text.padRight 8 category.name
  let verdict := Text.padRight 5 (toString (manager.accepts category package version))
  let rules := String.intercalate ", " ((manager.rules category package).map Rule.text)
  s!"{name} {verdict} [{rules}]"

/-- The lines about a version of a package. -/
def checkLines (manager : Manager) (package : String) (version : VersionCode) : List String :=
  let verdict := toString (manager.acceptsInAny package version)
  (Named.values : List Category).map (checkLine manager package version) ++
    [s!"any      {verdict}"]

/-- Say which rules accept a version of a package. -/
def runCheck
    (context : Context)
    (session : Session)
    (package : String)
    (version : VersionCode) :
    Report × Session :=
  let (manager, next) := context.manager session
  (.ofPrinted (checkLines manager package version), next)

/-- The packages that are managed in a category, if only installed ones count or all do. -/
def managedPackages
    (manager : Manager)
    (installed : List (String × VersionCode))
    (category : Category) :
    SortedSet String :=
  match installed with
  | [] => manager.managed category
  | pairs => manager.managedInstalled category (Inventory.lookup (.ofList pairs))

/-- The lines about the packages that the rules manage, in one category or in all. -/
def managedLines
    (manager : Manager)
    (category? : Option Category)
    (installed : List (String × VersionCode)) :
    List String :=
  let categories :=
    match category? with
    | none => Named.values
    | some category => [category]
  categories.flatMap fun category =>
    (managedPackages manager installed category).toList.map fun package =>
      s!"{category.name}\t{package}"

/-- List the packages that the rules manage. -/
def runManaged
    (context : Context)
    (session : Session)
    (category? : Option Category)
    (installed : List (String × VersionCode)) :
    Report × Session :=
  let (manager, next) := context.manager session
  (.ofPrinted (managedLines manager category? installed), next)

/-- The policy that a mode and the selected apps make; no apps are no selection. -/
def policyOf (mode : TunnelMode) (apps : List String) : Policy :=
  .ofApps mode (if apps.isEmpty then none else some apps)

/-- Say whether a package is routed through the tunnel. -/
def runTunneled
    (context : Context)
    (package : String)
    (mode? : Option TunnelMode)
    (apps : List String) :
    Report :=
  let policy := policyOf (mode?.getD context.mode) apps
  .ofPrinted [toString (policy.tunnels package)]

/-- The selection of apps without the host's own, if a host is named. -/
def selectionOf (apps : List String) (host? : Option String) : Selection :=
  match host? with
  | none => .ofList apps
  | some host => Selection.without (.ofList apps) host

/-- The selected apps that the user may still change, each in a line. -/
def controllableLines
    (manager : Manager)
    (apps : List String)
    (installed : List (String × VersionCode))
    (host? : Option String) :
    List String :=
  let lookup := Inventory.lookup (.ofList installed)
  ((selectionOf apps host?).controllable manager lookup).toList

/-- List the selected apps that the user may still change. -/
def runControllable
    (context : Context)
    (session : Session)
    (apps : List String)
    (installed : List (String × VersionCode))
    (host? : Option String) :
    Report × Session :=
  let (manager, next) := context.manager session
  (.ofPrinted (controllableLines manager apps installed host?), next)

/-- Execute a command; what the system answers to a save is given. -/
def run
    (context : Context)
    (session : Session)
    (command : Command)
    (answers : SaveAnswers := {}) :
    Report × Session :=
  match command with
  | .validate texts => (runValidate texts, session)
  | .importFile file => runImport context session { text := file } answers
  | .showDocument => runShow context session
  | .check package version => runCheck context session package version
  | .managed category? installed => runManaged context session category? installed
  | .tunneled package mode? apps => (runTunneled context package mode? apps, session)
  | .controllable apps installed host? =>
      runControllable context session apps installed host?

end Command

end SplitTunnel
