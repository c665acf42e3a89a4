import SplitTunnel.Arguments.Words
import SplitTunnel.Policy

namespace SplitTunnel

/-!
# Commands

A command line names one command, with options of its own and two that every
command knows: more diagnostics, and another directory for the rule store.
Instead of naming a command it may ask for the version of the program.

Help is left out: a line with `--help` or `-h`, or with the command `help`, is refused
here like any other that does not fit, while the program prints its help and succeeds.
-/

/-- What a user asks the program to do. -/
inductive Command where
  /-- Say which of these texts are rules. -/
  | validate (texts : List String)
  /-- Keep the rule document in a file. -/
  | importFile (file : String)
  /-- Print the rule document that is kept. -/
  | showDocument
  /-- Say which rules accept a version of a package. -/
  | check (package : String) (version : VersionCode)
  /-- List the packages that the rules manage. -/
  | managed (category? : Option Category) (installed : List (String × VersionCode))
  /-- Say whether a package is routed through the tunnel. -/
  | tunneled (package : String) (mode? : Option TunnelMode) (apps : List String)
  /-- List the selected apps that the user may still change. -/
  | controllable
      (apps : List String)
      (installed : List (String × VersionCode))
      (host? : Option String)
  deriving Repr, DecidableEq

/-- What a command line asks for. -/
structure Arguments where
  debug : Bool
  storeDirectory? : Option String
  command : Command
  deriving Repr, DecidableEq

/-- What a user asks for. -/
inductive Request where
  /-- The version of the program. -/
  | version
  /-- The execution of a command. -/
  | execute (arguments : Arguments)
  deriving Repr, DecidableEq

namespace Arguments

/-- The options that every command knows. -/
def commonOptions : List OptionRule :=
  [{ name := "debug", use := .flag }, { name := "store-dir", use := .single }]

/-- The level before the command. -/
def outerLevel : Level where
  options := commonOptions ++ [{ name := "version", use := .version }]
  allowsNegative _ := false
  commandFollows := true

/-- The level of a command with further options that take values. -/
def commandLevel (single repeated : List String) : Level where
  options :=
    commonOptions ++
      (single.map fun name => { name := name, use := .single }) ++
      (repeated.map fun name => { name := name, use := .repeated })
  allowsNegative _ := false
  commandFollows := false

/-- The level of each command. -/
def level? : String → Option Level
  | "validate" => some (commandLevel [] [])
  | "import" => some (commandLevel [] [])
  | "show" => some (commandLevel [] [])
  | "check" =>
      some { commandLevel [] [] with allowsNegative := fun place => place == 1 }
  | "managed" => some (commandLevel ["category"] ["installed"])
  | "tunneled" => some (commandLevel ["mode"] ["app"])
  | "controllable" => some (commandLevel ["self-package"] ["app", "installed"])
  | _ => none

/-- The value of an option that may be given once, if it can be read. -/
def single? (read? : String → Option α) (found : Collected) (name : String) : Option (Option α) :=
  match found.values name with
  | [] => some none
  | value :: _ => (read? value).map some

/-- The installed packages that were given. -/
def installed? (found : Collected) : Option (List (String × VersionCode)) :=
  (found.values "installed").mapM fun value => (Inventory.parseEntry value).toOption

/-- The command that its name and words ask for. -/
def command? (name : String) (found : Collected) : Option Command :=
  match name, found.plain with
  | "validate", text :: more => some (.validate (text :: more))
  | "import", [file] => if file = "" then none else some (.importFile file)
  | "show", [] => some .showDocument
  | "check", [package, version] =>
      (VersionCode.ofText version.toList).toOption.map fun code => .check package code
  | "managed", [] => do
      let category? ← single? Named.ofUserText? found "category"
      let installed ← installed? found
      some (.managed category? installed)
  | "tunneled", [package] => do
      let mode? ← single? Named.ofUserText? found "mode"
      some (.tunneled package mode? (found.values "app"))
  | "controllable", [] => do
      let installed ← installed? found
      let host? ← single? some found "self-package"
      some (.controllable (found.values "app") installed host?)
  | _, _ => none

/-- The directory of the store that a level asks for; it must not be empty. -/
def askedDirectory? (found : Collected) : Option (Option String) :=
  single? (fun value => if value = "" then none else some value) found "store-dir"

/--
The arguments of a command, after the words before it.

An option that every command knows may be given before the command and after it;
the value after it counts.
-/
def ofCommand?
    (outer : Collected)
    (outerDirectory? : Option String)
    (name : String)
    (words : List String) :
    Option Arguments := do
  let level ← level? name
  let inner ← level.read? words
  let command ← command? name inner
  let innerDirectory? ← askedDirectory? inner
  some {
    debug := outer.has "debug" || inner.has "debug"
    storeDirectory? := innerDirectory?.or outerDirectory?
    command := command
  }

end Arguments

/-- What the words of a command line ask for, unless they do not fit. -/
def Request.parse? (words : List String) : Option Request := do
  let outer ← Arguments.outerLevel.read? words
  let directory? ← Arguments.askedDirectory? outer
  match outer.ending with
  | .words => none
  | .version => some .version
  | .command name rest =>
      (Arguments.ofCommand? outer directory? name rest).map Request.execute

end SplitTunnel
