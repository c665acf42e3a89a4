import SplitTunnel.Inventory
import SplitTunnel.Table

namespace SplitTunnel

/-!
# The rule manager

Rules come in two tiers.  The built-in rules are fixed; the runtime rules are
replaced as a whole, for both categories at once.  A package is managed by the
rules of both tiers together, the built-in ones first, and it is enough that one
of them accepts its version.
-/

/-- The rules that are built in. -/
def builtinDocument : Document :=
  (Document.empty.withRules .excluded "ca.psiphon.conduit" ["*"]).withRules
    .excluded "network.ryve.app" ["*"]

/-- The built-in tables and the runtime tables that are current. -/
structure Manager where
  builtin : Tables
  runtime : Tables
  deriving Repr, DecidableEq

/-- How many packages a reconfiguration accepted and omitted. -/
structure Summary where
  excluded : Nat
  included : Nat
  omitted : Nat
  deriving Repr, DecidableEq

namespace Manager

/-- The manager with these built-in rules and no runtime rules. -/
def ofBuiltin (document : Document) : Manager where
  builtin := .ofDocument document
  runtime := .empty

/-- The summary of the tables that were made of a document. -/
def summarize (document : Document) (tables : Tables) : Summary where
  excluded := tables.excluded.size
  included := tables.included.size
  omitted :=
    document.packageCount .excluded + document.packageCount .included -
      tables.excluded.size - tables.included.size

/-- Replace the runtime rules of both categories. -/
def configure (manager : Manager) (document : Document) : Manager :=
  { manager with runtime := .ofDocument document }

/-- Replace the runtime rules of both categories and count the packages. -/
def configureCounting
    (manager : Manager)
    (document : Document) :
    Summary × Manager :=
  let next := manager.configure document
  (summarize document next.runtime, next)

/-- The tables that a query sees, in the order of their rules. -/
def tiers (manager : Manager) : List Tables :=
  [manager.builtin, manager.runtime]

/-- The rules of a package: the built-in ones, then the runtime ones. -/
def rules (manager : Manager) (category : Category) (package : String) : List Rule :=
  manager.tiers.flatMap fun tables => ((tables.table category).get? package).getD []

/-- Whether a rule of a category accepts a version of a package. -/
def accepts
    (manager : Manager)
    (category : Category)
    (package : String)
    (version : VersionCode) :
    Bool :=
  manager.tiers.any fun tables => tables.accepts category package version

/-- Whether a rule of any category accepts a version of a package. -/
def acceptsInAny (manager : Manager) (package : String) (version : VersionCode) : Bool :=
  (Named.values : List Category).any fun category => manager.accepts category package version

/-- The packages that have rules in a category. -/
def managed (manager : Manager) (category : Category) : SortedSet String :=
  .ofList (manager.tiers.flatMap fun tables => (tables.table category).keys)

/-- The packages with rules in a category that are installed at an accepted version. -/
def managedInstalled
    (manager : Manager)
    (category : Category)
    (lookup : VersionLookup) :
    SortedSet String :=
  (manager.managed category).keep fun package =>
    match lookup package with
    | none => false
    | some version => manager.accepts category package version

end Manager

end SplitTunnel
