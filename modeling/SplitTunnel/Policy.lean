import SplitTunnel.Manager

namespace SplitTunnel

/-!
# Tunnel policies

A policy decides which apps are routed through the tunnel.  Its mode says what
the selected apps mean: nothing, the apps that are left out, or the only apps
that are let in.
-/

/-- What the selection of apps means. -/
inductive TunnelMode where
  /-- Every app goes through the tunnel. -/
  | allApps
  /-- Only the selected apps go through the tunnel. -/
  | onlySelected
  /-- Every app but the selected ones goes through the tunnel. -/
  | exceptSelected
  deriving Repr, DecidableEq

instance : Named TunnelMode where
  values := [.allApps, .onlySelected, .exceptSelected]
  name
    | .allApps => "all"
    | .onlySelected => "include"
    | .exceptSelected => "exclude"

namespace TunnelMode

instance : Inhabited TunnelMode where
  default := .allApps

/-- The name of a mode. -/
def name (mode : TunnelMode) : String :=
  Named.name mode

/-- A text that names no mode. -/
structure UnknownName where
  text : String
  deriving Repr, DecidableEq

/-- What is said about a text that names no mode. -/
def UnknownName.message (unknown : UnknownName) : String :=
  s!"invalid tunnel mode '{unknown.text}', must be one of: all, include, exclude"

/-- Read the name of a mode as a user writes it. -/
def ofUserText (text : String) : Except UnknownName TunnelMode :=
  match Named.ofUserText? text with
  | some mode =>
      .ok mode
  | none =>
      .error { text := text }

end TunnelMode

/-- A set of apps. -/
abbrev Selection :=
  SortedSet String

/-- A mode with the selection of apps, if one was recorded. -/
structure Policy where
  mode : TunnelMode
  apps? : Option Selection
  deriving Repr, DecidableEq

namespace Policy

/-- The policy while no tunnel runs. -/
def initial : Policy where
  mode := default
  apps? := none

/-- The policy of a mode and a list of apps, if one was recorded. -/
def ofApps (mode : TunnelMode) (apps? : Option (List String)) : Policy where
  mode := mode
  apps? := apps?.map SortedSet.ofList

/-- Whether an app was selected; without a selection none was. -/
def isSelected (policy : Policy) (package : String) : Bool :=
  match policy.apps? with
  | none => false
  | some apps => apps.contains package

/-- Whether an app is routed through the tunnel. -/
def tunnels (policy : Policy) (package : String) : Bool :=
  match policy.mode with
  | .allApps => true
  | .onlySelected => policy.isSelected package
  | .exceptSelected => !policy.isSelected package

end Policy

namespace Selection

/-- The selected apps that are installed and that no rule accepts. -/
def controllable
    (selection : Selection)
    (manager : Manager)
    (lookup : VersionLookup) :
    Selection :=
  selection.keep fun package =>
    match lookup package with
    | none => false
    | some version => !manager.acceptsInAny package version

/-- The selection without the host's own app. -/
def without (selection : Selection) (host : String) : Selection :=
  selection.keep fun package => package != host

end Selection

end SplitTunnel
