import SplitTunnel.Proofs.Manager.Partition
import SplitTunnel.Proofs.Program.Refinement

namespace SplitTunnel

/-!
# Which apps are left out of the tunnel

The apps that a user may still change are printed, and become the selection of a
policy.  Each step on the way only takes apps away: the host's own, those that are
not installed and those that a rule accepts.  So the policy leaves out of the
tunnel exactly the selected apps that none of these reasons holds for.
-/

namespace Policy

variable {policy : Policy} {package : String}

theorem tunnels_exceptSelected
    (isMode : policy.mode = .exceptSelected) :
    policy.tunnels package = false ↔ policy.isSelected package = true := by
  rw [tunnels, isMode, Bool.not_eq_false']

theorem tunnels_onlySelected
    (isMode : policy.mode = .onlySelected) :
    policy.tunnels package = true ↔ policy.isSelected package = true := by
  rw [tunnels, isMode]

end Policy

namespace Command

variable {builtin document : Document} {apps : List String} {host package : String}
variable {installed : List (String × VersionCode)}

/-- An app is selected in a policy if it is among the apps that the policy is made of. -/
theorem isSelected_policyOf_iff
    {mode : TunnelMode} :
    (policyOf mode apps).isSelected package = true ↔ package ∈ apps := by
  cases apps with
  | nil => simp [policyOf, Policy.ofApps, Policy.isSelected]
  | cons first rest => exact SortedSet.contains_ofList (first :: rest) package

/-- A selection holds the apps that were named, but for the host's own. -/
theorem contains_selectionOf_iff :
    (selectionOf apps (some host)).contains package = true ↔ package ∈ apps ∧ package ≠ host := by
  rw [selectionOf, Selection.without, SortedSet.contains_keep, Bool.and_eq_true,
    SortedSet.contains_ofList, bne_iff_ne]

/--
An app that is left to the user: it was selected and is not the host's own, and no
rule that a document lists for it, in any category, accepts the version at which it
is installed; of several versions that are given for an app the last one counts.
-/
structure LeftToUser
    (sources : List Document)
    (apps : List String)
    (installed : List (String × VersionCode))
    (host package : String) : Prop where
  isSelected : package ∈ apps
  notHost : package ≠ host
  isUnmanaged :
    ∃ version,
      installed.reverse.lookup package = some version ∧
        ∀ category, ∀ source ∈ sources, ∀ text ∈ source.texts category package,
          ∀ rule, Rule.parse text = .ok rule → rule.accepts version = false

/-- A version that is not accepted is one that no rule of the two documents accepts. -/
theorem acceptsInAny_configure_eq_false_iff
    {version : VersionCode} :
    ((Manager.ofBuiltin builtin).configure document).acceptsInAny package version = false ↔
      ∀ category, ∀ source ∈ [builtin, document], ∀ text ∈ source.texts category package,
        ∀ rule, Rule.parse text = .ok rule → rule.accepts version = false := by
  have notAccepted (category : Category) :
      ((Manager.ofBuiltin builtin).configure document).accepts category package version = false ↔
        ∀ source ∈ [builtin, document], ∀ text ∈ source.texts category package,
          ∀ rule, Rule.parse text = .ok rule → rule.accepts version = false := by
    rw [← Bool.not_eq_true, Manager.accepts_configure_iff]
    simp only [not_exists, not_and, Bool.not_eq_true]
  rw [Manager.acceptsInAny_eq, Bool.or_eq_false_iff, notAccepted, notAccepted]
  constructor
  · rintro ⟨excluded, included⟩ (_ | _)
    · exact excluded
    · exact included
  · intro inEach
    exact ⟨inEach .excluded, inEach .included⟩

/-- The apps that are printed are those that are left to the user. -/
theorem mem_controllableLines_iff :
    package ∈
        controllableLines ((Manager.ofBuiltin builtin).configure document) apps installed
          (some host) ↔
      LeftToUser [builtin, document] apps installed host package := by
  rw [controllableLines, SortedSet.toList, SortedMap.mem_keys_iff,
    Selection.contains_controllable_iff, contains_selectionOf_iff]
  simp only [Inventory.lookup, SortedMap.get?_ofList, acceptsInAny_configure_eq_false_iff]
  constructor
  · rintro ⟨⟨isSelected, notHost⟩, isUnmanaged⟩
    exact ⟨isSelected, notHost, isUnmanaged⟩
  · rintro ⟨isSelected, notHost, isUnmanaged⟩
    exact ⟨⟨isSelected, notHost⟩, isUnmanaged⟩

/-- How the policies that are made of printed apps route what is left to the user. -/
structure RoutesLeft
    (sources : List Document)
    (apps : List String)
    (installed : List (String × VersionCode))
    (host : String)
    (printed : List String) : Prop where
  leftOut :
    ∀ package,
      (policyOf .exceptSelected printed).tunnels package = false ↔
        LeftToUser sources apps installed host package
  letIn :
    ∀ package,
      (policyOf .onlySelected printed).tunnels package = true ↔
        LeftToUser sources apps installed host package
  hostTunneled : (policyOf .exceptSelected printed).tunnels host = true

/-- Policies that are made of the apps that are left to the user route them apart. -/
theorem RoutesLeft.ofPrinted
    {sources : List Document}
    {printed : List String}
    (isPrinted :
      ∀ package, package ∈ printed ↔ LeftToUser sources apps installed host package) :
    RoutesLeft sources apps installed host printed := by
  have leftOut :
      ∀ package,
        (policyOf .exceptSelected printed).tunnels package = false ↔
          LeftToUser sources apps installed host package := by
    intro package
    rw [Policy.tunnels_exceptSelected rfl, isSelected_policyOf_iff, isPrinted]
  refine ⟨leftOut, ?_, ?_⟩
  · intro package
    rw [Policy.tunnels_onlySelected rfl, isSelected_policyOf_iff, isPrinted]
  · by_contra notTunneled
    have isLeft := (leftOut host).mp (Bool.not_eq_true _ ▸ notTunneled)
    exact isLeft.notHost rfl

/--
The apps that are printed for a user are routed apart from all others.

A policy that leaves out the printed apps, none if none are printed, leaves out the
selected apps that are not the host's own and are installed at a version that no
rule accepts.  A policy that lets in only the printed apps lets in the same ones.
This holds for any rule documents that a manager is configured with, and for the
document that the store yields when the command is run.

It is about the list of names that the command prints.  The lines of what it writes
give this list back only if no name has a line break in it.
-/
theorem routes_controllable
    (apps : List String)
    (installed : List (String × VersionCode))
    (host : String) :
    (∀ builtin document : Document,
        RoutesLeft [builtin, document] apps installed host
          (controllableLines ((Manager.ofBuiltin builtin).configure document) apps installed
            (some host))) ∧
      ∀ (context : Context) (session : Session),
        RoutesLeft [builtinDocument, (context.store.load session).1] apps installed host
          ((controllable apps installed (some host)).run context session).1.printed := by
  have ofManager : ∀ builtin document : Document,
      RoutesLeft [builtin, document] apps installed host
        (controllableLines ((Manager.ofBuiltin builtin).configure document) apps installed
          (some host)) :=
    fun builtin document => .ofPrinted fun package => mem_controllableLines_iff
  refine ⟨ofManager, fun context session => ?_⟩
  have answers :
      ((controllable apps installed (some host)).run context session).1 =
        .ofPrinted
          (controllableLines
            ((Manager.ofBuiltin builtinDocument).configure (context.store.load session).1) apps
            installed (some host)) :=
    run_of_answer (by simp) rfl
  rw [answers]
  exact ofManager builtinDocument (context.store.load session).1

end Command

end SplitTunnel
