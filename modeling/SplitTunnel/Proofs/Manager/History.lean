import SplitTunnel.Document.Json
import SplitTunnel.Policy
import SplitTunnel.Proofs.Manager.Matching

namespace SplitTunnel

/-!
# Histories of a manager

A manager is configured any number of times, asked in between, and its runtime
tables are taken for later.  Whatever was done and in whatever order, its answers
are those of a fresh manager that was configured with the last document alone,
and tables that were taken stay those of the document that was current then.
-/

namespace Manager

/-- What a manager is asked. -/
inductive Query where
  | rules (category : Category) (package : String)
  | accepts (category : Category) (package : String) (version : VersionCode)
  | acceptsInAny (package : String) (version : VersionCode)
  | managed (category : Category)
  | managedInstalled (category : Category) (lookup : VersionLookup)
  | controllable (selection : Selection) (lookup : VersionLookup)

/-- What a manager answers. -/
inductive Answer where
  | rules (rules : List Rule)
  | verdict (accepted : Bool)
  | packages (packages : SortedSet String)
  deriving DecidableEq

/-- The answer of a manager to what it is asked. -/
def answer (manager : Manager) : Query → Answer
  | .rules category package => .rules (manager.rules category package)
  | .accepts category package version => .verdict (manager.accepts category package version)
  | .acceptsInAny package version => .verdict (manager.acceptsInAny package version)
  | .managed category => .packages (manager.managed category)
  | .managedInstalled category lookup => .packages (manager.managedInstalled category lookup)
  | .controllable selection lookup => .packages (selection.controllable manager lookup)

/-- Replace the runtime rules by those of a document, if its bytes decode. -/
def configureJson
    (manager : Manager)
    (bytes : List UInt8) :
    Except Json.Fault Summary × Manager :=
  match Document.ofJson bytes with
  | .error fault =>
      (.error fault, manager)
  | .ok document =>
      let configured := manager.configureCounting document
      (.ok configured.1, configured.2)

/-- A manager and the runtime tables that were taken from it, the first taken first. -/
structure World where
  manager : Manager
  taken : List Tables

namespace World

/-- A fresh manager, from which nothing was taken yet. -/
def fresh (builtin : Document) : World where
  manager := .ofBuiltin builtin
  taken := []

end World

/-- What was done with a manager, with its answers. -/
inductive Event where
  | configure (document : Document) (summary : Summary)
  | configureJson (bytes : List UInt8) (result : Except Json.Fault Summary)
  | query (query : Query) (answer : Answer)
  | take

namespace Event

/-- The document that an event configures; bytes that do not decode configure none. -/
def configured? : Event → Option Document
  | .configure document _ => some document
  | .configureJson bytes _ => (Document.ofJson bytes).toOption
  | _ => none

/-- Whether the runtime tables are taken. -/
def isTake : Event → Bool
  | .take => true
  | _ => false

end Event

/-- The document that was configured last. -/
def lastConfigured? (history : List Event) : Option Document :=
  (history.filterMap Event.configured?).getLast?

theorem lastConfigured?_concat
    (history : List Event)
    (event : Event) :
    lastConfigured? (history ++ [event]) = event.configured?.or (lastConfigured? history) := by
  rw [lastConfigured?, List.filterMap_append, List.getLast?_append, lastConfigured?]
  cases configured : event.configured? <;> simp [configured]

/-- One step of what is done with a manager. -/
inductive Step (world : World) : Event → World → Prop where
  | configure (document : Document) :
      Step world
        (.configure document (world.manager.configureCounting document).1)
        { world with manager := (world.manager.configureCounting document).2 }
  | configureJson (bytes : List UInt8) :
      Step world
        (.configureJson bytes (world.manager.configureJson bytes).1)
        { world with manager := (world.manager.configureJson bytes).2 }
  | query (query : Query) :
      Step world (.query query (world.manager.answer query)) world
  | take :
      Step world .take { world with taken := world.taken ++ [world.manager.runtime] }

/-- Steps one after another, with what was done and answered. -/
inductive Run (start : World) : List Event → World → Prop where
  | start :
      Run start [] start
  | next
      {history : List Event}
      {event : Event}
      {world next : World}
      (run : Run start history world)
      (step : Step world event next) :
      Run start (history ++ [event]) next

section Steps

variable {world next start : World} {event : Event} {history : List Event} {builtin : Document}

/-- A step configures the manager with the document of its event, if there is one. -/
theorem Step.manager_eq
    (step : Step world event next) :
    next.manager = event.configured?.toList.foldl Manager.configure world.manager := by
  cases step with
  | configure document => rfl
  | configureJson bytes =>
      simp only [Manager.configureJson, Event.configured?]
      cases Document.ofJson bytes <;> rfl
  | query query => rfl
  | take => rfl

/-- After a run the manager is the one that its documents make in turn. -/
theorem Run.manager_eq
    (run : Run (.fresh builtin) history world) :
    world.manager = configured builtin (history.filterMap Event.configured?) := by
  induction run with
  | start => rfl
  | next run step inductionHypothesis =>
      rw [step.manager_eq, inductionHypothesis, List.filterMap_append, configured, configured,
        List.foldl_append]
      cases h : Event.configured? _ <;> simp [h]

/-- After a run the manager is the one that the last document alone makes. -/
theorem Run.manager_eq_lastConfigured
    (run : Run (.fresh builtin) history world) :
    world.manager = configured builtin (lastConfigured? history).toList := by
  rw [run.manager_eq, lastConfigured?, configured_getLast?]

/-- A step keeps the tables that were taken and adds the runtime tables where it takes them. -/
theorem Step.taken_eq
    (step : Step world event next) :
    next.taken = world.taken ++ if event.isTake then [world.manager.runtime] else [] := by
  cases step <;> simp [Event.isTake]

theorem Run.taken_prefix
    (run : Run start history world) :
    start.taken <+: world.taken := by
  induction run with
  | start => exact List.prefix_refl _
  | next run step inductionHypothesis =>
      rw [step.taken_eq]
      exact inductionHypothesis.trans (List.prefix_append _ _)

/-- As many tables were taken as there are events that take them. -/
theorem Run.length_taken
    (run : Run start history world) :
    world.taken.length = start.taken.length + history.countP Event.isTake := by
  induction run with
  | start => rfl
  | next run step inductionHypothesis =>
      rw [step.taken_eq, List.length_append, inductionHypothesis, List.countP_append]
      cases h : Event.isTake _ <;> simp [h]
      omega

/-- Every event of a run is a step from where the events before it lead. -/
theorem Run.split
    {before after : List Event}
    (run : Run start (before ++ event :: after) world) :
    ∃ middle next,
      Run start before middle ∧ Step middle event next ∧ Run next after world := by
  generalize whole : before ++ event :: after = history at run
  induction run generalizing after with
  | start => simp at whole
  | next run step inductionHypothesis =>
      cases after using List.reverseRecOn with
      | nil =>
          obtain ⟨rfl, sameEvent⟩ := List.append_inj' whole rfl
          cases sameEvent
          exact ⟨_, _, run, step, .start⟩
      | append_singleton others last =>
          rw [← List.cons_append, ← List.append_assoc] at whole
          obtain ⟨sameHistory, sameEvent⟩ := List.append_inj' whole rfl
          cases sameEvent
          obtain ⟨middle, next, first, step', rest⟩ := inductionHypothesis sameHistory
          exact ⟨middle, next, first, step', rest.next step⟩

/--
A manager has no memory beyond the last document.

After any run its built-in tables are those of the start, and it answers every
query as a fresh manager that was configured with the last document alone, or
not at all.  The same holds of every answer in the run for the events before it.
Tables that were taken in the run are still there, and are those of the document
that was the last one when they were taken.
-/
theorem Run.answers_lastConfigured
    (run : Run (.fresh builtin) history world) :
    world.manager.builtin = .ofDocument builtin ∧
      (∀ query,
        world.manager.answer query =
          (configured builtin (lastConfigured? history).toList).answer query) ∧
      (∀ before query answer after,
        history = before ++ .query query answer :: after →
          answer = (configured builtin (lastConfigured? before).toList).answer query) ∧
      world.taken.length = history.countP Event.isTake ∧
      ∀ before after,
        history = before ++ .take :: after →
          world.taken[before.countP Event.isTake]? =
            some (.ofDocument ((lastConfigured? before).getD .empty)) := by
  refine ⟨?_, ?_, ?_, ?_, ?_⟩
  · rw [run.manager_eq, configured_eq]
  · intro query
    rw [run.manager_eq_lastConfigured]
  · rintro before query answer after rfl
    obtain ⟨middle, next, first, step, rest⟩ := run.split
    cases step
    rw [first.manager_eq_lastConfigured]
  · simpa [World.fresh] using run.length_taken
  · rintro before after rfl
    obtain ⟨middle, next, first, step, rest⟩ := run.split
    have isThere : next.taken[before.countP Event.isTake]? = some middle.manager.runtime := by
      have position : before.countP Event.isTake = middle.taken.length := by
        simpa [World.fresh] using first.length_taken.symm
      rw [step.taken_eq, position]
      exact List.getElem?_concat_length
    rw [first.manager_eq, configured_eq] at isThere
    obtain ⟨inside, isTaken⟩ := List.getElem?_eq_some_iff.mp isThere
    rw [List.prefix_iff_getElem?.mp rest.taken_prefix _ inside, isTaken]
    rfl

/-- Tables that were taken stay when bytes are refused and another document is configured. -/
theorem Run.answers_lastConfigured_replaced :
    ∃ summary result lastSummary world,
      Run (.fresh builtinDocument)
          [.configure (Document.empty.withRules .excluded "a" ["*"]) summary, .take,
            .configureJson [] result,
            .configure (Document.empty.withRules .included "b" ["[1-5]"]) lastSummary]
          world ∧
        world.manager.answer (.accepts .excluded "a" 7) = .verdict false ∧
        world.taken[0]? = some (.ofDocument (Document.empty.withRules .excluded "a" ["*"])) := by
  have refused : (Document.ofJson []).toOption = none := by decide +kernel
  obtain ⟨summary, result, lastSummary, world, run⟩ :
      ∃ summary result lastSummary world,
        Run (.fresh builtinDocument)
          [.configure (Document.empty.withRules .excluded "a" ["*"]) summary, .take,
            .configureJson [] result,
            .configure (Document.empty.withRules .included "b" ["[1-5]"]) lastSummary]
          world :=
    ⟨_, _, _, _, (((Run.start.next (.configure _)).next .take).next (.configureJson _)).next
      (.configure _)⟩
  obtain ⟨_, answers, _, _, taken⟩ := run.answers_lastConfigured
  refine ⟨summary, result, lastSummary, world, run, ?_, taken [_] _ rfl⟩
  rw [answers, lastConfigured?]
  simp only [List.filterMap_cons, Event.configured?, refused]
  decide +kernel

end Steps

end Manager

end SplitTunnel
