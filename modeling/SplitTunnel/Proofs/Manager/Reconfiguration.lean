import SplitTunnel.Proofs.Manager.Partition

namespace SplitTunnel

/-!
# Reconfiguring while a selection is gone through

The apps of a selection that a user may change are found one after another, and
the rules are asked anew for each app.  Another thread, or the look-up of a
version itself, may configure the manager in between.  Every app is then judged
by the tables that are current at that moment: without a reconfiguration the
walk gives `Selection.controllable`, and with one its answer may be that of none
of the tables that were current.
-/

namespace Selection

variable {lookup : VersionLookup} {selection : Selection} {manager current : Manager}

/-- Whether a user may change an app: it is installed and no rule accepts its version. -/
def isControllable (manager : Manager) (lookup : VersionLookup) (package : String) : Bool :=
  match lookup package with
  | none => false
  | some version => !manager.acceptsInAny package version

/-- The apps that a user may change are those that are judged so against one manager. -/
theorem controllable_eq_keep :
    selection.controllable manager lookup = selection.keep (isControllable manager lookup) :=
  rfl

/-- A walk through a selection: the current manager, the apps to come and those that were kept. -/
structure Walk where
  manager : Manager
  waiting : List String
  kept : List String

namespace Walk

/-- The walk before any app was judged. -/
def start (selection : Selection) (manager : Manager) : Walk where
  manager := manager
  waiting := selection.toList
  kept := []

/-- The apps that were kept. -/
def answer (walk : Walk) : Selection :=
  .ofList walk.kept

/-- What happens during a walk: a reconfiguration, or an app judged by a manager. -/
inductive Event where
  | configure (document : Document)
  | judge (package : String) (manager : Manager)

namespace Event

/-- The document that an event configures. -/
def document? : Event → Option Document
  | .configure document => some document
  | .judge _ _ => none

/-- The app that an event judges, and the manager that it asks. -/
def judged? : Event → Option (String × Manager)
  | .configure _ => none
  | .judge package manager => some (package, manager)

end Event

/-- One step of a walk, or a reconfiguration between two of them. -/
inductive Step (lookup : VersionLookup) (walk : Walk) : Event → Walk → Prop where
  | configure (document : Document) :
      Step lookup walk (.configure document)
        { walk with manager := walk.manager.configure document }
  | judge
      {package : String}
      {rest : List String}
      (isNext : walk.waiting = package :: rest) :
      Step lookup walk (.judge package walk.manager)
        { walk with
          waiting := rest
          kept := walk.kept ++ [package].filter (isControllable walk.manager lookup) }

/-- Steps of a walk one after another, with what happened. -/
inductive Run (lookup : VersionLookup) (start : Walk) : List Event → Walk → Prop where
  | start :
      Run lookup start [] start
  | next
      {history : List Event}
      {event : Event}
      {walk next : Walk}
      (run : Run lookup start history walk)
      (step : Step lookup walk event next) :
      Run lookup start (history ++ [event]) next

/-- The manager that is current after a history. -/
def currentAfter (manager : Manager) (history : List Event) : Manager :=
  (history.filterMap Event.document?).foldl Manager.configure manager

/-- The managers that were current at some moment of a history. -/
def published (manager : Manager) (history : List Event) : List Manager :=
  history.inits.map (currentAfter manager)

/-- The apps that were judged in a history, each with the manager that was asked. -/
def judged (history : List Event) : List (String × Manager) :=
  history.filterMap Event.judged?

section Runs

variable {start walk next : Walk} {event : Event} {history : List Event}

theorem currentAfter_concat
    (manager : Manager)
    (history : List Event)
    (event : Event) :
    currentAfter manager (history ++ [event]) =
      event.document?.toList.foldl Manager.configure (currentAfter manager history) := by
  simp only [currentAfter, List.filterMap_append, List.foldl_append]
  cases event <;> rfl

theorem judged_concat
    (history : List Event)
    (event : Event) :
    judged (history ++ [event]) = judged history ++ event.judged?.toList := by
  simp only [judged, List.filterMap_append]
  cases event <;> rfl

/-- A reconfiguration changes the current manager, and judging an app does not. -/
theorem Step.manager_eq
    (step : Step lookup walk event next) :
    next.manager = event.document?.toList.foldl Manager.configure walk.manager := by
  cases step <;> rfl

/-- An app is taken from those to come when it is judged. -/
theorem Step.waiting_eq
    (step : Step lookup walk event next) :
    walk.waiting = event.judged?.toList.map Prod.fst ++ next.waiting := by
  cases step with
  | configure document => rfl
  | judge isNext => exact isNext

/-- An app is kept if the manager that is asked lets the user change it. -/
theorem Step.kept_eq
    (step : Step lookup walk event next) :
    next.kept =
      walk.kept ++
        (event.judged?.toList.filter fun entry =>
          isControllable entry.2 lookup entry.1).map Prod.fst := by
  cases step with
  | configure document => simp [Event.judged?]
  | @judge package rest isNext =>
      cases verdict : isControllable walk.manager lookup package <;>
        simp [Event.judged?, verdict]

theorem Run.manager_eq
    (run : Run lookup start history walk) :
    walk.manager = currentAfter start.manager history := by
  induction run with
  | start => rfl
  | next run step inductionHypothesis =>
      rw [step.manager_eq, inductionHypothesis, currentAfter_concat]

/-- The apps are judged in their order, each of them once. -/
theorem Run.waiting_eq
    (run : Run lookup start history walk) :
    start.waiting = (judged history).map Prod.fst ++ walk.waiting := by
  induction run with
  | start => rfl
  | next run step inductionHypothesis =>
      rw [inductionHypothesis, step.waiting_eq, judged_concat, List.map_append,
        List.append_assoc]

/-- The apps that are kept are those that were judged so. -/
theorem Run.kept_eq
    (run : Run lookup start history walk) :
    walk.kept =
      start.kept ++
        ((judged history).filter fun entry =>
          isControllable entry.2 lookup entry.1).map Prod.fst := by
  induction run with
  | start => simp [judged]
  | next run step inductionHypothesis =>
      rw [step.kept_eq, inductionHypothesis, judged_concat, List.filter_append,
        List.map_append, List.append_assoc]

/-- An app is judged by the manager that is current at that moment. -/
theorem Run.judge_current
    {before after : List Event}
    {package : String}
    (run : Run lookup start history walk)
    (shape : history = before ++ .judge package manager :: after) :
    manager = currentAfter start.manager before := by
  induction run generalizing after with
  | start => simp at shape
  | next run step inductionHypothesis =>
      cases after using List.reverseRecOn with
      | nil =>
          obtain ⟨rfl, sameEvent⟩ := List.append_inj' shape rfl
          cases sameEvent
          cases step
          exact run.manager_eq
      | append_singleton others last =>
          rw [← List.cons_append, ← List.append_assoc] at shape
          exact inductionHypothesis (List.append_inj' shape rfl).1

/-- Every app of a walk that has come to its end was judged, by one manager only. -/
theorem Run.judged_unique
    {package : String}
    {first second : Manager}
    (run : Run lookup (.start selection manager) history walk)
    (isFirst : (package, first) ∈ judged history)
    (isSecond : (package, second) ∈ judged history) :
    first = second := by
  have parts := run.waiting_eq
  have distinct : ((judged history).map Prod.fst).Nodup := by
    have whole : selection.toList.Nodup := selection.nodup_toList
    rw [show selection.toList = _ from parts] at whole
    exact whole.of_append_left
  have same := List.inj_on_of_nodup_map distinct isFirst isSecond rfl
  exact congrArg Prod.snd same

/-- A walk has kept the apps that were judged so. -/
theorem Run.contains_answer_iff
    {package : String}
    (run : Run lookup (.start selection manager) history walk) :
    walk.answer.contains package = true ↔
      ∃ asked,
        (package, asked) ∈ judged history ∧ isControllable asked lookup package = true := by
  rw [answer, SortedSet.contains_ofList, run.kept_eq]
  simp only [Walk.start, List.nil_append, List.mem_map, List.mem_filter, Prod.exists]
  constructor
  · rintro ⟨_, asked, ⟨isJudged, isKept⟩, rfl⟩
    exact ⟨asked, isJudged, isKept⟩
  · rintro ⟨asked, isJudged, isKept⟩
    exact ⟨package, asked, ⟨isJudged, isKept⟩, rfl⟩

/--
A walk answers as one manager does exactly if that manager would have given each
of its verdicts.
-/
theorem Run.answer_eq_controllable_iff
    (run : Run lookup (.start selection manager) history walk)
    (finished : walk.waiting = []) :
    walk.answer = selection.controllable current lookup ↔
      ∀ package asked,
        (package, asked) ∈ judged history →
          isControllable asked lookup package = isControllable current lookup package := by
  have isSelected (package : String) :
      selection.contains package = true ↔ ∃ asked, (package, asked) ∈ judged history := by
    have parts := run.waiting_eq
    rw [finished, List.append_nil] at parts
    rw [← SortedMap.mem_keys_iff, show selection.keys = _ from parts]
    simp
  constructor
  · intro same package asked isJudged
    rw [Bool.eq_iff_iff]
    have sameMember : walk.answer.contains package = true ↔
        isControllable current lookup package = true := by
      rw [same, controllable_eq_keep, SortedSet.contains_keep, Bool.and_eq_true]
      exact and_iff_right ((isSelected package).mpr ⟨asked, isJudged⟩)
    rw [← sameMember, run.contains_answer_iff]
    constructor
    · exact fun isKept => ⟨asked, isJudged, isKept⟩
    · rintro ⟨other, otherJudged, isKept⟩
      rwa [run.judged_unique isJudged otherJudged]
  · intro sameVerdicts
    apply SortedSet.ext_contains
    intro package
    rw [run.contains_answer_iff, controllable_eq_keep, SortedSet.contains_keep,
      Bool.and_eq_true, isSelected]
    constructor
    · rintro ⟨asked, isJudged, isKept⟩
      exact ⟨⟨asked, isJudged⟩, (sameVerdicts package asked isJudged).symm.trans isKept⟩
    · rintro ⟨⟨asked, isJudged⟩, isKept⟩
      exact ⟨asked, isJudged, (sameVerdicts package asked isJudged).trans isKept⟩

/-- A walk that asked one manager only answers as that manager does. -/
theorem Run.answer_of_oneManager
    (run : Run lookup (.start selection manager) history walk)
    (finished : walk.waiting = [])
    (oneManager : ∀ entry ∈ judged history, entry.2 = current) :
    walk.answer = selection.controllable current lookup := by
  rw [run.answer_eq_controllable_iff finished]
  intro package asked isJudged
  rw [show asked = current from oneManager (package, asked) isJudged]

/-- A walk can always go on to its end without another reconfiguration. -/
theorem Run.exists_finish
    (run : Run lookup start history walk) :
    ∃ more last,
      Run lookup start (history ++ more) last ∧
        last.waiting = [] ∧ ∀ entry ∈ judged more, entry.2 = walk.manager := by
  generalize shape : walk.waiting = waiting
  induction waiting generalizing history walk with
  | nil => exact ⟨[], walk, by simpa using run, shape, by simp [judged]⟩
  | cons package rest inductionHypothesis =>
      obtain ⟨more, last, longer, finished, oneManager⟩ :=
        inductionHypothesis (run.next (.judge shape)) rfl
      refine ⟨.judge package walk.manager :: more, last, by simpa using longer, finished, ?_⟩
      intro entry isJudged
      rcases List.mem_cons.mp isJudged with rfl | isLater
      · rfl
      · exact oneManager entry isLater

/-- Left alone, a walk gives the apps that a user may change. -/
theorem exists_run_controllable
    (lookup : VersionLookup)
    (selection : Selection)
    (manager : Manager) :
    ∃ history walk,
      Run lookup (.start selection manager) history walk ∧
        walk.waiting = [] ∧ walk.answer = selection.controllable manager lookup := by
  obtain ⟨history, walk, run, finished, oneManager⟩ :=
    (Run.start : Run lookup (.start selection manager) [] _).exists_finish
  exact ⟨history, walk, run, finished, run.answer_of_oneManager finished oneManager⟩

/--
Every selected app is judged once, by the manager that is current at that moment.

The apps that are kept are those whose own verdict lets the user change them.
The answer is that of a manager that was current at some moment of the walk if and
only if one of these managers would have given all the verdicts alone.
-/
theorem Run.answer_byCurrentManagers
    (run : Run lookup (.start selection manager) history walk)
    (finished : walk.waiting = []) :
    (judged history).map Prod.fst = selection.toList ∧
      (∀ before package asked after,
        history = before ++ .judge package asked :: after →
          asked = currentAfter manager before) ∧
      (∀ package,
        walk.answer.contains package = true ↔
          ∃ asked,
            (package, asked) ∈ judged history ∧
              isControllable asked lookup package = true) ∧
      ((∃ current ∈ published manager history,
          walk.answer = selection.controllable current lookup) ↔
        ∃ current ∈ published manager history,
          ∀ package asked,
            (package, asked) ∈ judged history →
              isControllable asked lookup package = isControllable current lookup package) := by
  refine ⟨?_, fun before package asked after => run.judge_current,
    fun package => run.contains_answer_iff, ?_⟩
  · have parts := run.waiting_eq
    rw [finished, List.append_nil] at parts
    exact parts.symm
  · simp only [run.answer_eq_controllable_iff finished]

/-- An app that is ruled out only after it was kept stays kept. -/
theorem Run.answer_byCurrentManagers_configuredBetween :
    ∃ history walk,
      Run (fun _ => some 1)
          (.start (.ofList ["a", "b"]) (.ofBuiltin .empty)) history walk ∧
        walk.waiting = [] ∧
        walk.answer.contains "a" = true ∧ walk.answer.contains "b" = false := by
  let both :=
    (Document.empty.withRules .excluded "a" ["*"]).withRules .excluded "b" ["*"]
  have run :
      Run (fun _ => some 1) (.start (.ofList ["a", "b"]) (.ofBuiltin .empty))
        [.judge "a" (.ofBuiltin .empty), .configure both,
          .judge "b" ((Manager.ofBuiltin .empty).configure both)]
        { manager := (Manager.ofBuiltin .empty).configure both
          waiting := []
          kept := ["a"] } :=
    ((Run.start.next (.judge rfl)).next (.configure both)).next (.judge rfl)
  obtain ⟨_, _, isKept, _⟩ := run.answer_byCurrentManagers rfl
  refine ⟨_, _, run, rfl, ?_, Bool.eq_false_iff.mpr fun keepsB => ?_⟩
  · exact (isKept "a").mpr ⟨.ofBuiltin .empty, by simp [judged, Event.judged?], by decide +kernel⟩
  · obtain ⟨asked, isJudged, verdict⟩ := (isKept "b").mp keepsB
    obtain rfl : (Manager.ofBuiltin .empty).configure both = asked := by
      simpa [judged, Event.judged?] using isJudged
    exact absurd verdict (by decide +kernel)

/--
The answer may be that of no manager that was current.

The rules on `b` are replaced by rules on `a` after `a` was kept.
-/
theorem answer_mixesTables :
    ∃ history walk,
      Run (fun _ => some 1)
          (.start (.ofList ["a", "b"])
            ((Manager.ofBuiltin .empty).configure
              (Document.empty.withRules .excluded "b" ["*"])))
          history walk ∧
        walk.waiting = [] ∧
        ∀ current ∈
            published
              ((Manager.ofBuiltin .empty).configure
                (Document.empty.withRules .excluded "b" ["*"]))
              history,
          walk.answer ≠ Selection.controllable (.ofList ["a", "b"]) current fun _ => some 1 :=
  ⟨_, _,
    ((Run.start.next (.judge rfl)).next
      (.configure (Document.empty.withRules .excluded "a" ["*"]))).next (.judge rfl),
    rfl, by decide +kernel⟩

end Runs

end Walk

end Selection

end SplitTunnel
