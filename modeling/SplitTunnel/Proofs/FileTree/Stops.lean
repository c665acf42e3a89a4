import SplitTunnel.FileTree.Activity
import SplitTunnel.Proofs.FileTree.Steps

namespace SplitTunnel

/-!
# Where steps may be cut short

A process that is stopped leaves the tree between two of its steps or inside
one: some of the directories are made that a step makes one after another, or
some of the bytes are written that a step writes.  What a step leaves that the
system refused is one of these trees, so the end of every run is one, too.
-/

namespace FileTree

open SplitTunnel.Path (IsTidy lead)

/-- The trees that are passed while a directory and those above it are made. -/
inductive PartlyMade (tree : FileTree) : List String → FileTree → Prop where
  | untouched (reversed : List String) :
      PartlyMade tree reversed tree
  | above
      {reversed parent : List String}
      {next : FileTree}
      (isMissing : tree.ensureDirectory reversed.reverse = .error .notFound)
      (isParent : Path.parentReversed? reversed = some parent)
      (made : PartlyMade tree parent next) :
      PartlyMade tree reversed next
  | whole (reversed : List String) :
      PartlyMade tree reversed (tree.ensureReversed reversed).1

theorem PartlyMade.keeps
    {tree next : FileTree}
    {reversed : List String}
    (made : PartlyMade tree reversed next)
    (noStep : ".." ∉ reversed)
    (tidy : IsTidy reversed) :
    Keeps (lead [] reversed.reverse) [] tree next := by
  induction made with
  | untouched reversed => exact Keeps.refl tree
  | whole reversed => exact (ensured_ensureReversed tree reversed noStep tidy).kept
  | @above reversed parent next _ isParent _ inductionHypothesis =>
      obtain ⟨isSuffix, parentTidy⟩ := Path.parentReversed?_suffix isParent
      obtain ⟨more, shape⟩ := List.reverse_prefix.mpr isSuffix
      have parentStays : ".." ∉ parent := fun member => noStep (isSuffix.subset member)
      refine (inductionHypothesis parentStays parentTidy).mono ?_ (by simp)
      rw [← shape, Path.lead_append]
      exact Path.suffix_lead _ _

/-- Directories that could not all be made are some of those on the way. -/
theorem partlyMade_ensureAbove
    (tree : FileTree)
    (reversed : List String)
    (missing : Nat) :
    PartlyMade tree reversed (tree.ensureAbove reversed missing) := by
  fun_induction ensureAbove tree reversed missing with
  | case1 reversed parent isParent isMissing =>
      exact .above isMissing isParent (.whole parent)
  | case2 reversed parent more isParent isMissing inductionHypothesis =>
      exact .above isMissing isParent inductionHypothesis
  | case3 => exact .untouched _

end FileTree

namespace DiskStep

open FileTree (Keeps PartlyMade)
open SplitTunnel.Path (Names)

/-- The trees in which a process may be stopped at one step. -/
inductive MayStopAt (tree : FileTree) : DiskStep → FileTree → Prop where
  | before (step : DiskStep) :
      MayStopAt tree step tree
  | amongDirectories
      {path : Path}
      {segments : List String}
      {next : FileTree}
      (hasText : path.text ≠ "")
      (checked : path.checked = .ok segments)
      (made : PartlyMade tree segments.reverse next) :
      MayStopAt tree (.makeDirectories path) next
  | insideWrite
      {path : Path}
      {content part : List UInt8}
      {next : FileTree}
      (isStart : part <+: content)
      (stored : tree.storeFile path part = .ok next) :
      MayStopAt tree (.write path content) next
  | after (step : DiskStep) :
      MayStopAt tree step (step.run tree).1

/-- The trees in which a process may be stopped that does steps up to the first that fails. -/
inductive StopsWithin : FileTree → List DiskStep → FileTree → Prop where
  | finished (tree : FileTree) :
      StopsWithin tree [] tree
  | during
      {tree stopped : FileTree}
      {step : DiskStep}
      {rest : List DiskStep}
      (stops : MayStopAt tree step stopped) :
      StopsWithin tree (step :: rest) stopped
  | later
      {tree next stopped : FileTree}
      {step : DiskStep}
      {rest : List DiskStep}
      (ran : step.run tree = (next, .ok ()))
      (stops : StopsWithin next rest stopped) :
      StopsWithin tree (step :: rest) stopped

variable {tree stopped : FileTree} {directory : Location} {path : Path} {name : String}

theorem stopsWithin_append
    {first second : List DiskStep}
    (stops : StopsWithin tree (first ++ second) stopped) :
    StopsWithin tree first stopped ∨
      ∃ next, runAll tree first = (next, .ok ()) ∧ StopsWithin next second stopped := by
  induction first generalizing tree with
  | nil => exact Or.inr ⟨tree, rfl, stops⟩
  | cons step rest inductionHypothesis =>
      rw [List.cons_append] at stops
      cases stops with
      | during stops => exact Or.inl (.during stops)
      | later ran stops =>
          rcases inductionHypothesis stops with within | ⟨next, ranRest, stops⟩
          · exact Or.inl (.later ran within)
          · refine Or.inr ⟨next, ?_, stops⟩
            rw [runAll_cons, ran]
            exact ranRest

/-- A process may be stopped in later steps once the first ones are done. -/
theorem StopsWithin.append
    {next : FileTree}
    {first second : List DiskStep}
    (ran : runAll tree first = (next, .ok ()))
    (stops : StopsWithin next second stopped) :
    StopsWithin tree (first ++ second) stopped := by
  induction first generalizing tree with
  | nil =>
      cases ran
      exact stops
  | cons step rest inductionHypothesis =>
      rw [runAll_cons] at ran
      split at ran
      · rename_i ranFirst
        exact .later ranFirst (inductionHypothesis ran)
      · cases ran

theorem stopsWithin_singleton
    {step : DiskStep}
    (stops : StopsWithin tree [step] stopped) :
    MayStopAt tree step stopped := by
  cases stops with
  | during stops => exact stops
  | later ran stops =>
      cases stops
      have isAfter : MayStopAt tree step (step.run tree).1 := .after step
      rw [ran] at isAfter
      exact isAfter

theorem orUnchanged_cases
    (tree : FileTree)
    (result : Except FileFault FileTree) :
    (orUnchanged tree result).1 = tree ∨ result = .ok (orUnchanged tree result).1 := by
  cases result with
  | error fault => exact Or.inl rfl
  | ok next => exact Or.inr rfl

/-- What a step leaves that was refused is what it may be stopped at. -/
theorem mayStopAt_leftover
    (tree : FileTree)
    (extent : Nat)
    (step : DiskStep) :
    MayStopAt tree step (step.leftover tree extent) := by
  cases step with
  | makeDirectories path =>
      rw [leftover]
      split
      · exact .before _
      · rename_i segments checked
        have hasText : path.text ≠ "" := by
          intro isEmpty
          rw [Path.checked, isEmpty] at checked
          contradiction
        exact .amongDirectories hasText checked (FileTree.partlyMade_ensureAbove ..)
  | write path content =>
      rw [leftover]
      rcases orUnchanged_cases tree (tree.storeFile path (content.take extent)) with
        same | stored
      · rw [same]
        exact .before _
      · exact .insideWrite (List.take_prefix extent content) stored
  | touch path => exact .before _
  | truncate path => exact .before _
  | sync path => exact .before _
  | replace source target => exact .before _
  | remove path => exact .before _

theorem mayStopAt_answered
    (tree : FileTree)
    (step : DiskStep)
    (answer : StepAnswer) :
    MayStopAt tree step (step.answered tree answer).1 := by
  cases answer with
  | done => exact .after step
  | refused fault extent => exact mayStopAt_leftover tree extent step

/-- Steps end in a tree in which a process may be stopped, whatever the system answers. -/
theorem stopsWithin_runAll
    (tree : FileTree)
    (steps : List DiskStep)
    (answers : List StepAnswer) :
    StopsWithin tree steps (runAll tree steps answers).1 := by
  induction steps generalizing tree answers with
  | nil => exact .finished tree
  | cons step rest inductionHypothesis =>
      rw [runAll]
      split
      · rename_i ran
        exact .later (run_of_answered ran) (inductionHypothesis _ _)
      · rename_i failed
        have stops := mayStopAt_answered tree step (answers.headD .done)
        rw [failed] at stops
        exact .during stops

/-- A move that fails leaves everything as it was. -/
theorem unchanged_of_replace_failed
    {source target : Path}
    {answer : StepAnswer}
    {fault : FileFault}
    (failed : (replace source target).answered tree answer = (stopped, .error fault)) :
    stopped = tree := by
  cases answer with
  | refused refusal extent =>
      cases failed
      rfl
  | done =>
      rw [answered, run] at failed
      cases moved : tree.moveFile source target with
      | ok next =>
          rw [moved] at failed
          cases failed
      | error refusal =>
          rw [moved] at failed
          cases failed
          rfl

/-- Steps before a move that fail, or the move after them, end where the steps may be stopped. -/
theorem stopsWithin_of_failed
    {steps : List DiskStep}
    {source target : Path}
    {answers : List StepAnswer}
    {failed : AccessFault}
    (ran : runAll tree (steps ++ [.replace source target]) answers = (stopped, .error failed)) :
    StopsWithin tree steps stopped := by
  induction steps generalizing tree answers with
  | nil =>
      rw [List.nil_append, runAll] at ran
      split at ran
      · cases ran
      · rename_i isFailed
        cases ran
        rw [unchanged_of_replace_failed isFailed]
        exact .finished tree
  | cons step rest inductionHypothesis =>
      rw [List.cons_append, runAll] at ran
      split at ran
      · rename_i ranFirst
        exact .later (run_of_answered ranFirst) (inductionHypothesis ran)
      · rename_i isFailed
        cases ran
        have stops := mayStopAt_answered tree step (answers.headD .done)
        rw [isFailed] at stops
        exact .during stops

theorem mayStopAt_touch
    (stops : MayStopAt tree (.touch path) stopped) :
    stopped = tree ∨ tree.touch path = .ok stopped := by
  cases stops with
  | before => exact Or.inl rfl
  | after => exact orUnchanged_cases tree _

theorem mayStopAt_truncate
    (stops : MayStopAt tree (.truncate path) stopped) :
    stopped = tree ∨ tree.storeFile path [] = .ok stopped := by
  cases stops with
  | before => exact Or.inl rfl
  | after => exact orUnchanged_cases tree _

theorem mayStopAt_write
    {content : List UInt8}
    (stops : MayStopAt tree (.write path content) stopped) :
    stopped = tree ∨ ∃ part, part <+: content ∧ tree.storeFile path part = .ok stopped := by
  cases stops with
  | before => exact Or.inl rfl
  | insideWrite isStart stored => exact Or.inr ⟨_, isStart, stored⟩
  | after =>
      rcases orUnchanged_cases tree (tree.storeFile path content) with same | stored
      · exact Or.inl same
      · exact Or.inr ⟨content, List.prefix_refl content, stored⟩

theorem mayStopAt_replace
    {source target : Path}
    (stops : MayStopAt tree (.replace source target) stopped) :
    stopped = tree ∨ tree.moveFile source target = .ok stopped := by
  cases stops with
  | before => exact Or.inl rfl
  | after => exact orUnchanged_cases tree _

theorem mayStopAt_sync
    (stops : MayStopAt tree (.sync path) stopped) :
    stopped = tree := by
  cases stops with
  | before => rfl
  | after => rfl

theorem mayStopAt_remove
    (stops : MayStopAt tree (.remove path) stopped) :
    stopped = tree ∨ tree.unlink path = .ok stopped := by
  cases stops with
  | before => exact Or.inl rfl
  | after => exact orUnchanged_cases tree _

/-- Wherever the making of a path's directory is stopped, only missing directories are made. -/
theorem stopsWithin_makeParent
    (names : Names path directory name)
    (stops : StopsWithin tree (makeParent path) stopped) :
    Keeps directory [] tree stopped := by
  have whole := (runAll_makeParent tree names).1
  rw [makeParent] at stops whole
  rcases Path.writtenParent?_cases names with
    ⟨noParent, _⟩ | ⟨parent, isParent, hasText, noStep, tidy, leads⟩
  · rw [noParent] at stops
    cases stops
    exact Keeps.refl tree
  · rw [isParent] at stops whole
    dsimp only at stops whole
    cases stopsWithin_singleton stops with
    | before => exact Keeps.refl tree
    | amongDirectories _ checked made =>
        rw [Path.segments_of_checked checked] at made
        have kept := made.keeps (by simpa using noStep) tidy
        rw [List.reverse_reverse, leads] at kept
        exact kept
    | after =>
        rw [runAll_singleton] at whole
        exact whole

end DiskStep

namespace Activity

/-- The trees in which a process may be stopped that does some work. -/
def StopsIn : Activity α → FileTree → Prop
  | .done _, _ =>
      False
  | .working tree steps answers next, stopped =>
      DiskStep.StopsWithin tree steps stopped ∨
        (next (DiskStep.runAll tree steps answers).1
          (DiskStep.runAll tree steps answers).2).StopsIn stopped

/-- Work that goes on is stopped in its first part or in what is done with the result. -/
theorem stopsIn_andThen
    {work : Activity α}
    {next : α → Activity β}
    {stopped : FileTree} :
    (work.andThen next).StopsIn stopped ↔
      work.StopsIn stopped ∨ (next work.run).StopsIn stopped := by
  induction work with
  | done result => simp [andThen, StopsIn, run]
  | working tree steps answers later inductionHypothesis =>
      rw [andThen, StopsIn, StopsIn, inductionHypothesis, or_assoc]
      rfl

end Activity

end SplitTunnel
