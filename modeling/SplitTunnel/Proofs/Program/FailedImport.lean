import SplitTunnel.Proofs.Program.Refinement
import SplitTunnel.Proofs.Store.Effect

namespace SplitTunnel

/-!
# Imports that fail

An import that fails may leave an empty lock file, directories above it and no temp
file where one was left over, or a part of one where the system refuses to remove it.
None of this is noticed by a later command that does
not import: each of them loads what it would have loaded if the import had never
been tried, so any number of them report the same, one after another.
-/

open FileTree (Keeps)
open Store (LoadsAlike)

/-- A command that does not import, in a process that may hold locks, with a mode of its own. -/
structure ReadingCommand where
  mode : TunnelMode
  held : SortedSet Location
  command : Command
  noImport : ∀ file, command ≠ .importFile file

namespace ReadingCommand

/-- Run a command on the store with the given paths. -/
def run
    (reading : ReadingCommand)
    (paths : StorePaths)
    (tree : FileTree) :
    Report × FileTree :=
  let context : Context := { paths := paths, mode := reading.mode }
  let (report, session) := reading.command.run context { tree := tree, held := reading.held }
  (report, session.tree)

/-- What commands report, each on the files that the one before it left. -/
def reports
    (paths : StorePaths)
    (tree : FileTree) :
    List ReadingCommand → List Report
  | [] => []
  | reading :: later =>
      let (report, next) := reading.run paths tree
      report :: reports paths next later

end ReadingCommand

namespace Command

variable {context : Context} {session elsewhere : Session} {command : Command} {file : Path}
variable {answers : SaveAnswers}

/-- The report of a command that does not import depends on what a load finds, and on no more. -/
theorem run_congr
    (noImport : ∀ file, command ≠ .importFile file)
    (sameLoad : (context.store.tryLoad session).1 = (context.store.tryLoad elsewhere).1) :
    (command.run context session).1 = (command.run context elsewhere).1 := by
  have sameDocument : (context.store.load session).1 = (context.store.load elsewhere).1 := by
    rw [Store.load_fst, Store.load_fst, sameLoad]
  have sameAnswer :
      command ≠ .showDocument →
        ∀ lines, command.answer? (context.store.load session).1 = some lines →
          (command.run context session).1 = (command.run context elsewhere).1 := by
    intro noShow lines isAnswer
    rw [run_of_answer noShow isAnswer]
    rw [sameDocument] at isAnswer
    rw [run_of_answer noShow isAnswer]
  cases command with
  | validate texts => rfl
  | tunneled package mode? apps => rfl
  | importFile file => exact absurd rfl (noImport file)
  | check package version => exact sameAnswer (by simp) _ rfl
  | managed category? installed => exact sameAnswer (by simp) _ rfl
  | controllable apps installed host? => exact sameAnswer (by simp) _ rfl
  | showDocument =>
      rw [run, run, runShow, runShow]
      cases loaded : context.store.tryLoad session with
      | mk result next =>
          cases loadedElsewhere : context.store.tryLoad elsewhere with
          | mk other nextElsewhere =>
              rw [loaded, loadedElsewhere] at sameLoad
              change result = other at sameLoad
              subst sameLoad
              cases result with
              | ok found? => cases found? <;> rfl
              | error fault =>
                  dsimp only
                  split <;> rfl

/-- An import that fails could not read the file, found no document in it, or did not save it. -/
theorem runImport_cases
    {fault : CommandFault}
    (failed : (runImport context session file answers).1.fault? = some fault) :
    (∃ refusal,
        session.tree.fileContent file = .error refusal ∧
          runImport context session file answers =
            (.ofFault (.unreadable file refusal), session)) ∨
      (∃ bytes refusal,
        session.tree.fileContent file = .ok bytes ∧
          (Codec.json Document).decode bytes = .error refusal ∧
          runImport context session file answers =
            (.ofFault (.notDocument file refusal), session)) ∨
      ∃ bytes document refusal next,
        session.tree.fileContent file = .ok bytes ∧
          (Codec.json Document).decode bytes = .ok document ∧
          context.store.trySave session document answers = (.error refusal, next) ∧
          runImport context session file answers =
            (.ofFault (.notSaved context.paths.target refusal), next) := by
  rw [runImport] at failed ⊢
  cases holds : session.tree.fileContent file with
  | error refusal => exact Or.inl ⟨refusal, rfl, rfl⟩
  | ok bytes =>
      rw [holds] at failed
      dsimp only at failed ⊢
      cases decoded : (Codec.json Document).decode bytes with
      | error refusal => exact Or.inr (Or.inl ⟨bytes, refusal, rfl, decoded, rfl⟩)
      | ok document =>
          rw [decoded] at failed
          dsimp only at failed ⊢
          cases saved : context.store.trySave session document answers with
          | mk result next =>
              rw [saved] at failed
              cases result with
              | ok _ => contradiction
              | error refusal =>
                  exact Or.inr (Or.inr ⟨bytes, document, refusal, next, rfl, decoded, saved, rfl⟩)

/-- What an import that fails prints and leaves behind. -/
structure FailureEffect
    (directory : Location)
    (lock temp : String)
    (session : Session)
    (outcome : Report × Session) :
    Prop where
  printed : outcome.1.printed = []
  held : outcome.2.held = session.held
  kept : Keeps directory [lock :: directory, temp :: directory] session.tree outcome.2.tree
  lockFile :
    outcome.2.tree.get? (lock :: directory) = session.tree.get? (lock :: directory) ∨
      (session.tree.get? (lock :: directory) = none ∧
        outcome.2.tree.get? (lock :: directory) = some (.file []))

/-- An import that stops before it saves leaves everything as it was. -/
theorem FailureEffect.ofUnsaved
    {directory : Location}
    {lock temp : String}
    (session : Session)
    (fault : CommandFault) :
    FailureEffect directory lock temp session (.ofFault fault, session) where
  printed := rfl
  held := rfl
  kept := Keeps.refl session.tree
  lockFile := Or.inl rfl

theorem effect_runImport
    {directory : Location}
    {lock temp target : String}
    {fault : CommandFault}
    (siblings : context.paths.Siblings directory lock temp target)
    (failed : (runImport context session file answers).1.fault? = some fault) :
    FailureEffect directory lock temp session (runImport context session file answers) := by
  rcases runImport_cases failed with
    ⟨refusal, _, imported⟩ | ⟨_, refusal, _, _, imported⟩ |
      ⟨_, document, refusal, next, _, _, saved, imported⟩
  · rw [imported]
    exact .ofUnsaved session _
  · rw [imported]
    exact .ofUnsaved session _
  · have siblings : context.store.paths.Siblings directory lock temp target := siblings
    have effect := Store.effect_trySave siblings session document answers
    rw [saved] at effect
    rw [imported]
    exact ⟨rfl, effect.held, effect.failed refusal rfl, effect.lockFile⟩

end Command

namespace ReadingCommand

variable {paths : StorePaths} {tree other : FileTree} {directory : Location}
variable {lock temp target : String}

/-- A command reports the same for trees that a load cannot tell apart, and leaves such trees. -/
theorem run_alike
    (siblings : paths.Siblings directory lock temp target)
    (alike : LoadsAlike directory lock target tree other)
    (reading : ReadingCommand) :
    (reading.run paths tree).1 = (reading.run paths other).1 ∧
      LoadsAlike directory lock target (reading.run paths tree).2 (reading.run paths other).2 := by
  let context : Context := { paths := paths, mode := reading.mode }
  let session : Session := { tree := tree, held := reading.held }
  let elsewhere : Session := { tree := other, held := reading.held }
  have siblings : context.store.paths.Siblings directory lock temp target := siblings
  have sameLoad : (context.store.tryLoad session).1 = (context.store.tryLoad elsewhere).1 :=
    alike.tryLoad siblings rfl
  refine ⟨Command.run_congr reading.noImport sameLoad, ?_⟩
  change LoadsAlike directory lock target (reading.command.run context session).2.tree
    (reading.command.run context elsewhere).2.tree
  rcases Command.lockMode?_of_noImport reading.noImport with takesNone | takesShared
  · rw [Command.run_of_noLock takesNone, Command.run_of_noLock takesNone]
    exact alike
  · rw [Command.run_of_sharedLock takesShared, Command.run_of_sharedLock takesShared]
    -- Either load may make the lock file, which neither tree's next load can tell.
    have before := LoadsAlike.ofLoad siblings session
    have beforeElsewhere := LoadsAlike.ofLoad siblings elsewhere
    exact (before.symm.trans alike).trans beforeElsewhere

/-- Commands one after another report the same for trees that a load cannot tell apart. -/
theorem reports_alike
    (siblings : paths.Siblings directory lock temp target)
    (alike : LoadsAlike directory lock target tree other)
    (later : List ReadingCommand) :
    reports paths tree later = reports paths other later := by
  induction later generalizing tree other with
  | nil => rfl
  | cons reading later inductionHypothesis =>
      obtain ⟨sameReport, alikeNext⟩ := run_alike siblings alike reading
      rw [reports, reports]
      dsimp only
      rw [sameReport, inductionHypothesis alikeNext]

end ReadingCommand

namespace Command

/--
An import that fails changes nothing that a later command finds, whatever the system refused.

If the file could not be read or is no document, all files are as they were.  If the
document was not saved, the rules that are kept are as they were, with all that is
below them.  In each case nothing is printed, the same locks are held, and commands
that do not import report one after another what they would have reported without
the import, whichever locks their processes hold.
-/
theorem runImport_failed
    {fault : CommandFault}
    (offered : context.paths.Offered)
    (noStep : context.paths.NeverStepUp)
    (failed : (runImport context session file answers).1.fault? = some fault) :
    let next := (runImport context session file answers).2
    (runImport context session file answers).1.printed = [] ∧
      next.held = session.held ∧
      ((∀ bytes document,
          session.tree.fileContent file = .ok bytes →
            (Codec.json Document).decode bytes ≠ .ok document) →
        next = session) ∧
      (∀ place, context.paths.target.location <:+ place →
        next.tree.get? place = session.tree.get? place) ∧
      (∀ bytes,
        next.tree.fileContent context.paths.target = .ok bytes ↔
          session.tree.fileContent context.paths.target = .ok bytes) ∧
      ∀ later,
        ReadingCommand.reports context.paths next.tree later =
          ReadingCommand.reports context.paths session.tree later := by
  intro next
  obtain ⟨directory, lock, temp, target, siblings⟩ := offered.siblings noStep
  have effect := effect_runImport siblings failed
  have alike : LoadsAlike directory lock target session.tree next.tree :=
    .ofKept siblings effect.kept effect.lockFile
  refine ⟨effect.printed, effect.held, ?_, ?_, ?_, ?_⟩
  · intro notRead
    rcases runImport_cases failed with
      ⟨_, _, imported⟩ | ⟨_, _, _, _, imported⟩ | ⟨bytes, document, _, _, holds, decoded, _⟩
    · exact congrArg Prod.snd imported
    · exact congrArg Prod.snd imported
    · exact absurd decoded (notRead bytes document holds)
  · rw [siblings.targetNames.location_eq]
    exact fun place isBelow => Store.target_kept siblings effect.kept isBelow
  · intro bytes
    rw [FileTree.fileContent_eq_ok_iff siblings.targetNames,
      FileTree.fileContent_eq_ok_iff siblings.targetNames, alike.sameTarget]
  · exact ReadingCommand.reports_alike siblings alike.symm

/-- Bytes that write one rule, as somebody may have written them by hand. -/
def ruleBytes : List UInt8 :=
  Text.encode "\x7b\"exclude\": \x7b\"a.b\": [\"<7\"]\x7d\x7d"

/-- A store with a directory in the way of its temp file, and a file to import. -/
def tempBlocked : Session :=
  .ofTree (((FileTree.empty.addDirectory ["data"]).addDirectory ["rules_temp.json", "data"])
    |>.putFile ["rules.json", "data"] ruleBytes
    |>.putFile ["in.json"] (Text.encode "\x7b\x7d"))

theorem runImport_failed_tempBlocked :
    let context : Context := ⟨.inDirectory ⟨"data"⟩ "rules", default⟩
    let next := (runImport context tempBlocked ⟨"in.json"⟩).2
    let later : List ReadingCommand :=
      [⟨default, ∅, .showDocument, by simp⟩, ⟨default, ∅, .check "a.b" 5, by simp⟩]
    next ≠ tempBlocked ∧
      next.tree.fileContent context.paths.target = .ok ruleBytes ∧
      (ReadingCommand.reports context.paths next.tree later).map Report.output =
        ["\x7b\n  \"exclude\": \x7b\n    \"a.b\": [\n      \"<7\"\n    ]\n  \x7d,\n" ++
            "  \"include\": \x7b\x7d\n\x7d\n",
          "exclude  true  [<7]\ninclude  false []\nany      true\n"] := by
  intro context next later
  have noStep : context.paths.NeverStepUp := ⟨by decide, by decide, by decide⟩
  have failed : ((runImport context tempBlocked ⟨"in.json"⟩).1.fault?).isSome = true := by
    decide +kernel
  obtain ⟨fault, failed⟩ := Option.isSome_iff_exists.mp failed
  obtain ⟨_, _, _, _, sameContent, sameReports⟩ :=
    runImport_failed (.inDirectory _ _) noStep failed
  refine ⟨by decide +kernel, (sameContent _).mpr (by decide +kernel), ?_⟩
  rw [sameReports later]
  decide +kernel

end Command

namespace Program

variable {environment : Environment} {tree : FileTree} {words : List String}
variable {arguments : Arguments} {context : Context} {answers : SaveAnswers}

/--
Runs that use one store one after another in two places, without importing.

They are asked the same in the same environments and find the same settings in both
places; what is recorded is how each of them ended in the one place and in the other.
-/
inductive RunsTwice
    (paths : StorePaths)
    (start other : FileTree) :
    List (RunResult × RunResult) → FileTree → FileTree → Prop where
  | start :
      RunsTwice paths start other [] start other
  | next
      {history : List (RunResult × RunResult)}
      {environment : Environment}
      {tree elsewhere : FileTree}
      {words : List String}
      {arguments : Arguments}
      {context : Context}
      (runs : RunsTwice paths start other history tree elsewhere)
      (understood : Request.parse? words = some (.execute arguments))
      (found : Program.context environment tree arguments = .ok context)
      (foundElsewhere : Program.context environment elsewhere arguments = .ok context)
      (sameStore : context.paths = paths)
      (noImport : ∀ file, arguments.command ≠ .importFile file) :
      RunsTwice paths start other
        (history ++ [((run environment tree words).1, (run environment elsewhere words).1)])
        (run environment tree words).2
        (run environment elsewhere words).2

/-- Runs end the same in places that a load cannot tell apart. -/
theorem RunsTwice.same
    {paths : StorePaths}
    {start other last lastElsewhere : FileTree}
    {history : List (RunResult × RunResult)}
    {directory : Location}
    {lock temp target : String}
    (siblings : paths.Siblings directory lock temp target)
    (alike : LoadsAlike directory lock target start other)
    (runs : RunsTwice paths start other history last lastElsewhere) :
    LoadsAlike directory lock target last lastElsewhere ∧
      ∀ result elsewhere, (result, elsewhere) ∈ history → result = elsewhere := by
  induction runs with
  | start => exact ⟨alike, fun _ _ member => absurd member List.not_mem_nil⟩
  | @next history environment tree elsewhere words arguments context _ understood found
      foundElsewhere sameStore noImport inductionHypothesis =>
      obtain ⟨alikeBefore, sameBefore⟩ := inductionHypothesis
      subst sameStore
      let reading : ReadingCommand :=
        { mode := context.mode, held := ∅, command := arguments.command, noImport := noImport }
      obtain ⟨sameReport, alikeNext⟩ := reading.run_alike siblings alikeBefore
      rw [run_eq understood found, run_eq understood foundElsewhere]
      refine ⟨alikeNext, fun result elsewhere member => ?_⟩
      rcases List.mem_append.mp member with isEarlier | isLast
      · exact sameBefore result elsewhere isEarlier
      · cases List.mem_singleton.mp isLast
        exact congrArg RunResult.ofReport sameReport

/--
A run whose import fails changes nothing that a later run of the program finds.

It writes nothing, and the rules that are kept stay as they were, with all that is
below them.  Runs on the same store that do not import end one after another as they
would have without the import, with the same lines, warnings and status.
-/
theorem failedRun_unnoticed
    {file : String}
    (understood : Request.parse? words = some (.execute arguments))
    (isImport : arguments.command = .importFile file)
    (found : Program.context environment tree arguments = .ok context)
    (noStep : context.paths.NeverStepUp)
    (failed : (run environment tree words answers).1.status ≠ 0) :
    let next := (run environment tree words answers).2
    (run environment tree words answers).1.output = "" ∧
      (∀ place, context.paths.target.location <:+ place → next.get? place = tree.get? place) ∧
      ∀ history last lastElsewhere,
        RunsTwice context.paths next tree history last lastElsewhere →
          ∀ result elsewhere, (result, elsewhere) ∈ history → result = elsewhere := by
  obtain ⟨directory, lock, temp, target, siblings⟩ := (offered_of_context found).siblings noStep
  rw [run_eq understood found, isImport] at failed ⊢
  have hasFault :
      (Command.runImport context (.ofTree tree) { text := file } answers).1.fault? ≠ none :=
    fun noFault => failed (RunResult.status_ofReport_iff.mpr noFault)
  obtain ⟨fault, isFault⟩ := Option.ne_none_iff_exists'.mp hasFault
  have effect := Command.effect_runImport siblings isFault
  refine ⟨?_, ?_, ?_⟩
  · rw [RunResult.output_ofReport, Report.output]
    exact congrArg (fun printed => String.join (printed.map fun text => text ++ "\n"))
      effect.printed
  · rw [siblings.targetNames.location_eq]
    exact fun place isBelow => Store.target_kept siblings effect.kept isBelow
  · intro history last lastElsewhere runs
    have alike : LoadsAlike directory lock target tree _ :=
      .ofKept siblings effect.kept effect.lockFile
    exact (runs.same siblings alike.symm).2

end Program

end SplitTunnel
