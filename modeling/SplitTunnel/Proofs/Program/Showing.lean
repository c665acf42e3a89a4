import SplitTunnel.Proofs.Json.Layout
import SplitTunnel.Proofs.Program.Refinement

namespace SplitTunnel

/-!
# What is shown can be imported

The lines that show a document are read as that document.  So what one run shows
another can import, into the same store or a different one, and shows it again.
What is shown is also what the other commands answer from, whether the rules that
are kept could be read or not, as long as the lock is not held.
-/

/-- The lines that show a document are read as the document. -/
theorem Document.ofJson_shownText
    (document : Document) :
    ofJson (Text.encode (Command.shownText document ++ "\n")) = .ok document := by
  have isBlank : Json.IsBlank "\n".toList := by simp [Json.IsBlank]
  have isRead := Json.decode_prettyText (hasNoNumber_toValue document) isBlank ofValue
  exact isRead.trans (ofValue_toValue document)

/-- A report of one text is a line. -/
theorem Report.output_ofPrinted_singleton
    (text : String) :
    (ofPrinted [text]).output = text ++ "\n" := by
  simp [ofPrinted, output, String.join]

namespace Command

variable {context : Context} {session : Session} {document : Document}
variable {command : Command} {lines : List String} {file : Path}

/-- The document that is shown is the one that a load yields. -/
theorem printed_runShow
    (succeeds : (runShow context session).1.fault? = none) :
    (runShow context session).1.printed = [shownText (context.store.load session).1] := by
  rw [Store.load_fst]
  rw [runShow] at succeeds ⊢
  cases loaded : context.store.tryLoad session with
  | mk result next =>
      rw [loaded] at succeeds
      cases result with
      | ok found? => cases found? <;> rfl
      | error fault =>
          dsimp only at succeeds ⊢
          cases isBusy : fault.isContention with
          | true =>
              rw [isBusy] at succeeds
              contradiction
          | false => rfl

/-- A command that asks about the rules answers as if the document that is shown was loaded. -/
theorem run_of_shown
    (succeeds : (runShow context session).1.fault? = none)
    (isAnswer : command.answer? (context.store.load session).1 = some lines) :
    (command.run context session).1.fault? = none ∧
      (command.run context session).1.printed = lines := by
  by_cases isShow : command = .showDocument
  · subst isShow
    cases isAnswer
    exact ⟨succeeds, printed_runShow succeeds⟩
  · rw [run_of_answer isShow isAnswer]
    exact ⟨rfl, rfl⟩

/-- What a command writes and how it ends. -/
def result
    (context : Context)
    (session : Session)
    (command : Command) :
    RunResult :=
  .ofReport (command.run context session).1

theorem status_result_iff :
    (command.result context session).status = 0 ↔
      (command.run context session).1.fault? = none :=
  RunResult.status_ofReport_iff

/-- A command writes what it printed, each text in a line of its own. -/
theorem output_result
    (isPrinted : (command.run context session).1.printed = lines) :
    (command.result context session).output = (Report.ofPrinted lines).output := by
  rw [result, RunResult.output_ofReport, Report.output, isPrinted]
  rfl

/-- A store that is shown is written as the lines of the document that a load yields. -/
theorem output_showDocument
    (succeeds : (runShow context session).1.fault? = none) :
    (showDocument.result context session).output =
      shownText (context.store.load session).1 ++ "\n" := by
  have written : (showDocument.result context session).output =
      (Report.ofPrinted [shownText (context.store.load session).1]).output :=
    output_result (printed_runShow succeeds)
  rw [written, Report.output_ofPrinted_singleton]

/--
Showing and importing undo each other, and what is shown is what is answered from.

The lines that show any document are read as the document.  Whenever a store is shown,
whatever its file holds, the lines are those of the document that a load yields, and
each command that asks about the rules writes what it writes for a manager that is
configured with this document.  An import of these lines, wherever they were put and
whichever store is to keep them, leaves the bytes of the document there, and showing
that store writes the lines again.
-/
theorem show_importsBack
    (context : Context)
    (session : Session)
    (succeeds : (showDocument.result context session).status = 0) :
    (∀ document : Document,
      Document.ofJson (Text.encode (shownText document ++ "\n")) = .ok document) ∧
    ∃ document,
      (showDocument.result context session).output = shownText document ++ "\n" ∧
      (context.store.load session).1 = document ∧
      (context.manager session).1 = (Manager.ofBuiltin builtinDocument).configure document ∧
      (∀ (command : Command) (lines : List String),
        command.answer? document = some lines →
          (command.result context session).status = 0 ∧
            (command.result context session).output = (Report.ofPrinted lines).output) ∧
      ∀ (importing : Context) (elsewhere : Session) (file : String),
        importing.paths.Offered →
          elsewhere.tree.fileContent { text := file } =
              .ok (Text.encode (showDocument.result context session).output) →
            ((importFile file).result importing elsewhere).status = 0 →
              let afterwards := ((importFile file).run importing elsewhere).2
              afterwards.tree.fileContent importing.paths.target = .ok document.toJson ∧
                (showDocument.result importing afterwards).status = 0 ∧
                (showDocument.result importing afterwards).output =
                  (showDocument.result context session).output := by
  have noFault := status_result_iff.mp succeeds
  have output := output_showDocument noFault
  refine ⟨Document.ofJson_shownText, (context.store.load session).1, output, rfl,
    manager_fst context session, ?_, ?_⟩
  · intro command lines isAnswer
    obtain ⟨noFault, isPrinted⟩ := run_of_shown noFault isAnswer
    exact ⟨status_result_iff.mpr noFault, output_result isPrinted⟩
  · intro importing elsewhere file offered holds imports
    rw [output] at holds ⊢
    obtain ⟨settled, notHeld⟩ :=
      settled_of_runImport offered holds (Document.ofJson_shownText _)
        (status_result_iff.mp imports)
    -- The lock was free for the import, so it is free for showing what was imported.
    have noImport : ∀ other, showDocument ≠ .importFile other := by simp
    obtain ⟨_, answers⟩ := run_of_settled settled notHeld noImport
    have isShown := answers _ rfl
    refine ⟨settled.stored, status_result_iff.mpr (congrArg Report.fault? isShown), ?_⟩
    exact (output_result (congrArg Report.printed isShown)).trans
      (Report.output_ofPrinted_singleton _)

/-- A store whose rules were written by hand, without the member that comes first. -/
def keptByHand : Session :=
  .ofTree ((FileTree.empty.addDirectory ["data"]).putFile ["rules.json", "data"]
    (Text.encode "\x7b\"include\": \x7b\"a.b\": [\"<7\"]\x7d\x7d"))

/-- The lines that show the rules that were written by hand. -/
def linesByHand : String :=
  "\x7b\n  \"exclude\": \x7b\x7d,\n  \"include\": \x7b\n" ++
    "    \"a.b\": [\n      \"<7\"\n    ]\n  \x7d\n\x7d\n"

/-- A store whose rules are no document, beside a file with the lines. -/
def shownElsewhere : Session :=
  .ofTree (((FileTree.empty.addDirectory ["other"]).putFile ["rules.json", "other"] [123]).putFile
    ["shown.json"] (Text.encode linesByHand))

theorem show_importsBack_byHand :
    let context : Context := ⟨.inDirectory ⟨"data"⟩ "rules", default⟩
    let importing : Context := ⟨.inDirectory ⟨"other"⟩ "rules", default⟩
    let afterwards := ((importFile "shown.json").run importing shownElsewhere).2
    (showDocument.result context keptByHand).status = 0 ∧
      (showDocument.result context keptByHand).output = linesByHand ∧
      (showDocument.result importing shownElsewhere).output ≠ linesByHand ∧
      (showDocument.result importing afterwards).output = linesByHand := by
  intro context importing afterwards
  have succeeds : (showDocument.result context keptByHand).status = 0 := by decide +kernel
  have written : (showDocument.result context keptByHand).output = linesByHand := by
    decide +kernel
  obtain ⟨_, document, _, _, _, _, importsBack⟩ :=
    show_importsBack context keptByHand succeeds
  have holds : shownElsewhere.tree.fileContent { text := "shown.json" } =
      .ok (Text.encode (showDocument.result context keptByHand).output) := by
    rw [written]
    decide +kernel
  obtain ⟨_, _, isShown⟩ :=
    importsBack importing shownElsewhere "shown.json" (.inDirectory _ _) holds (by decide +kernel)
  exact ⟨succeeds, written, by decide +kernel, isShown.trans written⟩

end Command

namespace Program

variable {environment : Environment} {tree : FileTree} {words : List String}
variable {arguments : Arguments} {context : Context}

/--
What one run of the program shows, other runs answer from, and another can import.

A run that shows the rules writes the lines of a document.  In the same files every
run on the same store answers from this document, whatever its environment and its
other settings are.  A run that imports the lines leaves a store from which all later
runs answer as if the document had been imported itself, so showing it writes the
lines again.
-/
theorem shownRun_importsBack
    (understood : Request.parse? words = some (.execute arguments))
    (isShow : arguments.command = .showDocument)
    (found : Program.context environment tree arguments = .ok context)
    (succeeds : (run environment tree words).1.status = 0) :
    ∃ document,
      (run environment tree words).1.output = Command.shownText document ++ "\n" ∧
      (∀ otherEnvironment otherWords otherArguments otherContext lines,
        Request.parse? otherWords = some (.execute otherArguments) →
          Program.context otherEnvironment tree otherArguments = .ok otherContext →
            otherContext.paths = context.paths →
              otherArguments.command.answer? document = some lines →
                (run otherEnvironment tree otherWords).1.status = 0 ∧
                  (run otherEnvironment tree otherWords).1.output =
                    (Report.ofPrinted lines).output) ∧
      ∀ otherEnvironment otherTree otherWords otherArguments otherContext file answers,
        Request.parse? otherWords = some (.execute otherArguments) →
          otherArguments.command = .importFile file →
            Program.context otherEnvironment otherTree otherArguments = .ok otherContext →
              otherTree.fileContent { text := file } =
                  .ok (Text.encode (run environment tree words).1.output) →
                (run otherEnvironment otherTree otherWords answers).1.status = 0 →
                  ∀ history last,
                    LaterRuns otherContext.paths
                        (run otherEnvironment otherTree otherWords answers).2 history last →
                      ∀ command result, (command, result) ∈ history →
                        ∀ lines, command.answer? document = some lines →
                          result.status = 0 ∧
                            result.output = (Report.ofPrinted lines).output := by
  rw [run_eq understood found, isShow] at succeeds ⊢
  have noFault := RunResult.status_ofReport_iff.mp succeeds
  have written := Command.output_showDocument noFault
  refine ⟨(context.store.load (.ofTree tree)).1, written, ?_, ?_⟩
  · intro otherEnvironment otherWords otherArguments otherContext lines otherUnderstood
      otherFound sameStore isAnswer
    have sameLoads : otherContext.store = context.store := by
      rw [Context.store, Context.store, sameStore]
    rw [run_eq otherUnderstood otherFound]
    have otherNoFault :
        (Command.runShow otherContext (.ofTree tree)).1.fault? = none := by
      rw [Command.runShow, sameLoads]
      exact noFault
    rw [← sameLoads] at isAnswer
    obtain ⟨noFault, isPrinted⟩ := Command.run_of_shown otherNoFault isAnswer
    exact ⟨Command.status_result_iff.mpr noFault, Command.output_result isPrinted⟩
  · intro otherEnvironment otherTree otherWords otherArguments otherContext file answers
      otherUnderstood isImport otherFound holds imports history last runs
    have settled := settled_of_import otherUnderstood isImport otherFound
      (holds.trans (by rw [← written]; rfl)) (Document.ofJson_shownText _) imports
    exact (runs.isAnswered settled).2

end Program

end SplitTunnel
