import SplitTunnel.Program
import SplitTunnel.Proofs.Document.RoundTrip
import SplitTunnel.Proofs.Manager.Matching
import SplitTunnel.Proofs.Settings.Names
import SplitTunnel.Proofs.Store.Reading
import SplitTunnel.Proofs.Store.Reopening

namespace SplitTunnel

/-!
# Runs of the program refine the manager

An imported document is kept as a file, and every later run of the program reads
it back in a process of its own.  What such a run prints is what its command
prints for a manager that was configured with the document itself, so nothing is
lost or added on the way through the text, the bytes and the store.
-/

/-- Settings that were loaded have acceptable names for the files of the store. -/
theorem LoadedSettings.accepted_of_load
    {environment : Environment}
    {tree : FileTree}
    {loaded : LoadedSettings}
    (isLoaded : load environment tree = .ok loaded) :
    loaded.settings.fault? = none := by
  rw [load] at isLoaded
  split at isLoaded
  · cases isLoaded
    rfl
  · exact accepted_of_ofFile isLoaded

namespace Manager

/-- Only texts that are rules count, whichever of the two documents lists them. -/
theorem accepts_configure_iff
    (builtin document : Document)
    (category : Category)
    (package : String)
    (version : VersionCode) :
    ((ofBuiltin builtin).configure document).accepts category package version = true ↔
      ∃ source ∈ [builtin, document],
        ∃ text ∈ source.texts category package,
          ∃ rule, Rule.parse text = .ok rule ∧ rule.accepts version = true := by
  have isConfigured : (ofBuiltin builtin).configure document = configured builtin [document] :=
    rfl
  rw [isConfigured, accepts_eq_anyAccepts, rules_configured, Rule.anyAccepts, List.any_eq_true]
  simp only [List.mem_flatMap, Rule.parseValid, List.mem_filterMap, Rule.parse?]
  constructor
  · rintro ⟨rule, ⟨source, isSource, text, isListed, isRule⟩, accepted⟩
    refine ⟨source, isSource, text, isListed, rule, ?_, accepted⟩
    cases parsed : Rule.parse text with
    | error fault =>
        rw [parsed] at isRule
        contradiction
    | ok found =>
        rw [parsed] at isRule
        cases isRule
        rfl
  · rintro ⟨source, isSource, text, isListed, rule, isRule, accepted⟩
    refine ⟨rule, ⟨source, isSource, text, isListed, ?_⟩, accepted⟩
    rw [isRule]
    rfl

end Manager

namespace Command

/-- What a command prints that asks about the rules, for a manager configured with a document. -/
def answer? (document : Document) : Command → Option (List String)
  | .showDocument => some [shownText document]
  | .check package version =>
      some (checkLines ((Manager.ofBuiltin builtinDocument).configure document) package version)
  | .managed category? installed =>
      some (managedLines ((Manager.ofBuiltin builtinDocument).configure document)
        category? installed)
  | .controllable apps installed host? =>
      some (controllableLines ((Manager.ofBuiltin builtinDocument).configure document)
        apps installed host?)
  | _ => none

variable {context : Context} {session : Session} {document : Document} {command : Command}
variable {answers : SaveAnswers}

/-- The manager of a context is configured with the document that a load yields. -/
theorem manager_fst
    (context : Context)
    (session : Session) :
    (context.manager session).1 =
      (Manager.ofBuiltin builtinDocument).configure (context.store.load session).1 := by
  rw [Context.manager]

theorem manager_snd
    (context : Context)
    (session : Session) :
    (context.manager session).2 = (context.store.tryLoad session).2 := by
  rw [← Store.load_snd, Context.manager]

/-- A command that takes no lock leaves everything as it was. -/
theorem run_of_noLock
    (takesNone : command.lockMode? = none) :
    (command.run context session).2 = session := by
  cases command with
  | validate texts => rfl
  | tunneled package mode? apps => rfl
  | _ => cases takesNone

/-- A command that takes a shared lock has no other effect than a load. -/
theorem run_of_sharedLock
    (takesShared : command.lockMode? = some .shared) :
    (command.run context session).2 = (context.store.tryLoad session).2 := by
  cases command with
  | showDocument =>
      rw [run, runShow]
      cases context.store.tryLoad session with
      | mk result next =>
          cases result with
          | ok found? => cases found? <;> rfl
          | error fault =>
              dsimp only
              split <;> rfl
  | check package version => exact manager_snd context session
  | managed category? installed => exact manager_snd context session
  | controllable apps installed host? => exact manager_snd context session
  | validate texts => cases takesShared
  | tunneled package mode? apps => cases takesShared
  | importFile file => cases takesShared

/-- A command that does not import takes a shared lock or none. -/
theorem lockMode?_of_noImport
    (noImport : ∀ file, command ≠ .importFile file) :
    command.lockMode? = none ∨ command.lockMode? = some .shared := by
  cases command with
  | importFile file => exact absurd rfl (noImport file)
  | validate texts => exact Or.inl rfl
  | tunneled package mode? apps => exact Or.inl rfl
  | _ => exact Or.inr rfl

/-- A command that asks a manager answers from the document that a load yields. -/
theorem run_of_answer
    {lines : List String}
    (noShow : command ≠ .showDocument)
    (isAnswer : command.answer? (context.store.load session).1 = some lines) :
    (command.run context session).1 = .ofPrinted lines := by
  cases command with
  | showDocument => exact absurd rfl noShow
  | check package version =>
      rw [answer?, ← manager_fst] at isAnswer
      cases isAnswer
      rfl
  | managed category? installed =>
      rw [answer?, ← manager_fst] at isAnswer
      cases isAnswer
      rfl
  | controllable apps installed host? =>
      rw [answer?, ← manager_fst] at isAnswer
      cases isAnswer
      rfl
  | validate texts => contradiction
  | importFile file => contradiction
  | tunneled package mode? apps => contradiction

/-- The store of a context reads back the document whose bytes it holds. -/
theorem tryLoad_of_settled
    (settled : Store.Settled context.paths document.toJson session.tree)
    (notHeld : session.held.contains context.paths.lock.canonical = false) :
    context.store.tryLoad session = (.ok (some document), session) := by
  have settled : Store.Settled context.store.paths document.toJson session.tree := settled
  have decoded : context.store.codec.decode document.toJson = .ok document := by
    change (Document.ofJson document.toJson).mapError _ = _
    rw [Document.isRead_toJson]
    rfl
  exact settled.tryLoad decoded notHeld

/-- A command other than an import leaves a store as it is and answers from what it holds. -/
theorem run_of_settled
    (settled : Store.Settled context.paths document.toJson session.tree)
    (notHeld : session.held.contains context.paths.lock.canonical = false)
    (noImport : ∀ file, command ≠ .importFile file) :
    (command.run context session).2 = session ∧
      ∀ lines, command.answer? document = some lines →
        (command.run context session).1 = .ofPrinted lines := by
  have loaded := tryLoad_of_settled settled notHeld
  constructor
  · rcases lockMode?_of_noImport noImport with takesNone | takesShared
    · exact run_of_noLock takesNone
    · rw [run_of_sharedLock takesShared, loaded]
  · intro lines isAnswer
    by_cases isShow : command = .showDocument
    · subst isShow
      cases isAnswer
      rw [run, runShow, loaded]
    · apply run_of_answer isShow
      rw [Store.load, loaded]
      exact isAnswer

/-- An import that does not fail saves the document and counts its packages. -/
theorem runImport_of_succeeds
    {file : Path}
    {bytes : List UInt8}
    (holds : session.tree.fileContent file = .ok bytes)
    (isRead : Document.ofJson bytes = .ok document)
    (succeeds : (runImport context session file answers).1.fault? = none) :
    ∃ next,
      context.store.trySave session document answers = (.ok (), next) ∧
        runImport context session file answers =
          (.ofPrinted
            (importLines ((Manager.ofBuiltin builtinDocument).configureCounting document).1),
            next) := by
  have decoded : (Codec.json Document).decode bytes = .ok document := by
    change (Document.ofJson bytes).mapError _ = _
    rw [isRead]
    rfl
  rw [runImport, holds] at succeeds ⊢
  dsimp only at succeeds ⊢
  rw [decoded] at succeeds ⊢
  dsimp only at succeeds ⊢
  cases saved : context.store.trySave session document answers with
  | mk result next =>
      rw [saved] at succeeds
      cases result with
      | error fault => contradiction
      | ok _ => exact ⟨next, rfl, rfl⟩

/-- An import of bytes that are read as a document leaves a store that holds the document. -/
theorem settled_of_runImport
    {file : Path}
    {bytes : List UInt8}
    (offered : context.paths.Offered)
    (holds : session.tree.fileContent file = .ok bytes)
    (isRead : Document.ofJson bytes = .ok document)
    (succeeds : (runImport context session file answers).1.fault? = none) :
    Store.Settled context.paths document.toJson
        (runImport context session file answers).2.tree ∧
      (runImport context session file answers).2.held.contains
        context.paths.lock.canonical = false := by
  obtain ⟨next, saved, imported⟩ := runImport_of_succeeds holds isRead succeeds
  obtain ⟨before, lock, temp, target, sideBySide⟩ := offered.sideBySide
  obtain ⟨content, encoded, settled⟩ := Store.settled_of_trySave sideBySide saved
  obtain rfl : document.toJson = content := Except.ok.inj encoded
  have notHeld := Store.notHeld_of_trySave saved
  have samePaths : context.store.paths = context.paths := rfl
  rw [samePaths] at settled notHeld
  rw [imported]
  exact ⟨settled, notHeld⟩

end Command

/-- What a run wrote is what its command printed. -/
@[simp]
theorem RunResult.output_ofReport
    (report : Report) :
    (RunResult.ofReport report).output = report.output := by
  rw [RunResult.ofReport]
  split <;> rfl

/-- A run succeeds if its command did not fail. -/
theorem RunResult.status_ofReport_iff
    {report : Report} :
    (RunResult.ofReport report).status = 0 ↔ report.fault? = none := by
  rw [RunResult.ofReport]
  split
  · rename_i fault hasFault
    simp [hasFault, RunResult.ofFault, ProgramFault.status]
  · rename_i noFault
    simp [noFault]

namespace Program

variable {environment : Environment} {tree : FileTree} {words : List String}
variable {arguments : Arguments} {context : Context} {document : Document}
variable {answers : SaveAnswers}

/-- The store paths that a run uses stand side by side. -/
theorem offered_of_context
    (found : Program.context environment tree arguments = .ok context) :
    context.paths.Offered := by
  rw [Program.context] at found
  split at found
  · contradiction
  · rename_i loaded isLoaded
    split at found
    · contradiction
    · rename_i paths isFound
      cases found
      exact .ofSettings (LoadedSettings.accepted_of_load isLoaded) isFound

/-- A run whose words and settings are in order does what its command does. -/
theorem run_eq
    (understood : Request.parse? words = some (.execute arguments))
    (found : Program.context environment tree arguments = .ok context) :
    run environment tree words answers =
      (.ofReport (arguments.command.run context (.ofTree tree) answers).1,
        (arguments.command.run context (.ofTree tree) answers).2.tree) := by
  rw [run, understood]
  dsimp only
  rw [found]

/-- Runs that use one store one after another, without importing, and what they were asked. -/
inductive LaterRuns
    (paths : StorePaths)
    (start : FileTree) :
    List (Command × RunResult) → FileTree → Prop where
  | start :
      LaterRuns paths start [] start
  | next
      {history : List (Command × RunResult)}
      {environment : Environment}
      {tree : FileTree}
      {words : List String}
      {arguments : Arguments}
      {context : Context}
      (runs : LaterRuns paths start history tree)
      (understood : Request.parse? words = some (.execute arguments))
      (found : Program.context environment tree arguments = .ok context)
      (sameStore : context.paths = paths)
      (noImport : ∀ file, arguments.command ≠ .importFile file) :
      LaterRuns paths start
        (history ++ [(arguments.command, (run environment tree words).1)])
        (run environment tree words).2

/-- Runs on a store that holds a document answer from the document and leave all files alone. -/
theorem LaterRuns.isAnswered
    {paths : StorePaths}
    {start last : FileTree}
    {history : List (Command × RunResult)}
    (settled : Store.Settled paths document.toJson start)
    (runs : LaterRuns paths start history last) :
    last = start ∧
      ∀ command result, (command, result) ∈ history →
        ∀ lines, command.answer? document = some lines →
          result.status = 0 ∧ result.output = (Report.ofPrinted lines).output := by
  -- No run changes a file, so the store is as settled for the next run as for the first.
  induction runs with
  | start => exact ⟨rfl, fun command result member => absurd member List.not_mem_nil⟩
  | @next history environment tree words arguments context _ understood found sameStore noImport
      inductionHypothesis =>
      obtain ⟨rfl, answers⟩ := inductionHypothesis
      subst sameStore
      have settled : Store.Settled context.paths document.toJson (Session.ofTree tree).tree :=
        settled
      obtain ⟨unchanged, isAnswered⟩ := Command.run_of_settled settled rfl noImport
      rw [run_eq understood found, unchanged]
      refine ⟨rfl, fun command result member lines isAnswer => ?_⟩
      rcases List.mem_append.mp member with isEarlier | isLast
      · exact answers command result isEarlier lines isAnswer
      · cases List.mem_singleton.mp isLast
        rw [isAnswered lines isAnswer]
        exact ⟨rfl, rfl⟩

/-- An import did not fail if the run succeeded that was asked for it. -/
theorem noFault_of_import
    {file : String}
    (understood : Request.parse? words = some (.execute arguments))
    (isImport : arguments.command = .importFile file)
    (found : Program.context environment tree arguments = .ok context)
    (succeeds : (run environment tree words answers).1.status = 0) :
    (Command.runImport context (.ofTree tree) { text := file } answers).1.fault? = none := by
  rw [run_eq understood found, isImport] at succeeds
  exact RunResult.status_ofReport_iff.mp succeeds

/-- A run that imported a document leaves a store that holds it. -/
theorem settled_of_import
    {file : String}
    {bytes : List UInt8}
    (understood : Request.parse? words = some (.execute arguments))
    (isImport : arguments.command = .importFile file)
    (found : Program.context environment tree arguments = .ok context)
    (holds : tree.fileContent { text := file } = .ok bytes)
    (isRead : Document.ofJson bytes = .ok document)
    (succeeds : (run environment tree words answers).1.status = 0) :
    Store.Settled context.paths document.toJson (run environment tree words answers).2 := by
  have noFault := noFault_of_import understood isImport found succeeds
  have offered := offered_of_context found
  rw [run_eq understood found, isImport]
  refine (Command.settled_of_runImport offered ?_ isRead noFault).1
  exact holds

/--
A document that was imported is what every later run of the program answers from.

The import prints the counts of configuring the document; the store holds its
bytes, with all the texts that are no rules; and later runs that show it or ask
about its rules print what their commands print for a manager that is configured
with the document directly, in which only texts that are rules count.
-/
theorem run_refines_manager
    {file : String}
    {bytes : List UInt8}
    (understood : Request.parse? words = some (.execute arguments))
    (isImport : arguments.command = .importFile file)
    (found : Program.context environment tree arguments = .ok context)
    (holds : tree.fileContent { text := file } = .ok bytes)
    (isRead : Document.ofJson bytes = .ok document)
    (succeeds : (run environment tree words answers).1.status = 0) :
    (run environment tree words answers).1.output =
        (Report.ofPrinted (Command.importLines
          ((Manager.ofBuiltin builtinDocument).configureCounting document).1)).output ∧
      (∀ history last,
        LaterRuns context.paths (run environment tree words answers).2 history last →
          last = (run environment tree words answers).2 ∧
            ∀ command result, (command, result) ∈ history →
              ∀ lines, command.answer? document = some lines →
                result.status = 0 ∧ result.output = (Report.ofPrinted lines).output) ∧
      (run environment tree words answers).2.fileContent context.paths.target =
        .ok document.toJson ∧
      Document.ofJson document.toJson = .ok document ∧
      ∀ category package version,
        ((Manager.ofBuiltin builtinDocument).configure document).accepts
            category package version = true ↔
          ∃ source ∈ [builtinDocument, document],
            ∃ text ∈ source.texts category package,
              ∃ rule, Rule.parse text = .ok rule ∧ rule.accepts version = true := by
  have settled := settled_of_import understood isImport found holds isRead succeeds
  refine ⟨?_, fun history last runs => runs.isAnswered settled, settled.stored,
    document.isRead_toJson, Manager.accepts_configure_iff builtinDocument document⟩
  have noFault := noFault_of_import understood isImport found succeeds
  obtain ⟨next, _, imported⟩ := Command.runImport_of_succeeds holds isRead noFault
  rw [run_eq understood found, isImport, Command.run, imported]
  rfl

/-- An environment that names a home directory and nothing else. -/
def homeOnly : Environment where
  settingsFile? := none
  settingsHome? := none
  home? := some "home"

/-- Files with a document that lists a number and a text that is no rule. -/
def withInvalidRule : FileTree :=
  FileTree.empty.putFile ["in.json"]
    (Text.encodeChars "\x7b\"exclude\": \x7b\"a.b\": [7, \"oops\"]\x7d\x7d".toList)

theorem run_refines_manager_invalidRule :
    (run homeOnly withInvalidRule ["import", "in.json"]).1.output =
        "Imported 1 exclude and 0 include packages\n" ∧
      (run homeOnly (run homeOnly withInvalidRule ["import", "in.json"]).2
          ["--store-dir", "home/.tunrules", "check", "a.b", "7"]).1.output =
        "exclude  true  [7]\ninclude  false []\nany      true\n" := by
  let document := Document.empty.withRules .excluded "a.b" ["7", "oops"]
  let paths : StorePaths :=
    { lock := ⟨"home/.tunrules/vpn_rules.lock"⟩
      temp := ⟨"home/.tunrules/vpn_rules_temp.json"⟩
      target := ⟨"home/.tunrules/vpn_rules.json"⟩ }
  have understood : Request.parse? ["import", "in.json"] =
      some (.execute ⟨false, none, .importFile "in.json"⟩) := by
    decide +kernel
  have found : Program.context homeOnly withInvalidRule ⟨false, none, .importFile "in.json"⟩ =
      .ok ⟨paths, default⟩ := by
    decide +kernel
  have isRead : Document.ofJson
      (Text.encodeChars "\x7b\"exclude\": \x7b\"a.b\": [7, \"oops\"]\x7d\x7d".toList) =
        .ok document := by
    decide +kernel
  have understoodLater :
      Request.parse? ["--store-dir", "home/.tunrules", "check", "a.b", "7"] =
        some (.execute ⟨false, some "home/.tunrules", .check "a.b" 7⟩) := by
    decide +kernel
  have foundLater :
      Program.context homeOnly (run homeOnly withInvalidRule ["import", "in.json"]).2
          ⟨false, some "home/.tunrules", .check "a.b" 7⟩ =
        .ok ⟨paths, default⟩ := by
    decide +kernel
  have succeeds : (run homeOnly withInvalidRule ["import", "in.json"]).1.status = 0 := by
    decide +kernel
  obtain ⟨printed, later, _⟩ :=
    run_refines_manager understood rfl found (by decide +kernel) isRead succeeds
  obtain ⟨_, answers⟩ :=
    later _ _ (.next .start understoodLater foundLater rfl (fun file => by simp))
  obtain ⟨_, checked⟩ := answers _ _ (List.mem_singleton_self _) _ rfl
  exact ⟨printed.trans (by decide +kernel), checked.trans (by decide +kernel)⟩

end Program

end SplitTunnel
