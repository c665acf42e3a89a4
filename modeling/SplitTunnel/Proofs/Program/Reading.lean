import SplitTunnel.Proofs.FileTree.Additions
import SplitTunnel.Proofs.Program.Refinement

namespace SplitTunnel

/-!
# Runs that do not import

Only an import writes the rules that are kept.  Every other run of the program
leaves all entries as they are, whatever it finds and however it ends; what it may
add is an empty lock file with the directories above it, and a run that does not
look at the store adds nothing at all.
-/

open FileTree (AddsOnly Extends)

namespace Command

variable {context : Context} {session : Session} {command : Command}

/-- Validating texts and printing what is tunneled take no lock. -/
theorem lockMode?_of_quiet
    (isQuiet :
      (∃ texts, command = .validate texts) ∨
        ∃ package mode? apps, command = .tunneled package mode? apps) :
    command.lockMode? = none := by
  rcases isQuiet with ⟨texts, rfl⟩ | ⟨package, mode?, apps, rfl⟩
  · rfl
  · rfl

end Command

namespace Program

variable {environment : Environment} {tree start last : FileTree} {words : List String}
variable {command : Command} {context : Context}
variable {history : List (Option (Command × Context))}

/--
The command that a run executes, with what it needs to know.

A run that does not understand its words, is asked for the version or cannot have
its settings executes none.
-/
def executed?
    (environment : Environment)
    (tree : FileTree)
    (words : List String) :
    Option (Command × Context) :=
  match Request.parse? words with
  | some (.execute arguments) =>
      (Program.context environment tree arguments).toOption.map fun context =>
        (arguments.command, context)
  | _ => none

/-- A run that executes no command leaves all files as they were. -/
theorem run_of_notExecuted
    (isNone : executed? environment tree words = none) :
    (run environment tree words).2 = tree := by
  rw [executed?] at isNone
  rw [run]
  split
  · rfl
  · rfl
  · rename_i arguments understood
    rw [understood] at isNone
    dsimp only at isNone
    split
    · rfl
    · rename_i found
      rw [found] at isNone
      cases isNone

/-- A run does to the files what its command does, and its store lies side by side. -/
theorem run_of_executed
    (isSome : executed? environment tree words = some (command, context)) :
    (run environment tree words).2 = (command.run context (.ofTree tree)).2.tree ∧
      context.paths.Offered := by
  rw [executed?] at isSome
  split at isSome
  · rename_i arguments understood
    obtain ⟨found, isFound, isPair⟩ := Option.map_eq_some_iff.mp isSome
    cases isPair
    cases located : Program.context environment tree arguments with
    | error fault =>
        rw [located] at isFound
        cases isFound
    | ok context =>
        rw [located] at isFound
        cases isFound
        rw [run_eq understood located]
        exact ⟨rfl, offered_of_context located⟩
  · cases isSome

/-- A run that looks at its store opens the lock file and changes no other file. -/
theorem addsOnly_of_sharedLock
    (isSome : executed? environment tree words = some (command, context))
    (takesShared : command.lockMode? = some .shared) :
    AddsOnly context.paths.lock.MayGain tree (run environment tree words).2 := by
  obtain ⟨ran, offered⟩ := run_of_executed isSome
  obtain ⟨before, lock, temp, target, sideBySide⟩ := offered.sideBySide
  rw [ran, Command.run_of_sharedLock takesShared, Store.tryLoad_tree]
  exact Lock.addsOnly_opening tree sideBySide.lockShape (sideBySide.areNames lock (by simp))

/-- Runs one after another that do not import, and what each of them executed. -/
inductive ReadingRuns (start : FileTree) : List (Option (Command × Context)) → FileTree → Prop where
  | start :
      ReadingRuns start [] start
  | next
      {history : List (Option (Command × Context))}
      {environment : Environment}
      {tree : FileTree}
      {words : List String}
      (runs : ReadingRuns start history tree)
      (noImport :
        ∀ file context, executed? environment tree words ≠ some (.importFile file, context)) :
      ReadingRuns start
        (history ++ [executed? environment tree words])
        (run environment tree words).2

/-- What a run may add that executed a command: what opening its lock file may. -/
def MayGain
    (history : List (Option (Command × Context)))
    (place : Location)
    (entry : Entry) :
    Prop :=
  ∃ command context,
    some (command, context) ∈ history ∧
      command.lockMode? = some .shared ∧
      context.paths.lock.MayGain place entry

/-- A run that does not import adds what opening its lock file may add. -/
theorem addsOnly_of_noImport
    (noImport :
      ∀ file context, executed? environment tree words ≠ some (.importFile file, context)) :
    AddsOnly (MayGain [executed? environment tree words]) tree (run environment tree words).2 := by
  cases isExecuted : executed? environment tree words with
  | none =>
      rw [run_of_notExecuted isExecuted]
      exact .refl tree
  | some pair =>
      obtain ⟨command, context⟩ := pair
      have isOther : ∀ file, command ≠ .importFile file := by
        rintro file rfl
        exact noImport file context isExecuted
      rcases Command.lockMode?_of_noImport isOther with takesNone | takesShared
      · rw [(run_of_executed isExecuted).1, Command.run_of_noLock takesNone]
        exact .refl tree
      · exact (addsOnly_of_sharedLock isExecuted takesShared).mono fun place entry mayGain =>
          ⟨command, context, List.mem_singleton_self _, takesShared, mayGain⟩

/-- What some runs may add, more runs may add. -/
theorem MayGain.of_subset
    {more : List (Option (Command × Context))}
    {place : Location}
    {entry : Entry}
    (isSubset : history ⊆ more) :
    MayGain history place entry → MayGain more place entry
  | ⟨command, context, member, takesShared, mayGain⟩ =>
      ⟨command, context, isSubset member, takesShared, mayGain⟩

/-- Runs that do not import only add what opening their lock files may add. -/
theorem ReadingRuns.addsOnly
    (runs : ReadingRuns start history last) :
    AddsOnly (MayGain history) start last := by
  induction runs with
  | start => exact .refl start
  | @next history environment tree words runs noImport inductionHypothesis =>
      have before : AddsOnly (MayGain (history ++ [executed? environment tree words])) start tree :=
        inductionHypothesis.mono fun place entry =>
          MayGain.of_subset (List.subset_append_left _ _)
      have now := (addsOnly_of_noImport noImport).mono fun place entry =>
        MayGain.of_subset (List.subset_append_right history _)
      exact before.trans now

/-- Runs of which none looks at its store leave all files as they were. -/
theorem ReadingRuns.unchanged
    (runs : ReadingRuns start history last)
    (allQuiet :
      ∀ command context, some (command, context) ∈ history → command.lockMode? = none) :
    last = start := by
  induction runs with
  | start => rfl
  | @next history environment tree words runs noImport inductionHypothesis =>
      have isSame := inductionHypothesis fun command context member =>
        allQuiet command context (List.mem_append_left _ member)
      subst isSame
      cases isExecuted : executed? environment tree words with
      | none => exact run_of_notExecuted isExecuted
      | some pair =>
          obtain ⟨command, context⟩ := pair
          have takesNone : command.lockMode? = none :=
            allQuiet command context (List.mem_append_right _ (by simp [isExecuted]))
          rw [(run_of_executed isExecuted).1, Command.run_of_noLock takesNone]
          rfl

/--
After any number of runs that do not import, every entry is still there as it was.

What was added is the lock file of a run that looked at its store, which is empty,
and directories on the way to it.  If all runs only validate, print what is tunneled
or do not get as far as a command, nothing was added.
-/
theorem ReadingRuns.adds_lockFilesOnly
    (runs : ReadingRuns start history last) :
    Extends start last ∧
      (∀ path content,
        start.fileContent path = .ok content → last.fileContent path = .ok content) ∧
      (∀ place entry,
        start.get? place = none → last.get? place = some entry →
          ∃ command context,
            some (command, context) ∈ history ∧
              command.lockMode? = some .shared ∧
              ((place = context.paths.lock.canonical ∧ entry = .file []) ∨
                (entry = .directory ∧ context.paths.lock.Passes place))) ∧
      ((∀ command context, some (command, context) ∈ history →
          (∃ texts, command = .validate texts) ∨
            ∃ package mode? apps, command = .tunneled package mode? apps) →
        last = start) := by
  have adds := runs.addsOnly
  refine ⟨adds.kept, fun path content => adds.kept.fileContent_eq, adds.added, ?_⟩
  intro allQuiet
  exact runs.unchanged fun command context member =>
    Command.lockMode?_of_quiet (allQuiet command context member)

/-- A store whose rules are no document, and what an import that was cut short left. -/
def withRuinedStore : FileTree :=
  ((FileTree.empty.addDirectory ["home"]).addDirectory [".tunrules", "home"]).putFile
      ["vpn_rules.json", ".tunrules", "home"] [123]
    |>.putFile ["vpn_rules_temp.json", ".tunrules", "home"] [123, 125]

theorem ReadingRuns.adds_lockFilesOnly_ruinedStore :
    let shown := (run homeOnly withRuinedStore ["show"]).2
    let checked := (run homeOnly shown ["check", "a.b", "7"]).2
    let last := (run homeOnly checked ["import"]).2
    last.fileContent ⟨"home/.tunrules/vpn_rules.json"⟩ = .ok [123] ∧
      last.fileContent ⟨"home/.tunrules/vpn_rules_temp.json"⟩ = .ok [123, 125] ∧
      (run homeOnly withRuinedStore ["validate", "7"]).2 = withRuinedStore := by
  intro shown checked last
  let context : Context :=
    ⟨{ lock := ⟨"home/.tunrules/vpn_rules.lock"⟩
       temp := ⟨"home/.tunrules/vpn_rules_temp.json"⟩
       target := ⟨"home/.tunrules/vpn_rules.json"⟩ }, default⟩
  have isShow : executed? homeOnly withRuinedStore ["show"] = some (.showDocument, context) := by
    decide +kernel
  have isCheck : executed? homeOnly shown ["check", "a.b", "7"] =
      some (.check "a.b" 7, context) := by
    decide +kernel
  have isUsageFault : executed? homeOnly checked ["import"] = none := by
    decide +kernel
  have isValidate : executed? homeOnly withRuinedStore ["validate", "7"] =
      some (.validate ["7"], context) := by
    decide +kernel
  have showRuns : ReadingRuns withRuinedStore _ shown := .next .start (by simp [isShow])
  have checkRuns : ReadingRuns withRuinedStore _ checked := showRuns.next (by simp [isCheck])
  have runs : ReadingRuns withRuinedStore _ last := checkRuns.next (by simp [isUsageFault])
  have validateRuns :
      ReadingRuns withRuinedStore _ (run homeOnly withRuinedStore ["validate", "7"]).2 :=
    .next .start (by simp [isValidate])
  obtain ⟨_, sameContent, _⟩ := adds_lockFilesOnly runs
  obtain ⟨_, _, _, unchanged⟩ := adds_lockFilesOnly validateRuns
  refine ⟨sameContent _ _ (by decide +kernel), sameContent _ _ (by decide +kernel), unchanged ?_⟩
  intro command found member
  rw [List.nil_append, isValidate] at member
  cases List.mem_singleton.mp member
  exact Or.inl ⟨_, rfl⟩

end Program

end SplitTunnel
