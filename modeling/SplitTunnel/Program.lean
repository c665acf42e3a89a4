import SplitTunnel.Execution
import SplitTunnel.Settings.Load

namespace SplitTunnel

/-!
# The program

A run of the program reads its words, loads the settings, finds the rule store
and executes the command.  Nothing is looked at before the words are understood,
and no command runs with settings that are faulty.  A run that is asked for the
version of the program looks at nothing else.

What is said of runs whose words are not understood does not hold for words that ask
for help.  These are left out: the program prints its help, looks at nothing else and
ends with the status 0.
-/

/-- Why a run of the program failed. -/
inductive ProgramFault where
  | usage
  | settings (fault : SettingsFault)
  | location (fault : SettingsFault)
  | command (fault : CommandFault)
  deriving Repr, DecidableEq

/-- What is said of the cause below a fault, if the fault has one. -/
def SettingsFault.cause? : SettingsFault → Option String
  | .unreadable _ reason => some reason
  | _ => none

/-- What is said about settings that could not be had and the chain of causes. -/
def SettingsFault.chain (fault : SettingsFault) : List String :=
  fault.message :: fault.cause?.toList

/-- What is said about a run that failed. -/
def ProgramFault.message : ProgramFault → String
  | .usage => "the arguments were not understood"
  | .settings fault => String.intercalate ": " ("Failed to load config" :: fault.chain)
  | .location fault =>
      String.intercalate ": " ("Failed to resolve rule store location" :: fault.chain)
  | .command fault => fault.message

/-- The status that a run ends with. -/
def ProgramFault.status : ProgramFault → Nat
  | .usage => 2
  | _ => 1

/-- What a run wrote and how it ended. -/
structure RunResult where
  output : String
  diagnostics : String
  status : Nat
  deriving Repr, DecidableEq

namespace RunResult

/-- The result of a run that succeeded and printed a line. -/
def ofLine (line : String) : RunResult where
  output := line ++ "\n"
  diagnostics := ""
  status := 0

/-- The result of a run that failed, after it had printed and warned. -/
def ofFault (output : String) (warnings : List String) (fault : ProgramFault) : RunResult where
  output := output
  diagnostics :=
    String.join ((warnings ++ [s!"error: {fault.message}"]).map fun line => line ++ "\n")
  status := fault.status

/-- The result of a command. -/
def ofReport (report : Report) : RunResult :=
  match report.fault? with
  | some fault =>
      .ofFault report.output report.warnings (.command fault)
  | none =>
      { output := report.output
        diagnostics := String.join (report.warnings.map fun line => line ++ "\n")
        status := 0 }

end RunResult

namespace Program

/-- The name of the program and its version. -/
def versionLine : String :=
  "tunrules 0.1.0"

/-- What a command needs to know, from the settings and the words. -/
def context
    (environment : Environment)
    (tree : FileTree)
    (arguments : Arguments) :
    Except ProgramFault Context :=
  match LoadedSettings.load environment tree with
  | .error fault =>
      .error (.settings fault)
  | .ok loaded =>
      match loaded.storePaths environment arguments.storeDirectory? with
      | .error fault =>
          .error (.location fault)
      | .ok paths =>
          .ok { paths := paths, mode := loaded.settings.mode }

/--
Run the program with its words in a process that holds no lock.

What the system answers to a save is given.
-/
def run
    (environment : Environment)
    (tree : FileTree)
    (words : List String)
    (answers : SaveAnswers := {}) :
    RunResult × FileTree :=
  match Request.parse? words with
  | none =>
      (.ofFault "" [] .usage, tree)
  | some .version =>
      (.ofLine versionLine, tree)
  | some (.execute arguments) =>
      match context environment tree arguments with
      | .error fault =>
          (.ofFault "" [] fault, tree)
      | .ok context =>
          let (report, session) := arguments.command.run context (.ofTree tree) answers
          (.ofReport report, session.tree)

end Program

end SplitTunnel
