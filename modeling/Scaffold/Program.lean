import Scaffold.Config.Layers
import Scaffold.LogSettings
import Scaffold.Run

/-! The program as a whole: from a command line and an environment to an exit code and what is printed. -/

namespace Scaffold

/-- How a program ends. -/
structure ProgramResult where
  code : Nat
  output : String
  /-- what is reported before it ends with an error -/
  error : Option String
  deriving DecidableEq, Repr

namespace Program

def name : String := "aggregen"

def versionLine : String := name ++ " " ++ Manifest.version ++ "\n"

/-- The options, one on each line. -/
def helpText : String :=
  "Generate aggregate root scaffolding from naming conventions\n\nUsage: " ++ name ++
    " [OPTIONS]\n\nOptions:\n" ++
    String.join (CommandLine.Setting.all.map fun setting => "      --" ++ setting.name ++ " <VALUE>\n") ++
    String.join (CommandLine.Switch.all.map fun switch => "      --" ++ switch.name ++ "\n")

/-- Makes the directory for log files, and in it the file that is never changed for another. -/
def openLog (settings : LogSettings) : Task Failure Disk Unit := do
  if settings.output = .file then
    let (made, disk) := (← Task.current).makeDirectories settings.directory
    Task.replace disk
    match made with
    | .ok () =>
      let file := settings.directory.child name
      if settings.rotation = .never ∧ !disk.contains file then
        Task.replace ((disk.write file .empty).toOption.getD disk)
    | .error _ => throw (.logDirectory settings.directory)

/-- The variables that the program reads. -/
def variableNames : List String :=
  CommandLine.Setting.all.filterMap CommandLine.Setting.environmentName? ++ LogSettings.variableNames

/-- The places that a run works on, as far as the files on a disk tell. -/
def places (value? : String → Option String) (words : List String) (disk : Disk) : List Path :=
  let settings := LogSettings.ofEnvironment value?
  let log := if settings.output = .file then [settings.directory] else []
  match Arguments.read value? words with
  | .error _ => log
  | .ok arguments =>
    let named := log ++ arguments.config.toList
    match Config.load disk arguments with
    | .error _ => named
    | .ok config =>
      config.outDir :: config.sourceRoots ++ config.templates.map (·.path) ++ named

/-- How the program ends when the command line leaves nothing to do. -/
def endOf : ArgumentsEnd → ProgramResult
  | .help => ⟨0, helpText, none⟩
  | .version => ⟨0, versionLine, none⟩
  | ending => ⟨2, "", some ending.message⟩

/-- How the program ends with a failure. A panic has a code of its own and is reported as no error. -/
def endOfFailure : Failure → ProgramResult
  | .fault .panicked => ⟨101, "", none⟩
  | failure => ⟨1, "", some failure.report⟩

/-- Reads the configuration that is asked for, and runs. -/
def work (arguments : Arguments) : Task Failure Disk ProgramResult := do
  let config ← Task.ofExcept (Config.load (← Task.current) arguments)
  let result ← Run.run config arguments.check arguments.list
  return ⟨result.code, result.output, none⟩

/-- Runs the program with a command line and an environment. -/
def run (value? : String → Option String) (words : List String) : Task Empty Disk ProgramResult := do
  let outcome ← Task.outcome (do
    openLog (LogSettings.ofEnvironment value?)
    match Arguments.read value? words with
    | .error ending => return endOf ending
    | .ok arguments => work arguments)
  match outcome with
  | .ok result => return result
  | .error failure => return endOfFailure failure

end Program

end Scaffold
