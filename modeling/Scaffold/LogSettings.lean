import Scaffold.Path
import Scaffold.Text.Blank

/-! Where log lines go and what they look like, read from the environment. -/

namespace Scaffold

inductive LogFormat where
  | pretty
  | json
  deriving DecidableEq, Repr

inductive LogOutput where
  | stderr
  | stdout
  | file
  deriving DecidableEq, Repr

inductive LogRotation where
  | daily
  | never
  deriving DecidableEq, Repr

/-- `directory` counts only for output to files. -/
structure LogSettings where
  format : LogFormat
  output : LogOutput
  directory : Path
  rotation : LogRotation
  /-- the filter where none is set -/
  defaultFilter : String
  deriving DecidableEq, Repr

namespace LogSettings

def default : LogSettings := ⟨.pretty, .stderr, ⟨"logs"⟩, .daily, "info"⟩

/-- The names of the values that settings are read from. -/
def variableNames : List String := ["LOG_FORMAT", "LOG_OUTPUT", "LOG_DIR", "LOG_ROTATION"]

/-- The value under a name, where the case of ASCII letters and blanks around it do not matter. -/
def choose {α : Type} (names : List (String × α)) (value : Option String) (fallback : α) : α :=
  let chosen := value.bind fun text =>
    let word := (Text.trim text.toList).map Char.toLower
    (names.find? (·.1.toList == word)).map (·.2)
  chosen.getD fallback

/-- Settings from named values; what is not understood keeps its default. -/
def ofEnvironment (value? : String → Option String) : LogSettings where
  format := choose [("pretty", .pretty), ("json", .json)] (value? "LOG_FORMAT") default.format
  output := choose [("stderr", .stderr), ("stdout", .stdout), ("file", .file)]
    (value? "LOG_OUTPUT") default.output
  directory := ((value? "LOG_DIR").map Path.mk).getD default.directory
  rotation := choose [("daily", .daily), ("never", .never)] (value? "LOG_ROTATION") default.rotation
  defaultFilter := default.defaultFilter

end LogSettings

end Scaffold
