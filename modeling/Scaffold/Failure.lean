import Scaffold.Config
import Scaffold.Fault

/-! How a program around generation can fail. -/

namespace Scaffold

/-- A notation for configuration files. -/
inductive ConfigNotation where
  | yaml
  | json
  | toml
  deriving DecidableEq, Repr

namespace ConfigNotation

def label : ConfigNotation → String
  | yaml => "YAML"
  | json => "JSON"
  | toml => "TOML"

end ConfigNotation

inductive Failure where
  | fault (fault : Fault)
  | config (problem : ConfigProblem)
  | missingConfigFile (path : Path)
  | unreadableConfigFile (path : Path)
  | unparsableConfigFile (kind : ConfigNotation) (path : Path)
  | unknownExtension (extension : String)
  | noOutDir
  | generation (outDir : Path) (cause : Fault)
  | logDirectory (path : Path)
  deriving DecidableEq, Repr

namespace Failure

def message : Failure → String
  | .fault inner => inner.message
  | config problem => problem.message
  | missingConfigFile path => "config file " ++ path.quoted ++ " does not exist"
  | unreadableConfigFile path => "failed to read config file " ++ path.quoted
  | unparsableConfigFile kind path => "failed to parse " ++ kind.label ++ " config " ++ path.quoted
  | unknownExtension extension => "unsupported config extension: " ++ extension
  | noOutDir => "OUT_DIR is not set; call Builder::out_dir outside build scripts"
  | generation outDir _ => "failed to generate into " ++ outDir.quoted
  | logDirectory path => "failed to create log directory " ++ path.quoted

/-- The message with what lies behind it, as far as that is known. -/
def report : Failure → String
  | .fault inner => inner.report
  | failure => failure.message

/-- A failed generation, with the place it was for. A panic passes as it is. -/
def ofGeneration (outDir : Path) : Fault → Failure
  | .panicked => .fault .panicked
  | cause => generation outDir cause

/-- The fault behind a failure that is not one itself. -/
def cause? : Failure → Option Fault
  | generation _ cause => some cause
  | _ => none

end Failure

end Scaffold
