import Scaffold.Run

/-! Generation from a build script, which is told what to watch and where files collide. -/

namespace Scaffold

/-- A run that is set up step by step. -/
structure BuildScript where
  config : Config
  outDir : Option Path
  /-- the sources are printed for the build to watch -/
  emitRerunIfChanged : Bool
  /-- the default root was replaced -/
  rootsReplaced : Bool

namespace BuildScript

def start : BuildScript := ⟨.default, none, true, false⟩

/-- One more source root; the first one replaces the default. -/
def sourceRoot (script : BuildScript) (root : Path) : BuildScript :=
  let roots := if script.rootsReplaced then script.config.sourceRoots else []
  { script with
    config := { script.config with sourceRoots := roots ++ [root] }
    rootsReplaced := true }

def suffix (script : BuildScript) (suffix : String) : BuildScript :=
  { script with config := { script.config with suffix } }

def template (script : BuildScript) (template : TemplateFile) : BuildScript :=
  { script with config := { script.config with templates := script.config.templates ++ [template] } }

def exclude (script : BuildScript) (pattern : String) : BuildScript :=
  { script with config := { script.config with excludes := script.config.excludes ++ [pattern] } }

def validation (script : BuildScript) (mode : ValidationMode) : BuildScript :=
  { script with config := { script.config with validation := mode } }

def format (script : BuildScript) (format : Bool) : BuildScript :=
  { script with config := { script.config with format } }

def intoDir (script : BuildScript) (outDir : Path) : BuildScript :=
  { script with outDir := some outDir }

def watching (script : BuildScript) (emitRerunIfChanged : Bool) : BuildScript :=
  { script with emitRerunIfChanged }

/-- The configuration of the run. Without a directory of its own it writes where the environment says,
and its paths are below the directory of the package. -/
def configIn (script : BuildScript) (value? : String → Option String) : Except Failure Config := do
  let outDir ← match script.outDir <|> (value? "OUT_DIR").map Path.mk with
    | some outDir => Except.ok outDir
    | none => .error .noOutDir
  let config := { script.config with outDir }
  return match value? "CARGO_MANIFEST_DIR" with
    | some base => config.resolvePaths ⟨base⟩
    | none => config

def watchLines (config : Config) (summary : GenerationSummary) : List String :=
  (config.sourceRoots ++ summary.sources ++ config.templates.map (·.path)).map fun path =>
    "cargo:rerun-if-changed=" ++ path.text ++ "\n"

def collisionLines (report : GenerationReport) : List String :=
  report.collisions.map fun collision =>
    "cargo:warning=aggregate-codegen: " ++ collision.fileName ++ " is generated by " ++
      ", ".intercalate collision.triggers ++ "; the last one wins\n"

/-- Generates; the summary and what is printed for the build. -/
def generate (script : BuildScript) (value? : String → Option String) :
    Task Failure Disk (GenerationSummary × String) := do
  let config ← Task.ofExcept (script.configIn value?)
  let generator ← Run.generatorFor config
  let summary ← Task.mapError (.ofGeneration config.outDir)
    (Run.withGenerator generator Generator.generate)
  let watched := if script.emitRerunIfChanged then watchLines config summary else []
  return (summary, String.join (watched ++ collisionLines summary.report))

end BuildScript

end Scaffold
