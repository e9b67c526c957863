import Scaffold.Convention
import Scaffold.NameMap
import Scaffold.Rust.Format
import Scaffold.Sink
import Scaffold.Template.Renderer

/-!
The pipeline from declarations to files. What a feature renders to is remembered. All declarations
are prepared before the first file is emitted; files are emitted in the order of the declarations.
-/

namespace Scaffold

/-- What is rendered, and how it is treated afterwards. -/
structure PipelineSetting where
  convention : Convention
  renderer : Renderer
  validation : ValidationMode
  format : Bool

/-- A setting with the files of the features rendered so far, by the digest of all they depend on. -/
structure Pipeline where
  setting : PipelineSetting
  memo : NameMap (List Artifact)

/-- A trigger with its files. -/
structure PreparedUnit where
  trigger : String
  feature : String
  artifacts : List Artifact
  fromCache : Bool
  deriving DecidableEq, Repr

/-- Triggers that write the same file, in the order of writing. -/
structure Collision where
  fileName : String
  triggers : List String
  deriving DecidableEq, Repr

structure GenerationReport where
  declarations : Nat
  triggers : Nat
  emitted : Nat
  memoHits : Nat
  collisions : List Collision
  /-- the feature that was the last to write each file -/
  units : NameMap String
  deriving Repr

namespace PipelineSetting

/-- The digest of all that the files of a feature depend on. -/
def memoKey (setting : PipelineSetting) (feature : String) : String :=
  Digest.Sha256.hexOfText ("\x00".intercalate
    [setting.renderer.fingerprint, setting.validation.text,
      if setting.format then "true" else "false", feature])

/-- Reports every issue of a file; errors are refused if the mode says so. -/
def validate (setting : PipelineSetting) (artifact : Artifact) : Task Fault Pipeline Unit := do
  if setting.validation = .off then return
  let issues := Validation.issues Validation.defaultLimit artifact.source
  for issue in issues do
    Task.warn (.finding artifact.fileName issue)
  let errors := issues.filter Issue.isError
  if setting.validation = .deny ∧ errors ≠ [] then
    throw (.invalidSource artifact.fileName errors)

/-- The text laid out anew, if that is wanted; one that does not parse stays as it is. -/
def formatted (setting : PipelineSetting) (artifact : Artifact) : Except Fault Artifact :=
  if setting.format then
    match Rust.format artifact.source with
    | .text source => .ok { artifact with source }
    | .unparsed => .ok artifact
    | .stuck => .error .panicked
  else .ok artifact

def postProcess (setting : PipelineSetting) (artifact : Artifact) : Task Fault Pipeline Artifact := do
  setting.validate artifact
  Task.ofExcept (setting.formatted artifact)

end PipelineSetting

namespace GenerationReport

def ofUnits (declarations : Nat) (units : List PreparedUnit) : GenerationReport :=
  let writes := units.flatMap fun unit => unit.artifacts.map fun artifact => (artifact.fileName, unit)
  let writers := writes.foldl (fun map (file, unit) =>
    map.alter file fun before => before.getD [] ++ [unit.trigger]) (NameMap.empty (α := List String))
  { declarations
    triggers := units.length
    emitted := writes.length
    memoHits := (units.filter (·.fromCache)).length
    collisions := (writers.entries.filter fun (_, triggers) => triggers.length > 1).map
      fun (file, triggers) => ⟨file, triggers⟩
    units := NameMap.ofList (writes.map fun (file, unit) => (file, unit.feature)) }

end GenerationReport

namespace Pipeline

def ofSetting (setting : PipelineSetting) : Pipeline := ⟨setting, .empty⟩

/-- Renders a feature and remembers the result. -/
def renderFresh (feature : String) : Task Fault Pipeline (List Artifact) := do
  let setting := (← Task.current).setting
  let rendered ← Task.ofExcept (setting.renderer.render feature)
  let artifacts ← rendered.mapM setting.postProcess
  Task.change fun pipeline =>
    { pipeline with memo := pipeline.memo.insert (setting.memoKey feature) artifacts }
  return artifacts

/-- What a look at the memory shows of a declaration. -/
inductive Sight where
  /-- its files are remembered, or it triggers nothing -/
  | settled (unit : Option PreparedUnit)
  /-- its feature is yet to be rendered -/
  | fresh (feature : String)
  deriving DecidableEq, Repr

def look (pipeline : Pipeline) (declaration : Declaration) : Sight :=
  match pipeline.setting.convention.feature? declaration with
  | none => .settled none
  | some feature =>
    match pipeline.memo.find? (pipeline.setting.memoKey feature) with
    | some artifacts => .settled (some ⟨declaration.name, feature, artifacts, true⟩)
    | none => .fresh feature

/-- The files of a declaration, if it triggers generation. -/
def prepare (declaration : Declaration) : Task Fault Pipeline (Option PreparedUnit) := do
  match (← Task.current).look declaration with
  | .settled unit => return unit
  | .fresh feature => return some ⟨declaration.name, feature, ← renderFresh feature, false⟩

variable {σ : Type}

def emitUnit (sink : Sink σ) (unit : PreparedUnit) : Task Fault σ Unit :=
  unit.artifacts.forM fun artifact => sink.emit artifact.fileName artifact.source

/-- Prepares a declaration and emits its files. -/
def process (sink : Sink σ) (declaration : Declaration) :
    Task Fault (Pipeline × σ) (Option PreparedUnit) := do
  let prepared ← Task.onFirst (prepare declaration)
  prepared.forM fun unit => Task.onSecond (emitUnit sink unit)
  return prepared

/-- Emits the files of `count` declarations that were prepared, and reports what was done. -/
def deliver (sink : Sink σ) (count : Nat) (prepared : List (Option PreparedUnit)) :
    Task Fault σ GenerationReport := do
  let units := prepared.filterMap id
  units.forM (emitUnit sink)
  let report := GenerationReport.ofUnits count units
  for collision in report.collisions do
    Task.warn (.collision collision.fileName collision.triggers)
  return report

/-- Prepares all declarations and delivers them. One worker prepares from left to right; what several of
them may come to is in `Scaffold.Pipeline.Schedule`. -/
def run (sink : Sink σ) (declarations : List Declaration) :
    Task Fault (Pipeline × σ) GenerationReport := do
  let prepared ← Task.onFirst (declarations.mapM prepare)
  Task.onSecond (deliver sink declarations.length prepared)

def clearCache (pipeline : Pipeline) : Pipeline := { pipeline with memo := .empty }

/-- The pipeline with another mode; what is remembered stays. -/
def withValidation (pipeline : Pipeline) (mode : ValidationMode) : Pipeline :=
  { pipeline with setting := { pipeline.setting with validation := mode } }

/-- The pipeline with layout switched on or off; what is remembered stays. -/
def withFormat (pipeline : Pipeline) (format : Bool) : Pipeline :=
  { pipeline with setting := { pipeline.setting with format } }

/-- The pipeline as it is shown to a programmer. -/
def describe (pipeline : Pipeline) : String :=
  let setting := pipeline.setting
  "Pipeline \x7b convention: Convention \x7b suffix: " ++
    Text.Quoted.quote setting.convention.suffix ++ " \x7d, validation: " ++
    setting.validation.label ++ ", format: " ++ (if setting.format then "true" else "false") ++
    ", cached_features: " ++ toString pipeline.memo.size ++ " \x7d"

end Pipeline

end Scaffold
