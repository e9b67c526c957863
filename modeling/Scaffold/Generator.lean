import Scaffold.Config
import Scaffold.Diff.Unified
import Scaffold.Manifest
import Scaffold.Pipeline
import Scaffold.Scanner

/-!
The generator scans source roots, runs the pipeline and writes into one directory, whose manifest it
keeps up to date. A check does the same work without writing.
-/

namespace Scaffold

structure Generator where
  scanner : Scanner
  pipeline : Pipeline
  outDir : Path
  cleanOrphans : Bool

structure GenerationSummary where
  report : GenerationReport
  sources : List Path
  parsed : Nat
  reused : Nat
  skipped : List Path
  /-- orphans that were removed -/
  removed : List Path

/-- A trigger with its feature. -/
structure TriggerListing where
  declaration : Declaration
  feature : String
  deriving DecidableEq, Repr

/-- Where a directory differs from what would be generated. -/
inductive Drift where
  | missing (fileName : String)
  | changed (fileName diff : String)
  | orphaned (fileName : String)
  deriving DecidableEq, Repr

namespace Drift

def fileName : Drift → String
  | missing name => name
  | changed name _ => name
  | orphaned name => name

def describe : Drift → String
  | missing name => "missing: " ++ name
  | changed name diff => "changed: " ++ name ++ "\n" ++ diff
  | orphaned name => "orphaned: " ++ name

end Drift

namespace TemplateSpec

/-- A template from a file, named after the file. -/
def ofFile (disk : Disk) (path : Path) (fileName : String) : Except Fault TemplateSpec :=
  match disk.readText path with
  | .ok source => .ok ⟨path.stem?.getD "custom", source, fileName⟩
  | .error refusal => .error (.io path refusal)

end TemplateSpec

namespace Generator

def ofConfig (disk : Disk) (config : Config) : Except Fault Generator := do
  let scanner ← Scanner.make config.sourceRoots config.includes config.excludes
  let specs ← config.templates.mapM fun template =>
    TemplateSpec.ofFile disk template.path template.fileName
  let renderer ← Renderer.ofSpecsOrBuiltin specs
  let setting : PipelineSetting := ⟨⟨config.suffix⟩, renderer, config.validation, config.format⟩
  return ⟨scanner, .ofSetting setting, config.outDir, config.cleanOrphans⟩

/-- A disk with the generator that works on it. -/
abbrev Work := Disk × Generator

def scan : Task Fault Work ScanOutcome := do
  let (disk, _) ← Task.current
  Task.onSecond (Task.zoom (·.scanner) (fun scanner generator => { generator with scanner })
    (Scanner.scan disk))

/-- Runs the pipeline into a sink, whose state is given back. -/
def runInto {σ : Type} (sink : Sink (Disk × σ)) (start : σ) (declarations : List Declaration) :
    Task Fault Work (GenerationReport × σ) :=
  Task.withLocal start
    (Task.zoom (fun ((disk, generator), state) => (generator.pipeline, (disk, state)))
      (fun (pipeline, (disk, state)) ((_, generator), _) =>
        ((disk, { generator with pipeline }), state))
      (Pipeline.run sink declarations))

/-- A sink beside a disk that it does not touch. -/
def besideDisk {σ : Type} (sink : Sink σ) : Sink (Disk × σ) where
  emit fileName source := Task.onSecond (sink.emit fileName source)

/-- The manifest of the run before. One that cannot be read is ignored with a warning. -/
def previousManifest (outDir : Path) : Task Fault Disk (Option Manifest) := do
  match ← Task.outcome (Manifest.load outDir) with
  | .ok manifest => return manifest
  | .error _ =>
    Task.warn .unreadableManifest
    return none

/-- The manifest of a run: the emitted files with their features and digests. -/
def manifestOf (setting : PipelineSetting) (report : GenerationReport) (emitted : NameMap String) :
    Manifest :=
  report.units.entries.foldl (fun manifest (fileName, feature) =>
    match emitted.find? fileName with
    | some hash => manifest.record fileName feature hash
    | none => manifest) (Manifest.new setting.convention.suffix setting.renderer.fingerprint)

/-- Removes what the run before left behind, and records this one. -/
def updateManifest (manifest : Manifest) (outDir : Path) (cleanOrphans : Bool) :
    Task Fault Disk (List Path) := do
  let removed ← match ← previousManifest outDir with
    | some previous =>
      if cleanOrphans then manifest.removeOrphans previous outDir false else pure []
    | none => pure []
  manifest.save outDir
  return removed

/-- Scans, renders and writes all files, and then brings the manifest up to date. -/
def generate : Task Fault Work GenerationSummary := do
  let outcome ← scan
  let outDir := (← Task.current).2.outDir
  let sink ← Task.onFirst (DirectorySink.make outDir)
  let (report, sink) ← runInto DirectorySink.sink sink outcome.declarations
  let (_, generator) ← Task.current
  let manifest := manifestOf generator.pipeline.setting report sink.emitted
  let removed ← Task.onFirst (updateManifest manifest outDir generator.cleanOrphans)
  return ⟨report, outcome.files, outcome.parsed, outcome.reused, outcome.skipped.map (·.1), removed⟩

/-- Compares a file with the text that it should have. -/
def compareUnit (disk : Disk) (outDir : Path) (fileName expected : String) :
    Except Fault (Option Drift) :=
  let path := outDir.child fileName
  match disk.readText path with
  | .ok actual =>
    if actual = expected then .ok none
    else
      .ok (some (.changed fileName
        (Diff.unified (fileName ++ " (on disk)") (fileName ++ " (generated)") actual expected)))
  | .error .notFound => .ok (some (.missing fileName))
  | .error refusal => .error (.io path refusal)

/-- The files of the run before that are still there and would no longer be generated. -/
def orphans (disk : Disk) (outDir : Path) (previous : Manifest) (units : NameMap String) :
    List Drift :=
  (previous.artifacts.keys.filter fun name =>
    !units.contains name && disk.isFile (outDir.child name)).map .orphaned

/-- Where the directory differs from what `generate` would write. -/
def check : Task Fault Work (List Drift) := do
  let outcome ← scan
  let (report, units) ← runInto (besideDisk MemorySink.sink) .empty outcome.declarations
  let (disk, generator) ← Task.current
  let drift ← units.entries.mapM fun (fileName, expected) =>
    Task.ofExcept (compareUnit disk generator.outDir fileName expected)
  match ← Task.onFirst (previousManifest generator.outDir) with
  | some previous => return drift.filterMap id ++ orphans disk generator.outDir previous report.units
  | none => return drift.filterMap id

/-- The triggers among the sources, with their features. -/
def list : Task Fault Work (List TriggerListing) := do
  let outcome ← scan
  let convention := (← Task.current).2.pipeline.setting.convention
  return outcome.declarations.filterMap fun declaration =>
    (convention.feature? declaration).map fun feature => ⟨declaration, feature⟩

end Generator

end Scaffold
