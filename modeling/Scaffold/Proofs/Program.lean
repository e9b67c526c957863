import Scaffold.BuildScript
import Scaffold.Program
import Scaffold.Proofs.Disk.Kept
import Scaffold.Proofs.Task

/-! However the program ends, and wherever it stops, the disk that it leaves is a tree if it was one
before: the sinks, the manifest, the generator and what runs it do nothing to a disk but by its
operations. -/

namespace Scaffold

open Scaffold.Task

variable {ε σ : Type}

/-! ### Files of a directory -/

theorem DirectorySink.maintains_make (directory : Path) :
    Maintains Disk.Tree (DirectorySink.make directory) := by
  refine maintains_current_bind fun disk tree => ?_
  have made := tree.makeDirectories directory
  generalize disk.makeDirectories directory = ending at made
  obtain ⟨result, made'⟩ := ending
  refine (maintains_replace made).bind fun _ => ?_
  cases result with
  | ok _ => exact maintains_pure _
  | error refusal => exact maintains_throw _

theorem DirectorySink.maintains_replaceFile (directory path : Path) (text : String) :
    Maintains Disk.Tree (DirectorySink.replaceFile directory path text) := by
  refine maintains_current_bind fun disk tree => ?_
  split
  · exact maintains_throw _
  · split
    · rename_i moved
      exact maintains_replace (tree.moveInto moved)
    · exact maintains_throw _

theorem DirectorySink.maintains_emit (fileName source : String) :
    Maintains (fun state : Disk × DirectorySink => state.1.Tree)
      (DirectorySink.sink.emit fileName source) := by
  refine maintains_current_bind fun (disk, sink) _ => (maintains_ofExcept _).bind fun path => ?_
  have noted : Maintains (fun state : Disk × DirectorySink => state.1.Tree) (Task.onSecond (Task.change
      fun sink : DirectorySink => { sink with
        emitted := sink.emitted.insert fileName (Digest.Sha256.hexOfText source) }) : Task Fault _ Unit) :=
    maintains_onSecond _
  dsimp only
  split
  · exact (maintains_replaceFile _ _ _).onFirst.bind fun _ => noted
  · exact noted

/-! ### Manifests -/

namespace Manifest

theorem maintains_load {holds : Disk → Prop} (directory : Path) : Maintains holds (load directory) := by
  refine maintains_current_bind fun disk _ => ?_
  extract_lets path
  split
  · exact maintains_pure _
  · split
    · exact maintains_throw _
    · split
      · exact maintains_throw _
      · refine (maintains_forIn (fun name _ => ?_) _ _).bind fun _ => maintains_pure _
        split
        · exact (maintains_warn _).bind fun _ => maintains_pure _
        · exact maintains_pure _

theorem maintains_save (manifest : Manifest) (directory : Path) :
    Maintains Disk.Tree (manifest.save directory) := by
  refine maintains_current_bind fun disk tree => ?_
  split
  · rename_i written
    exact maintains_replace (tree.write written)
  · exact maintains_throw _

theorem maintains_removeOrphan (directory : Path) (dryRun : Bool) (name : String) :
    Maintains Disk.Tree (removeOrphan directory dryRun name : Task ε Disk (Option Path)) := by
  refine maintains_current_bind fun disk tree => ?_
  split
  · exact maintains_pure _
  · split
    · exact maintains_pure _
    · split
      · rename_i removed
        exact (maintains_replace (tree.removeFile removed)).bind fun _ => maintains_pure _
      · exact (maintains_warn _).bind fun _ => maintains_pure _

theorem maintains_removeOrphans (manifest previous : Manifest) (directory : Path) (dryRun : Bool) :
    Maintains Disk.Tree (manifest.removeOrphans previous directory dryRun : Task ε Disk (List Path)) :=
  (maintains_mapM (maintains_removeOrphan directory dryRun) _).bind fun _ => maintains_pure _

end Manifest

/-! ### Runs of the pipeline -/

/-- A run does to the state of its sink what the sink does. -/
theorem Pipeline.maintains_run {holds : σ → Prop} {sink : Sink σ}
    (emits : ∀ name text, Maintains holds (sink.emit name text)) (declarations : List Declaration) :
    Maintains (fun state : Pipeline × σ => holds state.2) (run sink declarations) := by
  have emitted : ∀ unit, Maintains holds (emitUnit sink unit) := fun unit =>
    maintains_forM (f := fun artifact => sink.emit artifact.fileName artifact.source)
      (fun artifact => emits artifact.fileName artifact.source) unit.artifacts
  have delivered : ∀ prepared, Maintains holds (deliver sink declarations.length prepared) := fun prepared =>
    (maintains_forM emitted _).bind fun _ =>
      (maintains_forIn (fun _ _ => (maintains_warn _).bind fun _ => maintains_pure _) _ _).bind fun _ =>
        maintains_pure _
  have prepared : Maintains (fun state : Pipeline × σ => holds state.2)
      (Task.onFirst (declarations.mapM prepare)) := fun _ held => held
  exact prepared.bind fun units => (delivered units).zoom (fun _ held => held) fun _ _ held => held

/-! ### The generator -/

namespace Generator

/-- What holds of the disk that a generator works on. -/
abbrev OnTree (work : Work) : Prop := work.1.Tree

theorem maintains_scan : Maintains OnTree scan :=
  maintains_current_bind fun _ _ => maintains_onSecond _

theorem maintains_runInto {sink : Sink (Disk × σ)}
    (emits : ∀ name text, Maintains (fun state : Disk × σ => state.1.Tree) (sink.emit name text)) (start : σ)
    (declarations : List Declaration) : Maintains OnTree (runInto sink start declarations) := by
  have ran : Maintains (fun state : Pipeline × (Disk × σ) => state.2.1.Tree)
    (Pipeline.run sink declarations) := Pipeline.maintains_run emits declarations
  refine Maintains.withLocal (ran.zoom ?_ ?_)
  · rintro ⟨⟨disk, generator⟩, state⟩ held
    exact held
  · rintro ⟨pipeline, disk, state⟩ ⟨⟨disk', generator⟩, state'⟩ held
    exact held

theorem maintains_previousManifest (outDir : Path) : Maintains Disk.Tree (previousManifest outDir) := by
  refine (Manifest.maintains_load outDir).outcome.bind fun loaded => ?_
  cases loaded with
  | ok manifest => exact maintains_pure _
  | error fault => exact (maintains_warn _).bind fun _ => maintains_pure _

theorem maintains_updateManifest (manifest : Manifest) (outDir : Path) (cleanOrphans : Bool) :
    Maintains Disk.Tree (updateManifest manifest outDir cleanOrphans) := by
  have saved : ∀ removed : List Path, Maintains Disk.Tree (do
      manifest.save outDir
      return removed : Task Fault Disk (List Path)) := fun _ =>
    (manifest.maintains_save outDir).bind fun _ => maintains_pure _
  refine (maintains_previousManifest outDir).bind fun found => ?_
  cases found with
  | none => exact (maintains_pure _).bind saved
  | some earlier =>
    cases cleanOrphans with
    | false => exact (maintains_pure _).bind saved
    | true => exact (manifest.maintains_removeOrphans earlier outDir false).bind saved

theorem maintains_generate : Maintains OnTree generate := by
  refine maintains_scan.bind fun outcome => maintains_current_bind fun work _ => ?_
  refine (DirectorySink.maintains_make work.2.outDir).onFirst.bind fun sink => ?_
  refine (maintains_runInto DirectorySink.maintains_emit sink outcome.declarations).bind fun ran => ?_
  refine maintains_current_bind fun work _ => ?_
  exact (maintains_updateManifest _ _ _).onFirst.bind fun _ => maintains_pure _

theorem maintains_check : Maintains OnTree check := by
  have beside : ∀ name text, Maintains (fun state : Disk × MemorySink => state.1.Tree)
      ((besideDisk MemorySink.sink).emit name text) := fun _ _ => maintains_onSecond _
  refine maintains_scan.bind fun outcome => (maintains_runInto beside .empty _).bind fun ran => ?_
  refine maintains_current_bind fun work _ => ?_
  refine (maintains_mapM (fun _ => maintains_ofExcept _) _).bind fun drift => ?_
  refine (maintains_previousManifest _).onFirst.bind fun previous => ?_
  cases previous with
  | none => exact maintains_pure _
  | some manifest => exact maintains_pure _

theorem maintains_list : Maintains OnTree list :=
  maintains_scan.bind fun _ => maintains_current_bind fun _ _ => maintains_pure _

end Generator

/-! ### Programs -/

theorem Run.maintains_withGenerator {α : Type} {generator : Generator} {task : Task Fault Generator.Work α}
    (maintains : Maintains Generator.OnTree task) : Maintains Disk.Tree (withGenerator generator task) :=
  maintains.withLocal.bind fun _ => maintains_pure _

theorem Run.maintains_generatorFor (config : Config) : Maintains Disk.Tree (generatorFor config) := by
  refine maintains_current_bind fun disk _ => ?_
  split
  · exact maintains_throw _
  · exact (maintains_ofExcept _).mapError

theorem Run.maintains_run (config : Config) (check list : Bool) :
    Maintains Disk.Tree (run config check list) := by
  refine (maintains_generatorFor config).bind fun generator =>
    (maintains_withGenerator ?_).mapError
  split
  · exact Generator.maintains_list.bind fun _ => maintains_pure _
  · split
    · exact Generator.maintains_check.bind fun _ => maintains_pure _
    · exact Generator.maintains_generate.bind fun _ => maintains_pure _

/-- A build script leaves a tree. -/
theorem BuildScript.maintains_generate (script : BuildScript) (value? : String → Option String) :
    Maintains Disk.Tree (script.generate value?) := by
  refine (maintains_ofExcept _).bind fun config =>
    (Run.maintains_generatorFor config).bind fun generator => ?_
  exact (Run.maintains_withGenerator Generator.maintains_generate).mapError.bind fun _ => maintains_pure _

namespace Program

theorem maintains_openLog (settings : LogSettings) : Maintains Disk.Tree (openLog settings) := by
  unfold openLog
  split
  · refine maintains_current_bind fun disk tree => ?_
    have made := tree.makeDirectories settings.directory
    generalize disk.makeDirectories settings.directory = ending at made
    obtain ⟨result, disk'⟩ := ending
    refine (maintains_replace made).bind fun _ => ?_
    cases result with
    | error refusal => exact maintains_throw _
    | ok _ =>
      dsimp only
      split
      · refine maintains_replace ?_
        cases written : disk'.write (settings.directory.child name) .empty with
        | error refusal => exact made
        | ok next => exact made.write written
      · exact maintains_pure _
  · exact maintains_pure _

theorem maintains_run (value? : String → Option String) (words : List String) :
    Maintains Disk.Tree (run value? words) := by
  refine Maintains.bind (Maintains.outcome ((maintains_openLog _).bind fun _ => ?_)) fun outcome => ?_
  · split
    · exact maintains_pure _
    · refine maintains_current_bind fun disk _ => (maintains_ofExcept _).bind fun config => ?_
      exact (Run.maintains_run _ _ _).bind fun _ => maintains_pure _
  · cases outcome with
    | ok result => exact maintains_pure _
    | error failure => exact maintains_pure _

/-- With any environment and command line, and whether it succeeds or not, the program makes of a disk that
is a tree another one. -/
theorem run_leaves_tree (value? : String → Option String) (words : List String) {disk : Disk}
    (tree : disk.Tree) : ((run value? words).perform disk).2.1.Tree :=
  maintains_run value? words ⟨disk, []⟩ tree

end Program

end Scaffold
