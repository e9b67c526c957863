import Scaffold.Proofs.Generator.Ending
import Scaffold.Proofs.Pipeline.Builtin
import Scaffold.Proofs.Pipeline.Agreement
import Scaffold.Proofs.Scanner.Discovery
import Scaffold.Proofs.Scanner.History
import Scaffold.Proofs.Template.Renderer

/-! What can still go wrong with a configuration in which the check found nothing. The check repeats
what the scanner, the reading of the templates and the output directory ask for, so that every fault of
theirs has to come from something it did not look at. -/

namespace Scaffold

open Disk Path

/-! ### The check -/

/-- A configuration that asks for nothing that a disk does not have. -/
structure Config.Sound (config : Config) (disk : Disk) : Prop where
  suffix : config.suffix ≠ ""
  sources : config.sourceRoots ≠ []
  included : config.includes ≠ []
  roots : ∀ root ∈ config.sourceRoots, disk.contains root = true
  patterns : ∀ pattern ∈ config.includes ++ config.excludes, ∃ glob, Glob.ofText? pattern = some glob
  templates : ∀ template ∈ config.templates, disk.isFile template.path = true ∧ template.fileName ≠ ""
  outDir : disk.contains config.outDir = true → disk.isDirectory config.outDir = true

namespace Config

variable {config : Config} {disk : Disk}

theorem rootProblem?_eq_none_iff {root : Path} :
    rootProblem? disk root = none ↔ disk.contains root = true := by
  simp [rootProblem?]

theorem patternProblem?_eq_none_iff {pattern : String} :
    patternProblem? pattern = none ↔ ∃ glob, Glob.ofText? pattern = some glob := by
  unfold patternProblem?
  cases Glob.ofText? pattern <;> simp

theorem templateProblem?_eq_none_iff {template : TemplateFile} :
    templateProblem? disk template = none ↔
      disk.isFile template.path = true ∧ template.fileName ≠ "" := by
  unfold templateProblem?
  cases disk.isFile template.path <;> simp

theorem outDirProblem?_eq_none_iff {path : Path} :
    outDirProblem? disk path = none ↔
      (disk.contains path = true → disk.isDirectory path = true) := by
  simp [outDirProblem?]

theorem problem?_eq_none_iff : config.problem? disk = none ↔ config.Sound disk := by
  have checks : (config.sourceRoots.findSome? (rootProblem? disk) <|>
        (config.includes ++ config.excludes).findSome? patternProblem? <|>
        config.templates.findSome? (templateProblem? disk) <|>
        outDirProblem? disk config.outDir) = none ↔
      (∀ root ∈ config.sourceRoots, disk.contains root = true) ∧
      (∀ pattern ∈ config.includes ++ config.excludes, ∃ glob, Glob.ofText? pattern = some glob) ∧
      (∀ template ∈ config.templates, disk.isFile template.path = true ∧ template.fileName ≠ "") ∧
      (disk.contains config.outDir = true → disk.isDirectory config.outDir = true) := by
    simp only [Option.orElse_eq_orElse, Option.orElse_eq_or, Option.or_eq_none_iff,
      List.findSome?_eq_none_iff, rootProblem?_eq_none_iff, patternProblem?_eq_none_iff,
      templateProblem?_eq_none_iff, outDirProblem?_eq_none_iff]
  unfold problem?
  constructor
  · intro none
    split at none
    · contradiction
    split at none
    · contradiction
    split at none
    · contradiction
    rename_i suffix sources included
    obtain ⟨roots, patterns, templates, outDir⟩ := checks.mp none
    exact ⟨by simpa using suffix, by simpa using sources, by simpa using included, roots, patterns,
      templates, outDir⟩
  · intro sound
    rw [if_neg (by simpa using sound.suffix), if_neg (by simpa using sound.sources),
      if_neg (by simpa using sound.included)]
    exact checks.mpr ⟨sound.roots, sound.patterns, sound.templates, sound.outDir⟩

end Config

/-! ### Scanning -/

theorem GlobSet.exists_ofTexts {patterns : List String}
    (valid : ∀ pattern ∈ patterns, ∃ glob, Glob.ofText? pattern = some glob) :
    ∃ set, ofTexts patterns = .ok set := by
  simp only [ofTexts, Except.bind_eq_ok]
  rw [exists_comm]
  refine (Except.exists_mapM fun pattern member => ?_).imp fun globs made => ⟨⟨globs⟩, made, rfl⟩
  obtain ⟨glob, read⟩ := valid pattern member
  exact ⟨glob, by rw [read]⟩

/-- A scanner can be made, and it finds its files. -/
theorem Config.Sound.discover {config : Config} {disk : Disk} (sound : config.Sound disk) :
    ∃ scanner files, Scanner.make config.sourceRoots config.includes config.excludes = .ok scanner ∧
      scanner.discover disk = .ok files := by
  have patterns := List.forall_mem_append.mp sound.patterns
  obtain ⟨included, made⟩ := GlobSet.exists_ofTexts patterns.1
  obtain ⟨excluded, made'⟩ := GlobSet.exists_ofTexts patterns.2
  have scanner : Scanner.make config.sourceRoots config.includes config.excludes =
      .ok ⟨config.sourceRoots, included, excluded, []⟩ := by
    rw [Scanner.make, if_neg (by simpa using sound.sources), made, made']
    rfl
  exact ⟨_, _, scanner, Scanner.discover_eq sound.roots⟩

/-- Where the files are found a scan can fail only to read one of them. -/
theorem Scanner.fault_of_scan {scanner after : Scanner} {disk : Disk} {files : List Path} {fault : Fault}
    (found : scanner.discover disk = .ok files)
    (failed : (scan disk).Ends scanner (.error fault) after) :
    ∃ path refusal, fault = .io path refusal := by
  obtain ⟨reports, performed⟩ := failed.perform
  have result := scan_result scanner disk
  rw [performed, found, Except.bind, Outcome.collected_eq] at result
  dsimp only at result
  split at result
  · rename_i fatal first
    obtain rfl := Except.error.inj result
    obtain ⟨path, -, first⟩ := List.exists_of_findSome?_eq_some first
    unfold tracked at first
    split at first
    · rename_i refusal _
      unfold Outcome.fatal? at first
      dsimp only at first
      split at first
      · contradiction
      · exact ⟨path, refusal, (Option.some.inj first).symm⟩
    · split at first
      · simp [Outcome.fatal?] at first
      · split at first <;> simp [Outcome.fatal?, Fault.isRecoverable] at first
  · contradiction

/-! ### Templates -/

/-- A regular file can be read, unless it is no text. -/
theorem Disk.readText_of_isFile {disk : Disk} {path : Path} (file : disk.isFile path = true)
    {refusal : Refusal} (failed : disk.readText path = .error refusal) : refusal = .notText := by
  obtain ⟨location, content, found⟩ := isFile_eq_true_iff.mp file
  have read : disk.read path = .ok content := by
    rw [Disk.read, found]
    rfl
  rw [readText, read] at failed
  cases text : String.fromUTF8? content with
  | some text => simp [text, bind, Except.bind] at failed
  | none =>
    simp only [text, bind, Except.bind, Except.error.injEq] at failed
    exact failed.symm

namespace Renderer

theorem fault_of_forSpec {α : Type} {spec : TemplateSpec} {result : Except Template.Problem α}
    {fault : Fault} (failed : forSpec spec result = .error fault) :
    ∃ problem, fault = .template spec.name problem := by
  cases result with
  | ok value => contradiction
  | error problem => exact ⟨problem, (Except.error.inj failed).symm⟩

/-- A template that is refused is one of those given. -/
theorem fault_of_addSpecs {specs : List TemplateSpec} {library : Template.Library} {fault : Fault}
    (failed : specs.foldlM addSpec library = .error fault) :
    ∃ spec ∈ specs, ∃ problem, fault = .template spec.name problem := by
  induction specs generalizing library with
  | nil => contradiction
  | cons spec rest ih =>
    rw [List.foldlM_cons] at failed
    cases added : addSpec library spec with
    | error refused =>
      rw [added] at failed
      obtain rfl := Except.error.inj failed
      exact ⟨spec, by simp, fault_of_forSpec added⟩
    | ok next =>
      rw [added] at failed
      obtain ⟨other, member, problem⟩ := ih failed
      exact ⟨other, by simp [member], problem⟩

theorem fault_of_ofSpecs {specs : List TemplateSpec} {fault : Fault} (some : specs ≠ [])
    (failed : ofSpecs specs = .error fault) : ∃ spec ∈ specs, ∃ problem, fault = .template spec.name problem := by
  cases added : specs.foldlM addSpec .empty with
  | error refused =>
    rw [ofSpecs, if_neg (by simpa using some), added] at failed
    obtain rfl := Except.error.inj failed
    exact fault_of_addSpecs added
  | ok library =>
    have made : ofSpecs specs = .ok ⟨specs, library⟩ := ofSpecs_eq_ok.mpr ⟨some, rfl, added⟩
    rw [made] at failed
    contradiction

theorem fault_of_render {renderer : Renderer} {feature : String} {fault : Fault}
    (failed : renderer.render feature = .error fault) :
    ∃ spec ∈ renderer.specs, ∃ problem, fault = .template spec.name problem := by
  obtain ⟨spec, member, failed⟩ := Except.exists_of_mapM_error failed
  exact ⟨spec, member, fault_of_forSpec failed⟩

end Renderer

/-- A generator is not made of a sound configuration only if one of its templates is no text, or all of
them are and one is refused as a template. -/
theorem Config.Sound.fault_of_ofConfig {config : Config} {disk : Disk} (sound : config.Sound disk)
    {fault : Fault} (failed : Generator.ofConfig disk config = .error fault) :
    (∃ template ∈ config.templates, disk.readText template.path = .error .notText ∧
      fault = .io template.path .notText) ∨
    ∃ specs, (config.templates.mapM fun template =>
        TemplateSpec.ofFile disk template.path template.fileName) = .ok specs ∧
      ∃ spec ∈ specs, ∃ problem, fault = .template spec.name problem := by
  obtain ⟨scanner, files, made, -⟩ := sound.discover
  rw [Generator.ofConfig, made] at failed
  cases read : config.templates.mapM fun template =>
      TemplateSpec.ofFile disk template.path template.fileName with
  | error refused =>
    left
    rw [read] at failed
    obtain rfl := Except.error.inj failed
    obtain ⟨template, member, failed⟩ := Except.exists_of_mapM_error read
    unfold TemplateSpec.ofFile at failed
    split at failed
    · contradiction
    · rename_i refusal unread
      obtain rfl := Disk.readText_of_isFile (sound.templates template member).1 unread
      exact ⟨template, member, unread, (Except.error.inj failed).symm⟩
  | ok specs =>
    right
    rw [read] at failed
    refine ⟨specs, rfl, ?_⟩
    cases rendered : Renderer.ofSpecsOrBuiltin specs with
    | ok renderer =>
      simp [rendered, bind, Except.bind, pure, Except.pure] at failed
    | error refused =>
      simp only [bind, Except.bind, rendered, Except.error.injEq] at failed
      subst failed
      cases specs with
      | nil =>
        obtain ⟨renderer, built, -⟩ := Template.Builtin.renders
        rw [built] at rendered
        contradiction
      | cons spec rest => exact Renderer.fault_of_ofSpecs (by simp) rendered

/-! ### Generation -/

/-- The faults of a generation whose scanner finds its files. Beside the disk, the templates, the
validation and the layout only a rendered file name can be at fault. -/
inductive GenerationFault (setting : PipelineSetting) : Fault → Prop
  | io (path : Path) (refusal : Refusal) : GenerationFault setting (.io path refusal)
  | template (name : String) (problem : Template.Problem) :
      GenerationFault setting (.template name problem)
  | invalidSource (fileName : String) (errors : List Issue) :
      GenerationFault setting (.invalidSource fileName errors)
  | stuck {feature : String} {artifacts : List Artifact} {artifact : Artifact}
      (rendered : setting.renderer.render feature = .ok artifacts) (member : artifact ∈ artifacts)
      (wanted : setting.format = true) (stuck : Rust.format artifact.source = .stuck) :
      GenerationFault setting .panicked
  | fileName {feature : String} {artifacts : List Artifact} {artifact : Artifact}
      (rendered : setting.rendered feature = .ok artifacts) (member : artifact ∈ artifacts)
      (odd : (Path.mk artifact.fileName).isPlainName = false) :
      GenerationFault setting (.config (.notAFileName artifact.fileName))

namespace Pipeline

theorem fault_of_rendered {setting : PipelineSetting} {feature : String} {fault : Fault}
    (failed : setting.rendered feature = .error fault) : GenerationFault setting fault := by
  unfold PipelineSetting.rendered at failed
  cases made : setting.renderer.render feature with
  | error refused =>
    rw [made] at failed
    obtain rfl := Except.error.inj failed
    obtain ⟨spec, -, problem, rfl⟩ := Renderer.fault_of_render made
    exact .template spec.name problem
  | ok artifacts =>
    rw [made] at failed
    obtain ⟨artifact, member, failed⟩ := Except.exists_of_mapM_error failed
    rcases PipelineSetting.finish_eq_error_iff.mp failed with judged | ⟨-, kept⟩
    · obtain ⟨-, -, rfl⟩ := PipelineSetting.judge_eq_error_iff.mp judged
      exact .invalidSource _ _
    · obtain ⟨wanted, stuck, rfl⟩ := PipelineSetting.formatted_eq_error_iff.mp kept
      exact .stuck made member wanted stuck

theorem fault_of_mapM_prepare {declarations : List Declaration} {pipeline after : Pipeline} {fault : Fault}
    (failed : (declarations.mapM prepare).Ends pipeline (.error fault) after) :
    GenerationFault pipeline.setting fault := by
  rcases prepared_or_failsFirst declarations pipeline with ⟨prepared, after', done⟩ |
    ⟨left, declaration, right, middle, fault', rfl, first⟩
  · exact absurd (failed.unique done).1 (by simp)
  · obtain rfl := Except.error.inj (failed.unique (first.mapM_prepare right)).1
    obtain ⟨prepared, begun⟩ := first.begun
    obtain ⟨feature, -, -, refused⟩ := unitOf_eq_error_iff.mp first.failed
    rw [(extends_of_mapM_prepare begun).setting] at refused
    exact fault_of_rendered refused

/-- Every file of the units of a new pipeline was rendered for some feature. -/
theorem rendered_of_fresh {setting : PipelineSetting} {declarations : List Declaration}
    {after : Pipeline} {prepared : List (Option PreparedUnit)}
    (done : (declarations.mapM prepare).Ends (ofSetting setting) (.ok prepared) after)
    {artifact : Artifact} (emitted : artifact ∈ PreparedUnit.journal (prepared.filterMap id)) :
    ∃ feature artifacts, setting.rendered feature = .ok artifacts ∧ artifact ∈ artifacts := by
  obtain ⟨unit, listed, member⟩ := List.mem_flatMap.mp emitted
  obtain ⟨-, kept⟩ := remembered_of_prepared done (by simpa using listed)
  obtain ⟨result, last, ends, keeps⟩ := mapM_prepare_ends declarations (ofSetting setting)
  obtain ⟨-, rfl⟩ := done.unique ends
  -- What is remembered was rendered under the one setting that there is.
  have rendered := keeps (fun pipeline => pipeline.setting = setting ∧ ∀ key artifacts,
      pipeline.memo.find? key = some artifacts → ∃ feature, setting.rendered feature = .ok artifacts)
    ⟨rfl, fun key artifacts found => by simp [ofSetting] at found⟩ (by
      rintro declaration _ middle ⟨current, earlier⟩
      refine ⟨by rw [setting_afterUnit, current], fun key artifacts found => ?_⟩
      rcases find?_afterUnit found with before | ⟨feature, -, -, rendered⟩
      · exact earlier key artifacts before
      · exact ⟨feature, current ▸ rendered⟩)
  obtain ⟨feature, rendered⟩ := rendered.2 _ _ kept
  exact ⟨feature, _, rendered, member⟩

end Pipeline

/-- A file that is refused has no plain name, or the disk does not take it. -/
theorem DirectorySink.fault_of_put {directory : Path} {disk : Disk} {artifact : Artifact} {fault : Fault}
    (refused : put directory disk artifact = .error fault) :
    (fault = .config (.notAFileName artifact.fileName) ∧
      (Path.mk artifact.fileName).isPlainName = false) ∨ ∃ path refusal, fault = .io path refusal := by
  unfold put at refused
  dsimp only at refused
  split at refused
  · rename_i odd
    exact .inl ⟨(Except.error.inj refused).symm, odd⟩
  right
  split at refused
  · exact absurd refused (by simp)
  unfold replaced at refused
  split at refused
  · exact ⟨_, _, (Except.error.inj refused).symm⟩
  · cases moved : disk.moveInto (directory.child artifact.fileName) artifact.source.toUTF8 with
    | ok after =>
      rw [moved] at refused
      exact absurd refused (by simp [Except.mapError])
    | error refusal =>
      rw [moved] at refused
      exact ⟨_, _, (Except.error.inj refused).symm⟩

namespace Generator

/-- What a new generator can fail at where its scanner finds its files. -/
theorem Ending.fault {disk : Disk} {generator : Generator} {setting : PipelineSetting} {fault : Fault}
    {after : Work} (ending : Ending (disk, generator) (.error fault) after)
    (fresh : generator.pipeline = .ofSetting setting) {files : List Path}
    (found : generator.scanner.discover disk = .ok files) : GenerationFault setting fault := by
  cases ending with
  | unscanned scanned =>
    obtain ⟨path, refusal, rfl⟩ := Scanner.fault_of_scan found scanned
    exact .io path refusal
  | unmade scanned directories => exact .io _ _
  | unprepared scanned directories prepared =>
    rw [fresh] at prepared
    exact Pipeline.fault_of_mapM_prepare prepared
  | unemitted planned directories split emitted refused =>
    obtain ⟨prepared, done, rfl⟩ := planned.prepared
    rw [fresh] at done
    rcases DirectorySink.fault_of_put refused with ⟨rfl, odd⟩ | ⟨path, refusal, rfl⟩
    · obtain ⟨feature, artifacts, rendered, member⟩ := Pipeline.rendered_of_fresh done
        (by rw [split]; exact List.mem_append_right _ List.mem_cons_self)
      exact .fileName rendered member odd
    · exact .io path refusal
  | unsaved planned directories emitted refused => exact .io _ _

theorem ofConfig_spec {disk : Disk} {config : Config} {generator : Generator}
    (made : ofConfig disk config = .ok generator) :
    Scanner.make config.sourceRoots config.includes config.excludes = .ok generator.scanner ∧
      ∃ setting, generator.pipeline = .ofSetting setting := by
  rw [ofConfig, Except.bind_eq_ok] at made
  obtain ⟨scanner, scans, made⟩ := made
  obtain ⟨specs, -, made⟩ := Except.bind_eq_ok.mp made
  obtain ⟨renderer, -, made⟩ := Except.bind_eq_ok.mp made
  obtain rfl := Except.ok.inj made
  exact ⟨scans, _, rfl⟩

/-- What is checked of a configuration cannot fail afterwards. Its scanner can be made and finds its
files; a generator can be refused for its templates only; and the generation fails neither for a pattern
nor for a setting, except that a rendered file name may not be a plain one. -/
theorem run_of_valid_config {config : Config} {disk : Disk} (valid : config.problem? disk = none) :
    (∃ scanner files, Scanner.make config.sourceRoots config.includes config.excludes = .ok scanner ∧
      scanner.discover disk = .ok files) ∧
    (∀ fault, ofConfig disk config = .error fault →
      (∃ template ∈ config.templates, disk.readText template.path = .error .notText ∧
        fault = .io template.path .notText) ∨
      ∃ specs, (config.templates.mapM fun template =>
          TemplateSpec.ofFile disk template.path template.fileName) = .ok specs ∧
        ∃ spec ∈ specs, ∃ problem, fault = .template spec.name problem) ∧
    ∀ generator, ofConfig disk config = .ok generator →
      ∀ fault, (generate.perform (disk, generator)).1 = .error fault →
        (∀ pattern, fault ≠ .glob pattern) ∧
        ∀ problem, fault = .config problem → ∃ feature artifacts artifact,
          generator.pipeline.setting.rendered feature = .ok artifacts ∧ artifact ∈ artifacts ∧
          problem = .notAFileName artifact.fileName ∧
          (Path.mk artifact.fileName).isPlainName = false := by
  have sound := Config.problem?_eq_none_iff.mp valid
  obtain ⟨scanner, files, scans, found⟩ := sound.discover
  refine ⟨⟨scanner, files, scans, found⟩, fun fault failed => sound.fault_of_ofConfig failed, ?_⟩
  intro generator made fault failed
  obtain ⟨scans', setting, fresh⟩ := ofConfig_spec made
  obtain rfl := Except.ok.inj (scans.symm.trans scans')
  rcases performed : generate.perform (disk, generator) with ⟨result, after, reports⟩
  rw [performed] at failed
  obtain rfl : result = .error fault := failed
  have left := (ending_of_ends (blind_generate.ends performed)).fault fresh found
  rw [fresh]
  cases left with
  | io path refusal => exact ⟨by simp, by simp⟩
  | template name problem => exact ⟨by simp, by simp⟩
  | invalidSource fileName errors => exact ⟨by simp, by simp⟩
  | stuck rendered member wanted stuck => exact ⟨by simp, by simp⟩
  | fileName rendered member odd =>
    refine ⟨by simp, fun problem same => ⟨_, _, _, rendered, member, ?_, odd⟩⟩
    exact (Fault.config.inj same).symm

/-- A template in a directory of its own passes the check, and its generation fails at the name. -/
theorem nested_of_valid_config :
    let disk : Disk := ⟨[(["orders.rs"], .file "struct OrderAggregate;".toUTF8),
      (["unit.tera"], .file "mod order;".toUTF8)], []⟩
    let config : Config := { Config.default with
      sourceRoots := [⟨"orders.rs"⟩], templates := [⟨⟨"unit.tera"⟩, "more/Order.g.rs"⟩] }
    config.problem? disk = none ∧ ∃ generator, ofConfig disk config = .ok generator ∧
      (generate.perform (disk, generator)).1 = .error (.config (.notAFileName "more/Order.g.rs")) ∧
      ∃ feature artifacts artifact,
        generator.pipeline.setting.rendered feature = .ok artifacts ∧ artifact ∈ artifacts ∧
        artifact.fileName = "more/Order.g.rs" := by
  intro disk config
  have valid : config.problem? disk = none := by decide +kernel
  have ended : ((ofConfig disk config).toOption.map fun generator =>
      (generate.perform (disk, generator)).1.map fun _ => ()) =
        some (.error (.config (.notAFileName "more/Order.g.rs"))) := by decide +kernel
  obtain ⟨generator, made, failed⟩ := Option.map_eq_some_iff.mp ended
  have made := Except.toOption_eq_some_iff.mp made
  have failed : (generate.perform (disk, generator)).1 =
      .error (.config (.notAFileName "more/Order.g.rs")) := by
    cases result : (generate.perform (disk, generator)).1 with
    | ok summary => simp [result, Except.map] at failed
    | error fault =>
      rw [result] at failed
      exact congrArg _ (Except.error.inj failed)
  obtain ⟨feature, artifacts, artifact, rendered, member, named, -⟩ :=
    ((run_of_valid_config valid).2.2 generator made _ failed).2 _ rfl
  exact ⟨valid, generator, made, failed, feature, artifacts, artifact, rendered, member,
    (ConfigFault.notAFileName.inj named).symm⟩

end Generator

end Scaffold
