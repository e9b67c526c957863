import Scaffold.Proofs.Disk.Making
import Scaffold.Proofs.Manifest.Update
import Scaffold.Proofs.Pipeline.Run
import Scaffold.Proofs.Scanner
import Scaffold.Proofs.Sink.Directory

/-! The stages of generation, of a check and of a rehearsal. All of them begin with the same plan: a
scan, and the units of what it found. -/

namespace Scaffold.Generator

open Disk Path

/-- The files that a generation would emit, in order, with its report. Nothing is written. -/
def rehearse : Task Fault Work (GenerationReport × Journal) := do
  let outcome ← scan
  runInto (besideDisk Journal.sink) [] outcome.declarations

/-- A scan of a disk, and the units that are prepared from it. -/
structure Planned (disk : Disk) (before : Generator) (outcome : ScanOutcome)
    (units : List PreparedUnit) (after : Generator) : Prop where
  scanned : (Scanner.scan disk).Ends before.scanner (.ok outcome) after.scanner
  prepared : ∃ prepared, (outcome.declarations.mapM Pipeline.prepare).Ends before.pipeline
    (.ok prepared) after.pipeline ∧ units = prepared.filterMap id
  outDir : after.outDir = before.outDir
  cleanOrphans : after.cleanOrphans = before.cleanOrphans

theorem Planned.setting {disk : Disk} {before after : Generator} {outcome : ScanOutcome}
    {units : List PreparedUnit} (planned : Planned disk before outcome units after) :
    after.pipeline.setting = before.pipeline.setting := by
  obtain ⟨prepared, ends, -⟩ := planned.prepared
  exact (Pipeline.extends_of_mapM_prepare ends).setting

/-! ### Scanning and running -/

theorem scan_ends_error {disk : Disk} {generator : Generator} {scanner : Scanner} {fault : Fault}
    (ends : (Scanner.scan disk).Ends generator.scanner (.error fault) scanner) :
    scan.Ends (disk, generator) (.error fault) (disk, { generator with scanner }) :=
  (Task.ends_current _).bind (Task.Ends.onSecond (Task.Ends.zoom ends))

theorem scan_ends_ok {disk : Disk} {generator : Generator} {scanner : Scanner} {outcome : ScanOutcome}
    (ends : (Scanner.scan disk).Ends generator.scanner (.ok outcome) scanner) :
    scan.Ends (disk, generator) (.ok outcome) (disk, { generator with scanner }) :=
  (Task.ends_current _).bind (Task.Ends.onSecond (Task.Ends.zoom ends))

theorem blind_scan : scan.Blind :=
  Task.blind_current.bind fun (disk, _) => (Scanner.blind_scan disk).zoom.zoom

section Running

variable {σ : Type} {sink : Sink (Disk × σ)} (blind : ∀ name text, (sink.emit name text).Blind)

include blind

theorem blind_runInto (start : σ) (declarations : List Declaration) :
    (runInto sink start declarations).Blind := (Pipeline.blind_run blind declarations).zoom.withLocal

omit blind in
theorem runInto_of_run {start state : σ} {declarations : List Declaration} {disk disk' : Disk}
    {generator : Generator} {pipeline : Pipeline} {result : Except Fault GenerationReport}
    (ran : (Pipeline.run sink declarations).Ends (generator.pipeline, (disk, start)) result
      (pipeline, (disk', state))) :
    (runInto sink start declarations).Ends (disk, generator) (result.map (·, state))
      (disk', { generator with pipeline }) :=
  Task.Ends.withLocal
    (@Task.Ends.zoom _ _ _ _ _ _ _ ((disk, generator), start) (pipeline, (disk', state)) _ ran)

theorem runInto_ends {start state : σ} {declarations : List Declaration} {disk disk' : Disk}
    {generator : Generator} {pipeline : Pipeline} {prepared : List (Option PreparedUnit)}
    (done : (declarations.mapM Pipeline.prepare).Ends generator.pipeline (.ok prepared) pipeline)
    (emitted : (sink.emitAll (PreparedUnit.journal (prepared.filterMap id))).Ends (disk, start)
      (.ok ()) (disk', state)) :
    (runInto sink start declarations).Ends (disk, generator)
      (.ok (.ofUnits declarations.length (prepared.filterMap id), state))
      (disk', { generator with pipeline }) := by
  have ran : (Pipeline.run sink declarations).Ends (generator.pipeline, (disk, start))
      (.ok (.ofUnits declarations.length (prepared.filterMap id))) (pipeline, (disk', state)) :=
    (Pipeline.run_ends_iff blind).mpr ⟨prepared, done, emitted, rfl⟩
  exact runInto_of_run ran

/-- What a run into a sink did, if it was successful. -/
theorem of_runInto_ends {start state : σ} {declarations : List Declaration} {disk : Disk}
    {generator : Generator} {report : GenerationReport} {after : Work}
    (ends : (runInto sink start declarations).Ends (disk, generator) (.ok (report, state)) after) :
    ∃ prepared pipeline, (declarations.mapM Pipeline.prepare).Ends generator.pipeline (.ok prepared)
        pipeline ∧
      (sink.emitAll (PreparedUnit.journal (prepared.filterMap id))).Ends (disk, start) (.ok ())
        (after.1, state) ∧
      report = .ofUnits declarations.length (prepared.filterMap id) ∧
      after.2 = { generator with pipeline } := by
  obtain ⟨⟨pipeline, last⟩, ran, same⟩ :=
    (ends.of_withLocal (Pipeline.blind_run blind declarations).zoom).of_zoom (Pipeline.blind_run blind declarations)
  obtain ⟨prepared, done, emitted, made⟩ := (Pipeline.run_ends_iff blind).mp ran
  simp only [Prod.mk.injEq] at same
  obtain ⟨rfl, rfl⟩ := same
  exact ⟨prepared, pipeline, done, emitted, made, rfl⟩

end Running

/-! ### Sinks beside a disk -/

theorem blind_besideDisk {σ : Type} {sink : Sink σ} (blind : ∀ name text, (sink.emit name text).Blind)
    (name text : String) : ((besideDisk sink).emit name text).Blind := by
  rintro ⟨disk, state⟩
  obtain ⟨result, after, ends⟩ := blind name text state
  exact ⟨_, _, ends.onSecond⟩

theorem emitAll_besideDisk_ends {σ : Type} {sink : Sink σ}
    (blind : ∀ name text, (sink.emit name text).Blind) {journal : Journal} {before after : σ}
    {result : Except Fault Unit} (ends : (sink.emitAll journal).Ends before result after)
    (disk : Disk) : ((besideDisk sink).emitAll journal).Ends (disk, before) result (disk, after) := by
  induction journal generalizing before with
  | nil =>
    obtain ⟨rfl, rfl⟩ := ends.unique (Task.ends_pure _ _)
    exact Task.ends_pure _ _
  | cons artifact rest ih =>
    obtain ⟨first, middle, begun⟩ := blind artifact.fileName artifact.source before
    cases first with
    | error fault =>
      obtain ⟨rfl, rfl⟩ := ends.unique begun.bind_error
      exact begun.onSecond.bind_error
    | ok _ =>
      obtain ⟨later, last, done⟩ := Sink.blind_emitAll blind rest middle
      obtain ⟨rfl, rfl⟩ := ends.unique (begun.bind done)
      exact begun.onSecond.bind (ih done)

theorem blind_emit_journal (name text : String) : ((besideDisk Journal.sink).emit name text).Blind :=
  blind_besideDisk Journal.blind_emit name text

theorem blind_emit_memory (name text : String) : ((besideDisk MemorySink.sink).emit name text).Blind :=
  blind_besideDisk MemorySink.blind_emit name text

/-! ### Rehearsal -/

theorem blind_rehearse : rehearse.Blind :=
  blind_scan.bind fun outcome => blind_runInto blind_emit_journal [] outcome.declarations

/-- A rehearsal gives the report of a plan and the files of its units. -/
theorem rehearse_ends {disk : Disk} {before after : Generator} {outcome : ScanOutcome}
    {units : List PreparedUnit} (planned : Planned disk before outcome units after) :
    rehearse.Ends (disk, before)
      (.ok (.ofUnits outcome.declarations.length units, PreparedUnit.journal units)) (disk, after) := by
  obtain ⟨scanner', pipeline', outDir', cleanOrphans'⟩ := after
  obtain ⟨prepared, done, rfl⟩ := planned.prepared
  obtain rfl : outDir' = before.outDir := planned.outDir
  obtain rfl : cleanOrphans' = before.cleanOrphans := planned.cleanOrphans
  have emitted := emitAll_besideDisk_ends Journal.blind_emit
    (Journal.emitAll_ends (PreparedUnit.journal (prepared.filterMap id)) []) disk
  have ran := @runInto_ends _ _ blind_emit_journal _ _ _ _ _
    { before with scanner := scanner' } _ _ done emitted
  exact (scan_ends_ok planned.scanned).bind ran

/-- Of a plan there is one rehearsal only. -/
theorem rehearsal_of_planned {before after : Work} {outcome : ScanOutcome}
    {units : List PreparedUnit} {report : GenerationReport} {journal : Journal}
    {reports : List Warning} {generator : Generator}
    (planned : Planned before.1 before.2 outcome units generator)
    (rehearsed : rehearse.perform before = (.ok (report, journal), after, reports)) :
    report = .ofUnits outcome.declarations.length units ∧ journal = PreparedUnit.journal units := by
  obtain ⟨same, -⟩ := (blind_rehearse.ends rehearsed).unique (rehearse_ends planned)
  exact Prod.mk.inj (Except.ok.inj same)

/-- A rehearsal that succeeds is that of a plan. -/
theorem planned_of_rehearsal {before : Work} {report : GenerationReport} {journal : Journal}
    (rehearsed : (rehearse.perform before).1 = .ok (report, journal)) :
    ∃ outcome units after, Planned before.1 before.2 outcome units after ∧
      report = .ofUnits outcome.declarations.length units ∧ journal = PreparedUnit.journal units := by
  rcases performed : rehearse.perform before with ⟨result, after, reports⟩
  rw [performed] at rehearsed
  obtain rfl : result = .ok (report, journal) := rehearsed
  have ends := blind_rehearse.ends performed
  obtain ⟨result, scanner, scanned⟩ := Scanner.blind_scan before.1 before.2.scanner
  cases result with
  | error fault => exact absurd (ends.unique (scan_ends_error scanned).bind_error).1 (by simp)
  | ok outcome =>
    obtain ⟨result, last, ran⟩ := blind_runInto blind_emit_journal [] outcome.declarations
      (before.1, { before.2 with scanner })
    cases result with
    | error fault => exact absurd (ends.unique ((scan_ends_ok scanned).bind ran)).1 (by simp)
    | ok result =>
      obtain ⟨prepared, pipeline, done, -⟩ := of_runInto_ends blind_emit_journal ran
      have planned : Planned before.1 before.2 outcome (prepared.filterMap id)
          { before.2 with scanner, pipeline } := ⟨scanned, ⟨prepared, done, rfl⟩, rfl, rfl⟩
      exact ⟨outcome, _, _, planned, rehearsal_of_planned planned performed⟩

/-! ### Generation -/

theorem blind_updateManifest (manifest : Manifest) (directory : Path) (cleanOrphans : Bool) :
    (updateManifest manifest directory cleanOrphans).Blind := by
  intro disk
  have done : ∃ removed middle,
      (manifest.removal directory cleanOrphans).Ends disk (.ok removed) middle := by
    by_cases found : ∃ place, disk.Leads directory place
    · obtain ⟨place, leads⟩ := found
      obtain ⟨middle, done, -⟩ := Manifest.removal_ends manifest cleanOrphans leads
      exact ⟨_, middle, done⟩
    · exact ⟨_, _, Manifest.removal_ends_of_not_leads manifest cleanOrphans (not_exists.mp found)⟩
  obtain ⟨removed, middle, done⟩ := done
  have saved := Manifest.save_ends manifest directory middle
  rw [Manifest.updateManifest_eq]
  split at saved
  · exact ⟨_, _, done.bind (saved.bind (Task.ends_pure _ _))⟩
  · exact ⟨_, _, done.bind saved.bind_error⟩

/-- The manifest that is recorded for some units. -/
def unitManifest (setting : PipelineSetting) (units : List PreparedUnit) : Manifest :=
  manifestOf setting (.ofUnits 0 units) (DirectorySink.digests (PreparedUnit.journal units) .empty)

/-- What a successful generation did, stage by stage. -/
structure Generated (before : Work) (summary : GenerationSummary) (outcome : ScanOutcome)
    (units : List PreparedUnit) (made written : Disk) (after : Work) : Prop where
  planned : Planned before.1 before.2 outcome units after.2
  directories : before.1.makeDirectories before.2.outDir = (.ok (), made)
  emitted : DirectorySink.putAll before.2.outDir made (PreparedUnit.journal units) = .ok written
  updated : (updateManifest (unitManifest before.2.pipeline.setting units) before.2.outDir
    before.2.cleanOrphans).Ends written (.ok summary.removed) after.1
  summary : summary = ⟨.ofUnits outcome.declarations.length units, outcome.files, outcome.parsed,
    outcome.reused, outcome.skipped.map (·.1), summary.removed⟩

theorem Generated.report {before after : Work} {summary : GenerationSummary} {outcome : ScanOutcome}
    {units : List PreparedUnit} {made written : Disk}
    (generated : Generated before summary outcome units made written after) :
    summary.report = .ofUnits outcome.declarations.length units := by
  rw [generated.summary]

theorem generate_ends {before after : Work} {summary : GenerationSummary} {outcome : ScanOutcome}
    {units : List PreparedUnit} {made written : Disk}
    (generated : Generated before summary outcome units made written after) :
    generate.Ends before (.ok summary) after := by
  obtain ⟨disk, generator⟩ := before
  obtain ⟨disk', ⟨scanner', pipeline', outDir', cleanOrphans'⟩⟩ := after
  obtain ⟨prepared, done, rfl⟩ := generated.planned.prepared
  obtain rfl : outDir' = generator.outDir := generated.planned.outDir
  obtain rfl : cleanOrphans' = generator.cleanOrphans := generated.planned.cleanOrphans
  have setting : pipeline'.setting = generator.pipeline.setting := generated.planned.setting
  have scanned := scan_ends_ok generated.planned.scanned
  have making := DirectorySink.make_ends generator.outDir disk
  rw [generated.directories] at making
  have emitted := @DirectorySink.emitAll_ends_of_putAll ⟨generator.outDir, .empty⟩ _ _ _
    generated.emitted
  have ran := @runInto_ends _ _ DirectorySink.blind_emit _ _ _ _ _
    { generator with scanner := scanner' } _ _ done emitted
  have updated := generated.updated
  rw [unitManifest, ← setting] at updated
  rw [generated.summary]
  refine scanned.bind ((Task.ends_current _).bind (making.onFirst.bind (ran.bind
    ((Task.ends_current _).bind (Task.Ends.bind (Task.Ends.onFirst ?_) (Task.ends_pure _ _))))))
  rw [DirectorySink.emitted_foldl_noted]
  exact updated

theorem blind_generate : generate.Blind := by
  refine blind_scan.bind fun outcome => Task.blind_current.bind fun work => Task.Blind.bind ?_ ?_
  · refine Task.Blind.zoom fun disk => ?_
    have making := DirectorySink.make_ends work.2.outDir disk
    split at making
    · exact ⟨_, _, making⟩
    · exact ⟨_, _, making⟩
  · intro start
    have blind : ∀ name text, (DirectorySink.sink.emit name text).Blind := DirectorySink.blind_emit
    exact (blind_runInto blind start outcome.declarations).bind fun result =>
      Task.blind_current.bind fun work => (blind_updateManifest _ _ _).zoom.bind fun removed =>
        Task.blind_pure _

/-! ### Checks -/

/-- The last text of each name among the files of some units. -/
def texts (units : List PreparedUnit) : MemorySink :=
  (PreparedUnit.journal units).foldl
    (fun texts artifact => texts.insert artifact.fileName artifact.source) .empty

theorem find?_texts (units : List PreparedUnit) (name : String) :
    (texts units).find? name = lastText? (PreparedUnit.journal units) name := by
  rw [texts, find?_foldl_artifacts]
  simp

theorem compareUnit_ok {disk : Disk} {outDir : Path} {name expected actual : String}
    (found : disk.readText (outDir.child name) = .ok actual) :
    compareUnit disk outDir name expected = if actual = expected then .ok none else
      .ok (some (.changed name (Diff.unified (name ++ " (on disk)") (name ++ " (generated)") actual
        expected))) := by
  unfold compareUnit
  dsimp only
  rw [found]

theorem compareUnit_error {disk : Disk} {outDir : Path} {name expected : String} {refusal : Refusal}
    (failed : disk.readText (outDir.child name) = .error refusal) :
    compareUnit disk outDir name expected =
      if refusal = .notFound then .ok (some (.missing name))
      else .error (.io (outDir.child name) refusal) := by
  unfold compareUnit
  dsimp only
  rw [failed]
  cases refusal <;> rfl

/-- A comparison that succeeds finds no file, a file with another text, or nothing to tell. -/
theorem compareUnit_spec {disk : Disk} {outDir : Path} {name expected : String} {found : Option Drift}
    (compared : compareUnit disk outDir name expected = .ok found) :
    disk.readText (outDir.child name) = .error .notFound ∧ found = some (.missing name) ∨
      ∃ actual, disk.readText (outDir.child name) = .ok actual ∧
        (actual = expected ∧ found = none ∨
          actual ≠ expected ∧ ∃ diff, found = some (.changed name diff)) := by
  cases looked : disk.readText (outDir.child name) with
  | error refusal =>
    rw [compareUnit_error looked] at compared
    split at compared
    · rename_i missing
      exact .inl ⟨by rw [missing], (Except.ok.inj compared).symm⟩
    · contradiction
  | ok actual =>
    rw [compareUnit_ok looked] at compared
    split at compared
    · rename_i same
      exact .inr ⟨actual, rfl, .inl ⟨same, (Except.ok.inj compared).symm⟩⟩
    · rename_i different
      exact .inr ⟨actual, rfl, .inr ⟨different, _, (Except.ok.inj compared).symm⟩⟩

/-- What a successful check did, stage by stage. -/
structure Checked (before : Work) (drift : List Drift) (outcome : ScanOutcome)
    (units : List PreparedUnit) (found : List (Option Drift)) (after : Work) : Prop where
  planned : Planned before.1 before.2 outcome units after.2
  disk : after.1 = before.1
  compared : (texts units).entries.mapM (fun (name, expected) =>
    compareUnit before.1 before.2.outDir name expected) = .ok found
  drift : drift = found.filterMap id ++
    match Manifest.stored? before.1 before.2.outDir with
    | some previous => orphans before.1 before.2.outDir previous
      (GenerationReport.ofUnits outcome.declarations.length units).units
    | none => []

theorem check_ends {before after : Work} {drift : List Drift} {outcome : ScanOutcome}
    {units : List PreparedUnit} {found : List (Option Drift)}
    (checked : Checked before drift outcome units found after) :
    check.Ends before (.ok drift) after := by
  obtain ⟨disk, generator⟩ := before
  obtain ⟨disk', ⟨scanner', pipeline', outDir', cleanOrphans'⟩⟩ := after
  obtain ⟨prepared, done, rfl⟩ := checked.planned.prepared
  obtain rfl : outDir' = generator.outDir := checked.planned.outDir
  obtain rfl : cleanOrphans' = generator.cleanOrphans := checked.planned.cleanOrphans
  obtain rfl : disk' = disk := checked.disk
  have emitted := emitAll_besideDisk_ends MemorySink.blind_emit
    (MemorySink.emitAll_ends (PreparedUnit.journal (prepared.filterMap id)) .empty) disk'
  have ran := @runInto_ends _ _ blind_emit_memory _ _ _ _ _
    { generator with scanner := scanner' } _ _ done emitted
  have compared := Task.ends_mapM_ofExcept (fun (name, expected) =>
    compareUnit disk' generator.outDir name expected) (texts (prepared.filterMap id)).entries
    (disk', (⟨scanner', pipeline', generator.outDir, generator.cleanOrphans⟩ : Generator))
  rw [checked.compared] at compared
  have loads := Manifest.previousManifest_ends generator.outDir disk'
  refine (scan_ends_ok checked.planned.scanned).bind (ran.bind ((Task.ends_current _).bind
    (compared.bind (loads.onFirst.bind ?_))))
  rw [checked.drift]
  dsimp only
  cases Manifest.stored? disk' generator.outDir with
  | some previous => exact Task.ends_pure _ _
  | none =>
    rw [List.append_nil]
    exact Task.ends_pure _ _

/-- A successful check went through all its stages. -/
theorem checked_of_ends {before after : Work} {drift : List Drift}
    (ends : check.Ends before (.ok drift) after) :
    ∃ outcome units found, Checked before drift outcome units found after := by
  obtain ⟨disk, generator⟩ := before
  obtain ⟨result, scanner, scanned⟩ := Scanner.blind_scan disk generator.scanner
  cases result with
  | error fault => exact absurd (ends.unique (scan_ends_error scanned).bind_error).1 (by simp)
  | ok outcome =>
  have begun := scan_ends_ok scanned
  obtain ⟨result, ⟨disk', generator'⟩, ran⟩ := blind_runInto blind_emit_memory .empty
    outcome.declarations (disk, { generator with scanner })
  cases result with
  | error fault => exact absurd (ends.unique (begun.bind ran.bind_error)).1 (by simp)
  | ok result =>
  obtain ⟨report, memory⟩ := result
  obtain ⟨prepared, pipeline, done, emitted, rfl, rfl⟩ := of_runInto_ends blind_emit_memory ran
  obtain ⟨-, same⟩ := emitted.unique
    (emitAll_besideDisk_ends MemorySink.blind_emit
      (MemorySink.emitAll_ends (PreparedUnit.journal (prepared.filterMap id)) .empty) disk)
  simp only [Prod.mk.injEq] at same
  obtain ⟨rfl, rfl⟩ := same
  have comparing := Task.ends_mapM_ofExcept (fun (name, expected) =>
    compareUnit disk' generator.outDir name expected) (texts (prepared.filterMap id)).entries
    (disk', { generator with scanner, pipeline })
  cases compared : (texts (prepared.filterMap id)).entries.mapM fun (name, expected) =>
      compareUnit disk' generator.outDir name expected with
  | error fault =>
    rw [compared] at comparing
    exact absurd (ends.unique (begun.bind (ran.bind ((Task.ends_current _).bind
      comparing.bind_error)))).1 (by simp)
  | ok found =>
    have planned : Planned disk' generator outcome (prepared.filterMap id)
        { generator with scanner, pipeline } := ⟨scanned, ⟨prepared, done, rfl⟩, rfl, rfl⟩
    have checked : Checked (disk', generator) _ outcome _ found
        (disk', { generator with scanner, pipeline }) := ⟨planned, rfl, compared, rfl⟩
    obtain ⟨same, rfl⟩ := ends.unique (check_ends checked)
    obtain rfl := Except.ok.inj same
    exact ⟨outcome, _, found, planned, rfl, compared, rfl⟩

theorem blind_check : check.Blind := by
  refine blind_scan.bind fun outcome => (blind_runInto blind_emit_memory _ _).bind fun result =>
    Task.blind_current.bind fun work => Task.Blind.bind ?_ fun drift => Task.Blind.bind ?_ ?_
  · exact fun state => ⟨_, _, Task.ends_mapM_ofExcept (fun (name, expected) =>
      compareUnit work.1 work.2.outDir name expected) result.2.entries state⟩
  · exact Task.Blind.zoom fun disk => ⟨_, _, Manifest.previousManifest_ends work.2.outDir disk⟩
  · intro previous
    cases previous <;> exact Task.blind_pure _

end Scaffold.Generator
