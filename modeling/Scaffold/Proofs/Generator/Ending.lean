import Scaffold.Proofs.Generator.Recording

/-! All the ways in which a generation ends, with the disk that each of them leaves. A failure leaves
what was done before it: at most new directories and the files that were emitted before the one that
was refused. The manifest is not touched then, and nothing is removed. -/

namespace Scaffold

open Disk Path

namespace DirectorySink

/-- An emission that fails stops at the first file that is refused. -/
theorem emitAll_ends_error {sink : DirectorySink} {disk : Disk} {after : Disk × DirectorySink}
    {journal : Journal} {fault : Fault}
    (ends : (DirectorySink.sink.emitAll journal).Ends (disk, sink) (.error fault) after) :
    ∃ done artifact rest, journal = done ++ artifact :: rest ∧
      putAll sink.directory disk done = .ok after.1 ∧
      put sink.directory after.1 artifact = .error fault := by
  induction journal generalizing disk sink with
  | nil => exact absurd (ends.unique (Task.ends_pure _ _)).1 (by simp)
  | cons artifact rest ih =>
    rw [Sink.emitAll_cons] at ends
    have step := emit_ends artifact disk sink
    cases first : put sink.directory disk artifact with
    | error refused =>
      rw [first] at step
      obtain ⟨same, rfl⟩ := ends.unique step.bind_error
      obtain rfl := Except.error.inj same
      exact ⟨[], artifact, rest, rfl, rfl, first⟩
    | ok middle =>
      rw [first] at step
      obtain ⟨result, last, others⟩ := @Sink.blind_emitAll _ DirectorySink.sink blind_emit rest
        (middle, sink.noted artifact)
      obtain ⟨rfl, rfl⟩ := ends.unique (step.bind others)
      obtain ⟨done, refused, later, rfl, stored, failed⟩ := ih others
      exact ⟨artifact :: done, refused, later, rfl, by rw [putAll_cons, first]; exact stored, failed⟩

end DirectorySink

namespace Manifest

/-- Where no manifest is found nothing is removed. -/
theorem removal_ends_of_nothing_stored {directory : Path} {disk : Disk} (manifest : Manifest)
    (cleanOrphans : Bool) (missing : stored? disk directory = none) :
    (manifest.removal directory cleanOrphans).Ends disk (.ok []) disk := by
  have loads := previousManifest_ends directory disk
  rw [missing] at loads
  exact loads.bind (Task.ends_pure _ _)

/-- A manifest that cannot be saved replaces none, so that nothing was removed before. -/
theorem updateManifest_ends_error {manifest : Manifest} {directory : Path} {cleanOrphans : Bool}
    {before after : Disk} {fault : Fault}
    (ends : (Generator.updateManifest manifest directory cleanOrphans).Ends before (.error fault)
      after) :
    after = before ∧ ∃ refusal, fault = .io (pathIn directory) refusal ∧
      before.write (pathIn directory) manifest.print.toUTF8 = .error refusal := by
  rw [updateManifest_eq] at ends
  cases stored : stored? before directory with
  | none =>
    have done := removal_ends_of_nothing_stored manifest cleanOrphans stored
    have saved := save_ends manifest directory before
    cases written : before.write (pathIn directory) manifest.print.toUTF8 with
    | ok last =>
      rw [written] at saved
      exact absurd (ends.unique (done.bind (saved.bind (Task.ends_pure _ _)))).1 (by simp)
    | error refusal =>
      rw [written] at saved
      obtain ⟨same, rfl⟩ := ends.unique (done.bind saved.bind_error)
      exact ⟨rfl, refusal, Except.error.inj same, rfl⟩
  | some previous =>
    -- The file that was read as manifest can be written again.
    obtain ⟨text, -, found, -⟩ := stored?_spec stored
    obtain ⟨room, place, leads, entry⟩ := readText_pathIn_iff.mp found
    obtain ⟨removed, last, updated⟩ :=
      exists_updateManifest_ends manifest cleanOrphans leads room (by simp [entry])
    rw [updateManifest_eq] at updated
    exact absurd (ends.unique updated).1 (by simp)

end Manifest

namespace Generator

/-- What a generation had done when it ended. -/
inductive Ending (before : Work) : Except Fault GenerationSummary → Work → Prop
  | unscanned {fault : Fault} {scanner : Scanner}
      (scanned : (Scanner.scan before.1).Ends before.2.scanner (.error fault) scanner) :
      Ending before (.error fault) (before.1, { before.2 with scanner })
  | unmade {outcome : ScanOutcome} {scanner : Scanner} {refusal : Refusal} {made : Disk}
      (scanned : (Scanner.scan before.1).Ends before.2.scanner (.ok outcome) scanner)
      (directories : before.1.makeDirectories before.2.outDir = (.error refusal, made)) :
      Ending before (.error (.io before.2.outDir refusal)) (made, { before.2 with scanner })
  | unprepared {outcome : ScanOutcome} {scanner : Scanner} {made : Disk} {fault : Fault}
      {pipeline : Pipeline}
      (scanned : (Scanner.scan before.1).Ends before.2.scanner (.ok outcome) scanner)
      (directories : before.1.makeDirectories before.2.outDir = (.ok (), made))
      (prepared : (outcome.declarations.mapM Pipeline.prepare).Ends before.2.pipeline (.error fault)
        pipeline) :
      Ending before (.error fault) (made, { before.2 with scanner, pipeline })
  | unemitted {outcome : ScanOutcome} {units : List PreparedUnit} {generator : Generator}
      {made written : Disk} {done rest : Journal} {artifact : Artifact} {fault : Fault}
      (planned : Planned before.1 before.2 outcome units generator)
      (directories : before.1.makeDirectories before.2.outDir = (.ok (), made))
      (split : PreparedUnit.journal units = done ++ artifact :: rest)
      (emitted : DirectorySink.putAll before.2.outDir made done = .ok written)
      (refused : DirectorySink.put before.2.outDir written artifact = .error fault) :
      Ending before (.error fault) (written, generator)
  | unsaved {outcome : ScanOutcome} {units : List PreparedUnit} {generator : Generator}
      {made written : Disk} {refusal : Refusal}
      (planned : Planned before.1 before.2 outcome units generator)
      (directories : before.1.makeDirectories before.2.outDir = (.ok (), made))
      (emitted : DirectorySink.putAll before.2.outDir made (PreparedUnit.journal units) = .ok written)
      (refused : written.write (Manifest.pathIn before.2.outDir)
        (unitManifest before.2.pipeline.setting units).print.toUTF8 = .error refusal) :
      Ending before (.error (.io (Manifest.pathIn before.2.outDir) refusal)) (written, generator)
  | finished {summary : GenerationSummary} {outcome : ScanOutcome} {units : List PreparedUnit}
      {made written : Disk} {after : Work}
      (generated : Generated before summary outcome units made written after) :
      Ending before (.ok summary) after

section Running

variable {σ : Type} {sink : Sink (Disk × σ)} (blind : ∀ name text, (sink.emit name text).Blind)

include blind

/-- A run that fails does so while it prepares, or while it emits. -/
theorem run_ends_error {declarations : List Declaration} {before after : Pipeline × (Disk × σ)}
    {fault : Fault} (ends : (Pipeline.run sink declarations).Ends before (.error fault) after) :
    ((declarations.mapM Pipeline.prepare).Ends before.1 (.error fault) after.1 ∧
      after.2 = before.2) ∨
    ∃ prepared, (declarations.mapM Pipeline.prepare).Ends before.1 (.ok prepared) after.1 ∧
      (sink.emitAll (PreparedUnit.journal (prepared.filterMap id))).Ends before.2 (.error fault)
        after.2 := by
  obtain ⟨pipeline, state⟩ := before
  obtain ⟨result, pipeline', done⟩ := Pipeline.blind_mapM_prepare declarations pipeline
  cases result with
  | error refused =>
    obtain ⟨same, rfl⟩ := ends.unique (Pipeline.run_ends_of_unprepared done sink state)
    obtain rfl := Except.error.inj same
    exact .inl ⟨done, rfl⟩
  | ok prepared =>
    obtain ⟨emission, state', emitted⟩ :=
      Sink.blind_emitAll blind (PreparedUnit.journal (prepared.filterMap id)) state
    obtain ⟨same, rfl⟩ := ends.unique (Pipeline.run_ends_of_prepared done emitted)
    cases emission with
    | error refused =>
      obtain rfl := Except.error.inj same
      exact .inr ⟨prepared, done, emitted⟩
    | ok _ => contradiction

theorem runInto_ends_error {start : σ} {declarations : List Declaration} {disk : Disk}
    {generator : Generator} {fault : Fault} {after : Work}
    (ends : (runInto sink start declarations).Ends (disk, generator) (.error fault) after) :
    (∃ pipeline, (declarations.mapM Pipeline.prepare).Ends generator.pipeline (.error fault) pipeline ∧
      after = (disk, { generator with pipeline })) ∨
    ∃ prepared pipeline state, (declarations.mapM Pipeline.prepare).Ends generator.pipeline
        (.ok prepared) pipeline ∧
      (sink.emitAll (PreparedUnit.journal (prepared.filterMap id))).Ends (disk, start) (.error fault)
        (after.1, state) ∧
      after.2 = { generator with pipeline } := by
  obtain ⟨result, ⟨pipeline, disk', state⟩, ran⟩ :=
    Pipeline.blind_run blind declarations (generator.pipeline, (disk, start))
  obtain ⟨same, rfl⟩ := ends.unique (runInto_of_run ran)
  cases result with
  | ok report => contradiction
  | error refused =>
    obtain rfl := Except.error.inj same
    rcases run_ends_error blind ran with ⟨failed, same⟩ | ⟨prepared, done, emitted⟩
    · obtain ⟨rfl, rfl⟩ := Prod.mk.inj same
      exact .inl ⟨pipeline, failed, rfl⟩
    · exact .inr ⟨prepared, pipeline, state, done, emitted, rfl⟩

end Running

theorem ending_of_ends {before after : Work} {result : Except Fault GenerationSummary}
    (ends : generate.Ends before result after) : Ending before result after := by
  obtain ⟨disk, generator⟩ := before
  obtain ⟨scan, scanner, scanned⟩ := Scanner.blind_scan disk generator.scanner
  cases scan with
  | error refused =>
    obtain ⟨rfl, rfl⟩ := ends.unique (scan_ends_error scanned).bind_error
    exact .unscanned scanned
  | ok outcome =>
  have begun := scan_ends_ok scanned
  have making := DirectorySink.make_ends generator.outDir disk
  rcases directories : disk.makeDirectories generator.outDir with ⟨refusal | ⟨⟩, made⟩
  · rw [directories] at making
    obtain ⟨rfl, rfl⟩ := ends.unique (begun.bind ((Task.ends_current _).bind
      making.onFirst.bind_error))
    exact .unmade scanned directories
  rw [directories] at making
  have blind : ∀ name text, (DirectorySink.sink.emit name text).Blind := DirectorySink.blind_emit
  obtain ⟨run, ⟨written, generator'⟩, ran⟩ := blind_runInto blind ⟨generator.outDir, .empty⟩
    outcome.declarations (made, { generator with scanner })
  cases run with
  | error refused =>
    obtain ⟨rfl, rfl⟩ := ends.unique (begun.bind ((Task.ends_current _).bind
      (making.onFirst.bind ran.bind_error)))
    rcases runInto_ends_error blind ran with ⟨pipeline, failed, same⟩ |
      ⟨prepared, pipeline, state, done, emitted, rfl⟩
    · obtain ⟨rfl, rfl⟩ := Prod.mk.inj same
      exact .unprepared scanned directories failed
    · obtain ⟨before, artifact, rest, split, stored, refused⟩ :=
        DirectorySink.emitAll_ends_error emitted
      exact .unemitted ⟨scanned, ⟨prepared, done, rfl⟩, rfl, rfl⟩ directories split stored refused
  | ok result =>
    obtain ⟨report, sink⟩ := result
    obtain ⟨prepared, pipeline, done, emitted, rfl, rfl⟩ := of_runInto_ends blind ran
    obtain ⟨stored, rfl⟩ := DirectorySink.putAll_of_emitAll_ends emitted
    have planned : Planned disk generator outcome (prepared.filterMap id)
        { generator with scanner, pipeline } := ⟨scanned, ⟨prepared, done, rfl⟩, rfl, rfl⟩
    have setting : pipeline.setting = generator.pipeline.setting := planned.setting
    obtain ⟨update, disk', updated⟩ := blind_updateManifest
      (unitManifest pipeline.setting (prepared.filterMap id)) generator.outDir generator.cleanOrphans
      written
    have updated' := updated
    rw [unitManifest, ← DirectorySink.emitted_foldl_noted ⟨generator.outDir, .empty⟩] at updated'
    rw [setting] at updated
    cases update with
    | ok removed =>
      obtain ⟨rfl, rfl⟩ := ends.unique (begun.bind ((Task.ends_current _).bind (making.onFirst.bind
        (ran.bind ((Task.ends_current _).bind (updated'.onFirst.bind (Task.ends_pure _ _)))))))
      exact .finished ⟨planned, directories, stored, updated, rfl⟩
    | error refused =>
      obtain ⟨rfl, rfl⟩ := ends.unique (begun.bind ((Task.ends_current _).bind (making.onFirst.bind
        (ran.bind ((Task.ends_current _).bind (Task.Ends.bind_error updated'.onFirst))))))
      obtain ⟨rfl, refusal, rfl, refused⟩ := Manifest.updateManifest_ends_error updated
      exact .unsaved planned directories stored refused

/-- A successful generation went through all its stages. -/
theorem generated_of_ends {before after : Work} {summary : GenerationSummary}
    (ends : generate.Ends before (.ok summary) after) :
    ∃ outcome units made written, Generated before summary outcome units made written after := by
  cases ending_of_ends ends with
  | finished generated => exact ⟨_, _, _, _, generated⟩

/-- A failed generation emitted some of the files of its rehearsal, and did nothing else. -/
theorem Ending.failure {before after : Work} {fault : Fault} (ending : Ending before (.error fault) after) :
    ∃ made done, Grown before.1 made ∧ DirectorySink.putAll before.2.outDir made done = .ok after.1 ∧
      (done = [] ∨ ∃ report rest, (rehearse.perform before).1 = .ok (report, done ++ rest)) := by
  cases ending with
  | unscanned scanned => exact ⟨before.1, [], .refl _, rfl, .inl rfl⟩
  | unmade scanned directories =>
    exact ⟨_, [], grown_makeDirectories directories, rfl, .inl rfl⟩
  | unprepared scanned directories prepared =>
    exact ⟨_, [], grown_makeDirectories directories, rfl, .inl rfl⟩
  | @unemitted outcome units generator made written done rest artifact fault planned directories split
      emitted refused =>
    obtain ⟨reports, performed⟩ := (rehearse_ends planned).perform
    exact ⟨made, done, grown_makeDirectories directories, emitted,
      .inr ⟨_, artifact :: rest, (congrArg Prod.fst performed).trans (by rw [split])⟩⟩
  | unsaved planned directories emitted refused =>
    obtain ⟨reports, performed⟩ := (rehearse_ends planned).perform
    exact ⟨_, _, grown_makeDirectories directories, emitted,
      .inr ⟨_, [], (congrArg Prod.fst performed).trans (by rw [List.append_nil])⟩⟩

end Generator

end Scaffold
