import Scaffold.Proofs.Generator.Forgetting

/-! A generation that fails does no harm. Whatever it fails at, no file is lost and the manifest stays,
and of its units those are written that were emitted before the one that was refused. -/

namespace Scaffold

open Disk Path

/-- Whether a file can be written does not depend on what is written. -/
theorem Disk.write_eq_error {disk : Disk} {path : Path} {content : ByteArray} {refusal : Refusal}
    (refused : disk.write path content = .error refusal) (other : ByteArray) :
    disk.write path other = .error refusal := by
  unfold write at refused ⊢
  cases located : disk.locate path with
  | error refusal' => simpa [located, bind, Except.bind] using refused
  | ok location =>
    simp only [located, bind, Except.bind] at refused ⊢
    split at refused
    · exact refused
    · contradiction

namespace Generator

/-- Why a generation failed, and the files that it left. Units are emitted in the order of their
declarations, and the files of a unit in the order of their templates. -/
inductive Setback (before : Work) : Fault → Disk → Prop
  | scanning {fault : Fault} {after : Disk}
      (scanned : ((Scanner.scan before.1).perform before.2.scanner).1 = .error fault)
      (stored : Stored before.2.outDir (fun _ => none) before.1 after) : Setback before fault after
  | directory {refusal : Refusal} {after : Disk}
      (made : before.1.makeDirectories before.2.outDir = (.error refusal, after))
      (stored : Stored before.2.outDir (fun _ => none) before.1 after) :
      Setback before (.io before.2.outDir refusal) after
  | preparing {outcome : ScanOutcome} {fault : Fault} {after : Disk}
      (scanned : ((Scanner.scan before.1).perform before.2.scanner).1 = .ok outcome)
      (prepared : ((outcome.declarations.mapM Pipeline.prepare).perform before.2.pipeline).1 =
        .error fault)
      (stored : Stored before.2.outDir (fun _ => none) before.1 after) : Setback before fault after
  | emitting {outcome : ScanOutcome} {found : List (Option PreparedUnit)} {done rest : Journal}
      {artifact : Artifact} {fault : Fault} {after : Disk}
      (scanned : ((Scanner.scan before.1).perform before.2.scanner).1 = .ok outcome)
      (prepared : ((outcome.declarations.mapM Pipeline.prepare).perform before.2.pipeline).1 =
        .ok found)
      (split : PreparedUnit.journal (found.filterMap id) = done ++ artifact :: rest)
      (stored : Stored before.2.outDir (lastText? done) before.1 after)
      (refused : ∀ emitted, ∃ reports,
        (DirectorySink.emit artifact.fileName artifact.source).perform (after, ⟨before.2.outDir, emitted⟩) =
          (.error fault, (after, ⟨before.2.outDir, emitted⟩), reports)) :
      Setback before fault after
  | saving {outcome : ScanOutcome} {found : List (Option PreparedUnit)} {refusal : Refusal}
      {after : Disk}
      (scanned : ((Scanner.scan before.1).perform before.2.scanner).1 = .ok outcome)
      (prepared : ((outcome.declarations.mapM Pipeline.prepare).perform before.2.pipeline).1 =
        .ok found)
      (stored : Stored before.2.outDir (lastText? (PreparedUnit.journal (found.filterMap id)))
        before.1 after)
      (refused : ∀ content, after.write (Manifest.pathIn before.2.outDir) content = .error refusal) :
      Setback before (.io (Manifest.pathIn before.2.outDir) refusal) after

theorem Ending.setback {before after : Work} {fault : Fault}
    (ending : Ending before (.error fault) after) : Setback before fault after.1 := by
  have unchanged : Stored before.2.outDir (fun _ => none) before.1 before.1 :=
    stored_of_grown before.2.outDir (.refl before.1)
  cases ending with
  | unscanned scanned =>
    obtain ⟨reports, performed⟩ := scanned.perform
    exact .scanning (congrArg Prod.fst performed) unchanged
  | unmade scanned directories =>
    exact .directory directories (stored_of_grown _ (grown_makeDirectories directories))
  | unprepared scanned directories prepared =>
    obtain ⟨reports, performed⟩ := scanned.perform
    obtain ⟨reports', performed'⟩ := prepared.perform
    exact .preparing (congrArg Prod.fst performed) (congrArg Prod.fst performed')
      (stored_of_grown _ (grown_makeDirectories directories))
  | @unemitted outcome units generator made written done rest artifact fault planned directories split
      emitted refused =>
    obtain ⟨prepared, ends, rfl⟩ := planned.prepared
    obtain ⟨reports, performed⟩ := planned.scanned.perform
    obtain ⟨reports', performed'⟩ := ends.perform
    refine .emitting (congrArg Prod.fst performed) (congrArg Prod.fst performed') split
      (DirectorySink.stored_of_putAll (grown_makeDirectories directories) emitted) fun recorded => ?_
    have failing := DirectorySink.emit_ends artifact written ⟨before.2.outDir, recorded⟩
    rw [refused] at failing
    exact failing.perform
  | @unsaved outcome units generator made written refusal planned directories emitted refused =>
    obtain ⟨prepared, ends, rfl⟩ := planned.prepared
    obtain ⟨reports, performed⟩ := planned.scanned.perform
    obtain ⟨reports', performed'⟩ := ends.perform
    exact .saving (congrArg Prod.fst performed) (congrArg Prod.fst performed')
      (DirectorySink.stored_of_putAll (grown_makeDirectories directories) emitted)
      (write_eq_error refused)

theorem Setback.fileAt {before : Work} {fault : Fault} {after : Disk} (setback : Setback before fault after)
    {location : Location} (there : before.1.FileAt location) : after.FileAt location := by
  cases setback with
  | scanning _ stored => exact stored.fileAt there
  | directory _ stored => exact stored.fileAt there
  | preparing _ _ stored => exact stored.fileAt there
  | emitting _ _ _ stored _ => exact stored.fileAt there
  | saving _ _ stored _ => exact stored.fileAt there

/-- What a failed generation leaves: all files, the manifest as it was, and of its own files those that
were emitted before it failed. -/
structure Harmless (before : Work) (fault : Fault) (after : Disk) : Prop where
  files : ∀ location, before.1.FileAt location → after.FileAt location
  manifest : (∀ report journal, (rehearse.perform before).1 = .ok (report, journal) →
      SparesManifest journal) →
    ∀ place, after.Leads before.2.outDir place → ∀ content,
      after.entryAt? (place ++ [Manifest.fileName]) = some (.file content) ↔
        before.1.entryAt? (place ++ [Manifest.fileName]) = some (.file content)
  setback : Setback before fault after

/-- A generation that fails loses no file and leaves the manifest as it was, if none of its units has
that name. If it fails in the scan or while it prepares its units, all files are as before. If a file
is refused, the files emitted before it are there, and nothing else has changed. -/
theorem harmless_of_failure {before after : Work} {fault : Fault} {reports : List Warning}
    (performed : generate.perform before = (.error fault, after, reports)) :
    Harmless before fault after.1 := by
  have ending := ending_of_ends (blind_generate.ends performed)
  refine ⟨fun location => ending.setback.fileAt, fun spared place leads content => ?_, ending.setback⟩
  exact ending.manifest_of_failure (fun other leads' => leads'.unique leads) spared content

theorem harmless_order :
    let start : Disk := ⟨[(["orders.rs"], .file "struct OrderAggregate;".toUTF8), (["out"], .directory),
      (["out", "Old.g.rs"], .file "mod old;".toUTF8), (["out", Manifest.fileName], .file "".toUTF8)], []⟩
    let order := Renderer.constant "Order.g.rs" "mod order;"
    let renderer : Renderer := ⟨order.specs ++ [⟨"second", "mod order;", "a/b"⟩], ⟨order.library.templates ++
      [⟨"second", "mod order;", [.text "mod order;"], none, [], [], []⟩,
        ⟨"second#file_name", "a/b", [.text "a/b"], none, [], [], []⟩]⟩⟩
    let generator := { writing "Order.g.rs" "mod order;" with
      pipeline := .ofSetting ⟨.default, renderer, .off, false⟩ }
    let ran := generate.perform (start, generator)
    ∃ fault, ran.1 = .error fault ∧ Harmless (start, generator) fault ran.2.1.1 := by
  intro start order renderer generator ran
  have failed : ran.1.toOption.isNone = true := by decide +kernel
  cases ended : ran.1 with
  | ok summary => simp [ended, Except.toOption] at failed
  | error fault => exact ⟨fault, rfl, harmless_of_failure (Prod.ext ended rfl)⟩

end Generator

end Scaffold
