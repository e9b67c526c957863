import Scaffold.Proofs.Disk.Tree
import Scaffold.Proofs.Generator.DryRun

/-! When a check and when a generation succeed. Both fail alike where the sources cannot be scanned or
the units cannot be prepared. Behind that the check fails just at the files that it cannot read as text,
and the generation just at the names that are none of entries of its directory. -/

namespace Scaffold

open Disk Path

namespace Disk

/-! ### Looking before directories are made -/

theorem Grown.walk_before {before after : Disk} (grown : Grown before after)
    {pieces : List (List Char)} {place location : Location}
    (walked : pieces.foldlM after.step place = .ok location) :
    pieces.foldlM before.step place = .ok location ∨
      pieces.foldlM before.step place = .error .notFound := by
  induction pieces generalizing place with
  | nil => exact .inl walked
  | cons piece rest ih =>
    rw [List.foldlM_cons, Except.bind_eq_ok] at walked
    obtain ⟨next, stepped, walked⟩ := walked
    have here := (step_eq_ok_iff.mp stepped).1
    rw [List.foldlM_cons]
    rcases grown.entry place with same | ⟨missing, -⟩
    · have stepped' : before.step place piece = .ok next := by
        rw [← stepped, step_congr here (same.symm.trans here)]
      rw [stepped']
      exact ih walked
    · right
      rw [step, missing]
      rfl

/-- Before directories were made, a path leads where it leads now, or nowhere yet. -/
theorem Grown.locate_before {before after : Disk} (grown : Grown before after) {path : Path}
    {location : Location} (found : after.locate path = .ok location) :
    before.locate path = .ok location ∨ before.locate path = .error .notFound := by
  obtain ⟨accepts, walked⟩ := locate_eq_ok_iff.mp found
  have origin : before.start path = after.start path := by simp only [Disk.start, grown.working]
  rw [locate_eq_of_accepts accepts, origin]
  exact grown.walk_before walked

/-- What there can be at a name below a directory that is yet to be made, if no directory stands at it:
nothing, a text, or a file that is none. -/
theorem Grown.readText_before {before made : Disk} (grown : Grown before made) {directory : Path}
    {place : Location} {name : String} (leads : made.Leads directory place) (fits : Fits directory name)
    (free : made.entryAt? (place ++ [name]) ≠ some .directory) :
    before.readText (directory.child name) = .error .notFound ∨
      (∃ text, before.readText (directory.child name) = .ok text) ∨
      before.readText (directory.child name) = .error .notText := by
  rcases grown.locate_before (locate_child_of_fits leads fits) with located | missing
  · have free' : before.entryAt? (place ++ [name]) ≠ some .directory :=
      fun directory => free (grown.keeps.directory _ directory)
    cases there : before.entryAt? (place ++ [name]) with
    | none =>
      left
      simp only [readText, read, find, located, there, bind, Except.bind]
    | some entry =>
      cases entry with
      | directory => exact absurd there free'
      | file content =>
        right
        cases decoded : String.fromUTF8? content with
        | some text =>
          left
          exact ⟨text, by simp only [readText, read, find, located, there, decoded, bind, Except.bind]⟩
        | none =>
          right
          simp only [readText, read, find, located, there, decoded, bind, Except.bind]
  · left
    simp only [readText, read, find, missing, bind, Except.bind]

end Disk

namespace Generator

/-! ### Failures that a check and a generation share -/

theorem fail_of_unscanned {before : Work} {scanner : Scanner} {fault : Fault}
    (scanned : (Scanner.scan before.1).Ends before.2.scanner (.error fault) scanner) :
    (rehearse.perform before).1 = .error fault ∧ (check.perform before).1 = .error fault ∧
      (generate.perform before).1 = .error fault := by
  have failed := scan_ends_error scanned
  have result : ∀ {α : Type} {next : ScanOutcome → Task Fault Work α},
      ((scan >>= next).perform before).1 = .error fault := by
    intro α next
    obtain ⟨reports, performed⟩ := (@Task.Ends.bind_error _ _ _ _ _ next _ _ _ failed).perform
    rw [performed]
  exact ⟨result, result, result⟩

theorem fail_of_unprepared {before : Work} {outcome : ScanOutcome} {scanner : Scanner}
    {pipeline : Pipeline} {fault : Fault} {made : Disk}
    (scanned : (Scanner.scan before.1).Ends before.2.scanner (.ok outcome) scanner)
    (failed : (outcome.declarations.mapM Pipeline.prepare).Ends before.2.pipeline (.error fault) pipeline)
    (directories : before.1.makeDirectories before.2.outDir = (.ok (), made)) :
    (rehearse.perform before).1 = .error fault ∧ (check.perform before).1 = .error fault ∧
      (generate.perform before).1 = .error fault := by
  have begun := scan_ends_ok scanned
  have ran : ∀ {σ : Type} (sink : Sink (Disk × σ)) (start : σ) (disk : Disk),
      (runInto sink start outcome.declarations).Ends (disk, { before.2 with scanner }) (.error fault)
        (disk, { before.2 with scanner, pipeline }) := fun sink start disk =>
    @runInto_of_run _ _ _ _ _ _ _ { before.2 with scanner } _ _
      (Pipeline.run_ends_of_unprepared failed sink (disk, start))
  have rehearsing : rehearse.Ends before (.error fault) _ :=
    begun.bind (ran (besideDisk Journal.sink) [] before.1)
  have checking : check.Ends before (.error fault) _ :=
    begun.bind (ran (besideDisk MemorySink.sink) .empty before.1).bind_error
  have making := DirectorySink.make_ends before.2.outDir before.1
  rw [directories] at making
  have generating : generate.Ends before (.error fault) _ :=
    begun.bind ((Task.ends_current _).bind (making.onFirst.bind
      (ran DirectorySink.sink ⟨before.2.outDir, .empty⟩ made).bind_error))
  have result : ∀ {α : Type} {task : Task Fault Work α} {after : Work},
      task.Ends before (.error fault) after → (task.perform before).1 = .error fault := by
    intro α task after ends
    obtain ⟨reports, performed⟩ := ends.perform
    rw [performed]
  exact ⟨result rehearsing, result checking, result generating⟩

/-- Where the output directory can be made, a rehearsal shows what check and generation have in common:
they fail as it does, or they have its units. -/
theorem rehearsal_cases {before : Work} {made : Disk}
    (directories : before.1.makeDirectories before.2.outDir = (.ok (), made)) :
    (∃ fault, (rehearse.perform before).1 = .error fault ∧ (check.perform before).1 = .error fault ∧
      (generate.perform before).1 = .error fault) ∨
    ∃ outcome units after, Planned before.1 before.2 outcome units after ∧
      (rehearse.perform before).1 =
        .ok (.ofUnits outcome.declarations.length units, PreparedUnit.journal units) := by
  obtain ⟨result, scanner, scanned⟩ := Scanner.blind_scan before.1 before.2.scanner
  cases result with
  | error fault => exact .inl ⟨fault, fail_of_unscanned scanned⟩
  | ok outcome =>
    obtain ⟨result, pipeline, done⟩ :=
      Pipeline.blind_mapM_prepare outcome.declarations before.2.pipeline
    cases result with
    | error fault => exact .inl ⟨fault, fail_of_unprepared scanned done directories⟩
    | ok prepared =>
      have planned : Planned before.1 before.2 outcome (prepared.filterMap id)
          { before.2 with scanner, pipeline } := ⟨scanned, ⟨prepared, done, rfl⟩, rfl, rfl⟩
      obtain ⟨reports, performed⟩ := (rehearse_ends planned).perform
      exact .inr ⟨outcome, _, _, planned, by rw [performed]⟩

/-! ### What each of them fails at by itself -/

/-- There is a text at a path, or nothing. -/
def Readable (disk : Disk) (path : Path) : Prop :=
  disk.readText path = .error .notFound ∨ ∃ text, disk.readText path = .ok text

theorem compareUnit_ok_iff {disk : Disk} {outDir : Path} {name expected : String} :
    (∃ found, compareUnit disk outDir name expected = .ok found) ↔ Readable disk (outDir.child name) := by
  unfold Readable
  cases looked : disk.readText (outDir.child name) with
  | ok actual =>
    rw [compareUnit_ok looked]
    constructor
    · exact fun _ => .inr ⟨actual, rfl⟩
    · intro _
      split
      · exact ⟨_, rfl⟩
      · exact ⟨_, rfl⟩
  | error refusal =>
    rw [compareUnit_error looked]
    by_cases missing : refusal = .notFound
    · simp [missing]
    · simp [missing]

theorem check_ok_iff {before : Work} {outcome : ScanOutcome} {units : List PreparedUnit}
    {generator : Generator} (planned : Planned before.1 before.2 outcome units generator) :
    (∃ drift, (check.perform before).1 = .ok drift) ↔
      ∀ artifact ∈ PreparedUnit.journal units, Readable before.1 (before.2.outDir.child artifact.fileName) := by
  have listed : ∀ name text, (name, text) ∈ (texts units).entries ↔
      lastText? (PreparedUnit.journal units) name = some text := by
    intro name text
    rw [← NameMap.find?_eq_some_iff, find?_texts]
  constructor
  · rintro ⟨drift, succeeded⟩ artifact member
    rcases performed : check.perform before with ⟨result, after, reports⟩
    rw [performed] at succeeded
    obtain rfl : result = .ok drift := succeeded
    obtain ⟨outcome', units', found, checked⟩ := checked_of_ends (blind_check.ends performed)
    obtain ⟨rfl, rfl⟩ := planned.unique checked.planned rfl rfl
    obtain ⟨text, last⟩ := exists_lastText? member
    obtain ⟨result, -, compared⟩ :=
      (Except.mapM_spec checked.compared).1 _ ((listed artifact.fileName text).mpr last)
    exact compareUnit_ok_iff.mp ⟨result, compared⟩
  · intro readable
    have compared : ∃ found, (texts units).entries.mapM (fun unit =>
        compareUnit before.1 before.2.outDir unit.1 unit.2) = .ok found := by
      refine Except.exists_mapM ?_
      rintro ⟨name, text⟩ member
      have emitted := mem_of_lastText? ((listed name text).mp member)
      exact compareUnit_ok_iff.mpr (readable ⟨name, text⟩ emitted)
    obtain ⟨found, compared⟩ := compared
    have checked : Checked before _ outcome units found (before.1, generator) :=
      ⟨planned, rfl, compared, rfl⟩
    obtain ⟨reports, performed⟩ := (check_ends checked).perform
    exact ⟨_, by rw [performed]⟩

/-- The output directory can be made, and it takes the manifest and every file of the rehearsal that
has the name of an entry. -/
structure TakesWrites (before : Work) (made : Disk) (place : Location) : Prop where
  directories : before.1.makeDirectories before.2.outDir = (.ok (), made)
  leads : made.Leads before.2.outDir place
  room : Fits before.2.outDir Manifest.fileName
  free : made.entryAt? (place ++ [Manifest.fileName]) ≠ some .directory
  units : ∀ report journal, (rehearse.perform before).1 = .ok (report, journal) →
    ∀ artifact ∈ journal, EntryName artifact.fileName → Fits before.2.outDir artifact.fileName ∧
      made.entryAt? (place ++ [artifact.fileName]) ≠ some .directory

theorem generate_ok_iff {before : Work} {made : Disk} {place : Location}
    (takes : TakesWrites before made place) {outcome : ScanOutcome} {units : List PreparedUnit}
    {generator : Generator} (planned : Planned before.1 before.2 outcome units generator) :
    (∃ summary, (generate.perform before).1 = .ok summary) ↔
      ∀ artifact ∈ PreparedUnit.journal units, EntryName artifact.fileName := by
  obtain ⟨_, rehearsed⟩ := (rehearse_ends planned).perform
  have taken := takes.units _ _ (congrArg Prod.fst rehearsed)
  constructor
  · rintro ⟨summary, succeeded⟩ artifact member
    rcases performed : generate.perform before with ⟨result, after, reports⟩
    rw [performed] at succeeded
    obtain rfl : result = .ok summary := succeeded
    obtain ⟨outcome', units', made', written, stages⟩ :=
      generated_of_ends (blind_generate.ends performed)
    obtain ⟨rfl, rfl⟩ := planned.unique stages.planned rfl rfl
    exact (stages.fits artifact member).entry
  · intro entries
    obtain ⟨summary, written, disk', generated⟩ := exists_generated planned takes.directories
      takes.leads takes.room (fun artifact member => (taken artifact member (entries artifact member)).1)
      takes.free (fun artifact member => (taken artifact member (entries artifact member)).2)
    obtain ⟨reports, performed⟩ := (generate_ends generated).perform
    exact ⟨summary, by rw [performed]⟩

/-- A check and a generation from the same state fail alike at the sources and the templates. Behind
that the check fails just if some file of a unit is there but is no text, or cannot be looked for, and
the generation just if some unit has a name that is none of an entry. Where neither is the case one
succeeds just if the other does. -/
theorem check_and_generate_succeed {before : Work} {made : Disk} {place : Location}
    (takes : TakesWrites before made place) :
    (∀ fault, (rehearse.perform before).1 = .error fault →
      (check.perform before).1 = .error fault ∧ (generate.perform before).1 = .error fault) ∧
    (∀ report journal, (rehearse.perform before).1 = .ok (report, journal) →
      ((∃ drift, (check.perform before).1 = .ok drift) ↔
        ∀ artifact ∈ journal, Readable before.1 (before.2.outDir.child artifact.fileName)) ∧
      ((∃ summary, (generate.perform before).1 = .ok summary) ↔
        ∀ artifact ∈ journal, EntryName artifact.fileName)) ∧
    ((∀ report journal, (rehearse.perform before).1 = .ok (report, journal) →
        ∀ artifact ∈ journal, EntryName artifact.fileName ∧
          before.1.readText (before.2.outDir.child artifact.fileName) ≠ .error .notText) →
      ((∃ drift, (check.perform before).1 = .ok drift) ↔
        ∃ summary, (generate.perform before).1 = .ok summary)) := by
  rcases rehearsal_cases takes.directories with ⟨fault, rehearsed, checked, generated⟩ |
    ⟨outcome, units, after, planned, rehearsed⟩
  · rw [rehearsed, checked, generated]
    refine ⟨?_, ?_, ?_⟩
    · rintro fault' same
      obtain rfl := Except.error.inj same
      exact ⟨rfl, rfl⟩
    · intro report journal same
      contradiction
    · intro _
      simp
  · have check_iff := check_ok_iff planned
    have generate_iff := generate_ok_iff takes planned
    refine ⟨?_, ?_, ?_⟩
    · intro fault failed
      rw [rehearsed] at failed
      contradiction
    · intro report journal same
      rw [rehearsed] at same
      obtain ⟨rfl, rfl⟩ := Prod.mk.inj (Except.ok.inj same)
      exact ⟨check_iff, generate_iff⟩
    · intro sound
      have sound := sound _ _ rehearsed
      have entries : ∀ artifact ∈ PreparedUnit.journal units, EntryName artifact.fileName :=
        fun artifact member => (sound artifact member).1
      have readable : ∀ artifact ∈ PreparedUnit.journal units,
          Readable before.1 (before.2.outDir.child artifact.fileName) := by
        intro artifact member
        obtain ⟨entry, text⟩ := sound artifact member
        obtain ⟨fits, free⟩ := takes.units _ _ rehearsed artifact member entry
        rcases (grown_makeDirectories takes.directories).readText_before takes.leads fits free with
          missing | found | no_text
        · exact .inl missing
        · exact .inr found
        · exact absurd no_text text
      exact ⟨fun _ => generate_iff.mpr entries, fun _ => check_iff.mpr readable⟩

theorem check_and_generate_succeed_order :
    let disk : Disk := ⟨[(["orders.rs"], .file "struct OrderAggregate;".toUTF8), (["out"], .directory),
      (["out", "Order.g.rs"], .file "mod old;".toUTF8)], []⟩
    let generator := writing "Order.g.rs" "mod order;"
    TakesWrites (disk, generator) disk ["out"] ∧
      ((∃ drift, (check.perform (disk, generator)).1 = .ok drift) ↔
        ∃ summary, (generate.perform (disk, generator)).1 = .ok summary) := by
  intro disk generator
  have files : (rehearse.perform (disk, generator)).1.toOption.map Prod.snd =
      some [⟨"Order.g.rs", "mod order;"⟩] := by decide +kernel
  have rehearsed : ∀ {report journal}, (rehearse.perform (disk, generator)).1 = .ok (report, journal) →
      journal = [⟨"Order.g.rs", "mod order;"⟩] := by
    intro report journal same
    rw [same] at files
    exact Option.some.inj files
  have unit_fits : Fits ⟨"out"⟩ "Order.g.rs" := by decide +kernel
  have manifest_fits : Fits ⟨"out"⟩ Manifest.fileName := by decide +kernel
  have leads : disk.Leads ⟨"out"⟩ ["out"] := ⟨by decide +kernel, by decide +kernel⟩
  have takes : TakesWrites (disk, generator) disk ["out"] := by
    refine ⟨makeDirectories_of_leads leads, leads, manifest_fits, by decide +kernel, ?_⟩
    intro report journal same artifact member _
    rw [rehearsed same, List.mem_singleton] at member
    subst member
    exact ⟨unit_fits, by decide +kernel⟩
  refine ⟨takes, (check_and_generate_succeed takes).2.2 ?_⟩
  intro report journal same artifact member
  rw [rehearsed same, List.mem_singleton] at member
  subst member
  exact ⟨unit_fits.entry, by decide +kernel⟩

/-- A check lets a name pass that a generation refuses, and it fails at a file that a generation
replaces. -/
theorem check_and_generate_disagree :
    let disk : Disk :=
      ⟨[(["orders.rs"], .file "struct OrderAggregate;".toUTF8), (["out"], .directory)], []⟩
    let nested := writing "more/Order.g.rs" "mod order;"
    let blurred := disk.set ["out", "Order.g.rs"] (.file ⟨#[255]⟩)
    let plain := writing "Order.g.rs" "mod order;"
    ((check.perform (disk, nested)).1 = .ok [.missing "more/Order.g.rs"] ∧
      (generate.perform (disk, nested)).1 = .error (.config (.notAFileName "more/Order.g.rs"))) ∧
    (check.perform (blurred, plain)).1 = .error (.io ⟨"out/Order.g.rs"⟩ .notText) ∧
      ∃ summary, (generate.perform (blurred, plain)).1 = .ok summary := by
  intro disk nested blurred plain
  have replaced : (generate.perform (blurred, plain)).1.toOption.isSome = true := by decide +kernel
  obtain ⟨summary, generated⟩ := Option.isSome_iff_exists.mp replaced
  have refused : (generate.perform (disk, nested)).1.map (fun _ => ()) =
      .error (.config (.notAFileName "more/Order.g.rs")) := by decide +kernel
  refine ⟨⟨by decide +kernel, ?_⟩, by decide +kernel, summary,
    Except.toOption_eq_some_iff.mp generated⟩
  cases ended : (generate.perform (disk, nested)).1 with
  | ok summary =>
    rw [ended] at refused
    contradiction
  | error fault =>
    rw [ended] at refused
    exact congrArg Except.error (Except.error.inj refused)

end Generator

end Scaffold
