import Scaffold.Proofs.Generator.Recording

/-! What a successful generation leaves: the last texts of its units, the manifest, and of the run
before only what it did not name. -/

namespace Scaffold.Generator

open Disk Path

/-- The edit of a directory by a generation. -/
def edit (setting : PipelineSetting) (units : List PreparedUnit) (removed : List String) : Edit :=
  (Edit.ofJournal (PreparedUnit.journal units)).followedBy
    ((unitManifest setting units).updating removed)

theorem edit_fileName (setting : PipelineSetting) (units : List PreparedUnit) (removed : List String) :
    edit setting units removed Manifest.fileName =
      some (some (unitManifest setting units).print.toUTF8) := by
  simp [edit, Manifest.updating, Edit.followedBy, Edit.only]

theorem edit_removed (setting : PipelineSetting) (units : List PreparedUnit) {removed : List String}
    {name : String} (other : name ≠ Manifest.fileName) (gone : name ∈ removed) :
    edit setting units removed name = some none := by
  simp [edit, Manifest.updating, Edit.followedBy, Edit.only, Edit.removing, other, gone]

theorem edit_kept (setting : PipelineSetting) (units : List PreparedUnit) {removed : List String}
    {name : String} (other : name ≠ Manifest.fileName) (kept : name ∉ removed) :
    edit setting units removed name = Edit.ofJournal (PreparedUnit.journal units) name := by
  simp [edit, Manifest.updating, Edit.followedBy, Edit.only, Edit.removing, other, kept]

/-- No unit writes a file of the name of the manifest. -/
def SparesManifest (journal : Journal) : Prop :=
  ∀ artifact ∈ journal, artifact.fileName ≠ Manifest.fileName

theorem SparesManifest.lastText? {journal : Journal} (spared : SparesManifest journal) :
    lastText? journal Manifest.fileName = none := lastText?_eq_none_iff.mpr spared

theorem sparesManifest_of_report {count : Nat} {units : List PreparedUnit}
    (unnamed : (GenerationReport.ofUnits count units).units.contains Manifest.fileName = false) :
    SparesManifest (PreparedUnit.journal units) := by
  intro artifact member named
  rw [(contains_units_iff count units _).mpr (named ▸ exists_lastText? member)] at unnamed
  contradiction

/-- What a generation leaves in its directory. -/
structure Left (before : Work) (units : List PreparedUnit) (made : Disk) (place : Location)
    (removed : List String) (after : Disk) : Prop where
  grown : Grown before.1 made
  leads : made.Leads before.2.outDir place
  fits : ∀ artifact ∈ PreparedUnit.journal units, Fits before.2.outDir artifact.fileName
  room : Fits before.2.outDir Manifest.fileName
  orphans : removed = (unitManifest before.2.pipeline.setting units).removable made before.2.outDir
    before.2.cleanOrphans
  edited : Edited place (edit before.2.pipeline.setting units removed) made after

theorem mem_removable_iff {manifest : Manifest} {disk : Disk} {directory : Path} {name : String} :
    name ∈ manifest.removable disk directory true ↔ ∃ previous,
      Manifest.stored? disk directory = some previous ∧ previous.artifacts.contains name = true ∧
      manifest.artifacts.contains name = false ∧ (Path.mk name).isPlainName = true ∧
      disk.isFile (directory.child name) = true := by
  unfold Manifest.removable
  cases Manifest.stored? disk directory with
  | none => simp
  | some previous => simp [Manifest.mem_orphansSince_iff, and_assoc]

theorem of_mem_removable {manifest : Manifest} {disk : Disk} {directory : Path} {cleanOrphans : Bool}
    {name : String} (member : name ∈ manifest.removable disk directory cleanOrphans) :
    cleanOrphans = true ∧ ∃ previous, Manifest.stored? disk directory = some previous ∧
      previous.artifacts.contains name = true ∧ manifest.artifacts.contains name = false ∧
      (Path.mk name).isPlainName = true ∧ disk.isFile (directory.child name) = true := by
  cases cleanOrphans with
  | true => exact ⟨rfl, mem_removable_iff.mp member⟩
  | false =>
    unfold Manifest.removable at member
    split at member <;> simp at member

/-- No unit is removed by the generation that writes it. -/
theorem not_mem_removable {setting : PipelineSetting} {units : List PreparedUnit} {disk : Disk}
    {directory : Path} {cleanOrphans : Bool} {name text : String}
    (last : lastText? (PreparedUnit.journal units) name = some text) :
    name ∉ (unitManifest setting units).removable disk directory cleanOrphans := by
  intro member
  obtain ⟨-, -, -, -, unnamed, -, -⟩ := of_mem_removable member
  rw [unitManifest_unnamed_iff, last] at unnamed
  contradiction

/-- What is removed does not depend on the texts that were emitted before. -/
theorem removable_after_emission {manifest : Manifest} {before after : Disk} {directory : Path}
    {place : Location} {journal : Journal} (leads : before.Leads directory place)
    (edited : Edited place (.ofJournal journal) before after) (spared : SparesManifest journal)
    (recorded : ∀ artifact ∈ journal, manifest.artifacts.contains artifact.fileName = true)
    (cleanOrphans : Bool) :
    manifest.removable after directory cleanOrphans = manifest.removable before directory cleanOrphans := by
  have kept : ∀ name, lastText? journal name = none → Edit.ofJournal journal name = none := by
    intro name none
    rw [Edit.ofJournal, none]
    rfl
  have same : Manifest.stored? after directory = Manifest.stored? before directory :=
    Manifest.stored?_congr fun text => edited.readText_iff leads
      Manifest.entryName_fileName.isPlainName (kept _ spared.lastText?)
  unfold Manifest.removable
  rw [same]
  cases Manifest.stored? before directory with
  | none => rfl
  | some previous =>
    cases cleanOrphans with
    | false => rfl
    | true =>
      refine List.filter_congr fun name member => ?_
      obtain ⟨-, missing, plain⟩ := Manifest.mem_orphansSince_iff.mp member
      refine edited.isFile_eq leads plain (kept name (lastText?_eq_none_iff.mpr ?_))
      intro artifact listed same
      rw [← same, recorded artifact listed] at missing
      contradiction

/-- A generation edits one directory: first it writes its units, and then it updates the manifest. -/
theorem Generated.edited {before after : Work} {summary : GenerationSummary} {outcome : ScanOutcome}
    {units : List PreparedUnit} {made written : Disk}
    (generated : Generated before summary outcome units made written after) :
    ∃ place removed, made.Leads before.2.outDir place ∧ Fits before.2.outDir Manifest.fileName ∧
      removed = (unitManifest before.2.pipeline.setting units).removable written before.2.outDir
        before.2.cleanOrphans ∧
      summary.removed = removed.map before.2.outDir.child ∧
      Edited place (.ofJournal (PreparedUnit.journal units)) made written ∧
      Edited place (edit before.2.pipeline.setting units removed) made after.1 := by
  obtain ⟨-, same, inside⟩ := DirectorySink.putAll_spec generated.emitted
  obtain ⟨place, updated⟩ := Manifest.updated_of_ends generated.updated
  have leads := same.leads_iff.mp updated.leads
  have edited := inside place leads
  exact ⟨place, _, leads, updated.fits, rfl, updated.removed, edited, edited.trans updated.edited⟩

theorem Generated.fits {before after : Work} {summary : GenerationSummary} {outcome : ScanOutcome}
    {units : List PreparedUnit} {made written : Disk}
    (generated : Generated before summary outcome units made written after) :
    ∀ artifact ∈ PreparedUnit.journal units, Fits before.2.outDir artifact.fileName :=
  (DirectorySink.putAll_spec generated.emitted).1

theorem left_of_generated {before after : Work} {summary : GenerationSummary} {outcome : ScanOutcome}
    {units : List PreparedUnit} {made written : Disk}
    (generated : Generated before summary outcome units made written after)
    (spared : SparesManifest (PreparedUnit.journal units)) :
    ∃ place removed, Left before units made place removed after.1 ∧
      summary.removed = removed.map before.2.outDir.child := by
  obtain ⟨place, removed, leads, room, orphans, listed, emitted, edited⟩ := generated.edited
  have recorded : ∀ artifact ∈ PreparedUnit.journal units,
      (unitManifest before.2.pipeline.setting units).artifacts.contains artifact.fileName = true := by
    intro artifact member
    exact (contains_unitManifest_iff _ _ _).mpr (exists_lastText? member)
  rw [removable_after_emission leads emitted spared recorded before.2.cleanOrphans] at orphans
  exact ⟨place, removed, ⟨grown_makeDirectories generated.directories, leads, generated.fits, room,
    orphans, edited⟩, listed⟩

/-- A path that leads to its directory already needs no new directories. -/
theorem Generated.made_of_leads {before after : Work} {summary : GenerationSummary}
    {outcome : ScanOutcome} {units : List PreparedUnit} {made written : Disk} {place : Location}
    (generated : Generated before summary outcome units made written after)
    (leads : before.1.Leads before.2.outDir place) : made = before.1 :=
  (Prod.mk.inj ((makeDirectories_of_leads leads).symm.trans generated.directories)).2.symm

/-- A generator that writes one file for all triggers in `orders.rs`. -/
def writing (fileName text : String) : Generator where
  scanner := ⟨[⟨"orders.rs"⟩], ⟨[]⟩, ⟨[]⟩, []⟩
  pipeline := .ofSetting ⟨.default, .constant fileName text, .off, false⟩
  outDir := ⟨"out"⟩
  cleanOrphans := true

/-- A generation is successful wherever its units fit and no directory is in the way of a file. -/
theorem exists_generated {before : Work} {after : Generator} {outcome : ScanOutcome}
    {units : List PreparedUnit} {made : Disk} {place : Location}
    (planned : Planned before.1 before.2 outcome units after)
    (directories : before.1.makeDirectories before.2.outDir = (.ok (), made))
    (leads : made.Leads before.2.outDir place) (room : Fits before.2.outDir Manifest.fileName)
    (fits : ∀ artifact ∈ PreparedUnit.journal units, Fits before.2.outDir artifact.fileName)
    (free : made.entryAt? (place ++ [Manifest.fileName]) ≠ some .directory)
    (each_free : ∀ artifact ∈ PreparedUnit.journal units,
      made.entryAt? (place ++ [artifact.fileName]) ≠ some .directory) :
    ∃ summary written disk', Generated before summary outcome units made written (disk', after) := by
  have room_for_new : Fits before.2.outDir "new" :=
    room.shorter ⟨by decide, by decide, by decide, by decide⟩ (by decide) (by decide)
  obtain ⟨written, stored⟩ := DirectorySink.exists_putAll leads room_for_new fits each_free
  obtain ⟨-, same, -⟩ := DirectorySink.putAll_spec stored
  obtain ⟨removed, disk', updated⟩ := Manifest.exists_updateManifest_ends
    (unitManifest before.2.pipeline.setting units) before.2.cleanOrphans (same.leads_iff.mpr leads)
    room fun found => free ((same.directory _).mp found)
  exact ⟨⟨.ofUnits outcome.declarations.length units, outcome.files, outcome.parsed, outcome.reused,
    outcome.skipped.map (·.1), removed⟩, written, disk', planned, directories, stored, updated, rfl⟩

/-- A generation into a directory that is there succeeds with the units of its rehearsal, if their files
and the manifest fit. -/
theorem exists_generation {before : Work} {journal : Journal} {place : Location}
    (rehearsed : (rehearse.perform before).1.toOption.map (·.2) = some journal)
    (leads : before.1.Leads before.2.outDir place)
    (fits : ∀ name ∈ Manifest.fileName :: journal.map (·.fileName), Fits before.2.outDir name ∧
      before.1.entryAt? (place ++ [name]) ≠ some .directory) :
    ∃ summary after reports, generate.perform before = (.ok summary, after, reports) ∧
      (rehearse.perform before).1 = .ok (summary.report, journal) ∧
      (∀ name, summary.report.units.contains name = (lastText? journal name).isSome) ∧
      after.1.Leads before.2.outDir place := by
  obtain ⟨⟨report, _⟩, ended, rfl⟩ := Option.map_eq_some_iff.mp rehearsed
  have ended := Except.toOption_eq_some_iff.mp ended
  obtain ⟨outcome, units, generator, planned, rfl, rfl⟩ := planned_of_rehearsal ended
  obtain ⟨room, free⟩ := fits _ List.mem_cons_self
  have each : ∀ artifact ∈ PreparedUnit.journal units, _ := fun artifact member =>
    fits artifact.fileName (List.mem_cons_of_mem _ (List.mem_map_of_mem member))
  obtain ⟨summary, written, disk', generated⟩ := exists_generated planned
    (makeDirectories_of_leads leads) leads room (fun artifact member => (each artifact member).1) free
    fun artifact member => (each artifact member).2
  obtain ⟨place', removed, leads', -, -, -, -, edited⟩ := generated.edited
  obtain rfl := leads.unique leads'
  obtain ⟨reports, performed⟩ := (generate_ends generated).perform
  refine ⟨summary, _, reports, performed, generated.report ▸ ended, fun name => ?_,
    edited.same.leads_iff.mpr leads⟩
  rw [Bool.eq_iff_iff, generated.report, contains_units_iff, Option.isSome_iff_exists]

/-! ### Looking at what is left -/

section Looking

variable {before : Work} {units : List PreparedUnit} {made after : Disk} {place : Location}
  {removed : List String} (left : Left before units made place removed after)

include left

theorem Left.leads_after : after.Leads before.2.outDir place := left.edited.same.leads_iff.mpr left.leads

/-- Those files are removed that the manifest from before records, and no unit has the name of. -/
theorem Left.mem_removed_iff {name : String} : name ∈ removed ↔ before.2.cleanOrphans = true ∧
    Manifest.Records before.1 place name ∧ lastText? (PreparedUnit.journal units) name = none ∧
    Fits before.2.outDir name ∧ before.1.FileAt (place ++ [name]) := by
  have recorded : Manifest.Records made place name ↔ Manifest.Records before.1 place name := by
    simp only [Manifest.Records, left.grown.file_iff]
  have there : made.FileAt (place ++ [name]) ↔ before.1.FileAt (place ++ [name]) := by
    simp only [FileAt, left.grown.file_iff]
  rw [left.orphans]
  constructor
  · intro member
    obtain ⟨cleaning, previous, stored, listed, missing, plain, is⟩ := of_mem_removable member
    obtain ⟨fits, file⟩ := (isFile_at left.leads plain).mp is
    obtain ⟨-, records, -⟩ := (Manifest.stored_contains_iff left.leads).mp ⟨previous, stored, listed⟩
    exact ⟨cleaning, recorded.mp records, (unitManifest_unnamed_iff _ _ _).mp missing, fits,
      there.mp file⟩
  · rintro ⟨cleaning, records, unnamed, fits, file⟩
    have plain := fits.entry.isPlainName
    obtain ⟨previous, stored, listed⟩ :=
      (Manifest.stored_contains_iff left.leads).mpr ⟨left.room, recorded.mpr records, plain⟩
    rw [cleaning]
    exact mem_removable_iff.mpr ⟨previous, stored, listed,
      (unitManifest_unnamed_iff _ _ _).mpr unnamed, plain,
      (isFile_at left.leads plain).mpr ⟨fits, there.mpr file⟩⟩

theorem Left.manifest : after.entryAt? (place ++ [Manifest.fileName]) =
    some (.file (unitManifest before.2.pipeline.setting units).print.toUTF8) :=
  left.edited.inside_some (edit_fileName _ _ _)

theorem Left.not_removed {name text : String}
    (last : lastText? (PreparedUnit.journal units) name = some text) : name ∉ removed := by
  rw [left.orphans]
  exact not_mem_removable last

theorem Left.text (spared : SparesManifest (PreparedUnit.journal units)) {name text : String}
    (last : lastText? (PreparedUnit.journal units) name = some text) :
    after.entryAt? (place ++ [name]) = some (.file text.toUTF8) := by
  have other : name ≠ Manifest.fileName := by
    rintro rfl
    rw [spared.lastText?] at last
    contradiction
  refine @Edited.inside_some _ _ _ _ left.edited _ (some text.toUTF8) ?_
  rw [edit_kept _ _ other (left.not_removed last), Edit.ofJournal, last]
  rfl

theorem Left.gone {name : String} (other : name ≠ Manifest.fileName) (orphan : name ∈ removed) :
    after.entryAt? (place ++ [name]) = none :=
  left.edited.inside_some (edit_removed _ _ other orphan)

theorem Left.kept {name : String} (other : name ≠ Manifest.fileName) (stays : name ∉ removed)
    (unnamed : lastText? (PreparedUnit.journal units) name = none) :
    after.entryAt? (place ++ [name]) = made.entryAt? (place ++ [name]) := by
  refine left.edited.inside_none ?_
  rw [edit_kept _ _ other stays, Edit.ofJournal, unnamed]
  rfl

/-- The files besides the manifest: the units with their last texts, and what was there before and is
neither written nor removed. -/
theorem Left.file_iff (spared : SparesManifest (PreparedUnit.journal units)) {name : String}
    (other : name ≠ Manifest.fileName) (content : ByteArray) :
    after.entryAt? (place ++ [name]) = some (.file content) ↔
      (∃ text, lastText? (PreparedUnit.journal units) name = some text ∧ content = text.toUTF8) ∨
      (lastText? (PreparedUnit.journal units) name = none ∧ name ∉ removed ∧
        before.1.entryAt? (place ++ [name]) = some (.file content)) := by
  cases last : lastText? (PreparedUnit.journal units) name with
  | some text =>
    rw [left.text spared last]
    simp [eq_comm]
  | none =>
    by_cases orphan : name ∈ removed
    · rw [left.gone other orphan]
      simp [orphan]
    · rw [left.kept other orphan last, left.grown.file_iff]
      simp [orphan]

theorem Left.fits_of_lastText? {name text : String}
    (last : lastText? (PreparedUnit.journal units) name = some text) : Fits before.2.outDir name :=
  left.fits _ (mem_of_lastText? last)

theorem Left.readText (spared : SparesManifest (PreparedUnit.journal units)) {name text : String}
    (last : lastText? (PreparedUnit.journal units) name = some text) :
    after.readText (before.2.outDir.child name) = .ok text := by
  have fits := left.fits_of_lastText? last
  exact (readText_at left.leads_after fits.entry.isPlainName).mpr ⟨fits, left.text spared last⟩

theorem Left.read (spared : SparesManifest (PreparedUnit.journal units)) {name text : String}
    (last : lastText? (PreparedUnit.journal units) name = some text) :
    after.read (before.2.outDir.child name) = .ok text.toUTF8 := by
  have fits := left.fits_of_lastText? last
  exact (read_at left.leads_after fits.entry.isPlainName).mpr ⟨fits, left.text spared last⟩

end Looking

end Scaffold.Generator
