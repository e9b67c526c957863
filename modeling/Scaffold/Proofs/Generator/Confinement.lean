import Scaffold.Proofs.Generator.DryRun

/-! Nothing outside the output directory is touched. Files are written under single names in it, and
what is removed from it, or said to be orphaned, is a file there that a manifest records. -/

namespace Scaffold

open Disk Path

/-! ### Emission -/

namespace DirectorySink

/-- A name is that of one entry of the directory, or it is refused and all stays as it is. -/
def EmissionConfined (name text : String) (disk : Disk) (sink : DirectorySink) : Prop :=
  ∃ result disk' sink' reports,
    (emit name text).perform (disk, sink) = (result, (disk', sink'), reports) ∧
    ((∃ entry, sink.pathFor name = .ok (sink.directory.child name) ∧
        (sink.directory.child name).components = sink.directory.components ++ [.name entry] ∧
        ∀ location, disk'.entryAt? location ≠ disk.entryAt? location →
          EntryName name ∧ ∃ place, disk.Leads sink.directory place ∧ location = place ++ [name]) ∨
      (sink.pathFor name = .error (.config (.notAFileName name)) ∧
        result = .error (.config (.notAFileName name)) ∧ disk' = disk ∧ sink' = sink))

theorem emit_confined (name text : String) (disk : Disk) (sink : DirectorySink) :
    EmissionConfined name text disk sink := by
  have ends := emit_ends ⟨name, text⟩ disk sink
  cases plain : (Path.mk name).isPlainName with
  | false =>
    have refused : put sink.directory disk ⟨name, text⟩ = .error (.config (.notAFileName name)) := by
      simp [put, plain]
    rw [refused] at ends
    obtain ⟨reports, performed⟩ := ends.perform
    exact ⟨_, _, _, reports, performed, .inr ⟨pathFor_of_not_plain sink plain, rfl, rfl, rfl⟩⟩
  | true =>
    have components := components_child plain sink.directory
    have accepted := pathFor_of_plain sink plain
    cases stored : put sink.directory disk ⟨name, text⟩ with
    | error fault =>
      rw [stored] at ends
      obtain ⟨reports, performed⟩ := ends.perform
      exact ⟨_, _, _, reports, performed,
        .inl ⟨_, accepted, components, fun location changed => absurd rfl changed⟩⟩
    | ok after =>
      rw [stored] at ends
      obtain ⟨reports, performed⟩ := ends.perform
      refine ⟨_, _, _, reports, performed, .inl ⟨_, accepted, components, ?_⟩⟩
      intro location changed
      obtain ⟨fits, place, leads, -, edited⟩ := put_spec stored
      exact ⟨fits.entry, place, leads, edited.eq_of_changed changed⟩

end DirectorySink

/-! ### Removal of orphans -/

namespace Manifest

/-- What is looked at, removed or not, when orphans are: a file of this name in the directory. -/
structure Removable (directory : Path) (disk : Disk) (place : Location) (name : String) : Prop where
  leads : disk.Leads directory place
  entry : EntryName name
  file : disk.FileAt (place ++ [name])

theorem removable_of_isFile {directory : Path} {disk : Disk} {name : String}
    (plain : (Path.mk name).isPlainName = true) (is : disk.isFile (directory.child name) = true) :
    ∃ place, Removable directory disk place name := by
  obtain ⟨fits, place, content, leads, found⟩ := (isFile_iff plain).mp is
  exact ⟨place, leads, fits.entry, content, found⟩

/-- What can be removed after the removal of a file could be removed before it. -/
theorem Removable.earlier {directory : Path} {disk after : Disk} {place place' : Location}
    {name gone : String} (removable : Removable directory after place name)
    (edited : Edited place' (.only gone none) disk after) : Removable directory disk place name := by
  refine ⟨edited.same.leads_iff.mp removable.leads, removable.entry, ?_⟩
  obtain ⟨content, there⟩ := removable.file
  by_cases kept : after.entryAt? (place ++ [name]) = disk.entryAt? (place ++ [name])
  · exact ⟨content, kept ▸ there⟩
  · rw [edited.eq_of_changed kept, edited.inside_some (by rw [Edit.only, if_pos rfl])] at there
    contradiction

theorem removeOrphan_ends {ε : Type} (directory : Path) (dryRun : Bool) {name : String} (disk : Disk)
    (plain : (Path.mk name).isPlainName = true) :
    ∃ found after, (removeOrphan directory dryRun name : Task ε Disk (Option Path)).Ends disk
        (.ok found) after ∧
      (∀ path, found = some path → path = directory.child name ∧
        disk.isFile (directory.child name) = true) ∧
      (after = disk ∨ dryRun = false ∧ ∃ place, Removable directory disk place name ∧
        Edited place (.only name none) disk after) := by
  cases is : disk.isFile (directory.child name) with
  | false =>
    refine ⟨none, disk, (Task.ends_current disk).bind ?_, by simp, .inl rfl⟩
    simp only [is]
    exact Task.ends_pure _ _
  | true =>
    obtain ⟨place, removable⟩ := removable_of_isFile plain is
    cases dryRun with
    | true =>
      refine ⟨some (directory.child name), disk, (Task.ends_current disk).bind ?_, ?_, .inl rfl⟩
      · simp only [is]
        exact Task.ends_pure _ _
      · exact fun path same => ⟨(Option.some.inj same).symm, rfl⟩
    | false =>
      obtain ⟨after, ends, edited⟩ := removeOrphan_ends_of_isFile (ε := ε) removable.leads plain is
      exact ⟨_, after, ends, fun path same => ⟨(Option.some.inj same).symm, rfl⟩,
        .inr ⟨rfl, place, removable, edited⟩⟩

theorem mapM_removeOrphan_confined {ε : Type} {directory : Path} {dryRun : Bool} {names : List String}
    (plain : ∀ name ∈ names, (Path.mk name).isPlainName = true) (disk : Disk) :
    ∃ found after, (names.mapM (removeOrphan directory dryRun) : Task ε Disk (List (Option Path))).Ends
        disk (.ok found) after ∧
      (∀ path, some path ∈ found → ∃ name ∈ names, path = directory.child name ∧
        ∃ place, Removable directory disk place name) ∧
      ∀ location, after.entryAt? location ≠ disk.entryAt? location → dryRun = false ∧
        ∃ name ∈ names, ∃ place, location = place ++ [name] ∧ Removable directory disk place name := by
  induction names generalizing disk with
  | nil => exact ⟨[], disk, Task.ends_pure _ _, by simp, fun location changed => absurd rfl changed⟩
  | cons name rest ih =>
    have others : ∀ other ∈ rest, (Path.mk other).isPlainName = true := fun other member =>
      plain other (by simp [member])
    obtain ⟨first, middle, removed, listed, changed⟩ :=
      removeOrphan_ends (ε := ε) directory dryRun disk (plain name (by simp))
    obtain ⟨found, after, ends, listed', changed'⟩ := ih others middle
    have earlier : ∀ place other, Removable directory middle place other →
        Removable directory disk place other := by
      intro place other removable
      rcases changed with rfl | ⟨-, _, -, edited⟩
      · exact removable
      · exact removable.earlier edited
    refine ⟨first :: found, after, ?_, ?_, ?_⟩
    · rw [List.mapM_cons]
      exact removed.bind (ends.bind (Task.ends_pure _ _))
    · intro path member
      rcases List.mem_cons.mp member with same | later
      · obtain ⟨same, is⟩ := listed path same.symm
        exact ⟨name, by simp, same, removable_of_isFile (plain name (by simp)) is⟩
      · obtain ⟨other, member, same, place, removable⟩ := listed' path later
        exact ⟨other, by simp [member], same, place, earlier place other removable⟩
    · intro location different
      by_cases last : after.entryAt? location = middle.entryAt? location
      · rcases changed with rfl | ⟨wet, place, removable, edited⟩
        · exact absurd last different
        · rw [last] at different
          exact ⟨wet, name, by simp, place, edited.eq_of_changed different, removable⟩
      · obtain ⟨wet, other, member, place, same, removable⟩ := changed' location last
        exact ⟨wet, other, by simp [member], place, same, earlier place other removable⟩

/-- What is removed is a file in the directory that the earlier manifest has and the other one has not. -/
def RemovalConfined (manifest previous : Manifest) (directory : Path) (dryRun : Bool)
    (disk : Disk) : Prop :=
  ∃ removed disk' reports,
    (manifest.removeOrphans previous directory dryRun : Task Fault Disk (List Path)).perform disk =
      (.ok removed, disk', reports) ∧
    (∀ path ∈ removed, ∃ place name, path = directory.child name ∧
      Removable directory disk place name ∧ previous.artifacts.contains name = true ∧
      manifest.artifacts.contains name = false) ∧
    ∀ location, disk'.entryAt? location ≠ disk.entryAt? location → dryRun = false ∧
      ∃ place name, location = place ++ [name] ∧ Removable directory disk place name ∧
        previous.artifacts.contains name = true ∧ manifest.artifacts.contains name = false

theorem removeOrphans_confined (manifest previous : Manifest) (directory : Path) (dryRun : Bool)
    (disk : Disk) : RemovalConfined manifest previous directory dryRun disk := by
  have plain : ∀ name ∈ manifest.orphansSince previous, (Path.mk name).isPlainName = true :=
    fun name member => (mem_orphansSince_iff.mp member).2.2
  obtain ⟨found, after, ends, listed, changed⟩ :=
    @mapM_removeOrphan_confined Fault directory dryRun _ plain disk
  have whole : (manifest.removeOrphans previous directory dryRun : Task Fault Disk (List Path)).Ends
      disk (.ok (found.filterMap id)) after := ends.bind (Task.ends_pure _ _)
  obtain ⟨reports, performed⟩ := whole.perform
  refine ⟨found.filterMap id, after, reports, performed, ?_, ?_⟩
  · intro path member
    obtain ⟨_, member, rfl⟩ := List.mem_filterMap.mp member
    obtain ⟨name, orphan, same, place, removable⟩ := listed path member
    obtain ⟨recorded, unnamed, -⟩ := mem_orphansSince_iff.mp orphan
    exact ⟨place, name, same, removable, recorded, unnamed⟩
  · intro location different
    obtain ⟨wet, name, orphan, place, same, removable⟩ := changed location different
    obtain ⟨recorded, unnamed, -⟩ := mem_orphansSince_iff.mp orphan
    exact ⟨wet, place, name, same, removable, recorded, unnamed⟩

end Manifest

/-! ### Generation and checks -/

namespace Generator

/-- A file that a manifest in the directory records, and that is no unit. -/
structure Orphan (disk : Disk) (place : Location) (units : NameMap String) (name : String) : Prop where
  entry : EntryName name
  file : disk.FileAt (place ++ [name])
  recorded : Manifest.Records disk place name
  unnamed : units.contains name = false

/-- The entries that a generation changes: new directories, and files in the output directory. -/
def Confined (disk after : Disk) (outDir : Path) : Prop :=
  ∀ location, after.entryAt? location ≠ disk.entryAt? location →
    disk.entryAt? location = none ∧ after.entryAt? location = some .directory ∨
    ∃ place name, location = place ++ [name] ∧ after.Leads outDir place ∧ EntryName name

theorem Confined.of_edited {disk made after : Disk} {outDir : Path} {place : Location} {edit : Edit}
    (grown : Grown disk made) (edited : Edited place edit made after) (leads : made.Leads outDir place)
    (entries : ∀ name, edit name ≠ none → EntryName name) : Confined disk after outDir := by
  intro location changed
  by_cases last : after.entryAt? location = made.entryAt? location
  · rw [last] at changed ⊢
    exact .inl ((grown.entry location).resolve_left changed)
  · obtain ⟨name, rfl, spoken⟩ := edited.of_changed last
    exact .inr ⟨place, name, rfl, edited.same.leads_iff.mpr leads, entries name spoken⟩

theorem mem_of_ofJournal {journal : Journal} {name : String}
    (spoken : Edit.ofJournal journal name ≠ none) : ∃ text, lastText? journal name = some text := by
  unfold Edit.ofJournal at spoken
  cases last : lastText? journal name with
  | none => simp [last] at spoken
  | some text => exact ⟨text, rfl⟩

theorem of_edit {setting : PipelineSetting} {units : List PreparedUnit} {removed : List String}
    {name : String} (spoken : edit setting units removed name ≠ none) :
    name = Manifest.fileName ∨ name ∈ removed ∨
      ∃ text, lastText? (PreparedUnit.journal units) name = some text := by
  by_cases own : name = Manifest.fileName
  · exact .inl own
  by_cases gone : name ∈ removed
  · exact .inr (.inl gone)
  · rw [edit_kept _ _ own gone] at spoken
    exact .inr (.inr (mem_of_ofJournal spoken))

/-- A failed generation leaves all files, some of them with a new content. -/
theorem Ending.failure_confined {before after : Work} {fault : Fault}
    (ending : Ending before (.error fault) after) :
    Confined before.1 after.1 before.2.outDir ∧
      ∀ location, before.1.FileAt location → after.1.FileAt location := by
  obtain ⟨made, done, grown, stored, -⟩ := ending.failure
  have kept : ∀ location, before.1.FileAt location → made.FileAt location :=
    fun location ⟨content, there⟩ => ⟨content, (grown.file_iff location content).mpr there⟩
  cases done with
  | nil =>
    obtain rfl := Except.ok.inj stored
    exact ⟨fun location changed => .inl ((grown.entry location).resolve_left changed), kept⟩
  | cons artifact rest =>
    obtain ⟨fits, same, inside⟩ := DirectorySink.putAll_spec stored
    rw [DirectorySink.putAll_cons, Except.bind_eq_ok] at stored
    obtain ⟨middle, first, -⟩ := stored
    obtain ⟨-, place, leads, -⟩ := DirectorySink.put_spec first
    have edited := inside place leads
    refine ⟨.of_edited grown edited leads fun name spoken => ?_, fun location there => ?_⟩
    · obtain ⟨text, last⟩ := mem_of_ofJournal spoken
      exact (fits _ (mem_of_lastText? last)).entry
    · by_cases last : after.1.entryAt? location = made.entryAt? location
      · obtain ⟨content, there⟩ := kept location there
        exact ⟨content, last.trans there⟩
      · obtain ⟨name, rfl, spoken⟩ := edited.of_changed last
        obtain ⟨text, last⟩ := mem_of_ofJournal spoken
        exact ⟨text.toUTF8, by rw [edited.inside, Edit.ofJournal, last]; rfl⟩

section Success

variable {before : Work} {units : List PreparedUnit} {made after : Disk} {place : Location}
  {removed : List String} (left : Left before units made place removed after)

include left

theorem Left.orphan {name : String} (member : name ∈ removed) (count : Nat) :
    Orphan before.1 place (GenerationReport.ofUnits count units).units name := by
  obtain ⟨-, recorded, unnamed, fits, there⟩ := left.mem_removed_iff.mp member
  exact ⟨fits.entry, there, recorded, (units_unnamed_iff count units name).mpr unnamed⟩

theorem Left.confined : Confined before.1 after before.2.outDir := by
  refine .of_edited left.grown left.edited left.leads fun name spoken => ?_
  rcases of_edit spoken with rfl | gone | ⟨text, last⟩
  · exact Manifest.entryName_fileName
  · exact (left.orphan gone 0).entry
  · exact (left.fits_of_lastText? last).entry

theorem Left.lost (spared : SparesManifest (PreparedUnit.journal units)) {location : Location}
    (there : before.1.FileAt location) (lost : ¬ after.FileAt location) :
    ∃ name ∈ removed, location = place ++ [name] := by
  obtain ⟨content, there⟩ := there
  have there := (left.grown.file_iff location content).mpr there
  have changed : after.entryAt? location ≠ made.entryAt? location :=
    fun same => lost ⟨content, same.trans there⟩
  obtain ⟨name, rfl, spoken⟩ := left.edited.of_changed changed
  rcases of_edit spoken with rfl | gone | ⟨text, last⟩
  · exact absurd ⟨_, left.manifest⟩ lost
  · exact ⟨name, gone, rfl⟩
  · exact absurd ⟨_, left.text spared last⟩ lost

end Success

/-- Files that a generation removes are orphans of the manifest that was there before it. -/
structure GenerationConfined (before : Work) (result : Except Fault GenerationSummary) (after : Work) :
    Prop where
  changes : Confined before.1 after.1 before.2.outDir
  lost : ∀ location, before.1.FileAt location → ¬ after.1.FileAt location → ∃ place name summary,
    location = place ++ [name] ∧ after.1.Leads before.2.outDir place ∧ result = .ok summary ∧
    before.2.outDir.child name ∈ summary.removed ∧ Orphan before.1 place summary.report.units name
  removed : ∀ summary, result = .ok summary → ∀ path ∈ summary.removed, ∃ place name,
    path = before.2.outDir.child name ∧ after.1.Leads before.2.outDir place ∧
    Orphan before.1 place summary.report.units name

theorem generate_confined {before after : Work} {result : Except Fault GenerationSummary}
    {reports : List Warning} (performed : generate.perform before = (result, after, reports))
    (spared : ∀ summary, result = .ok summary →
      summary.report.units.contains Manifest.fileName = false) :
    GenerationConfined before result after := by
  have ending := ending_of_ends (blind_generate.ends performed)
  cases result with
  | error fault =>
    obtain ⟨confined, kept⟩ := ending.failure_confined
    exact ⟨confined, fun location there lost => absurd (kept location there) lost, by simp⟩
  | ok summary =>
    cases ending with
    | @finished _ outcome units made written _ generated =>
    have report := generated.report
    have spared := spared summary rfl
    rw [report] at spared
    have spared := sparesManifest_of_report spared
    obtain ⟨place, removed, left, listed⟩ := left_of_generated generated spared
    refine ⟨left.confined, fun location there lost => ?_, fun summary' same path member => ?_⟩
    · obtain ⟨name, gone, rfl⟩ := left.lost spared there lost
      refine ⟨place, name, summary, rfl, left.leads_after, rfl, ?_, report ▸ left.orphan gone _⟩
      rw [listed]
      exact List.mem_map_of_mem gone
    · obtain rfl := Except.ok.inj same
      rw [listed] at member
      obtain ⟨name, gone, rfl⟩ := List.mem_map.mp member
      exact ⟨place, name, rfl, left.leads_after, report ▸ left.orphan gone _⟩

theorem check_confined {before after : Work} {drift : List Drift} {reports : List Warning}
    (performed : check.perform before = (.ok drift, after, reports)) {name : String}
    (member : .orphaned name ∈ drift) : ∃ place report journal,
      (rehearse.perform before).1 = .ok (report, journal) ∧ before.1.Leads before.2.outDir place ∧
      Orphan before.1 place report.units name := by
  obtain ⟨outcome, units, found, checked⟩ := checked_of_ends (blind_check.ends performed)
  obtain ⟨reports, rehearsed⟩ := (rehearse_ends checked.planned).perform
  rw [← mem_orphanedNames_iff, checked.orphanedNames_eq] at member
  cases stored : Manifest.stored? before.1 before.2.outDir with
  | none => simp [stored] at member
  | some previous =>
    simp only [stored, List.mem_filter, Bool.and_eq_true, Bool.not_eq_true'] at member
    obtain ⟨listed, unnamed, is⟩ := member
    have plain := Manifest.own_of_stored stored name listed
    obtain ⟨fits, place, content, leads, there⟩ := (isFile_iff plain).mp is
    obtain ⟨-, recorded, -⟩ := (Manifest.stored_contains_iff leads).mp
      ⟨previous, stored, (NameMap.contains_iff_mem_keys _ _).mpr listed⟩
    exact ⟨place, _, _, congrArg Prod.fst rehearsed, leads,
      ⟨fits.entry, ⟨content, there⟩, recorded, unnamed⟩⟩

/-- Into a directory only files of single names are written, and other names are refused. A file that is
removed from it, or said to be orphaned, is a file directly in it that the manifest there records and
the units do not name, unless a unit has overwritten that manifest. -/
theorem confined_to_directory (outDir : Path) :
    (∀ name text disk emitted, DirectorySink.EmissionConfined name text disk ⟨outDir, emitted⟩) ∧
    (∀ manifest previous dryRun disk,
      Manifest.RemovalConfined manifest previous outDir dryRun disk) ∧
    ∀ before : Work, before.2.outDir = outDir →
      (∀ result after reports, generate.perform before = (result, after, reports) →
        (∀ summary, result = .ok summary →
          summary.report.units.contains Manifest.fileName = false) →
        GenerationConfined before result after) ∧
      ∀ drift after reports, check.perform before = (.ok drift, after, reports) →
        ∀ name, .orphaned name ∈ drift → ∃ place report journal,
          (rehearse.perform before).1 = .ok (report, journal) ∧ before.1.Leads outDir place ∧
          Orphan before.1 place report.units name := by
  refine ⟨fun name text disk emitted => DirectorySink.emit_confined name text disk _,
    fun manifest previous dryRun disk => Manifest.removeOrphans_confined manifest previous outDir dryRun disk,
    ?_⟩
  rintro before rfl
  exact ⟨fun result after reports performed spared => generate_confined performed spared,
    fun drift after reports performed name member => check_confined performed member⟩

theorem confined_order :
    let previous := ((Manifest.new "" "").record "../orders.rs" "" "").record "Old.g.rs" "" ""
    let start : Disk := ⟨[(["orders.rs"], .file "struct OrderAggregate;".toUTF8), (["out"], .directory),
      (["out", "notes.txt"], .file "mine".toUTF8), (["out", "Old.g.rs"], .file "mod old;".toUTF8),
      (["out", Manifest.fileName], .file previous.print.toUTF8)], []⟩
    let order := writing "Order.g.rs" "mod order;"
    let nested := writing "more/Order.g.rs" "mod order;"
    let refused := generate.perform (start, nested)
    (∃ summary after reports, generate.perform (start, order) = (.ok summary, after, reports) ∧
      GenerationConfined (start, order) (.ok summary) after ∧
      (Path.mk "out").child "Old.g.rs" ∈ summary.removed ∧ ¬ after.1.FileAt ["out", "Old.g.rs"] ∧
      after.1.FileAt ["out", "notes.txt"] ∧ after.1.FileAt ["orders.rs"]) ∧
    (∀ summary, refused.1 ≠ .ok summary) ∧ GenerationConfined (start, nested) refused.1 refused.2.1 ∧
    DirectorySink.EmissionConfined "more/Order.g.rs" "mod order;" start ⟨⟨"out"⟩, .empty⟩ ∧
    (DirectorySink.mk ⟨"out"⟩ .empty).pathFor "more/Order.g.rs" =
      .error (.config (.notAFileName "more/Order.g.rs")) := by
  intro previous start order nested refused
  obtain ⟨emissions, -, runs⟩ := confined_to_directory ⟨"out"⟩
  have leads : start.Leads ⟨"out"⟩ ["out"] := leads_of_isDirectory (by decide +kernel) (by decide +kernel)
  have recorded : ∀ name, Manifest.Records start ["out"] name ↔ previous.artifacts.contains name = true :=
    Manifest.records_iff_of_print rfl
  obtain ⟨rehearsed, failed⟩ :
      (rehearse.perform (start, order)).1.toOption.map (·.2) = some [⟨"Order.g.rs", "mod order;"⟩] ∧
      refused.1.toOption.isNone = true := by decide +kernel
  have failed : ∀ summary, refused.1 ≠ .ok summary := by
    intro summary ended
    rw [ended] at failed
    cases failed
  refine ⟨?_, failed, (runs _ rfl).1 _ _ refused.2.2 rfl fun summary ended => absurd ended (failed summary),
    emissions _ _ start .empty, by decide⟩
  obtain ⟨summary, after, reports, performed, -, names, leads'⟩ :=
    exists_generation rehearsed leads (by decide +kernel)
  have spared : summary.report.units.contains Manifest.fileName = false := names _
  have unnamed : summary.report.units.contains "Old.g.rs" = false := names _
  have confined := (runs _ rfl).1 _ _ _ performed fun _ same => Except.ok.inj same ▸ spared
  obtain ⟨outcome, units, made, written, generated⟩ := generated_of_ends (blind_generate.ends performed)
  rw [generated.report] at spared unnamed
  obtain ⟨place, removed, left, listed⟩ :=
    left_of_generated generated (sparesManifest_of_report spared)
  obtain rfl := leads'.unique left.leads_after
  have orphan : "Old.g.rs" ∈ removed := left.mem_removed_iff.mpr ⟨rfl, (recorded _).mpr (by decide),
    (units_unnamed_iff _ _ _).mp unnamed, by decide, by decide +kernel⟩
  have gone := left.gone (by decide) orphan
  refine ⟨summary, after, reports, performed, confined, listed ▸ List.mem_map_of_mem orphan,
    by simp [Disk.FileAt, show after.1.entryAt? ["out", "Old.g.rs"] = none from gone], ?_, ?_⟩
  · by_contra lost
    obtain ⟨place, name, _, same, there, -, -, found⟩ := confined.lost _ (by decide +kernel) lost
    obtain rfl := leads'.unique there
    obtain rfl : name = "notes.txt" := by simpa [eq_comm] using same
    exact absurd ((recorded _).mp found.recorded) (by decide)
  · by_contra lost
    obtain ⟨place, name, -, same, there, -⟩ := confined.lost _ (by decide +kernel) lost
    obtain rfl := leads'.unique there
    simp at same

/-- A unit that has the name of the manifest decides itself what counts as recorded. -/
theorem notes_lost :
    let recording : Manifest := ⟨"", "", "", .ofList [("notes.txt", ⟨"", ""⟩)]⟩
    let start : Disk := ⟨[(["orders.rs"], .file "struct OrderAggregate;".toUTF8), (["out"], .directory),
      (["out", "notes.txt"], .file "mine".toUTF8)], []⟩
    let final := (generate.perform (start, writing Manifest.fileName recording.print)).2.1.1
    ¬ start.FileAt ["out", Manifest.fileName] ∧ start.FileAt ["out", "notes.txt"] ∧
      ¬ final.FileAt ["out", "notes.txt"] := by
  intro recording start final
  exact ⟨by decide +kernel, by decide +kernel, by decide +kernel⟩

end Generator

end Scaffold
