import Scaffold.Proofs.Generator.Effect
import Scaffold.Proofs.Generator.Ending

/-! Series of generations into one directory that nothing else writes into. Each of them removes what
the one before left and does not name again, so that only the files of the last one remain, beside
those that were there from the start. -/

namespace Scaffold.Generator

open Disk Path

/-- A generation of a series: the disk that it started from, and what it emitted. -/
structure Round where
  before : Disk
  journal : Journal

/-- The disks that series of successful generations lead to, each series with its last round first. A
generation may have any sources and any setting. Between two of them anything may happen elsewhere. -/
inductive Series (outDir : Path) (place : Location) (start : Disk) : List Round → Disk → Prop
  | nothing : Series outDir place start [] start
  | elsewhere {rounds : List Round} {disk disk' : Disk} (series : Series outDir place start rounds disk)
      (kept : ∀ rest, disk'.entryAt? (place ++ rest) = disk.entryAt? (place ++ rest)) :
      Series outDir place start rounds disk'
  | generate {rounds : List Round} {disk disk' : Disk} {generator generator' : Generator}
      {summary : GenerationSummary} {journal : Journal} {reports : List Warning}
      (series : Series outDir place start rounds disk)
      (generated : generate.perform (disk, generator) = (.ok summary, (disk', generator'), reports))
      (directory : generator.outDir = outDir) (cleaning : generator.cleanOrphans = true)
      (rehearsed : (rehearse.perform (disk, generator)).1 = .ok (summary.report, journal))
      (spared : summary.report.units.contains Manifest.fileName = false)
      (leads : disk'.Leads outDir place) :
      Series outDir place start (⟨disk, journal⟩ :: rounds) disk'

/-- Some round emitted a file of this name. -/
def Emitted (rounds : List Round) (name : String) : Prop :=
  ∃ round ∈ rounds, ∃ artifact ∈ round.journal, artifact.fileName = name

/-- The text of a name in the last round. -/
def currentText? : List Round → String → Option String
  | [], _ => none
  | last :: _, name => lastText? last.journal name

theorem currentText?_cons (last : Round) (earlier : List Round) (name : String) :
    currentText? (last :: earlier) name = lastText? last.journal name := rfl

theorem emitted_of_currentText? {rounds : List Round} {name text : String}
    (current : currentText? rounds name = some text) : Emitted rounds name := by
  cases rounds with
  | nil => contradiction
  | cons last earlier => exact ⟨last, by simp, _, mem_of_lastText? current, rfl⟩

theorem emitted_cons_iff {round : Round} {rounds : List Round} {name : String}
    (unnamed : lastText? round.journal name = none) :
    Emitted (round :: rounds) name ↔ Emitted rounds name := by
  have none_named := lastText?_eq_none_iff.mp unnamed
  constructor
  · rintro ⟨other, member, artifact, written, named⟩
    rcases List.mem_cons.mp member with rfl | member
    · exact absurd named (none_named artifact written)
    · exact ⟨other, member, artifact, written, named⟩
  · rintro ⟨other, member, written⟩
    exact ⟨other, by simp [member], written⟩

/-- A file with the manifest of the last round, or no such file before the first one. -/
def HasManifest (place : Location) (disk : Disk) : List Round → Prop
  | [] => ∀ content, disk.entryAt? (place ++ [Manifest.fileName]) ≠ some (.file content)
  | last :: _ => ∃ manifest : Manifest, (∀ name, manifest.artifacts.contains name = true ↔
        ∃ text, lastText? last.journal name = some text) ∧
      disk.entryAt? (place ++ [Manifest.fileName]) = some (.file manifest.print.toUTF8)

/-- What a series of generations maintains. -/
structure Maintained (outDir : Path) (place : Location) (start : Disk) (rounds : List Round)
    (disk : Disk) : Prop where
  fits : ∀ name, Emitted rounds name → Fits outDir name
  spared : ¬ Emitted rounds Manifest.fileName
  room : rounds ≠ [] → Fits outDir Manifest.fileName
  manifest : HasManifest place disk rounds
  files : ∀ name, name ≠ Manifest.fileName → ∀ content,
    disk.entryAt? (place ++ [name]) = some (.file content) ↔
      (∃ text, currentText? rounds name = some text ∧ content = text.toUTF8) ∨
      (start.entryAt? (place ++ [name]) = some (.file content) ∧ ¬ Emitted rounds name)
  deeper : ∀ rest content, rest.length ≠ 1 → (disk.entryAt? (place ++ rest) = some (.file content) ↔
    start.entryAt? (place ++ rest) = some (.file content))
  directories : ∀ rest, start.entryAt? (place ++ rest) = some .directory →
    disk.entryAt? (place ++ rest) = some .directory
  made : ∀ rest, disk.entryAt? (place ++ rest) = some .directory →
    start.entryAt? (place ++ rest) = some .directory ∨ ∃ round ∈ rounds, ¬ round.before.Leads outDir place

theorem maintained_nothing {outDir : Path} {place : Location} {start : Disk}
    (bare : ∀ content, start.entryAt? (place ++ [Manifest.fileName]) ≠ some (.file content)) :
    Maintained outDir place start [] start where
  fits := by simp [Emitted]
  spared := by simp [Emitted]
  room := by simp
  manifest := bare
  files name _ content := by simp [currentText?, Emitted]
  deeper _ _ _ := Iff.rfl
  directories _ := id
  made _ := .inl

section Steps

variable {outDir : Path} {place : Location} {start disk disk' : Disk} {rounds : List Round}
  (maintained : Maintained outDir place start rounds disk)

include maintained

theorem Maintained.elsewhere
    (kept : ∀ rest, disk'.entryAt? (place ++ rest) = disk.entryAt? (place ++ rest)) :
    Maintained outDir place start rounds disk' where
  fits := maintained.fits
  spared := maintained.spared
  room := maintained.room
  manifest := by
    have manifest := maintained.manifest
    cases rounds <;> simpa only [HasManifest, kept] using manifest
  files := by simpa only [kept] using maintained.files
  deeper := by simpa only [kept] using maintained.deeper
  directories := by simpa only [kept] using maintained.directories
  made := by simpa only [kept] using maintained.made

theorem Maintained.file_of_currentText? {name text : String}
    (current : currentText? rounds name = some text) :
    disk.entryAt? (place ++ [name]) = some (.file text.toUTF8) := by
  have other : name ≠ Manifest.fileName := by
    rintro rfl
    exact maintained.spared (emitted_of_currentText? current)
  exact (maintained.files name other _).mpr (.inl ⟨text, current, rfl⟩)

/-- The manifest that a generation finds names just the files of the round before. -/
theorem Maintained.stored_iff {made : Disk} (grown : Grown disk made)
    (leads : made.Leads outDir place) (name : String) :
    (∃ previous, Manifest.stored? made outDir = some previous ∧
      previous.artifacts.contains name = true) ↔ ∃ text, currentText? rounds name = some text := by
  have manifest := maintained.manifest
  cases rounds with
  | nil =>
    have missing : Manifest.stored? made outDir = none :=
      Manifest.stored?_of_no_file leads fun content found =>
        manifest content ((grown.file_iff _ _).mp found)
    simp [missing, currentText?]
  | cons last earlier =>
    obtain ⟨previous, named, printed⟩ := manifest
    have plain : ∀ name ∈ previous.artifacts.keys, Manifest.isOwnName name = true := by
      intro name listed
      obtain ⟨text, written⟩ := (named name).mp ((NameMap.contains_iff_mem_keys _ _).mpr listed)
      exact (maintained.fits name (emitted_of_currentText? written)).entry.isPlainName
    have stored : Manifest.stored? made outDir = some previous := by
      rw [Manifest.stored?, Manifest.loaded_of_printed leads (maintained.room (by simp)) plain
        ((grown.file_iff _ _).mpr printed)]
    simp [stored, named, currentText?]

/-- A generation removes just the files of the round before that it does not name itself. -/
theorem Maintained.mem_removable_iff {made : Disk} (grown : Grown disk made)
    (leads : made.Leads outDir place) (setting : PipelineSetting) (units : List PreparedUnit)
    (name : String) :
    name ∈ (unitManifest setting units).removable made outDir true ↔
      (∃ text, currentText? rounds name = some text) ∧
      lastText? (PreparedUnit.journal units) name = none := by
  rw [Generator.mem_removable_iff, ← unitManifest_unnamed_iff setting]
  constructor
  · rintro ⟨previous, stored, listed, missing, -, -⟩
    exact ⟨(maintained.stored_iff grown leads name).mp ⟨previous, stored, listed⟩, missing⟩
  · rintro ⟨⟨text, current⟩, missing⟩
    obtain ⟨previous, stored, listed⟩ := (maintained.stored_iff grown leads name).mpr ⟨text, current⟩
    have fits := maintained.fits name (emitted_of_currentText? current)
    have file := (grown.file_iff _ _).mpr (maintained.file_of_currentText? current)
    exact ⟨previous, stored, listed, missing, fits.entry.isPlainName,
      (isFile_at leads fits.entry.isPlainName).mpr ⟨fits, _, file⟩⟩

theorem Maintained.generate {generator : Generator} {units : List PreparedUnit} {made : Disk}
    {removed : List String} (left : Left (disk, generator) units made place removed disk')
    (directory : generator.outDir = outDir) (cleaning : generator.cleanOrphans = true)
    (spared : SparesManifest (PreparedUnit.journal units))
    (untouched : disk.Leads outDir place → made = disk) :
    Maintained outDir place start (⟨disk, PreparedUnit.journal units⟩ :: rounds) disk' := by
  subst directory
  have removed_iff : ∀ name, name ∈ removed ↔ (∃ text, currentText? rounds name = some text) ∧
      lastText? (PreparedUnit.journal units) name = none := by
    intro name
    rw [left.orphans, cleaning]
    exact maintained.mem_removable_iff left.grown left.leads _ units name
  refine ⟨?_, ?_, fun _ => left.room, ?_, ?_, ?_, ?_, ?_⟩
  · rintro name ⟨round, member, artifact, written, rfl⟩
    rcases List.mem_cons.mp member with rfl | member
    · exact left.fits artifact written
    · exact maintained.fits _ ⟨round, member, artifact, written, rfl⟩
  · rw [emitted_cons_iff spared.lastText?]
    exact maintained.spared
  · exact ⟨_, contains_unitManifest_iff _ units, left.manifest⟩
  · intro name other content
    rw [left.file_iff spared other, maintained.files name other, currentText?_cons, removed_iff]
    cases last : lastText? (PreparedUnit.journal units) name with
    | some text =>
      have emitted : Emitted (⟨disk, PreparedUnit.journal units⟩ :: rounds) name :=
        emitted_of_currentText? last
      simp [emitted]
    | none =>
      -- What the round before wrote is removed now, so that nothing is left of it.
      rw [emitted_cons_iff last]
      cases current : currentText? rounds name with
      | some text => simp [emitted_of_currentText? current]
      | none => simp
  · intro rest content deep
    have away : ∀ name, place ++ rest ≠ place ++ [name] := by
      intro name same
      rw [List.append_cancel_left same] at deep
      exact deep rfl
    rw [left.edited.outside _ away, left.grown.file_iff]
    exact maintained.deeper rest content deep
  · intro rest found
    exact (left.edited.same.directory _).mpr
      (left.grown.keeps.directory _ (maintained.directories rest found))
  · intro rest found
    by_cases leads : disk.Leads generator.outDir place
    · rw [left.edited.same.directory, untouched leads] at found
      obtain known | ⟨round, member, lost⟩ := maintained.made rest found
      · exact .inl known
      · exact .inr ⟨round, by simp [member], lost⟩
    · exact .inr ⟨_, List.mem_cons_self, leads⟩

end Steps

/-! ### Whole series -/

theorem maintained_of_series {outDir : Path} {place : Location} {start disk : Disk}
    {rounds : List Round} (series : Series outDir place start rounds disk)
    (bare : ∀ content, start.entryAt? (place ++ [Manifest.fileName]) ≠ some (.file content)) :
    Maintained outDir place start rounds disk := by
  induction series with
  | nothing => exact maintained_nothing bare
  | elsewhere _ kept ih => exact ih.elsewhere kept
  | @generate rounds disk disk' generator generator' summary journal reports _ generated directory
      cleaning rehearsed spared leads ih =>
    obtain ⟨outcome, units, made, written, stages⟩ :=
      generated_of_ends (blind_generate.ends generated)
    obtain ⟨report, rfl⟩ := rehearsal_of_planned stages.planned (Prod.ext rehearsed rfl)
    rw [report] at spared
    have spared := sparesManifest_of_report spared
    obtain ⟨place', removed, left, -⟩ := left_of_generated stages spared
    obtain rfl := leads.unique (directory ▸ left.leads_after)
    exact ih.generate left directory cleaning spared fun leads =>
      stages.made_of_leads (directory ▸ leads)

/-- The disk that a generation leaves. -/
def diskAfter (disk : Disk) (generator : Generator) : Disk :=
  (generate.perform (disk, generator)).2.1.1

/-- A generation whose units fit continues a series. -/
theorem series_next {outDir : Path} {place : Location} {start disk : Disk} {rounds : List Round}
    {journal : Journal} (series : Series outDir place start rounds disk) (generator : Generator)
    (directory : generator.outDir = outDir) (cleaning : generator.cleanOrphans = true)
    (rehearsed : (rehearse.perform (disk, generator)).1.toOption.map (·.2) = some journal)
    (leads : disk.Leads outDir place) (spared : SparesManifest journal)
    (fits : ∀ name ∈ Manifest.fileName :: journal.map (·.fileName), Fits outDir name ∧
      disk.entryAt? (place ++ [name]) ≠ some .directory) :
    Series outDir place start (⟨disk, journal⟩ :: rounds) (diskAfter disk generator) := by
  subst directory
  obtain ⟨summary, ⟨disk', generator'⟩, reports, performed, ended, names, leads'⟩ :=
    exists_generation rehearsed leads fits
  have unnamed : summary.report.units.contains Manifest.fileName = false := by
    rw [names, spared.lastText?, Option.isSome_none]
  rw [diskAfter, performed]
  exact series.generate performed rfl cleaning ended unnamed leads'

/-- After a series of generations into a directory that had no manifest, the files directly in it are
the units of the last generation, its manifest, and those files from the start that were never
emitted. Below its sub-directories all files are as they were, and a directory can only be new if the
path to the directory itself did not lead there before some generation. -/
theorem files_after_series {outDir : Path} {place : Location} {start disk : Disk} {last : Round}
    {earlier : List Round} (series : Series outDir place start (last :: earlier) disk)
    (bare : ∀ content, start.entryAt? (place ++ [Manifest.fileName]) ≠ some (.file content)) :
    (∃ manifest : Manifest, Manifest.parse manifest.print = some manifest ∧
      (∀ name, manifest.artifacts.contains name = true ↔
        ∃ text, lastText? last.journal name = some text) ∧
      ∀ name content, disk.entryAt? (place ++ [name]) = some (.file content) ↔
        (∃ text, lastText? last.journal name = some text ∧ content = text.toUTF8) ∨
        (name = Manifest.fileName ∧ content = manifest.print.toUTF8) ∨
        (start.entryAt? (place ++ [name]) = some (.file content) ∧ ¬ Emitted (last :: earlier) name)) ∧
    (∀ rest content, rest.length ≠ 1 → (disk.entryAt? (place ++ rest) = some (.file content) ↔
      start.entryAt? (place ++ rest) = some (.file content))) ∧
    (∀ rest, start.entryAt? (place ++ rest) = some .directory →
      disk.entryAt? (place ++ rest) = some .directory) ∧
    ∀ rest, disk.entryAt? (place ++ rest) = some .directory →
      start.entryAt? (place ++ rest) = some .directory ∨
      ∃ round ∈ last :: earlier, ¬ round.before.Leads outDir place := by
  have maintained := maintained_of_series series bare
  obtain ⟨manifest, named, printed⟩ := maintained.manifest
  refine ⟨⟨manifest, Manifest.parse_print manifest, named, fun name content => ?_⟩,
    maintained.deeper, maintained.directories, maintained.made⟩
  by_cases own : name = Manifest.fileName
  · subst own
    have unnamed : lastText? last.journal Manifest.fileName = none := by
      refine Option.eq_none_iff_forall_ne_some.mpr fun text written => ?_
      exact maintained.spared (emitted_of_currentText? written)
    rw [printed]
    simp [unnamed, bare, eq_comm]
  · rw [maintained.files name own]
    simp [currentText?_cons, own]

theorem files_after_order :
    let start : Disk := ⟨[(["orders.rs"], .file "struct OrderAggregate;".toUTF8), (["out"], .directory),
      (["out", "Order.g.rs"], .file "old".toUTF8), (["out", "notes"], .file "kept".toUTF8)], []⟩
    let first := diskAfter start (writing "Order.g.rs" "mod order;")
    let final := diskAfter first (writing "Orders.g.rs" "mod orders;")
    first.entryAt? ["out", "Order.g.rs"] = some (.file "mod order;".toUTF8) ∧
      (∀ content, final.entryAt? ["out", "Order.g.rs"] ≠ some (.file content)) ∧
      final.entryAt? ["out", "Orders.g.rs"] = some (.file "mod orders;".toUTF8) ∧
      final.entryAt? ["out", "notes"] = some (.file "kept".toUTF8) := by
  intro start first final
  have bare : ∀ content, start.entryAt? (["out"] ++ [Manifest.fileName]) ≠ some (.file content) := by
    have missing : (start.entryAt? ["out", Manifest.fileName]).isNone = true := by decide +kernel
    simp [Option.isNone_iff_eq_none.mp missing]
  have once : Series ⟨"out"⟩ ["out"] start [⟨start, [⟨"Order.g.rs", "mod order;"⟩]⟩] first :=
    series_next .nothing _ rfl rfl (by decide +kernel)
      (leads_of_isDirectory (by decide +kernel) (by decide +kernel))
      (by simp [SparesManifest, Manifest.fileName]) (by decide +kernel)
  have twice : Series ⟨"out"⟩ ["out"] start [⟨first, [⟨"Orders.g.rs", "mod orders;"⟩]⟩,
      ⟨start, [⟨"Order.g.rs", "mod order;"⟩]⟩] final :=
    series_next once _ rfl rfl (by decide +kernel)
      (leads_of_isDirectory (by decide +kernel) (by decide +kernel))
      (by simp [SparesManifest, Manifest.fileName]) (by decide +kernel)
  obtain ⟨⟨manifest, -, -, files⟩, -⟩ := files_after_series once bare
  obtain ⟨⟨manifest', -, -, later⟩, -⟩ := files_after_series twice bare
  refine ⟨(files "Order.g.rs" _).mpr (.inl ⟨"mod order;", by decide, rfl⟩), fun content there => ?_,
    (later "Orders.g.rs" _).mpr (.inl ⟨"mod orders;", by decide, rfl⟩),
    (later "notes" _).mpr (.inr (.inr ⟨rfl, by simp [Emitted]⟩))⟩
  rcases (later "Order.g.rs" _).mp there with ⟨text, last, -⟩ | ⟨named, -⟩ | ⟨-, unemitted⟩
  · have unnamed : lastText? [⟨"Orders.g.rs", "mod orders;"⟩] "Order.g.rs" = none := by decide
    exact absurd (unnamed.symm.trans last) (by simp)
  · exact absurd named (by decide)
  · exact unemitted (by simp [Emitted])

end Scaffold.Generator
