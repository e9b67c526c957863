import Scaffold.Proofs.Generator.Effect
import Scaffold.Proofs.Generator.Ending

/-! Which generated files the manifest still names after a series of generations, some of which may
have failed. A manifest names the files of one generation. So a file is forgotten when a generation
fails after it made the file, or keeps the files of the ones before without naming them. -/

namespace Scaffold

open Disk Path

namespace Generator

/-- A call of `generate` that has ended, with the disk before and after it. -/
structure Attempt where
  before : Disk
  generator : Generator
  result : Except Fault GenerationSummary
  after : Disk

/-- The disks that calls of `generate` for one directory lead to, each series with its last call
first. The calls may have any sources and any setting, and they may fail. Between two of them anything
may happen outside the directory. -/
inductive Attempts (outDir : Path) (place : Location) (start : Disk) : List Attempt → Disk → Prop
  | nothing : Attempts outDir place start [] start
  | elsewhere {attempts : List Attempt} {disk disk' : Disk}
      (earlier : Attempts outDir place start attempts disk)
      (kept : ∀ rest, disk'.entryAt? (place ++ rest) = disk.entryAt? (place ++ rest)) :
      Attempts outDir place start attempts disk'
  | generate {attempts : List Attempt} {disk disk' : Disk} {generator generator' : Generator}
      {result : Except Fault GenerationSummary} {reports : List Warning}
      (earlier : Attempts outDir place start attempts disk)
      (performed : generate.perform (disk, generator) = (result, (disk', generator'), reports))
      (directory : generator.outDir = outDir)
      (here : ∀ other, disk'.Leads outDir other → other = place) :
      Attempts outDir place start (⟨disk, generator, result, disk'⟩ :: attempts) disk'

namespace Attempt

/-- The call made a file where none was. -/
def Created (attempt : Attempt) (place : Location) (name : String) : Prop :=
  ¬ attempt.before.FileAt (place ++ [name]) ∧ attempt.after.FileAt (place ++ [name])

/-- The call was successful, with a unit of this name. -/
def Names (attempt : Attempt) (name : String) : Prop :=
  ∃ summary, attempt.result = .ok summary ∧ summary.report.units.contains name = true

/-- A file that the call emits, or would come to emit, has the name of the manifest. -/
def HitsManifest (attempt : Attempt) : Prop :=
  ∃ report journal, (rehearse.perform (attempt.before, attempt.generator)).1 = .ok (report, journal) ∧
    ¬ SparesManifest journal

/-- The call leaves a file in the directory without recording it: it fails when it has made the file,
or it does not clean up, or its units overwrite the manifest. -/
structure Forgets (attempt : Attempt) (place : Location) (name : String) : Prop where
  there : attempt.after.FileAt (place ++ [name])
  unnamed : ¬ attempt.Names name
  how : attempt.HitsManifest ∨
    match attempt.result with
    | .error _ => attempt.Created place name
    | .ok _ => attempt.generator.cleanOrphans = false

end Attempt

/-- Some call forgot a file, and none has named it since. -/
def Forgotten (attempts : List Attempt) (place : Location) (name : String) : Prop :=
  ∃ later attempt earlier, attempts = later ++ attempt :: earlier ∧ attempt.Forgets place name ∧
    ∀ other ∈ later, ¬ other.Names name

theorem Forgotten.here {attempt : Attempt} {attempts : List Attempt} {place : Location} {name : String}
    (forgets : attempt.Forgets place name) : Forgotten (attempt :: attempts) place name :=
  ⟨[], attempt, attempts, rfl, forgets, by simp⟩

theorem Forgotten.before {attempt : Attempt} {attempts : List Attempt} {place : Location}
    {name : String} (forgotten : Forgotten attempts place name) (unnamed : ¬ attempt.Names name) :
    Forgotten (attempt :: attempts) place name := by
  obtain ⟨later, other, earlier, rfl, forgets, since⟩ := forgotten
  exact ⟨attempt :: later, other, earlier, rfl, forgets, List.forall_mem_cons.mpr ⟨unnamed, since⟩⟩

/-! ### What a call leaves -/

/-- After a failed generation the manifest is the one before, unless a unit has its name. -/
theorem Ending.manifest_of_failure {before after : Work} {fault : Fault} {place : Location}
    (ending : Ending before (.error fault) after)
    (here : ∀ other, after.1.Leads before.2.outDir other → other = place)
    (spared : ∀ report journal, (rehearse.perform before).1 = .ok (report, journal) →
      SparesManifest journal) (content : ByteArray) :
    after.1.entryAt? (place ++ [Manifest.fileName]) = some (.file content) ↔
      before.1.entryAt? (place ++ [Manifest.fileName]) = some (.file content) := by
  obtain ⟨made, done, grown, stored, rehearsed⟩ := ending.failure
  rw [← grown.file_iff]
  cases done with
  | nil =>
    obtain rfl := Except.ok.inj stored
    rfl
  | cons artifact rest =>
    obtain same | ⟨report, more, rehearsed⟩ := rehearsed
    · simp at same
    have unnamed : lastText? (artifact :: rest) Manifest.fileName = none :=
      lastText?_eq_none_iff.mpr fun other member =>
        spared _ _ rehearsed other (List.mem_append_left _ member)
    obtain ⟨-, same, edited⟩ := DirectorySink.putAll_spec stored
    rw [DirectorySink.putAll_cons, Except.bind_eq_ok] at stored
    obtain ⟨middle, first, -⟩ := stored
    obtain ⟨-, place', leads, -⟩ := DirectorySink.put_spec first
    obtain rfl := here place' (same.leads_iff.mpr leads)
    have kept : Edit.ofJournal (artifact :: rest) Manifest.fileName = none := by
      rw [Edit.ofJournal, unnamed]
      rfl
    rw [(edited place' leads).inside_none kept]

/-- After a successful generation the manifest is that of its units. -/
theorem Generated.manifest {before after : Work} {summary : GenerationSummary} {outcome : ScanOutcome}
    {units : List PreparedUnit} {made written : Disk}
    (generated : Generated before summary outcome units made written after) :
    ∃ place, after.1.Leads before.2.outDir place ∧ after.1.entryAt? (place ++ [Manifest.fileName]) =
      some (.file (unitManifest before.2.pipeline.setting units).print.toUTF8) := by
  obtain ⟨place, removed, leads, -, -, -, -, edited⟩ := generated.edited
  exact ⟨place, edited.same.leads_iff.mpr leads, edited.inside_some (edit_fileName _ _ _)⟩

/-! ### Series of calls -/

/-- A file that some call made is recorded, under a name that fits, or some call forgot it. -/
def Accounted (outDir : Path) (place : Location) (attempts : List Attempt) (disk : Disk) : Prop :=
  ∀ name, name ≠ Manifest.fileName → disk.FileAt (place ++ [name]) →
    (∃ attempt ∈ attempts, attempt.Created place name) →
    (Fits outDir name ∧ Manifest.Records disk place name) ∨ Forgotten attempts place name

/-- A failed call forgets at most what it made itself, if it leaves the manifest alone. -/
theorem Accounted.failure {outDir : Path} {place : Location} {attempts : List Attempt}
    {before after : Work} {fault : Fault} (accounted : Accounted outDir place attempts before.1)
    (ending : Ending before (.error fault) after) (directory : before.2.outDir = outDir)
    (here : ∀ other, after.1.Leads outDir other → other = place) :
    Accounted outDir place (⟨before.1, before.2, .error fault, after.1⟩ :: attempts) after.1 := by
  subst directory
  intro name other there created
  have unnamed : ¬ Attempt.Names ⟨before.1, before.2, .error fault, after.1⟩ name := by
    simp [Attempt.Names]
  by_cases earlier : before.1.FileAt (place ++ [name])
  · have created : ∃ attempt ∈ attempts, attempt.Created place name := by
      obtain ⟨attempt, member, new, made⟩ := created
      rcases List.mem_cons.mp member with rfl | member
      · exact absurd earlier new
      · exact ⟨attempt, member, new, made⟩
    rcases accounted name other earlier created with ⟨fits, recorded⟩ | forgotten
    · by_cases hits : Attempt.HitsManifest ⟨before.1, before.2, .error fault, after.1⟩
      · exact .inr (.here ⟨there, unnamed, .inl hits⟩)
      · obtain ⟨text, manifest, entry, read, listed⟩ := recorded
        have spared : ∀ report journal, (rehearse.perform before).1 = .ok (report, journal) →
            SparesManifest journal := fun report journal rehearsed =>
          Classical.byContradiction fun hit => hits ⟨report, journal, rehearsed, hit⟩
        have same := ending.manifest_of_failure here spared text.toUTF8
        exact .inl ⟨fits, text, manifest, same.mpr entry, read, listed⟩
    · exact .inr (forgotten.before unnamed)
  · exact .inr (.here ⟨there, unnamed, .inr ⟨earlier, there⟩⟩)

/-- A successful call records its own files, and removes the others if it cleans up. -/
theorem Accounted.success {outDir : Path} {place : Location} {attempts : List Attempt}
    {before after : Work} {summary : GenerationSummary}
    (accounted : Accounted outDir place attempts before.1)
    (ending : Ending before (.ok summary) after) (directory : before.2.outDir = outDir)
    (here : ∀ other, after.1.Leads outDir other → other = place) :
    Accounted outDir place (⟨before.1, before.2, .ok summary, after.1⟩ :: attempts) after.1 := by
  subst directory
  intro name other there created
  cases ending with
  | @finished _ outcome units made written _ generated =>
  have report := generated.report
  obtain ⟨place', leads, printed⟩ := generated.manifest
  obtain rfl := (here place' leads).symm
  cases last : lastText? (PreparedUnit.journal units) name with
  | some text =>
    refine .inl ⟨generated.fits _ (mem_of_lastText? last), _, _, printed,
      Manifest.parse_print _, ?_⟩
    exact (contains_unitManifest_iff _ units name).mpr ⟨text, last⟩
  | none =>
  have unnamed : ¬ Attempt.Names ⟨before.1, before.2, .ok summary, after.1⟩ name := by
    rintro ⟨summary', same, listed⟩
    obtain rfl := Except.ok.inj same
    rw [report, contains_units_iff, last] at listed
    simp at listed
  by_cases hits : Attempt.HitsManifest ⟨before.1, before.2, .ok summary, after.1⟩
  · exact .inr (.here ⟨there, unnamed, .inl hits⟩)
  · have spared : SparesManifest (PreparedUnit.journal units) := by
      obtain ⟨reports, rehearsed⟩ := (rehearse_ends generated.planned).perform
      exact Classical.byContradiction fun hit =>
        hits ⟨_, _, congrArg Prod.fst rehearsed, hit⟩
    obtain ⟨place', removed, left, -⟩ := left_of_generated generated spared
    obtain rfl := (here place' left.leads_after).symm
    obtain ⟨content, there'⟩ := there
    obtain ⟨text, written, -⟩ | ⟨-, stays, earlier⟩ := (left.file_iff spared other content).mp there'
    · rw [last] at written
      contradiction
    have created : ∃ attempt ∈ attempts, attempt.Created place name := by
      obtain ⟨attempt, member, new, made⟩ := created
      rcases List.mem_cons.mp member with rfl | member
      · exact absurd ⟨content, earlier⟩ new
      · exact ⟨attempt, member, new, made⟩
    rcases accounted name other ⟨content, earlier⟩ created with ⟨fits, recorded⟩ | forgotten
    · cases cleaning : before.2.cleanOrphans with
      | true =>
        have gone := left.mem_removed_iff.mpr ⟨cleaning, recorded, last, fits, content, earlier⟩
        exact absurd gone stays
      | false => exact .inr (.here ⟨⟨content, there'⟩, unnamed, .inr cleaning⟩)
    · exact .inr (forgotten.before unnamed)

theorem accounted_of_attempts {outDir : Path} {place : Location} {start disk : Disk}
    {attempts : List Attempt} (made : Attempts outDir place start attempts disk) :
    Accounted outDir place attempts disk := by
  induction made with
  | nothing => simp [Accounted]
  | elsewhere _ kept ih =>
    intro name other there created
    simp only [FileAt, Manifest.Records, kept] at there ⊢
    exact ih name other there created
  | @generate attempts disk disk' generator generator' result reports _ performed directory here ih =>
    have ending := ending_of_ends (blind_generate.ends performed)
    cases result with
    | error fault => exact ih.failure ending directory here
    | ok summary => exact ih.success ending directory here

/-- After any calls for one directory, successful or not, a file that one of them made is recorded in
the manifest, or some call forgot it: one that failed after it had made the file, one that did not
clean up and did not name it, or one whose units overwrote the manifest. A recorded file is removed by
the next generation that cleans up and does not name it. -/
theorem recorded_or_forgotten {outDir : Path} {place : Location} {start disk : Disk}
    {attempts : List Attempt} (made : Attempts outDir place start attempts disk) {name : String}
    (other : name ≠ Manifest.fileName) (there : disk.FileAt (place ++ [name]))
    (created : ∃ attempt ∈ attempts, attempt.Created place name) :
    (Manifest.Records disk place name ∧
      ∀ generator summary disk' generator' reports,
        generate.perform (disk, generator) = (.ok summary, (disk', generator'), reports) →
        generator.outDir = outDir → generator.cleanOrphans = true → disk'.Leads outDir place →
        summary.report.units.contains Manifest.fileName = false →
        summary.report.units.contains name = false →
        outDir.child name ∈ summary.removed ∧ disk'.entryAt? (place ++ [name]) = none) ∨
    Forgotten attempts place name := by
  rcases accounted_of_attempts made name other there created with ⟨fits, recorded⟩ | forgotten
  · refine .inl ⟨recorded, ?_⟩
    rintro generator summary disk' generator' reports performed rfl cleaning leads spared unnamed
    obtain ⟨outcome, units, made, written, generated⟩ :=
      generated_of_ends (blind_generate.ends performed)
    have report := generated.report
    rw [report] at spared unnamed
    obtain ⟨place', removed, left, listed⟩ :=
      left_of_generated generated (sparesManifest_of_report spared)
    obtain rfl := leads.unique left.leads_after
    have last := (units_unnamed_iff _ _ _).mp unnamed
    have orphan := left.mem_removed_iff.mpr ⟨cleaning, recorded, last, fits, there⟩
    refine ⟨?_, left.gone other orphan⟩
    rw [listed]
    exact List.mem_map_of_mem orphan
  · exact .inr forgotten

/-- Every call continues a series. -/
theorem attempts_next {outDir : Path} {place : Location} {start disk : Disk} {attempts : List Attempt}
    (made : Attempts outDir place start attempts disk) (generator : Generator)
    (directory : generator.outDir = outDir)
    (leads : ((generate.perform (disk, generator)).2.1.1).Leads outDir place) :
    Attempts outDir place start (⟨disk, generator, (generate.perform (disk, generator)).1,
      (generate.perform (disk, generator)).2.1.1⟩ :: attempts)
      (generate.perform (disk, generator)).2.1.1 :=
  .generate made rfl directory fun _ other => other.unique leads

theorem recorded_order :
    let start : Disk :=
      ⟨[(["orders.rs"], .file "struct OrderAggregate;".toUTF8), (["out"], .directory)], []⟩
    let first := (generate.perform (start, writing "Order.g.rs" "mod order;")).2.1.1
    Manifest.Records first ["out"] "Order.g.rs" ∧
      ∃ summary after reports, generate.perform (first, writing "Orders.g.rs" "mod orders;") =
        (.ok summary, after, reports) ∧ (Path.mk "out").child "Order.g.rs" ∈ summary.removed ∧
        after.1.entryAt? ["out", "Order.g.rs"] = none := by
  intro start first
  have leads : first.Leads ⟨"out"⟩ ["out"] :=
    leads_of_isDirectory (by decide +kernel) (by decide +kernel)
  have made := attempts_next .nothing (writing "Order.g.rs" "mod order;") rfl leads
  have there : first.FileAt (["out"] ++ ["Order.g.rs"]) := by decide +kernel
  have new : ¬ start.FileAt (["out"] ++ ["Order.g.rs"]) := by decide +kernel
  rcases recorded_or_forgotten made (by decide) there ⟨_, List.mem_cons_self, new, there⟩ with
    ⟨recorded, removed⟩ | ⟨later, attempt, earlier, split, forgets, -⟩
  · have rehearsed : (rehearse.perform (first, writing "Orders.g.rs" "mod orders;")).1.toOption.map
        (·.2) = some [⟨"Orders.g.rs", "mod orders;"⟩] := by decide +kernel
    obtain ⟨summary, after, reports, performed, -, names, leads'⟩ :=
      exists_generation rehearsed leads (by decide +kernel)
    exact ⟨recorded, summary, after, reports, performed,
      removed _ summary after.1 after.2 reports performed rfl rfl leads' (names _) (names _)⟩
  · obtain ⟨-, rfl, -⟩ : later = [] ∧ attempt = _ ∧ earlier = [] := by
      simpa [List.cons_eq_append_iff] using split
    have named : (generate.perform (start, writing "Order.g.rs" "mod order;")).1.toOption.map
        (·.report.units.contains "Order.g.rs") = some true := by decide +kernel
    obtain ⟨summary, ended, listed⟩ := Option.map_eq_some_iff.mp named
    exact absurd ⟨summary, Except.toOption_eq_some_iff.mp ended, listed⟩ forgets.unnamed

/-- A generation that fails at its second file leaves the first one, of which there is no record. -/
theorem order_unrecorded :
    let start : Disk :=
      ⟨[(["orders.rs"], .file "struct OrderAggregate;".toUTF8), (["out"], .directory)], []⟩
    let order := Renderer.constant "Order.g.rs" "mod order;"
    let renderer : Renderer := ⟨order.specs ++ [⟨"second", "mod order;", "a/b"⟩], ⟨order.library.templates ++
      [⟨"second", "mod order;", [.text "mod order;"], none, [], [], []⟩,
        ⟨"second#file_name", "a/b", [.text "a/b"], none, [], [], []⟩]⟩⟩
    let final := (generate.perform (start, { writing "Order.g.rs" "mod order;" with
      pipeline := .ofSetting ⟨.default, renderer, .off, false⟩ })).2.1.1
    ¬ start.FileAt ["out", "Order.g.rs"] ∧ final.FileAt ["out", "Order.g.rs"] ∧
      ¬ Manifest.Records final ["out"] "Order.g.rs" := by
  intro start order renderer final
  exact ⟨by decide +kernel, by decide +kernel, by decide +kernel⟩

end Generator

end Scaffold
