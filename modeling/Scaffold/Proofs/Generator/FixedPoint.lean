import Scaffold.Proofs.Generator.Effect
import Scaffold.Proofs.Generator.Ending

/-! A second generation from the same sources finds its directory as it would leave it. -/

namespace Scaffold.Generator

open Disk Path

/-! ### Planning again -/

/-- From the same sources a generator plans the same units, as it was and as it is now. -/
theorem Planned.again {disk later : Disk} {before after again : Generator} {outcome : ScanOutcome}
    {units : List PreparedUnit} (planned : Planned disk before outcome units after)
    (same : Scanner.SameSources before.scanner disk later)
    (either : again = before ∨ again = after) :
    ∃ outcome' units' after', Planned later again outcome' units' after' ∧
      units'.map PreparedUnit.content = units.map PreparedUnit.content := by
  obtain ⟨prepared, ends, rfl⟩ := planned.prepared
  obtain ⟨⟨scanner, scanned⟩, outcome', scanner', scanned', listed⟩ :=
    Scanner.scan_again planned.scanned same
  rcases either with rfl | rfl
  · exact ⟨outcome, _, { again with scanner, pipeline := after.pipeline },
      ⟨scanned, ⟨prepared, ends, rfl⟩, rfl, rfl⟩, rfl⟩
  · -- Files may be reused and units served from the memo now, so only the contents are the same.
    obtain ⟨prepared', ends', contents⟩ := Pipeline.mapM_prepare_again ends (.refl _)
    rw [← listed] at ends'
    refine ⟨outcome', _, { again with scanner := scanner' },
      ⟨scanned', ⟨prepared', ends', rfl⟩, rfl, rfl⟩, PreparedUnit.map_content_filterMap_congr contents⟩

theorem settings_of_either {disk : Disk} {before after again : Generator} {outcome : ScanOutcome}
    {units : List PreparedUnit} (planned : Planned disk before outcome units after)
    (either : again = before ∨ again = after) :
    again.outDir = before.outDir ∧ again.cleanOrphans = before.cleanOrphans ∧
      again.pipeline.setting = before.pipeline.setting := by
  rcases either with rfl | rfl
  · exact ⟨rfl, rfl, rfl⟩
  · exact ⟨planned.outDir, planned.cleanOrphans, planned.setting⟩

/-! ### The manifest that is left -/

section Leaving

variable {before : Work} {units : List PreparedUnit} {made after : Disk} {place : Location}
  {removed : List String} (left : Left before units made place removed after)

include left

theorem Left.own_names :
    ∀ name ∈ (unitManifest before.2.pipeline.setting units).artifacts.keys,
      Manifest.isOwnName name = true := by
  intro name listed
  obtain ⟨text, last⟩ := (contains_unitManifest_iff _ _ _).mp
    ((NameMap.contains_iff_mem_keys _ _).mpr listed)
  exact (left.fits_of_lastText? last).entry.isPlainName

theorem Left.loaded : Manifest.loaded after before.2.outDir =
    .ok (some (unitManifest before.2.pipeline.setting units)) :=
  Manifest.loaded_of_printed left.leads_after left.room left.own_names left.manifest

theorem Left.stored? : Manifest.stored? after before.2.outDir =
    some (unitManifest before.2.pipeline.setting units) := by
  rw [Manifest.stored?, left.loaded]

theorem Left.digest (spared : SparesManifest (PreparedUnit.journal units)) {name text : String}
    (last : lastText? (PreparedUnit.journal units) name = some text) :
    after.hashOf (before.2.outDir.child name) = .ok (Digest.Sha256.hexOfText text) := by
  rw [hashOf, left.read spared last]
  rfl

end Leaving

/-- A manifest has no orphans since itself. -/
theorem removable_self {manifest : Manifest} {disk : Disk} {directory : Path}
    (stored : Manifest.stored? disk directory = some manifest) (cleanOrphans : Bool) :
    manifest.removable disk directory cleanOrphans = [] := by
  have none_missing : manifest.orphansSince manifest = [] := by
    refine List.eq_nil_iff_forall_not_mem.mpr fun name orphan => ?_
    obtain ⟨present, missing, -⟩ := Manifest.mem_orphansSince_iff.mp orphan
    rw [present] at missing
    contradiction
  cases cleanOrphans <;> simp [Manifest.removable, stored, none_missing]

/-! ### Checking again -/

theorem mapM_of_forall_none {α β ε : Type} {f : α → Except ε (Option β)} {values : List α}
    (nothing : ∀ value ∈ values, f value = .ok none) :
    values.mapM f = .ok (values.map fun _ => none) := by
  induction values with
  | nil => rfl
  | cons value rest ih =>
    rw [List.mapM_cons, nothing value (by simp), ih fun other member => nothing other (by simp [member])]
    rfl

/-- A check finds nothing in a directory that was left by units of the same contents. -/
theorem Left.checked {before : Work} {units units' : List PreparedUnit} {made disk : Disk}
    {place : Location} {removed : List String} {again after : Generator} {outcome : ScanOutcome}
    (left : Left before units made place removed disk)
    (spared : SparesManifest (PreparedUnit.journal units)) (directory : again.outDir = before.2.outDir)
    (planned : Planned disk again outcome units' after)
    (contents : units'.map PreparedUnit.content = units.map PreparedUnit.content) :
    ∃ found, Checked (disk, again) [] outcome units' found (disk, after) := by
  have journal := PreparedUnit.journal_congr contents
  have compared : ∀ entry ∈ (texts units').entries,
      compareUnit disk again.outDir entry.1 entry.2 = .ok none := by
    rintro ⟨name, expected⟩ listed
    have last := NameMap.find?_eq_some_iff.mpr listed
    rw [find?_texts, journal] at last
    rw [compareUnit_ok (directory ▸ left.readText spared last), if_pos rfl]
  have fresh : Generator.orphans disk again.outDir (unitManifest before.2.pipeline.setting units)
      (GenerationReport.ofUnits outcome.declarations.length units').units = [] := by
    rw [Generator.orphans, List.map_eq_nil_iff, List.filter_eq_nil_iff]
    intro name listed
    have written := (contains_unitManifest_iff _ _ _).mp ((NameMap.contains_iff_mem_keys _ _).mpr listed)
    rw [← journal] at written
    simp [(contains_units_iff outcome.declarations.length units' name).mpr written]
  refine ⟨_, planned, rfl, mapM_of_forall_none compared, ?_⟩
  simp only [directory, left.stored?]
  rw [← directory, fresh]
  simp

/-! ### Generating again -/

/-- What two generations from units of the same contents leave is the same, if the second one starts
from what the first one left and removes nothing. -/
theorem Left.unchanged {before : Work} {units units' : List PreparedUnit} {made disk disk' : Disk}
    {place : Location} {removed : List String} {again : Generator}
    (left : Left before units made place removed disk)
    (left' : Left (disk, again) units' disk place [] disk')
    (spared : SparesManifest (PreparedUnit.journal units))
    (setting : again.pipeline.setting = before.2.pipeline.setting)
    (contents : units'.map PreparedUnit.content = units.map PreparedUnit.content)
    (location : Location) : disk'.entryAt? location = disk.entryAt? location := by
  have journal := PreparedUnit.journal_congr contents
  by_cases inside : ∃ name, location = place ++ [name]
  · obtain ⟨name, rfl⟩ := inside
    by_cases own : name = Manifest.fileName
    · subst own
      rw [left'.manifest, left.manifest, setting, unitManifest_congr _ contents]
    · cases last : lastText? (PreparedUnit.journal units) name with
      | some text => rw [left'.text (journal ▸ spared) (journal ▸ last), left.text spared last]
      | none => exact left'.kept own (by simp) (journal ▸ last)
  · exact left'.edited.outside location (not_exists.mp inside)

/-- A generation from units of the same contents is successful and changes nothing. -/
theorem Left.generated {before : Work} {units units' : List PreparedUnit} {made disk : Disk}
    {place : Location} {removed : List String} {again after : Generator} {outcome : ScanOutcome}
    (left : Left before units made place removed disk)
    (spared : SparesManifest (PreparedUnit.journal units)) (directory : again.outDir = before.2.outDir)
    (setting : again.pipeline.setting = before.2.pipeline.setting)
    (planned : Planned disk again outcome units' after)
    (contents : units'.map PreparedUnit.content = units.map PreparedUnit.content) :
    ∃ summary disk', generate.Ends (disk, again) (.ok summary) (disk', after) ∧ summary.removed = [] ∧
      ∀ location, disk'.entryAt? location = disk.entryAt? location := by
  have journal := PreparedUnit.journal_congr contents
  have leads : disk.Leads again.outDir place := directory ▸ left.leads_after
  have each_free : ∀ artifact ∈ PreparedUnit.journal units',
      disk.entryAt? (place ++ [artifact.fileName]) ≠ some .directory := by
    intro artifact member
    obtain ⟨text, last⟩ := exists_lastText? (journal ▸ member)
    simp [left.text spared last]
  obtain ⟨summary, written, disk', generated⟩ := @exists_generated (disk, again) _ _ _ _ _ planned
    (makeDirectories_of_leads leads) leads (directory ▸ left.room)
    (by rw [journal, directory]; exact left.fits) (by simp [left.manifest]) each_free
  obtain ⟨place', orphans, left', listed⟩ := left_of_generated generated (journal ▸ spared)
  obtain rfl : place = place' := leads.unique left'.leads
  obtain rfl : orphans = [] := by
    rw [left'.orphans, setting, unitManifest_congr _ contents]
    exact removable_self (directory ▸ left.stored?) _
  exact ⟨summary, disk', generate_ends generated, listed,
    left.unchanged left' spared setting contents⟩

/-! ### The fixed point -/

theorem list_ends {disk : Disk} {generator : Generator} {scanner : Scanner} {outcome : ScanOutcome}
    (scanned : (Scanner.scan disk).Ends generator.scanner (.ok outcome) scanner) :
    list.Ends (disk, generator) (.ok (outcome.declarations.filterMap fun declaration =>
      (generator.pipeline.setting.convention.feature? declaration).map fun feature =>
        ⟨declaration, feature⟩)) (disk, { generator with scanner }) :=
  (scan_ends_ok scanned).bind ((Task.ends_current _).bind (Task.ends_pure _ _))

/-- Each file of a report has the text that was emitted last under its name, and this text is an
artifact of the feature that the report gives. -/
structure HoldsUnits (before : Generator) (report : GenerationReport) (journal : Journal)
    (features : List String) (after : Work) : Prop where
  text : ∀ file feature, (file, feature) ∈ report.units.entries → feature ∈ features ∧
    ∃ text artifacts, lastText? journal file = some text ∧
      after.1.read (before.outDir.child file) = .ok text.toUTF8 ∧
      after.2.pipeline.remembered? feature = some artifacts ∧ ⟨file, text⟩ ∈ artifacts ∧
      (before.pipeline.Faithful features → Pipeline.TellsApart before.pipeline.setting features →
        before.pipeline.setting.rendered feature = .ok artifacts)

/-- A manifest names just the files of a report, each with its feature and the digest of its bytes. -/
structure RecordsUnits (generator : Generator) (report : GenerationReport) (disk : Disk)
    (manifest : Manifest) : Prop where
  suffix : manifest.suffix = generator.pipeline.setting.convention.suffix
  fingerprint : manifest.templateFingerprint = generator.pipeline.setting.renderer.fingerprint
  entries : ∀ file feature digest, (file, ⟨feature, digest⟩) ∈ manifest.artifacts.entries ↔
    (file, feature) ∈ report.units.entries ∧ disk.hashOf (generator.outDir.child file) = .ok digest
  fresh : ∀ file, manifest.isStale disk file generator.outDir = false ↔
    report.units.contains file = true

theorem holdsUnits_of_left {before : Work} {outcome : ScanOutcome} {units : List PreparedUnit}
    {made : Disk} {place : Location} {removed : List String} {after : Work} {triggers : List TriggerListing}
    (planned : Planned before.1 before.2 outcome units after.2)
    (left : Left before units made place removed after.1)
    (spared : SparesManifest (PreparedUnit.journal units))
    (listed : triggers = outcome.declarations.filterMap fun declaration =>
      (before.2.pipeline.setting.convention.feature? declaration).map fun feature =>
        ⟨declaration, feature⟩) :
    HoldsUnits before.2 (.ofUnits outcome.declarations.length units) (PreparedUnit.journal units)
      (triggers.map (·.feature)) after := by
  refine ⟨fun file feature reported => ?_⟩
  have found := NameMap.find?_eq_some_iff.mpr reported
  rw [PreparedUnit.find?_units] at found
  obtain ⟨⟨unit, artifact⟩, written, rfl⟩ := Option.map_eq_some_iff.mp found
  obtain ⟨member, emitted, rfl⟩ := PreparedUnit.lastWrite?_spec written
  have last : lastText? (PreparedUnit.journal units) artifact.fileName = some artifact.source := by
    rw [PreparedUnit.lastText?_journal, written]
    rfl
  obtain ⟨prepared, ends, rfl⟩ := planned.prepared
  have features : ∀ declaration ∈ outcome.declarations, ∀ feature,
      before.2.pipeline.setting.convention.feature? declaration = some feature →
        feature ∈ triggers.map (·.feature) := by
    intro declaration member feature named
    rw [listed]
    exact List.mem_map.mpr ⟨⟨declaration, feature⟩,
      List.mem_filterMap.mpr ⟨declaration, member, by rw [named]; rfl⟩, rfl⟩
  obtain ⟨⟨declaration, declared, named⟩, kept⟩ := Pipeline.remembered_of_prepared ends
    (by simpa using member)
  have known := features declaration declared _ named
  refine ⟨known, _, _, last, left.read spared last, kept, emitted, fun faithful apart => ?_⟩
  rw [← planned.setting]
  exact faithful.mapM_prepare ends apart features _ known _ kept

theorem recordsUnits_of_left {before : Work} {count : Nat} {units : List PreparedUnit} {made after : Disk}
    {place : Location} {removed : List String}
    (left : Left before units made place removed after)
    (spared : SparesManifest (PreparedUnit.journal units)) :
    RecordsUnits before.2 (.ofUnits count units) after
      (unitManifest before.2.pipeline.setting units) := by
  obtain ⟨-, suffix, fingerprint⟩ := unitManifest_spec before.2.pipeline.setting units
  have digest : ∀ {file unit artifact},
      PreparedUnit.lastWrite? units file = some (unit, artifact) →
      after.hashOf (before.2.outDir.child file) = .ok (Digest.Sha256.hexOfText artifact.source) := by
    intro file unit artifact written
    refine left.digest spared ?_
    rw [PreparedUnit.lastText?_journal, written]
    rfl
  refine ⟨suffix, fingerprint, fun file feature hash => ?_, fun file => ?_⟩
  · rw [← NameMap.find?_eq_some_iff, find?_unitManifest,
      ← NameMap.find?_eq_some_iff, PreparedUnit.find?_units]
    cases written : PreparedUnit.lastWrite? units file with
    | none => simp
    | some write => simp [digest written]
  · rw [Manifest.isStale, find?_unitManifest, NameMap.contains, PreparedUnit.find?_units]
    cases written : PreparedUnit.lastWrite? units file with
    | none => simp
    | some write => simp [digest written]

/-- A successful generation leaves its units and their manifest, and reaches a fixed point: from the
same sources a check finds nothing, and another generation changes nothing. -/
theorem settled_after_generate {disk disk' : Disk} {generator generator' : Generator}
    {summary : GenerationSummary} {reports : List Warning}
    (generated : generate.perform (disk, generator) = (.ok summary, (disk', generator'), reports))
    (spared : summary.report.units.contains Manifest.fileName = false)
    (same : Scanner.SameSources generator.scanner disk disk') :
    ∃ journal triggers manifest,
      (rehearse.perform (disk, generator)).1 = .ok (summary.report, journal) ∧
      (list.perform (disk, generator)).1 = .ok triggers ∧
      HoldsUnits generator summary.report journal (triggers.map (·.feature)) (disk', generator') ∧
      ((Manifest.load generator.outDir).perform disk').1 = .ok (some manifest) ∧
      RecordsUnits generator summary.report disk' manifest ∧
      ∀ again, again = generator ∨ again = generator' →
        (check.perform (disk', again)).1 = .ok [] ∧
        ∃ summary' disk'' generator'' reports',
          generate.perform (disk', again) = (.ok summary', (disk'', generator''), reports') ∧
          summary'.removed = [] ∧ ∀ location, disk''.entryAt? location = disk'.entryAt? location := by
  obtain ⟨outcome, units, made, written, stages⟩ := generated_of_ends (blind_generate.ends generated)
  have report : summary.report = .ofUnits outcome.declarations.length units := by rw [stages.summary]
  have spared : SparesManifest (PreparedUnit.journal units) := by
    rw [report] at spared
    exact sparesManifest_of_report spared
  obtain ⟨place, removed, left, -⟩ := left_of_generated stages spared
  obtain ⟨_, rehearsed⟩ := (rehearse_ends stages.planned).perform
  obtain ⟨_, listed⟩ := (list_ends stages.planned.scanned).perform
  obtain ⟨_, loaded⟩ := (Manifest.load_ends generator.outDir disk').perform
  refine ⟨PreparedUnit.journal units, _, _, by rw [rehearsed, report], by rw [listed], ?_,
    by rw [loaded, left.loaded], ?_, fun again either => ?_⟩
  · rw [report]
    exact holdsUnits_of_left stages.planned left spared rfl
  · rw [report]
    exact recordsUnits_of_left left spared
  · obtain ⟨outcome', units', after, planned, contents⟩ := stages.planned.again same either
    obtain ⟨directory, -, setting⟩ := settings_of_either stages.planned either
    obtain ⟨found, checked⟩ := left.checked spared directory planned contents
    obtain ⟨_, checked⟩ := (check_ends checked).perform
    obtain ⟨summary', disk'', ends, nothing, unchanged⟩ :=
      left.generated spared directory setting planned contents
    obtain ⟨reports', again⟩ := ends.perform
    exact ⟨by rw [checked], summary', disk'', after, reports', again, nothing, unchanged⟩

theorem settled_after_order :
    let disk : Disk := ⟨[(["orders.rs"], .file "struct OrderAggregate;".toUTF8)], []⟩
    let generator := writing "Order.g.rs" "mod order;"
    ∃ summary disk' generator' reports,
      generate.perform (disk, generator) = (.ok summary, (disk', generator'), reports) ∧
      summary.report.units.entries = [("Order.g.rs", "Order")] ∧
      (check.perform (disk', generator')).1 = .ok [] := by
  intro disk generator
  have units : (generate.perform (disk, generator)).1.toOption.map (·.report.units.entries) =
      some [("Order.g.rs", "Order")] := by decide +kernel
  have found : (generator.scanner.discover disk).toOption = some [⟨"orders.rs"⟩] := by decide +kernel
  have found' : (generator.scanner.discover (generate.perform (disk, generator)).2.1.1).toOption =
      some [⟨"orders.rs"⟩] := by decide +kernel
  have text : (disk.readText ⟨"orders.rs"⟩).toOption = some "struct OrderAggregate;" := by
    decide +kernel
  have text' : ((generate.perform (disk, generator)).2.1.1.readText ⟨"orders.rs"⟩).toOption =
      some "struct OrderAggregate;" := by decide +kernel
  rcases run : generate.perform (disk, generator) with ⟨result, ⟨disk', generator'⟩, reports⟩
  rw [run] at units found' text'
  cases result with
  | error fault => simp [Except.toOption] at units
  | ok summary =>
    have listed : summary.report.units.entries = [("Order.g.rs", "Order")] := Option.some.inj units
    have same : Scanner.SameSources generator.scanner disk disk' := by
      refine ⟨by rw [Except.toOption_eq_some_iff.mp found, Except.toOption_eq_some_iff.mp found'], ?_⟩
      intro files discovered file member
      rw [Except.toOption_eq_some_iff.mp found] at discovered
      obtain rfl := Except.ok.inj discovered
      obtain rfl := List.mem_singleton.mp member
      rw [Except.toOption_eq_some_iff.mp text, Except.toOption_eq_some_iff.mp text']
    have spared : summary.report.units.contains Manifest.fileName = false := by
      rw [NameMap.contains, NameMap.find?, listed]
      decide
    obtain ⟨-, -, -, -, -, -, -, -, settled⟩ := settled_after_generate run spared same
    exact ⟨summary, disk', generator', reports, rfl, listed, (settled generator' (.inr rfl)).1⟩

end Scaffold.Generator
