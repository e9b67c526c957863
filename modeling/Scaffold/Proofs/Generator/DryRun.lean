import Scaffold.Proofs.Generator.Effect
import Scaffold.Proofs.Generator.Ending
import Scaffold.Run

/-! A check and a generation from the same state. Both prepare the same units and look for the same
manifest, so that the check foretells what the generation does. -/

namespace Scaffold.Generator

open Disk Path

/-- Plans from the same state are the same. -/
theorem Planned.unique {disk : Disk} {first second first' second' : Generator}
    {outcome outcome' : ScanOutcome} {units units' : List PreparedUnit}
    (planned : Planned disk first outcome units first')
    (planned' : Planned disk second outcome' units' second') (scanner : second.scanner = first.scanner)
    (pipeline : second.pipeline = first.pipeline) : outcome' = outcome ∧ units' = units := by
  obtain ⟨prepared, ends, rfl⟩ := planned.prepared
  obtain ⟨prepared', ends', rfl⟩ := planned'.prepared
  have scanned := planned'.scanned
  rw [scanner] at scanned
  obtain ⟨same, -⟩ := planned.scanned.unique scanned
  obtain rfl := Except.ok.inj same
  rw [pipeline] at ends'
  obtain ⟨same, -⟩ := ends.unique ends'
  obtain rfl := Except.ok.inj same
  exact ⟨rfl, rfl⟩

/-- The names of the files that would no longer be generated, in order. -/
def orphanedNames (drift : List Drift) : List String :=
  drift.filterMap fun
    | .orphaned name => some name
    | _ => none

theorem mem_orphanedNames_iff {drift : List Drift} {name : String} :
    name ∈ orphanedNames drift ↔ .orphaned name ∈ drift := by
  rw [orphanedNames, List.mem_filterMap]
  constructor
  · rintro ⟨entry, member, same⟩
    cases entry with
    | orphaned other => exact Option.some.inj same ▸ member
    | _ => contradiction
  · intro member
    exact ⟨_, member, rfl⟩

/-! ### What a check says -/

section Checking

variable {before after : Work} {drift : List Drift} {outcome : ScanOutcome}
  {units : List PreparedUnit} {found : List (Option Drift)}
  (checked : Checked before drift outcome units found after)

include checked

/-- Each unit is there with some text, or it is missing. -/
theorem Checked.compared_unit {name text : String}
    (last : lastText? (PreparedUnit.journal units) name = some text) :
    before.1.readText (before.2.outDir.child name) = .error .notFound ∧ some (.missing name) ∈ found ∨
      ∃ actual, before.1.readText (before.2.outDir.child name) = .ok actual ∧
        (actual = text ∨ ∃ diff, some (.changed name diff) ∈ found) := by
  have listed : (name, text) ∈ (texts units).entries := by
    rw [← NameMap.find?_eq_some_iff, find?_texts]
    exact last
  obtain ⟨result, member, compared⟩ := (Except.mapM_spec checked.compared).1 _ listed
  rcases compareUnit_spec compared with ⟨missing, rfl⟩ | ⟨actual, read, ⟨same, -⟩ | ⟨-, diff, rfl⟩⟩
  · exact .inl ⟨missing, member⟩
  · exact .inr ⟨actual, read, .inl same⟩
  · exact .inr ⟨actual, read, .inr ⟨diff, member⟩⟩

/-- What is found about a unit holds of it. -/
theorem Checked.of_found {entry : Drift} (member : some entry ∈ found) :
    ∃ name text, lastText? (PreparedUnit.journal units) name = some text ∧
      (entry = .missing name ∧
          before.1.readText (before.2.outDir.child name) = .error .notFound ∨
        (∃ diff, entry = .changed name diff) ∧ ∃ actual, actual ≠ text ∧
          before.1.readText (before.2.outDir.child name) = .ok actual) := by
  obtain ⟨⟨name, text⟩, listed, compared⟩ := (Except.mapM_spec checked.compared).2 _ member
  rw [← NameMap.find?_eq_some_iff, find?_texts] at listed
  refine ⟨name, text, listed, ?_⟩
  rcases compareUnit_spec compared with
    ⟨missing, same⟩ | ⟨actual, read, ⟨-, same⟩ | ⟨different, diff, same⟩⟩
  · exact .inl ⟨Option.some.inj same, missing⟩
  · contradiction
  · exact .inr ⟨⟨diff, Option.some.inj same⟩, actual, different, read⟩

theorem Checked.mem_drift_iff (entry : Drift) (unorphaned : ∀ name, entry ≠ .orphaned name) :
    entry ∈ drift ↔ some entry ∈ found := by
  rw [checked.drift, List.mem_append, List.mem_filterMap]
  have none_of_orphans : ∀ previous, entry ∉ Generator.orphans before.1 before.2.outDir previous
      (GenerationReport.ofUnits outcome.declarations.length units).units := by
    intro previous member
    obtain ⟨name, -, same⟩ := List.mem_map.mp member
    exact unorphaned name same.symm
  constructor
  · rintro (⟨other, member, same⟩ | member)
    · exact same ▸ member
    · split at member
      · exact absurd member (none_of_orphans _)
      · simp at member
  · intro member
    exact .inl ⟨_, member, rfl⟩

theorem Checked.missing_iff (name : String) : .missing name ∈ drift ↔
    ∃ text, lastText? (PreparedUnit.journal units) name = some text ∧
      before.1.readText (before.2.outDir.child name) = .error .notFound := by
  rw [checked.mem_drift_iff _ (by simp)]
  constructor
  · intro member
    obtain ⟨other, text, last, ⟨same, missing⟩ | ⟨⟨_, other⟩, -⟩⟩ := checked.of_found member
    · obtain rfl := Drift.missing.inj same
      exact ⟨text, last, missing⟩
    · contradiction
  · rintro ⟨text, last, missing⟩
    obtain ⟨-, member⟩ | ⟨actual, found, -⟩ := checked.compared_unit last
    · exact member
    · rw [missing] at found
      contradiction

theorem Checked.changed_iff (name : String) : (∃ diff, .changed name diff ∈ drift) ↔
    ∃ text actual, lastText? (PreparedUnit.journal units) name = some text ∧ actual ≠ text ∧
      before.1.readText (before.2.outDir.child name) = .ok actual := by
  simp only [checked.mem_drift_iff (.changed name _) (by simp)]
  constructor
  · rintro ⟨diff, member⟩
    obtain ⟨other, text, last, ⟨same, -⟩ | ⟨⟨_, same⟩, actual, different, looked⟩⟩ :=
      checked.of_found member
    · contradiction
    · obtain ⟨rfl, -⟩ := Drift.changed.inj same
      exact ⟨text, actual, last, different, looked⟩
  · rintro ⟨text, actual, last, different, looked⟩
    obtain ⟨missing, -⟩ | ⟨actual', looked', same | member⟩ := checked.compared_unit last
    · rw [missing] at looked
      contradiction
    · rw [looked'] at looked
      exact absurd ((Except.ok.inj looked).symm.trans same) different
    · exact member

theorem Checked.orphanedNames_eq : orphanedNames drift =
    match Manifest.stored? before.1 before.2.outDir with
    | some previous => previous.artifacts.keys.filter fun name =>
      !(GenerationReport.ofUnits outcome.declarations.length units).units.contains name &&
        before.1.isFile (before.2.outDir.child name)
    | none => [] := by
  have unorphaned : orphanedNames (found.filterMap id) = [] := by
    refine List.eq_nil_iff_forall_not_mem.mpr fun name member => ?_
    obtain ⟨_, listed, rfl⟩ := List.mem_filterMap.mp (mem_orphanedNames_iff.mp member)
    obtain ⟨other, text, -, ⟨same, -⟩ | ⟨⟨_, same⟩, -⟩⟩ := checked.of_found listed
    · contradiction
    · contradiction
  rw [checked.drift, orphanedNames, List.filterMap_append, ← orphanedNames, unorphaned, List.nil_append]
  cases Manifest.stored? before.1 before.2.outDir with
  | none => rfl
  | some previous =>
    dsimp only [Generator.orphans]
    rw [List.filterMap_map]
    exact List.filterMap_some

end Checking

/-! ### What a generation does then -/

/-- Of the units just those that are said to be missing are new, just those that are said to be changed
get other bytes, and the others keep theirs. -/
structure ForetellsUnits (before after : Disk) (outDir : Path) (units : NameMap String)
    (drift : List Drift) : Prop where
  missing : ∀ name, .missing name ∈ drift ↔ units.contains name = true ∧
    before.contains (outDir.child name) = false ∧ after.contains (outDir.child name) = true
  changed : ∀ name, (∃ diff, .changed name diff ∈ drift) ↔ units.contains name = true ∧
    ∃ old new, before.read (outDir.child name) = .ok old ∧ after.read (outDir.child name) = .ok new ∧
      old ≠ new
  kept : ∀ name, units.contains name = true → .missing name ∉ drift →
    (∀ diff, .changed name diff ∉ drift) → ∃ content, before.read (outDir.child name) = .ok content ∧
      after.read (outDir.child name) = .ok content

/-- The orphans are removed in order, and no other file but the manifest changes. -/
structure ForetellsOrphans (before after : Disk) (outDir : Path) (place : Location)
    (units : NameMap String) (removed : List Path) (drift : List Drift) : Prop where
  removed : (orphanedNames drift).map outDir.child = removed
  others : ∀ location content, (∀ name, location = place ++ [name] → units.contains name = false ∧
      .orphaned name ∉ drift ∧ name ≠ Manifest.fileName) →
    (after.entryAt? location = some (.file content) ↔ before.entryAt? location = some (.file content))

section Foretelling

variable {before after : Work} {drift : List Drift} {outcome : ScanOutcome}
  {units : List PreparedUnit} {found : List (Option Drift)} {made disk : Disk} {place : Location}
  {removed : List String} (checked : Checked before drift outcome units found after)
  (left : Left (before.1, { before.2 with cleanOrphans := true }) units made place removed disk)

include checked left

theorem foretellsUnits_of_left (count : Nat) (spared : SparesManifest (PreparedUnit.journal units)) :
    ForetellsUnits before.1 disk before.2.outDir (GenerationReport.ofUnits count units).units drift := by
  have written : ∀ {name text}, lastText? (PreparedUnit.journal units) name = some text →
      disk.read (before.2.outDir.child name) = .ok text.toUTF8 := fun last => left.read spared last
  refine ⟨fun name => ?_, fun name => ?_, fun name listed present unchanged => ?_⟩
  · rw [checked.missing_iff, contains_units_iff]
    constructor
    · rintro ⟨text, last, missing⟩
      exact ⟨⟨text, last⟩, not_contains_of_readText missing, contains_of_read (written last)⟩
    · rintro ⟨⟨text, last⟩, missing, -⟩
      obtain ⟨notFound, -⟩ | ⟨actual, looked, -⟩ := checked.compared_unit last
      · exact ⟨text, last, notFound⟩
      · rw [contains_of_read (read_of_readText looked)] at missing
        contradiction
  · rw [checked.changed_iff, contains_units_iff]
    constructor
    · rintro ⟨text, actual, last, different, looked⟩
      refine ⟨⟨text, last⟩, _, _, read_of_readText looked, written last, fun same => ?_⟩
      exact different (String.toByteArray_inj.mp same)
    · rintro ⟨⟨text, last⟩, old, new, read, read', different⟩
      obtain ⟨notFound, -⟩ | ⟨actual, looked, -⟩ := checked.compared_unit last
      · have missing := not_contains_of_readText notFound
        rw [contains_of_read read] at missing
        contradiction
      · refine ⟨text, actual, last, fun same => different ?_, looked⟩
        rw [read_of_readText looked] at read
        rw [written last] at read'
        rw [← Except.ok.inj read, ← Except.ok.inj read', same]
  · obtain ⟨text, last⟩ := (contains_units_iff count units name).mp listed
    obtain ⟨notFound, -⟩ | ⟨actual, looked, same⟩ := checked.compared_unit last
    · exact absurd ((checked.missing_iff name).mpr ⟨text, last, notFound⟩) present
    · have same : actual = text := by
        refine Classical.byContradiction fun different => ?_
        obtain ⟨diff, member⟩ := (checked.changed_iff name).mpr ⟨text, actual, last, different, looked⟩
        exact unchanged diff member
      exact ⟨_, read_of_readText (same ▸ looked), written last⟩

/-- Where the path led to its directory already, or there was no manifest in it, the orphans of a check
are those that a generation removes. -/
theorem orphanedNames_eq_removed (untouched : before.1.Leads before.2.outDir place → made = before.1)
    (reached : before.1.Leads before.2.outDir place ∨
      ∀ content, before.1.entryAt? (place ++ [Manifest.fileName]) ≠ some (.file content)) :
    orphanedNames drift = removed := by
  rw [checked.orphanedNames_eq, left.orphans]
  rcases reached with leads | bare
  · obtain rfl := untouched leads
    unfold Manifest.removable
    dsimp only
    cases stored : Manifest.stored? before.1 before.2.outDir with
    | none => rfl
    | some previous =>
      simp only [if_true, Manifest.orphansSince, List.filter_filter]
      refine List.filter_congr fun name listed => ?_
      have named : (unitManifest before.2.pipeline.setting units).artifacts.contains name =
          (GenerationReport.ofUnits outcome.declarations.length units).units.contains name := by
        rw [Bool.eq_iff_iff, contains_unitManifest_iff, contains_units_iff]
      rw [named, Manifest.own_of_stored stored name listed, Bool.and_true, Bool.and_comm]
  · -- The check may have found no way to the directory, but there is no manifest behind it either.
    have missing : Manifest.stored? made before.2.outDir = none :=
      Manifest.stored?_of_no_file left.leads fun content found =>
        bare content ((left.grown.file_iff _ _).mp found)
    have missing' : Manifest.stored? before.1 before.2.outDir = none := by
      refine Manifest.stored?_of_no_text fun text found => ?_
      obtain ⟨-, place', leads, entry⟩ := Manifest.readText_pathIn_iff.mp found
      obtain rfl := left.leads.unique (left.grown.keeps.leads leads)
      exact bare _ entry
    simp only [Manifest.removable, missing, missing']

end Foretelling

theorem foretellsOrphans_of_left {before : Work} {units : List PreparedUnit} {made disk : Disk}
    {place : Location} {removed : List String} {drift : List Drift}
    (left : Left before units made place removed disk) (count : Nat)
    (same : orphanedNames drift = removed) :
    ForetellsOrphans before.1 disk before.2.outDir place (GenerationReport.ofUnits count units).units
      (removed.map before.2.outDir.child) drift := by
  refine ⟨by rw [same], fun location content others => ?_⟩
  by_cases inside : ∃ name, location = place ++ [name]
  · obtain ⟨name, rfl⟩ := inside
    obtain ⟨unnamed, kept, other⟩ := others name rfl
    rw [← mem_orphanedNames_iff, same] at kept
    have unwritten : lastText? (PreparedUnit.journal units) name = none := by
      refine Option.eq_none_iff_forall_ne_some.mpr fun text last => ?_
      rw [(contains_units_iff count units name).mpr ⟨text, last⟩] at unnamed
      contradiction
    rw [left.kept other kept unwritten, left.grown.file_iff]
  · rw [left.edited.outside location (not_exists.mp inside), left.grown.file_iff]

/-! ### Runs in check mode -/

theorem blind_generatorFor (config : Config) : (Run.generatorFor config).Blind := by
  refine Task.blind_current.bind fun disk => ?_
  split
  · exact Task.blind_throw _
  · exact (Task.blind_ofExcept _).mapError

theorem run_check_ends {config : Config} {disk : Disk} {generator : Generator} {drift : List Drift}
    {after : Work} (started : (Run.generatorFor config).Ends disk (.ok generator) disk)
    (checked : check.Ends (disk, generator) (.ok drift) after) :
    (Run.run config true false).Ends disk
      (.ok ⟨if drift.isEmpty then 0 else 1, Run.driftReport drift⟩) after.1 := by
  let report := fun drift : List Drift => RunResult.mk (if drift.isEmpty then 0 else 1) (Run.driftReport drift)
  have inner : (check >>= fun drift => pure (report drift)).Ends (disk, generator)
      (.ok (report drift)) after := checked.bind (Task.ends_pure _ _)
  have alone : (Run.withGenerator generator (check >>= fun drift => pure (report drift))).Ends disk
      (.ok (report drift)) after.1 := (Task.Ends.withLocal_ok inner).bind (Task.ends_pure _ _)
  exact started.bind alone.mapError

/-- A check finds nothing just if a generation keeps the bytes of all units and removes nothing. -/
theorem drift_isEmpty_iff {before after : Disk} {outDir : Path} {place : Location}
    {units : NameMap String} {removed : List Path} {drift : List Drift}
    (about_units : ForetellsUnits before after outDir units drift)
    (about_orphans : ForetellsOrphans before after outDir place units removed drift) :
    drift.isEmpty = true ↔ (∀ name, units.contains name = true →
      ∃ content, before.read (outDir.child name) = .ok content ∧
        after.read (outDir.child name) = .ok content) ∧ removed = [] := by
  rw [List.isEmpty_iff]
  constructor
  · rintro rfl
    exact ⟨fun name listed => about_units.kept name listed (by simp) (by simp),
      about_orphans.removed.symm⟩
  · rintro ⟨kept, rfl⟩
    refine List.eq_nil_iff_forall_not_mem.mpr fun entry member => ?_
    cases entry with
    | missing name =>
      obtain ⟨listed, missing, -⟩ := (about_units.missing name).mp member
      obtain ⟨content, read, -⟩ := kept name listed
      rw [contains_of_read read] at missing
      contradiction
    | changed name diff =>
      obtain ⟨listed, old, new, read, read', different⟩ := (about_units.changed name).mp ⟨diff, member⟩
      obtain ⟨content, same, same'⟩ := kept name listed
      rw [read] at same
      rw [read'] at same'
      exact different (Except.ok.inj (same.trans same'.symm))
    | orphaned name =>
      have orphans := List.map_eq_nil_iff.mp about_orphans.removed
      rw [← mem_orphanedNames_iff, orphans] at member
      contradiction

/-- A check and a generation from the same state agree about the units. They agree about the orphans
and all other files too, if the output path led to its directory already or there was no manifest in
it; a run in check mode then ends with code zero just if the generation keeps all units and removes
nothing. -/
theorem check_foretells_generate {disk disk' : Disk} {generator generator' : Generator} {after : Work}
    {drift : List Drift} {summary : GenerationSummary} {reports reports' : List Warning}
    (checked : check.perform (disk, generator) = (.ok drift, after, reports))
    (generated : generate.perform (disk, { generator with cleanOrphans := true }) =
      (.ok summary, (disk', generator'), reports'))
    (spared : summary.report.units.contains Manifest.fileName = false) :
    ForetellsUnits disk disk' generator.outDir summary.report.units drift ∧
      ∃ place, disk'.Leads generator.outDir place ∧
        ((disk.Leads generator.outDir place ∨
            ∀ content, disk.entryAt? (place ++ [Manifest.fileName]) ≠ some (.file content)) →
          ForetellsOrphans disk disk' generator.outDir place summary.report.units summary.removed drift ∧
          ∀ config started, (Run.generatorFor config).perform disk = (.ok generator, disk, started) →
            ∃ result, ((Run.run config true false).perform disk).1 = .ok result ∧
              (result.code = 0 ↔ (∀ name, summary.report.units.contains name = true →
                ∃ content, disk.read (generator.outDir.child name) = .ok content ∧
                  disk'.read (generator.outDir.child name) = .ok content) ∧ summary.removed = [])) := by
  have checking := blind_check.ends checked
  obtain ⟨outcome, units, found, checked⟩ := checked_of_ends checking
  obtain ⟨outcome', units', made, written, stages⟩ :=
    generated_of_ends (blind_generate.ends generated)
  obtain ⟨rfl, rfl⟩ := checked.planned.unique stages.planned rfl rfl
  have report : summary.report = .ofUnits outcome'.declarations.length units' := by rw [stages.summary]
  rw [report] at spared
  have spared := sparesManifest_of_report spared
  obtain ⟨place, removed, left, listed⟩ := left_of_generated stages spared
  have about_units := foretellsUnits_of_left checked left outcome'.declarations.length spared
  rw [report]
  refine ⟨about_units, place, left.leads_after, fun reached => ?_⟩
  have orphans := orphanedNames_eq_removed checked left stages.made_of_leads reached
  have about_orphans := foretellsOrphans_of_left left outcome'.declarations.length orphans
  rw [listed]
  refine ⟨about_orphans, fun config started starting => ?_⟩
  obtain ⟨_, ran⟩ := (run_check_ends ((blind_generatorFor config).ends starting) checking).perform
  refine ⟨_, by rw [ran], ?_⟩
  rw [← drift_isEmpty_iff about_units about_orphans]
  cases drift.isEmpty <;> simp

theorem foretold_drift_order :
    let previous := ((Manifest.new "" "").record "Old.g.rs" "" "").record "Order.g.rs" "" ""
    let disk : Disk := ⟨[(["orders.rs"], .file "struct OrderAggregate;".toUTF8), (["out"], .directory),
      (["out", "Old.g.rs"], .file "mod old;".toUTF8), (["out", "Order.g.rs"], .file "mod old;".toUTF8),
      (["out", Manifest.fileName], .file previous.print.toUTF8)], []⟩
    let order := Renderer.constant "Order.g.rs" "mod order;"
    let renderer : Renderer := ⟨order.specs ++ [⟨"second", "mod orders;", "Orders.g.rs"⟩],
      ⟨order.library.templates ++ [⟨"second", "mod orders;", [.text "mod orders;"], none, [], [], []⟩,
        ⟨"second#file_name", "Orders.g.rs", [.text "Orders.g.rs"], none, [], [], []⟩]⟩⟩
    let generator := { writing "Order.g.rs" "mod order;" with
      pipeline := .ofSetting ⟨.default, renderer, .off, false⟩ }
    let diff := "--- Order.g.rs (on disk)\n+++ Order.g.rs (generated)\n@@ -1 +1 @@\n" ++
      "-mod old;\n\\ No newline at end of file\n+mod order;\n\\ No newline at end of file\n"
    let drift : List Drift :=
      [.changed "Order.g.rs" diff, .missing "Orders.g.rs", .orphaned "Old.g.rs"]
    ∃ summary disk', (check.perform (disk, generator)).1 = .ok drift ∧
      (generate.perform (disk, generator)).1 = .ok summary ∧
      ForetellsUnits disk disk' generator.outDir summary.report.units drift ∧
      ForetellsOrphans disk disk' generator.outDir ["out"] summary.report.units summary.removed drift ∧
      summary.removed = [(Path.mk "out").child "Old.g.rs"] := by
  intro previous disk order renderer generator diff drift
  obtain ⟨found, rehearsed⟩ : (check.perform (disk, generator)).1.toOption = some drift ∧
      (rehearse.perform (disk, generator)).1.toOption.map (·.2) =
        some [⟨"Order.g.rs", "mod order;"⟩, ⟨"Orders.g.rs", "mod orders;"⟩] := by decide +kernel
  have leads : disk.Leads ⟨"out"⟩ ["out"] := leads_of_isDirectory (by decide +kernel) (by decide +kernel)
  obtain ⟨summary, ⟨disk', generator'⟩, reports, generated, -, names, leads'⟩ :=
    exists_generation rehearsed leads (by decide +kernel)
  rcases checked : check.perform (disk, generator) with ⟨result, after, reports'⟩
  rw [checked] at found
  obtain rfl := Except.toOption_eq_some_iff.mp found
  obtain ⟨about_units, place, reached, about_orphans⟩ := check_foretells_generate checked generated (names _)
  obtain rfl := leads'.unique reached
  obtain ⟨about_orphans, -⟩ := about_orphans (.inl leads)
  exact ⟨summary, disk', rfl, by rw [generated], about_units, about_orphans, about_orphans.removed.symm⟩

/-- Where a directory on the output path is missing, a check cannot see behind it. The generation makes
that directory, and then finds a manifest and removes its orphan. -/
theorem orphan_behind_missing_directory :
    let disk : Disk := ⟨[(["orders.rs"], .file "".toUTF8), (["out"], .directory),
      (["out", "Old.g.rs"], .file "".toUTF8),
      (["out", Manifest.fileName], .file ((Manifest.new "" "").record "Old.g.rs" "" "").print.toUTF8)], []⟩
    let generator : Generator := { writing "New.g.rs" "mod order;" with outDir := ⟨"new/../out"⟩ }
    ∃ drift summary, (check.perform (disk, generator)).1 = .ok drift ∧
      (generate.perform (disk, { generator with cleanOrphans := true })).1 = .ok summary ∧
      summary.report.units.contains Manifest.fileName = false ∧
      (orphanedNames drift).map generator.outDir.child ≠ summary.removed := by
  intro disk generator
  have found : (check.perform (disk, generator)).1.toOption = some [] := by decide +kernel
  have done : (generate.perform (disk, { generator with cleanOrphans := true })).1.toOption.map
      (fun summary => (summary.report.units.entries, summary.removed)) =
      some ([], [⟨"new/../out/Old.g.rs"⟩]) := by decide +kernel
  obtain ⟨summary, ended, same⟩ := Option.map_eq_some_iff.mp done
  obtain ⟨units, removed⟩ := Prod.mk.inj same
  refine ⟨[], summary, Except.toOption_eq_some_iff.mp found, Except.toOption_eq_some_iff.mp ended, ?_, ?_⟩
  · rw [NameMap.contains, NameMap.find?, units]
    rfl
  · rw [removed]
    decide

end Scaffold.Generator
