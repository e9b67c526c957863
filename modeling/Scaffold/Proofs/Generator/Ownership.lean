import Scaffold.Proofs.Generator.Confinement
import Scaffold.Proofs.Generator.Forgetting
import Scaffold.Proofs.Generator.History

/-! To whom a manifest belongs. Between two generations it is what the last successful one saved, and
what a generation removes is decided by it alone, unless a unit has the name of the manifest: such a
unit is written over the manifest, and the manifest is then saved over the unit. -/

namespace Scaffold

open Disk Path

/-- A file of another name leaves the manifest as it is, in every directory. -/
theorem DirectorySink.manifest_of_emit {name text : String} {before after : Disk × DirectorySink}
    {result : Except Fault Unit} {reports : List Warning}
    (performed : (emit name text).perform before = (result, after, reports))
    (other : name ≠ Manifest.fileName) (place : Location) :
    after.1.entryAt? (place ++ [Manifest.fileName]) =
      before.1.entryAt? (place ++ [Manifest.fileName]) := by
  obtain ⟨result', disk', sink', reports', performed', confined⟩ :=
    emit_confined name text before.1 before.2
  obtain ⟨-, rfl, -⟩ : result = result' ∧ after = (disk', sink') ∧ reports = reports' := by
    simpa using performed.symm.trans performed'
  rcases confined with ⟨-, -, -, changed⟩ | ⟨-, -, same, -⟩
  · by_contra different
    obtain ⟨-, place', -, same⟩ := changed _ different
    have named := (List.append_inj' same rfl).2
    exact other (List.cons.inj named).1.symm
  · rw [same]

namespace Generator

/-! ### Single calls -/

theorem Generated.confined {before after : Work} {summary : GenerationSummary} {outcome : ScanOutcome}
    {units : List PreparedUnit} {made written : Disk}
    (generated : Generated before summary outcome units made written after) :
    Confined before.1 after.1 before.2.outDir := by
  obtain ⟨place, removed, leads, -, orphans, -, -, edited⟩ := generated.edited
  refine .of_edited (grown_makeDirectories generated.directories) edited leads fun name spoken => ?_
  rcases of_edit spoken with rfl | gone | ⟨text, last⟩
  · exact Manifest.entryName_fileName
  · rw [orphans] at gone
    obtain ⟨-, -, -, -, -, plain, is⟩ := of_mem_removable gone
    exact ((isFile_iff plain).mp is).1.entry
  · exact (generated.fits _ (mem_of_lastText? last)).entry

theorem Ending.confined {before after : Work} {result : Except Fault GenerationSummary}
    (ending : Ending before result after) : Confined before.1 after.1 before.2.outDir := by
  cases result with
  | error fault => exact ending.failure_confined.1
  | ok summary =>
    cases ending with
    | finished generated => exact generated.confined

/-- Files in a directory to which no path leads stay as they are. -/
theorem Confined.file_iff {disk after : Disk} {outDir : Path} {place : Location}
    (confined : Confined disk after outDir) (apart : ¬ after.Leads outDir place) (name : String)
    (content : ByteArray) : after.entryAt? (place ++ [name]) = some (.file content) ↔
      disk.entryAt? (place ++ [name]) = some (.file content) := by
  by_cases same : after.entryAt? (place ++ [name]) = disk.entryAt? (place ++ [name])
  · rw [same]
  · rcases confined _ same with ⟨new, made⟩ | ⟨place', name', located, leads, -⟩
    · rw [new, made]
      simp
    · obtain ⟨rfl, -⟩ := List.append_inj' located rfl
      exact absurd leads apart

/-- Whatever its name, a unit is not removed, so that it is there unless it is the manifest. -/
theorem Generated.readText {before after : Work} {summary : GenerationSummary} {outcome : ScanOutcome}
    {units : List PreparedUnit} {made written : Disk}
    (generated : Generated before summary outcome units made written after) {name text : String}
    (other : name ≠ Manifest.fileName)
    (last : lastText? (PreparedUnit.journal units) name = some text) :
    after.1.readText (before.2.outDir.child name) = .ok text := by
  obtain ⟨place, removed, leads, -, orphans, -, -, edited⟩ := generated.edited
  have fits := generated.fits _ (mem_of_lastText? last)
  have stays : name ∉ removed := orphans ▸ not_mem_removable last
  have given : edit before.2.pipeline.setting units removed name = some (some text.toUTF8) := by
    rw [edit_kept _ _ other stays, Edit.ofJournal, last]
    rfl
  have there : after.1.entryAt? (place ++ [name]) = some (.file text.toUTF8) :=
    edited.inside_some given
  exact (readText_at (edited.same.leads_iff.mpr leads) fits.entry.isPlainName).mpr ⟨fits, there⟩

/-- After a successful generation a text that is no manifest is not in the place of the manifest. -/
theorem readText_manifest_ne {before : Work} {text : String}
    (succeeds : (generate.perform before).1.toOption.isSome = true)
    (foreign : Manifest.parse text = none) :
    (generate.perform before).2.1.1.readText (Manifest.pathIn before.2.outDir) ≠ .ok text := by
  rcases run : generate.perform before with ⟨result, after, reports⟩
  rw [run] at succeeds
  obtain ⟨summary, ended⟩ := Option.isSome_iff_exists.mp succeeds
  obtain rfl := Except.toOption_eq_some_iff.mp ended
  obtain ⟨outcome, units, made, written, generated⟩ := generated_of_ends (blind_generate.ends run)
  obtain ⟨place, removed, leads, room, -, -, -, edited⟩ := generated.edited
  have saved := Manifest.readText_pathIn_iff.mpr ⟨room, place, edited.same.leads_iff.mpr leads,
    edited.inside_some (edit_fileName before.2.pipeline.setting units removed)⟩
  intro found
  obtain rfl := Except.ok.inj (saved.symm.trans found)
  rw [Manifest.parse_print] at foreign
  contradiction

/-! ### Series of calls -/

namespace Attempt

/-- The call was successful, and this is the manifest that it saved in a place. -/
def Saves (attempt : Attempt) (place : Location) (content : ByteArray) : Prop :=
  attempt.after.Leads attempt.generator.outDir place ∧ ∃ summary journal,
    attempt.result = .ok summary ∧
    (rehearse.perform (attempt.before, attempt.generator)).1 = .ok (summary.report, journal) ∧
    content = (manifestOf attempt.generator.pipeline.setting summary.report
      (DirectorySink.digests journal .empty)).print.toUTF8

/-- The call failed, and the manifest in this place may have been overwritten by one of its units. -/
structure Spoils (attempt : Attempt) (place : Location) : Prop where
  failed : ∀ summary, attempt.result ≠ .ok summary
  leads : attempt.after.Leads attempt.generator.outDir place
  hits : attempt.HitsManifest

end Attempt

/-- The disks that calls of `generate` lead to, each series with its last call first. The calls may
have any setting and any directory, and they may fail. Between two of them anything may happen, save
to the manifest in one place. -/
inductive Calls (place : Location) (start : Disk) : List Attempt → Disk → Prop
  | nothing : Calls place start [] start
  | meanwhile {attempts : List Attempt} {disk disk' : Disk}
      (earlier : Calls place start attempts disk)
      (kept : disk'.entryAt? (place ++ [Manifest.fileName]) =
        disk.entryAt? (place ++ [Manifest.fileName])) :
      Calls place start attempts disk'
  | generate {attempts : List Attempt} {disk disk' : Disk} {generator generator' : Generator}
      {result : Except Fault GenerationSummary} {reports : List Warning}
      (earlier : Calls place start attempts disk)
      (performed : generate.perform (disk, generator) = (result, (disk', generator'), reports)) :
      Calls place start (⟨disk, generator, result, disk'⟩ :: attempts) disk'

/-- The manifest that the last successful call for a place saved, or that was there from the start. -/
def LastSaved (start : Disk) (place : Location) : List Attempt → ByteArray → Prop
  | [], content => start.entryAt? (place ++ [Manifest.fileName]) = some (.file content)
  | attempt :: earlier, content => attempt.Saves place content ∨
      (∀ other, ¬ attempt.Saves place other) ∧ LastSaved start place earlier content

theorem lastSaved_cons_of_saves {start : Disk} {place : Location} {attempt : Attempt}
    {earlier : List Attempt} {saved : ByteArray} (saves : attempt.Saves place saved)
    (content : ByteArray) :
    LastSaved start place (attempt :: earlier) content ↔ content = saved := by
  have unique : ∀ other, attempt.Saves place other → other = saved := by
    rintro other ⟨-, summary, journal, ended, rehearsed, rfl⟩
    obtain ⟨-, summary', journal', ended', rehearsed', rfl⟩ := saves
    obtain rfl := Except.ok.inj (ended.symm.trans ended')
    obtain ⟨-, rfl⟩ := Prod.mk.inj (Except.ok.inj (rehearsed.symm.trans rehearsed'))
    rfl
  constructor
  · rintro (own | ⟨none, -⟩)
    · exact unique content own
    · exact absurd saves (none saved)
  · rintro rfl
    exact .inl saves

theorem lastSaved_cons_of_not_saves {start : Disk} {place : Location} {attempt : Attempt}
    {earlier : List Attempt} (none : ∀ other, ¬ attempt.Saves place other) (content : ByteArray) :
    LastSaved start place (attempt :: earlier) content ↔ LastSaved start place earlier content := by
  constructor
  · rintro (own | ⟨-, before⟩)
    · exact absurd own (none content)
    · exact before
  · exact fun before => .inr ⟨none, before⟩

theorem Generated.saves {before after : Work} {summary : GenerationSummary} {outcome : ScanOutcome}
    {units : List PreparedUnit} {made written : Disk}
    (generated : Generated before summary outcome units made written after) {place : Location}
    (leads : after.1.Leads before.2.outDir place) :
    Attempt.Saves ⟨before.1, before.2, .ok summary, after.1⟩ place
      (unitManifest before.2.pipeline.setting units).print.toUTF8 := by
  obtain ⟨_, rehearsed⟩ := (rehearse_ends generated.planned).perform
  have report := generated.report
  refine ⟨leads, summary, PreparedUnit.journal units, rfl, ?_, ?_⟩
  · rw [rehearsed, report]
  · rw [report]
    rfl

section Steps

variable {place : Location} {start : Disk} {attempts : List Attempt} {before after : Work}
  (known : ∀ content, before.1.entryAt? (place ++ [Manifest.fileName]) = some (.file content) ↔
    LastSaved start place attempts content)

include known

/-- A failed call saves nothing, and keeps what is there. -/
theorem manifest_after_failure {fault : Fault} (ending : Ending before (.error fault) after)
    (unspoiled : ¬ Attempt.Spoils ⟨before.1, before.2, .error fault, after.1⟩ place)
    (content : ByteArray) :
    after.1.entryAt? (place ++ [Manifest.fileName]) = some (.file content) ↔
      LastSaved start place (⟨before.1, before.2, .error fault, after.1⟩ :: attempts) content := by
  have none : ∀ other, ¬ Attempt.Saves ⟨before.1, before.2, .error fault, after.1⟩ place other := by
    rintro other ⟨-, summary, journal, ended, -⟩
    contradiction
  rw [lastSaved_cons_of_not_saves none, ← known]
  by_cases leads : after.1.Leads before.2.outDir place
  · refine ending.manifest_of_failure (fun other leads' => leads'.unique leads) ?_ content
    intro report journal rehearsed
    by_contra hit
    exact unspoiled ⟨by simp, leads, report, journal, rehearsed, hit⟩
  · exact ending.confined.file_iff leads _ content

/-- A successful call saves its manifest in its own place. -/
theorem manifest_after_success {summary : GenerationSummary} (ending : Ending before (.ok summary) after)
    (content : ByteArray) :
    after.1.entryAt? (place ++ [Manifest.fileName]) = some (.file content) ↔
      LastSaved start place (⟨before.1, before.2, .ok summary, after.1⟩ :: attempts) content := by
  cases ending with
  | @finished _ outcome units made written _ generated =>
  by_cases leads : after.1.Leads before.2.outDir place
  · obtain ⟨place', leads', printed⟩ := generated.manifest
    obtain rfl := leads.unique leads'
    rw [lastSaved_cons_of_saves (generated.saves leads), printed]
    simp [eq_comm]
  · have none : ∀ other, ¬ Attempt.Saves ⟨before.1, before.2, .ok summary, after.1⟩ place other :=
      fun other saves => leads saves.1
    rw [lastSaved_cons_of_not_saves none, ← known]
    exact generated.confined.file_iff leads _ content

end Steps

theorem manifest_of_calls {place : Location} {start disk : Disk} {attempts : List Attempt}
    (calls : Calls place start attempts disk)
    (unspoiled : ∀ attempt ∈ attempts, ¬ attempt.Spoils place) (content : ByteArray) :
    disk.entryAt? (place ++ [Manifest.fileName]) = some (.file content) ↔
      LastSaved start place attempts content := by
  induction calls generalizing content with
  | nothing => rfl
  | meanwhile _ kept ih =>
    rw [kept]
    exact ih unspoiled content
  | @generate attempts disk disk' generator generator' result reports _ performed ih =>
    obtain ⟨last, earlier⟩ := List.forall_mem_cons.mp unspoiled
    have ending := ending_of_ends (blind_generate.ends performed)
    cases result with
    | error fault => exact manifest_after_failure (ih earlier) ending last content
    | ok summary => exact manifest_after_success (ih earlier) ending content

/-- What a successful call makes of the manifest that it finds: it reads the one that was saved last,
and removes the files that this one records and the units do not name. -/
structure GoesBy (saved : ByteArray → Prop) (before : Work) (place : Location)
    (summary : GenerationSummary) (after : Work) : Prop where
  reads : ∃ outcome units made written, Generated before summary outcome units made written after ∧
    ∀ content, written.entryAt? (place ++ [Manifest.fileName]) = some (.file content) ↔ saved content
  removes : ∀ path, path ∈ summary.removed ↔ before.2.cleanOrphans = true ∧
    ∃ name text manifest, path = before.2.outDir.child name ∧
      saved text.toUTF8 ∧ Manifest.parse text = some manifest ∧
      manifest.artifacts.contains name = true ∧ summary.report.units.contains name = false ∧
      Fits before.2.outDir name ∧ before.1.FileAt (place ++ [name])

theorem Generated.goesBy {before after : Work} {summary : GenerationSummary} {outcome : ScanOutcome}
    {units : List PreparedUnit} {made written : Disk} {place : Location}
    (generated : Generated before summary outcome units made written after)
    (spared : SparesManifest (PreparedUnit.journal units))
    (leads : after.1.Leads before.2.outDir place) {saved : ByteArray → Prop}
    (known : ∀ content, before.1.entryAt? (place ++ [Manifest.fileName]) = some (.file content) ↔
      saved content) : GoesBy saved before place summary after := by
  have grown := grown_makeDirectories generated.directories
  refine ⟨⟨outcome, units, made, written, generated, fun content => ?_⟩, fun path => ?_⟩
  · obtain ⟨place', removed, leads', -, -, -, emitted, edited⟩ := generated.edited
    obtain rfl := leads.unique (edited.same.leads_iff.mpr leads')
    have kept : Edit.ofJournal (PreparedUnit.journal units) Manifest.fileName = none := by
      rw [Edit.ofJournal, spared.lastText?]
      rfl
    rw [emitted.inside_none kept, grown.file_iff, known]
  · have report := generated.report
    obtain ⟨place', removed, left, listed⟩ := left_of_generated generated spared
    obtain rfl := leads.unique left.leads_after
    rw [listed, List.mem_map]
    constructor
    · rintro ⟨name, gone, rfl⟩
      obtain ⟨cleaning, ⟨text, manifest, entry, read, recorded⟩, unnamed, fits, there⟩ :=
        left.mem_removed_iff.mp gone
      refine ⟨cleaning, name, text, manifest, rfl, (known _).mp entry, read, recorded, ?_, fits, there⟩
      rw [report]
      exact (units_unnamed_iff _ _ _).mpr unnamed
    · rintro ⟨cleaning, name, text, manifest, rfl, entry, read, recorded, unnamed, fits, there⟩
      rw [report, units_unnamed_iff] at unnamed
      refine ⟨name, left.mem_removed_iff.mpr ⟨cleaning, ?_, unnamed, fits, there⟩, rfl⟩
      exact ⟨text, manifest, (known _).mpr entry, read, recorded⟩

/-- After any calls the manifest in a place is the one that the last successful call for it saved, or
the one that was there from the start, if no call failed in which a unit had its name. It can be changed
by emission under its own name only. A successful call leaves its units with their emitted texts, and
goes by the manifest that was saved last, both save for a unit of the name of the manifest. -/
theorem manifest_saved_last {place : Location} {start disk : Disk} {attempts : List Attempt}
    (calls : Calls place start attempts disk)
    (unspoiled : ∀ attempt ∈ attempts, ¬ attempt.Spoils place) :
    (∀ content, disk.entryAt? (place ++ [Manifest.fileName]) = some (.file content) ↔
      LastSaved start place attempts content) ∧
    (∀ name text sink result after reports,
      (DirectorySink.emit name text).perform (disk, sink) = (result, after, reports) →
      name ≠ Manifest.fileName → after.1.entryAt? (place ++ [Manifest.fileName]) =
        disk.entryAt? (place ++ [Manifest.fileName])) ∧
    ∀ generator summary after reports,
      generate.perform (disk, generator) = (.ok summary, after, reports) →
      ∃ journal, (rehearse.perform (disk, generator)).1 = .ok (summary.report, journal) ∧
        (∀ name, name ≠ Manifest.fileName → summary.report.units.contains name = true →
          ∃ text, lastText? journal name = some text ∧
            after.1.readText (generator.outDir.child name) = .ok text) ∧
        (summary.report.units.contains Manifest.fileName = false →
          after.1.Leads generator.outDir place →
          GoesBy (LastSaved start place attempts) (disk, generator) place summary after) := by
  have known := manifest_of_calls calls unspoiled
  refine ⟨known, ?_, ?_⟩
  · intro name text sink result after reports performed other
    exact DirectorySink.manifest_of_emit performed other place
  · intro generator summary after reports performed
    obtain ⟨outcome, units, made, written, generated⟩ :=
      generated_of_ends (blind_generate.ends performed)
    have report := generated.report
    obtain ⟨_, rehearsed⟩ := (rehearse_ends generated.planned).perform
    refine ⟨PreparedUnit.journal units, by rw [rehearsed, report], ?_, ?_⟩
    · intro name other listed
      rw [report] at listed
      obtain ⟨text, last⟩ := (contains_units_iff _ _ _).mp listed
      exact ⟨text, last, generated.readText other last⟩
    · intro unnamed leads
      rw [report] at unnamed
      exact generated.goesBy (sparesManifest_of_report unnamed) leads known

/-- Every call continues a series. -/
theorem calls_next {place : Location} {start disk : Disk} {attempts : List Attempt}
    (calls : Calls place start attempts disk) (generator : Generator) :
    Calls place start (⟨disk, generator, (generate.perform (disk, generator)).1,
      diskAfter disk generator⟩ :: attempts) (diskAfter disk generator) :=
  .generate calls rfl

theorem exists_saves {before : Work} {journal : Journal} {place : Location}
    (rehearsed : (rehearse.perform before).1.toOption.map (·.2) = some journal)
    (leads : before.1.Leads before.2.outDir place)
    (fits : ∀ name ∈ Manifest.fileName :: journal.map (·.fileName), Fits before.2.outDir name ∧
      before.1.entryAt? (place ++ [name]) ≠ some .directory) :
    ∃ summary manifest, (generate.perform before).1 = .ok summary ∧
      Attempt.Saves ⟨before.1, before.2, (generate.perform before).1, diskAfter before.1 before.2⟩ place
        (Manifest.print manifest).toUTF8 ∧
      ∀ name, manifest.artifacts.contains name = (lastText? journal name).isSome := by
  obtain ⟨summary, after, reports, performed, -, names, leads'⟩ := exists_generation rehearsed leads fits
  obtain ⟨outcome, units, made, written, generated⟩ := generated_of_ends (blind_generate.ends performed)
  have saves := generated.saves leads'
  rw [diskAfter, performed]
  refine ⟨summary, unitManifest before.2.pipeline.setting units, rfl, saves, fun name => ?_⟩
  rw [← names, Bool.eq_iff_iff, generated.report, contains_unitManifest_iff, contains_units_iff]

theorem manifest_saved_last_order :
    let start : Disk :=
      ⟨[(["orders.rs"], .file "struct OrderAggregate;".toUTF8), (["out"], .directory)], []⟩
    let order := writing "Order.g.rs" "mod order;"
    let orders := writing "Orders.g.rs" "mod orders;"
    let first : Attempt := ⟨start, order, (generate.perform (start, order)).1, diskAfter start order⟩
    (∀ content, first.after.entryAt? ["out", Manifest.fileName] = some (.file content) ↔
      LastSaved start ["out"] [first] content) ∧
    (∃ content, first.Saves ["out"] content) ∧
    ∃ summary after reports, generate.perform (first.after, orders) = (.ok summary, after, reports) ∧
      GoesBy (LastSaved start ["out"] [first]) (first.after, orders) ["out"] summary after ∧
      (Path.mk "out").child "Order.g.rs" ∈ summary.removed := by
  intro start order orders first
  have made : start.Leads ⟨"out"⟩ ["out"] := leads_of_isDirectory (by decide +kernel) (by decide +kernel)
  have leads : first.after.Leads ⟨"out"⟩ ["out"] :=
    leads_of_isDirectory (by decide +kernel) (by decide +kernel)
  have there : first.after.FileAt (["out"] ++ ["Order.g.rs"]) := by decide +kernel
  obtain ⟨rehearsed, rehearsed'⟩ :
      (rehearse.perform (start, order)).1.toOption.map (·.2) = some [⟨"Order.g.rs", "mod order;"⟩] ∧
      (rehearse.perform (first.after, orders)).1.toOption.map (·.2) =
        some [⟨"Orders.g.rs", "mod orders;"⟩] := by decide +kernel
  -- the first call saves a manifest that records its unit, and the second one goes by this manifest
  obtain ⟨summary, manifest, ended, saves, recorded⟩ :=
    exists_saves rehearsed made (by decide +kernel)
  obtain ⟨summary', after, reports, performed, -, names, leads'⟩ :=
    exists_generation rehearsed' leads (by decide +kernel)
  have calls : Calls ["out"] start [first] first.after := calls_next .nothing order
  have unspoiled : ∀ attempt ∈ [first], ¬ attempt.Spoils ["out"] :=
    List.forall_mem_singleton.mpr fun spoils => spoils.failed summary ended
  obtain ⟨known, -, later⟩ := manifest_saved_last calls unspoiled
  obtain ⟨_, -, -, goes⟩ := later orders summary' after reports performed
  have goesBy := goes (names _) leads'
  refine ⟨known, ⟨_, saves⟩, summary', after, reports, performed, goesBy, ?_⟩
  rw [goesBy.removes]
  exact ⟨rfl, "Order.g.rs", manifest.print, manifest, rfl, (lastSaved_cons_of_saves saves _).mpr rfl,
    Manifest.parse_print manifest, recorded _, names _, by decide, there⟩

/-- A unit that has the name of the manifest is written over it, so that a recorded file is not removed,
and it does not keep its own text. -/
theorem manifest_overwritten :
    let recording : Manifest := ⟨"", "", "", .ofList [("Old.g.rs", ⟨"", ""⟩)]⟩
    let start : Disk := ⟨[(["orders.rs"], .file "struct OrderAggregate;".toUTF8), (["out"], .directory),
      (["out", "Old.g.rs"], .file "mod old;".toUTF8),
      (["out", Manifest.fileName], .file recording.print.toUTF8)], []⟩
    let emitted := (DirectorySink.emit Manifest.fileName "mod order;").perform (start, ⟨⟨"out"⟩, .empty⟩)
    let ran := generate.perform (start, writing Manifest.fileName "mod order;")
    Manifest.Records start ["out"] "Old.g.rs" ∧
    emitted.2.1.1.read ⟨"out/aggregen-manifest.json"⟩ = .ok "mod order;".toUTF8 ∧
    ran.1.toOption.map (fun summary => (summary.report.units.entries, summary.removed)) =
      some ([(Manifest.fileName, "Order")], []) ∧
    ran.2.1.1.FileAt ["out", "Old.g.rs"] ∧
    ran.2.1.1.readText (Manifest.pathIn ⟨"out"⟩) ≠ .ok "mod order;" := by
  intro recording start emitted ran
  have foreign : (Manifest.parse "mod order;").isNone = true := by decide +kernel
  obtain ⟨written, named, kept⟩ :
      emitted.2.1.1.read ⟨"out/aggregen-manifest.json"⟩ = .ok "mod order;".toUTF8 ∧
      ran.1.toOption.map (fun summary => (summary.report.units.entries, summary.removed)) =
        some ([(Manifest.fileName, "Order")], []) ∧
      ran.2.1.1.FileAt ["out", "Old.g.rs"] := by decide +kernel
  have succeeds : ran.1.toOption.isSome = true := by
    obtain ⟨summary, ended, -⟩ := Option.map_eq_some_iff.mp named
    rw [ended, Option.isSome_some]
  have records : Manifest.Records start ["out"] "Old.g.rs" :=
    ⟨recording.print, recording, rfl, Manifest.parse_print recording, by decide +kernel⟩
  exact ⟨records, written, named, kept,
    readText_manifest_ne succeeds (Option.isNone_iff_eq_none.mp foreign)⟩

end Generator

end Scaffold
