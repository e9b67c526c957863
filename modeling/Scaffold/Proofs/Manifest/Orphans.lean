import Scaffold.Proofs.Manifest.Update

/-! Removal of orphans. What a dry run lists is what is removed afterwards: the files of the earlier manifest
that the other one has not and that are there, in the order of their names. Nothing else changes, and what
was removed is not found again. -/

namespace Scaffold

open Disk Path

namespace Manifest

variable {ε : Type} {manifest previous : Manifest} {directory : Path} {disk : Disk}

/-- The orphans that are files in a directory. -/
def orphanFiles (manifest previous : Manifest) (directory : Path) (disk : Disk) : List String :=
  (manifest.orphansSince previous).filter fun name => disk.isFile (directory.child name)

theorem plain_of_mem_orphansSince {name : String} (orphan : name ∈ manifest.orphansSince previous) :
    (Path.mk name).isPlainName = true :=
  (mem_orphansSince_iff.mp orphan).2.2

theorem mem_orphanFiles_iff {name : String} :
    name ∈ manifest.orphanFiles previous directory disk ↔ previous.artifacts.contains name = true ∧
      manifest.artifacts.contains name = false ∧ (Path.mk name).isPlainName = true ∧
      disk.isFile (directory.child name) = true := by
  rw [orphanFiles, List.mem_filter, mem_orphansSince_iff, and_assoc, and_assoc]

theorem plain_of_mem_orphanFiles {name : String}
    (there : name ∈ manifest.orphanFiles previous directory disk) : (Path.mk name).isPlainName = true :=
  (mem_orphanFiles_iff.mp there).2.2.1

/-- The names of a table that ascend in it ascend among the orphans too. -/
theorem pairwise_orphansSince (manifest previous : Manifest) :
    (manifest.orphansSince previous).Pairwise (· < ·) :=
  (previous.artifacts.ascending.map Prod.fst fun _ _ before => before).filter _

theorem pairwise_orphanFiles (manifest previous : Manifest) (directory : Path) (disk : Disk) :
    (manifest.orphanFiles previous directory disk).Pairwise (· < ·) :=
  (pairwise_orphansSince manifest previous).filter _

/-- Different plain names stand for different paths. -/
theorem nodup_map_child {names : List String} (distinct : names.Nodup)
    (plain : ∀ name ∈ names, (Path.mk name).isPlainName = true) : (names.map directory.child).Nodup := by
  refine List.Nodup.map_on (fun name member other member' same => ?_) distinct
  have texts := congrArg Path.text same
  rw [child_text directory (relative_of_isPlainName (plain name member)),
    child_text directory (relative_of_isPlainName (plain other member'))] at texts
  have letters := congrArg String.toList texts
  rw [String.toList_append, String.toList_append] at letters
  exact String.toList_inj.mp (List.append_cancel_left letters)

/-! ### Dry runs -/

theorem removeOrphan_dry_ends (name : String) (disk : Disk) :
    (removeOrphan directory true name : Task ε Disk (Option Path)).Ends disk
      (.ok (if disk.isFile (directory.child name) then some (directory.child name) else none)) disk := by
  refine (Task.ends_current disk).bind ?_
  cases is : disk.isFile (directory.child name) <;> exact Task.ends_pure _ _

theorem mapM_removeOrphan_dry_ends (names : List String) (disk : Disk) :
    (names.mapM (removeOrphan directory true) : Task ε Disk (List (Option Path))).Ends disk
      (.ok (names.map fun name =>
        if disk.isFile (directory.child name) then some (directory.child name) else none)) disk := by
  induction names with
  | nil => exact Task.ends_pure _ _
  | cons name rest ih =>
    rw [List.mapM_cons]
    exact (removeOrphan_dry_ends name disk).bind (ih.bind (Task.ends_pure _ _))

theorem removeOrphans_dry_ends (manifest previous : Manifest) (directory : Path) (disk : Disk) :
    (manifest.removeOrphans previous directory true : Task ε Disk (List Path)).Ends disk
      (.ok ((manifest.orphanFiles previous directory disk).map directory.child)) disk := by
  have listed : ((manifest.orphansSince previous).map fun name =>
      if disk.isFile (directory.child name) then some (directory.child name) else none).filterMap id =
      (manifest.orphanFiles previous directory disk).map directory.child := by
    rw [List.filterMap_map, orphanFiles, ← List.filterMap_eq_filter, List.map_filterMap]
    refine List.filterMap_congr fun name _ => ?_
    cases is : disk.isFile (directory.child name) <;> simp [Option.guard, is]
  rw [← listed]
  exact (mapM_removeOrphan_dry_ends _ disk).bind (Task.ends_pure _ _)

/-! ### Real runs -/

/-- The files of some names are gone from a directory, and all else is as it was. -/
structure Removed (directory : Path) (names : List String) (before after : Disk) : Prop where
  gone : ∀ name ∈ names, ∃ place, before.Leads directory place ∧ before.FileAt (place ++ [name]) ∧
    after.entryAt? (place ++ [name]) = none
  kept : ∀ location, (∀ place, before.Leads directory place → ∀ name ∈ names,
    location ≠ place ++ [name]) → after.entryAt? location = before.entryAt? location
  working : after.workingDirectory = before.workingDirectory

theorem Removed.nothing (directory : Path) (disk : Disk) : Removed directory [] disk disk :=
  ⟨by simp, fun _ _ => rfl, rfl⟩

theorem removed_of_edited {place : Location} {names : List String} {after : Disk}
    (leads : disk.Leads directory place)
    (there : ∀ name ∈ names, disk.isFile (directory.child name) = true ∧
      (Path.mk name).isPlainName = true)
    (edited : Edited place (.removing names) disk after) : Removed directory names disk after := by
  refine ⟨fun name member => ?_, fun location other => ?_, edited.same.working⟩
  · obtain ⟨is, plain⟩ := there name member
    refine ⟨place, leads, ((isFile_at leads plain).mp is).2, ?_⟩
    rw [edited.inside_some (by rw [Edit.removing, if_pos member])]
    rfl
  · by_contra changed
    obtain ⟨name, rfl, spoken⟩ := edited.of_changed changed
    refine other place leads name ?_ rfl
    by_contra missing
    exact spoken (by rw [Edit.removing, if_neg missing])

/-- Where a path leads nowhere no file is found below it. -/
theorem isFile_of_not_leads {name : String} (lost : ∀ place, ¬ disk.Leads directory place)
    (plain : (Path.mk name).isPlainName = true) : disk.isFile (directory.child name) = false := by
  refine Bool.eq_false_iff.mpr fun is => ?_
  obtain ⟨-, place, -, leads, -⟩ := (isFile_iff plain).mp is
  exact lost place leads

theorem mapM_removeOrphan_ends_of_missing {names : List String}
    (missing : ∀ name ∈ names, disk.isFile (directory.child name) = false) :
    ∃ found, (names.mapM (removeOrphan directory false) : Task ε Disk (List (Option Path))).Ends disk
        (.ok found) disk ∧ found.filterMap id = [] := by
  induction names with
  | nil => exact ⟨[], Task.ends_pure _ _, rfl⟩
  | cons name rest ih =>
    obtain ⟨found, ends, nothing⟩ := ih fun other member => missing other (by simp [member])
    rw [List.mapM_cons]
    exact ⟨none :: found, (removeOrphan_ends_of_missing (missing name (by simp))).bind
      (ends.bind (Task.ends_pure _ _)), by simpa using nothing⟩

theorem removeOrphans_ends_of_none (none : manifest.orphanFiles previous directory disk = []) :
    (manifest.removeOrphans previous directory false : Task ε Disk (List Path)).Ends disk (.ok []) disk := by
  have missing : ∀ name ∈ manifest.orphansSince previous, disk.isFile (directory.child name) = false := by
    simpa [orphanFiles, List.filter_eq_nil_iff] using none
  obtain ⟨found, ends, nothing⟩ := mapM_removeOrphan_ends_of_missing (ε := ε) missing
  rw [← nothing]
  exact ends.bind (Task.ends_pure _ _)

theorem removeOrphans_ends (manifest previous : Manifest) (directory : Path) (disk : Disk) :
    ∃ after, (manifest.removeOrphans previous directory false : Task ε Disk (List Path)).Ends disk
        (.ok ((manifest.orphanFiles previous directory disk).map directory.child)) after ∧
      Removed directory (manifest.orphanFiles previous directory disk) disk after := by
  have plain : ∀ name ∈ manifest.orphansSince previous, (Path.mk name).isPlainName = true :=
    fun name => plain_of_mem_orphansSince
  by_cases found : ∃ place, disk.Leads directory place
  · obtain ⟨place, leads⟩ := found
    obtain ⟨found, after, ends, listed, edited⟩ := mapM_removeOrphan_ends (ε := ε) leads
      (nodup_orphansSince manifest previous) plain
    refine ⟨after, ?_, removed_of_edited leads (fun name member => ?_) edited⟩
    · rw [orphanFiles, ← listed]
      exact ends.bind (Task.ends_pure _ _)
    · exact ⟨(List.mem_filter.mp member).2, plain name (List.mem_filter.mp member).1⟩
  · have none : manifest.orphanFiles previous directory disk = [] := by
      refine List.filter_eq_nil_iff.mpr fun name member => Bool.eq_false_iff.mp ?_
      exact isFile_of_not_leads (not_exists.mp found) (plain name member)
    rw [none, List.map_nil]
    exact ⟨disk, removeOrphans_ends_of_none none, .nothing directory disk⟩

/-- At any location a file went, or nothing changed. -/
theorem Removed.gone_or_kept {names : List String} {before after : Disk}
    (removed : Removed directory names before after) (location : Location) :
    (∃ place, before.Leads directory place ∧ ∃ name ∈ names, location = place ++ [name] ∧
        before.FileAt location ∧ after.entryAt? location = none) ∨
      after.entryAt? location = before.entryAt? location := by
  by_cases listed : ∃ place, before.Leads directory place ∧ ∃ name ∈ names, location = place ++ [name]
  · obtain ⟨place, leads, name, member, rfl⟩ := listed
    obtain ⟨place', leads', there, gone⟩ := removed.gone name member
    obtain rfl := leads.unique leads'
    exact .inl ⟨place, leads, name, member, rfl, there, gone⟩
  · exact .inr (removed.kept location fun place leads name member same =>
      listed ⟨place, leads, name, member, same⟩)

theorem Removed.sameDirectories {names : List String} {before after : Disk}
    (removed : Removed directory names before after) : SameDirectories before after := by
  refine ⟨removed.working, fun location => ?_⟩
  rcases removed.gone_or_kept location with ⟨-, -, -, -, -, ⟨content, there⟩, gone⟩ | kept
  · simp [there, gone]
  · rw [kept]

/-- What was removed is no orphan that is there. -/
theorem Removed.orphanFiles_eq_nil {after : Disk}
    (removed : Removed directory (manifest.orphanFiles previous directory disk) disk after) :
    manifest.orphanFiles previous directory after = [] := by
  refine List.eq_nil_iff_forall_not_mem.mpr fun name member => ?_
  obtain ⟨recorded, unnamed, plain, is⟩ := mem_orphanFiles_iff.mp member
  obtain ⟨fits, place, content, leads, there⟩ := (isFile_iff plain).mp is
  have leads := removed.sameDirectories.leads_iff.mp leads
  rcases removed.gone_or_kept (place ++ [name]) with ⟨-, -, -, -, -, -, gone⟩ | kept
  · rw [there] at gone
    contradiction
  · have before : disk.isFile (directory.child name) = true :=
      (isFile_iff plain).mpr ⟨fits, place, content, leads, kept ▸ there⟩
    obtain ⟨place', leads', -, gone⟩ :=
      removed.gone name (mem_orphanFiles_iff.mpr ⟨recorded, unnamed, plain, before⟩)
    obtain rfl := leads.unique leads'
    rw [there] at gone
    contradiction

/-- A dry run lists the orphans that are files in the directory, ascending and each of them once, and changes
nothing; a real run lists the same, removes just these, and leaves nothing for a run after it. Orphans are
the plain file names that the earlier manifest has and the other one has not. -/
theorem removeOrphans_as_announced (manifest previous : Manifest) (directory : Path) (disk : Disk) :
    ((manifest.orphansSince previous).Pairwise (· < ·) ∧ ∀ name, name ∈ manifest.orphansSince previous ↔
      previous.artifacts.contains name = true ∧ manifest.artifacts.contains name = false ∧
        (Path.mk name).isPlainName = true) ∧
    ∃ names : List String, names.Pairwise (· < ·) ∧ (names.map directory.child).Nodup ∧
      (∀ name, name ∈ names ↔ name ∈ manifest.orphansSince previous ∧
        disk.isFile (directory.child name) = true) ∧
      (∃ reports, (manifest.removeOrphans previous directory true : Task Fault Disk (List Path)).perform
        disk = (.ok (names.map directory.child), disk, reports)) ∧
      ∃ after, (∃ reports, (manifest.removeOrphans previous directory false :
          Task Fault Disk (List Path)).perform disk = (.ok (names.map directory.child), after, reports)) ∧
        Removed directory names disk after ∧
        ∃ reports, (manifest.removeOrphans previous directory false :
          Task Fault Disk (List Path)).perform after = (.ok [], after, reports) := by
  refine ⟨⟨pairwise_orphansSince manifest previous, fun name => mem_orphansSince_iff⟩,
    manifest.orphanFiles previous directory disk, pairwise_orphanFiles manifest previous directory disk,
    ?_, fun name => List.mem_filter, ?_, ?_⟩
  · exact nodup_map_child ((nodup_orphansSince manifest previous).filter _)
      fun name => plain_of_mem_orphanFiles
  · exact (removeOrphans_dry_ends manifest previous directory disk).perform
  · obtain ⟨after, ends, removed⟩ := removeOrphans_ends (ε := Fault) manifest previous directory disk
    exact ⟨after, ends.perform, removed, (removeOrphans_ends_of_none removed.orphanFiles_eq_nil).perform⟩

theorem removeOrphans_as_announced_order :
    let recorded (names : List String) : Manifest := ⟨"", "", "", .ofList (names.map (·, ⟨"", ""⟩))⟩
    let previous := recorded ["Order.g.rs", "Invoice.g.rs", "Gone.g.rs", "../notes.txt", "sub"]
    let current := recorded ["Invoice.g.rs"]
    let disk : Disk := ⟨[(["notes.txt"], .file .empty), (["out"], .directory), (["out", "sub"], .directory),
      (["out", "Order.g.rs"], .file .empty), (["out", "Invoice.g.rs"], .file .empty)], []⟩
    ∃ names : List String, ∃ after reports, "Order.g.rs" ∈ names ∧
      (current.removeOrphans previous ⟨"out"⟩ false : Task Fault Disk (List Path)).perform disk =
        (.ok (names.map (Path.mk "out").child), after, reports) ∧
      after.entryAt? ["out", "Order.g.rs"] = none ∧ after.FileAt ["notes.txt"] := by
  intro recorded previous current disk
  obtain ⟨-, names, -, -, listed, -, after, ⟨reports, performed⟩, removed, -⟩ :=
    removeOrphans_as_announced current previous ⟨"out"⟩ disk
  have member : "Order.g.rs" ∈ names := (listed _).mpr (by decide +kernel)
  have leads : disk.Leads ⟨"out"⟩ ["out"] :=
    leads_of_isDirectory (by decide +kernel) (by decide +kernel)
  obtain ⟨place, leads', -, gone⟩ := removed.gone _ member
  obtain rfl := leads.unique leads'
  refine ⟨names, after, reports, member, performed, gone, .empty, ?_⟩
  rw [removed.kept]
  · rfl
  · intro place leads' name _ same
    obtain rfl := leads.unique leads'
    simp at same

end Manifest

end Scaffold
