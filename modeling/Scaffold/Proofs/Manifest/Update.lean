import Scaffold.Proofs.Disk.Editing
import Scaffold.Proofs.Manifest.Loading

/-! Bringing a manifest up to date: the orphans that are there go, and the new manifest comes. -/

namespace Scaffold

open Disk Path

namespace Disk.Edit

/-- The edit that removes some names. -/
def removing (names : List String) : Edit := fun name => if name ∈ names then some none else none

theorem removing_nil : removing [] = .nothing := by
  funext name
  simp [removing, nothing]

theorem removing_cons (name : String) (rest : List String) :
    removing (name :: rest) = (only name none).followedBy (removing rest) := by
  funext other
  rw [removing, followedBy, removing, only]
  by_cases later : other ∈ rest
  · simp [later]
  · by_cases same : other = name
    · subst same
      simp [later]
    · simp [same, later]

end Disk.Edit

namespace Manifest

variable {ε : Type}

theorem removeOrphan_ends_of_missing {directory : Path} {disk : Disk} {name : String}
    (missing : disk.isFile (directory.child name) = false) :
    (removeOrphan directory false name : Task ε Disk (Option Path)).Ends disk (.ok none) disk := by
  refine (Task.ends_current disk).bind ?_
  simp only [missing]
  exact Task.ends_pure _ _

theorem removeOrphan_ends_of_isFile {directory : Path} {place : Location} {disk : Disk} {name : String}
    (leads : disk.Leads directory place) (plain : (Path.mk name).isPlainName = true)
    (is : disk.isFile (directory.child name) = true) :
    ∃ after, (removeOrphan directory false name : Task ε Disk (Option Path)).Ends disk
      (.ok (some (directory.child name))) after ∧ Edited place (.only name none) disk after := by
  obtain ⟨after, removed, edited⟩ := removeFile_of_isFile leads plain is
  refine ⟨after, ?_, edited⟩
  refine (Task.ends_current disk).bind ?_
  simp only [is, removed]
  exact (Task.ends_replace _ _).bind (Task.ends_pure _ _)

/-- Of distinct names those that are there are removed, in order. -/
theorem mapM_removeOrphan_ends {directory : Path} {place : Location} {disk : Disk}
    {names : List String} (leads : disk.Leads directory place) (distinct : names.Nodup)
    (plain : ∀ name ∈ names, (Path.mk name).isPlainName = true) :
    ∃ found after,
      (names.mapM (removeOrphan directory false) : Task ε Disk (List (Option Path))).Ends disk
        (.ok found) after ∧
      found.filterMap id =
        (names.filter fun name => disk.isFile (directory.child name)).map directory.child ∧
      Edited place (.removing (names.filter fun name => disk.isFile (directory.child name)))
        disk after := by
  induction names generalizing disk with
  | nil => exact ⟨[], disk, Task.ends_pure _ _, rfl, Edit.removing_nil ▸ .refl place disk⟩
  | cons name rest ih =>
    obtain ⟨new, distinct⟩ := List.nodup_cons.mp distinct
    have named := plain name (by simp)
    have plain : ∀ other ∈ rest, (Path.mk other).isPlainName = true := fun other member =>
      plain other (by simp [member])
    rw [List.mapM_cons]
    cases is : disk.isFile (directory.child name) with
    | false =>
      obtain ⟨found, after, ends, listed, edited⟩ := ih leads distinct plain
      refine ⟨none :: found, after, (removeOrphan_ends_of_missing is).bind
        (ends.bind (Task.ends_pure _ _)), ?_, ?_⟩
      · simpa [is] using listed
      · simpa [is] using edited
    | true =>
      obtain ⟨middle, removed, edited⟩ := removeOrphan_ends_of_isFile (ε := ε) leads named is
      obtain ⟨found, after, ends, listed, edited'⟩ :=
        ih (edited.same.leads_iff.mpr leads) distinct plain
      -- The names are distinct, so this removal decides nothing about the later ones.
      have others : rest.filter (fun other => middle.isFile (directory.child other)) =
          rest.filter fun other => disk.isFile (directory.child other) := by
        refine List.filter_congr fun other member => ?_
        have different : other ≠ name := fun same => new (same ▸ member)
        exact edited.isFile_eq leads (plain other member) (by simp [Edit.only, different])
      rw [others] at listed edited'
      refine ⟨some (directory.child name) :: found, after, removed.bind
        (ends.bind (Task.ends_pure _ _)), ?_, ?_⟩
      · simpa [is] using listed
      · have both := edited.trans edited'
        rw [← Edit.removing_cons] at both
        simpa [is] using both

theorem nodup_orphansSince (manifest previous : Manifest) : (manifest.orphansSince previous).Nodup :=
  previous.artifacts.nodup_keys.filter _

theorem mem_orphansSince_iff {manifest previous : Manifest} {name : String} :
    name ∈ manifest.orphansSince previous ↔ previous.artifacts.contains name = true ∧
      manifest.artifacts.contains name = false ∧ (Path.mk name).isPlainName = true := by
  simp [orphansSince, isOwnName, NameMap.contains_iff_mem_keys]

/-- The names that a run removes: the orphans that are files, if it cleans up. -/
def removable (manifest : Manifest) (disk : Disk) (directory : Path) (cleanOrphans : Bool) :
    List String :=
  match stored? disk directory with
  | some previous =>
    if cleanOrphans then
      (manifest.orphansSince previous).filter fun name => disk.isFile (directory.child name)
    else []
  | none => []

/-- The edit of a directory when its manifest is brought up to date. -/
def updating (manifest : Manifest) (removed : List String) : Edit :=
  (Edit.removing removed).followedBy (.only fileName (some manifest.print.toUTF8))

theorem save_ends (manifest : Manifest) (directory : Path) (disk : Disk) :
    match disk.write (pathIn directory) manifest.print.toUTF8 with
    | .ok after => (manifest.save directory).Ends disk (.ok ()) after
    | .error refusal =>
      (manifest.save directory).Ends disk (.error (.io (pathIn directory) refusal)) disk := by
  split
  · rename_i after written
    refine (Task.ends_current disk).bind ?_
    simp only [written]
    exact Task.ends_replace _ _
  · rename_i refusal refused
    refine (Task.ends_current disk).bind ?_
    simp only [refused]
    exact Task.ends_throw _ _

/-- The first half of `updateManifest`. -/
def removal (manifest : Manifest) (directory : Path) (cleanOrphans : Bool) :
    Task Fault Disk (List Path) := do
  match ← Generator.previousManifest directory with
  | some previous => if cleanOrphans then manifest.removeOrphans previous directory false else pure []
  | none => pure []

theorem removal_ends {directory : Path} {place : Location} {disk : Disk} (manifest : Manifest)
    (cleanOrphans : Bool) (leads : disk.Leads directory place) :
    ∃ after, (manifest.removal directory cleanOrphans).Ends disk
        (.ok ((manifest.removable disk directory cleanOrphans).map directory.child)) after ∧
      Edited place (.removing (manifest.removable disk directory cleanOrphans)) disk after := by
  have loads := previousManifest_ends directory disk
  have nothing : Edited place (.removing []) disk disk := Edit.removing_nil ▸ .refl place disk
  unfold removable
  cases stored : stored? disk directory with
  | none =>
    rw [stored] at loads
    exact ⟨disk, loads.bind (Task.ends_pure _ _), nothing⟩
  | some previous =>
    rw [stored] at loads
    cases cleanOrphans with
    | false => exact ⟨disk, loads.bind (Task.ends_pure _ _), nothing⟩
    | true =>
      obtain ⟨found, after, ends, listed, edited⟩ := mapM_removeOrphan_ends (ε := Fault) leads
        (nodup_orphansSince manifest previous)
        fun name member => (mem_orphansSince_iff.mp member).2.2
      refine ⟨after, loads.bind ?_, edited⟩
      simp only [if_true]
      rw [← listed]
      exact ends.bind (Task.ends_pure _ _)

/-- Where a path leads nowhere nothing is removed. -/
theorem removal_ends_of_not_leads {directory : Path} {disk : Disk} (manifest : Manifest)
    (cleanOrphans : Bool) (lost : ∀ place, ¬ disk.Leads directory place) :
    (manifest.removal directory cleanOrphans).Ends disk (.ok []) disk := by
  have loads := previousManifest_ends directory disk
  have missing : stored? disk directory = none := by
    refine stored?_of_no_text fun text found => ?_
    obtain ⟨-, place, leads, -⟩ := readText_pathIn_iff.mp found
    exact lost place leads
  rw [missing] at loads
  exact loads.bind (Task.ends_pure _ _)

theorem updateManifest_eq (manifest : Manifest) (directory : Path) (cleanOrphans : Bool) :
    Generator.updateManifest manifest directory cleanOrphans =
      manifest.removal directory cleanOrphans >>= fun removed =>
        manifest.save directory >>= fun _ => pure removed := by
  unfold Generator.updateManifest removal
  rw [bind_assoc]
  refine bind_congr fun previous => ?_
  cases previous with
  | none => simp
  | some previous => cases cleanOrphans <;> simp

/-- How a manifest is brought up to date, and what that leaves. -/
structure Updated (manifest : Manifest) (directory : Path) (cleanOrphans : Bool) (place : Location)
    (before : Disk) (removed : List Path) (after : Disk) : Prop where
  leads : before.Leads directory place
  fits : Fits directory fileName
  removed : removed = (manifest.removable before directory cleanOrphans).map directory.child
  edited : Edited place (manifest.updating (manifest.removable before directory cleanOrphans))
    before after

theorem updated_of_ends {manifest : Manifest} {directory : Path} {cleanOrphans : Bool}
    {before after : Disk} {removed : List Path}
    (ends : (Generator.updateManifest manifest directory cleanOrphans).Ends before (.ok removed) after) :
    ∃ place, Updated manifest directory cleanOrphans place before removed after := by
  have saves := fun disk => save_ends manifest directory disk
  rw [updateManifest_eq] at ends
  have finish : ∀ {middle : Disk} {names : List Path},
      (manifest.removal directory cleanOrphans).Ends before (.ok names) middle →
      removed = names ∧ ∃ place, middle.Leads directory place ∧ Fits directory fileName ∧
        Edited place (.only fileName (some manifest.print.toUTF8)) middle after := by
    intro middle names done
    have saved := saves middle
    split at saved
    · rename_i last written
      obtain ⟨same, rfl⟩ := ends.unique (done.bind (saved.bind (Task.ends_pure _ _)))
      obtain ⟨fits, place, leads, free, rfl⟩ := (write_eq_ok_iff entryName_fileName).mp written
      exact ⟨Except.ok.inj same, place, leads, fits, edited_set _ free⟩
    · exact absurd (ends.unique (done.bind saved.bind_error)).1 (by simp)
  by_cases found : ∃ place, before.Leads directory place
  · obtain ⟨place, leads⟩ := found
    obtain ⟨middle, done, edited⟩ := removal_ends manifest cleanOrphans leads
    obtain ⟨same, place', leads', fits, edited'⟩ := finish done
    obtain rfl := (edited.same.leads_iff.mpr leads).unique leads'
    exact ⟨place, leads, fits, same, edited.trans edited'⟩
  · have lost := not_exists.mp found
    obtain ⟨-, place, leads, -⟩ := finish (removal_ends_of_not_leads manifest cleanOrphans lost)
    exact absurd leads (lost place)

theorem exists_updateManifest_ends {directory : Path} {place : Location} {before : Disk}
    (manifest : Manifest) (cleanOrphans : Bool) (leads : before.Leads directory place)
    (fits : Fits directory fileName)
    (free : before.entryAt? (place ++ [fileName]) ≠ some .directory) :
    ∃ removed after, (Generator.updateManifest manifest directory cleanOrphans).Ends before
      (.ok removed) after := by
  obtain ⟨middle, done, edited⟩ := removal_ends manifest cleanOrphans leads
  have free' : middle.entryAt? (place ++ [fileName]) ≠ some .directory := fun directory =>
    free ((edited.same.directory _).mp directory)
  have written : middle.write (directory.child fileName) manifest.print.toUTF8 =
      .ok (middle.set (place ++ [fileName]) (.file manifest.print.toUTF8)) :=
    (write_eq_ok_iff entryName_fileName).mpr
      ⟨fits, place, edited.same.leads_iff.mpr leads, free', rfl⟩
  have saved := save_ends manifest directory middle
  rw [pathIn, written] at saved
  simp only [updateManifest_eq]
  exact ⟨_, _, done.bind (saved.bind (Task.ends_pure _ _))⟩

end Manifest

end Scaffold
