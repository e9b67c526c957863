import Scaffold.Proofs.Manifest.Update

/-! A manifest that was saved is loaded as it was, but for the entries that are no plain file names.
What was loaded once is saved and loaded without any loss. -/

namespace Scaffold

open Disk Path

namespace Manifest

/-- A manifest can be written into the directory. -/
def Room (disk : Disk) (directory : Path) : Prop :=
  Fits directory fileName ∧ ∃ place, disk.Leads directory place ∧
    disk.entryAt? (place ++ [fileName]) ≠ some .directory

theorem write_pathIn_ok_iff {disk : Disk} {directory : Path} (content : ByteArray) :
    (∃ after, disk.write (pathIn directory) content = .ok after) ↔ Room disk directory := by
  constructor
  · rintro ⟨after, written⟩
    obtain ⟨fits, place, leads, free, -⟩ := (write_eq_ok_iff entryName_fileName).mp written
    exact ⟨fits, place, leads, free⟩
  · rintro ⟨fits, place, leads, free⟩
    exact ⟨_, (write_eq_ok_iff entryName_fileName).mpr ⟨fits, place, leads, free, rfl⟩⟩

theorem blind_save (manifest : Manifest) (directory : Path) : (manifest.save directory).Blind := by
  intro disk
  have saved := save_ends manifest directory disk
  split at saved
  · exact ⟨_, _, saved⟩
  · exact ⟨_, _, saved⟩

/-- A manifest is saved wherever there is room for it. -/
theorem save_ends_ok_iff {manifest : Manifest} {directory : Path} {disk after : Disk} :
    (manifest.save directory).Ends disk (.ok ()) after ↔
      disk.write (pathIn directory) manifest.print.toUTF8 = .ok after := by
  have saved := save_ends manifest directory disk
  cases written : disk.write (pathIn directory) manifest.print.toUTF8 with
  | ok last =>
    rw [written] at saved
    constructor
    · intro ends
      rw [(ends.unique saved).2]
    · intro same
      exact Except.ok.inj same ▸ saved
  | error refusal =>
    rw [written] at saved
    simpa using fun ends => absurd (saved.unique ends).1 (by simp)

theorem exists_save_iff (manifest : Manifest) (directory : Path) (disk : Disk) :
    (∃ after, (manifest.save directory).Ends disk (.ok ()) after) ↔ Room disk directory := by
  rw [← write_pathIn_ok_iff manifest.print.toUTF8]
  exact exists_congr fun after => save_ends_ok_iff

/-- A saved manifest is loaded without its foreign entries, and can be replaced. -/
theorem loaded_of_saved {manifest : Manifest} {directory : Path} {disk after : Disk}
    (saved : (manifest.save directory).Ends disk (.ok ()) after) :
    loaded after directory = .ok (some manifest.owned) ∧ Room after directory := by
  obtain ⟨fits, place, leads, free, rfl⟩ :=
    (write_eq_ok_iff entryName_fileName).mp (save_ends_ok_iff.mp saved)
  have edited := edited_set manifest.print.toUTF8 free
  have leads' := edited.same.leads_iff.mpr leads
  have printed : (disk.set (place ++ [fileName]) (.file manifest.print.toUTF8)).entryAt?
      (place ++ [fileName]) = some (.file manifest.print.toUTF8) :=
    edited.inside_some (by rw [Edit.only, if_pos rfl])
  refine ⟨?_, fits, place, leads', by rw [printed]; simp⟩
  have found := readText_pathIn_iff.mpr ⟨fits, place, leads', printed⟩
  exact loaded_of_readText found manifest.parse_print

theorem isOwnName_iff (name : String) : isOwnName name = true ↔ checkFileName name = .ok () := by
  unfold isOwnName checkFileName
  split <;> simp_all

/-- One manifest is another one without the entries that are no plain file names. -/
structure PlainPart (whole part : Manifest) : Prop where
  generatorVersion : part.generatorVersion = whole.generatorVersion
  suffix : part.suffix = whole.suffix
  templateFingerprint : part.templateFingerprint = whole.templateFingerprint
  artifacts : ∀ name entry, (name, entry) ∈ part.artifacts.entries ↔
    (name, entry) ∈ whole.artifacts.entries ∧ checkFileName name = .ok ()

theorem plainPart_owned (manifest : Manifest) : PlainPart manifest manifest.owned := by
  refine ⟨rfl, rfl, rfl, fun name entry => ?_⟩
  rw [← isOwnName_iff]
  exact List.mem_filter

/-- The manifest is saved in a directory, on a disk that is another one then. -/
def Saves (manifest : Manifest) (directory : Path) (disk saved : Disk) : Prop :=
  ∃ reports, (manifest.save directory).perform disk = (.ok (), saved, reports)

/-- The manifest is what is loaded from a directory. -/
def Loads (disk : Disk) (directory : Path) (manifest : Manifest) : Prop :=
  ∃ reports, (load directory).perform disk = (.ok (some manifest), disk, reports)

theorem saves_iff {manifest : Manifest} {directory : Path} {disk saved : Disk} :
    Saves manifest directory disk saved ↔ (manifest.save directory).Ends disk (.ok ()) saved :=
  ⟨fun ⟨_, performed⟩ => (blind_save manifest directory).ends performed, Task.Ends.perform⟩

theorem loads_of_loaded {manifest : Manifest} {directory : Path} {disk : Disk}
    (read : loaded disk directory = .ok (some manifest)) : Loads disk directory manifest := by
  have loads := load_ends directory disk
  rw [read] at loads
  exact loads.perform

/-- Saving works wherever a file of that name has room. What was saved is loaded from there, all but
the entries whose names are no plain file names, and saving and loading that again changes nothing. -/
theorem load_after_save (manifest : Manifest) (directory : Path) (disk : Disk) :
    ((∃ saved, Saves manifest directory disk saved) ↔ Room disk directory) ∧
    ∀ saved, Saves manifest directory disk saved →
      ∃ part, Loads saved directory part ∧ PlainPart manifest part ∧
        ∃ again, Saves part directory saved again ∧ Loads again directory part := by
  constructor
  · rw [← exists_save_iff manifest]
    exact exists_congr fun saved => saves_iff
  · intro saved saves
    obtain ⟨read, room⟩ := loaded_of_saved (saves_iff.mp saves)
    obtain ⟨again, resaved⟩ := (exists_save_iff manifest.owned directory saved).mpr room
    have read' := (loaded_of_saved resaved).1
    rw [owned_eq_self manifest.own_owned] at read'
    exact ⟨manifest.owned, loads_of_loaded read, manifest.plainPart_owned, again,
      saves_iff.mpr resaved, loads_of_loaded read'⟩

theorem load_after_save_quotes :
    let manifest : Manifest := ⟨"", "Aggre\"gate\n", "\\\x00", .ofList [("Ördér.g.rs", ⟨"\x1f", "\t"⟩),
      ("../Order.g.rs", ⟨"Order", "a"⟩), ("", ⟨"", ""⟩)]⟩
    let start : Disk := ⟨[(["out"], .directory)], []⟩
    ∃ saved part, Saves manifest ⟨"out"⟩ start saved ∧
      Loads saved ⟨"out"⟩ part ∧ PlainPart manifest part ∧
      ("Ördér.g.rs", ⟨"\x1f", "\t"⟩) ∈ part.artifacts.entries ∧
      ("", ⟨"", ""⟩) ∉ part.artifacts.entries := by
  intro manifest start
  have written : ((manifest.save ⟨"out"⟩).perform start).1 = .ok () :=
    Except.toOption_eq_some_iff.mp (by decide +kernel)
  have saves : Saves manifest ⟨"out"⟩ start _ := ⟨_, Prod.ext written rfl⟩
  obtain ⟨part, loads, plain, -⟩ := (load_after_save manifest ⟨"out"⟩ start).2 _ saves
  refine ⟨_, part, saves, loads, plain, ?_, ?_⟩
  · exact (plain.artifacts _ _).mpr ⟨by decide +kernel, by rw [← isOwnName_iff]; decide +kernel⟩
  · intro kept
    have own := (isOwnName_iff _).mpr ((plain.artifacts _ _).mp kept).2
    exact absurd own (by decide +kernel)

end Manifest

end Scaffold
