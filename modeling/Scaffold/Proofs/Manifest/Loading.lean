import Scaffold.Generator
import Scaffold.Proofs.Disk.Inside
import Scaffold.Proofs.Manifest
import Scaffold.Proofs.Task

/-! What loading a manifest comes to, which depends on the text of one file only. -/

namespace Scaffold

open Disk Path

namespace Manifest

/-- A manifest without the entries that are no plain file names. -/
def owned (manifest : Manifest) : Manifest :=
  { manifest with artifacts := manifest.artifacts.filter fun name _ => isOwnName name }

/-- What loading a manifest ends in. -/
def loaded (disk : Disk) (directory : Path) : Except Fault (Option Manifest) :=
  if disk.contains (pathIn directory) = false then .ok none
  else
    match disk.readText (pathIn directory) with
    | .error refusal => .error (.io (pathIn directory) refusal)
    | .ok text =>
      match parse text with
      | none => .error (.manifest (pathIn directory))
      | some manifest => .ok (some manifest.owned)

theorem load_ends (directory : Path) (disk : Disk) :
    (load directory).Ends disk (loaded disk directory) disk := by
  refine (Task.ends_current disk).bind ?_
  dsimp only
  unfold loaded
  cases disk.contains (pathIn directory) with
  | false => exact Task.ends_pure _ _
  | true =>
    simp only [Bool.not_true, Bool.false_eq_true, Bool.true_eq_false, if_false]
    cases found : disk.readText (pathIn directory) with
    | error refusal => exact Task.ends_throw _ _
    | ok text =>
      cases read : parse text with
      | none =>
        simp only [read]
        exact Task.ends_throw _ _
      | some manifest =>
        simp only [read]
        refine Task.Ends.bind (Task.ends_warnings (fun name state => ?_) disk) (Task.ends_pure _ _)
        split
        · exact (Task.ends_warn _ _).bind (Task.ends_pure _ _)
        · exact Task.ends_pure _ _

/-- The manifest that a run finds, if there is one that can be read. -/
def stored? (disk : Disk) (directory : Path) : Option Manifest :=
  match loaded disk directory with
  | .ok manifest => manifest
  | .error _ => none

theorem previousManifest_ends (directory : Path) (disk : Disk) :
    (Generator.previousManifest directory).Ends disk (.ok (stored? disk directory)) disk := by
  have loads : (Task.outcome (load directory) : Task Fault Disk _).Ends disk
      (.ok (loaded disk directory)) disk := (load_ends directory disk).outcome
  unfold stored?
  refine loads.bind ?_
  cases loaded disk directory with
  | ok manifest => exact Task.ends_pure _ _
  | error fault => exact (Task.ends_warn _ _).bind (Task.ends_pure _ _)

/-! ### The file of the manifest -/

theorem entryName_fileName : EntryName fileName := ⟨by decide, by decide, by decide, by decide⟩

theorem readText_pathIn_iff {disk : Disk} {directory : Path} {text : String} :
    disk.readText (pathIn directory) = .ok text ↔ Fits directory fileName ∧ ∃ place,
      disk.Leads directory place ∧ disk.entryAt? (place ++ [fileName]) = some (.file text.toUTF8) :=
  readText_eq_ok_iff entryName_fileName.isPlainName

theorem loaded_of_readText {disk : Disk} {directory : Path} {text : String} {manifest : Manifest}
    (found : disk.readText (pathIn directory) = .ok text) (read : parse text = some manifest) :
    loaded disk directory = .ok (some manifest.owned) := by
  simp [loaded, contains_of_read (read_of_readText found), found, read]

theorem stored?_of_readText {disk : Disk} {directory : Path} {text : String}
    (found : disk.readText (pathIn directory) = .ok text) :
    stored? disk directory = (parse text).map owned := by
  cases read : parse text <;> simp [stored?, loaded, contains_of_read (read_of_readText found), found, read]

theorem stored?_of_no_text {disk : Disk} {directory : Path}
    (missing : ∀ text, disk.readText (pathIn directory) ≠ .ok text) :
    stored? disk directory = none := by
  unfold stored? loaded
  cases found : disk.readText (pathIn directory) with
  | ok text => exact absurd found (missing text)
  | error refusal => cases disk.contains (pathIn directory) <;> rfl

/-- Two disks whose manifests have the same text have the same manifest. -/
theorem stored?_congr {disk disk' : Disk} {directory directory' : Path}
    (same : ∀ text, disk'.readText (pathIn directory') = .ok text ↔
      disk.readText (pathIn directory) = .ok text) : stored? disk' directory' = stored? disk directory := by
  cases found : disk.readText (pathIn directory) with
  | ok text => rw [stored?_of_readText found, stored?_of_readText ((same text).mpr found)]
  | error refusal =>
    have missing : ∀ text, disk.readText (pathIn directory) ≠ .ok text := by simp [found]
    rw [stored?_of_no_text missing,
      stored?_of_no_text fun text found => missing text ((same text).mp found)]

theorem stored?_spec {disk : Disk} {directory : Path} {manifest : Manifest}
    (stored : stored? disk directory = some manifest) :
    ∃ text written, disk.readText (pathIn directory) = .ok text ∧ parse text = some written ∧
      manifest = written.owned := by
  cases found : disk.readText (pathIn directory) with
  | ok text =>
    rw [stored?_of_readText found] at stored
    obtain ⟨written, read, rfl⟩ := Option.map_eq_some_iff.mp stored
    exact ⟨text, written, rfl, read, rfl⟩
  | error refusal =>
    rw [stored?_of_no_text (by simp [found])] at stored
    contradiction

theorem own_owned (manifest : Manifest) :
    ∀ name ∈ manifest.owned.artifacts.keys, isOwnName name = true := by
  intro name listed
  obtain ⟨entry, member, rfl⟩ := List.mem_map.mp listed
  exact (List.mem_filter.mp member).2

/-- A manifest that is found names plain file names only. -/
theorem own_of_stored {disk : Disk} {directory : Path} {manifest : Manifest}
    (stored : stored? disk directory = some manifest) :
    ∀ name ∈ manifest.artifacts.keys, isOwnName name = true := by
  obtain ⟨text, written, -, -, rfl⟩ := stored?_spec stored
  exact own_owned written

theorem contains_owned_iff (manifest : Manifest) (name : String) :
    manifest.owned.artifacts.contains name = true ↔
      manifest.artifacts.contains name = true ∧ isOwnName name = true := by
  rw [NameMap.contains_iff_mem_keys, NameMap.contains_iff_mem_keys]
  constructor
  · intro listed
    obtain ⟨entry, member, rfl⟩ := List.mem_map.mp listed
    obtain ⟨member, own⟩ := List.mem_filter.mp member
    exact ⟨List.mem_map_of_mem member, own⟩
  · rintro ⟨listed, own⟩
    obtain ⟨entry, member, rfl⟩ := List.mem_map.mp listed
    exact List.mem_map_of_mem (List.mem_filter.mpr ⟨member, own⟩)

/-- A manifest of plain file names is loaded as it was saved. -/
theorem owned_eq_self {manifest : Manifest}
    (plain : ∀ name ∈ manifest.artifacts.keys, isOwnName name = true) : manifest.owned = manifest := by
  rw [owned, NameMap.filter_key_eq_self plain]

/-- A printed manifest of plain file names is loaded from the directory that it is in. -/
theorem loaded_of_printed {manifest : Manifest} {disk : Disk} {directory : Path} {place : Location}
    (leads : disk.Leads directory place) (room : Fits directory fileName)
    (plain : ∀ name ∈ manifest.artifacts.keys, isOwnName name = true)
    (printed : disk.entryAt? (place ++ [fileName]) = some (.file manifest.print.toUTF8)) :
    loaded disk directory = .ok (some manifest) := by
  have found : disk.readText (pathIn directory) = .ok manifest.print :=
    readText_pathIn_iff.mpr ⟨room, place, leads, printed⟩
  rw [loaded_of_readText found manifest.parse_print, owned_eq_self plain]

theorem stored?_of_no_file {disk : Disk} {directory : Path} {place : Location}
    (leads : disk.Leads directory place)
    (missing : ∀ content, disk.entryAt? (place ++ [fileName]) ≠ some (.file content)) :
    stored? disk directory = none := by
  refine stored?_of_no_text fun text found => ?_
  obtain ⟨-, place', leads', entry⟩ := readText_pathIn_iff.mp found
  obtain rfl := leads.unique leads'
  exact missing _ entry

/-! ### What is recorded -/

/-- The text of the manifest in a directory names a file. -/
def Records (disk : Disk) (place : Location) (name : String) : Prop :=
  ∃ text manifest, disk.entryAt? (place ++ [fileName]) = some (.file text.toUTF8) ∧
    parse text = some manifest ∧ manifest.artifacts.contains name = true

/-- The manifest that an entry of a disk holds as text. -/
def ofEntry? : Entry → Option Manifest
  | .file content => (String.fromUTF8? content).bind parse
  | .directory => none

theorem records_iff (disk : Disk) (place : Location) (name : String) :
    Records disk place name ↔ ((disk.entryAt? (place ++ [fileName])).bind ofEntry?).any
      (·.artifacts.contains name) = true := by
  rw [Option.any_eq_true]
  constructor
  · rintro ⟨text, manifest, entry, read, listed⟩
    refine ⟨manifest, ?_, listed⟩
    rw [entry, Option.bind_some, ofEntry?, String.fromUTF8?_eq_some_iff.mpr rfl, Option.bind_some, read]
  · rintro ⟨manifest, found, listed⟩
    obtain ⟨entry, there, held⟩ := Option.bind_eq_some_iff.mp found
    cases entry with
    | directory => contradiction
    | file content =>
      obtain ⟨text, decoded, read⟩ := Option.bind_eq_some_iff.mp held
      obtain rfl := String.fromUTF8?_eq_some_iff.mp decoded
      exact ⟨text, manifest, there, read, listed⟩

/-- What was saved records just what the manifest has. -/
theorem records_iff_of_print {disk : Disk} {place : Location} {manifest : Manifest}
    (saved : disk.entryAt? (place ++ [fileName]) = some (.file manifest.print.toUTF8)) (name : String) :
    Records disk place name ↔ manifest.artifacts.contains name = true := by
  rw [records_iff, saved, Option.bind_some, ofEntry?, String.fromUTF8?_eq_some_iff.mpr rfl,
    Option.bind_some, parse_print, Option.any_some]

instance (disk : Disk) (place : Location) (name : String) : Decidable (Records disk place name) :=
  decidable_of_iff _ (records_iff disk place name).symm

/-- The manifest that a run finds in a directory has the recorded names that are plain file names. -/
theorem stored_contains_iff {disk : Disk} {directory : Path} {place : Location} {name : String}
    (leads : disk.Leads directory place) :
    (∃ previous, stored? disk directory = some previous ∧ previous.artifacts.contains name = true) ↔
      Fits directory fileName ∧ Records disk place name ∧ isOwnName name = true := by
  constructor
  · rintro ⟨previous, stored, listed⟩
    obtain ⟨text, written, found, read, rfl⟩ := stored?_spec stored
    obtain ⟨room, place', leads', entry⟩ := readText_pathIn_iff.mp found
    obtain rfl := leads.unique leads'
    obtain ⟨listed, own⟩ := (contains_owned_iff written name).mp listed
    exact ⟨room, ⟨text, written, entry, read, listed⟩, own⟩
  · rintro ⟨room, ⟨text, written, entry, read, listed⟩, own⟩
    have found := readText_pathIn_iff.mpr ⟨room, place, leads, entry⟩
    exact ⟨written.owned, by rw [stored?_of_readText found, read, Option.map_some],
      (contains_owned_iff written name).mpr ⟨listed, own⟩⟩

end Manifest

end Scaffold
