import Scaffold.Proofs.Disk.Inside

/-! What moving, writing and removing does to the entries of one directory. Nothing else on the disk
changes, and no directory comes or goes. -/

namespace Scaffold.Disk

open Path

/-! ### Edits of one directory -/

/-- What becomes of the entry of each name: it stays, or it is removed, or it is a file from then on. -/
abbrev Edit := String → Option (Option ByteArray)

namespace Edit

def nothing : Edit := fun _ => none

def only (name : String) (content : Option ByteArray) : Edit := fun other =>
  if other = name then some content else none

/-- One edit, and then another. -/
def followedBy (first second : Edit) : Edit := fun name => (second name).or (first name)

end Edit

/-- Two disks that differ in files directly in one place only, as an edit says. -/
structure Edited (place : Location) (edit : Edit) (before after : Disk) : Prop where
  same : SameDirectories before after
  outside : ∀ location, (∀ name, location ≠ place ++ [name]) →
    after.entryAt? location = before.entryAt? location
  inside : ∀ name, after.entryAt? (place ++ [name]) =
    ((edit name).map (Option.map .file)).getD (before.entryAt? (place ++ [name]))

theorem Edited.refl (place : Location) (disk : Disk) : Edited place .nothing disk disk :=
  ⟨.refl disk, fun _ _ => rfl, fun _ => rfl⟩

theorem Edited.trans {place : Location} {edit edit' : Edit} {first second third : Disk}
    (edited : Edited place edit first second) (edited' : Edited place edit' second third) :
    Edited place (edit.followedBy edit') first third := by
  refine ⟨edited.same.trans edited'.same, ?_, ?_⟩
  · intro location other
    rw [edited'.outside location other, edited.outside location other]
  · intro name
    rw [edited'.inside, edited.inside, Edit.followedBy]
    cases edit' name <;> rfl

theorem Edited.inside_none {place : Location} {edit : Edit} {before after : Disk}
    (edited : Edited place edit before after) {name : String} (kept : edit name = none) :
    after.entryAt? (place ++ [name]) = before.entryAt? (place ++ [name]) := by
  rw [edited.inside, kept]
  rfl

theorem Edited.inside_some {place : Location} {edit : Edit} {before after : Disk}
    (edited : Edited place edit before after) {name : String} {content : Option ByteArray}
    (given : edit name = some content) :
    after.entryAt? (place ++ [name]) = content.map .file := by
  rw [edited.inside, given]
  rfl

/-- Only entries that an edit speaks of are changed by it. -/
theorem Edited.of_changed {place : Location} {edit : Edit} {before after : Disk}
    (edited : Edited place edit before after) {location : Location}
    (changed : after.entryAt? location ≠ before.entryAt? location) :
    ∃ name, location = place ++ [name] ∧ edit name ≠ none := by
  by_cases inside : ∃ name, location = place ++ [name]
  · obtain ⟨name, rfl⟩ := inside
    exact ⟨name, rfl, fun kept => changed (edited.inside_none kept)⟩
  · exact absurd (edited.outside location (not_exists.mp inside)) changed

@[simp] theorem Edit.only_ne_none {name other : String} {content : Option ByteArray} :
    Edit.only name content other ≠ none ↔ other = name := by
  by_cases same : other = name <;> simp [Edit.only, same]

theorem Edited.eq_of_changed {place : Location} {name : String} {content : Option ByteArray}
    {before after : Disk} (edited : Edited place (.only name content) before after)
    {location : Location} (changed : after.entryAt? location ≠ before.entryAt? location) :
    location = place ++ [name] := by
  obtain ⟨other, rfl, spoken⟩ := edited.of_changed changed
  rw [Edit.only_ne_none.mp spoken]

theorem append_singleton_ne (place : Location) (name : String) : place ++ [name] ≠ [] := by simp

/-- No directory gives way to a file. -/
theorem sameDirectories_set {disk : Disk} {location : Location} (content : ByteArray)
    (free : disk.entryAt? location ≠ some .directory) :
    SameDirectories disk (disk.set location (.file content)) := by
  have inner : location ≠ [] := by
    rintro rfl
    exact free (by simp [entryAt?])
  refine ⟨rfl, fun other => ?_⟩
  rw [entryAt?_set disk inner]
  split
  · rename_i same
    rw [same]
    simp [free]
  · rfl

theorem sameDirectories_without {disk : Disk} {location : Location} {content : ByteArray}
    (found : disk.entryAt? location = some (.file content)) :
    SameDirectories disk { disk with entries := disk.entries.filter (·.1 != location) } := by
  have inner : location ≠ [] := by
    rintro rfl
    simp [entryAt?] at found
  refine ⟨rfl, fun other => ?_⟩
  rw [entryAt?_without disk inner]
  split
  · rename_i same
    rw [same, found]
    simp
  · rfl

theorem edited_set {disk : Disk} {place : Location} {name : String} (content : ByteArray)
    (free : disk.entryAt? (place ++ [name]) ≠ some .directory) :
    Edited place (.only name (some content)) disk (disk.set (place ++ [name]) (.file content)) := by
  refine ⟨sameDirectories_set content free, ?_, ?_⟩
  · intro location other
    rw [entryAt?_set disk (append_singleton_ne place name), if_neg (other name)]
  · intro other
    rw [entryAt?_set disk (append_singleton_ne place name), Edit.only]
    by_cases same : other = name <;> simp [same]

/-- A file that has the content already need not be written. -/
theorem edited_unchanged {disk : Disk} {place : Location} {name : String} {content : ByteArray}
    (found : disk.entryAt? (place ++ [name]) = some (.file content)) :
    Edited place (.only name (some content)) disk disk := by
  refine ⟨.refl disk, fun _ _ => rfl, fun other => ?_⟩
  rw [Edit.only]
  by_cases same : other = name
  · subst same
    simpa using found
  · simp [same]

theorem edited_without {disk : Disk} {place : Location} {name : String} {content : ByteArray}
    (found : disk.entryAt? (place ++ [name]) = some (.file content)) :
    Edited place (.only name none) disk
      { disk with entries := disk.entries.filter (·.1 != place ++ [name]) } := by
  refine ⟨sameDirectories_without found, ?_, ?_⟩
  · intro location other
    rw [entryAt?_without disk (append_singleton_ne place name), if_neg (other name)]
  · intro other
    rw [entryAt?_without disk (append_singleton_ne place name), Edit.only]
    by_cases same : other = name <;> simp [same]

/-! ### Moving into a directory -/

theorem withoutTrailingSlashes_eq {path : Path} {front : List Char} {last : Char}
    (letters : path.text.toList = front ++ [last]) (other : last ≠ '/') :
    withoutTrailingSlashes path = path := by
  have spelled : String.ofList (front ++ [last]) = path.text := by
    rw [← letters, String.ofList_toList]
  simp [withoutTrailingSlashes, letters, other, spelled]

theorem endsWithSlash_eq {path : Path} {front : List Char} {last : Char}
    (letters : path.text.toList = front ++ [last]) : endsWithSlash path = (last == '/') := by
  simp [endsWithSlash, letters]

/-- A text with a slash, cut at the last one. -/
theorem exists_last_slash {text : List Char} (slash : '/' ∈ text) :
    ∃ front last, text = front ++ '/' :: last ∧ '/' ∉ last := by
  obtain ⟨last, front, split, clean⟩ := List.eq_append_cons_of_mem (List.mem_reverse.mpr slash)
  refine ⟨front.reverse, last.reverse, ?_, by simpa using clean⟩
  rw [List.reverse_eq_iff] at split
  simp [split]

theorem getLast?_pieces {front last : List Char} (clean : '/' ∉ last) :
    (pieces (front ++ '/' :: last)).getLast? = some last := by
  rw [pieces_append_slash, pieces_of_no_slash clean, List.getLast?_concat]

theorem endsWithDots_of_dot {path : Path} {front : List Char}
    (letters : path.text.toList = front ++ '/' :: ['.']) : endsWithDots path = true := by
  have spelled : path.text.toList = (front ++ ['/']) ++ ['.'] := by simp [letters]
  rw [endsWithDots, withoutTrailingSlashes_eq spelled (by decide), letters,
    getLast?_pieces (by decide)]
  simp

/-- No file is moved to a name that goes on after a slash. -/
theorem entry_of_moveInto {disk after : Disk} {directory : Path} {name : String} {content : ByteArray}
    (plain : (Path.mk name).isPlainName = true)
    (moved : disk.moveInto (directory.child name) content = .ok after) : EntryName name := by
  refine entryName_of_isPlainName plain fun slash => ?_
  have text := child_text directory (relative_of_isPlainName plain)
  obtain ⟨rest, split, -, idle⟩ := isPlainName_spec plain
  obtain ⟨front, last, letters, clean⟩ := exists_last_slash slash
  have member : last ∈ rest := by
    rw [letters, pieces_append_slash, pieces_of_no_slash clean] at split
    cases pieces_front : pieces front with
    | nil => exact absurd pieces_front (pieces_ne_nil front)
    | cons piece more =>
      rw [pieces_front, List.cons_append] at split
      rw [← (List.cons.inj split).2]
      simp
  have spelled : (directory.child name).text.toList =
      (directory.lead.toList ++ front) ++ '/' :: last := by
    simp [text, letters]
  rw [moveInto, Except.bind_eq_ok] at moved
  obtain ⟨location, -, moved⟩ := moved
  rcases idle last member with rfl | rfl
  · rw [endsWithSlash_eq spelled] at moved
    split at moved <;> simp at moved
  · rw [if_pos (endsWithDots_of_dot spelled)] at moved
    simp at moved

/-- The path to an entry ends as the name of the entry does. -/
theorem child_ends (directory : Path) {name : String} (entry : EntryName name) :
    ∃ front last, (directory.child name).text.toList = front ++ [last] ∧ last ≠ '/' := by
  have text := child_text directory entry.relative
  have split := List.dropLast_concat_getLast entry.not_empty
  refine ⟨directory.lead.toList ++ name.toList.dropLast, name.toList.getLast entry.not_empty, ?_, ?_⟩
  · rw [text, String.toList_append, List.append_assoc, split]
  · intro slash
    exact entry.no_slash (slash ▸ List.getLast_mem entry.not_empty)

theorem endsWithDots_child (directory : Path) {name : String} (entry : EntryName name) :
    endsWithDots (directory.child name) = false := by
  have text := child_text directory entry.relative
  obtain ⟨front, last, letters, other⟩ := child_ends directory entry
  have piece : (pieces (directory.child name).text.toList).getLast? = some name.toList := by
    rw [text, String.toList_append]
    obtain ⟨-, lead⟩ | ⟨start, lead, -⟩ := lead_spec directory
    · rw [lead, pieces_of_no_slash (by simpa using entry.no_slash)]
      simp
    · rw [lead, List.append_assoc]
      exact getLast?_pieces entry.no_slash
  rw [endsWithDots, withoutTrailingSlashes_eq letters other, piece]
  simp [entry.not_dot, entry.not_dots]

theorem moveInto_eq_ok_iff {disk after : Disk} {directory : Path} {name : String}
    {content : ByteArray} (plain : (Path.mk name).isPlainName = true) :
    disk.moveInto (directory.child name) content = .ok after ↔
      Fits directory name ∧ ∃ place, disk.Leads directory place ∧
        disk.entryAt? (place ++ [name]) ≠ some .directory ∧
        after = disk.set (place ++ [name]) (.file content) := by
  suffices step : ∀ entry : EntryName name, disk.moveInto (directory.child name) content = .ok after ↔
      ∃ location, disk.locate (directory.child name) = .ok location ∧
        disk.entryAt? location ≠ some .directory ∧ after = disk.set location (.file content) by
    constructor
    · intro moved
      have entry := entry_of_moveInto plain moved
      obtain ⟨location, located, free, rfl⟩ := (step entry).mp moved
      obtain ⟨-, other⟩ | ⟨fits, place, leads, rfl⟩ := locate_plain plain located
      · exact absurd entry other
      · exact ⟨fits, place, leads, free, rfl⟩
    · rintro ⟨fits, place, leads, free, rfl⟩
      exact (step fits.entry).mpr ⟨_, locate_child_of_fits leads fits, free, rfl⟩
  intro entry
  obtain ⟨front, last, letters, other⟩ := child_ends directory entry
  rw [moveInto, withoutTrailingSlashes_eq letters other, Except.bind_eq_ok,
    endsWithDots_child directory entry, endsWithSlash_eq letters]
  refine exists_congr fun location => and_congr_right fun _ => ?_
  cases disk.entryAt? location with
  | none => simp [other, @eq_comm _ after]
  | some found => cases found <;> simp [other, @eq_comm _ after]

/-! ### Writing and removing in a directory -/

theorem write_eq_ok_iff {disk after : Disk} {directory : Path} {name : String} {content : ByteArray}
    (entry : EntryName name) :
    disk.write (directory.child name) content = .ok after ↔
      Fits directory name ∧ ∃ place, disk.Leads directory place ∧
        disk.entryAt? (place ++ [name]) ≠ some .directory ∧
        after = disk.set (place ++ [name]) (.file content) := by
  have step : disk.write (directory.child name) content = .ok after ↔
      ∃ location, disk.locate (directory.child name) = .ok location ∧
        disk.entryAt? location ≠ some .directory ∧ after = disk.set location (.file content) := by
    rw [write, Except.bind_eq_ok]
    refine exists_congr fun location => and_congr_right fun _ => ?_
    cases disk.entryAt? location with
    | none => simp [@eq_comm _ after]
    | some found => cases found <;> simp [@eq_comm _ after]
  rw [step]
  constructor
  · rintro ⟨location, located, free, rfl⟩
    obtain ⟨-, other⟩ | ⟨fits, place, leads, rfl⟩ := locate_plain entry.isPlainName located
    · exact absurd entry other
    · exact ⟨fits, place, leads, free, rfl⟩
  · rintro ⟨fits, place, leads, free, rfl⟩
    exact ⟨_, locate_child_of_fits leads fits, free, rfl⟩

/-- A file that is there can be removed. -/
theorem removeFile_of_isFile {disk : Disk} {directory : Path} {place : Location} {name : String}
    (leads : disk.Leads directory place) (plain : (Path.mk name).isPlainName = true)
    (is : disk.isFile (directory.child name) = true) :
    ∃ after, disk.removeFile (directory.child name) = .ok after ∧
      Edited place (.only name none) disk after := by
  obtain ⟨fits, content, found⟩ := (isFile_at leads plain).mp is
  refine ⟨_, ?_, edited_without found⟩
  rw [removeFile, (find_file_iff plain).mpr ⟨fits, place, leads, rfl, found⟩]
  rfl

/-! ### Names that an edit leaves alone -/

theorem Edited.isFile_eq {before after : Disk} {directory : Path} {place : Location} {edit : Edit}
    {name : String} (edited : Edited place edit before after) (leads : before.Leads directory place)
    (plain : (Path.mk name).isPlainName = true) (kept : edit name = none) :
    after.isFile (directory.child name) = before.isFile (directory.child name) := by
  rw [Bool.eq_iff_iff, isFile_at leads plain, isFile_at (edited.same.leads_iff.mpr leads) plain,
    edited.inside_none kept]

theorem Edited.readText_iff {before after : Disk} {directory : Path} {place : Location} {edit : Edit}
    {name text : String} (edited : Edited place edit before after)
    (leads : before.Leads directory place) (plain : (Path.mk name).isPlainName = true)
    (kept : edit name = none) : after.readText (directory.child name) = .ok text ↔
      before.readText (directory.child name) = .ok text := by
  rw [readText_at leads plain, readText_at (edited.same.leads_iff.mpr leads) plain,
    edited.inside_none kept]

end Scaffold.Disk
