import Scaffold.Proofs.Disk

/-! The entries of the directory that a path leads to, as paths below it reach them. -/

namespace Scaffold.Disk

open Path

theorem foldlM_append_eq_ok {disk : Disk} {first second : List (List Char)} {place location : Location} :
    (first ++ second).foldlM disk.step place = .ok location ↔
      ∃ middle, first.foldlM disk.step place = .ok middle ∧
        second.foldlM disk.step middle = .ok location := by
  rw [List.foldlM_append, Except.bind_eq_ok]

/-- Any walk that goes on starts from a directory. -/
theorem directory_of_walk {disk : Disk} {pieces : List (List Char)} {place location : Location}
    (some : pieces ≠ []) (found : pieces.foldlM disk.step place = .ok location) :
    disk.entryAt? place = .some .directory := by
  cases pieces with
  | nil => exact absurd rfl some
  | cons piece rest =>
    rw [List.foldlM_cons, Except.bind_eq_ok] at found
    obtain ⟨middle, stepped, -⟩ := found
    exact (step_eq_ok_iff.mp stepped).1

/-- The empty path leads to the working directory. -/
theorem leads_of_empty {disk : Disk} {directory : Path} (empty : directory.text = "")
    (place : Location) :
    disk.Leads directory place ↔
      place = disk.workingDirectory ∧ disk.entryAt? place = some .directory := by
  have here : directory.orHere = ⟨"."⟩ := by simp [orHere, empty]
  have accepts : Accepts "." := ⟨by decide, by decide, by decide⟩
  have split : pieces ".".toList = [['.']] := by decide
  have origin : disk.start ⟨"."⟩ = disk.workingDirectory := by simp [Disk.start, isAbsolute]
  rw [Leads, here, locate_eq_ok_iff, split, origin]
  simp only [accepts, true_and, List.foldlM_cons, List.foldlM_nil, Except.bind_eq_ok, step_eq_ok_iff,
    target?, or_true, if_true, Option.some.injEq]
  constructor
  · rintro ⟨⟨_, ⟨found, rfl⟩, same⟩, directory⟩
    exact ⟨(Except.ok.inj same).symm, directory⟩
  · rintro ⟨rfl, directory⟩
    exact ⟨⟨_, ⟨directory, rfl⟩, rfl⟩, directory⟩

/-- A slash at the end of a path changes nothing about where it leads. -/
theorem leads_of_start {disk : Disk} {directory : Path} {start : List Char}
    (letters : directory.text.toList = start ∧ start ≠ [] ∨ directory.text.toList = start ++ ['/'])
    (place : Location) :
    disk.Leads directory place ↔ Accepts directory.text ∧
      (pieces start).foldlM disk.step (disk.start directory) = .ok place ∧
        disk.entryAt? place = some .directory := by
  have some : directory.text ≠ "" := by
    rintro empty
    rcases letters with ⟨same, some⟩ | same
    · exact some (by simpa [empty] using same.symm)
    · simp [empty] at same
  have there : directory.orHere = directory := by simp [orHere, some]
  rw [Leads, there, locate_eq_ok_iff, and_assoc]
  refine and_congr_right fun _ => ?_
  rcases letters with ⟨same, -⟩ | same
  · rw [same]
  · rw [same, pieces_append_slash, foldlM_append_eq_ok]
    constructor
    · rintro ⟨⟨middle, walked, last⟩, found⟩
      simp only [pieces, List.foldlM_cons, List.foldlM_nil, Except.bind_eq_ok, step_eq_ok_iff,
        target?, true_or, if_true, Option.some.injEq] at last
      obtain ⟨_, ⟨-, rfl⟩, last⟩ := last
      obtain rfl := Except.ok.inj last
      exact ⟨walked, found⟩
    · rintro ⟨walked, found⟩
      refine ⟨⟨place, walked, ?_⟩, found⟩
      simp only [pieces, List.foldlM_cons, List.foldlM_nil, Except.bind_eq_ok, step_eq_ok_iff,
        target?, true_or, if_true, Option.some.injEq]
      exact ⟨place, ⟨found, rfl⟩, rfl⟩

/-- The steps of a path below a directory begin with steps to that directory. -/
theorem child_walk {directory : Path} {name : String} (relative : ∀ after, name.toList ≠ '/' :: after)
    (accepts : Accepts (directory.lead ++ name)) :
    ∃ front, pieces (directory.child name).text.toList = front ++ pieces name.toList ∧
      ∀ disk place, Leads disk directory place ↔
        front.foldlM disk.step (disk.start (directory.child name)) = .ok place ∧
          disk.entryAt? place = some .directory := by
  have text := child_text directory relative
  have origin : ∀ disk : Disk, disk.start (directory.child name) = disk.start directory := fun disk => by
    rw [Disk.start, Disk.start, isAbsolute_child directory relative]
  obtain ⟨empty, lead⟩ | ⟨start, lead, letters⟩ := lead_spec directory
  · -- The name alone is followed from the working directory, where the empty path leads.
    refine ⟨[], by rw [text, lead, String.empty_append, List.nil_append], fun disk place => ?_⟩
    have here : disk.start directory = disk.workingDirectory := by simp [Disk.start, isAbsolute, empty]
    rw [leads_of_empty empty, origin, here, List.foldlM_nil]
    refine and_congr_left fun _ => ?_
    constructor
    · rintro rfl
      rfl
    · intro found
      exact (Except.ok.inj found).symm
  · have accepts' : Accepts directory.text := by
      obtain ⟨rest, begun⟩ := lead_begins directory
      rw [begun, String.append_assoc] at accepts
      refine accepts.beginning ?_
      rcases letters with ⟨same, some⟩ | same
      · rwa [same]
      · simp [same]
    refine ⟨pieces start, ?_, fun disk place => ?_⟩
    · rw [text, String.toList_append, lead, List.append_assoc]
      exact pieces_append_slash start name.toList
    · rw [origin, leads_of_start letters]
      simp only [accepts', true_and]

/-- A path below a directory is followed by finding the directory and going on from there. -/
theorem locate_child_iff {disk : Disk} {directory : Path} {name : String} {location : Location}
    (relative : ∀ after, name.toList ≠ '/' :: after) :
    disk.locate (directory.child name) = .ok location ↔ Accepts (directory.lead ++ name) ∧
      ∃ place, disk.Leads directory place ∧
        (pieces name.toList).foldlM disk.step place = .ok location := by
  rw [locate_eq_ok_iff, child_text directory relative]
  refine and_congr_right fun accepts => ?_
  obtain ⟨front, split, leads_iff⟩ := child_walk relative accepts
  rw [← child_text directory relative, split, foldlM_append_eq_ok]
  constructor
  · rintro ⟨place, walked, found⟩
    exact ⟨place, (leads_iff disk place).mpr
      ⟨walked, directory_of_walk (pieces_ne_nil _) found⟩, found⟩
  · rintro ⟨place, leads, found⟩
    exact ⟨place, ((leads_iff disk place).mp leads).1, found⟩

/-- From a directory that is found, following a path below it comes to what the rest of the path
comes to, failures included. -/
theorem locate_child_of_leads {disk : Disk} {directory : Path} {name : String} {place : Location}
    (relative : ∀ after, name.toList ≠ '/' :: after) (leads : disk.Leads directory place)
    (accepts : Accepts (directory.lead ++ name)) :
    disk.locate (directory.child name) = (pieces name.toList).foldlM disk.step place := by
  obtain ⟨front, split, leads_iff⟩ := child_walk relative accepts
  have walked := ((leads_iff disk place).mp leads).1
  rw [locate_eq_of_accepts (by rwa [child_text directory relative]), split, List.foldlM_append, walked]
  rfl

/-! ### Reading and looking -/

theorem read_of_readText {disk : Disk} {path : Path} {text : String}
    (found : disk.readText path = .ok text) : disk.read path = .ok text.toUTF8 := by
  rw [readText, Except.bind_eq_ok] at found
  obtain ⟨content, found, decoded⟩ := found
  split at decoded
  · rename_i text' same
    obtain rfl := Except.ok.inj decoded
    rw [← String.fromUTF8?_eq_some_iff.mp same]
    exact found
  · contradiction

theorem contains_of_read {disk : Disk} {path : Path} {content : ByteArray}
    (found : disk.read path = .ok content) : disk.contains path = true := by
  rw [read, Except.bind_eq_ok] at found
  obtain ⟨entry, found, -⟩ := found
  rw [contains, found]

theorem not_contains_of_readText {disk : Disk} {path : Path}
    (failed : disk.readText path = .error .notFound) : disk.contains path = false := by
  unfold readText read at failed
  unfold contains
  cases found : disk.find path with
  | error refusal => rfl
  | ok entry =>
    obtain ⟨location, entry⟩ := entry
    cases entry with
    | directory => simp [found, bind, Except.bind] at failed
    | file content =>
      simp only [found, bind, Except.bind] at failed
      cases decoded : String.fromUTF8? content <;> simp [decoded] at failed

/-! ### Entries of a directory -/

/-- A name of an entry that a path to a directory can be continued with. -/
structure Fits (directory : Path) (name : String) : Prop where
  entry : EntryName name
  accepts : Accepts (directory.lead ++ name)
  short : name.utf8ByteSize ≤ nameLimit

instance (directory : Path) (name : String) : Decidable (Fits directory name) :=
  decidable_of_iff (EntryName name ∧ Accepts (directory.lead ++ name) ∧ name.utf8ByteSize ≤ nameLimit)
    ⟨fun ⟨entry, accepts, short⟩ => ⟨entry, accepts, short⟩,
      fun ⟨entry, accepts, short⟩ => ⟨entry, accepts, short⟩⟩

/-- Where a name fits a shorter one fits too. -/
theorem Fits.shorter {directory : Path} {name other : String} (fits : Fits directory name)
    (entry : EntryName other) (no_zero : '\x00' ∉ other.toList)
    (shorter : other.utf8ByteSize ≤ name.utf8ByteSize) : Fits directory other := by
  refine ⟨entry, ⟨?_, ?_, ?_⟩, Nat.le_trans shorter fits.short⟩
  · have clean := fits.accepts.no_zero
    simp only [String.toList_append, List.mem_append, not_or] at clean ⊢
    exact ⟨clean.1, no_zero⟩
  · simp [entry.not_empty]
  · have short := fits.accepts.short
    rw [String.utf8ByteSize_append] at short ⊢
    omega

/-- A step by the name of an entry goes to the place of that entry, whether it is there or not. -/
theorem step_entry_eq_ok_iff {disk : Disk} {place next : Location} {name : String}
    (entry : EntryName name) :
    disk.step place name.toList = .ok next ↔ disk.entryAt? place = some .directory ∧
      name.utf8ByteSize ≤ nameLimit ∧ next = place ++ [name] := by
  rw [step_eq_ok_iff]
  refine and_congr_right fun _ => ?_
  simp [target?, entry.not_empty, entry.not_dot, entry.not_dots, eq_comm]

theorem locate_child_of_fits {disk : Disk} {directory : Path} {place : Location} {name : String}
    (leads : disk.Leads directory place) (fits : Fits directory name) :
    disk.locate (directory.child name) = .ok (place ++ [name]) := by
  refine (locate_child_iff fits.entry.relative).mpr ⟨fits.accepts, place, leads, ?_⟩
  rw [pieces_of_no_slash fits.entry.no_slash, List.foldlM_cons, Except.bind_eq_ok]
  exact ⟨_, (step_entry_eq_ok_iff fits.entry).mpr ⟨leads.2, fits.short, rfl⟩, rfl⟩

theorem relative_of_isPlainName {name : String} (plain : (Path.mk name).isPlainName = true)
    (after : List Char) : name.toList ≠ '/' :: after := by
  intro absolute
  simp [isPlainName, components, absolute] at plain

/-- Slashes and dots after a name are followed only where there is a directory. -/
theorem walk_idle {disk : Disk} {pieces : List (List Char)} {place location : Location}
    (idle : ∀ piece ∈ pieces, piece = [] ∨ piece = ['.']) (some : pieces ≠ [])
    (found : pieces.foldlM disk.step place = .ok location) :
    location = place ∧ disk.entryAt? place = .some .directory := by
  have directory := directory_of_walk some found
  refine ⟨?_, directory⟩
  clear some
  induction pieces with
  | nil => exact (Except.ok.inj found).symm
  | cons piece rest ih =>
    rw [List.foldlM_cons, Except.bind_eq_ok] at found
    obtain ⟨middle, stepped, found⟩ := found
    have target := (step_eq_ok_iff.mp stepped).2
    rw [target?, if_pos (idle piece (by simp)), Option.some.injEq] at target
    subst target
    exact ih (fun other member => idle other (by simp [member])) found

/-- Where a plain name leads below a directory: to the entry that it begins with, which is a directory if
the name goes on. -/
theorem locate_plain_spec {disk : Disk} {directory : Path} {name : String} {location : Location}
    (plain : (Path.mk name).isPlainName = true)
    (found : disk.locate (directory.child name) = .ok location) :
    Accepts (directory.lead ++ name) ∧ (entryName name).utf8ByteSize ≤ nameLimit ∧
      ∃ place, disk.Leads directory place ∧ location = place ++ [entryName name] ∧
        ∃ rest, pieces name.toList = (entryName name).toList :: rest ∧
          (rest ≠ [] → disk.entryAt? location = some .directory) := by
  obtain ⟨accepts, place, leads, walked⟩ :=
    (locate_child_iff (relative_of_isPlainName plain)).mp found
  obtain ⟨rest, split, entry, idle⟩ := isPlainName_spec plain
  rw [split, List.foldlM_cons, Except.bind_eq_ok] at walked
  obtain ⟨middle, stepped, walked⟩ := walked
  obtain ⟨-, short, rfl⟩ := (step_entry_eq_ok_iff entry).mp stepped
  refine ⟨accepts, short, place, leads, ?_, rest, split, fun more => ?_⟩
  · cases rest with
    | nil => exact (Except.ok.inj walked).symm
    | cons piece more => exact (walk_idle idle (by simp) walked).1
  · obtain ⟨rfl, directory⟩ := walk_idle idle more walked
    exact directory

/-- What a plain name finds below a directory: a directory, or the entry of just that name. -/
theorem locate_plain {disk : Disk} {directory : Path} {name : String} {location : Location}
    (plain : (Path.mk name).isPlainName = true)
    (found : disk.locate (directory.child name) = .ok location) :
    disk.entryAt? location = some .directory ∧ ¬ EntryName name ∨
      Fits directory name ∧ ∃ place, disk.Leads directory place ∧ location = place ++ [name] := by
  obtain ⟨accepts, short, place, leads, same, rest, split, goesOn⟩ := locate_plain_spec plain found
  cases Decidable.em ('/' ∈ name.toList) with
  | inl slash =>
    left
    refine ⟨goesOn ?_, fun entry => entry.no_slash slash⟩
    rintro rfl
    obtain ⟨first, next, more, split'⟩ := pieces_of_slash slash
    simp [split] at split'
  | inr clean =>
    right
    have entry := entryName_of_isPlainName plain clean
    rw [entryName_of_no_slash clean] at short same
    exact ⟨⟨entry, accepts, short⟩, place, leads, same⟩

theorem find_eq_ok_iff {disk : Disk} {path : Path} {location : Location} {entry : Entry} :
    disk.find path = .ok (location, entry) ↔
      disk.locate path = .ok location ∧ disk.entryAt? location = some entry := by
  rw [find, Except.bind_eq_ok]
  constructor
  · rintro ⟨middle, located, found⟩
    split at found
    · rename_i other same
      obtain ⟨rfl, rfl⟩ := Prod.mk.inj (Except.ok.inj found)
      exact ⟨located, same⟩
    · contradiction
  · rintro ⟨located, same⟩
    exact ⟨location, located, by rw [same]⟩

theorem isFile_eq_true_iff {disk : Disk} {path : Path} : disk.isFile path = true ↔
    ∃ location content, disk.find path = .ok (location, .file content) := by
  unfold isFile
  constructor
  · intro file
    split at file
    · rename_i location content found
      exact ⟨location, content, found⟩
    · contradiction
  · rintro ⟨location, content, found⟩
    rw [found]

theorem isDirectory_eq_true_iff {disk : Disk} {path : Path} : disk.isDirectory path = true ↔
    ∃ location, disk.find path = .ok (location, .directory) := by
  unfold isDirectory
  constructor
  · intro directory
    split at directory
    · rename_i location found
      exact ⟨location, found⟩
    · contradiction
  · rintro ⟨location, found⟩
    rw [found]

theorem leads_of_isDirectory {disk : Disk} {path : Path} {place : Location}
    (located : (disk.locate path.orHere).toOption = some place)
    (is : disk.isDirectory path.orHere = true) : disk.Leads path place := by
  have located := Except.toOption_eq_some_iff.mp located
  obtain ⟨location, found⟩ := isDirectory_eq_true_iff.mp is
  obtain ⟨located', directory⟩ := find_eq_ok_iff.mp found
  obtain rfl := Except.ok.inj (located.symm.trans located')
  exact ⟨located, directory⟩

/-- Below a directory a plain name finds a file only if it is the name of an entry. -/
theorem find_file_iff {disk : Disk} {directory : Path} {name : String} {location : Location}
    {content : ByteArray} (plain : (Path.mk name).isPlainName = true) :
    disk.find (directory.child name) = .ok (location, .file content) ↔
      Fits directory name ∧ ∃ place, disk.Leads directory place ∧ location = place ++ [name] ∧
        disk.entryAt? location = some (.file content) := by
  rw [find_eq_ok_iff]
  constructor
  · rintro ⟨located, found⟩
    rcases locate_plain plain located with ⟨directory, -⟩ | ⟨fits, place, leads, same⟩
    · rw [found] at directory
      simp at directory
    · exact ⟨fits, place, leads, same, found⟩
  · rintro ⟨fits, place, leads, rfl, found⟩
    exact ⟨locate_child_of_fits leads fits, found⟩

theorem isFile_iff {disk : Disk} {directory : Path} {name : String}
    (plain : (Path.mk name).isPlainName = true) :
    disk.isFile (directory.child name) = true ↔ Fits directory name ∧ ∃ place content,
      disk.Leads directory place ∧ disk.entryAt? (place ++ [name]) = some (.file content) := by
  rw [isFile_eq_true_iff]
  constructor
  · rintro ⟨location, content, found⟩
    obtain ⟨fits, place, leads, rfl, same⟩ := (find_file_iff plain).mp found
    exact ⟨fits, place, content, leads, same⟩
  · rintro ⟨fits, place, content, leads, same⟩
    exact ⟨_, content, (find_file_iff plain).mpr ⟨fits, place, leads, rfl, same⟩⟩

theorem read_eq_ok_iff {disk : Disk} {directory : Path} {name : String} {content : ByteArray}
    (plain : (Path.mk name).isPlainName = true) :
    disk.read (directory.child name) = .ok content ↔ Fits directory name ∧ ∃ place,
      disk.Leads directory place ∧ disk.entryAt? (place ++ [name]) = some (.file content) := by
  rw [read, Except.bind_eq_ok]
  constructor
  · rintro ⟨⟨location, entry⟩, found, taken⟩
    cases entry with
    | directory => contradiction
    | file bytes =>
      obtain rfl := Except.ok.inj taken
      obtain ⟨fits, place, leads, rfl, same⟩ := (find_file_iff plain).mp found
      exact ⟨fits, place, leads, same⟩
  · rintro ⟨fits, place, leads, same⟩
    exact ⟨_, (find_file_iff plain).mpr ⟨fits, place, leads, rfl, same⟩, rfl⟩

theorem readText_eq_ok_iff {disk : Disk} {directory : Path} {name text : String}
    (plain : (Path.mk name).isPlainName = true) :
    disk.readText (directory.child name) = .ok text ↔ Fits directory name ∧ ∃ place,
      disk.Leads directory place ∧ disk.entryAt? (place ++ [name]) = some (.file text.toUTF8) := by
  rw [← read_eq_ok_iff plain]
  refine ⟨read_of_readText, fun found => ?_⟩
  rw [readText, Except.bind_eq_ok]
  exact ⟨_, found, by rw [String.fromUTF8?_eq_some_iff.mpr rfl]⟩

/-! ### In a directory that is known -/

theorem isFile_at {disk : Disk} {directory : Path} {place : Location} {name : String}
    (leads : disk.Leads directory place) (plain : (Path.mk name).isPlainName = true) :
    disk.isFile (directory.child name) = true ↔
      Fits directory name ∧ ∃ content, disk.entryAt? (place ++ [name]) = some (.file content) := by
  rw [isFile_iff plain]
  constructor
  · rintro ⟨fits, place', content, leads', found⟩
    obtain rfl := leads.unique leads'
    exact ⟨fits, content, found⟩
  · rintro ⟨fits, content, found⟩
    exact ⟨fits, place, content, leads, found⟩

theorem read_at {disk : Disk} {directory : Path} {place : Location} {name : String}
    {content : ByteArray} (leads : disk.Leads directory place)
    (plain : (Path.mk name).isPlainName = true) :
    disk.read (directory.child name) = .ok content ↔
      Fits directory name ∧ disk.entryAt? (place ++ [name]) = some (.file content) := by
  rw [read_eq_ok_iff plain]
  constructor
  · rintro ⟨fits, place', leads', found⟩
    obtain rfl := leads.unique leads'
    exact ⟨fits, found⟩
  · rintro ⟨fits, found⟩
    exact ⟨fits, place, leads, found⟩

theorem readText_at {disk : Disk} {directory : Path} {place : Location} {name text : String}
    (leads : disk.Leads directory place) (plain : (Path.mk name).isPlainName = true) :
    disk.readText (directory.child name) = .ok text ↔
      Fits directory name ∧ disk.entryAt? (place ++ [name]) = some (.file text.toUTF8) := by
  rw [readText_eq_ok_iff plain]
  constructor
  · rintro ⟨fits, place', leads', found⟩
    obtain rfl := leads.unique leads'
    exact ⟨fits, found⟩
  · rintro ⟨fits, found⟩
    exact ⟨fits, place, leads, found⟩

end Scaffold.Disk
