import Scaffold.Disk
import Scaffold.Proofs.Except
import Scaffold.Proofs.Path

/-! What a disk shows at a location, where paths lead, and the entries of one directory. Only
directories decide where a path leads, so that files can come and go without moving anything. -/

namespace Scaffold

theorem String.fromUTF8?_eq_some_iff {bytes : ByteArray} {text : String} :
    String.fromUTF8? bytes = some text ↔ bytes = text.toUTF8 := by
  unfold String.fromUTF8?
  constructor
  · intro decoded
    split at decoded
    · obtain rfl := Option.some.inj decoded
      rfl
    · contradiction
  · rintro rfl
    exact dif_pos text.isValidUTF8

namespace Disk

/-! ### Entries -/

theorem entryAt?_set (disk : Disk) {location : Location} (inner : location ≠ []) (entry : Entry)
    (other : Location) :
    (disk.set location entry).entryAt? other =
      if other = location then some entry else disk.entryAt? other := by
  unfold entryAt? set
  by_cases root : other = []
  · simp [root, Ne.symm inner]
  · by_cases same : other = location
    · subst same
      simp [root]
    · have different : (location == other) = false := by simpa using Ne.symm same
      simp only [if_neg root, if_neg same, List.find?_cons, different, List.find?_filter]
      congr 2
      funext entry
      by_cases here : entry.1 = other
      · simp [here, same]
      · simp [here]

theorem entryAt?_without (disk : Disk) {location : Location} (inner : location ≠ [])
    (other : Location) :
    ({ disk with entries := disk.entries.filter (·.1 != location) } : Disk).entryAt? other =
      if other = location then none else disk.entryAt? other := by
  unfold entryAt?
  by_cases root : other = []
  · simp [root, Ne.symm inner]
  · simp only [if_neg root, List.find?_filter]
    by_cases same : other = location
    · subst same
      rw [if_pos rfl, Option.map_eq_none_iff, List.find?_eq_none]
      intro entry _
      by_cases here : entry.1 = other <;> simp [here]
    · rw [if_neg same]
      congr 2
      funext entry
      by_cases here : entry.1 = other
      · simp [here, same]
      · simp [here]

/-- There is a file at a location. -/
def FileAt (disk : Disk) (location : Location) : Prop :=
  ∃ content, disk.entryAt? location = some (.file content)

instance (disk : Disk) (location : Location) : Decidable (disk.FileAt location) :=
  match found : disk.entryAt? location with
  | some (.file content) => .isTrue ⟨content, found⟩
  | some .directory => .isFalse (by simp [FileAt, found])
  | none => .isFalse (by simp [FileAt, found])

instance (disk : Disk) (location : Location) :
    Decidable (disk.entryAt? location = some .directory) :=
  match disk.entryAt? location with
  | some .directory => .isTrue rfl
  | some (.file _) => .isFalse nofun
  | none => .isFalse nofun

/-! ### Where paths lead -/

/-- Where a step from a directory ends, if its name is not too long. -/
def target? (place : Location) (piece : List Char) : Option Location :=
  if piece = [] ∨ piece = ['.'] then some place
  else if piece = ['.', '.'] then some place.dropLast
  else if (String.ofList piece).utf8ByteSize > nameLimit then none
  else some (place ++ [String.ofList piece])

theorem step_eq_ok_iff {disk : Disk} {place next : Location} {piece : List Char} :
    disk.step place piece = .ok next ↔
      disk.entryAt? place = some .directory ∧ target? place piece = some next := by
  unfold step target?
  cases disk.entryAt? place with
  | none => simp
  | some entry =>
    cases entry with
    | file content => simp
    | directory =>
      dsimp only
      split
      · simp
      · split
        · simp
        · split <;> simp

/-- A path that the system takes at all. -/
structure Accepts (text : String) : Prop where
  no_zero : '\x00' ∉ text.toList
  not_empty : text.toList ≠ []
  short : text.utf8ByteSize < pathLimit

instance (text : String) : Decidable (Accepts text) :=
  decidable_of_iff ('\x00' ∉ text.toList ∧ text.toList ≠ [] ∧ text.utf8ByteSize < pathLimit)
    ⟨fun ⟨no_zero, not_empty, short⟩ => ⟨no_zero, not_empty, short⟩,
      fun ⟨no_zero, not_empty, short⟩ => ⟨no_zero, not_empty, short⟩⟩

/-- The beginning of a text that is taken is taken too, if there is something in it. -/
theorem Accepts.beginning {text rest : String} (accepts : Accepts (text ++ rest))
    (some : text.toList ≠ []) : Accepts text := by
  refine ⟨fun zero => accepts.no_zero ?_, some, ?_⟩
  · rw [String.toList_append]
    exact List.mem_append_left _ zero
  · have short := accepts.short
    rw [String.utf8ByteSize_append] at short
    omega

def start (disk : Disk) (path : Path) : Location :=
  if path.isAbsolute then [] else disk.workingDirectory

theorem locate_eq_of_accepts {disk : Disk} {path : Path} (accepts : Accepts path.text) :
    disk.locate path = (Path.pieces path.text.toList).foldlM disk.step (disk.start path) := by
  unfold locate
  dsimp only
  have no_zero : path.text.toList.contains '\x00' = false := by simpa using accepts.no_zero
  rw [no_zero, if_neg Bool.false_ne_true, if_neg accepts.not_empty,
    if_neg (Nat.not_le.mpr accepts.short)]
  rfl

/-- Why a path that the system does not take is refused depends on its text only. -/
theorem locate_of_not_accepts {path : Path} (refused : ¬ Accepts path.text) :
    ∃ refusal, ∀ disk : Disk, disk.locate path = .error refusal := by
  unfold locate
  dsimp only
  by_cases zero : path.text.toList.contains '\x00' = true
  · exact ⟨.zeroInPath, fun disk => if_pos zero⟩
  by_cases empty : path.text.toList = []
  · exact ⟨.notFound, fun disk => by rw [if_neg zero, if_pos empty]⟩
  by_cases long : path.text.utf8ByteSize ≥ pathLimit
  · exact ⟨.nameTooLong, fun disk => by rw [if_neg zero, if_neg empty, if_pos long]⟩
  · exact absurd ⟨by simpa using zero, empty, Nat.not_le.mp long⟩ refused

theorem locate_eq_ok_iff {disk : Disk} {path : Path} {location : Location} :
    disk.locate path = .ok location ↔ Accepts path.text ∧
      (Path.pieces path.text.toList).foldlM disk.step (disk.start path) = .ok location := by
  constructor
  · intro found
    by_cases accepts : Accepts path.text
    · exact ⟨accepts, (locate_eq_of_accepts accepts).symm.trans found⟩
    · obtain ⟨refusal, refused⟩ := locate_of_not_accepts accepts
      rw [refused] at found
      contradiction
  · rintro ⟨accepts, found⟩
    exact (locate_eq_of_accepts accepts).trans found

/-- Every directory of the first disk is one of the second. -/
structure KeepsDirectories (before after : Disk) : Prop where
  working : after.workingDirectory = before.workingDirectory
  directory : ∀ location,
    before.entryAt? location = some .directory → after.entryAt? location = some .directory

theorem KeepsDirectories.walk {before after : Disk} (keeps : KeepsDirectories before after)
    {pieces : List (List Char)} {place location : Location}
    (found : pieces.foldlM before.step place = .ok location) :
    pieces.foldlM after.step place = .ok location := by
  induction pieces generalizing place with
  | nil => exact found
  | cons piece rest ih =>
    rw [List.foldlM_cons, Except.bind_eq_ok] at found ⊢
    obtain ⟨middle, stepped, found⟩ := found
    obtain ⟨directory, target⟩ := step_eq_ok_iff.mp stepped
    exact ⟨middle, step_eq_ok_iff.mpr ⟨keeps.directory place directory, target⟩, ih found⟩

theorem KeepsDirectories.locate {before after : Disk} (keeps : KeepsDirectories before after)
    {path : Path} {location : Location} (found : before.locate path = .ok location) :
    after.locate path = .ok location := by
  obtain ⟨accepts, walked⟩ := locate_eq_ok_iff.mp found
  refine locate_eq_ok_iff.mpr ⟨accepts, ?_⟩
  have start : after.start path = before.start path := by simp only [Disk.start, keeps.working]
  rw [start]
  exact keeps.walk walked

theorem KeepsDirectories.trans {first second third : Disk} (kept : KeepsDirectories first second)
    (kept' : KeepsDirectories second third) : KeepsDirectories first third :=
  ⟨kept'.working.trans kept.working, fun location found =>
    kept'.directory location (kept.directory location found)⟩

/-- Two disks with the same directories, whatever their files. -/
structure SameDirectories (before after : Disk) : Prop where
  working : after.workingDirectory = before.workingDirectory
  directory : ∀ location,
    after.entryAt? location = some .directory ↔ before.entryAt? location = some .directory

theorem SameDirectories.keeps {before after : Disk} (same : SameDirectories before after) :
    KeepsDirectories before after := ⟨same.working, fun location => (same.directory location).mpr⟩

theorem SameDirectories.refl (disk : Disk) : SameDirectories disk disk := ⟨rfl, fun _ => Iff.rfl⟩

theorem SameDirectories.symm {before after : Disk} (same : SameDirectories before after) :
    SameDirectories after before := ⟨same.working.symm, fun location => (same.directory location).symm⟩

theorem SameDirectories.trans {first second third : Disk} (same : SameDirectories first second)
    (same' : SameDirectories second third) : SameDirectories first third :=
  ⟨same'.working.trans same.working, fun location =>
    (same'.directory location).trans (same.directory location)⟩

/-- The directory that a path leads to; the empty path leads to the working directory. -/
def Leads (disk : Disk) (path : Path) (place : Location) : Prop :=
  disk.locate path.orHere = .ok place ∧ disk.entryAt? place = some .directory

theorem Leads.unique {disk : Disk} {path : Path} {place place' : Location}
    (leads : disk.Leads path place) (leads' : disk.Leads path place') : place = place' :=
  Except.ok.inj (leads.1.symm.trans leads'.1)

theorem KeepsDirectories.leads {before after : Disk} (keeps : KeepsDirectories before after)
    {path : Path} {place : Location} (leads : before.Leads path place) : after.Leads path place :=
  ⟨keeps.locate leads.1, keeps.directory place leads.2⟩

theorem SameDirectories.leads_iff {before after : Disk} (same : SameDirectories before after)
    {path : Path} {place : Location} : after.Leads path place ↔ before.Leads path place :=
  ⟨same.symm.keeps.leads, same.keeps.leads⟩

end Disk

end Scaffold
