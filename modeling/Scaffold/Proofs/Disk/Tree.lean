import Mathlib.Data.List.Induction
import Scaffold.Proofs.Disk.Inside

/-! Disks that are trees of files, and what lies below a directory there. The directories between a
directory and an entry below it are on the way of every path to that entry, so it is found alike on any
disk that keeps them. -/

namespace Scaffold.Disk

open Path

/-- One entry at each location, with a name that a directory can hold, and in a directory. -/
structure Tree (disk : Disk) : Prop where
  distinct : (disk.entries.map Prod.fst).Nodup
  named : ∀ entry ∈ disk.entries, ∀ name ∈ entry.1, EntryName name
  inside : ∀ entry ∈ disk.entries, disk.entryAt? entry.1.dropLast = some .directory

instance (disk : Disk) : Decidable disk.Tree :=
  decidable_of_iff ((disk.entries.map Prod.fst).Nodup ∧
      (∀ entry ∈ disk.entries, ∀ name ∈ entry.1, EntryName name) ∧
      ∀ entry ∈ disk.entries, disk.entryAt? entry.1.dropLast = some .directory)
    ⟨fun ⟨distinct, named, inside⟩ => ⟨distinct, named, inside⟩,
      fun ⟨distinct, named, inside⟩ => ⟨distinct, named, inside⟩⟩

theorem mem_of_entryAt? {disk : Disk} {location : Location} {entry : Entry} (inner : location ≠ [])
    (found : disk.entryAt? location = some entry) : (location, entry) ∈ disk.entries := by
  rw [entryAt?, if_neg inner, Option.map_eq_some_iff] at found
  obtain ⟨⟨other, _⟩, found, rfl⟩ := found
  have same : other = location := by simpa using List.find?_some found
  subst same
  exact List.mem_of_find?_eq_some found

/-- All locations above an entry are directories. -/
theorem Tree.directory_above {disk : Disk} (tree : disk.Tree) {above behind : Location} {entry : Entry}
    (some : behind ≠ []) (found : disk.entryAt? (above ++ behind) = .some entry) :
    disk.entryAt? above = .some .directory := by
  induction behind using List.reverseRecOn generalizing entry with
  | nil => exact absurd rfl some
  | append_singleton behind name ih =>
    have member := mem_of_entryAt? (by simp) found
    have parent := tree.inside _ member
    rw [← List.append_assoc, List.dropLast_concat] at parent
    by_cases last : behind = []
    · rwa [last, List.append_nil] at parent
    · exact ih last parent

/-- A tree with one more entry, or with another one in place of a file. -/
theorem Tree.set {disk : Disk} (tree : disk.Tree) {place : Location} {name : String}
    (parent : disk.entryAt? place = some .directory) (named : EntryName name)
    (free : disk.entryAt? (place ++ [name]) ≠ some .directory) (entry : Entry) :
    (disk.set (place ++ [name]) entry).Tree := by
  have others : ∀ other ∈ disk.entries.filter (·.1 != place ++ [name]), other ∈ disk.entries :=
    fun other member => (List.mem_filter.mp member).1
  have above : ∀ location, disk.entryAt? location = some .directory →
      (disk.set (place ++ [name]) entry).entryAt? location = some .directory := by
    intro location directory
    rw [entryAt?_set disk (by simp), if_neg, directory]
    rintro rfl
    exact free directory
  constructor
  · rw [Disk.set, List.map_cons, List.nodup_cons]
    constructor
    · intro member
      obtain ⟨other, member, same⟩ := List.mem_map.mp member
      simpa [same] using (List.mem_filter.mp member).2
    · exact tree.distinct.sublist (List.filter_sublist.map Prod.fst)
  · intro other member
    rcases List.mem_cons.mp member with rfl | member
    · intro step listed
      rcases List.mem_append.mp listed with before | last
      · by_cases root : place = []
        · simp [root] at before
        · exact tree.named _ (mem_of_entryAt? root parent) step before
      · rwa [List.mem_singleton.mp last]
    · exact tree.named other (others other member)
  · intro other member
    rcases List.mem_cons.mp member with rfl | member
    · rw [List.dropLast_concat]
      exact above place parent
    · exact above _ (tree.inside other (others other member))

/-- A tree without one of its files. -/
theorem Tree.without {disk : Disk} (tree : disk.Tree) {location : Location}
    (file : disk.entryAt? location ≠ some .directory) :
    ({ disk with entries := disk.entries.filter (·.1 != location) } : Disk).Tree := by
  have others : ∀ other ∈ disk.entries.filter (·.1 != location), other ∈ disk.entries :=
    fun other member => (List.mem_filter.mp member).1
  have inner : location ≠ [] := by
    rintro rfl
    exact file rfl
  constructor
  · exact tree.distinct.sublist (List.filter_sublist.map Prod.fst)
  · exact fun other member => tree.named other (others other member)
  · intro other member
    have parent := tree.inside other (others other member)
    rw [entryAt?_without disk inner, if_neg, parent]
    intro here
    exact file (here ▸ parent)

/-! ### Paths below a directory -/

theorem step_congr {before after : Disk} {place : Location} {piece : List Char}
    (first : before.entryAt? place = some .directory) (second : after.entryAt? place = some .directory) :
    after.step place piece = before.step place piece := by
  rw [step, step, first, second]

/-- A walk by names through directories that both disks have ends alike on both. -/
theorem walk_congr {before after : Disk} (keeps : KeepsDirectories before after) {names : List String}
    {top : Location} (entries : ∀ name ∈ names, EntryName name)
    (through : ∀ first second, names = first ++ second → second ≠ [] →
      before.entryAt? (top ++ first) = some .directory) :
    (names.map String.toList).foldlM after.step top =
      (names.map String.toList).foldlM before.step top := by
  induction names generalizing top with
  | nil => rfl
  | cons name rest ih =>
    have here : before.entryAt? top = some .directory := by
      simpa using through [] (name :: rest) rfl (by simp)
    rw [List.map_cons, List.foldlM_cons, List.foldlM_cons, step_congr here (keeps.directory top here)]
    cases stepped : before.step top name.toList with
    | error refusal => rfl
    | ok next =>
      obtain ⟨-, -, rfl⟩ := (step_entry_eq_ok_iff (entries name (by simp))).mp stepped
      refine ih (fun other member => entries other (by simp [member])) ?_
      intro first second split some
      have deeper := through (name :: first) second (by rw [split, List.cons_append]) some
      rwa [List.append_assoc, List.singleton_append]

/-- Walked by names, a location below a directory is reached under these names, none of which is too
long. -/
theorem walk_spec {disk : Disk} {names : List String} {top location : Location}
    (entries : ∀ name ∈ names, EntryName name)
    (walked : (names.map String.toList).foldlM disk.step top = .ok location) :
    location = top ++ names ∧ ∀ name ∈ names, name.utf8ByteSize ≤ nameLimit := by
  induction names generalizing top with
  | nil =>
    rw [List.append_nil]
    exact ⟨(Except.ok.inj walked).symm, List.forall_mem_nil _⟩
  | cons name rest ih =>
    rw [List.map_cons, List.foldlM_cons, Except.bind_eq_ok] at walked
    obtain ⟨next, stepped, walked⟩ := walked
    obtain ⟨-, short, rfl⟩ := (step_entry_eq_ok_iff (entries name (by simp))).mp stepped
    obtain ⟨same, others⟩ := ih (fun other member => entries other (by simp [member])) walked
    refine ⟨?_, List.forall_mem_cons.mpr ⟨short, others⟩⟩
    rw [same, List.append_assoc, List.singleton_append]

/-- In a tree the names of what is below a directory lead there. -/
theorem Tree.walk {disk : Disk} (tree : disk.Tree) {names : List String} {top : Location} {entry : Entry}
    (entries : ∀ name ∈ names, EntryName name) (short : ∀ name ∈ names, name.utf8ByteSize ≤ nameLimit)
    (found : disk.entryAt? (top ++ names) = some entry) :
    (names.map String.toList).foldlM disk.step top = .ok (top ++ names) := by
  induction names generalizing top with
  | nil =>
    rw [List.append_nil]
    rfl
  | cons name rest ih =>
    have here := tree.directory_above (by simp) found
    have stepped := (@step_entry_eq_ok_iff disk top _ name (entries name (by simp))).mpr
      ⟨here, short name (by simp), rfl⟩
    rw [List.append_cons] at found ⊢
    rw [List.map_cons, List.foldlM_cons, stepped]
    exact ih (fun other member => entries other (by simp [member]))
      (fun other member => short other (by simp [member])) found

/-- Names by which the path of a directory can be continued: none of them is too long for a name, and the
whole is not too long for a path. -/
structure Reaches (directory : Path) (names : List String) : Prop where
  accepts : Accepts (directory.lead ++ ofNames names)
  short : ∀ name ∈ names, name.utf8ByteSize ≤ nameLimit

/-- What is found below a directory of a tree: the entry under just these names. -/
theorem Tree.find_ofNames_iff {disk : Disk} (tree : disk.Tree) {directory : Path} {names : List String}
    {location : Location} {entry : Entry} (some : names ≠ []) (entries : ∀ name ∈ names, EntryName name) :
    disk.find (directory.child (ofNames names)) = .ok (location, entry) ↔
      Reaches directory names ∧ ∃ top, disk.Leads directory top ∧ location = top ++ names ∧
        disk.entryAt? location = .some entry := by
  rw [find_eq_ok_iff, locate_child_iff (relative_ofNames some entries), pieces_ofNames some entries]
  constructor
  · rintro ⟨⟨accepts, top, leads, walked⟩, found⟩
    obtain ⟨same, short⟩ := walk_spec entries walked
    exact ⟨⟨accepts, short⟩, top, leads, same, found⟩
  · rintro ⟨⟨accepts, short⟩, top, leads, rfl, found⟩
    exact ⟨⟨accepts, top, leads, tree.walk entries short found⟩, found⟩

/-- A file of a tree is read alike, whether this succeeds or not, on any disk that keeps the directories
of the tree and has the same file there. -/
theorem Tree.readText_congr {before after : Disk} (tree : before.Tree)
    (keeps : KeepsDirectories before after) {directory : Path} {top : Location} {names : List String}
    {content : ByteArray} (leads : before.Leads directory top) (some : names ≠ [])
    (found : before.entryAt? (top ++ names) = .some (.file content))
    (found' : after.entryAt? (top ++ names) = .some (.file content)) :
    after.readText (directory.child (ofNames names)) =
      before.readText (directory.child (ofNames names)) := by
  have entries : ∀ name ∈ names, EntryName name := fun name member =>
    tree.named _ (mem_of_entryAt? (by simp [some]) found) name (by simp [member])
  have relative := relative_ofNames some entries
  have located : after.locate (directory.child (ofNames names)) =
      before.locate (directory.child (ofNames names)) := by
    by_cases accepts : Accepts (directory.lead ++ ofNames names)
    · have walk := walk_congr keeps entries fun first second split some =>
        tree.directory_above some (by rw [List.append_assoc, ← split]; exact found)
      rw [locate_child_of_leads relative leads accepts,
        locate_child_of_leads relative (keeps.leads leads) accepts, pieces_ofNames some entries, walk]
    · obtain ⟨refusal, refused⟩ := locate_of_not_accepts
        (by rwa [child_text directory relative])
      rw [refused, refused]
  have same : after.find (directory.child (ofNames names)) =
      before.find (directory.child (ofNames names)) := by
    rw [find, find, located]
    cases reached : before.locate (directory.child (ofNames names)) with
    | error refusal => rfl
    | ok location =>
      have walked := ((locate_child_iff relative).mp reached).2
      obtain ⟨place, leads', walked⟩ := walked
      obtain rfl := leads.unique leads'
      rw [pieces_ofNames some entries] at walked
      obtain ⟨rfl, -⟩ := walk_spec entries walked
      simp only [bind, Except.bind, found, found']
  rw [readText, readText, read, read, same]

end Scaffold.Disk
