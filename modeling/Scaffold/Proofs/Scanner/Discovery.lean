import Scaffold.Proofs.Disk.Tree
import Scaffold.Proofs.Glob
import Scaffold.Proofs.Scanner

/-! What is discovered: the roots that are files, and the selected files below the roots that are
directories, each of them once, in the order of their steps. -/

namespace Scaffold.Scanner

open Path Disk

/-! ### Below a root -/

/-- A file that lies below a directory, under these names, and that a path from there reaches. -/
def FileBelow (disk : Disk) (root : Path) (names : List String) : Prop :=
  Reaches root names ∧ ∃ top, disk.Leads root top ∧ disk.FileAt (top ++ names)

/-- The files that a scanner takes from a root that is a directory. -/
def filesBelow (scanner : Scanner) (disk : Disk) (root : Path) : List Path :=
  (disk.below root).filterMap fun (relative, _) =>
    let path := root.join relative
    if disk.isFile path && scanner.selects relative then some path else none

theorem FileBelow.entries {disk : Disk} (tree : disk.Tree) {root : Path} {names : List String}
    (below : FileBelow disk root names) : ∀ name ∈ names, EntryName name := by
  obtain ⟨-, top, -, content, found⟩ := below
  intro name member
  have inner : top ++ names ≠ [] := by
    rintro none
    simp [(List.append_eq_nil_iff.mp none).2] at member
  exact tree.named _ (mem_of_entryAt? inner found) name (List.mem_append_right _ member)

theorem isFile_ofNames_iff {disk : Disk} (tree : disk.Tree) {root : Path} {names : List String}
    (some : names ≠ []) (entries : ∀ name ∈ names, EntryName name) :
    disk.isFile (root.child (ofNames names)) = true ↔ FileBelow disk root names := by
  rw [isFile_eq_true_iff]
  constructor
  · rintro ⟨location, content, found⟩
    obtain ⟨reaches, top, leads, rfl, here⟩ := (tree.find_ofNames_iff some entries).mp found
    exact ⟨reaches, top, leads, content, here⟩
  · rintro ⟨reaches, top, leads, content, here⟩
    exact ⟨_, content, (tree.find_ofNames_iff some entries).mpr ⟨reaches, top, leads, rfl, here⟩⟩

theorem leads_of_directory {disk : Disk} {root : Path} (directory : disk.isDirectory root = true) :
    ∃ top, disk.find root = .ok (top, .directory) ∧ disk.Leads root top := by
  obtain ⟨top, found⟩ := isDirectory_eq_true_iff.mp directory
  obtain ⟨located, here⟩ := find_eq_ok_iff.mp found
  have there : root.orHere = root := by
    have some := ((locate_eq_ok_iff.mp located).1).not_empty
    simp only [orHere, String.isEmpty_iff]
    rw [if_neg]
    rintro empty
    exact some (by simp [empty])
  exact ⟨top, found, by rwa [there], here⟩

theorem namesBelow?_eq_some_iff {top location : Location} {names : List String} :
    namesBelow? top location = some names ↔ location = top ++ names ∧ names ≠ [] := by
  unfold namesBelow?
  constructor
  · intro found
    split at found
    · rename_i below
      obtain ⟨before, other⟩ := below
      obtain ⟨rest, rfl⟩ := List.isPrefixOf_iff_prefix.mp before
      rw [List.drop_left, Option.some.injEq] at found
      subst found
      refine ⟨rfl, ?_⟩
      rintro rfl
      simp at other
    · contradiction
  · rintro ⟨rfl, some⟩
    have before : top.isPrefixOf (top ++ names) = true :=
      List.isPrefixOf_iff_prefix.mpr (List.prefix_append _ _)
    rw [if_pos ⟨before, by simpa using some⟩, List.drop_left]

theorem mem_filesBelow_iff (scanner : Scanner) {disk : Disk} (tree : disk.Tree) {root file : Path}
    (directory : disk.isDirectory root = true) :
    file ∈ scanner.filesBelow disk root ↔ ∃ names, names ≠ [] ∧ FileBelow disk root names ∧
      scanner.selects ⟨ofNames names⟩ = true ∧ file = root.child (ofNames names) := by
  obtain ⟨top, found, leads⟩ := leads_of_directory directory
  unfold filesBelow below
  simp only [found, List.mem_filterMap, Option.map_eq_some_iff, Prod.exists, Prod.mk.injEq]
  constructor
  · rintro ⟨relative, entry, ⟨location, entry', member, names, below, rfl, rfl⟩, taken⟩
    obtain ⟨rfl, some⟩ := namesBelow?_eq_some_iff.mp below
    have entries : ∀ name ∈ names, EntryName name := fun name listed =>
      tree.named _ member name (List.mem_append_right _ listed)
    split at taken
    · rename_i both
      obtain ⟨file, selected⟩ := Bool.and_eq_true_iff.mp both
      exact ⟨names, some, (isFile_ofNames_iff tree some entries).mp file, selected,
        (Option.some.inj taken).symm⟩
    · contradiction
  · rintro ⟨names, some, below, selected, rfl⟩
    have file := (isFile_ofNames_iff tree some (below.entries tree)).mpr below
    obtain ⟨-, place, leads', content, there⟩ := below
    obtain rfl := leads.unique leads'
    refine ⟨⟨ofNames names⟩, .file content, ⟨_, _, mem_of_entryAt? (by simp [some]) there, names,
      namesBelow?_eq_some_iff.mpr ⟨rfl, some⟩, rfl, rfl⟩, ?_⟩
    exact if_pos (Bool.and_eq_true_iff.mpr ⟨file, selected⟩)

/-! ### Through a root -/

/-- The files that a root which exists brings in. -/
def filesThrough (scanner : Scanner) (disk : Disk) (root : Path) : List Path :=
  if disk.isFile root then [root] else scanner.filesBelow disk root

theorem filesOf_eq (scanner : Scanner) {disk : Disk} {root : Path} (there : disk.contains root = true) :
    scanner.filesOf disk root = .ok (scanner.filesThrough disk root) := by
  rw [filesOf, filesThrough, there]
  by_cases file : disk.isFile root = true
  · simp [file]
  · simp [file, filesBelow]

theorem discover_eq {scanner : Scanner} {disk : Disk}
    (there : ∀ root ∈ scanner.roots, disk.contains root = true) :
    scanner.discover disk = .ok
      (withoutRepeats ((scanner.roots.flatMap (scanner.filesThrough disk)).mergeSort precedes)) := by
  rw [discover, Except.mapM_eq_ok fun root member => scanner.filesOf_eq (there root member)]
  rfl

/-- The first root that is missing keeps the others from being looked at. -/
theorem discover_missing {scanner : Scanner} {disk : Disk} {before after : List Path} {root : Path}
    (split : scanner.roots = before ++ root :: after)
    (there : ∀ other ∈ before, disk.contains other = true) (missing : disk.contains root = false) :
    scanner.discover disk = .error (.config (.missingRoot root)) := by
  have refused : scanner.filesOf disk root = .error (.config (.missingRoot root)) := by
    rw [filesOf, missing]
    rfl
  rw [discover, split, List.mapM_append, List.mapM_cons, refused,
    Except.mapM_eq_ok fun other member => scanner.filesOf_eq (there other member)]
  rfl

theorem isFile_or_isDirectory {disk : Disk} {root : Path} (there : disk.contains root = true) :
    disk.isFile root = true ∨ disk.isDirectory root = true := by
  rw [isFile_eq_true_iff, isDirectory_eq_true_iff]
  unfold contains at there
  cases found : disk.find root with
  | error refusal =>
    rw [found] at there
    contradiction
  | ok located =>
    obtain ⟨location, entry⟩ := located
    cases entry with
    | file content => exact .inl ⟨location, content, rfl⟩
    | directory => exact .inr ⟨location, rfl⟩

theorem isFile_of_isDirectory {disk : Disk} {root : Path} (directory : disk.isDirectory root = true) :
    disk.isFile root = false := by
  obtain ⟨top, found, -⟩ := leads_of_directory directory
  rw [isFile, found]

theorem contains_of_isDirectory {disk : Disk} {root : Path}
    (directory : disk.isDirectory root = true) : disk.contains root = true := by
  obtain ⟨top, found, -⟩ := leads_of_directory directory
  rw [contains, found]

/-- A root brings in itself, if it is a file, and if it is a directory the files at any depth below it
whose names from there some pattern takes and no pattern leaves out. -/
inductive Offers (scanner : Scanner) (disk : Disk) (root : Path) : Path → Prop
  | itself (file : disk.isFile root = true) : Offers scanner disk root root
  | below {names : List String} (directory : disk.isDirectory root = true) (some : names ≠ [])
      (entries : ∀ name ∈ names, EntryName name)
      (file : disk.isFile (root.child (ofNames names)) = true)
      (included : ∃ glob ∈ scanner.included.globs, glob.isMatch (ofNames names) = true)
      (excluded : ∀ glob ∈ scanner.excluded.globs, glob.isMatch (ofNames names) = false) :
      Offers scanner disk root (root.child (ofNames names))

theorem selects_iff (scanner : Scanner) (relative : String) : scanner.selects ⟨relative⟩ = true ↔
    (∃ glob ∈ scanner.included.globs, glob.isMatch relative = true) ∧
      ∀ glob ∈ scanner.excluded.globs, glob.isMatch relative = false := by
  simp [selects, GlobSet.isMatch]

theorem mem_filesThrough_iff (scanner : Scanner) {disk : Disk} (tree : disk.Tree) {root file : Path}
    (there : disk.contains root = true) :
    file ∈ scanner.filesThrough disk root ↔ Offers scanner disk root file := by
  unfold filesThrough
  constructor
  · intro member
    rcases isFile_or_isDirectory there with is | directory
    · rw [if_pos is] at member
      obtain rfl := List.mem_singleton.mp member
      exact .itself is
    · rw [isFile_of_isDirectory directory] at member
      obtain ⟨names, some, below, selected, rfl⟩ := (mem_filesBelow_iff scanner tree directory).mp member
      have entries := below.entries tree
      obtain ⟨included, excluded⟩ := (selects_iff scanner _).mp selected
      exact .below directory some entries ((isFile_ofNames_iff tree some entries).mpr below) included
        excluded
  · rintro (is | ⟨directory, some, entries, is, included, excluded⟩)
    · rw [if_pos is]
      exact List.mem_singleton_self _
    · rw [isFile_of_isDirectory directory]
      exact (mem_filesBelow_iff scanner tree directory).mpr ⟨_, some,
        (isFile_ofNames_iff tree some entries).mp is, (selects_iff scanner _).mpr ⟨included, excluded⟩, rfl⟩

/-! ### All roots -/

/-- Sorted without repeats, a list still has all its paths in some spelling. -/
theorem exists_same_sorted {path other : Path} {paths : List Path} (member : other ∈ paths)
    (same : Same path other) : ∃ file ∈ withoutRepeats (paths.mergeSort precedes), Same path file := by
  obtain ⟨first, found, alike⟩ := exists_firstLike? member
  exact ⟨first, mem_sorted_iff.mpr ((firstLike?_congr_same alike).trans found), same.trans alike⟩

/-- Ascending paths are determined by what they are the same as. -/
theorem components_eq_of_ascending {paths paths' : List Path} (ascending : paths.Pairwise Before)
    (ascending' : paths'.Pairwise Before)
    (alike : ∀ path, (∃ other ∈ paths', Same path other) ↔ ∃ other ∈ paths, Same path other) :
    paths'.map components = paths.map components := by
  have sorted : ∀ {paths : List Path}, paths.Pairwise Before →
      (paths.map components).Pairwise fun p q => compareComponents p q = .lt :=
    fun ascending => List.pairwise_map.mpr ascending
  have irreflexive : ∀ steps, compareComponents steps steps ≠ .lt := fun steps => by
    simp [Std.ReflCmp.compare_self]
  have distinct : ∀ {paths : List Path}, paths.Pairwise Before → (paths.map components).Nodup := by
    intro paths ascending
    refine (sorted ascending).imp fun before => ?_
    rintro rfl
    exact irreflexive _ before
  have members : ∀ steps, steps ∈ paths'.map components ↔ steps ∈ paths.map components := by
    have forward : ∀ {paths paths' : List Path},
        (∀ path, (∃ other ∈ paths', Same path other) → ∃ other ∈ paths, Same path other) →
        ∀ steps, steps ∈ paths'.map components → steps ∈ paths.map components := by
      intro paths paths' alike steps member
      obtain ⟨path, listed, rfl⟩ := List.mem_map.mp member
      obtain ⟨other, listed', same⟩ := alike path ⟨path, listed, rfl⟩
      exact List.mem_map.mpr ⟨other, listed', same.symm⟩
    exact fun steps => ⟨forward (fun path => (alike path).mp) steps,
      forward (fun path => (alike path).mpr) steps⟩
  refine List.Perm.eq_of_pairwise ?_ (sorted ascending') (sorted ascending)
    ((List.perm_ext_iff_of_nodup (distinct ascending') (distinct ascending)).mpr members)
  intro p q _ _ before after
  exact absurd (Std.TransCmp.lt_trans before after) (irreflexive p)

theorem offered_of_discovered {scanner : Scanner} {disk : Disk} (tree : disk.Tree)
    (there : ∀ root ∈ scanner.roots, disk.contains root = true) {files : List Path}
    (found : scanner.discover disk = .ok files) {file : Path} (member : file ∈ files) :
    ∃ root ∈ scanner.roots, Offers scanner disk root file := by
  rw [discover_eq there] at found
  obtain rfl := Except.ok.inj found
  have brought := List.mem_of_find?_eq_some (mem_sorted_iff.mp member)
  obtain ⟨root, listed, through⟩ := List.mem_flatMap.mp brought
  exact ⟨root, listed, (mem_filesThrough_iff scanner tree (there root listed)).mp through⟩

theorem exists_same_discovered_iff {scanner : Scanner} {disk : Disk} (tree : disk.Tree)
    (there : ∀ root ∈ scanner.roots, disk.contains root = true) {files : List Path}
    (found : scanner.discover disk = .ok files) (path : Path) :
    (∃ file ∈ files, Same path file) ↔
      ∃ root ∈ scanner.roots, ∃ file, Offers scanner disk root file ∧ Same path file := by
  constructor
  · rintro ⟨file, member, same⟩
    obtain ⟨root, listed, offered⟩ := offered_of_discovered tree there found member
    exact ⟨root, listed, file, offered, same⟩
  · rintro ⟨root, listed, file, offered, same⟩
    rw [discover_eq there] at found
    obtain rfl := Except.ok.inj found
    exact exists_same_sorted (List.mem_flatMap.mpr
      ⟨root, listed, (mem_filesThrough_iff scanner tree (there root listed)).mpr offered⟩) same

/-- If all roots exist, then what they bring in is discovered and nothing else, in ascending order, and in
the same order whatever the order of the roots is and however often each of them is given. Otherwise the
first root that is missing is reported. -/
theorem discover_spec (scanner : Scanner) {disk : Disk} (tree : disk.Tree) :
    ((∀ root ∈ scanner.roots, disk.contains root = true) → ∃ files,
      scanner.discover disk = .ok files ∧ files.Pairwise Before ∧
      (∀ path, (∃ file ∈ files, Same path file) ↔
        ∃ root ∈ scanner.roots, ∃ file, Offers scanner disk root file ∧ Same path file) ∧
      ∀ roots, (∀ root, root ∈ roots ↔ root ∈ scanner.roots) → ∃ files',
        ({ scanner with roots } : Scanner).discover disk = .ok files' ∧
          files'.map components = files.map components) ∧
    ∀ before root after, scanner.roots = before ++ root :: after →
      (∀ other ∈ before, disk.contains other = true) → disk.contains root = false →
      scanner.discover disk = .error (.config (.missingRoot root)) := by
  refine ⟨fun there => ?_, fun before root after => discover_missing⟩
  have found := discover_eq there
  have listed := exists_same_discovered_iff tree there found
  refine ⟨_, found, pairwise_discover found, listed, fun roots members => ?_⟩
  have there' : ∀ root ∈ ({ scanner with roots } : Scanner).roots, disk.contains root = true :=
    fun root member => there root ((members root).mp member)
  have found' := discover_eq there'
  refine ⟨_, found', components_eq_of_ascending (pairwise_discover found) (pairwise_discover found') ?_⟩
  -- A root brings in the same files whichever other roots there are.
  have offers : ∀ root file, Offers { scanner with roots } disk root file ↔ Offers scanner disk root file := by
    intro root file
    constructor <;> rintro (is | ⟨directory, some, entries, is, included, excluded⟩)
    all_goals first
      | exact .itself is
      | exact .below directory some entries is included excluded
  intro path
  rw [exists_same_discovered_iff tree there' found', listed]
  simp only [members, offers]

theorem discover_nested :
    let disk : Disk := ⟨[(["notes.txt"], .file "".toUTF8), (["src"], .directory),
      (["src", "domain"], .directory), (["src", "domain", "order.rs"], .file "struct Order;".toUTF8)], []⟩
    let scanner : Scanner :=
      ⟨[⟨"src/domain"⟩, ⟨"notes.txt"⟩, ⟨"src"⟩], ⟨[.ofEnding ".rs"]⟩, ⟨[.ofEnding ".g.rs"]⟩, []⟩
    disk.Tree ∧
      (∃ files, scanner.discover disk = .ok files ∧ files.Pairwise Before ∧
        (∃ file ∈ files, Same ⟨"notes.txt"⟩ file) ∧ (∃ file ∈ files, Same ⟨"src//domain/order.rs"⟩ file) ∧
        ∃ files', ({ scanner with roots := [⟨"src"⟩, ⟨"notes.txt"⟩, ⟨"src/domain"⟩, ⟨"src"⟩] } :
          Scanner).discover disk = .ok files' ∧ files'.map components = files.map components) ∧
      ({ scanner with roots := [⟨"src"⟩, ⟨"lib"⟩, ⟨"bin"⟩] } : Scanner).discover disk =
        .error (.config (.missingRoot ⟨"lib"⟩)) := by
  intro disk scanner
  have tree : disk.Tree := by decide +kernel
  refine ⟨tree, ?_, ?_⟩
  · obtain ⟨files, found, ascending, listed, others⟩ := (discover_spec scanner tree).1 (by decide +kernel)
    have order : Offers scanner disk ⟨"src"⟩ (child ⟨"src"⟩ (ofNames ["domain", "order.rs"])) :=
      .below (by decide +kernel) (by decide) (by decide) (by decide +kernel)
        ⟨.ofEnding ".rs", by simp [scanner], by decide +kernel⟩ (by decide +kernel)
    refine ⟨files, found, ascending, ?_, ?_, others _ fun root => ?_⟩
    · exact (listed _).mpr ⟨⟨"notes.txt"⟩, by simp [scanner], _, .itself (by decide +kernel), rfl⟩
    · exact (listed _).mpr ⟨⟨"src"⟩, by simp [scanner], _, order, by decide +kernel⟩
    · simp only [scanner, List.mem_cons, List.not_mem_nil, or_false]
      tauto
  · exact (discover_spec _ tree).2 [⟨"src"⟩] ⟨"lib"⟩ [⟨"bin"⟩] rfl (by decide +kernel) (by decide +kernel)

end Scaffold.Scanner
