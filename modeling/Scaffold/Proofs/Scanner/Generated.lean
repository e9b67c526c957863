import Scaffold.Config
import Scaffold.Manifest
import Scaffold.Proofs.Disk.Tree
import Scaffold.Proofs.Glob
import Scaffold.Proofs.Scanner.Discovery
import Scaffold.Proofs.Scanner.History

/-! Generated files are no sources. With the default patterns a scanner looks at the names below a root
only, and the names of generated files are none that it takes, so that it finds the same whichever of
them are there. -/

namespace Scaffold

/-! ### Names of sources -/

/-- The name of a file that was generated: that of a unit or that of the manifest. -/
def IsGeneratedName (name : String) : Prop :=
  ".g.rs".toList <:+ name.toList ∨ name = Manifest.fileName

/-- Directories and a name in them that belong to the sources by default: the name ends as that of a
source does and not as that of a unit does, and no directory is one of builds. -/
structure IsSourceName (dirs : List String) (name : String) : Prop where
  source : ".rs".toList <:+ name.toList
  no_unit : ¬ ".g.rs".toList <:+ name.toList
  no_build : "target" ∉ dirs

theorem IsSourceName.not_generated {dirs : List String} {name : String} (source : IsSourceName dirs name) :
    ¬ IsGeneratedName name := by
  rintro (unit | rfl)
  · exact source.no_unit unit
  · have ends := source.source
    revert ends
    decide +kernel

/-- The patterns that the default settings take and leave out, as they are read. -/
theorem Glob.ofText?_defaults : ofText? "**/*.rs" = some (ofEnding ".rs") ∧
    ofText? "**/*.g.rs" = some (ofEnding ".g.rs") ∧
    ofText? "**/target/**" = some (ofStep "target") := by
  have read : ∀ {pattern : String} {glob : Glob},
      (ofText? pattern).map Glob.rows = some glob.rows → ofText? pattern = some glob := by
    rintro pattern ⟨rows⟩ found
    obtain ⟨⟨rows'⟩, found, same⟩ := Option.map_eq_some_iff.mp found
    exact found.trans (congrArg (fun rows => some (Glob.mk rows)) same)
  refine ⟨read ?_, read ?_, read ?_⟩
  · decide +kernel
  · decide +kernel
  · decide +kernel

namespace Scanner

open Path Disk

/-- A scanner that goes by the default patterns. -/
structure ByDefault (scanner : Scanner) : Prop where
  included : scanner.included = ⟨[.ofEnding ".rs"]⟩
  excluded : scanner.excluded = ⟨[.ofEnding ".g.rs", .ofStep "target"]⟩

/-- A scanner can be made for any roots with the default patterns. -/
theorem make_defaults {roots : List Path} (some : roots ≠ []) :
    ∃ fresh, make roots Config.default.includes Config.default.excludes = .ok fresh ∧
      fresh.roots = roots ∧ ByDefault fresh := by
  obtain ⟨sources, units, builds⟩ := Glob.ofText?_defaults
  have nonempty : roots.isEmpty = false := by simpa using some
  refine ⟨⟨roots, ⟨[.ofEnding ".rs"]⟩, ⟨[.ofEnding ".g.rs", .ofStep "target"]⟩, []⟩, ?_, rfl, rfl, rfl⟩
  simp only [make, nonempty, Config.default, GlobSet.ofTexts, List.mapM_cons, List.mapM_nil, sources,
    units, builds]
  rfl

theorem ByDefault.sameSettings {scanner scanner' : Scanner} (defaults : ByDefault scanner)
    (same : SameSettings scanner scanner') : ByDefault scanner' := by
  rw [SameSettings] at same
  rw [same]
  exact ⟨defaults.included, defaults.excluded⟩

/-- With the default patterns a scanner selects the files whose names are those of sources. -/
theorem ByDefault.selects_iff {scanner : Scanner} (defaults : ByDefault scanner) {dirs : List String}
    {name : String} (entries : ∀ other ∈ dirs ++ [name], EntryName other) :
    scanner.selects ⟨ofNames (dirs ++ [name])⟩ = true ↔ IsSourceName dirs name := by
  have sources := @Glob.isMatch_ofEnding ".rs" name dirs (by simp) (by simp)
  have units := @Glob.isMatch_ofEnding ".g.rs" name dirs (by simp) (by simp)
  have builds := @Glob.isMatch_ofStep "target" name dirs (by simp)
    fun other member => (entries other member).no_slash
  rw [selects, defaults.included, defaults.excluded, Bool.and_eq_true, Bool.not_eq_true',
    ← Bool.not_eq_true]
  simp only [GlobSet.isMatch, List.any_cons, List.any_nil, Bool.or_false, Bool.or_eq_true, ofNames,
    sources, units, builds, not_or]
  constructor
  · rintro ⟨source, no_unit, no_build⟩
    exact ⟨source, no_unit, no_build⟩
  · rintro ⟨source, no_unit, no_build⟩
    exact ⟨source, no_unit, no_build⟩

/-! ### What is discovered -/

/-- Names that lead from a root to a file of the sources, by the default patterns. -/
def SourceBelow (disk : Disk) (root file : Path) : Prop :=
  ∃ dirs name, FileBelow disk root (dirs ++ [name]) ∧ IsSourceName dirs name ∧
    file = root.child (ofNames (dirs ++ [name]))

theorem ByDefault.mem_filesBelow_iff {scanner : Scanner} (defaults : ByDefault scanner) {disk : Disk}
    (tree : disk.Tree) {root file : Path} (directory : disk.isDirectory root = true) :
    file ∈ scanner.filesBelow disk root ↔ SourceBelow disk root file := by
  rw [scanner.mem_filesBelow_iff tree directory]
  constructor
  · rintro ⟨names, some, below, selected, rfl⟩
    obtain ⟨dirs, name, rfl⟩ : ∃ dirs name, names = dirs ++ [name] :=
      ⟨_, _, (List.dropLast_append_getLast some).symm⟩
    exact ⟨dirs, name, below, (defaults.selects_iff (below.entries tree)).mp selected, rfl⟩
  · rintro ⟨dirs, name, below, source, rfl⟩
    exact ⟨_, by simp, below, (defaults.selects_iff (below.entries tree)).mpr source, rfl⟩

/-- Below one root, two spellings of a file are one. -/
theorem SourceBelow.eq_of_same {disk : Disk} (tree : disk.Tree) {root file file' : Path}
    (source : SourceBelow disk root file) (source' : SourceBelow disk root file')
    (same : Same file file') : file = file' := by
  obtain ⟨dirs, name, below, -, rfl⟩ := source
  obtain ⟨dirs', name', below', -, rfl⟩ := source'
  rw [Same, components_child_ofNames root (by simp) (below.entries tree),
    components_child_ofNames root (by simp) (below'.entries tree)] at same
  have names := List.append_cancel_left same
  rw [List.map_inj_right fun first second => Component.name.inj] at names
  rw [names]

theorem discover_directories {scanner : Scanner} {disk : Disk}
    (directories : ∀ root ∈ scanner.roots, disk.isDirectory root = true) :
    scanner.discover disk = .ok
      (withoutRepeats ((scanner.roots.flatMap (scanner.filesBelow disk)).mergeSort precedes)) := by
  have through : ∀ root ∈ scanner.roots, scanner.filesThrough disk root = scanner.filesBelow disk root := by
    intro root member
    rw [filesThrough, isFile_of_isDirectory (directories root member)]
    rfl
  rw [discover_eq fun root member => contains_of_isDirectory (directories root member),
    List.flatMap_congr through]

/-- What is discovered below directories: sources only, and each of them in one spelling. -/
theorem ByDefault.mem_discover {scanner : Scanner} (defaults : ByDefault scanner) {disk : Disk}
    (tree : disk.Tree) (directories : ∀ root ∈ scanner.roots, disk.isDirectory root = true)
    {files : List Path} (found : scanner.discover disk = .ok files) :
    (∀ file ∈ files, ∃ root ∈ scanner.roots, SourceBelow disk root file) ∧
      ∀ root ∈ scanner.roots, ∀ file, SourceBelow disk root file →
        ∃ other ∈ files, Same file other := by
  rw [discover_directories directories] at found
  obtain rfl := Except.ok.inj found
  constructor
  · intro file member
    have listed := List.mem_of_find?_eq_some (mem_sorted_iff.mp member)
    obtain ⟨root, rooted, below⟩ := List.mem_flatMap.mp listed
    exact ⟨root, rooted, (defaults.mem_filesBelow_iff tree (directories root rooted)).mp below⟩
  · intro root rooted file source
    have below := (defaults.mem_filesBelow_iff tree (directories root rooted)).mpr source
    obtain ⟨other, first, same⟩ := exists_firstLike? (List.mem_flatMap.mpr ⟨root, rooted, below⟩)
    exact ⟨other, mem_sorted_iff.mpr ((firstLike?_congr_same same).trans first), same⟩

/-! ### Two disks -/

/-- Two disks that differ in generated files only. New directories may have been made for them. -/
structure GeneratedApart (before after : Disk) : Prop where
  directories : KeepsDirectories before after
  files : ∀ place name content, ¬ IsGeneratedName name →
    (after.entryAt? (place ++ [name]) = some (.file content) ↔
      before.entryAt? (place ++ [name]) = some (.file content))

namespace GeneratedApart

variable {before after : Disk}

theorem trans {first second third : Disk} (apart : GeneratedApart first second)
    (apart' : GeneratedApart second third) : GeneratedApart first third :=
  ⟨apart.directories.trans apart'.directories, fun place name content other =>
    (apart'.files place name content other).trans (apart.files place name content other)⟩

/-- One generated file is added, changed or removed. -/
theorem of_elsewhere {place : Location} {name : String} (generated : IsGeneratedName name)
    (working : after.workingDirectory = before.workingDirectory)
    (others : ∀ location, location ≠ place ++ [name] → after.entryAt? location = before.entryAt? location)
    (file : before.entryAt? (place ++ [name]) ≠ some .directory) : GeneratedApart before after := by
  refine ⟨⟨working, fun location directory => ?_⟩, fun place' name' content other => ?_⟩
  · rw [others location ?_, directory]
    rintro rfl
    exact file directory
  · rw [others (place' ++ [name']) ?_]
    intro located
    obtain rfl : name' = name := (List.cons.inj (List.append_inj' located rfl).2).1
    exact other generated

theorem write (disk : Disk) {place : Location} {name : String} (generated : IsGeneratedName name)
    (free : disk.entryAt? (place ++ [name]) ≠ some .directory) (content : ByteArray) :
    GeneratedApart disk (disk.set (place ++ [name]) (.file content)) :=
  .of_elsewhere generated rfl (fun _ other => by rw [entryAt?_set disk (by simp), if_neg other]) free

theorem remove (disk : Disk) {place : Location} {name : String} (generated : IsGeneratedName name)
    (file : disk.entryAt? (place ++ [name]) ≠ some .directory) :
    GeneratedApart disk { disk with entries := disk.entries.filter (·.1 != place ++ [name]) } :=
  .of_elsewhere generated rfl (fun _ other => by rw [entryAt?_without disk (by simp), if_neg other]) file

theorem makeDirectory (disk : Disk) {location : Location} (inner : location ≠ [])
    (free : disk.entryAt? location = none) : GeneratedApart disk (disk.set location .directory) := by
  refine ⟨⟨rfl, fun other directory => ?_⟩, fun place name content _ => ?_⟩
  · rw [entryAt?_set disk inner]
    split
    · rfl
    · exact directory
  · rw [entryAt?_set disk inner]
    split
    · rename_i same
      rw [same, free]
      simp
    · rfl

theorem isDirectory (apart : GeneratedApart before after) {root : Path}
    (directory : before.isDirectory root = true) : after.isDirectory root = true := by
  obtain ⟨top, found, -⟩ := leads_of_directory directory
  obtain ⟨located, here⟩ := find_eq_ok_iff.mp found
  have found' := find_eq_ok_iff.mpr
    ⟨apart.directories.locate located, apart.directories.directory top here⟩
  rw [Disk.isDirectory, found']

theorem sourceBelow_iff (apart : GeneratedApart before after) {root file : Path}
    (directory : before.isDirectory root = true) :
    SourceBelow after root file ↔ SourceBelow before root file := by
  obtain ⟨top, -, leads⟩ := leads_of_directory directory
  have leads' := apart.directories.leads leads
  constructor
  · rintro ⟨dirs, name, ⟨reaches, place, there, content, found⟩, source, rfl⟩
    obtain rfl := leads'.unique there
    rw [← List.append_assoc, apart.files _ _ _ source.not_generated, List.append_assoc] at found
    exact ⟨dirs, name, ⟨reaches, top, leads, content, found⟩, source, rfl⟩
  · rintro ⟨dirs, name, ⟨reaches, place, there, content, found⟩, source, rfl⟩
    obtain rfl := leads.unique there
    rw [← List.append_assoc, ← apart.files _ _ _ source.not_generated, List.append_assoc] at found
    exact ⟨dirs, name, ⟨reaches, top, leads', content, found⟩, source, rfl⟩

theorem readText_eq (apart : GeneratedApart before after) (tree : before.Tree) {root file : Path}
    (source : SourceBelow before root file) : after.readText file = before.readText file := by
  obtain ⟨dirs, name, ⟨-, top, leads, content, found⟩, source, rfl⟩ := source
  have found' := found
  rw [← List.append_assoc, ← apart.files _ _ _ source.not_generated, List.append_assoc] at found'
  exact tree.readText_congr apart.directories leads (by simp) found found'

/-- A scanner with the default patterns sees the same sources on both disks. -/
theorem sameSources (apart : GeneratedApart before after) (tree : before.Tree) (tree' : after.Tree)
    {scanner : Scanner} (defaults : ByDefault scanner)
    (directories : ∀ root ∈ scanner.roots, before.isDirectory root = true) :
    SameSources scanner before after := by
  have directories' : ∀ root ∈ scanner.roots, after.isDirectory root = true :=
    fun root member => apart.isDirectory (directories root member)
  constructor
  · rw [discover_directories directories, discover_directories directories']
    refine congrArg Except.ok (sorted_congr fun path => ?_)
    refine firstLike?_flatMap_congr fun root member => firstLike?_congr_members ?_ ?_
    · intro file
      rw [defaults.mem_filesBelow_iff tree' (directories' root member),
        defaults.mem_filesBelow_iff tree (directories root member),
        apart.sourceBelow_iff (directories root member)]
    · intro file listed file' listed' same
      rw [defaults.mem_filesBelow_iff tree (directories root member)] at listed listed'
      exact listed.eq_of_same tree listed' same
  · intro files found file member
    obtain ⟨root, -, source⟩ := (defaults.mem_discover tree directories found).1 file member
    exact apart.readText_eq tree source

end GeneratedApart

/-- Scanned again by the same scanner, the same sources have the same declarations, and what kept them
from being scanned does so again. -/
theorem declarations_again {scanner later : Scanner} {disk disk' : Disk} {reports : List Warning}
    {result : Except Fault ScanOutcome} (performed : (scan disk).perform scanner = (result, later, reports))
    (same : SameSources scanner disk disk') :
    ((scan disk').perform later).1.map ScanOutcome.declarations =
      result.map ScanOutcome.declarations := by
  have first := scan_result scanner disk
  rw [performed] at first
  obtain rfl : result = _ := first
  have ends := scan_ends scanner disk
  have settled := (blind_scan disk).ends performed
  rw [scan_result later disk']
  cases found : scanner.discover disk with
  | error fault =>
    rw [found] at ends
    obtain ⟨-, rfl⟩ := settled.unique ends
    rw [same.files, found]
    rfl
  | ok files =>
    have ascending := pairwise_discover found
    have distinct := ascending.imp Before.not_same
    have texts := same.texts files found
    have known : later.discover disk' = .ok files ∧ ∀ file ∈ files,
        (later.tracked disk' file).map Prod.fst = (scanner.tracked disk file).map Prod.fst := by
      rw [found] at ends
      dsimp only at ends
      split at ends
      · obtain ⟨-, rfl⟩ := settled.unique ends
        refine ⟨?_, fun file member => ?_⟩
        · rw [discover_of_sameSettings (sameSettings_foldl scanner disk files), same.files, found]
        · rw [← tracked_foldl_afterFile disk scanner distinct member,
            tracked_congr (texts file member) fun _ => rfl]
      · obtain ⟨-, rfl⟩ := settled.unique ends
        refine ⟨?_, fun file member => ?_⟩
        · rw [discover_afterScan, same.files, found]
        · rw [← tracked_foldl_afterFile disk scanner distinct member,
            tracked_congr (texts file member) (cached?_retain _ ascending member)]
    rw [known.1]
    exact Outcome.declarations_collected_congr known.2 (Outcome.start files)

/-- With the default patterns generated files never come back as sources: below roots that are
directories the scanner discovers just the files with names of sources, and it discovers and finds the
same when generated files are added, changed or removed, wherever they are. -/
theorem sources_without_generated {before after : Disk} {roots : List Path} (some : roots ≠ [])
    (tree : before.Tree) (tree' : after.Tree)
    (directories : ∀ root ∈ roots, before.isDirectory root = true)
    (apart : GeneratedApart before after) :
    ∃ fresh, make roots Config.default.includes Config.default.excludes = .ok fresh ∧
      ∀ scanner, SameSettings fresh scanner →
        (∃ files, scanner.discover before = .ok files ∧ scanner.discover after = .ok files ∧
          (∀ file ∈ files, ∃ root ∈ roots, SourceBelow before root file) ∧
          ∀ root ∈ roots, ∀ file, SourceBelow before root file → ∃ other ∈ files, Same file other) ∧
        ((scan after).perform scanner).1 = ((scan before).perform scanner).1 ∧
        ∀ result later reports, (scan before).perform scanner = (result, later, reports) →
          ((scan after).perform later).1.map ScanOutcome.declarations =
            result.map ScanOutcome.declarations := by
  obtain ⟨fresh, made, rooted, defaults⟩ := make_defaults some
  refine ⟨fresh, made, fun scanner settings => ?_⟩
  have defaults := defaults.sameSettings settings
  have roots_eq : scanner.roots = roots := by
    rw [SameSettings] at settings
    rw [settings]
    exact rooted
  rw [← roots_eq] at directories ⊢
  have found := discover_directories directories
  have same := apart.sameSources tree tree' defaults directories
  refine ⟨⟨_, found, same.files.trans found, defaults.mem_discover tree directories found⟩, ?_, ?_⟩
  · rw [scan_result, scan_result, same.files, found]
    simp only [Except.bind]
    congr 1
    refine List.map_congr_left fun file member => ?_
    rw [tracked_congr (same.texts _ found file member) fun _ => rfl]
  · intro result later reports performed
    exact declarations_again performed same

theorem sources_without_order :
    let before : Disk := ⟨[(["src"], .directory), (["src", "a.rs"], .file "struct OrderAggregate;".toUTF8),
      (["src", "Old.g.rs"], .file "struct OldAggregate;".toUTF8)], []⟩
    let made := before.set ["src", "out"] .directory
    let written := made.set ["src", "out", "Order.g.rs"] (.file "struct NewAggregate;".toUTF8)
    let after := { written with entries := written.entries.filter (·.1 != ["src", "Old.g.rs"]) }
    before.Tree ∧ after.Tree ∧ before.isDirectory ⟨"src"⟩ = true ∧ GeneratedApart before after ∧
      ∃ fresh files, make [⟨"src"⟩] Config.default.includes Config.default.excludes = .ok fresh ∧
        fresh.discover before = .ok files ∧ fresh.discover after = .ok files ∧
        ∀ file ∈ files, ∃ root ∈ [(⟨"src"⟩ : Path)], SourceBelow before root file := by
  intro before made written after
  have tree : before.Tree := by decide +kernel
  have tree' : after.Tree := by decide +kernel
  have directory : before.isDirectory ⟨"src"⟩ = true := by decide +kernel
  have apart : GeneratedApart before after := by
    have first : GeneratedApart before made := .makeDirectory before (by decide) rfl
    have second : GeneratedApart made written :=
      @GeneratedApart.write made ["src", "out"] _ (.inl (by decide +kernel)) nofun _
    have third : GeneratedApart written after :=
      @GeneratedApart.remove written ["src"] _ (.inl (by decide +kernel)) nofun
    exact (first.trans second).trans third
  refine ⟨tree, tree', directory, apart, ?_⟩
  obtain ⟨fresh, made, found⟩ := @sources_without_generated before after [⟨"src"⟩] (by decide) tree tree'
    (by simpa using directory) apart
  obtain ⟨⟨files, found, found', sources, -⟩, -⟩ := found fresh rfl
  exact ⟨fresh, files, made, found, found', sources⟩

end Scanner

end Scaffold
