import Scaffold.Proofs.Pipeline.Report
import Scaffold.Proofs.Scanner.Generated

/-! How roots are spelled. Paths that are the same are discovered once, and where all roots are spelled
alike this is so for the files as well. A file that is reached by two spellings is discovered twice. -/

namespace Scaffold.Scanner

open Path Disk

/-! ### Spelling -/

/-- Roots that are spelled alike: one that is in or below another one is spelled like that one, and then
by the names that lead down to it. -/
def SpelledAlike (disk : Disk) (roots : List Path) : Prop :=
  ∀ outer ∈ roots, ∀ inner ∈ roots, ∀ place names, disk.locate outer = .ok place →
    disk.locate inner = .ok (place ++ names) →
    inner.components = outer.components ++ names.map .name

/-- Relative paths without any dots are spelled alike. -/
theorem spelledAlike_ofNames (disk : Disk) {roots : List (List String)}
    (entries : ∀ names ∈ roots, names ≠ [] ∧ ∀ name ∈ names, EntryName name) :
    SpelledAlike disk (roots.map fun names => ⟨ofNames names⟩) := by
  have located : ∀ names ∈ roots, ∀ location, disk.locate ⟨ofNames names⟩ = .ok location →
      location = disk.workingDirectory ++ names := by
    intro names member location found
    obtain ⟨some, entries⟩ := entries names member
    obtain ⟨-, walked⟩ := locate_eq_ok_iff.mp found
    rw [pieces_ofNames some entries] at walked
    have start : disk.start ⟨ofNames names⟩ = disk.workingDirectory := by
      rw [Disk.start, isAbsolute_eq_false (relative_ofNames some entries)]
      rfl
    rw [start] at walked
    exact (walk_spec entries walked).1
  intro outer member inner member' place names found found'
  obtain ⟨above, listed, rfl⟩ := List.mem_map.mp member
  obtain ⟨below, listed', rfl⟩ := List.mem_map.mp member'
  obtain ⟨some, named⟩ := entries above listed
  obtain ⟨some', named'⟩ := entries below listed'
  have same := located below listed' _ found'
  rw [located above listed _ found, List.append_assoc, List.append_cancel_left_eq] at same
  rw [components_ofNames some named, components_ofNames some' named', ← same, List.map_append]

/-! ### Places of files -/

/-- What a root brings in lies below the place of the root and is spelled accordingly. -/
theorem Offers.located {scanner : Scanner} {disk : Disk} (tree : disk.Tree) {root file : Path}
    (offered : Offers scanner disk root file) : ∃ top names, disk.locate root = .ok top ∧
      disk.locate file = .ok (top ++ names) ∧ disk.FileAt (top ++ names) ∧
      file.components = root.components ++ names.map .name := by
  cases offered with
  | itself file =>
    obtain ⟨location, content, found⟩ := isFile_eq_true_iff.mp file
    obtain ⟨located, here⟩ := find_eq_ok_iff.mp found
    refine ⟨location, [], located, ?_, ?_, by simp⟩
    · rwa [List.append_nil]
    · rw [List.append_nil]
      exact ⟨content, here⟩
  | @below names directory some entries file =>
    obtain ⟨location, content, found⟩ := isFile_eq_true_iff.mp file
    obtain ⟨-, top, leads, rfl, here⟩ := (tree.find_ofNames_iff some entries).mp found
    obtain ⟨top', found', leads'⟩ := leads_of_directory directory
    obtain rfl := leads.unique leads'
    exact ⟨top, names, (find_eq_ok_iff.mp found').1, (find_eq_ok_iff.mp found).1, ⟨content, here⟩,
      components_child_ofNames root some entries⟩

/-- Of two places of one file below two roots, one root is below the other one. -/
theorem SpelledAlike.same {scanner : Scanner} {disk : Disk} (alike : SpelledAlike disk scanner.roots)
    (tree : disk.Tree) {root root' file file' : Path} (member : root ∈ scanner.roots)
    (member' : root' ∈ scanner.roots) (offered : Offers scanner disk root file)
    (offered' : Offers scanner disk root' file') (shared : disk.locate file = disk.locate file') :
    Same file file' := by
  obtain ⟨top, names, found, located, -, spelled⟩ := offered.located tree
  obtain ⟨top', names', found', located', -, spelled'⟩ := offered'.located tree
  have same : top ++ names = top' ++ names' := Except.ok.inj (located.symm.trans (shared.trans located'))
  rcases List.append_eq_append_iff.mp same with ⟨between, rfl, rfl⟩ | ⟨between, rfl, rfl⟩
  · rw [Same, spelled, spelled', alike root member root' member' top between found found',
      List.map_append, List.append_assoc]
  · rw [Same, spelled, spelled', alike root' member' root member top' between found' found,
      List.map_append, List.append_assoc]

/-- Roots that are spelled alike bring in each file once. -/
theorem SpelledAlike.pairwise_discover {scanner : Scanner} {disk : Disk}
    (alike : SpelledAlike disk scanner.roots) (tree : disk.Tree)
    (there : ∀ root ∈ scanner.roots, disk.contains root = true) {files : List Path}
    (found : scanner.discover disk = .ok files) :
    files.Pairwise fun first second => disk.locate first ≠ disk.locate second := by
  refine (Scanner.pairwise_discover found).imp_of_mem fun listed listed' before shared => ?_
  obtain ⟨root, member, offered⟩ := offered_of_discovered tree there found listed
  obtain ⟨root', member', offered'⟩ := offered_of_discovered tree there found listed'
  exact before.not_same (alike.same tree member member' offered offered' shared)

/-! ### What is counted -/

theorem tracked_of_new {scanner : Scanner} (new : scanner.cache = []) (disk : Disk) (path : Path) :
    (scanner.tracked disk path).map Prod.fst = Declaration.ofFile disk path := by
  unfold tracked Declaration.ofFile
  cases disk.readText path with
  | error refusal => rfl
  | ok source =>
    have unknown : scanner.cached? path (Digest.Sha256.hexOfText source) = none := by
      rw [cached?, new, List.find?_nil]
    simp only [unknown]
    cases Declaration.ofSource? path source <;> rfl

/-- A new scanner collects the declarations of its files. -/
theorem scan_of_new {scanner : Scanner} (new : scanner.cache = []) {disk : Disk} {outcome : ScanOutcome}
    (scanned : ((scan disk).perform scanner).1 = .ok outcome) :
    scanner.discover disk = .ok outcome.files ∧
      outcome.declarations = Declaration.ofFiles disk outcome.files := by
  obtain ⟨files, found, -, rfl⟩ := scan_ok scanned
  refine ⟨found, (List.nil_append _).trans (List.flatMap_congr fun path _ => ?_)⟩
  rw [← tracked_of_new new]
  cases scanner.tracked disk path <;> rfl

/-- A scan of files that can all be read as source succeeds. -/
theorem exists_scan_of_new {scanner : Scanner} (new : scanner.cache = []) {disk : Disk}
    {files : List Path} (found : scanner.discover disk = .ok files)
    (readable : ∀ file ∈ files, (Declaration.ofFile disk file).toOption.isSome = true) :
    ∃ outcome, ((scan disk).perform scanner).1 = .ok outcome ∧ outcome.files = files := by
  have harmless : files.findSome? (fun path => Outcome.fatal? (scanner.tracked disk path)) = none := by
    refine List.findSome?_eq_none_iff.mpr fun path member => ?_
    rw [← Outcome.fatal?_map Prod.fst, tracked_of_new new]
    have read := readable path member
    cases made : Declaration.ofFile disk path with
    | ok declarations => rfl
    | error fault => simp [made, Except.toOption] at read
  refine ⟨Outcome.extended (Outcome.start files) files (scanner.tracked disk), ?_, rfl⟩
  rw [scan_result, found]
  simp only [Except.bind, Outcome.collected_eq, harmless]

/-- A declaration that is there once: one file has it once, however that file is spelled, and no other
file has it. -/
def DeclaredOnce (disk : Disk) (files : List Path) (counts : Declaration → Bool) : Prop :=
  ∃ home, (∃ file ∈ files, disk.locate file = .ok home) ∧ ∀ file ∈ files,
    (disk.locate file = .ok home →
      (((Declaration.ofFile disk file).toOption.getD []).countP counts = 1)) ∧
    (disk.locate file ≠ .ok home →
      (((Declaration.ofFile disk file).toOption.getD []).countP counts = 0))

theorem DeclaredOnce.countP_ofFiles {disk : Disk} {files : List Path} {counts : Declaration → Bool}
    (once : DeclaredOnce disk files counts)
    (apart : files.Pairwise fun first second => disk.locate first ≠ disk.locate second) :
    (Declaration.ofFiles disk files).countP counts = 1 := by
  obtain ⟨home, ⟨file, member, here⟩, counted⟩ := once
  obtain ⟨before, after, rfl⟩ := List.append_of_mem member
  obtain ⟨-, apart, earlier⟩ := List.pairwise_append.mp apart
  have later := (List.pairwise_cons.mp apart).1
  have nothing : ∀ others : List Path, (∀ other ∈ others, other ∈ before ++ file :: after ∧
      disk.locate other ≠ .ok home) → (Declaration.ofFiles disk others).countP counts = 0 := by
    intro others elsewhere
    induction others with
    | nil => rfl
    | cons other rest ih =>
      obtain ⟨⟨listed, away⟩, elsewhere⟩ := List.forall_mem_cons.mp elsewhere
      rw [Declaration.ofFiles, List.flatMap_cons, List.countP_append, (counted other listed).2 away]
      exact (Nat.zero_add _).trans (ih elsewhere)
  have first := nothing before fun other listed =>
    ⟨List.mem_append_left _ listed, here ▸ earlier other listed file List.mem_cons_self⟩
  have last := nothing after fun other listed =>
    ⟨by simp [listed], here ▸ (later other listed).symm⟩
  have split : Declaration.ofFiles disk (before ++ file :: after) = Declaration.ofFiles disk before ++
      ((Declaration.ofFile disk file).toOption.getD [] ++ Declaration.ofFiles disk after) := by
    simp [Declaration.ofFiles]
  rw [split, List.countP_append, List.countP_append, first, last, (counted file member).1 here]

/-- The scanner that the default patterns make. -/
def ofDefaults (roots : List Path) : Scanner :=
  ⟨roots, ⟨[.ofEnding ".rs"]⟩, ⟨[.ofEnding ".g.rs", .ofStep "target"]⟩, []⟩

theorem make_ofDefaults {roots : List Path} (some : roots ≠ []) :
    make roots Config.default.includes Config.default.excludes = .ok (ofDefaults roots) := by
  obtain ⟨⟨_, _, _, _⟩, made, rfl, ⟨rfl, rfl⟩⟩ := make_defaults some
  obtain ⟨-, rfl⟩ := make_spec made
  exact made

/-- What the roots bring in, if it is sorted as it is. -/
theorem discover_of_sorted {scanner : Scanner} {disk : Disk} {files : List Path}
    (there : ∀ root ∈ scanner.roots, disk.contains root = true)
    (brought : scanner.roots.flatMap (scanner.filesThrough disk) = files)
    (sorted : files.Pairwise fun first second => precedes first second = true) :
    scanner.discover disk = .ok (withoutRepeats files) := by
  rw [discover_eq there, brought, List.mergeSort_of_pairwise sorted]

/-- Where all roots exist and are spelled alike, each discovered path leads to a file and no two to the
same one. A trigger that is declared once is then found once by a new scanner, and after any calls a run
that takes what was found tells of it in a collision at most as often as there are templates. -/
theorem scanned_once {roots : List Path} {included excluded : List String} {scanner : Scanner}
    (made : make roots included excluded = .ok scanner) {disk : Disk} (tree : disk.Tree)
    (there : ∀ root ∈ roots, disk.contains root = true) (alike : SpelledAlike disk roots) :
    (∃ files, scanner.discover disk = .ok files ∧
      (∀ file ∈ files, ∃ location, disk.locate file = .ok location ∧ disk.FileAt location) ∧
      files.Pairwise fun first second => disk.locate first ≠ disk.locate second) ∧
    ∀ outcome, ((scan disk).perform scanner).1 = .ok outcome →
      scanner.discover disk = .ok outcome.files ∧
      ∀ (setting : PipelineSetting) (name : String),
        DeclaredOnce disk outcome.files (fun declaration =>
          setting.convention.isTrigger declaration && declaration.name == name) →
        (outcome.declarations.countP fun declaration =>
          setting.convention.isTrigger declaration && declaration.name == name) = 1 ∧
        ∀ (σ : Type) (sink : Sink σ) (calls : List PipelineCall) start report after state warnings,
          (∀ name text, (sink.emit name text).Blind) →
          (Pipeline.run sink outcome.declarations).perform
              ((Pipeline.ofSetting setting).afterCalls calls, start) =
            (.ok report, (after, state), warnings) →
          ∀ collision ∈ report.collisions,
            collision.triggers.count name ≤ setting.renderer.specs.length := by
  obtain ⟨rooted, new⟩ := make_spec made
  rw [← rooted] at there alike
  obtain ⟨files, found⟩ : ∃ files, scanner.discover disk = .ok files := ⟨_, discover_eq there⟩
  have apart := alike.pairwise_discover tree there found
  refine ⟨⟨files, found, fun file member => ?_, apart⟩, fun outcome scanned => ?_⟩
  · obtain ⟨root, listed, offered⟩ := offered_of_discovered tree there found member
    obtain ⟨top, names, -, located, file, -⟩ := offered.located tree
    exact ⟨_, located, file⟩
  · obtain ⟨found', collected⟩ := scan_of_new new scanned
    refine ⟨found', fun setting name once => ?_⟩
    have counted : (outcome.declarations.countP fun declaration =>
        setting.convention.isTrigger declaration && declaration.name == name) = 1 := by
      rw [collected]
      exact once.countP_ofFiles (alike.pairwise_discover tree there found')
    refine ⟨counted, fun σ sink calls start report after state warnings blind ran collision member => ?_⟩
    have bound := Pipeline.count_collision_le blind ran member name
    rwa [counted, Nat.one_mul] at bound

theorem scanned_once_nested :
    let disk : Disk := ⟨[(["src"], .directory), (["src", "domain"], .directory),
      (["src", "domain", "order.rs"], .file "struct OrderAggregate;".toUTF8)], []⟩
    let roots : List Path := [⟨"src/domain"⟩, ⟨"src"⟩]
    let order : Declaration → Bool := fun declaration =>
      Convention.default.isTrigger declaration && declaration.name == "OrderAggregate"
    disk.Tree ∧ SpelledAlike disk roots ∧
      make roots Config.default.includes Config.default.excludes = .ok (ofDefaults roots) ∧
      ∃ outcome, ((scan disk).perform (ofDefaults roots)).1 = .ok outcome ∧
        DeclaredOnce disk outcome.files order ∧ outcome.declarations.countP order = 1 := by
  intro disk roots order
  have tree : disk.Tree := by decide +kernel
  have there : ∀ root ∈ roots, disk.contains root = true := by decide +kernel
  have alike : SpelledAlike disk roots := @spelledAlike_ofNames disk [["src", "domain"], ["src"]] (by decide)
  have made : make roots Config.default.includes Config.default.excludes = .ok (ofDefaults roots) :=
    make_ofDefaults (by simp [roots])
  have found : (ofDefaults roots).discover disk = .ok [⟨"src/domain/order.rs"⟩] :=
    (@discover_of_sorted _ _ [⟨"src/domain/order.rs"⟩, ⟨"src/domain/order.rs"⟩] there
      (by decide +kernel) (by decide +kernel)).trans (congrArg Except.ok (by decide +kernel))
  obtain ⟨outcome, scanned, files⟩ := exists_scan_of_new rfl found (by decide +kernel)
  have located : disk.locate ⟨"src/domain/order.rs"⟩ = .ok ["src", "domain", "order.rs"] :=
    Except.toOption_eq_some_iff.mp (by decide +kernel)
  have once : DeclaredOnce disk outcome.files order := by
    rw [files]
    refine ⟨_, ⟨_, List.mem_singleton_self _, located⟩, fun file member => ?_⟩
    obtain rfl := List.mem_singleton.mp member
    exact ⟨fun _ => by decide +kernel, fun away => absurd located away⟩
  refine ⟨tree, alike, made, outcome, scanned, once, ?_⟩
  obtain ⟨-, counted⟩ := scanned_once made tree there alike
  exact ((counted outcome scanned).2 ⟨.default, .constant "x.rs" "", .off, false⟩ "OrderAggregate" once).1

/-- The same directory in two spellings: its file is discovered twice, and what is declared in it once is
found twice. -/
theorem scanned_twice :
    let disk : Disk := ⟨[(["src"], .directory),
      (["src", "a.rs"], .file "struct OrderAggregate;".toUTF8)], []⟩
    let roots : List Path := [⟨"./src"⟩, ⟨"src"⟩]
    let order : Declaration → Bool := fun declaration =>
      Convention.default.isTrigger declaration && declaration.name == "OrderAggregate"
    disk.Tree ∧ (∀ root ∈ roots, disk.contains root = true) ∧
      make roots Config.default.includes Config.default.excludes = .ok (ofDefaults roots) ∧
      disk.locate ⟨"./src/a.rs"⟩ = .ok ["src", "a.rs"] ∧ disk.locate ⟨"src/a.rs"⟩ = .ok ["src", "a.rs"] ∧
      ∃ outcome, ((scan disk).perform (ofDefaults roots)).1 = .ok outcome ∧
        outcome.files = [⟨"./src/a.rs"⟩, ⟨"src/a.rs"⟩] ∧ DeclaredOnce disk outcome.files order ∧
        outcome.declarations.countP order = 2 := by
  intro disk roots order
  have there : ∀ root ∈ roots, disk.contains root = true := by decide +kernel
  have made : make roots Config.default.includes Config.default.excludes = .ok (ofDefaults roots) :=
    make_ofDefaults (by simp [roots])
  have found : (ofDefaults roots).discover disk = .ok [⟨"./src/a.rs"⟩, ⟨"src/a.rs"⟩] :=
    (@discover_of_sorted _ _ [⟨"./src/a.rs"⟩, ⟨"src/a.rs"⟩] there
      (by decide +kernel) (by decide +kernel)).trans (congrArg Except.ok (by decide +kernel))
  have dotted : disk.locate ⟨"./src/a.rs"⟩ = .ok ["src", "a.rs"] :=
    Except.toOption_eq_some_iff.mp (by decide +kernel)
  have plain : disk.locate ⟨"src/a.rs"⟩ = .ok ["src", "a.rs"] :=
    Except.toOption_eq_some_iff.mp (by decide +kernel)
  obtain ⟨outcome, scanned, files⟩ := exists_scan_of_new rfl found (by decide +kernel)
  refine ⟨by decide +kernel, there, made, dotted, plain, outcome, scanned, files, ?_, ?_⟩
  · rw [files]
    refine ⟨_, ⟨_, List.mem_cons_self, dotted⟩, fun file member => ?_⟩
    rcases List.mem_cons.mp member with rfl | member
    · exact ⟨fun _ => by decide +kernel, fun away => absurd dotted away⟩
    · obtain rfl := List.mem_singleton.mp member
      exact ⟨fun _ => by decide +kernel, fun away => absurd plain away⟩
  · rw [(scan_of_new rfl scanned).2, files]
    decide +kernel

end Scaffold.Scanner
