import Mathlib.Data.List.Basic
import Scaffold.Proofs.Disk.Inside
import Scaffold.Proofs.Scanner.Outcome

/-! A scanner finds the same whatever it has scanned before. Every entry of its cache was read from a
text of that hash, so it can only stand in for that text. -/

namespace Scaffold

namespace Declaration

/-- A declaration without the spelling of its file. -/
def unspelled (declaration : Declaration) :
    DeclarationKind × String × Option (List Path.Component × String) :=
  (declaration.kind, declaration.name,
    declaration.location.map fun location => (location.file.components, location.modulePath))

/-- The declarations of a file by itself. -/
def ofFile (disk : Disk) (path : Path) : Except Fault (List Declaration) :=
  match disk.readText path with
  | .error refusal => .error (.io path refusal)
  | .ok source =>
    match ofSource? path source with
    | some declarations => .ok declarations
    | none => .error (.parse path)

/-- The declarations of some files, as far as they can be read as source. -/
def ofFiles (disk : Disk) (files : List Path) : List Declaration :=
  files.flatMap fun path => (ofFile disk path).toOption.getD []

/-- The files that have no declarations, and why. -/
def failures (disk : Disk) (files : List Path) : List (Path × Fault) :=
  files.filterMap fun path =>
    match ofFile disk path with
    | .ok _ => none
    | .error fault => some (path, fault)

theorem ofSource?_spelling {path other : Path} (same : Path.Same path other) (source : String) :
    (ofSource? path source).map (List.map unspelled) =
      (ofSource? other source).map (List.map unspelled) := by
  unfold ofSource?
  rw [Option.map_map, Option.map_map]
  congr 1
  funext tree
  simp only [Function.comp_apply, List.map_map]
  refine List.map_congr_left fun found _ => ?_
  have same : path.components = other.components := same
  simp only [Function.comp_apply, unspelled, ofFound, Option.map_some, same]

end Declaration

/-- The texts of all files on a disk. -/
def Disk.texts (disk : Disk) : List String :=
  disk.entries.filterMap fun (_, entry) =>
    match entry with
    | .file content => String.fromUTF8? content
    | .directory => none

theorem Disk.mem_texts {disk : Disk} {path : Path} {text : String}
    (found : disk.readText path = .ok text) : text ∈ disk.texts := by
  have read := read_of_readText found
  rw [Disk.read, Except.bind_eq_ok] at read
  obtain ⟨⟨location, entry⟩, there, taken⟩ := read
  cases entry with
  | directory => contradiction
  | file bytes =>
    obtain rfl := Except.ok.inj taken
    have held := (find_eq_ok_iff.mp there).2
    unfold entryAt? at held
    split at held
    · simp at held
    · obtain ⟨⟨other, entry⟩, listed, same⟩ := Option.map_eq_some_iff.mp held
      dsimp only at same
      subst same
      exact List.mem_filterMap.mpr
        ⟨_, List.mem_of_find?_eq_some listed, String.fromUTF8?_eq_some_iff.mpr rfl⟩

/-- A use of a scanner, with the disk as it is then. -/
inductive ScannerCall where
  | scan (disk : Disk)
  | scanFile (disk : Disk) (path : Path)

namespace ScannerCall

def disk : ScannerCall → Disk
  | scan disk | scanFile disk _ => disk

/-- The scanner that a call leaves, also if the call fails. -/
def after (scanner : Scanner) : ScannerCall → Scanner
  | scan disk => ((Scanner.scan disk).perform scanner).2.1
  | scanFile disk path => ((Scanner.scanFile disk path).perform scanner).2.1

/-- The texts that are on the disk at some calls and at a scan after them. -/
def textsInPlay (calls : List ScannerCall) (last : Disk) : List String :=
  (calls.map disk ++ [last]).flatMap Disk.texts

end ScannerCall

namespace Scanner

open Path

/-- The scanner after some calls. -/
def afterCalls (scanner : Scanner) (calls : List ScannerCall) : Scanner :=
  calls.foldl ScannerCall.after scanner

/-- Whether the declarations of a file are known already. -/
def reuses (scanner : Scanner) (disk : Disk) (path : Path) : Bool :=
  match ((scanTracked disk path).perform scanner).1 with
  | .ok (_, reused) => reused
  | .error _ => false

theorem reuses_eq (scanner : Scanner) (disk : Disk) (path : Path) :
    scanner.reuses disk path = Outcome.isReused (scanner.tracked disk path) := by
  obtain ⟨reports, performed⟩ := (scanTracked_ends scanner disk path).perform
  rw [reuses, performed]
  cases scanner.tracked disk path <;> rfl

/-! ### What calls leave -/

/-- The same scanner, apart from what it remembers. -/
def SameSettings (scanner scanner' : Scanner) : Prop :=
  scanner' = { scanner with cache := scanner'.cache }

theorem SameSettings.trans {scanner middle after : Scanner} (first : SameSettings scanner middle)
    (second : SameSettings middle after) : SameSettings scanner after := by
  unfold SameSettings at *
  rw [second, first]

theorem sameSettings_afterFile (scanner : Scanner) (disk : Disk) (path : Path) :
    SameSettings scanner (afterFile disk scanner path) := by
  unfold afterFile
  split
  · rfl
  · split <;> rfl

theorem sameSettings_foldl (scanner : Scanner) (disk : Disk) (files : List Path) :
    SameSettings scanner (files.foldl (afterFile disk) scanner) := by
  induction files generalizing scanner with
  | nil => rfl
  | cons path rest ih => exact (sameSettings_afterFile scanner disk path).trans (ih _)

theorem after_scanFile (scanner : Scanner) (disk : Disk) (path : Path) :
    ScannerCall.after scanner (.scanFile disk path) = afterFile disk scanner path := by
  have first := scanTracked_ends scanner disk path
  have ends : ∃ result, (scanFile disk path).Ends scanner result (afterFile disk scanner path) := by
    cases found : scanner.tracked disk path with
    | error fault =>
      rw [found] at first
      exact ⟨_, first.bind_error⟩
    | ok known =>
      rw [found] at first
      exact ⟨_, first.bind (Task.ends_pure _ _)⟩
  obtain ⟨result, ends⟩ := ends
  obtain ⟨reports, performed⟩ := ends.perform
  simp only [ScannerCall.after, performed]

/-- A call scans some files, and may then forget those that are no longer found. -/
theorem after_cases (scanner : Scanner) (call : ScannerCall) :
    ∃ files, call.after scanner = files.foldl (afterFile call.disk) scanner ∨
      scanner.discover call.disk = .ok files ∧
        call.after scanner = (files.foldl (afterFile call.disk) scanner).retain files := by
  cases call with
  | scan disk =>
    have ends := scan_ends scanner disk
    cases found : scanner.discover disk with
    | error fault =>
      rw [found] at ends
      obtain ⟨reports, performed⟩ := ends.perform
      exact ⟨[], .inl (by simp only [ScannerCall.after, performed, List.foldl_nil])⟩
    | ok files =>
      rw [found] at ends
      dsimp only at ends
      split at ends
      · obtain ⟨reports, performed⟩ := ends.perform
        exact ⟨files, .inl (by simp only [ScannerCall.after, performed, ScannerCall.disk])⟩
      · obtain ⟨reports, performed⟩ := ends.perform
        exact ⟨files, .inr ⟨found, by simp only [ScannerCall.after, performed, ScannerCall.disk]⟩⟩
  | scanFile disk path =>
    exact ⟨[path], .inl (after_scanFile scanner disk path)⟩

theorem sameSettings_after (scanner : Scanner) (call : ScannerCall) :
    SameSettings scanner (call.after scanner) := by
  obtain ⟨files, left | ⟨-, left⟩⟩ := after_cases scanner call
  · rw [left]
    exact sameSettings_foldl scanner call.disk files
  · rw [left]
    exact (sameSettings_foldl scanner call.disk files).trans rfl

theorem sameSettings_afterCalls (scanner : Scanner) (calls : List ScannerCall) :
    SameSettings scanner (scanner.afterCalls calls) := by
  induction calls generalizing scanner with
  | nil => rfl
  | cons call rest ih => exact (sameSettings_after scanner call).trans (ih _)

theorem discover_of_sameSettings {scanner scanner' : Scanner} (same : SameSettings scanner scanner')
    (disk : Disk) : scanner'.discover disk = scanner.discover disk := by
  rw [same]
  rfl

/-! ### Where remembered declarations come from -/

/-- All that is remembered was read from one of these texts. -/
def Grounded (texts : List String) (scanner : Scanner) : Prop :=
  ∀ file ∈ scanner.cache, ∃ text ∈ texts, file.contentHash = Digest.Sha256.hexOfText text ∧
    Declaration.ofSource? file.path text = some file.declarations

theorem Grounded.afterFile {texts : List String} {scanner : Scanner} (grounded : scanner.Grounded texts)
    {disk : Disk} (listed : ∀ text ∈ disk.texts, text ∈ texts) (path : Path) :
    (afterFile disk scanner path).Grounded texts := by
  unfold Scanner.afterFile
  cases read : disk.readText path with
  | error refusal => exact grounded
  | ok source =>
    dsimp only
    cases scanner.cached? path (Digest.Sha256.hexOfText source) with
    | some file => exact grounded
    | none =>
      cases parsed : Declaration.ofSource? path source with
      | none => exact grounded
      | some declarations =>
        intro file member
        rcases List.mem_cons.mp member with rfl | older
        · exact ⟨source, listed source (Disk.mem_texts read), rfl, parsed⟩
        · exact grounded file (List.mem_filter.mp older).1

theorem Grounded.foldl {texts : List String} {scanner : Scanner} (grounded : scanner.Grounded texts)
    {disk : Disk} (listed : ∀ text ∈ disk.texts, text ∈ texts) (files : List Path) :
    (files.foldl (Scanner.afterFile disk) scanner).Grounded texts := by
  induction files generalizing scanner with
  | nil => exact grounded
  | cons path rest ih => exact ih (grounded.afterFile listed path)

/-- Failed calls count too: what was read before the failure stays remembered. -/
theorem Grounded.after {texts : List String} {scanner : Scanner} (grounded : scanner.Grounded texts)
    {call : ScannerCall} (listed : ∀ text ∈ call.disk.texts, text ∈ texts) :
    (call.after scanner).Grounded texts := by
  obtain ⟨files, left | ⟨-, left⟩⟩ := after_cases scanner call
  · rw [left]
    exact grounded.foldl listed files
  · rw [left]
    exact fun file member => grounded.foldl listed files file (List.mem_filter.mp member).1

theorem Grounded.afterCalls {texts : List String} {scanner : Scanner}
    (grounded : scanner.Grounded texts) {calls : List ScannerCall}
    (listed : ∀ call ∈ calls, ∀ text ∈ call.disk.texts, text ∈ texts) :
    (scanner.afterCalls calls).Grounded texts := by
  induction calls generalizing scanner with
  | nil => exact grounded
  | cons call rest ih =>
    exact ih (grounded.after (listed call (by simp))) fun call member => listed call (by simp [member])

/-- What a grounded scanner finds in a file is what the file by itself declares. -/
theorem Grounded.tracked_eq {texts : List String} {scanner : Scanner}
    (grounded : scanner.Grounded texts) {disk : Disk} (listed : ∀ text ∈ disk.texts, text ∈ texts)
    (distinct : ∀ first ∈ texts, ∀ second ∈ texts,
      Digest.Sha256.hexOfText first = Digest.Sha256.hexOfText second → first = second) (path : Path) :
    (scanner.tracked disk path).map (fun known => known.1.map Declaration.unspelled) =
      (Declaration.ofFile disk path).map (List.map Declaration.unspelled) := by
  unfold tracked Declaration.ofFile
  cases read : disk.readText path with
  | error refusal => rfl
  | ok source =>
    dsimp only
    cases known : scanner.cached? path (Digest.Sha256.hexOfText source) with
    | none => cases Declaration.ofSource? path source <;> rfl
    | some file =>
      have found := List.find?_some known
      simp only [Bool.and_eq_true, decide_eq_true_eq, beq_iff_eq] at found
      obtain ⟨text, inPlay, hash, parsed⟩ := grounded file (List.mem_of_find?_eq_some known)
      obtain rfl := distinct text inPlay source (listed source (Disk.mem_texts read))
        (hash.symm.trans found.2)
      have spelled := Declaration.ofSource?_spelling found.1 text
      rw [parsed] at spelled
      cases here : Declaration.ofSource? path text with
      | none => simp [here] at spelled
      | some declarations =>
        simp only [here, Option.map_some, Option.some.injEq] at spelled
        simp only [Except.map, spelled]

/-! ### What a scan comes to -/

/-- What a scan reports about the sources, without the spelling of paths in declarations. -/
def unspelled (outcome : ScanOutcome) : List Path ×
    List (DeclarationKind × String × Option (List Component × String)) × List (Path × Fault) :=
  (outcome.files, outcome.declarations.map Declaration.unspelled, outcome.skipped)

section Grounded

variable {texts : List String} {scanner : Scanner} {disk : Disk} (grounded : scanner.Grounded texts)
  (listed : ∀ text ∈ disk.texts, text ∈ texts)
  (distinct : ∀ first ∈ texts, ∀ second ∈ texts,
    Digest.Sha256.hexOfText first = Digest.Sha256.hexOfText second → first = second)

include grounded listed distinct

theorem Grounded.fatal?_eq (path : Path) :
    Outcome.fatal? (scanner.tracked disk path) = Outcome.fatal? (Declaration.ofFile disk path) := by
  have same := congrArg Outcome.fatal? (grounded.tracked_eq listed distinct path)
  rwa [Outcome.fatal?_map, Outcome.fatal?_map] at same

theorem Grounded.declarations_eq (files : List Path) :
    (files.flatMap fun path => Outcome.declarationsOf (scanner.tracked disk path)).map
      Declaration.unspelled = (Declaration.ofFiles disk files).map Declaration.unspelled := by
  rw [Declaration.ofFiles, List.map_flatMap, List.map_flatMap]
  refine List.flatMap_congr fun path _ => ?_
  have same := grounded.tracked_eq listed distinct path
  cases found : scanner.tracked disk path with
  | error fault =>
    cases alone : Declaration.ofFile disk path with
    | error fault => rfl
    | ok declarations => simp [found, alone, Except.map] at same
  | ok known =>
    cases alone : Declaration.ofFile disk path with
    | error fault => simp [found, alone, Except.map] at same
    | ok declarations =>
      simp only [found, alone, Except.map, Except.ok.injEq] at same
      exact same

theorem Grounded.skipped_eq {files : List Path}
    (harmless : files.findSome? (fun path => Outcome.fatal? (scanner.tracked disk path)) = none) :
    (files.filterMap fun path =>
      (Outcome.skipped? (scanner.tracked disk path)).map fun fault => (path, fault)) =
      Declaration.failures disk files := by
  refine List.filterMap_congr fun path member => ?_
  have harmless := List.findSome?_eq_none_iff.mp harmless path member
  have same := congrArg Outcome.skipped? (grounded.tracked_eq listed distinct path)
  rw [Outcome.skipped?_map, Outcome.skipped?_map] at same
  rw [grounded.fatal?_eq listed distinct] at harmless
  rw [same]
  cases alone : Declaration.ofFile disk path with
  | ok declarations => rfl
  | error fault =>
    cases recoverable : fault.isRecoverable with
    | true => simp [Outcome.skipped?, recoverable]
    | false => simp [Outcome.fatal?, alone, recoverable] at harmless

/-- What a scan reports is settled by the disk alone. -/
theorem Grounded.scan_eq : ((scan disk).perform scanner).1.map unspelled =
    (scanner.discover disk).bind fun files =>
      match files.findSome? fun path => Outcome.fatal? (Declaration.ofFile disk path) with
      | some fault => .error fault
      | none => .ok (files, (Declaration.ofFiles disk files).map Declaration.unspelled,
          Declaration.failures disk files) := by
  rw [scan_result]
  cases scanner.discover disk with
  | error fault => rfl
  | ok files =>
    simp only [Except.bind, Outcome.collected_eq]
    have fatal := funext (grounded.fatal?_eq listed distinct)
    simp only [← fatal]
    cases ended : files.findSome? fun path => Outcome.fatal? (scanner.tracked disk path) with
    | some fault => rfl
    | none =>
      have declarations := grounded.declarations_eq listed distinct files
      have skipped := grounded.skipped_eq listed distinct ended
      simp only [Except.map, unspelled, Outcome.extended, Outcome.start, List.nil_append,
        declarations, skipped]

end Grounded

/-- What a successful scan reports about its files. -/
structure Accounts (scanner : Scanner) (disk : Disk) (outcome : ScanOutcome) : Prop where
  files : scanner.discover disk = .ok outcome.files
  declarations : outcome.declarations.map Declaration.unspelled =
    (Declaration.ofFiles disk outcome.files).map Declaration.unspelled
  skipped : outcome.skipped = Declaration.failures disk outcome.files
  reused : outcome.reused = outcome.files.countP (scanner.reuses disk)
  counted : outcome.parsed + outcome.reused + outcome.skipped.length = outcome.files.length

/-- A successful scan keeps what is in its files, so that a file with declarations is known from then
on, as long as no other text is read from it. -/
def Remembers (scanner : Scanner) (disk : Disk) (outcome : ScanOutcome) : Prop :=
  ∀ path ∈ outcome.files, path ∉ outcome.skipped.map Prod.fst →
  ∀ between : List (Disk × Path),
    (∀ step ∈ between, Same step.2 path → ∀ text, step.1.readText step.2 = .ok text →
      disk.readText path = .ok text) →
  ∀ later path', Same path' path → later.readText path' = disk.readText path →
    (scanner.afterCalls (between.map fun (disk, path) => .scanFile disk path)).reuses later path' = true

theorem scan_ok {scanner : Scanner} {disk : Disk} {outcome : ScanOutcome}
    (scanned : ((scan disk).perform scanner).1 = .ok outcome) :
    ∃ files, scanner.discover disk = .ok files ∧
      files.findSome? (fun path => Outcome.fatal? (scanner.tracked disk path)) = none ∧
      outcome = Outcome.extended (Outcome.start files) files (scanner.tracked disk) := by
  rw [scan_result] at scanned
  obtain ⟨files, found, collected⟩ := Except.bind_eq_ok.mp scanned
  rw [Outcome.collected_eq] at collected
  split at collected
  · contradiction
  · rename_i harmless
    exact ⟨files, found, harmless, (Except.ok.inj collected).symm⟩

theorem Grounded.accounts {texts : List String} {scanner : Scanner} {disk : Disk}
    (grounded : scanner.Grounded texts) (listed : ∀ text ∈ disk.texts, text ∈ texts)
    (distinct : ∀ first ∈ texts, ∀ second ∈ texts,
      Digest.Sha256.hexOfText first = Digest.Sha256.hexOfText second → first = second)
    {outcome : ScanOutcome} (scanned : ((scan disk).perform scanner).1 = .ok outcome) :
    Accounts scanner disk outcome := by
  obtain ⟨files, found, harmless, rfl⟩ := scan_ok scanned
  have declarations := grounded.declarations_eq listed distinct files
  have skipped := grounded.skipped_eq listed distinct harmless
  have reuses : scanner.reuses disk = fun path => Outcome.isReused (scanner.tracked disk path) :=
    funext (reuses_eq scanner disk)
  exact
    { files := found
      declarations := by simpa [Outcome.extended, Outcome.start] using declarations
      skipped := by simpa [Outcome.extended, Outcome.start] using skipped
      reused := by simp [Outcome.extended, Outcome.start, reuses]
      counted := Outcome.length_extended harmless }

/-! ### What stays known -/

/-- The declarations of a text at a path are in the cache. -/
def Knows (scanner : Scanner) (path : Path) (text : String) : Prop :=
  ∃ file, scanner.cached? path (Digest.Sha256.hexOfText text) = some file

theorem cached?_same (scanner : Scanner) {path other : Path} (same : Same path other)
    (contentHash : String) : scanner.cached? path contentHash = scanner.cached? other contentHash := by
  unfold cached?
  congr 1
  funext file
  have either : Same file.path path ↔ Same file.path other :=
    ⟨fun here => here.trans same, fun there => there.trans same.symm⟩
  simp only [either]

theorem Knows.reuses {scanner : Scanner} {path other : Path} {text : String}
    (knows : scanner.Knows path text) (same : Same other path) {disk : Disk}
    (read : disk.readText other = .ok text) : scanner.reuses disk other = true := by
  obtain ⟨file, known⟩ := knows
  rw [reuses_eq, tracked, read]
  simp only [cached?_same scanner same, known, Outcome.isReused]

theorem Knows.afterFile {scanner : Scanner} {path other : Path} {text : String}
    (knows : scanner.Knows path text) {disk : Disk}
    (read : Same other path → ∀ text', disk.readText other = .ok text' → text' = text) :
    (afterFile disk scanner other).Knows path text := by
  by_cases same : Same other path
  · unfold Scanner.afterFile
    split
    · exact knows
    · rename_i text' found
      obtain rfl := read same text' found
      obtain ⟨file, known⟩ := knows
      rw [cached?_same scanner same, known]
      exact ⟨file, known⟩
  · obtain ⟨file, known⟩ := knows
    exact ⟨file, by rw [cached?_afterFile_of_not_same scanner disk same, known]⟩

theorem knows_afterFile {scanner : Scanner} {disk : Disk} {path : Path} {text : String}
    {known : List Declaration × Bool} (read : disk.readText path = .ok text)
    (found : scanner.tracked disk path = .ok known) : (afterFile disk scanner path).Knows path text := by
  unfold tracked at found
  unfold Scanner.afterFile
  rw [read] at found ⊢
  dsimp only at found ⊢
  cases cached : scanner.cached? path (Digest.Sha256.hexOfText text) with
  | some file => exact ⟨file, cached⟩
  | none =>
    cases parsed : Declaration.ofSource? path text with
    | none => simp [cached, parsed] at found
    | some declarations => exact ⟨_, by simp [cached?_remember, Same]; rfl⟩

theorem knows_foldl {scanner : Scanner} {disk : Disk} {files : List Path} {path : Path} {text : String}
    {known : List Declaration × Bool} (distinct : files.Pairwise fun p q => ¬ Same p q)
    (listed : path ∈ files) (read : disk.readText path = .ok text)
    (found : scanner.tracked disk path = .ok known) :
    (files.foldl (Scanner.afterFile disk) scanner).Knows path text := by
  obtain ⟨file, known⟩ := knows_afterFile read found
  exact ⟨file, by rw [cached?_foldl_afterFile_of_mem disk scanner distinct listed, known]⟩

theorem Knows.afterScanFiles {scanner : Scanner} {path : Path} {text : String}
    (knows : scanner.Knows path text) {steps : List (Disk × Path)}
    (read : ∀ step ∈ steps, Same step.2 path → ∀ text', step.1.readText step.2 = .ok text' →
      text' = text) :
    (scanner.afterCalls (steps.map fun (disk, path) => .scanFile disk path)).Knows path text := by
  induction steps generalizing scanner with
  | nil => exact knows
  | cons step rest ih =>
    obtain ⟨disk, other⟩ := step
    have next : (ScannerCall.after scanner (.scanFile disk other)).Knows path text := by
      rw [after_scanFile]
      exact knows.afterFile (read (disk, other) (by simp))
    exact ih next fun step member => read step (by simp [member])

theorem scan_ok_ends {scanner after : Scanner} {disk : Disk} {outcome : ScanOutcome}
    {reports : List Warning} (performed : (scan disk).perform scanner = (.ok outcome, after, reports)) :
    after = (outcome.files.foldl (Scanner.afterFile disk) scanner).retain outcome.files := by
  obtain ⟨files, found, -, rfl⟩ := scan_ends_ok_iff.mp ((blind_scan disk).ends performed)
  obtain ⟨files', found', -, rfl⟩ := scan_ok (congrArg Prod.fst performed)
  obtain rfl := Except.ok.inj (found.symm.trans found')
  rfl

theorem cache_of_scan {scanner after : Scanner} {disk : Disk} {outcome : ScanOutcome}
    {reports : List Warning} (performed : (scan disk).perform scanner = (.ok outcome, after, reports))
    (ascending : outcome.files.Pairwise Before) :
    ∀ file ∈ after.cache, ∃ path ∈ outcome.files, Same file.path path := by
  intro file member
  rw [scan_ok_ends performed] at member
  have among := (List.mem_filter.mp member).2
  rw [isAmong_eq_any _ ascending] at among
  obtain ⟨path, listed, same⟩ := List.any_eq_true.mp among
  exact ⟨path, listed, of_decide_eq_true same⟩

theorem remembers_of_scan {scanner after : Scanner} {disk : Disk} {outcome : ScanOutcome}
    {reports : List Warning} (performed : (scan disk).perform scanner = (.ok outcome, after, reports))
    (ascending : outcome.files.Pairwise Before) : Remembers after disk outcome := by
  intro path listed kept between unread later path' same unchanged
  obtain ⟨files, -, harmless, made⟩ := scan_ok (congrArg Prod.fst performed)
  have files_eq : outcome.files = files := by rw [made]; rfl
  -- A file that is not skipped did not fail at all, since the scan went on.
  obtain ⟨known, found⟩ : ∃ known, scanner.tracked disk path = .ok known := by
    cases found : scanner.tracked disk path with
    | ok known => exact ⟨known, rfl⟩
    | error fault =>
      have harmless := List.findSome?_eq_none_iff.mp harmless path (files_eq ▸ listed)
      refine absurd (List.mem_map.mpr ⟨(path, fault), ?_, rfl⟩) kept
      rw [made]
      refine List.mem_append_right _ (List.mem_filterMap.mpr ⟨path, files_eq ▸ listed, ?_⟩)
      cases recoverable : fault.isRecoverable with
      | true => simp [Outcome.skipped?, found, recoverable]
      | false => simp [Outcome.fatal?, found, recoverable] at harmless
  obtain ⟨text, read⟩ : ∃ text, disk.readText path = .ok text := by
    cases read : disk.readText path with
    | ok text => exact ⟨text, rfl⟩
    | error refusal => simp [tracked, read] at found
  have knows : after.Knows path text := by
    rw [scan_ok_ends performed]
    obtain ⟨file, cached⟩ := knows_foldl (ascending.imp Before.not_same) listed read found
    exact ⟨file, by rw [cached?_retain _ ascending listed, cached]⟩
  refine Knows.reuses (knows.afterScanFiles ?_) same (unchanged.trans read)
  intro step member here text' read'
  have known := unread step member here text' read'
  exact Except.ok.inj (known.symm.trans read)

theorem make_spec {roots : List Path} {included excluded : List String} {built : Scanner}
    (made : make roots included excluded = .ok built) : built.roots = roots ∧ built.cache = [] := by
  unfold make at made
  dsimp only at made
  split at made
  · contradiction
  obtain ⟨inner, -, made⟩ := Except.bind_eq_ok.mp made
  obtain ⟨outer, -, made⟩ := Except.bind_eq_ok.mp made
  obtain rfl := Except.ok.inj made
  exact ⟨rfl, rfl⟩

/-- After any calls on any disks, successful or not, a scan comes to what the scan of a new scanner
comes to, and it accounts for all files and remembers what is in them, if no two texts in play share
a digest. -/
theorem scan_after_calls {roots : List Path} {included excluded : List String} {built : Scanner}
    (made : make roots included excluded = .ok built) (calls : List ScannerCall) (disk : Disk)
    (distinct : ∀ first ∈ ScannerCall.textsInPlay calls disk,
      ∀ second ∈ ScannerCall.textsInPlay calls disk,
        Digest.Sha256.hexOfText first = Digest.Sha256.hexOfText second → first = second) :
    ((scan disk).perform (built.afterCalls calls)).1.map unspelled =
        ((scan disk).perform built).1.map unspelled ∧
      ∀ outcome after reports,
        (scan disk).perform (built.afterCalls calls) = (.ok outcome, after, reports) →
          Accounts (built.afterCalls calls) disk outcome ∧
          (∀ file ∈ after.cache, ∃ path ∈ outcome.files, Same file.path path) ∧
          Remembers after disk outcome := by
  have earlier : ∀ call ∈ calls, ∀ text ∈ call.disk.texts, text ∈ ScannerCall.textsInPlay calls disk :=
    fun call member text listed => List.mem_flatMap.mpr
      ⟨call.disk, List.mem_append_left _ (List.mem_map_of_mem member), listed⟩
  have last : ∀ text ∈ disk.texts, text ∈ ScannerCall.textsInPlay calls disk :=
    fun text listed => List.mem_flatMap.mpr ⟨disk, by simp, listed⟩
  have fresh : built.Grounded (ScannerCall.textsInPlay calls disk) := by
    intro file member
    simp [(make_spec made).2] at member
  have grounded := fresh.afterCalls earlier
  constructor
  · rw [grounded.scan_eq last distinct, fresh.scan_eq last distinct,
      discover_of_sameSettings (sameSettings_afterCalls built calls) disk]
  · intro outcome after reports performed
    have accounts := grounded.accounts last distinct (congrArg Prod.fst performed)
    have ascending := pairwise_discover accounts.files
    exact ⟨accounts, cache_of_scan performed ascending, remembers_of_scan performed ascending⟩

theorem scan_after_edit :
    let before : Disk := ⟨[(["a.rs"], .file "struct A;".toUTF8)], []⟩
    let edited : Disk := ⟨[(["a.rs"], .file "struct B;".toUTF8)], []⟩
    let built : Scanner := ⟨[⟨"a.rs"⟩], ⟨[]⟩, ⟨[]⟩, []⟩
    ((scan edited).perform (built.afterCalls [.scan before])).1.map unspelled =
      ((scan edited).perform built).1.map unspelled := by
  intro before edited built
  have made : make [⟨"a.rs"⟩] [] [] = .ok built := rfl
  exact (scan_after_calls made [.scan before] edited (by decide +kernel)).1

end Scanner

end Scaffold
