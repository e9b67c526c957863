import Scaffold.Declaration.OfSource
import Scaffold.Disk
import Scaffold.Digest.Sha256
import Scaffold.Glob
import Scaffold.Task

/-!
Scanning of source roots. What was found in a file is kept until the file changes or no longer belongs
to the sources.
-/

namespace Scaffold

/-- The declarations of a file with a certain content. -/
structure CachedFile where
  path : Path
  contentHash : String
  declarations : List Declaration

structure Scanner where
  roots : List Path
  included : GlobSet
  excluded : GlobSet
  cache : List CachedFile

structure ScanOutcome where
  /-- all files that belong to the sources -/
  files : List Path
  declarations : List Declaration
  parsed : Nat
  reused : Nat
  /-- the files that could not be read as source, and why -/
  skipped : List (Path × Fault)

namespace GlobSet

/-- The set of some patterns, all of which have to be valid. -/
def ofTexts (patterns : List String) : Except Fault GlobSet := do
  let globs ← patterns.mapM fun pattern =>
    match Glob.ofText? pattern with
    | some glob => Except.ok glob
    | none => .error (.glob pattern)
  return ⟨globs⟩

end GlobSet

namespace Scanner

/-- A scanner for at least one root. -/
def make (roots : List Path) (included excluded : List String) : Except Fault Scanner := do
  if roots.isEmpty then throw (.config .noSourceRoot)
  return ⟨roots, ← GlobSet.ofTexts included, ← GlobSet.ofTexts excluded, []⟩

/-! ### Discovery -/

/-- Whether a path below a root belongs to the sources. -/
def selects (scanner : Scanner) (relative : Path) : Bool :=
  scanner.included.isMatch relative.text && !scanner.excluded.isMatch relative.text

/-- The files of a root. A root that is a file belongs to the sources in any case. What lies below a
directory is a file only if its path, continued from that of the root, leads to one. -/
def filesOf (scanner : Scanner) (disk : Disk) (root : Path) : Except Fault (List Path) :=
  if !disk.contains root then .error (.config (.missingRoot root))
  else if disk.isFile root then .ok [root]
  else
    .ok ((disk.below root).filterMap fun (relative, _) =>
      let path := root.join relative
      if disk.isFile path && scanner.selects relative then some path else none)

/-- A sorted list without those that are the same as the one before. -/
def withoutRepeats : List Path → List Path
  | first :: second :: rest =>
    if Path.Same first second then withoutRepeats (first :: rest)
    else first :: withoutRepeats (second :: rest)
  | paths => paths
  termination_by paths => paths.length

/-- The source files under all roots, sorted, each of them once. -/
def discover (scanner : Scanner) (disk : Disk) : Except Fault (List Path) := do
  let files := (← scanner.roots.mapM (scanner.filesOf disk)).flatten
  return withoutRepeats (files.mergeSort Path.precedes)

/-! ### Scanning -/

def cached? (scanner : Scanner) (path : Path) (contentHash : String) : Option CachedFile :=
  scanner.cache.find? fun file => Path.Same file.path path && file.contentHash == contentHash

def remember (scanner : Scanner) (file : CachedFile) : Scanner :=
  let others := scanner.cache.filter fun other => !Path.Same other.path file.path
  { scanner with cache := file :: others }

/-- Looks for a path among ascending ones, each time in the half that it can be in. -/
def isAmong (path : Path) (paths : List Path) : Bool :=
  match _upper : paths.drop (paths.length / 2) with
  | [] => false
  | middle :: above =>
    match Path.compare middle path with
    | .eq => true
    | .lt => isAmong path above
    | .gt => isAmong path (paths.take (paths.length / 2))
  termination_by paths.length
  decreasing_by
    all_goals
      have lengths := congrArg List.length _upper
      simp only [List.length_drop, List.length_cons] at lengths
    · omega
    · rw [List.length_take]
      omega

/-- Forgets the files that are not among those given, which ascend. -/
def retain (scanner : Scanner) (files : List Path) : Scanner :=
  { scanner with cache := scanner.cache.filter fun file => isAmong file.path files }

/-- The declarations of a file, and whether they were known already. -/
def scanTracked (disk : Disk) (path : Path) : Task Fault Scanner (List Declaration × Bool) := do
  match disk.readText path with
  | .error refusal => throw (.io path refusal)
  | .ok source =>
    let contentHash := Digest.Sha256.hexOfText source
    match (← Task.current).cached? path contentHash with
    | some file => return (file.declarations, true)
    | none =>
      match Declaration.ofSource? path source with
      | none => throw (.parse path)
      | some declarations =>
        Task.change fun scanner => scanner.remember ⟨path, contentHash, declarations⟩
        return (declarations, false)

def scanFile (disk : Disk) (path : Path) : Task Fault Scanner (List Declaration) := do
  return (← scanTracked disk path).1

namespace Outcome

def start (files : List Path) : ScanOutcome := ⟨files, [], 0, 0, []⟩

/-- Adds what came of a file. A file that cannot be read as source is skipped with a warning. -/
def add (outcome : ScanOutcome) (path : Path) (result : Except Fault (List Declaration × Bool)) :
    Task Fault Scanner ScanOutcome := do
  match result with
  | .ok (declarations, reused) =>
    return { outcome with
      declarations := outcome.declarations ++ declarations
      parsed := outcome.parsed + (if reused then 0 else 1)
      reused := outcome.reused + (if reused then 1 else 0) }
  | .error fault =>
    if fault.isRecoverable then
      Task.warn (.unparsableSource path)
      return { outcome with skipped := outcome.skipped ++ [(path, fault)] }
    else throw fault

end Outcome

/-- Scans all source files. -/
def scan (disk : Disk) : Task Fault Scanner ScanOutcome := do
  let files ← Task.ofExcept ((← Task.current).discover disk)
  let results ← files.mapM fun path => do return (path, ← Task.outcome (scanTracked disk path))
  let outcome ← results.foldlM (fun outcome (path, result) => Outcome.add outcome path result)
    (Outcome.start files)
  Task.change fun scanner => scanner.retain files
  return outcome

end Scanner

end Scaffold
