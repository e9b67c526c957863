import Scaffold.Document
import Scaffold.Json.Parser
import Scaffold.Json.Printer
import Scaffold.Sink.Directory

/-!
The record of the generated files of a directory. A later run finds in it the files that were generated
before and no longer are.
-/

namespace Scaffold

structure ManifestEntry where
  feature : String
  contentHash : String
  deriving DecidableEq, Repr

structure Manifest where
  generatorVersion : String
  suffix : String
  templateFingerprint : String
  artifacts : NameMap ManifestEntry
  deriving DecidableEq, Repr

namespace Manifest

def version : String := "0.1.0"

def fileName : String := "aggregen-manifest.json"

def pathIn (directory : Path) : Path := directory.child fileName

def new (suffix templateFingerprint : String) : Manifest :=
  ⟨version, suffix, templateFingerprint, .empty⟩

/-- Records a file. -/
def record (manifest : Manifest) (fileName feature contentHash : String) : Manifest :=
  { manifest with artifacts := manifest.artifacts.insert fileName ⟨feature, contentHash⟩ }

/-! ### As structured data -/

def entryToDocument (entry : ManifestEntry) : Document :=
  .table [("feature", .text entry.feature), ("content_hash", .text entry.contentHash)]

def toDocument (manifest : Manifest) : Document :=
  .table [
    ("generator_version", .text manifest.generatorVersion),
    ("suffix", .text manifest.suffix),
    ("template_fingerprint", .text manifest.templateFingerprint),
    ("artifacts", .table (manifest.artifacts.entries.map fun (name, entry) =>
      (name, entryToDocument entry)))]

def entryOfDocument? (document : Document) : Option ManifestEntry := do
  let fields ← document.fields? ["feature", "content_hash"] false
  let feature ← fields.required? "feature" Document.asText?
  let contentHash ← fields.required? "content_hash" Document.asText?
  return ⟨feature, contentHash⟩

def artifactsOfDocument? : Document → Option (NameMap ManifestEntry)
  | .table entries => do
    let artifacts ← entries.mapM fun (name, document) => do
      return (name, ← entryOfDocument? document)
    return .ofList artifacts
  | _ => none

def ofDocument? (document : Document) : Option Manifest := do
  let known := ["generator_version", "suffix", "template_fingerprint", "artifacts"]
  let fields ← document.fields? known false
  let generatorVersion ← fields.required? "generator_version" Document.asText?
  let suffix ← fields.required? "suffix" Document.asText?
  let templateFingerprint ← fields.required? "template_fingerprint" Document.asText?
  let artifacts ← fields.required? "artifacts" artifactsOfDocument?
  return ⟨generatorVersion, suffix, templateFingerprint, artifacts⟩

def print (manifest : Manifest) : String := Json.print manifest.toDocument

def parse (text : String) : Option Manifest := (Json.parse text).bind ofDocument?

/-! ### On disk -/

def isOwnName (name : String) : Bool := (Path.mk name).isPlainName

/-- The manifest of a directory, if it has one. Entries that are no plain file names are dropped. -/
def load (directory : Path) : Task Fault Disk (Option Manifest) := do
  let disk ← Task.current
  let path := pathIn directory
  if !disk.contains path then return none
  match disk.readText path with
  | .error refusal => throw (.io path refusal)
  | .ok text =>
    match parse text with
    | none => throw (.manifest path)
    | some manifest =>
      for name in manifest.artifacts.keys do
        if !isOwnName name then Task.warn (.foreignManifestEntry path name)
      return some { manifest with artifacts := manifest.artifacts.filter fun name _ => isOwnName name }

def save (manifest : Manifest) (directory : Path) : Task Fault Disk Unit := do
  let path := pathIn directory
  match (← Task.current).write path manifest.print.toUTF8 with
  | .ok disk => Task.replace disk
  | .error refusal => throw (.io path refusal)

/-! ### Orphans -/

/-- The files of an earlier manifest that this one no longer has. -/
def orphansSince (manifest previous : Manifest) : List String :=
  previous.artifacts.keys.filter fun name => !manifest.artifacts.contains name && isOwnName name

/-- Removes an orphan, or only looks for it; its path, if it was there. -/
def removeOrphan {ε : Type} (directory : Path) (dryRun : Bool) (name : String) :
    Task ε Disk (Option Path) := do
  let path := directory.child name
  let disk ← Task.current
  if !disk.isFile path then return none
  if dryRun then return some path
  match disk.removeFile path with
  | .ok disk =>
    Task.replace disk
    return some path
  | .error refusal =>
    Task.warn (.orphanKept path refusal)
    return none

/-- Removes the orphans from a directory, or only lists them; the paths of those that were there. -/
def removeOrphans {ε : Type} (manifest previous : Manifest) (directory : Path) (dryRun : Bool) :
    Task ε Disk (List Path) := do
  return (← (manifest.orphansSince previous).mapM (removeOrphan directory dryRun)).filterMap id

/-- Whether the file on disk is not the one that was recorded. -/
def isStale (manifest : Manifest) (disk : Disk) (fileName : String) (directory : Path) : Bool :=
  match manifest.artifacts.find? fileName, disk.hashOf (directory.child fileName) with
  | some entry, .ok hash => hash != entry.contentHash
  | _, _ => true

end Manifest

end Scaffold
