import Scaffold.Failure
import Scaffold.Json.Parser
import Scaffold.Template.Renderer
import Scaffold.Toml.Parser
import Scaffold.Yaml.Parser

/-! Settings in a file, in one of three notations. -/

namespace Scaffold

/-- The settings of a file; each may be left out. -/
structure ConfigFile where
  sourceRoots : Option (List Path)
  outDir : Option Path
  suffix : Option String
  includes : Option (List String)
  excludes : Option (List String)
  templates : Option (List TemplateFile)
  validation : Option ValidationMode
  format : Option Bool
  cleanOrphans : Option Bool
  deriving DecidableEq, Repr

namespace ConfigNotation

/-- The notation of files with an extension, in lower case. -/
def ofExtension? : String → Option ConfigNotation
  | "yaml" | "yml" => some yaml
  | "json" => some json
  | "toml" => some toml
  | _ => none

def parse (text : String) : ConfigNotation → Option Document
  | yaml => Yaml.parse text
  | json => Json.parse text
  | toml => Toml.parse text

end ConfigNotation

namespace ConfigFile

def empty : ConfigFile := ⟨none, none, none, none, none, none, none, none, none⟩

def pathOfDocument? (document : Document) : Option Path := document.asText?.map Path.mk

/-- A template with the pattern for its file names, which may be left out. -/
def templateOfDocument? (document : Document) : Option TemplateFile := do
  let fields ← document.fields? ["path", "file_name"] false
  let path ← fields.required? "path" pathOfDocument?
  let fileName ← fields.withDefault? "file_name" Document.asText? TemplateSpec.defaultFileName
  return ⟨path, fileName⟩

def fieldNames : List String :=
  ["source_roots", "out_dir", "suffix", "include", "exclude", "templates", "validation", "format",
    "clean_orphans"]

/-- The settings that a document gives. No others may be there. -/
def ofDocument? (document : Document) : Option ConfigFile := do
  if let .plain "" := document then return empty
  let fields ← document.fields? fieldNames true
  let sourceRoots ← fields.optional? "source_roots" (Document.asList? pathOfDocument?)
  let outDir ← fields.optional? "out_dir" pathOfDocument?
  let suffix ← fields.optional? "suffix" Document.asText?
  let includes ← fields.optional? "include" (Document.asList? Document.asText?)
  let excludes ← fields.optional? "exclude" (Document.asList? Document.asText?)
  let templates ← fields.optional? "templates" (Document.asList? templateOfDocument?)
  let validation ← fields.optional? "validation" (Document.asName? ValidationMode.ofText?)
  let format ← fields.optional? "format" Document.asFlag?
  let cleanOrphans ← fields.optional? "clean_orphans" Document.asFlag?
  return { sourceRoots, outDir, suffix, includes, excludes, templates, validation, format, cleanOrphans }

/-- The extension that tells the notation; the case of its letters does not matter. -/
def extension (path : Path) : String :=
  String.ofList ((path.extension?.getD "").toList.map Char.toLower)

/-- The settings of a file. -/
def load (disk : Disk) (path : Path) : Except Failure ConfigFile := do
  if !disk.contains path then throw (.missingConfigFile path)
  match disk.readText path with
  | .error _ => throw (.unreadableConfigFile path)
  | .ok text =>
    match ConfigNotation.ofExtension? (extension path) with
    | none => throw (.unknownExtension (extension path))
    | some kind =>
      match (kind.parse text).bind ofDocument? with
      | some file => return file
      | none => throw (.unparsableConfigFile kind path)

end ConfigFile

end Scaffold
