import Scaffold.Convention
import Scaffold.Disk
import Scaffold.Glob
import Scaffold.Template.Renderer
import Scaffold.ValidationMode

/-! Settings of a generation run. -/

namespace Scaffold

/-- A template file with the pattern for the names of what it generates. -/
structure TemplateFile where
  path : Path
  fileName : String
  deriving DecidableEq, Repr

structure Config where
  sourceRoots : List Path
  outDir : Path
  suffix : String
  includes : List String
  excludes : List String
  /-- these take the place of the built-in template, if there are any -/
  templates : List TemplateFile
  validation : ValidationMode
  format : Bool
  cleanOrphans : Bool
  deriving DecidableEq, Repr

/-- Why no run could succeed with a configuration. -/
inductive ConfigProblem where
  | emptySuffix
  | noSourceRoot
  | noIncludePattern
  | missingRoot (root : Path)
  | invalidPattern (pattern : String)
  | notATemplate (path : Path)
  | emptyFileName (template : Path)
  | notADirectory (path : Path)
  deriving DecidableEq, Repr

namespace ConfigProblem

def message : ConfigProblem → String
  | emptySuffix => "convention suffix must not be empty"
  | noSourceRoot => "at least one source root must be provided"
  | noIncludePattern => "at least one include pattern must be provided"
  | missingRoot root => "source root " ++ root.quoted ++ " does not exist"
  | invalidPattern pattern => "invalid glob pattern " ++ Text.Quoted.quote pattern
  | notATemplate path => "template " ++ path.quoted ++ " is not a file"
  | emptyFileName template => "template " ++ template.quoted ++ " has an empty file name pattern"
  | notADirectory path => "output path " ++ path.quoted ++ " is not a directory"

end ConfigProblem

namespace Config

def default : Config where
  sourceRoots := [⟨"src"⟩]
  outDir := ⟨"generated"⟩
  suffix := Convention.defaultSuffix
  includes := ["**/*.rs"]
  excludes := ["**/*.g.rs", "**/target/**"]
  templates := []
  validation := .off
  format := false
  cleanOrphans := true

def rootProblem? (disk : Disk) (root : Path) : Option ConfigProblem :=
  if disk.contains root then none else some (.missingRoot root)

def patternProblem? (pattern : String) : Option ConfigProblem :=
  match Glob.ofText? pattern with
  | some _ => none
  | none => some (.invalidPattern pattern)

def templateProblem? (disk : Disk) (template : TemplateFile) : Option ConfigProblem :=
  if !disk.isFile template.path then some (.notATemplate template.path)
  else if template.fileName.isEmpty then some (.emptyFileName template.path)
  else none

def outDirProblem? (disk : Disk) (path : Path) : Option ConfigProblem :=
  if disk.contains path && !disk.isDirectory path then some (.notADirectory path) else none

/-- The first thing that is wrong with a configuration, if anything is. -/
def problem? (config : Config) (disk : Disk) : Option ConfigProblem :=
  if config.suffix.isEmpty then some .emptySuffix
  else if config.sourceRoots.isEmpty then some .noSourceRoot
  else if config.includes.isEmpty then some .noIncludePattern
  else
    config.sourceRoots.findSome? (rootProblem? disk) <|>
      (config.includes ++ config.excludes).findSome? patternProblem? <|>
      config.templates.findSome? (templateProblem? disk) <|>
      outDirProblem? disk config.outDir

/-- The configuration with its relative paths below a directory. -/
def resolvePaths (config : Config) (base : Path) : Config :=
  { config with
    sourceRoots := config.sourceRoots.map base.join
    outDir := base.join config.outDir
    templates := config.templates.map fun template =>
      { template with path := base.join template.path } }

end Config

end Scaffold
