import Scaffold.CommandLine
import Scaffold.Config.File
import Scaffold.Text.Blank

/-! A configuration from the command line, a file and the defaults. Each setting is looked up by itself. -/

namespace Scaffold.Config

/-- The patterns without the blanks around them, and without empty ones. -/
def tidyPatterns (patterns : List String) : List String :=
  (patterns.map fun pattern => String.ofList (Text.trim pattern.toList)).filter (!·.isEmpty)

/-- A setting of the command line, or of the file, or the default. -/
def setting {α : Type} (given inFile : Option α) (default : α) : α :=
  (given.or inFile).getD default

/-- The configuration that a command line and a file make. Roots of the command line count only if
there are any, and a template of the command line takes the place of all those of the file. -/
def ofLayers (arguments : Arguments) (file : ConfigFile) : Config where
  sourceRoots :=
    setting (arguments.sourceRoots.filter (!·.isEmpty)) file.sourceRoots default.sourceRoots
  outDir := setting arguments.outDir file.outDir default.outDir
  suffix := setting arguments.suffix file.suffix default.suffix
  includes := tidyPatterns (setting arguments.includes file.includes default.includes)
  excludes := tidyPatterns (setting arguments.excludes file.excludes default.excludes)
  templates :=
    match arguments.template with
    | some path => [⟨path, TemplateSpec.defaultFileName⟩]
    | none => file.templates.getD default.templates
  validation := setting arguments.validation file.validation default.validation
  format := arguments.format || file.format.getD default.format
  cleanOrphans := !arguments.keepOrphans && file.cleanOrphans.getD default.cleanOrphans

/-- The configuration that a command line asks for, with the file that it names. -/
def load (disk : Disk) (arguments : Arguments) : Except Failure Config := do
  let file ← match arguments.config with
    | some path => ConfigFile.load disk path
    | none => .ok .empty
  return ofLayers arguments file

end Scaffold.Config
