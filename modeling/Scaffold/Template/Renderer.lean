import Scaffold.Digest.Sha256
import Scaffold.Fault
import Scaffold.Template.Builtin
import Scaffold.Template.Evaluation

/-!
Renderers turn the name of a feature into generated files. The name of a file is a template too, and
the feature is the only variable that both see.
-/

namespace Scaffold

/-- The name of the only variable. -/
def placeholder : String := "feature"

/-- A template with the pattern for the name of its file. -/
structure TemplateSpec where
  name : String
  source : String
  fileName : String
  deriving DecidableEq, Repr

namespace TemplateSpec

def defaultFileName : String := "\x7b\x7b feature \x7d\x7d.g.rs"

def builtin : TemplateSpec := ⟨"aggregate.rs", Template.Builtin.source, defaultFileName⟩

/-- The name under which the pattern for the file name is kept. -/
def fileNameKey (spec : TemplateSpec) : String := spec.name ++ "#file_name"

/-- The parts of a template, each ended by a zero. -/
def identity (spec : TemplateSpec) : String :=
  spec.name ++ "\x00" ++ spec.fileName ++ "\x00" ++ spec.source ++ "\x00"

end TemplateSpec

/-- A generated file. -/
structure Artifact where
  fileName : String
  source : String
  deriving DecidableEq, Repr

structure Renderer where
  specs : List TemplateSpec
  library : Template.Library

namespace Renderer

/-- A result for a template, whose name a problem is reported with. -/
def forSpec {α : Type} (spec : TemplateSpec) (result : Except Template.Problem α) : Except Fault α :=
  result.mapError (.template spec.name)

/-- Adds a template and the pattern for its file name. -/
def addSpec (library : Template.Library) (spec : TemplateSpec) : Except Fault Template.Library :=
  forSpec spec do
    let library ← library.add spec.name spec.source
    library.add spec.fileNameKey spec.fileName

/-- A renderer for at least one template. -/
def ofSpecs (specs : List TemplateSpec) : Except Fault Renderer := do
  if specs.isEmpty then throw (.config .noTemplate)
  return ⟨specs, ← specs.foldlM addSpec .empty⟩

/-- The built-in template if no others are given. -/
def ofSpecsOrBuiltin (specs : List TemplateSpec) : Except Fault Renderer :=
  ofSpecs (if specs.isEmpty then [.builtin] else specs)

/-- A renderer with one more template, which is rendered last. -/
def add (renderer : Renderer) (spec : TemplateSpec) : Except Fault Renderer :=
  ofSpecs (renderer.specs ++ [spec])

def renderSpec (renderer : Renderer) (feature : String) (spec : TemplateSpec) :
    Except Fault Artifact :=
  let context := [(placeholder, Template.Value.text feature)]
  forSpec spec do
    let source ← renderer.library.render spec.name context
    let fileName ← renderer.library.render spec.fileNameKey context
    return ⟨fileName, source⟩

/-- The files of a feature, in the order of the templates. -/
def render (renderer : Renderer) (feature : String) : Except Fault (List Artifact) :=
  renderer.specs.mapM (renderer.renderSpec feature)

/-- A digest over all templates and their file names. -/
def fingerprint (renderer : Renderer) : String :=
  Digest.Sha256.hexOfText (String.join (renderer.specs.map TemplateSpec.identity))

def templateNames (renderer : Renderer) : List String := renderer.specs.map (·.name)

end Renderer

end Scaffold
