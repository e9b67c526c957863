import Scaffold.Template.NodeReader
import Scaffold.Template.Problem

/-!
Templates by name. Adding a template under a name that is taken replaces the one before. Every template
that another one extends or imports has to be there first.
-/

namespace Scaffold.Template

/-- A macro: its parameters and its body. -/
structure Macro where
  parameters : List (String × Option Expression)
  body : List Node

/-- A template that has been read. -/
structure Parsed where
  name : String
  source : String
  body : List Node
  parent : Option String
  blocks : List (String × List Node)
  macros : List (String × Macro)
  imports : List (String × String)

namespace Parsed

mutual

/-- A block with those inside it. -/
def blocksIn : Node → List (String × List Node)
  | .block name body => (name, body) :: blocksOf body
  | _ => []

/-- The blocks among nodes, and those inside these blocks. -/
def blocksOf : List Node → List (String × List Node)
  | [] => []
  | node :: rest => blocksIn node ++ blocksOf rest

end

def macroOf? : Node → Option (String × Macro)
  | .definition name parameters body => some (name, ⟨parameters, body⟩)
  | _ => none

def importOf? : Node → Option (String × String)
  | .importMacros file space => some (space, file)
  | _ => none

def parentOf? : Node → Option String
  | .extension parent => some parent
  | _ => none

/-- Reads a template. Its blocks have names of their own, and so have its macros. -/
def ofSource? (name source : String) : Option Parsed := do
  let body ← read? source
  let blocks := blocksOf body
  let macros := body.filterMap macroOf?
  if (blocks.map (·.1)).Nodup ∧ (macros.map (·.1)).Nodup then
    some ⟨name, source, body, body.findSome? parentOf?, blocks, macros, body.filterMap importOf?⟩
  else none

def block? (template : Parsed) (name : String) : Option (List Node) :=
  (template.blocks.find? (·.1 == name)).map (·.2)

end Parsed

/-- Templates with different names. -/
structure Library where
  templates : List Parsed

namespace Library

def empty : Library := ⟨[]⟩

def find? (library : Library) (name : String) : Option Parsed :=
  library.templates.find? (·.name == name)

/-- The templates above one, nearest first. -/
def ancestorsUpTo (library : Library) (template : Parsed) : Nat → Except Problem (List Parsed)
  | 0 => .error (.endless template.name)
  | fuel + 1 =>
    match template.parent with
    | none => .ok []
    | some name =>
      match library.find? name with
      | some parent => return parent :: (← library.ancestorsUpTo parent fuel)
      | none => .error (.missingParent template.name name)

/-- The templates above one; one of them may be missing, and there may be no end to them. -/
def ancestors (library : Library) (template : Parsed) : Except Problem (List Parsed) :=
  library.ancestorsUpTo template (library.templates.length + 1)

def checkParents (library : Library) : Except Problem Unit :=
  library.templates.forM fun template => do
    let _ ← library.ancestors template

def checkImports (library : Library) : Except Problem Unit :=
  library.templates.forM fun template =>
    template.imports.forM fun (_, file) =>
      match library.find? file with
      | some _ => .ok ()
      | none => .error (.missingImport template.name file)

/-- Adds a template, whose parents and imports have to be there. -/
def add (library : Library) (name source : String) : Except Problem Library := do
  match Parsed.ofSource? name source with
  | none => .error (.unreadable name)
  | some template =>
    let library : Library := ⟨library.templates.filter (·.name != name) ++ [template]⟩
    library.checkParents
    library.checkImports
    return library

/-- The namespaces of macros that a template sees: its own, those it imports, and those seen by the
imported templates and the templates above it, nearer ones first. -/
def namespacesUpTo (library : Library) (template : Parsed) : Nat → List (String × Parsed)
  | 0 => []
  | fuel + 1 =>
    let own := if template.macros.isEmpty then [] else [("self", template)]
    let imports := template.imports.reverse.filterMap fun (space, file) =>
      (library.find? file).map fun imported => (space, imported)
    let further := imports.flatMap fun (_, imported) => library.namespacesUpTo imported fuel
    let above := ((library.ancestors template).toOption.getD []).flatMap fun parent =>
      library.namespacesUpTo parent fuel
    imports ++ own ++ further ++ above

def macro? (library : Library) (template : Parsed) (space name : String) :
    Option (Parsed × Macro) := do
  let spaces := library.namespacesUpTo template (library.templates.length + 1)
  let (_, holder) ← spaces.find? (·.1 == space)
  let (_, found) ← holder.macros.find? (·.1 == name)
  return (holder, found)

end Library

end Scaffold.Template
