import Scaffold.Declaration
import Scaffold.Rust.Parser

/-!
The declarations of a source file, in the order of its tree. Each has the names of the modules
around it; what a macro invocation holds is not looked into.
-/

namespace Scaffold.Declaration

open Rust

/-- What a node declares, if it declares anything. -/
def kindOf? : Kind → Option DeclarationKind
  | .structItem => some .struct
  | .enumItem => some .enum
  | .unionItem => some .union
  | .traitItem => some .trait
  | .typeItem => some .typeAlias
  | .functionItem => some .function
  | .constItem => some .const
  | .staticItem => some .static
  | .moduleItem => some .module
  | .field => some .field
  | .variant => some .variant
  | _ => none

/-- The name among the children of a node. -/
def nameAmong? (children : List Tree) : Option String :=
  children.findSome? fun
    | .name text => some text
    | _ => none

/-- What a node itself declares: its kind and its name. A tuple field has no name. -/
def declared? (kind : Kind) (children : List Tree) : Option (DeclarationKind × String) :=
  match kindOf? kind, nameAmong? children with
  | some declared, some name => some (declared, name)
  | _, _ => none

/-- The modules around what a node holds. -/
def innerModules (modules : List String) (kind : Kind) (children : List Tree) : List String :=
  match kind, nameAmong? children with
  | .moduleItem, some name => modules ++ [name]
  | _, _ => modules

/-- A declaration before the file is known: its kind, its name and the modules around it. -/
structure Found where
  kind : DeclarationKind
  name : String
  modules : List String
  deriving DecidableEq, Repr

mutual

/-- All declarations of a tree. -/
def collect (modules : List String) : Tree → List Found
  | .node kind children =>
    ((declared? kind children).map fun (declared, name) => ⟨declared, name, modules⟩).toList ++
      collectAll (innerModules modules kind children) children
  | _ => []

def collectAll (modules : List String) : List Tree → List Found
  | [] => []
  | tree :: rest => collect modules tree ++ collectAll modules rest

end

def ofFound (file : Path) (found : Found) : Declaration where
  kind := found.kind
  name := found.name
  location := some ⟨file, "::".intercalate found.modules⟩

/-- The declarations of a source file; `none` if it does not parse. -/
def ofSource? (file : Path) (source : String) : Option (List Declaration) :=
  (SourceFile.parse source).map fun tree => (collect [] tree).map (ofFound file)

end Scaffold.Declaration
