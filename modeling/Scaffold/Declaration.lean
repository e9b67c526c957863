import Scaffold.Path

/-! Declarations found in source: what they declare, under which name, and where. -/

namespace Scaffold

inductive DeclarationKind where
  | struct
  | enum
  | union
  | trait
  | typeAlias
  | function
  | const
  | static
  | module
  | field
  | variant
  deriving DecidableEq, Repr, Inhabited

namespace DeclarationKind

def all : List DeclarationKind :=
  [struct, enum, union, trait, typeAlias, function, const, static, module, field, variant]

/-- The name of a kind in messages and data. -/
def text : DeclarationKind → String
  | struct => "struct"
  | enum => "enum"
  | union => "union"
  | trait => "trait"
  | typeAlias => "type_alias"
  | function => "function"
  | const => "const"
  | static => "static"
  | module => "module"
  | field => "field"
  | variant => "variant"

def ofText? (text : String) : Option DeclarationKind := all.find? (·.text == text)

/-- The kinds that declare a nominal type. -/
def isType : DeclarationKind → Bool
  | struct => true
  | enum => true
  | union => true
  | _ => false

end DeclarationKind

/-- Where a declaration was found: the file, and the modules around it inside the file. -/
structure SourceLocation where
  file : Path
  modulePath : String
  deriving DecidableEq, Repr

namespace SourceLocation

def describe (location : SourceLocation) : String :=
  if location.modulePath.isEmpty then location.file.text
  else location.file.text ++ " (" ++ location.modulePath ++ ")"

end SourceLocation

structure Declaration where
  kind : DeclarationKind
  name : String
  location : Option SourceLocation
  deriving DecidableEq, Repr

namespace Declaration

/-- The kind and the name, and the location if there is one. -/
def describe (declaration : Declaration) : String :=
  let head := declaration.kind.text ++ " " ++ declaration.name
  match declaration.location with
  | some location => head ++ " at " ++ location.describe
  | none => head

end Declaration

end Scaffold
