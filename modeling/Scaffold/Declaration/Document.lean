import Scaffold.Declaration
import Scaffold.Document

/-! Declarations as structured data. -/

namespace Scaffold

namespace DeclarationKind

/-- The kind as it is shown to a programmer: each word begins with a capital. -/
def label : DeclarationKind → String
  | struct => "Struct"
  | enum => "Enum"
  | union => "Union"
  | trait => "Trait"
  | typeAlias => "TypeAlias"
  | function => "Function"
  | const => "Const"
  | static => "Static"
  | module => "Module"
  | field => "Field"
  | variant => "Variant"

end DeclarationKind

namespace SourceLocation

def ofDocument? (document : Document) : Option SourceLocation := do
  let fields ← document.fields? ["file", "module_path"] false
  let file ← fields.required? "file" Document.asText?
  let modulePath ← fields.required? "module_path" Document.asText?
  some ⟨⟨file⟩, modulePath⟩

def toDocument (location : SourceLocation) : Document :=
  .table [("file", .text location.file.text), ("module_path", .text location.modulePath)]

end SourceLocation

namespace Declaration

/-- A declaration from a record, or from its fields in order. The location may be missing. -/
def ofDocument? (document : Document) : Option Declaration := do
  let fields ← document.fields? ["kind", "name", "location"] false
  let kind ← fields.required? "kind" (Document.asName? DeclarationKind.ofText?)
  let name ← fields.required? "name" Document.asText?
  let location ← fields.optionalOrMissing? "location" SourceLocation.ofDocument?
  some ⟨kind, name, location⟩

/-- A record; a missing location is left out. -/
def toDocument (declaration : Declaration) : Document :=
  .table ([("kind", .text declaration.kind.text), ("name", .text declaration.name)] ++
    (declaration.location.map fun location => ("location", location.toDocument)).toList)

end Declaration

end Scaffold
