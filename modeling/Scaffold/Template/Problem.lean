/-! What can be wrong with a template. -/

namespace Scaffold.Template

inductive Problem where
  /-- its text is no template -/
  | unreadable (template : String)
  | missingParent (template parent : String)
  /-- the templates above it do not end -/
  | endless (template : String)
  | missingImport (template file : String)
  /-- it cannot be rendered -/
  | unrenderable (template : String)
  deriving DecidableEq, Repr

namespace Problem

def message : Problem → String
  | unreadable template => "Failed to parse '" ++ template ++ "'"
  | missingParent template parent =>
    "Template '" ++ template ++ "' is inheriting from '" ++ parent ++
      "', which doesn't exist or isn't loaded."
  | endless template => "Circular extend detected for template '" ++ template ++ "'"
  | missingImport template file =>
    "Template `" ++ template ++ "` loads macros from `" ++ file ++ "` which isn't present in Tera"
  | unrenderable template => "Failed to render '" ++ template ++ "'"

end Problem

end Scaffold.Template
