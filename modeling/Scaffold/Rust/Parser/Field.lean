import Scaffold.Rust.Parser.Type

/-! Visibility, the fields of structs and the variants of enumerations. -/

namespace Scaffold.Rust.Parser

variable (g : Grammar)

/-- The text of a plain path. -/
def plainPathText (path : Tree) : String :=
  match path.children with
  | leading :: segments => leading.text ++ "::".intercalate (segments.map fun s => (s.child 0).text)
  | [] => ""

/-- What parentheses after `pub` restrict it to; `none` if they belong to what follows. -/
def restriction : Parser (Option String) := do
  if ← at? (·.atOneOf ["crate", "self", "super"]) then
    let word ← anyWord
    if ← atEnd then return some word
    else fun _ => some (none, [])
  else if ← keyword? "in" then
    let path ← plainPath
    return some ("in " ++ plainPathText path)
  else fun _ => some (none, [])

/-- Visibility as it is written; the empty text where there is none. -/
def visibility : Parser String := do
  if ← keyword? "pub" then
    fun tokens =>
      match tokens with
      | .group .parenthesis body :: rest => do
        match ← within restriction body with
        | some place => some ("pub(" ++ place ++ ")", rest)
        | none => some ("pub", tokens)
      | _ => some ("pub", tokens)
  else return ""

/-- A field with a name, which may be an underscore; that one may hold a nameless struct. -/
def fieldWith (nameless : Parser Tree) : Parser Tree := do
  let attributes ← Tree.list <$> outerAttributes g
  let visibility ← visibility
  let unnamed ← at? (·.atWord "_")
  let word ← if unnamed then anyWord else name
  operator ":"
  let type ← if ← at? fun ts => unnamed &&
      (ts.atWord "struct" || (ts.atWord "union" && ts.skip.atBraces)) then nameless else g.type true
  return .node .field [attributes, .word visibility, .name word, type]

/-- A nameless struct, whose fields are checked and kept as tokens; `fuel` bounds how deeply such
structs are nested. -/
def nameless : (fuel : Nat) → Parser Tree
  | 0 => fail
  | fuel + 1 => do
    let _ ← anyWord
    let _ ← braces (commaSeparated (fieldWith g (nameless fuel)))
    return .tokens []

def namedField : Parser Tree :=
  fieldWith g fun tokens => nameless g (TokenTree.sizeList tokens) tokens

def tupleField : Parser Tree := do
  let attributes ← Tree.list <$> outerAttributes g
  let visibility ← visibility
  return .node .field [attributes, .word visibility, .absent, ← g.type true]

def namedFields : Parser Tree := .node .namedFields <$> braces (commaSeparated (namedField g))

def tupleFields : Parser Tree := .node .tupleFields <$> parens (commaSeparated (tupleField g))

def unitFields : Tree := .node .unitFields []

def variant : Parser Tree := do
  let attributes ← Tree.list <$> outerAttributes g
  let _ ← visibility
  let word ← name
  let fields ←
    if ← at? Tokens.atBraces then namedFields g
    else if ← at? Tokens.atParens then tupleFields g
    else pure unitFields
  let discriminant ← if ← operator? "=" then g.expression true else pure .absent
  return .node .variant [attributes, .name word, fields, discriminant]

end Scaffold.Rust.Parser
