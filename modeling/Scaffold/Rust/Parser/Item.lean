import Scaffold.Rust.Parser.Associated

/-! Items. Forms without a meaning of their own are checked and kept as tokens. -/

namespace Scaffold.Rust.Parser

variable (g : Grammar)

/-- Items up to the end of a group, after the attributes at its start. -/
def members (p : Parser Tree) : Parser (List Tree × List Tree) := braces do
  let attributes ← innerAttributes g
  return (attributes, ← untilEnd p)

def functionItem (attributes : List Tree) (visibility : String) : Parser Tree := do
  let (word, signature, _) ← signature g false
  if ← operator? ";" then return .tokens []
  let (inner, block) ← functionBody g
  return .node .functionItem
    [.list (attributes ++ inner), .word visibility, .name word, signature, block]

def externCrate (attributes : List Tree) (visibility : String) : Parser Tree := do
  keyword "extern"
  keyword "crate"
  let word ← if ← at? (·.atWord "self") then anyWord else name
  let rename ← if ← keyword? "as" then
      if ← at? (·.atWord "_") then anyWord else name
    else pure ""
  operator ";"
  return .node .externCrate [.list attributes, .word visibility, .word word, .word rename]

def foreignModule (attributes : List Tree) : Parser Tree := do
  let unsafety ← keywordTree "unsafe"
  let abi ← abi
  let (inner, items) ← members g (foreignMember g)
  return .node .foreignModule [.list (attributes ++ inner), unsafety, abi, .list items]

/-- A tree of imports. A root separator inside a group makes the whole tree one that is kept. -/
def useTree (root : Bool) : Parser (Option Tree) := do
  if ← at? fun ts => ts.atName || ts.atOneOf ["self", "super", "crate", "try"] then
    let word ← anyWord
    if ← operator? "::" then
      return (← g.useTree false).map fun tree => .node .usePath [.word word, tree]
    else if ← keyword? "as" then
      let rename ← if ← at? (·.atWord "_") then anyWord else name
      return some (.node .useRename [.word word, .word rename])
    else return some (.node .useName [.word word])
  else if ← operator? "*" then return some (.node .useGlob [])
  else
    let trees ← braces (commaSeparated do
      let rooted ← if root then operator? "::" else pure false
      let tree ← g.useTree (root && !rooted)
      return if rooted then none else tree)
    return (trees.mapM id).map (Tree.node .useGroup)

def useItem (attributes : List Tree) (visibility : String) : Parser Tree := do
  keyword "use"
  let leading ← operator? "::"
  let tree ← g.useTree !leading
  operator ";"
  match tree with
  | none => return .tokens []
  | some tree =>
    return .node .useItem [.list attributes, .word visibility, Tree.flag "::" leading, tree]

def staticItem (attributes : List Tree) (visibility : String) : Parser Tree := do
  keyword "static"
  let mutability ← keywordTree "mut"
  let word ← name
  if ← operator? "=" then
    let _ ← g.expression true
    operator ";"
    return .tokens []
  operator ":"
  let type ← g.type true
  if ← operator? ";" then return .tokens []
  operator "="
  let value ← g.expression true
  operator ";"
  return .node .staticItem
    [.list attributes, .word visibility, mutability, .name word, type, value]

def constItem (attributes : List Tree) (visibility : String) : Parser Tree := do
  keyword "const"
  let (word, type, value, generic) ← constant g
  if generic || value.isAbsent then return .tokens []
  else return .node .constItem [.list attributes, .word visibility, .name word, type, value]

def moduleItem (attributes : List Tree) (visibility : String) : Parser Tree := do
  let unsafety ← keywordTree "unsafe"
  keyword "mod"
  let word ← if ← at? (·.atWord "try") then anyWord else name
  if ← operator? ";" then
    return .node .moduleItem [.list attributes, .word visibility, unsafety, .name word, .absent]
  let (inner, items) ← members g g.item
  return .node .moduleItem
    [.list (attributes ++ inner), .word visibility, unsafety, .name word, .list items]

def aliasItem (attributes : List Tree) (visibility : String) : Parser Tree := do
  let item ← typeItem g false .before
  if item.bounded || item.definition.isAbsent then return .tokens []
  else
    return .node .typeItem
      [.list attributes, .word visibility, .name item.name, item.generics, item.definition]

def structItem (attributes : List Tree) (visibility : String) : Parser Tree := do
  keyword "struct"
  let word ← name
  let parameters ← genericParameters g
  let early ← whereClause g
  let (fields, conditions) ←
    if ← at? fun ts => early.isAbsent && ts.atParens then
      let fields ← tupleFields g
      let late ← whereClause g
      operator ";"
      pure (fields, late)
    else if ← at? Tokens.atBraces then pure (← namedFields g, early)
    else
      operator ";"
      pure (unitFields, early)
  let generics := Tree.node .generics [parameters, conditions]
  return .node .structItem [.list attributes, .word visibility, .name word, generics, fields]

def enumItem (attributes : List Tree) (visibility : String) : Parser Tree := do
  keyword "enum"
  let word ← name
  let parameters ← genericParameters g
  let conditions ← whereClause g
  let variants ← braces (commaSeparated (variant g))
  let generics := Tree.node .generics [parameters, conditions]
  return .node .enumItem
    [.list attributes, .word visibility, .name word, generics, .list variants]

def unionItem (attributes : List Tree) (visibility : String) : Parser Tree := do
  keyword "union"
  let word ← name
  let parameters ← genericParameters g
  let conditions ← whereClause g
  let generics := Tree.node .generics [parameters, conditions]
  return .node .unionItem
    [.list attributes, .word visibility, .name word, generics, ← namedFields g]

/-- A trait after its name and parameters. -/
def traitBody (attributes : List Tree) (visibility : String) (unsafety auto : Tree) (word : String)
    (parameters : Tree) : Parser Tree := do
  let bounds ← if ← operator? ":" then
      joined (fun ts => ts.atWord "where" || ts.atBraces) "+" (g.bound false true)
    else pure []
  let conditions ← whereClause g
  let (inner, items) ← members g (traitMember g)
  let generics := Tree.node .generics [parameters, conditions]
  return .node .traitItem [.list (attributes ++ inner), .word visibility, unsafety, auto,
    .name word, generics, .list bounds, .list items]

/-- Another name for bounds. -/
def traitAlias (attributes : List Tree) (visibility : String) (word : String)
    (parameters : Tree) : Parser Tree := do
  operator "="
  let bounds ← joined (fun ts => ts.atWord "where" || ts.atOperator ";") "+" (g.bound false true)
  let conditions ← whereClause g
  operator ";"
  let generics := Tree.node .generics [parameters, conditions]
  return .node .traitAlias
    [.list attributes, .word visibility, .word word, generics, .list bounds]

def traitItem (attributes : List Tree) (visibility : String) : Parser Tree := do
  let unsafety ← keywordTree "unsafe"
  let auto ← keywordTree "auto"
  keyword "trait"
  let word ← name
  let parameters ← genericParameters g
  if ← at? fun ts => unsafety.text.isEmpty && auto.text.isEmpty && ts.atOperator "=" then
    traitAlias g attributes visibility word parameters
  else traitBody g attributes visibility unsafety auto word parameters

/-- An implementation. One that is visible, constant, or for something that is no trait is kept. -/
def implItem (attributes : List Tree) (visibility : String) : Parser Tree := do
  let isDefault ← keywordTree "default"
  let unsafety ← keywordTree "unsafe"
  keyword "impl"
  let parameters ← if ← at? opensParameters then genericParameters g else pure .absent
  let constant ← if ← at? fun ts => ts.atWord "const" ||
      (ts.atOperator "?" && ts.skip.atWord "const") then
      let _ ← operator? "?"
      keyword "const" *> pure true
    else pure false
  let negative ← if ← at? fun ts => ts.atOperator "!" && !ts.skip.atBraces then
      operator "!" *> pure true
    else pure false
  let first ← g.type true
  let isFor ← keyword? "for"
  let trait := if isFor then traitPath? first else none
  let self ← if isFor then g.type true
    else pure (if negative then .tokens [] else first)
  let conditions ← whereClause g
  let (inner, items) ← members g (implMember g)
  if !visibility.isEmpty || constant || (isFor && trait.isNone) then return .tokens []
  let generics := Tree.node .generics [parameters, conditions]
  return .node .implItem [.list (attributes ++ inner), isDefault, unsafety, generics,
    Tree.flag "!" (negative && isFor), Tree.optional trait, self, .list items]
where
  traitPath? : Tree → Option Tree
    | .node .pathType [.node .path segments] => some (.node .path segments)
    | _ => none

/-- A declarative macro of the newer form, kept as tokens. -/
def macroDefinition : Parser Tree := do
  keyword "macro"
  let _ ← name
  if ← at? Tokens.atParens then anyGroupOf .parenthesis
  anyGroupOf .brace
  return .tokens []

def namedInvocation (attributes : List Tree) : Parser Tree := do
  let path ← plainPath
  operator "!"
  let word ← if ← at? fun ts => ts.atName || ts.atWord "try" then anyWord else pure ""
  let call := Tree.node .invocation [path, ← anyGroup]
  if !call.isBraced then operator ";"
  return .node .invocationItem [.list attributes, .word word, call]

/-- An item that begins with `unsafe` and is no function. -/
def unsafeItem (attributes : List Tree) (visibility : String) : Parser Tree := do
  let next ← (·.skip) <$> get
  if next.atWord "trait" || (next.atWord "auto" && next.skip.atWord "trait") then
    traitItem g attributes visibility
  else if next.atWord "impl" then implItem g attributes visibility
  else if next.atWord "extern" then
    guard visibility.isEmpty
    foreignModule g attributes
  else moduleItem g attributes visibility

def externItem (attributes : List Tree) (visibility : String) : Parser Tree := do
  let next ← (·.skip) <$> get
  if next.atWord "crate" then externCrate attributes visibility
  else
    guard visibility.isEmpty
    foreignModule g attributes

/-- One item with the attributes before it. -/
def item : Parser Tree := do
  let attributes ← outerAttributes g
  let visibility ← visibility
  if ← at? (atSignature false) then functionItem g attributes visibility
  else if ← at? (·.atWord "extern") then externItem g attributes visibility
  else if ← at? (·.atWord "use") then useItem g attributes visibility
  else if ← at? (·.atWord "static") then staticItem g attributes visibility
  else if ← at? (·.atWord "const") then constItem g attributes visibility
  else if ← at? (·.atWord "unsafe") then unsafeItem g attributes visibility
  else if ← at? (·.atWord "mod") then moduleItem g attributes visibility
  else if ← at? (·.atWord "type") then aliasItem g attributes visibility
  else if ← at? (·.atWord "struct") then structItem g attributes visibility
  else if ← at? (·.atWord "enum") then enumItem g attributes visibility
  else if ← at? fun ts => ts.atWord "union" && ts.skip.atName then
    unionItem g attributes visibility
  else if ← at? fun ts => ts.atWord "trait" || (ts.atWord "auto" && ts.skip.atWord "trait") then
    traitItem g attributes visibility
  else if ← at? fun ts => ts.atWord "impl" ||
      (ts.atWord "default" && !ts.skip.atOperator "!") then
    implItem g attributes visibility
  else if ← at? (·.atWord "macro") then macroDefinition
  else
    guard (← at? fun ts => visibility.isEmpty && atInvocation ts)
    namedInvocation attributes

/-- A source file: attributes, then items to the end. -/
def file : Parser Tree := do
  let attributes ← innerAttributes g
  let items ← untilEnd g.item
  return .node .file [.list attributes, .list items]

end Scaffold.Rust.Parser
