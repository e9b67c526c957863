import Scaffold.Rust.Parser.Classify
import Scaffold.Rust.Parser.Signature

/-! Items of traits, implementations and foreign modules. Forms without a meaning of their own are
checked and kept as tokens. -/

namespace Scaffold.Rust.Parser

variable (g : Grammar)

/-- Where the conditions of a type item may stand. -/
inductive ConditionPlace where
  | before
  | after
  | both
  deriving DecidableEq

/-- A type item before it is known where it stands. -/
structure TypeItem where
  visibility : String
  isDefault : Bool
  name : String
  generics : Tree
  bounded : Bool
  bounds : List Tree
  definition : Tree

def typeItem (allowDefault : Bool) (place : ConditionPlace) : Parser TypeItem := do
  let visibility ← visibility
  let isDefault ← if allowDefault then keyword? "default" else pure false
  keyword "type"
  let word ← name
  let parameters ← genericParameters g
  let bounded ← operator? ":"
  let bounds ← if bounded then
      joined (fun ts => ts.atWord "where" || ts.atOperator "=" || ts.atOperator ";") "+"
        (g.bound false true)
    else pure []
  let early ← if place = .after then pure .absent else whereClause g
  let definition ← if ← operator? "=" then g.type true else pure .absent
  let late ← if place ≠ .before ∧ early.isAbsent then whereClause g else pure .absent
  operator ";"
  let conditions := if early.isAbsent then late else early
  return ⟨visibility, isDefault, word, .node .generics [parameters, conditions], bounded, bounds,
    definition⟩

/-- The body of a function with the attributes at its start. -/
def functionBody : Parser (List Tree × Tree) := attributedBlock g

/-- A constant after its keyword: name, type, value, and whether it has parameters or conditions. -/
def constant : Parser (String × Tree × Tree × Bool) := do
  guard (← at? fun ts => ts.atName || ts.atWord "_")
  let word ← anyWord
  let parameters ← genericParameters g
  operator ":"
  let type ← g.type true
  let value ← if ← operator? "=" then g.expression true else pure .absent
  let conditions ← whereClause g
  operator ";"
  return (word, type, value, !parameters.isAbsent || !conditions.isAbsent)

/-- A macro invocation as an item; one without braces ends with a semicolon. -/
def invocationItem (attributes : Tree) : Parser Tree := do
  let path ← plainPath
  let call ← invocation path
  if !call.isBraced then operator ";"
  return .node .invocationItem [attributes, .word "", call]

def atInvocation (ts : Tokens) : Bool :=
  ts.atName || ts.atOneOf ["self", "super", "crate"] || ts.atOperator "::"

/-! ### Traits -/

def traitFunction (attributes : List Tree) : Parser Tree := do
  let (word, signature, _) ← signature g false
  if ← at? Tokens.atBraces then
    let (inner, block) ← functionBody g
    return .node .associatedFunction
      [.list (attributes ++ inner), .word "", .word "", .word word, signature, block]
  else
    operator ";"
    return .node .associatedFunction
      [.list attributes, .word "", .word "", .word word, signature, .absent]

def traitMember : Parser Tree := do
  let attributes ← outerAttributes g
  let visibility ← visibility
  let isDefault ← keyword? "default"
  let kept := !visibility.isEmpty || isDefault
  let tree ←
    if ← at? (atSignature false) then traitFunction g attributes
    else if ← at? (·.atWord "const") then
      keyword "const"
      let (word, type, value, generic) ← constant g
      if generic then pure (Tree.tokens [])
      else pure (.node .associatedConst
        [.list attributes, .word "", .word "", .word word, type, value])
    else if ← at? (·.atWord "type") then
      let item ← typeItem g false .after
      pure (.node .associatedType
        [.list attributes, .word "", .word "", .word item.name, item.generics, .list item.bounds,
          item.definition])
    else
      guard (← at? fun ts => !kept && atInvocation ts)
      invocationItem (.list attributes)
  return if kept then .tokens [] else tree

/-! ### Implementations -/

def implFunction (attributes : List Tree) (visibility : String) (isDefault : Bool) :
    Parser Tree := do
  let (word, signature, _) ← signature g false
  if ← operator? ";" then return .tokens []
  let (inner, block) ← functionBody g
  return .node .associatedFunction
    [.list (attributes ++ inner), .word visibility, Tree.flag "default" isDefault, .word word,
      signature, block]

def implMember : Parser Tree := do
  let attributes ← outerAttributes g
  let visibility ← visibility
  let isDefault ← if ← at? fun ts => ts.atWord "default" && !ts.skip.atOperator "!" then
      keyword "default" *> pure true
    else pure false
  if ← at? (atSignature false) then implFunction g attributes visibility isDefault
  else if ← keyword? "const" then
    let (word, type, value, generic) ← constant g
    if generic || value.isAbsent then return .tokens []
    else
      return .node .associatedConst
        [.list attributes, .word visibility, Tree.flag "default" isDefault, .word word, type, value]
  else if ← at? (·.atWord "type") then
    let item ← typeItem g false .after
    if item.bounded || item.definition.isAbsent then return .tokens []
    else
      return .node .associatedType
        [.list attributes, .word visibility, Tree.flag "default" isDefault, .word item.name,
        item.generics, .list [], item.definition]
  else
    guard (← at? fun ts => visibility.isEmpty && !isDefault && atInvocation ts)
    invocationItem (.list attributes)

/-! ### Foreign modules -/

def foreignStatic (attributes : List Tree) (visibility : String) : Parser Tree := do
  let unsafety ← keyword? "unsafe"
  let safe ← if unsafety then pure false else keyword? "safe"
  keyword "static"
  let mutability ← keywordTree "mut"
  let word ← name
  operator ":"
  let type ← g.type true
  let valued ← operator? "="
  if valued then let _ ← g.expression true
  operator ";"
  if unsafety || safe || valued then return .tokens []
  else return .node .foreignStatic [.list attributes, .word visibility, mutability, .word word, type]

def foreignMember : Parser Tree := do
  let attributes ← outerAttributes g
  let ahead ← lookahead (visibility *> get)
  if atSignature true ahead then
    let visibility ← visibility
    let (word, signature, safe) ← signature g true
    if ← at? Tokens.atBraces then
      let _ ← functionBody g
      return .tokens []
    else
      operator ";"
      if safe then return .tokens []
      else
        return .node .associatedFunction
          [.list attributes, .word visibility, .word "", .word word, signature, .absent]
  else if ahead.atWord "static" || (ahead.atOneOf ["unsafe", "safe"] && ahead.skip.atWord "static") then
    let visibility ← visibility
    foreignStatic g attributes visibility
  else if ahead.atWord "type" then
    let item ← typeItem g false .both
    if item.bounded || !item.definition.isAbsent then return .tokens []
    else
      return .node .foreignType
        [.list attributes, .word item.visibility, .word item.name, item.generics]
  else
    let visibility ← visibility
    guard (visibility.isEmpty && atInvocation ahead)
    invocationItem (.list attributes)

end Scaffold.Rust.Parser
