import Scaffold.Rust.Parser.Type

/-! Patterns. -/

namespace Scaffold.Rust.Parser

variable (g : Grammar)

/-- A bar between alternatives, not part of another operator. -/
def atBar (ts : Tokens) : Bool :=
  ts.atOperator "|" && !ts.atOperator "||" && !ts.atOperator "|="

/-- A pattern with alternatives, and perhaps a bar before the first. -/
def alternatives : Parser Tree := do
  let leading ← operator? "|"
  let first ← g.pattern
  let rest ← whileAt atBar do
    operator "|"
    g.pattern
  if leading || !rest.isEmpty then return .node .alternativePattern (first :: rest)
  else return first

/-- A name or the position of a field. -/
def member : Parser (String × Bool) := fun tokens =>
  match tokens with
  | .literal text :: rest => (Literal.index? text.toList).map fun i => ((toString i, false), rest)
  | _ => (name tokens).map fun (word, rest) => ((word, true), rest)

/-- The limits of a range: `..` leaves its end out. -/
def rangeLimits (dots : Bool) : Parser String := do
  if ← operator? "..=" then return "..="
  else if ← at? (·.atOperator "...") then
    guard dots
    operator "..."
    return "..."
  else
    operator ".."
    return ".."

/-- An end of a range pattern; `absent` where the pattern ends. -/
def rangeBound : Parser Tree := do
  if ← at? fun ts => ts.isEmpty || ts.atOperator "|" || ts.atOperator "=" ||
      (ts.atOperator ":" && !ts.atOperator "::") || ts.atOperator "," || ts.atOperator ";" ||
      ts.atWord "if" then
    return .absent
  else if ← at? Tokens.atLiteral then return .node .literalExpr [.list [], ← literal]
  else if ← at? fun ts => atPathWord ts || ts.atOperator "::" || ts.atOperator "<" then
    return .node .pathExpr [.list [], ← qualifiedPath g true]
  else if ← keyword? "const" then
    let (attributes, block) ← attributedBlock g
    return .node .constExpr [.list attributes, block]
  else fail

/-- A range pattern after its start. -/
def rangePattern (start : Tree) : Parser Tree := do
  let limits ← rangeLimits true
  let stop ← rangeBound g
  guard (limits == ".." || !stop.isAbsent)
  return .node .rangePattern [start, .word limits, stop]

/-- A literal or constant as a pattern. -/
def constantPattern (value : Tree) : Tree :=
  match value with
  | .node .literalExpr [_, literal] => .node .literalPattern [literal]
  | .node .pathExpr [_, path] => .node .pathPattern [path]
  | other => .node .constPattern [other]

def literalOrRange : Parser Tree := do
  let start ← rangeBound g
  guard !start.isAbsent
  if ← at? (·.atOperator "..") then rangePattern g start
  else return constantPattern start

/-- A range without a start, or the pattern for all further elements. -/
def openRange : Parser Tree := do
  let limits ← rangeLimits false
  let stop ← rangeBound g
  if stop.isAbsent then
    guard (limits == "..")
    return .node .restPattern [.list []]
  else return .node .rangePattern [.absent, .word limits, stop]

def fieldPattern (attributes : List Tree) : Parser Tree := do
  let boxed ← keyword? "box"
  let byRef ← keyword? "ref"
  let mutable ← keyword? "mut"
  let marked := boxed || byRef || mutable
  let (field, named) ← member
  if ← at? fun ts => (!marked && ts.atOperator ":") || !named then
    guard (!marked || named)
    operator ":"
    return .node .fieldPattern [.list attributes, .word field, ← alternatives g]
  else
    let binding := if boxed then Tree.tokens []
      else .node .bindingPattern [Tree.flag "ref" byRef, Tree.flag "mut" mutable, .word field, .absent]
    return .node .fieldPattern [.list attributes, .word "", binding]

/-- Fields of a struct pattern, and the mark that leaves out the rest. -/
def fieldPatterns : Parser (List Tree × Tree) := fun tokens => go (tokens.length + 1) tokens
where
  go : Nat → Parser (List Tree × Tree)
    | 0 => fail
    | fuel + 1 => do
      if ← atEnd then return ([], .absent)
      let attributes ← outerAttributes g
      if ← operator? ".." then return ([], .node .restPattern [.list attributes])
      let field ← fieldPattern g attributes
      if ← atEnd then return ([field], .absent)
      operator ","
      let (fields, rest) ← go fuel
      return (field :: fields, rest)

def pathOrStruct : Parser Tree := do
  let path ← qualifiedPath g true
  if ← at? fun ts => isUnqualified path && ts.atOperator "!" && !ts.atOperator "!=" &&
      isPlainPath path then
    return .node .invocationPattern [← invocation path]
  else if ← at? Tokens.atBraces then
    let (fields, rest) ← braces (fieldPatterns g)
    return .node .structPattern [path, .list fields, rest]
  else if ← at? Tokens.atParens then
    return .node .tupleStructPattern [path, .list (← parens (commaSeparated (alternatives g)))]
  else if ← at? (·.atOperator "..") then
    rangePattern g (.node .pathExpr [.list [], path])
  else return .node .pathPattern [path]

def bindingPattern : Parser Tree := do
  let byRef ← keywordTree "ref"
  let mutable ← keywordTree "mut"
  let word ← if ← at? (·.atWord "self") then anyWord else name
  let sub ← if ← operator? "@" then g.pattern else pure .absent
  return .node .bindingPattern [byRef, mutable, .word word, sub]

/-- Elements, and whether a comma follows the last. -/
def elements (p : Parser Tree) : Parser (List Tree × Bool) := fun tokens =>
  go (tokens.length + 1) tokens
where
  go : Nat → Parser (List Tree × Bool)
    | 0 => fail
    | fuel + 1 => do
      if ← atEnd then return ([], true)
      let first ← p
      if ← atEnd then return ([first], false)
      operator ","
      let (rest, comma) ← go fuel
      return (first :: rest, comma)

def tupleOrParenthesized : Parser Tree := do
  match ← parens (elements (alternatives g)) with
  | ([single], false) =>
    if single.is .restPattern then return .node .tuplePattern [single]
    else return .node .parenthesizedPattern [single]
  | (patterns, _) => return .node .tuplePattern patterns

/-- A range with an open end must stand in parentheses inside a slice. -/
def slicePattern : Parser Tree := do
  let patterns ← brackets (commaSeparated (alternatives g))
  guard (patterns.all fun p => !isOpenRange p)
  return .node .slicePattern patterns
where
  isOpenRange : Tree → Bool
    | .node .rangePattern [start, _, stop] => start.isAbsent || stop.isAbsent
    | _ => false

/-- At a path rather than a lone name. -/
def atPathPattern (ts : Tokens) : Bool :=
  (ts.atName && (ts.skip.atOperator "::" || ts.skip.atOperator "!" || ts.skip.atBraces ||
      ts.skip.atParens || ts.skip.atOperator "..")) ||
    (ts.atWord "self" && ts.skip.atOperator "::") || ts.atOperator "::" || ts.atOperator "<" ||
    ts.atOneOf ["Self", "super", "crate"]

/-- A pattern without alternatives. -/
def pattern : Parser Tree := do
  if ← at? atPathPattern then pathOrStruct g
  else if ← keyword? "_" then return .node .wildcardPattern []
  else if ← keyword? "box" then
    let _ ← g.pattern
    return .tokens []
  else if ← at? fun ts => ts.atOperator "-" || ts.atLiteral || ts.atWord "const" then
    literalOrRange g
  else if ← at? fun ts => ts.atOneOf ["ref", "mut", "self"] || ts.atName then bindingPattern g
  else if ← operator? "&" then
    let mutable ← keywordTree "mut"
    return .node .referencePattern [mutable, ← g.pattern]
  else if ← at? Tokens.atParens then tupleOrParenthesized g
  else if ← at? Tokens.atBrackets then slicePattern g
  else if ← at? fun ts => ts.atOperator ".." && !ts.atOperator "..." then openRange g
  else fail

end Scaffold.Rust.Parser
