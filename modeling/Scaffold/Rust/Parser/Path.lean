import Scaffold.Rust.Parser.Attribute

/-! Paths: their segments, the arguments of segments, and paths that begin with a type. -/

namespace Scaffold.Rust.Parser

/-- The arguments of a segment, if it has any. -/
def segmentArguments (segment : Tree) : Tree := segment.child 1

def isPlainPath (path : Tree) : Bool :=
  path.children.tail.all fun segment => (segmentArguments segment).isAbsent

variable (g : Grammar)

/-- A literal, a name or a block where a constant is expected among types. -/
def constArgument : Parser Tree := do
  if ← at? Tokens.atLiteral then
    return .node .literalExpr [.list [], ← literal]
  else if ← at? Tokens.atName then
    let segment := Tree.node .segment [.word (← anyWord), .absent]
    return .node .pathExpr [.list [], .node .path [.word "", segment]]
  else if ← at? Tokens.atBraces then
    let (attributes, block) ← attributedBlock g
    return .node .blockExpr [.list attributes, .word "", block]
  else fail

/-- One argument between angle brackets. -/
def angleArgument : Parser Tree := do
  if ← at? fun ts => ts.atLifetime && !ts.skip.atOperator "+" then lifetime
  else if ← at? fun ts => ts.atLiteral || ts.atBraces then
    return .node .constArgument [← constArgument g]
  else
    let argument ← g.type true
    match simpleSegment? argument with
    | none => return argument
    | some (name, arguments) =>
      if ← operator? "=" then
        if ← at? fun ts => ts.atLiteral || ts.atBraces then
          return .node .constBinding [.word name, arguments, ← constArgument g]
        else return .node .typeBinding [.word name, arguments, ← g.type true]
      else if ← operator? ":" then
        let bounds ← joined (fun ts => ts.atOperator "," || ts.atOperator ">") "+" (g.bound false true)
        return .node .constraint [.word name, arguments, .list bounds]
      else return argument
where
  /-- The name and the arguments of a type that is one segment without parentheses. -/
  simpleSegment? : Tree → Option (String × Tree)
    | .node .pathType [.node .path [.word "", .node .segment [.word name, arguments]]] =>
      if arguments.is .parenthesizedArguments then none else some (name, arguments)
    | _ => none

/-- Arguments between angle brackets, after an optional separator. -/
def angleArguments : Parser Tree := do
  let leading ← operator? "::"
  operator "<"
  let arguments ← separated (·.atOperator ">") (operator ",") (angleArgument g)
  operator ">"
  return .node .angleArguments [Tree.flag "::" leading, .list arguments]

/-- What follows an arrow; `plus` says whether the type may go on with bounds. -/
def returnType (plus : Bool) : Parser Tree := do
  if ← operator? "->" then g.type plus else return .absent

def parenthesizedArguments : Parser Tree := do
  let inputs ← parens (commaSeparated (g.type true))
  return .node .parenthesizedArguments [.list inputs, ← returnType g false]

/-- One segment; in an expression a lone angle bracket is an operator. -/
def segment (inExpression : Bool) : Parser Tree := do
  if ← at? (·.atOneOf ["super", "self", "crate", "try"]) then
    return .node .segment [.word (← anyWord), .absent]
  let word ← if ← at? (·.atWord "Self") then anyWord else name
  let bracketed ← at? fun ts =>
    (!inExpression && ts.atOperator "<" && !ts.atOperator "<=" && !ts.atOperator "<<=") ||
      (ts.atOperator "::" && ts.skip2.atOperator "<")
  if bracketed then return .node .segment [.word word, ← angleArguments g]
  else return .node .segment [.word word, .absent]

/-- The segments after the first; a separator before parentheses is left. -/
def furtherSegments (inExpression : Bool) : Parser (List Tree) :=
  whileAt (fun ts => ts.atOperator "::" && !ts.skip2.atParens) do
    operator "::"
    segment g inExpression

def path (inExpression : Bool) : Parser Tree := do
  let leading ← operator? "::"
  let first ← segment g inExpression
  let rest ← furtherSegments g inExpression
  return .node .path (Tree.flag "::" leading :: first :: rest)

/-- A path, or one that begins with a type between angle brackets. -/
def qualifiedPath (inExpression : Bool) : Parser Tree := do
  if ← operator? "<" then
    let self ← g.type true
    let trait ← if ← keyword? "as" then path g false else pure .absent
    operator ">"
    operator "::"
    let first ← segment g inExpression
    let rest ← whileAt (·.atOperator "::") do
      operator "::"
      segment g inExpression
    return .node .qualifiedPath (self :: trait :: first :: rest)
  else path g inExpression

/-- A segment without arguments, or with none between its brackets. -/
def lacksArguments : Tree → Bool
  | .node .angleArguments [_, .node .list []] => true
  | tree => tree.isAbsent

/-- A path as it stands in bounds: its last segment may take parenthesized arguments. -/
def withParentheses (tree : Tree) : Parser Tree := do
  match tree.children.getLast? with
  | some (.node .segment [word, arguments]) =>
    if ← at? fun ts => lacksArguments arguments &&
        (ts.atParens || (ts.atOperator "::" && ts.skip2.atParens)) then
      let _ ← operator? "::"
      let arguments ← parenthesizedArguments g
      let last := Tree.node .segment [word, arguments]
      return .node (tree.kind?.getD .path) (tree.children.dropLast ++ [last])
    else return tree
  | _ => return tree

end Scaffold.Rust.Parser
