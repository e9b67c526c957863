import Scaffold.Rust.Parser.Classify
import Scaffold.Rust.Parser.Operator
import Scaffold.Rust.Parser.Pattern

/-! Expressions. -/

namespace Scaffold.Rust.Parser

variable (g : Grammar)

def noAttributes : Tree := .list []

/-! ### Operands -/

/-- Whether an expression may begin here. -/
def atExpression (ts : Tokens) : Bool :=
  (ts.atAnyWord && !ts.atWord "as") || ts.atParens || ts.atBrackets || ts.atBraces ||
    ts.atLiteral || (ts.atOperator "!" && !ts.atOperator "!=") ||
    (ts.atOperator "-" && !ts.atOperator "-=" && !ts.atOperator "->") ||
    (ts.atOperator "*" && !ts.atOperator "*=") || (ts.atOperator "|" && !ts.atOperator "|=") ||
    (ts.atOperator "&" && !ts.atOperator "&=") || ts.atOperator ".." ||
    (ts.atOperator "<" && !ts.atOperator "<=" && !ts.atOperator "<<=") || ts.atOperator "::" ||
    ts.atLifetime || ts.atOperator "#"

/-- A label before a loop or a block, as written. -/
def label? : Parser Tree := do
  if ← at? Tokens.atLifetime then
    let name ← lifetime
    operator ":"
    return .word name.text
  else return .word ""

def blockExpression (label : Tree) : Parser Tree := do
  let (attributes, block) ← attributedBlock g
  return .node .blockExpr [.list attributes, label, block]

def loopExpression (label : Tree) : Parser Tree := do
  keyword "loop"
  let (attributes, block) ← attributedBlock g
  return .node .loopExpr [.list attributes, label, block]

def whileExpression (label : Tree) : Parser Tree := do
  keyword "while"
  let condition ← g.expression false
  let (attributes, block) ← attributedBlock g
  return .node .whileExpr [.list attributes, label, condition, block]

def forExpression (label : Tree) : Parser Tree := do
  keyword "for"
  let pattern ← alternatives g
  keyword "in"
  let source ← g.expression false
  let (attributes, block) ← attributedBlock g
  return .node .forExpr [.list attributes, label, pattern, source, block]

def labeledExpression : Parser Tree := do
  let label ← label?
  if ← at? (·.atWord "while") then whileExpression g label
  else if ← at? (·.atWord "for") then forExpression g label
  else if ← at? (·.atWord "loop") then loopExpression g label
  else blockExpression g label

def ifExpression : Parser Tree := fun tokens => go (tokens.length + 1) tokens
where
  go : Nat → Parser Tree
    | 0 => fail
    | fuel + 1 => do
      keyword "if"
      let condition ← g.expression false
      let block ← g.block
      let otherwise ←
        if ← keyword? "else" then
          if ← at? (·.atWord "if") then go fuel
          else return .node .ifExpr [noAttributes, condition, block,
            .node .blockExpr [noAttributes, .word "", ← g.block]]
        else pure .absent
      return .node .ifExpr [noAttributes, condition, block, otherwise]

def matchArm : Parser Tree := do
  let attributes ← outerAttributes g
  let pattern ← alternatives g
  let guard_ ← if ← keyword? "if" then g.expression true else pure .absent
  operator "=>"
  let body ← g.statementExpression
  if ← at? fun ts => !body.endsWithBlock && !ts.isEmpty then operator ","
  else let _ ← operator? ","
  return .node .matchArm [.list attributes, pattern, guard_, body]

def matchExpression : Parser Tree := do
  keyword "match"
  let subject ← g.expression false
  let (attributes, arms) ← braces do
    let attributes ← innerAttributes g
    return (attributes, ← untilEnd (matchArm g))
  return .node .matchExpr [.list attributes, subject, .list arms]

/-- A block after a keyword, such as `unsafe`. -/
def keywordBlock (word : String) (kind : Kind) : Parser Tree := do
  keyword word
  let (attributes, block) ← attributedBlock g
  return .node kind [.list attributes, block]

def asyncExpression : Parser Tree := do
  keyword "async"
  let capture ← keywordTree "move"
  return .node .asyncExpr [noAttributes, capture, ← g.block]

def tryBlock : Parser Tree := do
  keyword "try"
  return .node .tryBlockExpr [noAttributes, ← g.block]

def closureParameter : Parser Tree := do
  let attributes ← outerAttributes g
  let pattern ← g.pattern
  if ← operator? ":" then return .node .typedPattern [.list attributes, pattern, ← g.type true]
  else return .node .typedPattern [.list attributes, pattern, .absent]

def closure (struct : Bool) : Parser Tree := do
  let lifetimes ← boundLifetimes g
  let constness ← keywordTree "const"
  let movability ← keywordTree "static"
  let asyncness ← keywordTree "async"
  let capture ← keywordTree "move"
  operator "|"
  let parameters ← separated (·.atOperator "|") (operator ",") (closureParameter g)
  operator "|"
  let (output, body) ←
    if ← operator? "->" then
      let output ← g.type true
      pure (output, Tree.node .blockExpr [noAttributes, .word "", ← g.block])
    else pure (Tree.absent, ← g.expression struct)
  return .node .closureExpr
    [noAttributes, lifetimes, constness, movability, asyncness, capture, .list parameters, output,
      body]

def fieldValue : Parser Tree := do
  let attributes ← outerAttributes g
  let (field, named) ← member
  if ← at? fun ts => ts.atOperator ":" || !named then
    operator ":"
    return .node .fieldValue [.list attributes, .word field, ← g.expression true]
  else return .node .fieldValue [.list attributes, .word field, .absent]

/-- The fields of a struct literal, whether a rest follows, and the value of the rest. -/
def fieldValues : Parser (List Tree × Bool × Tree) := fun tokens => go (tokens.length + 1) tokens
where
  go : Nat → Parser (List Tree × Bool × Tree)
    | 0 => fail
    | fuel + 1 => do
      if ← atEnd then return ([], false, .absent)
      if ← operator? ".." then
        if ← atEnd then return ([], true, .absent) else return ([], true, ← g.expression true)
      let field ← fieldValue g
      if ← atEnd then return ([field], false, .absent)
      operator ","
      let (rest, base) ← go fuel
      return (field :: rest, base)

def pathExpression (struct : Bool) : Parser Tree := do
  let path ← qualifiedPath g true
  if ← at? fun ts => isUnqualified path && ts.atOperator "!" && !ts.atOperator "!=" &&
      isPlainPath path then
    return .node .invocationExpr [noAttributes, ← invocation path]
  else if ← at? fun ts => struct && ts.atBraces then
    let (fields, open_, base) ← braces (fieldValues g)
    return .node .structExpr [noAttributes, path, .list fields, Tree.flag ".." open_, base]
  else return .node .pathExpr [noAttributes, path]

def tupleOrParentheses : Parser Tree := do
  match ← parens (elements (g.expression true)) with
  | ([single], false) => return .node .parenthesizedExpr [noAttributes, single]
  | (values, _) => return .node .tupleExpr [noAttributes, .list values]

def arrayOrRepeat : Parser Tree := brackets do
  if ← atEnd then return .node .arrayExpr [noAttributes, .list []]
  let first ← g.expression true
  if ← operator? ";" then return .node .repeatExpr [noAttributes, first, ← g.expression true]
  else if ← atEnd then return .node .arrayExpr [noAttributes, .list [first]]
  else
    operator ","
    let rest ← commaSeparated (g.expression true)
    return .node .arrayExpr [noAttributes, .list (first :: rest)]

def letExpression (struct : Bool) : Parser Tree := do
  keyword "let"
  let pattern ← alternatives g
  operator "="
  let left ← g.operand struct
  return .node .letExpr [noAttributes, pattern, ← g.climb struct .comparison left]

def breakExpression (struct : Bool) : Parser Tree := do
  keyword "break"
  guard !(← at? fun ts => ts.atLifetime && ts.skip.atOperator ":")
  let label ← lifetime?
  let value ← if ← at? fun ts => atExpression ts && (struct || !ts.atBraces) then g.expression true
    else pure .absent
  return .node .breakExpr [noAttributes, .word label.text, value]

def continueExpression : Parser Tree := do
  keyword "continue"
  let label ← lifetime?
  return .node .continueExpr [noAttributes, .word label.text]

def returnExpression : Parser Tree := do
  keyword "return"
  let value ← if ← at? atExpression then g.expression true else pure .absent
  return .node .returnExpr [noAttributes, value]

def yieldExpression : Parser Tree := do
  keyword "yield"
  let ends ← at? fun ts => ts.isEmpty || ts.atOperator "," || ts.atOperator ";"
  return .node .yieldExpr [noAttributes, ← if ends then pure .absent else g.expression true]

/-- A call of something built into the compiler, kept as tokens. -/
def builtin : Parser Tree := do
  keyword "builtin"
  operator "#"
  let _ ← name
  anyGroupOf .parenthesis
  return .tokens []

/-- Whether a closure begins here. -/
def atClosure (ts : Tokens) : Bool :=
  ts.atOperator "|" || ts.atWord "move" ||
    (ts.atWord "for" && opensParameters ts.skip) ||
    (ts.atWord "const" && !ts.skip.atBraces) || ts.atWord "static" ||
    (ts.atWord "async" && (ts.skip.atOperator "|" || ts.skip.atWord "move"))

def atAsyncBlock (ts : Tokens) : Bool :=
  ts.atWord "async" && (ts.skip.atBraces || (ts.skip.atWord "move" && ts.skip2.atBraces))

/-- An expression without operators around it. -/
def atom (struct : Bool) : Parser Tree := do
  if ← at? Tokens.atLiteral then return .node .literalExpr [noAttributes, ← literal]
  else if ← at? atAsyncBlock then asyncExpression g
  else if ← at? fun ts => ts.atWord "try" && ts.skip.atBraces then tryBlock g
  else if ← at? atClosure then closure g struct
  else if ← at? fun ts => ts.atWord "builtin" && ts.skip.atOperator "#" then builtin
  else if ← at? fun ts => atPathWord ts || ts.atOperator "::" || ts.atOperator "<" ||
      (ts.atWord "try" && (ts.skip.atOperator "!" || ts.skip.atOperator "::")) then
    pathExpression g struct
  else if ← at? Tokens.atParens then tupleOrParentheses g
  else if ← at? (·.atWord "break") then breakExpression g struct
  else if ← at? (·.atWord "continue") then continueExpression
  else if ← at? (·.atWord "return") then returnExpression g
  else if ← keyword? "become" then
    let _ ← g.expression true
    return .tokens []
  else if ← at? Tokens.atBrackets then arrayOrRepeat g
  else if ← at? (·.atWord "let") then letExpression g struct
  else if ← at? (·.atWord "if") then ifExpression g
  else if ← at? (·.atWord "while") then whileExpression g (.word "")
  else if ← at? (·.atWord "for") then forExpression g (.word "")
  else if ← at? (·.atWord "loop") then loopExpression g (.word "")
  else if ← at? (·.atWord "match") then matchExpression g
  else if ← at? (·.atWord "yield") then yieldExpression g
  else if ← at? (·.atWord "unsafe") then keywordBlock g "unsafe" .unsafeExpr
  else if ← at? (·.atWord "const") then keywordBlock g "const" .constExpr
  else if ← at? Tokens.atBraces then blockExpression g (.word "")
  else if ← at? (·.atOperator "..") then rangeFrom g struct .absent
  else if ← keyword? "_" then return .node .inferExpr [noAttributes]
  else if ← at? Tokens.atLifetime then labeledExpression g
  else fail

/-! ### Calls, fields and other endings -/

/-- The positions that a fraction names after a point, such as `0.1` for two nested tuples, and
whether it ends with a point of its own. -/
def nestedPositions (literal : String) : Option (List String × Bool) :=
  let parts := (splitPoints literal.toList).map fun part => (Literal.index? part).map toString
  match parts.reverse with
  | [] => none
  | last :: before =>
    if literal.toList.getLast? == some '.' then (before.reverse.mapM id).map (·, true)
    else ((last :: before).reverse.mapM id).map (·, false)
where
  splitPoints : List Char → List (List Char)
    | [] => [[]]
    | '.' :: rest => [] :: splitPoints rest
    | c :: rest =>
      match splitPoints rest with
      | part :: more => (c :: part) :: more
      | [] => [[c]]

def fieldOf (base : Tree) (field : String) : Tree :=
  .node .fieldExpr [noAttributes, base, .word field]

/-- A field, a call of a method or an `await` after a point. -/
def afterPoint (base : Tree) : Parser Tree := do
  if ← keyword? "await" then return .node .awaitExpr [noAttributes, base]
  let (field, named) ← member
  let turbofish ← if ← at? fun ts => named && ts.atOperator "::" then
      operator "::"
      guard (← at? (·.atOperator "<"))
      let arguments ← angleArguments g
      pure (Tree.node .angleArguments (.word "::" :: arguments.children.drop 1))
    else pure .absent
  if ← at? fun ts => !turbofish.isAbsent || (named && ts.atParens) then
    let arguments ← parens (commaSeparated (g.expression true))
    return .node .methodCallExpr [noAttributes, base, .word field, turbofish, .list arguments]
  else return fieldOf base field

def atFraction : Tokens → Bool
  | .literal text :: _ => Literal.isFraction text
  | _ => false

/-- One ending after an operand, or `none`. -/
def ending (base : Tree) : Parser (Option Tree) := do
  if ← at? Tokens.atParens then
    let arguments ← parens (commaSeparated (g.expression true))
    return some (.node .callExpr [noAttributes, base, .list arguments])
  else if ← at? fun ts => ts.atOperator "." && !ts.atOperator ".." && !base.is .rangeExpr then
    operator "."
    if ← at? atFraction then
      let fraction ← literal
      match nestedPositions fraction.text with
      | none => fail
      | some (positions, pointed) =>
        let inner := positions.foldl fieldOf base
        if pointed then some <$> afterPoint g inner else return some inner
    else some <$> afterPoint g base
  else if ← at? Tokens.atBrackets then
    return some (.node .indexExpr [noAttributes, base, ← brackets (g.expression true)])
  else if ← at? fun ts => ts.atOperator "?" && !base.is .rangeExpr then
    operator "?"
    return some (.node .tryExpr [noAttributes, base])
  else return none

def endings (base : Tree) : Parser Tree := fun tokens => go (tokens.length + 1) base tokens
where
  go : Nat → Tree → Parser Tree
    | 0, _ => fail
    | fuel + 1, base => do
      match ← ending g base with
      | none => return base
      | some more => go fuel more

/-- An operand: prefix operators, an atom and its endings. -/
def operand (struct : Bool) : Parser Tree := do
  let attributes ← outerAttributes g
  if ← operator? "&" then
    let raw ← at? fun ts => ts.atWord "raw" && ts.skip.atOneOf ["mut", "const"]
    if raw then
      keyword "raw"
      let access ← anyWord
      let value ← g.operand struct
      return .node .rawAddressExpr [.list attributes, .word access, value]
    else
      let mutable ← keywordTree "mut"
      return .node .referenceExpr [.list attributes, mutable, ← g.operand struct]
  else if ← at? fun ts => ts.atOperator "*" || ts.atOperator "!" || ts.atOperator "-" then
    let sign ← unarySign
    return .node .unaryExpr [.list attributes, .word sign, ← g.operand struct]
  else
    let tree ← endings g =<< atom g struct
    guard (attributes.isEmpty || !tree.is .rangeExpr)
    return tree.addAttributes attributes
where
  unarySign : Parser String := do
    if ← operator? "*" then return "*"
    else if ← operator? "!" then return "!"
    else
      operator "-"
      return "-"

def expression (struct : Bool) : Parser Tree := do
  let left ← g.operand struct
  g.climb struct .lowest left

/-- An expression as a statement or the body of an arm: one that ends with its block goes on only
with a point or a question mark. -/
def statementExpression : Parser Tree := do
  let attributes ← outerAttributes g
  let first ←
    if ← at? (·.atWord "if") then ifExpression g
    else if ← at? (·.atWord "while") then whileExpression g (.word "")
    else if ← at? fun ts => ts.atWord "for" && !opensParameters ts.skip then
      forExpression g (.word "")
    else if ← at? (·.atWord "loop") then loopExpression g (.word "")
    else if ← at? (·.atWord "match") then matchExpression g
    else if ← at? fun ts => ts.atWord "try" && ts.skip.atBraces then tryBlock g
    else if ← at? (·.atWord "unsafe") then keywordBlock g "unsafe" .unsafeExpr
    else if ← at? fun ts => ts.atWord "const" && ts.skip.atBraces then
      keywordBlock g "const" .constExpr
    else if ← at? Tokens.atBraces then blockExpression g (.word "")
    else if ← at? Tokens.atLifetime then labeledExpression g
    else g.operand true
  if !first.endsWithBlock then g.climb true .lowest (first.addAttributes attributes)
  else if ← at? fun ts => (ts.atOperator "." && !ts.atOperator "..") || ts.atOperator "?" then
    let longer ← endings g first
    g.climb true .lowest (longer.addAttributes attributes)
  else return first.addAttributes attributes

end Scaffold.Rust.Parser
