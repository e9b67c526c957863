import Scaffold.Rust.Parser.Expression

/-! Statements and the blocks made of them. -/

namespace Scaffold.Rust.Parser

variable (g : Grammar)

/-- Whether an item rather than an expression begins here. -/
def atItem (ts : Tokens) : Bool :=
  let next := ts.skip
  let third := ts.skip2
  ts.atWord "pub" || (ts.atWord "crate" && !next.atOperator "::") || ts.atWord "extern" ||
    ts.atWord "use" || (ts.atWord "static" && (next.atWord "mut" || next.atName)) ||
    (ts.atWord "const" && !(next.atBraces || next.atWord "static" ||
      (next.atWord "async" && !third.atOneOf ["unsafe", "extern", "fn"]) ||
      next.atWord "move" || next.atOperator "|")) ||
    (ts.atWord "unsafe" && !next.atBraces) ||
    (ts.atWord "async" && next.atOneOf ["unsafe", "extern", "fn"]) ||
    ts.atOneOf ["fn", "mod", "type", "struct", "enum", "trait", "impl", "macro"] ||
    (ts.atWord "union" && next.atName) || (ts.atWord "auto" && next.atWord "trait") ||
    (ts.atWord "default" && next.atOneOf ["unsafe", "impl"])

/-- How a statement that begins with a plain path and an exclamation mark goes on. -/
inductive InvocationForm where
  | item
  | statement
  | expression

def invocationForm : Parser InvocationForm := fun tokens =>
  match plainPath tokens with
  | some (_, rest) =>
    if rest.atOperator "!" then
      let second := rest.skip
      let third := second.skip
      if second.atName || second.atWord "try" then some (.item, tokens)
      else if second.atBraces && !((third.atOperator "." && !third.atOperator "..") ||
          third.atOperator "?") then some (.statement, tokens)
      else some (.expression, tokens)
    else some (.expression, tokens)
  | none => some (.expression, tokens)

def localStatement (attributes : List Tree) : Parser Tree := do
  keyword "let"
  let pattern ← g.pattern
  let typed ← if ← operator? ":" then
      pure (Tree.node .typedPattern [noAttributes, pattern, ← g.type true])
    else pure pattern
  let (value, otherwise) ←
    if ← operator? "=" then
      let value ← g.expression true
      if ← at? fun ts => !value.endsWithBrace && ts.atWord "else" then
        keyword "else"
        pure (value, ← g.block)
      else pure (value, .absent)
    else pure (.absent, .absent)
  operator ";"
  return .node .localStatement [.list attributes, typed, value, otherwise]

def expressionStatement (attributes : List Tree) : Parser Tree := do
  let value ← g.statementExpression
  let value := value.addLeftmost attributes
  let semicolon ← operator? ";"
  match value with
  | .node .invocationExpr [attributes, call] =>
    if semicolon || call.isBraced then
      return .node .invocationStatement [attributes, call, Tree.flag ";" semicolon]
    else return .node .expressionStatement [value, .word ""]
  | _ => return .node .expressionStatement [value, Tree.flag ";" semicolon]

def statement : Parser Tree := do
  let attributes ← outerAttributes g
  match ← invocationForm with
  | .statement =>
    let path ← plainPath
    let call ← invocation path
    let semicolon ← operator? ";"
    return .node .invocationStatement [.list attributes, call, Tree.flag ";" semicolon]
  | .item => itemStatement attributes
  | .expression =>
    if ← at? (·.atWord "let") then localStatement g attributes
    else if ← at? atItem then itemStatement attributes
    else expressionStatement g attributes
where
  itemStatement (attributes : List Tree) : Parser Tree := do
    let item ← g.item
    return .node .itemStatement [item.addAttributes attributes]

/-- Whether a statement must be the last one for want of a semicolon. -/
def mustEnd : Tree → Bool
  | .node .expressionStatement [value, .word ""] => value.needsSemicolon
  | .node .invocationStatement [_, call, .word ""] => !call.isBraced
  | _ => false

/-- A semicolon that ends no statement. -/
def emptyStatement : Parser Tree := do
  operator ";"
  return .node .emptyStatement []

/-- The statements of a block. -/
def statements : Parser (List Tree) := fun tokens => go (tokens.length + 1) tokens
where
  go : Nat → Parser (List Tree)
    | 0 => fail
    | fuel + 1 => do
      if ← atEnd then return []
      let first ← if ← at? (·.atOperator ";") then emptyStatement else statement g
      if ← atEnd then return [first]
      guard !(mustEnd first)
      (first :: ·) <$> go fuel

end Scaffold.Rust.Parser
