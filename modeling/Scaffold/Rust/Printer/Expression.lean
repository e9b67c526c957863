import Scaffold.Rust.Printer.Pattern
import Scaffold.Rust.Printer.Shape

/-! Expressions. -/

namespace Scaffold.Rust.Printing

open Text.Layout Draft

variable (p : Printer)

/-! ### Blocks -/

def statements (trees : List Tree) : Draft Unit := each p.statement trees

/-- A block on lines of its own. -/
def longBlock (attributes : Tree) (body : Tree) : Draft Unit := do
  word "\x7b"
  stay
  block indent do
    lineUnlessLast
    innerAttributes p attributes
    statements p body.children
    shift (-indent)
  word "\x7d"

/-- A block that stays on the line if it is a single short expression. -/
def shortBlock (attributes : Tree) (body : Tree) : Draft Unit := do
  word "\x7b"
  if hasInner attributes || !body.children.isEmpty then
    space
    innerAttributes p attributes
    match body.children with
    | [.node .expressionStatement [value, .word ""]] =>
      fill 0 (p.leading value)
      space
    | several => statements p several
    shift (-indent)
  word "\x7d"

/-- An expression in braces. -/
def braced (offset : Int) (value : Tree) : Draft Unit := do
  word "\x7b"
  space
  fill offset (p.leading value)
  space
  shift (-indent)
  word "\x7d"

def label (tree : Tree) : Draft Unit := do
  if !tree.text.isEmpty then word (tree.text ++ ": ")

/-- What stands before the block of an `if`, a loop or a `match`. -/
def subject (value : Tree) : Draft Unit :=
  block 0 do
    p.expression value
    if breaksAfter value then space else word " "

/-! ### Calls -/

def arguments (trees : Tree) : Draft Unit := do
  match trees.children with
  | [single] =>
    if isBlockLike single then
      word "("
      p.expression single
      word ")"
    else listed "(" ")" indent p.expression [single]
  | several => listed "(" ")" indent p.expression several

/-- A place to break before a point, unless the line has only just started. -/
def pointGap (leading : Bool) (base : Tree) : Draft Unit := do
  if !(leading && isShortName base) then zero

/-- A chain of fields, calls and so on, of which each link may go onto a line of its own. -/
def chain (leading unindented : Bool) : Tree → Draft Unit
  | .node .awaitExpr [_, base] => do
    p.receiver leading base
    pointGap leading base
    word ".await"
  | .node .fieldExpr [_, base, field] => do
    p.receiver leading base
    pointGap leading base
    word ("." ++ field.text)
  | .node .methodCallExpr [_, base, method, turbofish, values] => do
    p.receiver leading base
    pointGap leading base
    word ("." ++ method.text)
    angleArguments p true turbofish
    block (if unindented then -indent else 0) (arguments p values)
  | .node .callExpr [_, function, values] => do
    p.receiver false function
    arguments p values
  | .node .indexExpr [_, base, index] => do
    p.receiver leading base
    word "["
    p.expression index
    word "]"
  | .node .tryExpr [_, base] => do
    p.receiver leading base
    word "?"
  | tree => block (-indent) (p.expression tree)

/-- The base of an expression, at the start of a line or not. -/
def base (leading : Bool) (tree : Tree) : Draft Unit :=
  if leading then p.leading tree else p.expression tree

/-- A field, a call and so on, which may start a line. -/
def linked (leading : Bool) (tree : Tree) : Draft Unit := do
  outerAttributes p (attributesOf tree)
  match tree with
  | .node .callExpr [_, function, values] =>
    base p leading function
    arguments p values
  | .node .indexExpr [_, target, index] =>
    base p leading target
    word "["
    p.expression index
    word "]"
  | .node .tryExpr [_, value] =>
    base p leading value
    word "?"
  | .node .methodCallExpr (attributes :: target :: rest) =>
    block indent (chain p leading (leading && isShortName target)
      (.node .methodCallExpr (attributes :: target :: rest)))
  | tree => block indent (chain p leading false tree)

/-- An expression at the start of a line. -/
def leading (tree : Tree) : Draft Unit :=
  match tree.kind? with
  | some .awaitExpr | some .fieldExpr | some .indexExpr | some .methodCallExpr | some .tryExpr =>
    linked p true tree
  | _ => p.expression tree

/-! ### Conditions, loops and matches -/

def ifBody (body : Tree) : Draft Unit := do
  if body.children.isEmpty then word "\x7b\x7d"
  else
    word "\x7b"
    line
    statements p body.children
    shift (-indent)
    word "\x7d"

/-- A condition with the blocks of all its alternatives. -/
def alternatives (isFirst : Bool) : Tree → Draft Unit
  | .node .ifExpr [_, condition, body, otherwise] => do
    word "if "
    block (-indent) (subject p condition)
    if isFirst && otherwise.isAbsent then ifBody p body
    else
      shortBlock p .absent body
      if !otherwise.isAbsent then
        word " else "
        alternatives false otherwise
  | .node .blockExpr [_, _, body] => shortBlock p .absent body
  | tree => braced p indent tree

/-- The body of an arm without needless braces. -/
def withoutBraces : Tree → Tree
  | .node .blockExpr [.node .list [], .word "", .node .block [.node .expressionStatement [value, .word ""]]] =>
    withoutBraces value
  | tree => tree

/-- An empty tuple stands for an empty block. -/
def armBody (tree : Tree) : Tree :=
  match withoutBraces tree with
  | .node .tupleExpr [.node .list [], .node .list []] =>
    .node .blockExpr [.list [], .word "", .node .block []]
  | body => body

/-- A body that goes into braces if it does not fit on the line, or into parentheses where braces
would change what it means. -/
def wrapped (write : Tree → Draft Unit) (body : Tree) (afterBrace afterParenthesis onLine : String) :
    Draft Unit :=
  block indent do
    gap { Gap.spaces 0 with before := if isStatement body then "\x7b" else "(" }
    write body
    gap { Gap.spaces 0 with
      offset := -indent
      before := if isStatement body && takesSemicolon body then ";" else ""
      after := if isStatement body then afterBrace else afterParenthesis
      otherwise := onLine }

def matchArm : Tree → Draft Unit
  | .node .matchArm [attributes, pattern, condition, body] => do
    outerAttributes p attributes
    fill 0 do
      p.pattern pattern
      if !condition.isAbsent then
        word " if "
        p.expression condition
      word " => "
      match armBody body with
      | .node .blockExpr [attributes, name, inner] =>
        label name
        longBlock p attributes inner
      | body =>
        stay
        wrapped p.leading body "\x7d" ")," (if body.endsWithBlock then "" else ",")
  | _ => pure ()

def matchExpression (attributes value : Tree) (arms : List Tree) : Draft Unit :=
  fill 0 do
    word "match "
    subject p value
    word "\x7b"
    stay
    block indent do
      lineUnlessLast
      innerAttributes p attributes
      arms.forM fun arm => do
        matchArm p arm
        line
      shift (-indent)
    word "\x7d"

/-! ### Closures -/

/-- Whether the body of a closure may follow on the line in any case. -/
def mayFollow (body : Tree) : Bool :=
  match body.kind? with
  | some .matchExpr | some .callExpr => !hasOuter (attributesOf body)
  | _ => isBlockLike body

def closureParameters (trees : List Tree) : Draft Unit := do
  word "|"
  if !trees.isEmpty then zero
  between (do
    word ","
    space) p.pattern trees

def isPlainBlock : Tree → Bool
  | .node .blockExpr [.node .list [], .word "", _] => true
  | _ => false

def closure (lifetimes : Tree) (modifiers : List Tree) (parameters output body : Tree) : Draft Unit :=
  fill 0 do
    boundLifetimes p lifetimes
    modifiers.forM modifier
    put (.opening .all indent)
    closureParameters p parameters.children
    if output.isAbsent then
      word "|"
      space
      shift (-indent)
      close
      stay
      if mayFollow body then p.expression body
      else wrapped p.expression body "\x7d" ")" ""
    else
      if !parameters.children.isEmpty then
        comma true
        shift (-indent)
      word "|"
      close
      word " -> "
      p.type output
      word " "
      stay
      if isPlainBlock body then p.expression body else block indent (braced p 0 body)

/-! ### Arrays and structs -/

def array (elements : List Tree) : Draft Unit := do
  if elements.isEmpty then word "[]"
  else if elements.all isPlainLiteral then
    block indent do
      word "["
      zero
      fill 0 (between (do
        word ","
        space) p.expression elements)
      comma true
      shift (-indent)
      word "]"
  else listed "[" "]" indent p.expression elements

def fieldValue (field : Tree) : Draft Unit := do
  outerAttributes p (field.child 0)
  text (field.child 1)
  let value := field.child 2
  if !value.isAbsent then
    word ": "
    fill 0 (p.expression value)

def structLiteral (name fields rest value : Tree) : Draft Unit := do
  block indent do
    fill (-indent) (path p true name)
    word " \x7b"
    spaceUnlessLast
    each (fun isLast field => do
      fieldValue p field
      commaOrSpace (isLast && rest.text.isEmpty)) fields.children
    if !rest.text.isEmpty then
      word ".."
      if !value.isAbsent then p.expression value
      space
    shift (-indent)
  word "\x7d"

/-- A value after a keyword, if there is one. -/
def keywordWith (keyword : String) (value : Tree) : Draft Unit := do
  word keyword
  if !value.isAbsent then
    word " "
    p.expression value

def keywordBlock (keyword : String) (attributes body : Tree) : Draft Unit := do
  word keyword
  block indent (shortBlock p attributes body)

/-- A binary operator at the start of a line, if the line has to be broken. -/
def operation (left : Tree) (operator : String) (right : Draft Unit) : Draft Unit :=
  fill indent do
    fill (-indent) (p.expression left)
    space
    word (operator ++ " ")
    right

/-- An expression after its attributes. -/
def bareExpression : Tree → Draft Unit
  | .node .arrayExpr [_, elements] => array p elements.children
  | .node .assignExpr [_, left, right] => fill 0 do
    p.expression left
    word " = "
    stay
    p.expression right
  | .node .asyncExpr [attributes, capture, body] =>
    keywordBlock p ("async " ++ if capture.text.isEmpty then "" else "move ") attributes body
  | .node .binaryExpr [_, left, operator, right] => operation p left operator.text (p.expression right)
  | .node .blockExpr [attributes, name, body] => do
    label name
    block indent (shortBlock p attributes body)
  | .node .breakExpr [_, name, value] =>
    keywordWith p ("break" ++ if name.text.isEmpty then "" else " " ++ name.text) value
  | .node .castExpr [_, value, type] => operation p value "as" (p.type type)
  | .node .closureExpr [_, lifetimes, constness, movability, asyncness, capture, parameters, output,
      body] => closure p lifetimes [constness, movability, asyncness, capture] parameters output body
  | .node .constExpr [attributes, body] => keywordBlock p "const " attributes body
  | .node .continueExpr [_, name] =>
    word ("continue" ++ if name.text.isEmpty then "" else " " ++ name.text)
  | .node .forExpr [attributes, name, pattern, source, body] => fill 0 do
    label name
    word "for "
    p.pattern pattern
    word " in "
    stay
    subject p source
    longBlock p attributes body
  | .node .ifExpr parts => block indent (alternatives p true (.node .ifExpr parts))
  | .node .inferExpr _ => word "_"
  | .node .letExpr [_, pattern, value] => fill 0 do
    word "let "
    fill 0 (p.pattern pattern)
    word " = "
    stay
    p.expression value
  | .node .literalExpr [_, value] => text value
  | .node .loopExpr [attributes, name, body] => do
    label name
    word "loop \x7b"
    block indent do
      lineUnlessLast
      innerAttributes p attributes
      statements p body.children
      shift (-indent)
    word "\x7d"
  | .node .invocationExpr [_, call] => invocation call "" false
  | .node .matchExpr [attributes, value, arms] => matchExpression p attributes value arms.children
  | .node .parenthesizedExpr [_, value] => do
    word "("
    p.expression value
    word ")"
  | .node .pathExpr [_, tree] => path p true tree
  | .node .rangeExpr [_, start, limit, stop] => rangePattern p start limit stop
  | .node .rawAddressExpr [_, access, value] => do
    word ("&raw " ++ access.text ++ " ")
    p.expression value
  | .node .referenceExpr [_, mutability, value] => do
    word "&"
    modifier mutability
    p.expression value
  | .node .repeatExpr [_, value, count] => do
    word "["
    p.expression value
    word "; "
    p.expression count
    word "]"
  | .node .returnExpr [_, value] => keywordWith p "return" value
  | .node .structExpr [_, name, fields, rest, value] => structLiteral p name fields rest value
  | .node .tryBlockExpr [attributes, body] => keywordBlock p "try " attributes body
  | .node .tupleExpr [_, elements] => tuple true p.expression elements.children
  | .node .unaryExpr [_, sign, value] => do
    text sign
    p.expression value
  | .node .unsafeExpr [attributes, body] => keywordBlock p "unsafe " attributes body
  | .node .whileExpr [attributes, name, condition, body] => do
    label name
    word "while "
    subject p condition
    longBlock p attributes body
  | .node .yieldExpr [_, value] => keywordWith p "yield" value
  | .tokens _ => stop
  | _ => pure ()

def expression (tree : Tree) : Draft Unit :=
  match tree.kind? with
  | some .awaitExpr | some .callExpr | some .fieldExpr | some .indexExpr | some .methodCallExpr
  | some .tryExpr => linked p false tree
  | _ => do
    outerAttributes p (attributesOf tree)
    bareExpression p tree

/-! ### Statements -/

/-- What is done where the pattern of a `let` does not match. -/
def otherwiseBlock (otherwise : Tree) : Draft Unit := do
  space
  word "else "
  close
  stay
  put (.opening .all indent)
  shortBlock p .absent otherwise

def statement (isLast : Bool) : Tree → Draft Unit
  | .node .localStatement [attributes, pattern, value, otherwise] => do
    outerAttributes p attributes
    put (.opening .asNeeded 0)
    word "let "
    p.pattern pattern
    if !value.isAbsent then
      word " = "
      stay
      p.expression value
      if !otherwise.isAbsent then otherwiseBlock p otherwise
    close
    word ";"
    line
  | .node .itemStatement [item] => p.item item
  | .node .emptyStatement _ => pure ()
  | .node .expressionStatement [value, semicolon] => do
    fill 0 do
      leading p value
      if semicolon.text.isEmpty then
        if takesSemicolon value then word ";"
      else if !dropsSemicolon value then word ";"
    line
  | .node .invocationStatement [attributes, call, semicolon] => do
    outerAttributes p attributes
    invocation call "" (!semicolon.text.isEmpty || (!isLast && needsSemicolon call))
    line
  | _ => pure ()

end Scaffold.Rust.Printing
