import Scaffold.Rust.Parser.Classify
import Scaffold.Rust.Parser.Operator
import Scaffold.Rust.Printer.Attribute

/-! Properties of expressions that decide how they are laid out. -/

namespace Scaffold.Rust.Printing

/-- The attributes of an expression. -/
def attributesOf (tree : Tree) : Tree := tree.child 0

/-- Expressions that end at a delimiter of their own, so that they may follow an opening one at once. -/
def isBlockLike (tree : Tree) : Bool :=
  match tree.kind? with
  | some .arrayExpr | some .asyncExpr | some .blockExpr | some .closureExpr | some .constExpr
  | some .structExpr | some .tryBlockExpr | some .tupleExpr | some .unsafeExpr =>
    !hasOuter (attributesOf tree)
  | _ => false

/-- A name that is no longer than an indentation, after which a line is not broken. -/
def isShortName : Tree → Bool
  | .node .pathExpr [.node .list [], .node .path [leading, segment]] =>
    leading.text.isEmpty && (segment.child 1).isAbsent &&
      ((segment.child 0).text.utf8ByteSize : Int) ≤ indent
  | _ => false

/-- Whether what follows goes onto a new line when an expression has to be broken. -/
def breaksAfter : Tree → Bool
  | .node .assignExpr _ => true
  | .node .awaitExpr _ => true
  | .node .binaryExpr _ => true
  | .node .castExpr _ => true
  | .node .fieldExpr _ => true
  | .node .indexExpr _ => true
  | .node .methodCallExpr _ => true
  | .node .breakExpr [_, _, value] => breaksAfter value
  | .node .callExpr [_, function, _] => breaksAfter function
  | .node .letExpr [_, _, value] => breaksAfter value
  | .node .parenthesizedExpr [_, value] => breaksAfter value
  | .node .rangeExpr [_, _, _, stop] => breaksAfter stop
  | .node .rawAddressExpr [_, _, value] => breaksAfter value
  | .node .referenceExpr [_, _, value] => breaksAfter value
  | .node .returnExpr [_, value] => breaksAfter value
  | .node .tryExpr [_, value] => breaksAfter value
  | .node .unaryExpr [_, _, value] => breaksAfter value
  | .node .yieldExpr [_, value] => breaksAfter value
  | _ => false

/-- Whether an expression can stand as a statement: what it begins with must not end as one. -/
def isStatement : Tree → Bool
  | .node .assignExpr [_, left, _] => !left.endsWithBlock && isStatement left
  | .node .awaitExpr [_, base] => !base.endsWithBlock && isStatement base
  | .node .binaryExpr [_, left, _, _] => !left.endsWithBlock && isStatement left
  | .node .callExpr [_, function, _] => !function.endsWithBlock && isStatement function
  | .node .castExpr [_, value, _] => !value.endsWithBlock && isStatement value
  | .node .fieldExpr [_, base, _] => !base.endsWithBlock && isStatement base
  | .node .indexExpr [_, base, _] => !base.endsWithBlock && isStatement base
  | .node .methodCallExpr [_, base, _, _, _] => !base.endsWithBlock && isStatement base
  | .node .rangeExpr [_, start, _, _] => !start.endsWithBlock && isStatement start
  | .node .tryExpr [_, base] => !base.endsWithBlock && isStatement base
  | _ => true

/-- Literals of numbers, bytes, characters and truth values. -/
def isPlainLiteral : Tree → Bool
  | .node .literalExpr [_, .word text] =>
    text == "true" || text == "false" || Literal.isWhole text ||
      (text.startsWith "-" && Literal.isWhole (text.drop 1).toString) || text.startsWith "'" ||
      text.startsWith "b'"
  | _ => false

/-- A last expression that is given a semicolon. -/
def takesSemicolon : Tree → Bool
  | .node .assignExpr _ => true
  | .node .breakExpr _ => true
  | .node .continueExpr _ => true
  | .node .returnExpr _ => true
  | .node .yieldExpr _ => true
  | .node .binaryExpr [_, _, operator, _] => Parser.strengthOf operator.text == .assignment
  | _ => false

/-- A statement whose semicolon is dropped. -/
def dropsSemicolon : Tree → Bool
  | .node .forExpr _ => true
  | .node .whileExpr _ => true
  | .node .ifExpr [_, _, _, otherwise] => otherwise.isAbsent || dropsSemicolon otherwise
  | _ => false

end Scaffold.Rust.Printing
