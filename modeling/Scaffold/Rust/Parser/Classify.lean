import Scaffold.Rust.Tree

/-! Properties of expression trees that decide where an expression ends. -/

namespace Scaffold.Rust.Tree

/-- Expressions that end with their block, so that no separator has to follow. -/
def endsWithBlock (tree : Tree) : Bool :=
  match tree.kind? with
  | some .ifExpr | some .matchExpr | some .blockExpr | some .unsafeExpr | some .whileExpr
  | some .loopExpr | some .forExpr | some .tryBlockExpr | some .constExpr => true
  | _ => false

def hasBraces (body : List TokenTree) : Bool :=
  match body.getLast? with
  | some (.group .brace _) => true
  | _ => false

/-- An invocation whose group is in braces. -/
def isBraced : Tree → Bool
  | .node .invocation [_, .tokens body] => hasBraces body
  | _ => false

/-- Statements of this form take a semicolon unless they end their block. -/
def needsSemicolon (tree : Tree) : Bool :=
  match tree with
  | .node .invocationExpr [_, call] => !call.isBraced
  | tree => !tree.endsWithBlock

/-- Puts attributes before those of an expression. -/
def addAttributes (attributes : List Tree) : Tree → Tree
  | .node kind (.node .list own :: rest) => .node kind (.list (attributes ++ own) :: rest)
  | tree => tree

/-- Puts attributes on the leftmost operand of a statement. -/
def addLeftmost (attributes : List Tree) : Tree → Tree
  | .node .assignExpr [own, left, right] => .node .assignExpr [own, addLeftmost attributes left, right]
  | .node .binaryExpr [own, left, op, right] =>
    .node .binaryExpr [own, addLeftmost attributes left, op, right]
  | .node .castExpr [own, left, type] => .node .castExpr [own, addLeftmost attributes left, type]
  | tree => tree.addAttributes attributes

/-- Whether a type ends with a brace. -/
def typeEndsWithBrace : Tree → Bool
  | .node .functionType [_, _, _, _, _, output] => typeEndsWithBrace output
  | .node .invocationType [call] => call.isBraced
  | .node .pointerType [_, type] => typeEndsWithBrace type
  | .node .referenceType [_, _, type] => typeEndsWithBrace type
  | .node .pathType [path] => typeEndsWithBrace path
  | .node .traitObjectType [_, bounds] => typeEndsWithBrace bounds
  | .node .implTraitType [bounds] => typeEndsWithBrace bounds
  | .node .list bounds => lastEndsWithBrace bounds
  | .node .traitBound [_, _, _, path] => typeEndsWithBrace path
  | .node .path segments => lastEndsWithBrace segments
  | .node .qualifiedPath segments => lastEndsWithBrace segments
  | .node .segment [_, .node .parenthesizedArguments [_, output]] => typeEndsWithBrace output
  | _ => false
where
  lastEndsWithBrace : List Tree → Bool
    | [] => false
    | [last] => typeEndsWithBrace last
    | _ :: rest => lastEndsWithBrace rest

/-- Whether an expression ends with a brace, so that no alternative may follow it. -/
def endsWithBrace : Tree → Bool
  | .node .assignExpr [_, _, right] => endsWithBrace right
  | .node .binaryExpr [_, _, _, right] => endsWithBrace right
  | .node .breakExpr [_, _, value] => endsWithBrace value
  | .node .castExpr [_, _, type] => typeEndsWithBrace type
  | .node .closureExpr [_, _, _, _, _, _, _, _, body] => endsWithBrace body
  | .node .letExpr [_, _, value] => endsWithBrace value
  | .node .invocationExpr [_, call] => call.isBraced
  | .node .rangeExpr [_, _, _, stop] => endsWithBrace stop
  | .node .rawAddressExpr [_, _, value] => endsWithBrace value
  | .node .referenceExpr [_, _, value] => endsWithBrace value
  | .node .returnExpr [_, value] => endsWithBrace value
  | .node .unaryExpr [_, _, value] => endsWithBrace value
  | .node .yieldExpr [_, value] => endsWithBrace value
  | .node .asyncExpr _ => true
  | .node .structExpr _ => true
  | tree => tree.endsWithBlock

end Scaffold.Rust.Tree
