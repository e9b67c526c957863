import Scaffold.Rust.Printer.Invocation
import Scaffold.Rust.Printer.Path

/-! Types. -/

namespace Scaffold.Rust.Printing

open Text.Layout Draft

variable (p : Printer)

/-- What stands for a variable number of arguments. -/
def typeVariadic (tree : Tree) : Draft Unit := do
  outerAttributes p (tree.child 0)
  let name := (tree.child 1).text
  if !name.isEmpty then word (name ++ ": ")
  word "..."

/-- An argument of a function type, unless it is kept as tokens. -/
def functionTypeArgument : Tree → Draft Unit
  | .node .functionTypeArgument [attributes, name, type] => do
    outerAttributes p attributes
    if !name.text.isEmpty then word (name.text ++ ": ")
    p.type type
  | _ => stop

def functionType (lifetimes unsafety abi arguments variadic output : Tree) : Draft Unit := do
  boundLifetimes p lifetimes
  modifier unsafety
  modifier abi
  word "fn("
  block indent do
    zero
    each (fun isLast argument => do
      functionTypeArgument p argument
      comma (isLast && variadic.isAbsent)) arguments.children
    if !variadic.isAbsent then
      typeVariadic p variadic
      zero
    shift (-indent)
  word ")"
  returnType p output

/-- Elements in parentheses; a single one is followed by a comma. -/
def tuple (singleComma : Bool) (write : Tree → Draft Unit) (elements : List Tree) : Draft Unit := do
  match elements with
  | [single] =>
    word "("
    block indent do
      zero
      write single
      if singleComma then word ","
      zero
      shift (-indent)
    word ")"
  | _ => listed "(" ")" indent write elements

def type : Tree → Draft Unit
  | .node .tupleType elements => tuple true p.type elements
  | .node .parenthesizedType [inner] => do
    word "("
    p.type inner
    word ")"
  | .node .traitObjectType [_, bounds] => do
    word "dyn "
    boundsOnLine p bounds
  | .node .implTraitType [bounds] => do
    word "impl "
    boundsOnLine p bounds
  | .node .functionType [lifetimes, unsafety, abi, arguments, variadic, output] =>
    functionType p lifetimes unsafety abi arguments variadic output
  | .node .invocationType [call] => invocation call "" false
  | .node .pathType [tree] => path p false tree
  | .node .arrayType [element, length] => do
    word "["
    p.type element
    word "; "
    p.expression length
    word "]"
  | .node .sliceType [element] => do
    word "["
    p.type element
    word "]"
  | .node .pointerType [access, target] => do
    word ("*" ++ access.text ++ " ")
    p.type target
  | .node .referenceType [lifetime, mutability, target] => do
    word "&"
    modifier lifetime
    modifier mutability
    p.type target
  | .node .neverType _ => word "!"
  | .node .inferredType _ => word "_"
  | .tokens _ => stop
  | _ => pure ()

end Scaffold.Rust.Printing
