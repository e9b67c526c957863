import Scaffold.Rust.Printer.Expression
import Scaffold.Rust.Printer.Field

/-! Signatures of functions, and functions. -/

namespace Scaffold.Rust.Printing

open Text.Layout Draft

variable (p : Printer)

def input : Tree → Draft Unit
  | .node .receiver [attributes, reference, lifetime, mutability, type] => do
    outerAttributes p attributes
    text reference
    modifier lifetime
    modifier mutability
    word "self"
    if !type.isAbsent then
      word ": "
      p.type type
  | .node .parameter [attributes, pattern, type] => do
    outerAttributes p attributes
    p.pattern pattern
    word ": "
    p.type type
  | _ => pure ()

/-- What stands for a variable number of arguments. -/
def variadic : Tree → Draft Unit
  | .node .variadic [attributes, pattern] => do
    outerAttributes p attributes
    if !pattern.isAbsent then
      p.pattern pattern
      word ": "
    word "..."
  | _ => pure ()

/-- A signature without the conditions on its parameters. -/
def signature (name : Tree) : Tree → Draft Unit
  | .node .signature [constness, asyncness, unsafety, abi, parameters, inputs, rest, output] => do
    [constness, asyncness, unsafety, abi].forM modifier
    word ("fn " ++ name.text)
    generics p parameters
    word "("
    stay
    block 0 do
      zero
      each (fun isLast next => do
        input p next
        comma (isLast && rest.isAbsent)) inputs.children
      if !rest.isAbsent then
        variadic p rest
        zero
      shift (-indent)
    word ")"
    block (-indent) (returnType p output)
  | _ => pure ()

/-- The parameters of a signature and the conditions on them. -/
def genericsOf (signature : Tree) : Tree := signature.child 4

/-- The start of an item, and its members in braces, on lines of their own. -/
def withBody (start : Draft Unit) (attributes : Tree) (members : Draft Unit) : Draft Unit := do
  block indent do
    start
    word "\x7b"
    lineUnlessLast
    innerAttributes p attributes
    members
    shift (-indent)
  word "\x7d"
  line

/-- A function, or one that is only declared. -/
def function (attributes visible isDefault name type body : Tree) : Draft Unit := do
  outerAttributes p attributes
  let start := do
    visibility visible
    modifier isDefault
    signature p name type
  if body.isAbsent then
    block indent do
      start
      conditions p true true (genericsOf type)
    line
  else
    withBody p (do
      start
      conditions p true false (genericsOf type)) attributes (statements p body.children)

end Scaffold.Rust.Printing
