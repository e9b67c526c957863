import Scaffold.Rust.Printer.Type

/-! Patterns. -/

namespace Scaffold.Rust.Printing

open Text.Layout Draft

variable (p : Printer)

/-- Alternatives of which all are literals or wildcards share lines. -/
def isPlainCase (case : Tree) : Bool := case.is .literalPattern || case.is .wildcardPattern

def alternativePattern (cases : List Tree) : Draft Unit :=
  group (if cases.all isPlainCase then .asNeeded else .all) 0
    (between (do
      space
      word "| ") p.pattern cases)

def fieldPattern (field : Tree) : Draft Unit := do
  outerAttributes p (field.child 0)
  let name := (field.child 1).text
  if !name.isEmpty then word (name ++ ": ")
  p.pattern (field.child 2)

def restPattern (attributes : Tree) : Draft Unit := do
  outerAttributes p attributes
  word ".."

def structPattern (name fields rest : Tree) : Draft Unit := do
  block indent do
    path p true name
    word " \x7b"
    spaceUnlessLast
    each (fun isLast field => do
      fieldPattern p field
      commaOrSpace (isLast && rest.isAbsent)) fields.children
    if !rest.isAbsent then
      restPattern p (rest.child 0)
      space
    shift (-indent)
  word "\x7d"

/-- The limits of a range; three points are an old form of the second one. -/
def limits (text : String) : String := if text == "..." then "..=" else text

def optionalExpression (tree : Tree) : Draft Unit := do
  if !tree.isAbsent then p.expression tree

def rangePattern (start limit stop : Tree) : Draft Unit := do
  optionalExpression p start
  word (limits limit.text)
  optionalExpression p stop

def pattern : Tree → Draft Unit
  | .node .wildcardPattern _ => word "_"
  | .node .bindingPattern [reference, mutability, name, inner] => do
    modifier reference
    modifier mutability
    text name
    if !inner.isAbsent then
      word " @ "
      p.pattern inner
  | .node .literalPattern [value] => text value
  | .node .rangePattern [start, limit, stop] => rangePattern p start limit stop
  | .node .referencePattern [mutability, inner] => do
    word "&"
    modifier mutability
    p.pattern inner
  | .node .tuplePattern elements => tuple (elements.all (!·.is .restPattern)) p.pattern elements
  | .node .parenthesizedPattern [inner] => do
    word "("
    p.pattern inner
    word ")"
  | .node .slicePattern elements => do
    word "["
    each (fun isLast element => do
      p.pattern element
      comma isLast) elements
    word "]"
  | .node .restPattern [attributes] => restPattern p attributes
  | .node .constPattern [value] => p.expression value
  | .node .pathPattern [tree] => path p true tree
  | .node .structPattern [name, fields, rest] => structPattern p name fields rest
  | .node .tupleStructPattern [name, elements] => do
    path p true name
    listed "(" ")" indent p.pattern elements.children
  | .node .invocationPattern [call] => invocation call "" false
  | .node .alternativePattern cases => alternativePattern p cases
  | .node .typedPattern [attributes, inner, type] => do
    outerAttributes p attributes
    p.pattern inner
    if !type.isAbsent then
      word ": "
      p.type type
  | .tokens _ => stop
  | _ => pure ()

end Scaffold.Rust.Printing
