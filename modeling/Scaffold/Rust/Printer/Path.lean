import Scaffold.Rust.Printer.Attribute

/-! Paths with their arguments, bounds, type parameters and the conditions on them. -/

namespace Scaffold.Rust.Printing

open Text.Layout Draft

variable (p : Printer)

/-! ### Paths -/

/-- A type after an arrow, if there is one. -/
def returnType (output : Tree) : Draft Unit := do
  if !output.isAbsent then
    word " -> "
    p.type output

def isLifetime : Tree → Bool
  | .word _ => true
  | .node .lifetimeParameter _ => true
  | _ => false

/-- Lifetimes come before all else. -/
def lifetimesFirst (trees : List Tree) : List Tree :=
  trees.filter isLifetime ++ trees.filter (!isLifetime ·)

/-- The arguments between angle brackets, after two colons where the path is part of an expression. -/
def angleArguments (inExpression : Bool) (arguments : Tree) : Draft Unit := do
  let arguments := (arguments.child 1).children
  if !arguments.isEmpty then
    if inExpression then word "::"
    listed "<" ">" indent p.argument (lifetimesFirst arguments)

def parenthesizedArguments (inputs output : Tree) : Draft Unit :=
  block indent do
    word "("
    zero
    each (fun isLast type => do
      p.type type
      comma isLast) inputs.children
    shift (-indent)
    word ")"
    returnType p output

def segment (inExpression : Bool) (tree : Tree) : Draft Unit := do
  text (tree.child 0)
  match tree.child 1 with
  | .node .parenthesizedArguments [inputs, output] => parenthesizedArguments p inputs output
  | .node .angleArguments parts => angleArguments p inExpression (.node .angleArguments parts)
  | _ => pure ()

def unqualifiedPath (inExpression : Bool) (path : Tree) : Draft Unit := do
  text (path.child 0)
  between (word "::") (segment p inExpression) path.children.tail

/-- A path, or one that begins with a type between angle brackets. -/
def path (inExpression : Bool) : Tree → Draft Unit
  | .node .qualifiedPath (self :: trait :: segments) => do
    word "<"
    p.type self
    if !trait.isAbsent then
      word " as "
      unqualifiedPath p false trait
    word ">"
    segments.forM fun next => do
      word "::"
      segment p inExpression next
  | tree => unqualifiedPath p inExpression tree

/-- A constant among types: a word, a literal or a block as it is, all else in braces. -/
def constArgument (value : Tree) : Draft Unit :=
  match value with
  | .node .literalExpr _ => p.expression value
  | .node .blockExpr _ => p.expression value
  | .node .pathExpr [.node .list [], .node .path [_, _]] => p.expression value
  | _ => block indent do
    word "\x7b"
    space
    fill 0 (p.leading value)
    space
    shift (-indent)
    word "\x7d"

/-! ### Bounds -/

/-- Bounds with plus signs between them, after a text. -/
def boundsAfter (first : String) (bound : Tree → Draft Unit) (bounds : Tree) : Draft Unit :=
  match bounds.children with
  | [] => pure ()
  | head :: rest => do
    word first
    bound head
    rest.forM fun next => do
      space
      word "+ "
      bound next

/-- Bounds with plus signs between them, on one line. -/
def boundsOnLine (bounds : Tree) : Draft Unit := between (word " + ") p.bound bounds.children

/-- A parameter between angle brackets. -/
def parameter : Tree → Draft Unit
  | .node .lifetimeParameter [attributes, name, bounds] => do
    outerAttributes p attributes
    text name
    if !bounds.children.isEmpty then word ": "
    between (word " + ") text bounds.children
  | .node .typeParameter [attributes, name, bounds, fallback] => do
    outerAttributes p attributes
    text name
    fill indent do
      boundsAfter ": " p.bound bounds
      if !fallback.isAbsent then
        space
        word "= "
        p.type fallback
  | .node .constParameter [attributes, name, type, fallback] => do
    outerAttributes p attributes
    word "const "
    text name
    word ": "
    p.type type
    if !fallback.isAbsent then
      word " = "
      constArgument p fallback
  | _ => pure ()

/-- Lifetimes that a type quantifies over. -/
def boundLifetimes (tree : Tree) : Draft Unit := do
  if !tree.isAbsent then
    word "for<"
    between (word ", ") (parameter p) tree.children
    word "> "

/-- A bound of a type: a trait, a lifetime, or what is captured. -/
def bound : Tree → Draft Unit
  | .node .traitBound [parenthesis, relaxed, lifetimes, trait] => do
    text parenthesis
    text relaxed
    boundLifetimes p lifetimes
    unqualifiedPath p false trait
    if !parenthesis.text.isEmpty then word ")"
  | .node .preciseCapture captured => do
    word "use"
    listed "<" ">" 0 text captured
  | .tokens _ => stop
  | tree => text tree

/-- An argument between angle brackets. -/
def argument : Tree → Draft Unit
  | .word lifetime => word lifetime
  | .node .constArgument [value] => constArgument p value
  | .node .typeBinding [name, arguments, type] => do
    text name
    angleArguments p false arguments
    word " = "
    p.type type
  | .node .constBinding [name, arguments, value] => do
    text name
    angleArguments p false arguments
    word " = "
    constArgument p value
  | .node .constraint [name, arguments, bounds] => do
    text name
    angleArguments p false arguments
    fill indent (boundsAfter ": " p.bound bounds)
  | type => p.type type

/-! ### Parameters and conditions -/

/-- The parameters of a declaration. -/
def generics (tree : Tree) : Draft Unit := do
  let parameters := (tree.child 0).children
  if !parameters.isEmpty then listed "<" ">" 0 (parameter p) (lifetimesFirst parameters)

def condition : Tree → Draft Unit
  | .node .lifetimeCondition [name, bounds] => do
    text name
    word ":"
    fill indent (boundsAfter " " text bounds)
  | .node .typeCondition [lifetimes, type, bounds] => do
    boundLifetimes p lifetimes
    p.type type
    word ":"
    fill (if bounds.children.length = 1 then 0 else indent) (boundsAfter " " p.bound bounds)
  | _ => pure ()

/-- The conditions on the parameters of a declaration, each on a line of its own or all on one line.
Where there are none, a semicolon or a blank is written. -/
def conditions (ownLines semicolon : Bool) (tree : Tree) : Draft Unit := do
  let list := (tree.child 1).children
  if list.isEmpty then word (if semicolon then ";" else " ")
  else
    let gap := if ownLines then line else space
    gap
    shift (-indent)
    word "where"
    gap
    each (fun isLast next => do
      condition p next
      if isLast && semicolon then word ";"
      else if ownLines then
        word ","
        line
      else commaOrSpace isLast) list
    if !semicolon then shift (-indent)

end Scaffold.Rust.Printing
