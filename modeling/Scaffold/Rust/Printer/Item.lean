import Scaffold.Rust.Printer.Signature

/-! Items, and the items inside traits, implementations and foreign modules. -/

namespace Scaffold.Rust.Printing

open Text.Layout Draft

variable (p : Printer)

/-! ### Data -/

/-- A struct; its fields are in braces, in parentheses, or not there. -/
def structItem (attributes visible name parameters fields : Tree) : Draft Unit := do
  outerAttributes p attributes
  let start := do
    visibility visible
    word ("struct " ++ name.text)
    generics p parameters
  match fields with
  | .node .namedFields fields =>
    withBody p (do
      start
      conditions p true false parameters) .absent (memberLines (field p) fields)
  | fields =>
    block indent do
      start
      if fields.is .tupleFields then tupleFields p fields.children
      conditions p true true parameters
    line

/-- An enumeration or a union. -/
def dataItem (keyword : String) (attributes visible name parameters : Tree)
    (write : Tree → Draft Unit) (members : List Tree) : Draft Unit := do
  outerAttributes p attributes
  withBody p (do
    visibility visible
    word (keyword ++ name.text)
    generics p parameters
    conditions p true false parameters) .absent (memberLines write members)

/-! ### Names for types, bounds and values -/

/-- A constant or a static: its modifiers, its name, its type, and its value if it has one. -/
def valueItem (attributes : Tree) (modifiers : Draft Unit) (name type value : Tree) : Draft Unit := do
  outerAttributes p attributes
  block 0 do
    modifiers
    text name
    word ": "
    p.type type
    if !value.isAbsent then
      word " = "
      stay
      p.expression value
    word ";"
  line

/-- The type after an equals sign. -/
def definition (type : Tree) : Draft Unit := do
  word "= "
  stay
  fill (-indent) (p.type type)

def typeItem (attributes visible name parameters type : Tree) : Draft Unit := do
  outerAttributes p attributes
  block indent do
    visibility visible
    word ("type " ++ name.text)
    generics p parameters
    conditions p false false parameters
    definition p type
    word ";"
  line

/-- A type item inside a trait or an implementation, which has its conditions at the end. -/
def associatedType (attributes visible isDefault name parameters bounds type : Tree) : Draft Unit := do
  outerAttributes p attributes
  block indent do
    visibility visible
    modifier isDefault
    word ("type " ++ name.text)
    generics p parameters
    boundsAfter ": " p.bound bounds
    if !type.isAbsent then
      word " "
      definition p type
    conditions p false true parameters
  line

def traitAlias (attributes visible name parameters bounds : Tree) : Draft Unit := do
  outerAttributes p attributes
  block indent do
    visibility visible
    word ("trait " ++ name.text)
    generics p parameters
    word " = "
    stay
    boundsAfter "" p.bound bounds
    conditions p true true parameters
  line

/-! ### Traits, implementations and modules -/

def traitItem (attributes visible unsafety auto name parameters bounds : Tree) (members : List Tree) :
    Draft Unit := do
  outerAttributes p attributes
  withBody p (do
    visibility visible
    modifier unsafety
    modifier auto
    word ("trait " ++ name.text)
    generics p parameters
    if !bounds.children.isEmpty then word ": "
    boundsOnLine p bounds
    conditions p true false parameters) attributes (members.forM p.item)

def implItem (attributes isDefault unsafety parameters negative trait self : Tree)
    (members : List Tree) : Draft Unit := do
  outerAttributes p attributes
  withBody p (do
    fill (-indent) do
      block indent do
        modifier isDefault
        modifier unsafety
        word "impl"
        generics p parameters
      word " "
      if !trait.isAbsent then
        text negative
        path p false trait
        space
        word "for "
      p.type self
    conditions p true false parameters) attributes (members.forM p.item)

def moduleItem (attributes visible unsafety name members : Tree) : Draft Unit := do
  outerAttributes p attributes
  let start := do
    visibility visible
    modifier unsafety
    word ("mod " ++ name.text)
  if members.isAbsent then
    block indent do
      start
      word ";"
    line
  else
    withBody p (do
      start
      word " ") attributes (members.children.forM p.item)

def foreignModule (attributes unsafety abi : Tree) (members : List Tree) : Draft Unit := do
  outerAttributes p attributes
  withBody p (do
    modifier unsafety
    modifier abi) attributes (members.forM p.item)

/-! ### Imports -/

/-- What lies below all names of a tree of imports. -/
def innermost : Tree → Tree
  | .node .usePath [_, tree] => innermost tree
  | tree => tree

/-- Imports in braces fill lines; a line ends after a group of imports. -/
def useGroup (trees : List Tree) : Draft Unit := do
  word "\x7b"
  block indent do
    zero
    fill 0 (each (fun isLast tree => do
      p.useTree tree
      if !isLast then
        word ","
        if (innermost tree).is .useGroup then line else space) trees)
    comma true
    shift (-indent)
  word "\x7d"

def useTree : Tree → Draft Unit
  | .node .usePath [name, tree] => do
    text name
    word "::"
    p.useTree tree
  | .node .useName [name] => text name
  | .node .useRename [name, rename] => word (name.text ++ " as " ++ rename.text)
  | .node .useGlob _ => word "*"
  | .node .useGroup trees => useGroup p trees
  | _ => pure ()

def useItem (attributes visible root tree : Tree) : Draft Unit := do
  outerAttributes p attributes
  visibility visible
  word ("use " ++ root.text)
  p.useTree tree
  word ";"
  line

def externCrate (attributes visible name rename : Tree) : Draft Unit := do
  outerAttributes p attributes
  visibility visible
  word ("extern crate " ++ name.text)
  if !rename.text.isEmpty then word (" as " ++ rename.text)
  word ";"
  line

/-! ### All items -/

def item : Tree → Draft Unit
  | .node .structItem [attributes, visible, name, parameters, fields] =>
    structItem p attributes visible name parameters fields
  | .node .enumItem [attributes, visible, name, parameters, variants] =>
    dataItem p "enum " attributes visible name parameters (variant p) variants.children
  | .node .unionItem [attributes, visible, name, parameters, fields] =>
    dataItem p "union " attributes visible name parameters (field p) fields.children
  | .node .traitItem [attributes, visible, unsafety, auto, name, parameters, bounds, members] =>
    traitItem p attributes visible unsafety auto name parameters bounds members.children
  | .node .traitAlias [attributes, visible, name, parameters, bounds] =>
    traitAlias p attributes visible name parameters bounds
  | .node .typeItem [attributes, visible, name, parameters, type] =>
    typeItem p attributes visible name parameters type
  | .node .functionItem [attributes, visible, name, type, body] =>
    function p attributes visible (.word "") name type body
  | .node .constItem [attributes, visible, name, type, value] =>
    valueItem p attributes (do
      visibility visible
      word "const ") name type value
  | .node .staticItem [attributes, visible, mutability, name, type, value] =>
    valueItem p attributes (do
      visibility visible
      word "static "
      modifier mutability) name type value
  | .node .moduleItem [attributes, visible, unsafety, name, members] =>
    moduleItem p attributes visible unsafety name members
  | .node .foreignModule [attributes, unsafety, abi, members] =>
    foreignModule p attributes unsafety abi members.children
  | .node .implItem [attributes, isDefault, unsafety, parameters, negative, trait, self, members] =>
    implItem p attributes isDefault unsafety parameters negative trait self members.children
  | .node .useItem [attributes, visible, root, tree] => useItem p attributes visible root tree
  | .node .externCrate [attributes, visible, name, rename] =>
    externCrate p attributes visible name rename
  | .node .invocationItem [attributes, name, call] => do
    outerAttributes p attributes
    invocation call name.text (needsSemicolon call)
    line
  | .node .associatedFunction [attributes, visible, isDefault, name, type, body] =>
    function p attributes visible isDefault name type body
  | .node .associatedConst [attributes, visible, isDefault, name, type, value] =>
    valueItem p attributes (do
      visibility visible
      modifier isDefault
      word "const ") name type value
  | .node .associatedType [attributes, visible, isDefault, name, parameters, bounds, type] =>
    associatedType p attributes visible isDefault name parameters bounds type
  | .node .foreignStatic [attributes, visible, mutability, name, type] =>
    valueItem p attributes (do
      visibility visible
      word "static "
      modifier mutability) name type .absent
  | .node .foreignType [attributes, visible, name, parameters] => do
    outerAttributes p attributes
    block 0 do
      visibility visible
      word ("type " ++ name.text)
      generics p parameters
      word ";"
    line
  | .tokens _ => stop
  | _ => pure ()

end Scaffold.Rust.Printing
