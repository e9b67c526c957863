import Scaffold.Rust.Printer.Path

/-! Visibility, the fields of structs and the variants of enumerations. -/

namespace Scaffold.Rust.Printing

open Text.Layout Draft

variable (p : Printer)

/-- What visibility is restricted to; a place named by one keyword needs no `in`. -/
def shortVisibility (written : String) : String :=
  match written with
  | "pub(in crate)" => "pub(crate)"
  | "pub(in self)" => "pub(self)"
  | "pub(in super)" => "pub(super)"
  | other => other

def visibility (tree : Tree) : Draft Unit := modifier (.word (shortVisibility tree.text))

/-- A field with its name, if it has one. -/
def field : Tree → Draft Unit
  | .node .field [attributes, visible, name, type] => do
    outerAttributes p attributes
    visibility visible
    if !name.text.isEmpty then word (name.text ++ ": ")
    p.type type
  | _ => pure ()

/-- Fields without names, in the group around them. -/
def tupleFields (fields : List Tree) : Draft Unit := do
  word "("
  zero
  each (fun isLast next => do
    field p next
    comma isLast) fields
  shift (-indent)
  word ")"

/-- Members on lines of their own, each with a comma after it. -/
def memberLines (write : Tree → Draft Unit) (members : List Tree) : Draft Unit :=
  members.forM fun member => do
    write member
    word ","
    line

def variant : Tree → Draft Unit
  | .node .variant [attributes, name, fields, discriminant] => do
    outerAttributes p attributes
    text name
    match fields with
    | .node .namedFields fields =>
      word " \x7b"
      block indent do
        space
        each (fun isLast next => do
          field p next
          commaOrSpace isLast) fields
        shift (-indent)
      word "\x7d"
    | .node .tupleFields fields => block indent (tupleFields p fields)
    | _ => pure ()
    if !discriminant.isAbsent then
      word " = "
      p.expression discriminant
  | _ => pure ()

end Scaffold.Rust.Printing
