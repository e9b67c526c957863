import Scaffold.Rust.Printer.Item

/-!
Printing of source files. The printers of the single constructs are tied together level by level, as
their parsers are.
-/

namespace Scaffold.Rust

open Text.Layout Draft

namespace Printer

/-- The printers of each construct, over those for what is nested. -/
def next (p : Printer) : Printer where
  type := Printing.type p
  bound := Printing.bound p
  argument := Printing.argument p
  pattern := Printing.pattern p
  expression := Printing.expression p
  leading := Printing.leading p
  receiver isLeading := Printing.chain p isLeading false
  statement := Printing.statement p
  item := Printing.item p
  useTree := Printing.useTree p

/-- The printer for nesting up to a depth. -/
def level : Nat → Printer
  | 0 => empty
  | depth + 1 => next (level depth)

end Printer

namespace Tree

mutual

/-- How deeply nodes are nested. -/
def depth : Tree → Nat
  | .node _ children => depthOfAll children + 1
  | _ => 0

def depthOfAll : List Tree → Nat
  | [] => 0
  | tree :: rest => max tree.depth (depthOfAll rest)

end

end Tree

namespace SourceFile

/-- A source file on lines: the line that names an interpreter, the attributes, and the items. -/
def draft (interpreter : String) (file : Tree) : Draft Unit :=
  let p := Printer.level (4 * file.depth + 4)
  Printing.block 0 do
    if !interpreter.isEmpty then
      word interpreter
      line
    Printing.innerAttributes p (file.child 0)
    (file.child 1).children.forM p.item

end SourceFile

end Scaffold.Rust
