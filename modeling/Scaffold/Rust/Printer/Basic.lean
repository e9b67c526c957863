import Scaffold.Rust.Tree
import Scaffold.Text.Layout

/-!
The printers that refer to each other. As with parsing, each construct is printed by a function over the
printers for what is nested in it.
-/

namespace Scaffold.Rust

open Text.Layout

/-- The printers for nested constructs. -/
structure Printer where
  type : Tree → Draft Unit
  bound : Tree → Draft Unit
  /-- an argument between angle brackets -/
  argument : Tree → Draft Unit
  pattern : Tree → Draft Unit
  expression : Tree → Draft Unit
  /-- an expression with which a line starts -/
  leading : Tree → Draft Unit
  /-- what a field, an index or a call follows; it may start a line -/
  receiver : Bool → Tree → Draft Unit
  /-- a statement, with a note whether it is the last one -/
  statement : Bool → Tree → Draft Unit
  item : Tree → Draft Unit
  useTree : Tree → Draft Unit

namespace Printer

/-- The printer that prints nothing. -/
def empty : Printer where
  type _ := pure ()
  bound _ := pure ()
  argument _ := pure ()
  pattern _ := pure ()
  expression _ := pure ()
  leading _ := pure ()
  receiver _ _ := pure ()
  statement _ _ := pure ()
  item _ := pure ()
  useTree _ := pure ()

end Printer

namespace Printing

open Draft

/-- One step of indentation. -/
def indent : Int := 4

/-- A group that breaks at all of its gaps, and one that breaks where it has to. -/
def block (offset : Int) (content : Draft Unit) : Draft Unit := group .all offset content

def fill (offset : Int) (content : Draft Unit) : Draft Unit := group .asNeeded offset content

/-- A word and a blank, if the word is there. -/
def modifier (tree : Tree) : Draft Unit := do
  if !tree.text.isEmpty then word (tree.text ++ " ")

def text (tree : Tree) : Draft Unit := word tree.text

/-- Elements with a comma after each, between two delimiters; broken, each has a line of its own. -/
def listed (opening closing : String) (offset : Int) (write : Tree → Draft Unit) (trees : List Tree) :
    Draft Unit := do
  word opening
  block offset do
    zero
    each (fun isLast tree => do
      write tree
      comma isLast) trees
    shift (-indent)
  word closing

end Printing

end Scaffold.Rust
