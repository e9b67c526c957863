import Scaffold.Rust.Parser
import Scaffold.Rust.Printer

/-! Laying out source files anew. -/

namespace Scaffold.Rust

/-- What comes of laying out a text. -/
inductive Formatted where
  /-- it is no source file -/
  | unparsed
  /-- it is a source file, with something in it that there is no layout for -/
  | stuck
  | text (laidOut : String)
  deriving DecidableEq, Repr

/-- Lays out a source file anew. Only comments that are documentation stay. -/
def format (source : String) : Formatted :=
  match SourceFile.parse source with
  | none => .unparsed
  | some file =>
    let interpreter := String.ofList (SourceFile.interpreter (SourceFile.content source))
    match Text.Layout.render? (SourceFile.draft interpreter file) with
    | none => .stuck
    | some laidOut => .text laidOut

end Scaffold.Rust
