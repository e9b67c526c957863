import Scaffold.Rust.Lexer
import Scaffold.Rust.Parser.Item
import Scaffold.Rust.Parser.Statement

/-!
Parsing of source files. The parsers of the single constructs are tied together level by level: each
level parses one construct and leaves what is nested in it to the level below.
-/

namespace Scaffold.Rust

namespace Grammar

/-- The parsers of each construct, over those for what is nested. -/
def next (g : Grammar) : Grammar where
  type := Parser.type g
  bound := Parser.bound g
  pattern := Parser.pattern g
  expression := Parser.expression g
  statementExpression := Parser.statementExpression g
  operand := Parser.operand g
  climb := Parser.climb g
  statements := Parser.statements g
  item := Parser.item g
  useTree := Parser.useTree g

/-- The grammar for nesting up to a depth. -/
def level : Nat → Grammar
  | 0 => empty
  | depth + 1 => next (level depth)

end Grammar

namespace SourceFile

/-- The text after a mark of the byte order. -/
def content (source : String) : List Char :=
  let text := source.toList
  if text.head? == some Lexer.byteOrderMark then text.tail else text

/-- A first line that names an interpreter. An attribute is none. -/
def interpreter (text : List Char) : List Char :=
  match text with
  | '#' :: '!' :: rest =>
    if (Lexer.skipGaps rest.length rest).head? == some '[' then []
    else text.takeWhile (· != '\n')
  | _ => []

/-- A nesting depth that no tree over these tokens exceeds. -/
def depthOf (tokens : Tokens) : Nat := 8 * TokenTree.sizeList tokens + 16

/-- The tree of a source file, if it is one. -/
def parse (source : String) : Option Tree := do
  let text := content source
  let tokens ← Lexer.tokenize (text.drop (interpreter text).length)
  Parser.within (Parser.file (Grammar.level (depthOf tokens))) tokens

end SourceFile

end Scaffold.Rust
