import Scaffold.Rust.Parser.Basic

/-!
The parsers that refer to each other. Each construct is parsed by a function of a `Grammar`, which
holds the parsers for what may stand inside it; the levels are tied together at the end.
-/

namespace Scaffold.Rust

/-- Binding strength of binary operators, weakest first. -/
inductive Precedence where
  | lowest
  | assignment
  | range
  | disjunction
  | conjunction
  | comparison
  | bitOr
  | bitXor
  | bitAnd
  | shift
  | sum
  | product
  | cast
  deriving DecidableEq, Repr, Inhabited

namespace Precedence

def rank : Precedence → Nat
  | lowest => 0
  | assignment => 1
  | range => 2
  | disjunction => 3
  | conjunction => 4
  | comparison => 5
  | bitOr => 6
  | bitXor => 7
  | bitAnd => 8
  | shift => 9
  | sum => 10
  | product => 11
  | cast => 12

end Precedence

/-- The parsers for nested constructs. -/
structure Grammar where
  /-- a type; the argument says whether further bounds may follow a plus sign -/
  type : Bool → Parser Tree
  /-- a bound; the arguments allow captures and constant bounds -/
  bound : (captures constant : Bool) → Parser Tree
  /-- a pattern without alternatives -/
  pattern : Parser Tree
  /-- an expression; the argument says whether a brace may open a struct literal -/
  expression : Bool → Parser Tree
  /-- an expression as a statement or the body of a match arm -/
  statementExpression : Parser Tree
  /-- an operand of a binary operator -/
  operand : Bool → Parser Tree
  /-- continues an expression with operators at least as strong as the given one -/
  climb : Bool → Precedence → Tree → Parser Tree
  /-- the statements of a block -/
  statements : Parser (List Tree)
  item : Parser Tree
  /-- a tree of imports; `none` for one that is kept as tokens -/
  useTree : Bool → Parser (Option Tree)

namespace Grammar

/-- The grammar that accepts nothing. -/
def empty : Grammar where
  type _ := Parser.fail
  bound _ _ := Parser.fail
  pattern := Parser.fail
  expression _ := Parser.fail
  statementExpression := Parser.fail
  operand _ := Parser.fail
  climb _ _ _ := Parser.fail
  statements := Parser.fail
  item := Parser.fail
  useTree _ := Parser.fail

instance : Inhabited Grammar := ⟨empty⟩

/-- A block of statements. -/
def block (g : Grammar) : Parser Tree := Tree.node .block <$> Parser.braces g.statements

end Grammar

end Scaffold.Rust
