/-! The tokens of a YAML text. Those that open and close a block stand for a change of indentation. -/

namespace Scaffold.Yaml

inductive Token where
  | version (major minor : Nat)
  /-- a tag handle that is declared to stand for a prefix -/
  | handle (name start : List Char)
  | documentStart
  | documentEnd
  | blockListStart
  | blockTableStart
  | blockEnd
  | flowListStart
  | flowListEnd
  | flowTableStart
  | flowTableEnd
  /-- the dash before an item -/
  | dash
  | comma
  | key
  | value
  | alias (name : List Char)
  | anchor (name : List Char)
  | tag (handle rest : List Char)
  | scalar (text : List Char) (isPlain : Bool)
  deriving DecidableEq, Repr

end Scaffold.Yaml
