import Scaffold.Rust.Parser.Grammar

/-! Paths of plain words, attributes, and blocks whose attributes stand inside them. -/

namespace Scaffold.Rust.Parser

/-- Words that begin a path without being names. -/
def pathWords : List String := ["super", "self", "Self", "crate"]

def atPathWord (tokens : Tokens) : Bool := tokens.atName || tokens.atOneOf pathWords

/-- A path of plain words. -/
def plainPath : Parser Tree := do
  let leading ← operator? "::"
  let segments ← plainSegments
  return .node .path (Tree.flag "::" leading :: segments)
where
  plainSegments : Parser (List Tree) := fun tokens => go (tokens.length + 1) tokens
  go : Nat → Parser (List Tree)
    | 0 => fail
    | fuel + 1 => do
      guard (← at? atPathWord)
      let segment := Tree.node .segment [.word (← anyWord), .absent]
      if ← operator? "::" then (segment :: ·) <$> go fuel else return [segment]

variable (g : Grammar)

/-- The value of an attribute: a literal alone, or an expression that begins with no attribute. -/
def attributeValue : Parser Tree := fun tokens =>
  match literal tokens with
  | some (value, []) => some (.node .literalExpr [.list [], value], [])
  | _ =>
    if tokens.atOperator "#" && tokens.skip.atBrackets then none else g.expression true tokens

/-- The path of an attribute and what follows it: a group, a value, or nothing. -/
def attributeContent (style : String) : Parser Tree := do
  let path ← if ← at? (·.atWord "unsafe") then
      (fun word => Tree.node .path [.word "", .node .segment [.word word, .absent]]) <$> anyWord
    else plainPath
  let content ←
    if ← at? fun ts => ts.atParens || ts.atBrackets || ts.atBraces then anyGroup
    else if ← operator? "=" then attributeValue g
    else pure .absent
  return .node .attributeLine [.word style, path, content]

/-- Attributes before what they are about. -/
def outerAttributes : Parser (List Tree) :=
  whileAt (·.atOperator "#") do
    operator "#"
    brackets (attributeContent g "#")

/-- Attributes at the start of what they are about. -/
def innerAttributes : Parser (List Tree) :=
  whileAt (fun ts => ts.atOperator "#" && ts.skip.atOperator "!") do
    operator "#"
    operator "!"
    brackets (attributeContent g "#!")

/-- A block: the attributes at its start, and the block. -/
def attributedBlock : Parser (List Tree × Tree) := braces do
  let attributes ← innerAttributes g
  return (attributes, .node .block (← g.statements))

end Scaffold.Rust.Parser
