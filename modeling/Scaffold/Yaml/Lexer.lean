import Scaffold.Yaml.Property
import Scaffold.Yaml.Scalar

/-!
From a YAML text to its tokens. Only a colon shows that what stands before it is a key, so tokens that
may start a key are remembered until the line ends, and the tokens that open a table and announce a
key are put in before them.
-/

namespace Scaffold.Yaml

/-- A place where a key may have started. -/
structure PossibleKey where
  /-- how many tokens come before it -/
  position : Nat
  /-- nothing but a key can stand there -/
  required : Bool
  start : Cursor

structure Lexer where
  cursor : Cursor
  tokens : List Token
  /-- the columns of the open blocks, the innermost first -/
  indents : List Nat
  /-- the key that may have started, outside of brackets and then inside of each open one; the
  innermost first -/
  keys : List (Option PossibleKey)
  /-- whether a key may start at the next token -/
  keyAllowed : Bool

namespace Lexer

def start (text : List Char) : Lexer := ⟨.ofText text, [], [], [none], true⟩

def inBrackets (lexer : Lexer) : Bool := lexer.keys.length > 1

/-- The column of the innermost block, which is negative outside of all blocks. -/
def indent (lexer : Lexer) : Int :=
  match lexer.indents with
  | column :: _ => column
  | [] => -1

def add (lexer : Lexer) (token : Token) : Lexer := { lexer with tokens := lexer.tokens ++ [token] }

def insertAt (lexer : Lexer) (position : Nat) (token : Token) : Lexer :=
  { lexer with tokens := lexer.tokens.take position ++ token :: lexer.tokens.drop position }

def moveTo (lexer : Lexer) (cursor : Cursor) : Lexer := { lexer with cursor }

def allowKey (lexer : Lexer) (keyAllowed : Bool) : Lexer := { lexer with keyAllowed }

/-! ### Blanks -/

/-- Passes blanks, comments and line ends. A tab is no indentation. -/
def skipSpace : (fuel : Nat) → Lexer → Lexer
  | 0, lexer => lexer
  | fuel + 1, lexer =>
    let tabs := lexer.inBrackets || !lexer.keyAllowed
    let cursor := lexer.cursor.skipWhile fun c => c == ' ' || (tabs && c == '\t')
    let cursor := if cursor.peek? == some '#' then cursor.skipWhile (!isBreak ·) else cursor
    match cursor.lineEnd? with
    | some (_, next) =>
      skipSpace fuel { lexer with
        cursor := next
        keyAllowed := lexer.keyAllowed || !lexer.inBrackets }
    | none => lexer.moveTo cursor

/-- Passes a byte order mark at the start of the text. -/
def skipMark (lexer : Lexer) : Lexer :=
  if lexer.cursor.index == 0 && lexer.cursor.peek? == some '\ufeff' then
    lexer.moveTo (lexer.cursor.skip 1)
  else lexer

/-! ### Keys -/

/-- The longest key, in characters. -/
def keyLimit : Nat := 1024

/-- A key ends on its line and is not too long. -/
def isStale (lexer : Lexer) (key : PossibleKey) : Bool :=
  key.start.line < lexer.cursor.line || key.start.index + keyLimit < lexer.cursor.index

/-- Forgets keys that can no longer be any; none of them may have been required. -/
def dropStale? (lexer : Lexer) : Option Lexer := do
  let keys ← lexer.keys.mapM fun entry =>
    match entry with
    | some key =>
      if lexer.isStale key then if key.required then none else some none else some (some key)
    | none => some none
  return { lexer with keys }

/-- Forgets the innermost key, which must not have been required. -/
def dropKey? (lexer : Lexer) : Option Lexer :=
  match lexer.keys with
  | some key :: outer => if key.required then none else some { lexer with keys := none :: outer }
  | _ => some lexer

/-- Remembers that a key may start here. -/
def saveKey? (lexer : Lexer) : Option Lexer :=
  if lexer.keyAllowed then do
    let required := !lexer.inBrackets && lexer.indent == Int.ofNat lexer.cursor.column
    let lexer ← lexer.dropKey?
    return { lexer with
      keys := some ⟨lexer.tokens.length, required, lexer.cursor⟩ :: lexer.keys.drop 1 }
  else some lexer

/-! ### Blocks -/

/-- Opens a block at a column that is deeper than the innermost one. -/
def openBlock (lexer : Lexer) (column position : Nat) (token : Token) : Lexer :=
  if !lexer.inBrackets && lexer.indent < Int.ofNat column then
    { lexer.insertAt position token with indents := column :: lexer.indents }
  else lexer

/-- Closes the blocks that are deeper than a column. -/
def closeBlocks (lexer : Lexer) (column : Int) : Lexer :=
  if lexer.inBrackets then lexer
  else
    let deeper := lexer.indents.takeWhile fun indent => Int.ofNat indent > column
    { lexer with
      tokens := lexer.tokens ++ deeper.map fun _ => Token.blockEnd
      indents := lexer.indents.drop deeper.length }

/-! ### Tokens -/

/-- A mark of its own, so many characters long. -/
def mark (lexer : Lexer) (length : Nat) (token : Token) : Lexer :=
  (lexer.add token).moveTo (lexer.cursor.skip length)

def directive? (lexer : Lexer) : Option Lexer := do
  let lexer ← (lexer.closeBlocks (-1)).dropKey?
  let (token, cursor) ← Property.directive? (lexer.cursor.skip 1)
  return ((lexer.allowKey false).add token).moveTo cursor

def documentMark? (lexer : Lexer) : Option Lexer := do
  let token : Token := if lexer.cursor.startsWith "---" then .documentStart else .documentEnd
  let lexer ← (lexer.closeBlocks (-1)).dropKey?
  return (lexer.allowKey false).mark 3 token

def bracketOpen? (lexer : Lexer) (token : Token) : Option Lexer := do
  let lexer ← lexer.saveKey?
  return ({ lexer with keys := none :: lexer.keys }.allowKey true).mark 1 token

def bracketClose? (lexer : Lexer) (token : Token) : Option Lexer := do
  let lexer ← lexer.dropKey?
  let keys := if lexer.inBrackets then lexer.keys.drop 1 else lexer.keys
  return ({ lexer with keys }.allowKey false).mark 1 token

def comma? (lexer : Lexer) : Option Lexer := do
  return ((← lexer.dropKey?).allowKey true).mark 1 .comma

/-- A mark that opens a block of its own where a key may start. -/
def opening? (lexer : Lexer) (token : Token) : Option Lexer :=
  if lexer.inBrackets then some lexer
  else if !lexer.keyAllowed then none
  else some (lexer.openBlock lexer.cursor.column lexer.tokens.length token)

def dash? (lexer : Lexer) : Option Lexer := do
  let lexer ← (← lexer.opening? .blockListStart).dropKey?
  return (lexer.allowKey true).mark 1 .dash

def key? (lexer : Lexer) : Option Lexer := do
  let lexer ← (← lexer.opening? .blockTableStart).dropKey?
  return (lexer.allowKey (!lexer.inBrackets)).mark 1 .key

/-- A colon: what it follows is a key, if one may have started. -/
def value? (lexer : Lexer) : Option Lexer :=
  match lexer.keys with
  | some key :: outer =>
    let lexer := (lexer.insertAt key.position .key).openBlock key.start.column key.position
      .blockTableStart
    some (({ lexer with keys := none :: outer }.allowKey false).mark 1 .value)
  | _ => do
    let lexer ← lexer.opening? .blockTableStart
    return (lexer.allowKey (!lexer.inBrackets)).mark 1 .value

def named? (lexer : Lexer) (token : List Char → Token) : Option Lexer := do
  let lexer ← lexer.saveKey?
  let (name, cursor) ← Property.name? (lexer.cursor.skip 1)
  return ((lexer.allowKey false).add (token name)).moveTo cursor

def tag? (lexer : Lexer) : Option Lexer := do
  let lexer ← lexer.saveKey?
  let (token, cursor) ← Property.tag? lexer.inBrackets lexer.cursor
  return ((lexer.allowKey false).add token).moveTo cursor

def block? (lexer : Lexer) (folds : Bool) : Option Lexer := do
  let lexer ← lexer.dropKey?
  let (text, cursor) ← Scalar.block? folds lexer.indent (lexer.cursor.skip 1)
  return ((lexer.allowKey true).add (.scalar text false)).moveTo cursor

def quoted? (lexer : Lexer) (quote : Char) : Option Lexer := do
  let lexer ← lexer.saveKey?
  let (text, cursor) ←
    Scalar.quoted? quote (lexer.cursor.rest.length + 1) [] (lexer.cursor.skip 1)
  return ((lexer.allowKey false).add (.scalar text false)).moveTo cursor

def plain? (lexer : Lexer) : Option Lexer := do
  let lexer ← lexer.saveKey?
  let (text, passedLines, cursor) ← Scalar.plain? lexer.inBrackets (lexer.indent + 1).toNat
    (lexer.cursor.rest.length + 1) [] .none lexer.cursor
  return ((lexer.allowKey passedLines).add (.scalar text true)).moveTo cursor

/-- Characters that start something else than a plain scalar. -/
def marks : List Char := "-?:,[]\x7b\x7d#&*!|>'\"%@\x60".toList

/-- Whether a plain scalar starts here. -/
def startsPlain (lexer : Lexer) (c : Char) : Bool :=
  let next := (lexer.cursor.rest.drop 1).head?
  !marks.contains c || (c == '-' && !(next.map isBlank).getD false) ||
    (!lexer.inBrackets && (c == '?' || c == ':') && !(next.map isSpace).getD true)

/-- The token that starts with a character. -/
def token? (lexer : Lexer) (c : Char) : Option Lexer :=
  let beforeSpace := lexer.cursor.isSpaceAt 1
  if c == '%' && lexer.cursor.column == 0 then lexer.directive?
  else if lexer.cursor.atDocumentMark then lexer.documentMark?
  else if c == '[' then lexer.bracketOpen? .flowListStart
  else if c == '\x7b' then lexer.bracketOpen? .flowTableStart
  else if c == ']' then lexer.bracketClose? .flowListEnd
  else if c == '\x7d' then lexer.bracketClose? .flowTableEnd
  else if c == ',' then lexer.comma?
  else if c == '-' && beforeSpace then lexer.dash?
  else if c == '?' && (lexer.inBrackets || beforeSpace) then lexer.key?
  else if c == ':' && (lexer.inBrackets || beforeSpace) then lexer.value?
  else if c == '*' then lexer.named? .alias
  else if c == '&' then lexer.named? .anchor
  else if c == '!' then lexer.tag?
  else if (c == '|' || c == '>') && !lexer.inBrackets then lexer.block? (c == '>')
  else if c == '\'' || c == '"' then lexer.quoted? c
  else if !isSpace c && lexer.startsPlain c then lexer.plain?
  else none

/-- The end of the text closes all blocks. -/
def finish? (lexer : Lexer) : Option (List Token) := do
  return (← (lexer.closeBlocks (-1)).dropKey?).tokens

/-- Reads tokens up to the end of the text. -/
def read? : (fuel : Nat) → Lexer → Option (List Token)
  | 0, _ => none
  | fuel + 1, lexer => do
    let lexer ← (lexer.skipSpace (lexer.cursor.rest.length + 1)).dropStale?
    match lexer.cursor.peek? with
    | some c => read? fuel (← (lexer.closeBlocks lexer.cursor.column).token? c)
    | none => lexer.finish?

end Lexer

/-- The tokens of a text. -/
def tokens? (text : String) : Option (List Token) :=
  let chars := text.toList
  if chars.all isAllowed then (Lexer.start chars).skipMark.read? (chars.length + 1) else none

end Scaffold.Yaml
