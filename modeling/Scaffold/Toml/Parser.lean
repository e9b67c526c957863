import Scaffold.Toml.Scalar
import Scaffold.Toml.Table

/-! From a TOML text to the document that it stands for. -/

namespace Scaffold.Toml

open Text Reader

def blanks : Reader Unit := do let _ ← run isBlank

def comment : Reader Unit := do
  literal "#"
  let _ ← run isPrintable

/-- Blanks, comments and line ends. -/
def space : Reader Unit := do
  let _ ← many ((do let _ ← runSome isBlank) <|> newline <|> (do
    comment
    newline <|> atEnd))

/-- The rest of a line, with its end. -/
def lineEnd : Reader Unit := do
  blanks
  let _ ← attempt comment
  newline <|> atEnd

def bareKey : Reader String :=
  (runSome fun c => c.isAlphanum || c == '_' || c == '-').map String.ofList

def simpleKey : Reader String :=
  bareKey <|> basicString.map String.ofList <|> literalString.map String.ofList

/-- A key with points between its parts. -/
def key : Reader (List String) := do
  blanks
  let first ← simpleKey
  let more ← many do
    blanks
    literal "."
    blanks
    simpleKey
  blanks
  return first :: more

/-- A value that holds no others. -/
def scalar : Reader Document :=
  string.map .text <|>
  (do
    literal "true"
    return .boolean true) <|>
  (do
    literal "false"
    return .boolean false) <|>
  (matched (moment <|> number)).map fun text => .number (String.ofList text)

/-- Values with commas between them, and maybe one at the end. -/
def listItems (item : Reader Document) : Reader (List Document) := do
  space
  match ← attempt item with
  | none => return []
  | some first =>
    let more ← many do
      space
      literal ","
      space
      item
    space
    let _ ← attempt (literal ",")
    space
    return first :: more

/-- Adds a value to a table in braces. -/
def addEntry? (table : Table) (entry : List String × Document) : Option Table := do
  table.addValue? entry.1.dropLast (← entry.1.getLast?) entry.2

/-- A value of a bounded depth. A value in braces stands on one line and has no comma at its end. -/
def value : (depth : Nat) → Reader Document
  | 0 => failure
  | depth + 1 => do
    scalar <|> (do
      literal "["
      let items ← listItems (value depth)
      literal "]"
      return .list items) <|> (do
      literal "\x7b"
      let entry : Reader (List String × Document) := do
        let path ← key
        literal "="
        blanks
        let document ← value depth
        blanks
        return (path, document)
      let entries ← (do
        let first ← entry
        let more ← many do
          literal ","
          entry
        return first :: more) <|> (do
        blanks
        return [])
      literal "\x7d"
      match entries.foldlM addEntry? ⟨.implied, []⟩ with
      | some table => return table.toDocument
      | none => failure)

/-- The deepest nesting of values. -/
def depthLimit : Nat := 80

/-- One line of a text: a header, or a key with a value. -/
def line (reading : Reading) : Reader Reading := do
  let result ←
    (do
      literal "[["
      let path ← key
      literal "]]"
      return reading.openListed? path) <|> (do
      literal "["
      let path ← key
      literal "]"
      return reading.openTable? path) <|> (do
      let path ← key
      literal "="
      blanks
      let document ← value depthLimit
      return (path.getLast?).bind fun last => reading.addValue? path.dropLast last document)
  lineEnd
  match result with
  | some reading => return reading
  | none => failure

/-- The lines of a text. -/
def lines : (fuel : Nat) → Reading → Reader Reading
  | 0, _ => failure
  | fuel + 1, reading => fun rest =>
    match space rest with
    | some (_, []) => some (reading, [])
    | some (_, rest) =>
      match line reading rest with
      | some (reading, rest) => lines fuel reading rest
      | none => none
    | none => none

/-- The document that a whole text stands for. -/
def parse (text : String) : Option Document := do
  let chars := text.toList
  let chars := if chars.head? == some '\ufeff' then chars.tail else chars
  let reading ← whole? (lines (chars.length + 1) .start) chars
  return (← reading.finish?).toDocument

end Scaffold.Toml
