import Scaffold.Document
import Scaffold.Text.Hex

/-! Writing of JSON text, with one entry on each line or without blanks. -/

namespace Scaffold.Json

open Text

/-- What is written for a character inside a string. -/
def escaped (c : Char) : List Char :=
  match c with
  | '"' => ['\\', '"']
  | '\\' => ['\\', '\\']
  | '\x08' => ['\\', 'b']
  | '\x0c' => ['\\', 'f']
  | '\n' => ['\\', 'n']
  | '\r' => ['\\', 'r']
  | '\t' => ['\\', 't']
  | c =>
    if c.toNat < 0x20 then
      ['\\', 'u', '0', '0', Hex.digitChar (c.toNat / 16), Hex.digitChar (c.toNat % 16)]
    else [c]

def quoted (text : String) : List Char := '"' :: text.toList.flatMap escaped ++ ['"']

def indentation (depth : Nat) : List Char := List.replicate (2 * depth) ' '

mutual

/-- A document at a depth of nesting. Empty lists and tables stay on one line. -/
def write (depth : Nat) : Document → List Char
  | .null => "null".toList
  | .boolean value => (if value then "true" else "false").toList
  | .number text => text.toList
  | .text value => quoted value
  | .brokenText => quoted ""
  | .plain value => quoted value
  | .named _ content => write depth content
  | .list [] => ['[', ']']
  | .list items => '[' :: writeItems depth items ++ '\n' :: indentation depth ++ [']']
  | .table [] => ['\x7b', '}']
  | .table entries => '\x7b' :: writeEntries depth entries ++ '\n' :: indentation depth ++ ['}']

def writeItems (depth : Nat) : List Document → List Char
  | [] => []
  | item :: rest =>
    '\n' :: indentation (depth + 1) ++ write (depth + 1) item ++
      (if rest.isEmpty then [] else [',']) ++ writeItems depth rest

def writeEntries (depth : Nat) : List (String × Document) → List Char
  | [] => []
  | (key, value) :: rest =>
    '\n' :: indentation (depth + 1) ++ quoted key ++ [':', ' '] ++ write (depth + 1) value ++
      (if rest.isEmpty then [] else [',']) ++ writeEntries depth rest

end

/-- The text of a document. -/
def print (document : Document) : String := String.ofList (write 0 document)

mutual

/-- A document on one line, without blanks. -/
def writeCompact : Document → List Char
  | .null => "null".toList
  | .boolean value => (if value then "true" else "false").toList
  | .number text => text.toList
  | .text value => quoted value
  | .brokenText => quoted ""
  | .plain value => quoted value
  | .named _ content => writeCompact content
  | .list items => '[' :: writeCompactItems items ++ [']']
  | .table entries => '\x7b' :: writeCompactEntries entries ++ ['}']

def writeCompactItems : List Document → List Char
  | [] => []
  | item :: rest => writeCompact item ++ (if rest.isEmpty then [] else [',']) ++ writeCompactItems rest

def writeCompactEntries : List (String × Document) → List Char
  | [] => []
  | (key, value) :: rest =>
    quoted key ++ ':' :: writeCompact value ++ (if rest.isEmpty then [] else [',']) ++
      writeCompactEntries rest

end

/-- The text of a document on one line. -/
def printCompact (document : Document) : String := String.ofList (writeCompact document)

end Scaffold.Json
