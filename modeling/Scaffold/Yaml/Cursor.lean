/-!
A place in a YAML text, with the characters that follow it. The column decides how far a line is
indented, and the line and the distance decide what may still be a key.
-/

namespace Scaffold.Yaml

structure Cursor where
  rest : List Char
  /-- how many characters, lines and characters of the line lie before -/
  index : Nat
  line : Nat
  column : Nat

def isBlank (c : Char) : Bool := c == ' ' || c == '\t'

def isBreak (c : Char) : Bool :=
  c == '\n' || c == '\r' || c == '\u0085' || c == '\u2028' || c == '\u2029'

def isSpace (c : Char) : Bool := isBlank c || isBreak c

/-- A character of a name. -/
def isWordChar (c : Char) : Bool := c.isAlphanum || c == '_' || c == '-'

/-- A character that may stand in a text. -/
def isAllowed (c : Char) : Bool :=
  let n := c.toNat
  n == 9 || n == 10 || n == 13 || (0x20 ≤ n && n ≤ 0x7E) || n == 0x85 ||
    (0xA0 ≤ n && n ≤ 0xFFFD) || 0x10000 ≤ n

namespace Cursor

def ofText (text : List Char) : Cursor := ⟨text, 0, 0, 0⟩

/-- The place some characters further on the same line. -/
def skip (cursor : Cursor) (count : Nat) : Cursor :=
  { cursor with
    rest := cursor.rest.drop count
    index := cursor.index + count
    column := cursor.column + count }

def peek? (cursor : Cursor) : Option Char := cursor.rest.head?

def startsWith (cursor : Cursor) (text : String) : Bool := text.toList.isPrefixOf cursor.rest

/-- The longest run of characters of a class, none of which ends a line. -/
def takeWhile (cursor : Cursor) (accepts : Char → Bool) : List Char × Cursor :=
  let run := cursor.rest.takeWhile accepts
  (run, cursor.skip run.length)

def skipWhile (cursor : Cursor) (accepts : Char → Bool) : Cursor := (cursor.takeWhile accepts).2

/-- The start of the next line, after an ending of so many characters. -/
def nextLine (cursor : Cursor) (ending : Nat) : Cursor :=
  ⟨cursor.rest.drop ending, cursor.index + ending, cursor.line + 1, 0⟩

/-- The end of a line: what it stands for in a text, and the start of the next one. -/
def lineEnd? (cursor : Cursor) : Option (Char × Cursor) :=
  match cursor.rest with
  | '\r' :: '\n' :: _ => some ('\n', cursor.nextLine 2)
  | c :: _ =>
    if c == '\u2028' || c == '\u2029' then some (c, cursor.nextLine 1)
    else if isBreak c then some ('\n', cursor.nextLine 1)
    else none
  | [] => none

/-- Whether the character so many places further is a space, or the text ends there. -/
def isSpaceAt (cursor : Cursor) (offset : Nat) : Bool :=
  match cursor.rest.drop offset with
  | c :: _ => isSpace c
  | [] => true

/-- Whether a line starts here with one of the marks between documents. -/
def atDocumentMark (cursor : Cursor) : Bool :=
  cursor.column == 0 && (cursor.startsWith "---" || cursor.startsWith "...") && cursor.isSpaceAt 3

/-- The rest of a line, where only blanks and a comment may stand; the line end is not taken. -/
def restOfLine? (cursor : Cursor) : Option Cursor :=
  let cursor := cursor.skipWhile isBlank
  let cursor := if cursor.peek? == some '#' then cursor.skipWhile (!isBreak ·) else cursor
  match cursor.peek? with
  | some c => if isBreak c then some cursor else none
  | none => some cursor

/-- The start of the next line, or the end of the text. -/
def pastLineEnd (cursor : Cursor) : Cursor := ((cursor.lineEnd?).map (·.2)).getD cursor

end Cursor

end Scaffold.Yaml
