import Scaffold.Rust.Token
import Scaffold.Text.Blank

/-!
Gaps between tokens. Plain comments are skipped; comments that document an item are kept, as they
stand for attributes.
-/

namespace Scaffold.Rust.Lexer

/-- Blanks of the language: those of Unicode and the two direction marks. -/
def isGap (c : Char) : Bool :=
  Text.isBlank c || c == '\u200e' || c == '\u200f'

/-- The rest after `part`, if the text starts with it. -/
def dropPart? (part : List Char) (text : List Char) : Option (List Char) :=
  if part.isPrefixOf text then some (text.drop part.length) else none

/-- Cuts a text before its first line feed; a carriage return before the line feed is dropped. -/
def splitLine : List Char → List Char × List Char
  | [] => ([], [])
  | '\n' :: rest => ([], '\n' :: rest)
  | '\r' :: '\n' :: rest => ([], '\n' :: rest)
  | c :: rest =>
    let (line, after) := splitLine rest
    (c :: line, after)

/-- The text of a block comment after its opening, up to the close at the given depth, and the rest. -/
def splitBlock : Nat → List Char → Option (List Char × List Char)
  | _, [] => none
  | _, [_] => none
  | depth, a :: b :: rest =>
    if a = '*' ∧ b = '/' then
      match depth with
      | 0 => some ([], rest)
      | depth + 1 => (splitBlock depth rest).map fun (text, after) => (a :: b :: text, after)
    else if a = '/' ∧ b = '*' then
      (splitBlock (depth + 1) rest).map fun (text, after) => (a :: b :: text, after)
    else
      (splitBlock depth (b :: rest)).map fun (text, after) => (a :: text, after)

/-- One blank or plain comment at the start of a text, skipped. -/
def skipOne? : List Char → Option (List Char)
  | '/' :: '/' :: rest =>
    match rest with
    | '!' :: _ => none
    | '/' :: '/' :: _ => some (splitLine rest).2
    | '/' :: _ => none
    | _ => some (splitLine rest).2
  | '/' :: '*' :: rest =>
    match rest with
    | '*' :: '/' :: after => some after
    | '!' :: _ => none
    | '*' :: '*' :: _ => (splitBlock 0 rest).map (·.2)
    | '*' :: _ => none
    | _ => (splitBlock 0 rest).map (·.2)
  | c :: rest => if isGap c then some rest else none
  | [] => none

/-- Skips blanks and plain comments; `fuel` is at least the length of the text. -/
def skipGaps : (fuel : Nat) → List Char → List Char
  | 0, text => text
  | fuel + 1, text =>
    match skipOne? text with
    | some rest => skipGaps fuel rest
    | none => text

/-- Whether every carriage return is followed by a line feed. -/
def noLoneReturn : List Char → Bool
  | [] => true
  | '\r' :: rest => rest.head? == some '\n' && noLoneReturn rest
  | _ :: rest => noLoneReturn rest

/-- A documentation comment: whether it is an inner one, its text, and the rest. -/
def documentation? (text : List Char) : Option (Bool × List Char × List Char) := do
  let (inner, comment, rest) ←
    match text with
    | '/' :: '/' :: '!' :: rest => some (true, splitLine rest)
    | '/' :: '*' :: '!' :: rest => (splitBlock 0 rest).map ((true, ·))
    | '/' :: '/' :: '/' :: rest =>
      if rest.head? == some '/' then none else some (false, splitLine rest)
    | '/' :: '*' :: '*' :: rest =>
      if rest.head? == some '*' then none else (splitBlock 0 rest).map ((false, ·))
    | _ => none
  if noLoneReturn comment then some (inner, comment, rest) else none

end Scaffold.Rust.Lexer
