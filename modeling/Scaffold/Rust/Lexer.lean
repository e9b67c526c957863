import Scaffold.Rust.Lexer.Quote

/-! Scanning of source text into token trees. -/

namespace Scaffold.Rust.Lexer

open Scaffold.Text

/-- The characters of operators and separators; the single quote begins a lifetime. -/
def isPunctuation (c : Char) : Bool := "~!@#$%^&*-=+|;:,<.>/?'".toList.contains c

/-- A punctuation character; the slash of a comment is none. -/
def punctuation? : List Char → Option (Char × List Char)
  | [] => none
  | '/' :: rest =>
    if rest.head? == some '/' || rest.head? == some '*' then none else some ('/', rest)
  | c :: rest => if isPunctuation c then some (c, rest) else none

/-- Words that keep their meaning when they are written raw. -/
def neverRaw : List String := ["_", "super", "self", "Self", "crate"]

/-- A word, raw or not, as it is written. -/
def name? (text : List Char) : Option (String × List Char) :=
  match text with
  | 'r' :: '#' :: rest => do
    let (word, after) ← word? rest
    if neverRaw.contains (String.ofList word) then none
    else some (String.ofList ('r' :: '#' :: word), after)
  | _ => (word? text).map fun (word, after) => (String.ofList word, after)

/-- Letters that would begin a quoted literal begin no word. -/
def beginsQuote (text : List Char) : Bool :=
  ["r\"", "r#\"", "r##", "b\"", "b'", "br\"", "br#", "c\"", "cr\"", "cr#"].any fun opening =>
    opening.toList.isPrefixOf text

/-- A punctuation character with its spacing; a single quote must begin a lifetime. -/
def punct? (text : List Char) : Option (TokenTree × List Char) := do
  let (c, rest) ← punctuation? text
  if c = '\'' then
    let (_, after) ← name? rest
    if after.head? == some '\'' || (after.head? == some '#' && !"r#".toList.isPrefixOf rest) then
      none
    else some (.punct c true, rest)
  else some (.punct c (punctuation? rest).isSome, rest)

def literal? (text : List Char) : Option (TokenTree × List Char) := do
  let rest ← (quotedLiteral? text).or ((float? text).or (whole? text))
  some (.literal (String.ofList (text.take (text.length - rest.length))), rest)

def leaf? (text : List Char) : Option (TokenTree × List Char) :=
  (literal? text).or <| (punct? text).or <|
    if beginsQuote text then none
    else (name? text).map fun (word, rest) => (.word word, rest)

def delimiter? : Char → Option Lexeme
  | '(' => some (.opening .parenthesis)
  | ')' => some (.closing .parenthesis)
  | '[' => some (.opening .bracket)
  | ']' => some (.closing .bracket)
  | '\x7b' => some (.opening .brace)
  | '}' => some (.closing .brace)
  | _ => none

/-- The lexeme at the start of a text that begins with no gap. -/
def lexeme? : List Char → Option (Lexeme × List Char)
  | [] => none
  | c :: rest =>
    match documentation? (c :: rest) with
    | some (inner, comment, after) => some (.documentation inner comment, after)
    | none =>
      match delimiter? c with
      | some lexeme => some (lexeme, rest)
      | none => (leaf? (c :: rest)).map fun (token, after) => (.leaf token, after)

/-- All lexemes of a text; `fuel` is more than its length. -/
def lexemes : (fuel : Nat) → List Char → Option (List Lexeme)
  | 0, _ => none
  | fuel + 1, text =>
    match skipGaps (fuel + 1) text with
    | [] => some []
    | rest => do
      let (lexeme, after) ← lexeme? rest
      let more ← lexemes fuel after
      some (lexeme :: more)

/-- A raw string literal with more marks than its text has, so that the text stands in it as it is. -/
def rawLiteral (text : List Char) : String :=
  let marks := String.ofList (List.replicate (text.count '#' + 1) '#')
  "r" ++ marks ++ "\"" ++ String.ofList text ++ "\"" ++ marks

/-- The attribute that a documentation comment stands for. -/
def documentationTokens (inner : Bool) (text : List Char) : List TokenTree :=
  .punct '#' false :: (if inner then [.punct '!' false] else []) ++
    [.group .bracket [.word "doc", .punct '=' false, .literal (rawLiteral text)]]

/-- Forms the groups. `closed` holds the trees of the innermost open group, last first, and `stack`
those of the groups around it. -/
def nest (stack : List (Delimiter × List TokenTree)) (closed : List TokenTree) :
    List Lexeme → Option (List TokenTree)
  | [] => if stack.isEmpty then some closed.reverse else none
  | .opening delimiter :: rest => nest ((delimiter, closed) :: stack) [] rest
  | .closing delimiter :: rest =>
    match stack with
    | (opened, outer) :: stack =>
      if opened = delimiter then nest stack (.group delimiter closed.reverse :: outer) rest else none
    | [] => none
  | .leaf token :: rest => nest stack (token :: closed) rest
  | .documentation inner text :: rest =>
    nest stack ((documentationTokens inner text).reverse ++ closed) rest

def byteOrderMark : Char := '\ufeff'

/-- The token trees of a text, if it has them. A byte order mark at its start is skipped. -/
def tokenize (text : List Char) : Option (List TokenTree) :=
  let text := if text.head? == some byteOrderMark then text.tail else text
  (lexemes (text.length + 1) text).bind (nest [] [])

end Scaffold.Rust.Lexer
