import Scaffold.Rust.Literal
import Scaffold.Rust.Printer.Tokens

/-! Attributes, of which documentation and comments are written as such, and plain paths. -/

namespace Scaffold.Rust.Printing

open Text.Layout Draft

/-- The words of a path, without arguments. -/
def plainPath (path : Tree) : Draft Unit :=
  match path.children with
  | leading :: segments => do
    text leading
    between (word "::") (fun segment => text (segment.child 0)) segments
  | [] => pure ()

/-- Whether a path is one word. -/
def isWord (name : String) (path : Tree) : Bool :=
  match path.children with
  | [leading, segment] =>
    leading.text.isEmpty && (segment.child 0).text == name && (segment.child 1).isAbsent
  | _ => false

def trimSpaces (line : List Char) : List Char := (line.reverse.dropWhile (· == ' ')).reverse

/-- The text with no blanks at the end of any line but the last. -/
def trimLines (text : List Char) : List Char :=
  let lines := (String.ofList text).splitOn "\n"
  ("\n".intercalate ((lines.dropLast.map fun line => String.ofList (trimSpaces line.toList)) ++
    lines.getLast?.toList)).toList

/-- Whether the comments inside a text are closed, none of them more than once. -/
def closesComments (depth : Nat) : List Char → Bool
  | '/' :: '*' :: rest => closesComments (depth + 1) rest
  | '*' :: '/' :: rest => if depth = 0 then false else closesComments (depth - 1) rest
  | _ :: rest => closesComments depth rest
  | [] => depth == 0

def canBeBlockComment (text : List Char) : Bool :=
  closesComments 0 text && text.getLast? != some '/'

/-- A text as a comment: on a line if it has only one and may start so, else between marks. -/
def comment? (lineMark blockMark : String) (noLineStart noBlockStart : List Char)
    (text : List Char) : Option (Draft Unit) :=
  let startsWith (marks : List Char) : Bool := (text.head?.map marks.contains).getD false
  if !text.contains '\n' && !startsWith noLineStart then
    some do
      word lineMark
      word (String.ofList (trimSpaces text))
      line
  else if canBeBlockComment text && !startsWith noBlockStart then
    some do
      word blockMark
      word (String.ofList (trimLines text))
      word "*/"
      line
  else none

/-- The text of an attribute of a name whose value is a text. -/
def valueOf? (name : String) (path content : Tree) : Option (List Char) :=
  match content with
  | .node .literalExpr [.node .list [], .word literal] =>
    if isWord name path && Literal.isText literal then Literal.text? literal else none
  | _ => none

/-- An attribute as a comment, if it can be one. -/
def attributeComment? (isInner : Bool) (path content : Tree) : Option (Draft Unit) :=
  match valueOf? "doc" path content with
  | some text =>
    if isInner then comment? "//!" "/*!" [] [] text
    else comment? "///" "/**" ['/'] ['*', '/'] text
  | none =>
    (valueOf? "comment" path content).bind (comment? "//" "/*" [] ['*', '!'])

variable (p : Printer)

/-- The path of an attribute and what follows it. -/
def attributeContent (path content : Tree) : Draft Unit := do
  plainPath path
  match content with
  | .tokens body => let _ ← attributeTokens .word body
  | _ =>
    if !content.isAbsent then
      word " = "
      p.expression content

def attributeLine : Tree → Draft Unit
  | .node .attributeLine [.word style, path, content] =>
    match attributeComment? (style == "#!") path content with
    | some comment => comment
    | none => do
      word (style ++ "[")
      attributeContent p path content
      word "]"
      space
  | _ => pure ()

def isStyle (style : String) (tree : Tree) : Bool := (tree.child 0).text == style

/-- The attributes before what they are about. -/
def outerAttributes (attributes : Tree) : Draft Unit :=
  (attributes.children.filter (isStyle "#")).forM (attributeLine p)

/-- The attributes inside of what they are about. -/
def innerAttributes (attributes : Tree) : Draft Unit :=
  (attributes.children.filter (isStyle "#!")).forM (attributeLine p)

def hasOuter (attributes : Tree) : Bool := attributes.children.any (isStyle "#")

def hasInner (attributes : Tree) : Bool := attributes.children.any (isStyle "#!")

end Scaffold.Rust.Printing
