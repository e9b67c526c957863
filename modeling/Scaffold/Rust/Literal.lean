import Scaffold.Rust.Lexer.Quote

/-! Kinds and values of literals, read from their text. -/

namespace Scaffold.Rust.Literal

open Scaffold.Text

/-- A literal between double quotes, raw or not. -/
def isText (literal : String) : Bool :=
  match literal.toList with
  | '"' :: _ => true
  | 'r' :: _ => true
  | _ => false

def isNumber (literal : String) : Bool := literal.toList.head?.any Char.isDigit

/-- Whether what follows a point or an `e` makes a decimal numeral a fraction: at least one digit,
and then nothing or a suffix. -/
def isExponent (found : Bool) : List Char → Bool
  | [] => found
  | c :: rest =>
    if c = '_' then isExponent found rest
    else if c = '+' ∨ c = '-' then true
    else if c.isDigit then isExponent true rest
    else found && Identifier.isIdentifier (c :: rest)

/-- The value of the digits of a whole number, and its suffix. -/
def wholeDigits (base : Nat) (found : Bool) (value : Nat) : List Char → Option (Nat × List Char)
  | [] => if found then some (value, []) else none
  | c :: rest =>
    let suffix := if found && Identifier.isIdentifier (c :: rest) then some (value, c :: rest) else none
    if c = '_' then wholeDigits base found value rest
    else if base = 10 ∧ c = '.' then none
    else if base = 10 ∧ (c = 'e' ∨ c = 'E') then
      if isExponent false rest then none else suffix
    else if c.isDigit || (base == 16 && Hex.isDigit c) then
      let d := (Hex.digit? c).getD 0
      if d < base then wholeDigits base true (base * value + d) rest else none
    else suffix

/-- The value and the suffix of a whole number. -/
def whole? (literal : List Char) : Option (Nat × List Char) :=
  match literal with
  | '0' :: 'x' :: rest => wholeDigits 16 false 0 rest
  | '0' :: 'o' :: rest => wholeDigits 8 false 0 rest
  | '0' :: 'b' :: rest => wholeDigits 2 false 0 rest
  | c :: rest => if c.isDigit then wholeDigits 10 false 0 (c :: rest) else none
  | [] => none

/-- The position of a tuple field: a whole number of 32 bits without a suffix. -/
def index? (literal : List Char) : Option Nat :=
  match whole? literal with
  | some (value, []) => if value < Nat.pow 2 32 then some value else none
  | _ => none

def isWhole (literal : String) : Bool := (whole? literal.toList).isSome

def isFraction (literal : String) : Bool := isNumber literal && !isWhole literal

/-- The text between the quotes of a string with its escapes resolved; `fuel` is at least its length. -/
def unescape : (fuel : Nat) → List Char → List Char
  | 0, _ => []
  | _, [] => []
  | _ + 1, '"' :: _ => []
  | fuel + 1, '\r' :: '\n' :: rest => '\n' :: unescape fuel rest
  | fuel + 1, '\\' :: rest =>
    match rest with
    | '\n' :: _ => ((Lexer.continuation? rest).map (unescape fuel)).getD []
    | '\r' :: _ => ((Lexer.continuation? rest).map (unescape fuel)).getD []
    | _ =>
      match Lexer.escape? .text rest with
      | some (code, after) => Char.ofNat code :: unescape fuel after
      | none => []
  | fuel + 1, c :: rest => c :: unescape fuel rest

/-- The text of a raw string after its opening: it ends at the first quote with as many marks. -/
def rawText (marks : List Char) : List Char → List Char
  | [] => []
  | '"' :: rest => if marks.isPrefixOf rest then [] else '"' :: rawText marks rest
  | c :: rest => c :: rawText marks rest

/-- The text that a string literal stands for. -/
def text? (literal : String) : Option (List Char) :=
  match literal.toList with
  | '"' :: rest => some (unescape rest.length rest)
  | 'r' :: rest => some (rawText (rest.takeWhile (· == '#')) ((rest.dropWhile (· == '#')).drop 1))
  | _ => none

end Scaffold.Rust.Literal
