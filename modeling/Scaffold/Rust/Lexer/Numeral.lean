import Scaffold.Text.Hex
import Scaffold.Text.Identifier

/-! Words and numerals. Each scanner gives the rest of the text after the longest numeral. -/

namespace Scaffold.Rust.Lexer

open Scaffold.Text

/-- A word and the rest. -/
def word? : List Char → Option (List Char × List Char)
  | [] => none
  | c :: rest =>
    if Identifier.isStart c then
      some (c :: rest.takeWhile Identifier.isContinue, rest.dropWhile Identifier.isContinue)
    else none

/-- The rest after the suffix of a literal, which may be absent. -/
def dropSuffix (text : List Char) : List Char :=
  match word? text with
  | some (_, rest) => rest
  | none => text

/-- No word may continue a numeral. -/
def atWordEnd (text : List Char) : Option (List Char) :=
  if text.head?.any Identifier.isContinue then none else some text

/-- Digits of an exponent: an optional sign, and at least one digit among underscores. -/
def exponentDigits (signed valued : Bool) : List Char → Option (List Char)
  | [] => if valued then some [] else none
  | c :: rest =>
    if c = '+' ∨ c = '-' then
      if valued then some (c :: rest) else if signed then none else exponentDigits true valued rest
    else if c.isDigit then exponentDigits signed true rest
    else if c = '_' then exponentDigits signed valued rest
    else if valued then some (c :: rest) else none

/-- The rest of a number with a fraction or an exponent, after its first digit. -/
def floatDigits (dotted : Bool) : List Char → Option (List Char)
  | [] => if dotted then some [] else none
  | c :: rest =>
    if c.isDigit || c == '_' then floatDigits dotted rest
    else if c = '.' then
      if dotted then some (c :: rest)
      else if rest.head?.any fun next => next == '.' || Identifier.isStart next then none
      else floatDigits true rest
    else if c = 'e' ∨ c = 'E' then
      match exponentDigits false false rest with
      | some after => some after
      | none => if dotted then some (c :: rest) else none
    else if dotted then some (c :: rest) else none

def float? : List Char → Option (List Char)
  | [] => none
  | c :: rest => if c.isDigit then (floatDigits false rest).bind fun after => atWordEnd (dropSuffix after) else none

/-- Digits of a whole number in a base; `found` says whether one was seen. -/
def wholeDigits (base : Nat) (found : Bool) : List Char → Option (List Char)
  | [] => if found then some [] else none
  | c :: rest =>
    match Hex.digit? c with
    | some d =>
      if d < base then wholeDigits base true rest
      else if d < 10 then none
      else if found then some (c :: rest) else none
    | none =>
      if c = '_' then
        if !found && base == 10 then none else wholeDigits base found rest
      else if found then some (c :: rest) else none

def whole? (text : List Char) : Option (List Char) := do
  let after ← match text with
    | '0' :: 'x' :: rest => wholeDigits 16 false rest
    | '0' :: 'o' :: rest => wholeDigits 8 false rest
    | '0' :: 'b' :: rest => wholeDigits 2 false rest
    | _ => wholeDigits 10 false text
  atWordEnd (dropSuffix after)

end Scaffold.Rust.Lexer
