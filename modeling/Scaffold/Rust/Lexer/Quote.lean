import Scaffold.Rust.Lexer.Comment
import Scaffold.Rust.Lexer.Numeral

/-!
Quoted literals: strings, byte strings, strings that end in a zero byte, their raw forms, and single
characters and bytes. Each scanner gives the rest of the text after the literal.
-/

namespace Scaffold.Rust.Lexer

open Scaffold.Text

/-- What a quoted literal may hold. -/
inductive QuoteClass where
  /-- any character -/
  | text
  /-- ASCII characters -/
  | bytes
  /-- any character but the zero one -/
  | terminated
  deriving DecidableEq

/-- The character that the digits of a Unicode escape name; up to six digits, then a closing brace. -/
def unicodeDigits (value count : Nat) : List Char → Option (Nat × List Char)
  | [] => none
  | c :: rest =>
    match Hex.digit? c with
    | some d => if count = 6 then none else unicodeDigits (16 * value + d) (count + 1) rest
    | none =>
      if count = 0 then none
      else if c = '_' then unicodeDigits value count rest
      else if c = '}' ∧ (value < 0xD800 ∨ 0xE000 ≤ value ∧ value < 0x110000) then some (value, rest)
      else none

def unicodeEscape? : List Char → Option (Nat × List Char)
  | '\x7b' :: rest => unicodeDigits 0 0 rest
  | _ => none

/-- The value of a two-digit escape. -/
def hexEscape? : List Char → Option (Nat × List Char)
  | a :: b :: rest => do
    let high ← Hex.digit? a
    let low ← Hex.digit? b
    some (16 * high + low, rest)
  | _ => none

/-- One escape after its backslash: the code it names and the rest. -/
def escape? (cls : QuoteClass) : List Char → Option (Nat × List Char)
  | 'n' :: rest => some (10, rest)
  | 'r' :: rest => some (13, rest)
  | 't' :: rest => some (9, rest)
  | '\\' :: rest => some (92, rest)
  | '\'' :: rest => some (39, rest)
  | '"' :: rest => some (34, rest)
  | '0' :: rest => if cls = .terminated then none else some (0, rest)
  | 'x' :: rest => do
    let (value, after) ← hexEscape? rest
    match cls with
    | .text => if value < 128 then some (value, after) else none
    | .bytes => some (value, after)
    | .terminated => if value = 0 then none else some (value, after)
  | 'u' :: rest => do
    let (value, after) ← unicodeEscape? rest
    match cls with
    | .text => some (value, after)
    | .bytes => none
    | .terminated => if value = 0 then none else some (value, after)
  | _ => none

/-- The rest after the blanks that follow a backslash at the end of a line. -/
def continuation? : List Char → Option (List Char)
  | [] => none
  | '\r' :: '\n' :: rest => continuation? rest
  | '\r' :: _ => none
  | c :: rest => if c = ' ' ∨ c = '\t' ∨ c = '\n' then continuation? rest else some (c :: rest)

def admits (cls : QuoteClass) (c : Char) : Bool :=
  match cls with
  | .text => true
  | .bytes => c.toNat < 128
  | .terminated => c != '\x00'

/-- The rest after the closing quote; `fuel` is at least the length of the text. -/
def quoted? (cls : QuoteClass) : (fuel : Nat) → List Char → Option (List Char)
  | 0, _ => none
  | _, [] => none
  | _ + 1, '"' :: rest => some (dropSuffix rest)
  | fuel + 1, '\r' :: rest =>
    match rest with
    | '\n' :: after => quoted? cls fuel after
    | _ => none
  | fuel + 1, '\\' :: rest =>
    match rest with
    | '\n' :: _ => (continuation? rest).bind (quoted? cls fuel)
    | '\r' :: _ => (continuation? rest).bind (quoted? cls fuel)
    | _ => (escape? cls rest).bind fun (_, after) => quoted? cls fuel after
  | fuel + 1, c :: rest => if admits cls c then quoted? cls fuel rest else none

/-- The rest after the quote that closes a raw literal, followed by the same marks as the opening one. -/
def rawBody? (cls : QuoteClass) (marks : List Char) : List Char → Option (List Char)
  | [] => none
  | '"' :: rest =>
    match dropPart? marks rest with
    | some after => some (dropSuffix after)
    | none => rawBody? cls marks rest
  | '\r' :: rest => if rest.head? == some '\n' then rawBody? cls marks rest else none
  | c :: rest => if admits cls c then rawBody? cls marks rest else none

/-- A raw literal after its letters: at most 255 marks, a quote, the body. -/
def raw? (cls : QuoteClass) (text : List Char) : Option (List Char) :=
  let marks := text.takeWhile (· == '#')
  match text.dropWhile (· == '#') with
  | '"' :: rest => if marks.length ≤ 255 then rawBody? cls marks rest else none
  | _ => none

/-- One character between single quotes, after the opening one. -/
def single? (cls : QuoteClass) (text : List Char) : Option (List Char) := do
  let after ← match text with
    | [] => none
    | '\\' :: rest => (escape? cls rest).map (·.2)
    | c :: rest => if admits cls c then some rest else none
  match after with
  | '\'' :: rest => some (dropSuffix rest)
  | _ => none

/-- The rest after a quoted literal. -/
def quotedLiteral? (text : List Char) : Option (List Char) :=
  let fuel := text.length
  match text with
  | '"' :: rest => quoted? .text fuel rest
  | 'r' :: rest => raw? .text rest
  | 'b' :: '"' :: rest => quoted? .bytes fuel rest
  | 'b' :: 'r' :: rest => raw? .bytes rest
  | 'c' :: '"' :: rest => quoted? .terminated fuel rest
  | 'c' :: 'r' :: rest => raw? .terminated rest
  | 'b' :: '\'' :: rest => single? .bytes rest
  | '\'' :: rest => single? .text rest
  | _ => none

end Scaffold.Rust.Lexer
