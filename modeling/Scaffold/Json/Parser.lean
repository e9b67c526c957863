import Scaffold.Document
import Scaffold.Text.Hex

/-! Reading of JSON text. -/

namespace Scaffold.Json

open Text

def isSpace (c : Char) : Bool := c == ' ' || c == '\t' || c == '\n' || c == '\r'

def skipSpace (text : List Char) : List Char := text.dropWhile isSpace

/-- Four hexadecimal digits. -/
def hexUnit? : List Char → Option (Nat × List Char)
  | a :: b :: c :: d :: rest =>
    if [a, b, c, d].all Hex.isDigit then some (Hex.value [a, b, c, d], rest) else none
  | _ => none

/-- The character of a Unicode escape after its letter; `none` in place of the character for half
of a surrogate pair. -/
def unicodeEscape? (text : List Char) : Option (Option Char × List Char) := do
  let (high, rest) ← hexUnit? text
  if high < 0xD800 ∨ 0xE000 ≤ high then some (some (Char.ofNat high), rest)
  else if 0xDC00 ≤ high then some (none, rest)
  else
    match rest with
    | '\\' :: 'u' :: after =>
      let (low, after) ← hexUnit? after
      if 0xDC00 ≤ low ∧ low < 0xE000 then
        some (some (Char.ofNat (0x10000 + (high - 0xD800) * 0x400 + (low - 0xDC00))), after)
      else some (none, after)
    | _ => some (none, rest)

def escape? : List Char → Option (Option Char × List Char)
  | '"' :: rest => some (some '"', rest)
  | '\\' :: rest => some (some '\\', rest)
  | '/' :: rest => some (some '/', rest)
  | 'b' :: rest => some (some '\x08', rest)
  | 'f' :: rest => some (some '\x0c', rest)
  | 'n' :: rest => some (some '\n', rest)
  | 'r' :: rest => some (some '\r', rest)
  | 't' :: rest => some (some '\t', rest)
  | 'u' :: rest => unicodeEscape? rest
  | _ => none

/-- The characters of a string after its opening quote, last first in `done`. -/
def stringBody? : (fuel : Nat) → (done : List (Option Char)) → List Char →
    Option (List (Option Char) × List Char)
  | 0, _, _ => none
  | _, _, [] => none
  | _ + 1, done, '"' :: rest => some (done.reverse, rest)
  | fuel + 1, done, '\\' :: rest => do
    let (c, after) ← escape? rest
    stringBody? fuel (c :: done) after
  | fuel + 1, done, c :: rest =>
    if c.toNat < 0x20 then none else stringBody? fuel (some c :: done) rest

def string? (fuel : Nat) (text : List Char) : Option (Option String × List Char) := do
  let (chars, rest) ← stringBody? fuel [] text
  some ((chars.mapM id).map String.ofList, rest)

/-- At least one digit. -/
def digits? (text : List Char) : Option (List Char × List Char) :=
  let digits := text.takeWhile Char.isDigit
  if digits.isEmpty then none else some (digits, text.dropWhile Char.isDigit)

/-- The rest after a number: a whole part without a leading zero, a fraction, an exponent. -/
def number? (text : List Char) : Option (List Char) := do
  let text := if text.head? == some '-' then text.tail else text
  let (whole, rest) ← digits? text
  if whole.length > 1 ∧ whole.head? = some '0' then none
  let rest ← match rest with
    | '.' :: rest => (digits? rest).map (·.2)
    | rest => some rest
  match rest with
  | c :: after =>
    if c = 'e' ∨ c = 'E' then
      let after := if after.head? == some '+' || after.head? == some '-' then after.tail else after
      (digits? after).map (·.2)
    else some rest
  | [] => some []

def word? (word : String) (value : Document) (text : List Char) : Option (Document × List Char) :=
  if word.toList.isPrefixOf text then some (value, text.drop word.length) else none

mutual

/-- A value at the start of a text, after blanks. -/
def value? : (fuel : Nat) → List Char → Option (Document × List Char)
  | 0, _ => none
  | fuel + 1, text =>
    match skipSpace text with
    | [] => none
    | '"' :: rest =>
      (string? (rest.length + 1) rest).map fun (value, after) =>
        ((value.map Document.text).getD .brokenText, after)
    | '[' :: rest =>
      match skipSpace rest with
      | ']' :: after => some (.list [], after)
      | _ => (items? fuel rest).map fun (items, after) => (.list items, after)
    | '\x7b' :: rest =>
      match skipSpace rest with
      | '}' :: after => some (.table [], after)
      | _ => (entries? fuel rest).map fun (entries, after) => (.table entries, after)
    | c :: rest =>
      if c = '-' ∨ c.isDigit then
        (number? (c :: rest)).map fun after =>
          (.number (String.ofList ((c :: rest).take ((c :: rest).length - after.length))), after)
      else
        (word? "null" .null (c :: rest)).or <| (word? "true" (.boolean true) (c :: rest)).or <|
          word? "false" (.boolean false) (c :: rest)

/-- The items of a list up to its bracket. -/
def items? : (fuel : Nat) → List Char → Option (List Document × List Char)
  | 0, _ => none
  | fuel + 1, text => do
    let (item, rest) ← value? fuel text
    match skipSpace rest with
    | ',' :: after => (items? fuel after).map fun (items, after) => (item :: items, after)
    | ']' :: after => some ([item], after)
    | _ => none

/-- The entries of a table up to its brace. -/
def entries? : (fuel : Nat) → List Char → Option (List (String × Document) × List Char)
  | 0, _ => none
  | fuel + 1, text =>
    match skipSpace text with
    | '"' :: rest => do
      let (key, rest) ← string? (rest.length + 1) rest
      let key ← key
      match skipSpace rest with
      | ':' :: rest =>
        let (value, rest) ← value? fuel rest
        match skipSpace rest with
        | ',' :: after => (entries? fuel after).map fun (more, after) => ((key, value) :: more, after)
        | '}' :: after => some ([(key, value)], after)
        | _ => none
      | _ => none
    | _ => none

end

/-- The document that a whole text stands for. -/
def parse (text : String) : Option Document :=
  let chars := text.toList
  match value? (2 * chars.length + 2) chars with
  | some (value, rest) => if (skipSpace rest).isEmpty then some value else none
  | none => none

end Scaffold.Json
