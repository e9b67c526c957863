import Scaffold.Document
import Scaffold.Text.Hex
import Scaffold.Text.Reader

/-! Strings, numbers, dates and times of TOML. -/

namespace Scaffold.Toml

open Text Reader

def isBlank (c : Char) : Bool := c == ' ' || c == '\t'

/-- A character that may stand in a comment or string as it is. -/
def isPrintable (c : Char) : Bool := c == '\t' || (0x20 ≤ c.toNat && c.toNat != 0x7F)

def newline : Reader Unit := literal "\n" <|> literal "\r\n"

/-! ### Strings -/

/-- A character of so many hexadecimal digits. -/
def codePoint (count : Nat) : Reader Char := fun rest =>
  let digits := rest.take count
  let value := Hex.value digits
  if digits.length = count ∧ digits.all Hex.isDigit ∧ value.isValidChar then
    some (Char.ofNat value, rest.drop count)
  else none

/-- What an escape stands for, after its backslash. -/
def escape : Reader Char := do
  match ← charWhere fun _ => true with
  | 'b' => return '\x08'
  | 't' => return '\t'
  | 'n' => return '\n'
  | 'f' => return '\x0c'
  | 'r' => return '\r'
  | '"' => return '"'
  | '\\' => return '\\'
  | 'u' => codePoint 4
  | 'U' => codePoint 8
  | _ => failure

def basicChar : Reader Char :=
  (do
    literal "\\"
    escape) <|>
  charWhere fun c => isPrintable c && c != '"' && c != '\\'

def basicString : Reader (List Char) := do
  literal "\""
  let chars ← many basicChar
  literal "\""
  return chars

def literalString : Reader (List Char) := do
  literal "'"
  let chars ← run fun c => isPrintable c && c != '\''
  literal "'"
  return chars

/-- A line end inside a string, which is always a line feed. -/
def lineFeed : Reader (List Char) := do
  newline
  return ['\n']

/-- A backslash at the end of a line takes the blanks and line ends after it away. -/
def joinedLines : Reader (List Char) := do
  literal "\\"
  let _ ← run isBlank
  newline
  let _ ← many ((do let _ ← runSome isBlank) <|> newline)
  return []

/-- One or two quotes that are not the start of three. -/
def innerQuotes (quote : Char) : Reader (List Char) := do
  let quotes ← run (· == quote)
  if quotes.isEmpty || quotes.length > 2 then failure else return quotes

/-- Three quotes, before which one or two more belong to the text. -/
def closingQuotes (quote : Char) : Reader (List Char) := do
  let quotes ← run (· == quote)
  if quotes.length < 3 || quotes.length > 5 then failure else return quotes.drop 3

def longString (quote : Char) (piece : Reader (List Char)) : Reader (List Char) := do
  literal (String.ofList [quote, quote, quote])
  let _ ← attempt newline
  let pieces ← many (piece <|> lineFeed <|> innerQuotes quote)
  let last ← closingQuotes quote
  return pieces.flatten ++ last

def longBasicString : Reader (List Char) :=
  longString '"' (joinedLines <|> basicChar.map ([·]))

def longLiteralString : Reader (List Char) :=
  longString '\'' ((charWhere fun c => isPrintable c && c != '\'').map ([·]))

def string : Reader String :=
  (longBasicString <|> longLiteralString <|> basicString <|> literalString).map String.ofList

/-! ### Numbers -/

/-- Digits of a class, in groups with underscores between them. -/
def digits (accepts : Char → Bool) : Reader (List Char) := do
  let first ← runSome accepts
  let more ← many do
    literal "_"
    runSome accepts
  return first ++ more.flatten

def sign : Reader (Option Char) := attempt (charWhere fun c => c == '+' || c == '-')

/-- Digits without a needless zero in front. -/
def decimal : Reader (List Char) := do
  let chars ← digits Char.isDigit
  if chars.head? == some '0' && chars.length > 1 then failure else return chars

def natural (chars : List Char) : Nat := (String.ofList chars).toNat?.getD 0

/-- The bounds of whole numbers. -/
def largest : Nat := Nat.pow 2 63 - 1

def isInRange (negative : Bool) (size : Nat) : Bool :=
  size ≤ if negative then largest + 1 else largest

def exponent : Reader Unit := do
  let _ ← charWhere fun c => c == 'e' || c == 'E'
  let _ ← sign
  let _ ← digits Char.isDigit

def fraction : Reader Unit := do
  literal "."
  let _ ← digits Char.isDigit

def float : Reader Unit := do
  let _ ← sign
  literal "inf" <|> literal "nan" <|> (do
    let _ ← decimal
    (do
      fraction
      let _ ← attempt exponent) <|> exponent)

def integer : Reader Unit := do
  let sign ← sign
  let size ← decimal
  if !isInRange (sign == some '-') (natural size) then failure

/-- A whole number in another base. -/
def based (mark : String) (base : Nat) : Reader Unit := do
  literal mark
  let chars ← digits fun c => (Hex.digit? c).any (· < base)
  let size := chars.foldl (fun n c => base * n + (Hex.digit? c).getD 0) 0
  if !isInRange false size then failure

def number : Reader Unit :=
  based "0x" 16 <|> based "0o" 8 <|> based "0b" 2 <|> float <|> integer

/-! ### Dates and times -/

/-- A number of so many digits in a range. -/
def field (count least most : Nat) : Reader Nat := fun rest =>
  let chars := rest.take count
  let value := natural chars
  if chars.length = count ∧ chars.all Char.isDigit ∧ least ≤ value ∧ value ≤ most then
    some (value, rest.drop count)
  else none

def isLeap (year : Nat) : Bool := year % 4 == 0 && (year % 100 != 0 || year % 400 == 0)

def daysOf (year month : Nat) : Nat :=
  if month = 2 then (if isLeap year then 29 else 28)
  else if [4, 6, 9, 11].contains month then 30
  else 31

def date : Reader Unit := do
  let year ← field 4 0 9999
  literal "-"
  let month ← field 2 1 12
  literal "-"
  let _ ← field 2 1 (daysOf year month)

def time : Reader Unit := do
  let _ ← field 2 0 23
  literal ":"
  let _ ← field 2 0 59
  literal ":"
  let _ ← field 2 0 60
  let _ ← attempt do
    literal "."
    let _ ← runSome Char.isDigit

def zone : Reader Unit :=
  (do let _ ← charWhere fun c => c == 'Z' || c == 'z') <|> (do
    let _ ← charWhere fun c => c == '+' || c == '-'
    let _ ← field 2 0 23
    literal ":"
    let _ ← field 2 0 59)

def moment : Reader Unit :=
  (do
    date
    let _ ← attempt do
      let _ ← charWhere fun c => c == 'T' || c == 't' || c == ' '
      time
      let _ ← attempt zone) <|> time

end Scaffold.Toml
