/-! Reading of decimal numbers. -/

namespace Scaffold.Decimal

def valueOfDigits (digits : List Char) : Nat :=
  digits.foldl (fun value digit => 10 * value + (digit.toNat - '0'.toNat)) 0

/-- A sign, if there is one, and the rest. -/
def sign : List Char → Bool × List Char
  | '-' :: rest => (true, rest)
  | '+' :: rest => (false, rest)
  | text => (false, text)

/-- A power of ten after an `e`; nothing stands for zero. -/
def exponent? : List Char → Option Int
  | [] => some 0
  | c :: rest =>
    if c == 'e' || c == 'E' then
      let (negative, digits) := sign rest
      if digits.isEmpty || !digits.all Char.isDigit then none
      else some (if negative then -(valueOfDigits digits : Int) else valueOfDigits digits)
    else none

/-- The nearest floating-point number to `digits · 10 ^ power`. -/
def nearest (digits : Nat) (power : Int) : Float :=
  match power with
  | .ofNat n => if digits = 0 then 0.0 else Float.ofScientific digits false (min n 1000)
  | .negSucc n => Float.ofScientific digits true (n + 1)

/-- A number without sign: digits with or without a point and a power of ten. -/
def positive? (text : List Char) : Option Float := do
  let whole := text.takeWhile Char.isDigit
  let rest := text.dropWhile Char.isDigit
  let (places, rest) := match rest with
    | '.' :: rest => (rest.takeWhile Char.isDigit, rest.dropWhile Char.isDigit)
    | rest => ([], rest)
  let power ← exponent? rest
  if whole.isEmpty && places.isEmpty then none
  else some (nearest (valueOfDigits (whole ++ places)) (power - places.length))

/-- A number, or a name of infinity or of what is no number. -/
def ofText? (text : List Char) : Option Float := do
  let (negative, rest) := sign text
  let word := String.ofList (rest.map Char.toLower)
  let size ←
    if word == "inf" || word == "infinity" then some (1.0 / 0.0)
    else if word == "nan" then some (0.0 / 0.0)
    else positive? rest
  return if negative then -size else size

/-- The value of a digit in bases up to thirty-six. -/
def digitValue? (c : Char) : Option Nat :=
  if c.isDigit then some (c.toNat - '0'.toNat)
  else if c.isAlpha then some (c.toLower.toNat - 'a'.toNat + 10)
  else none

/-- A whole number in a base. -/
def wholeInBase? (base : Nat) (text : List Char) : Option Int := do
  let (negative, digits) := sign text
  if digits.isEmpty then none
  else
    let value ← digits.foldlM (fun value c => do
      let digit ← digitValue? c
      if digit < base then some (base * value + digit) else none) 0
    some (if negative then -(value : Int) else value)

end Scaffold.Decimal
