/-! Hexadecimal numerals: the value of a digit, of a numeral, and the two-digit text of a byte. -/

namespace Scaffold.Text.Hex

/-- The value of one hexadecimal digit of either case. -/
def digit? (c : Char) : Option Nat :=
  if '0' ≤ c ∧ c ≤ '9' then some (c.toNat - '0'.toNat)
  else if 'a' ≤ c ∧ c ≤ 'f' then some (c.toNat - 'a'.toNat + 10)
  else if 'A' ≤ c ∧ c ≤ 'F' then some (c.toNat - 'A'.toNat + 10)
  else none

def isDigit (c : Char) : Bool := (digit? c).isSome

/-- The value of a run of digits; other characters count as zero. -/
def value (digits : List Char) : Nat :=
  digits.foldl (fun n c => 16 * n + (digit? c).getD 0) 0

/-- The lower-case digit of a value below sixteen. -/
def digitChar (n : Nat) : Char :=
  if n < 10 then Char.ofNat ('0'.toNat + n) else Char.ofNat ('a'.toNat + (n - 10))

def ofByte (b : UInt8) : List Char :=
  [digitChar (b.toNat / 16), digitChar (b.toNat % 16)]

/-- Two lower-case digits for each byte. -/
def ofBytes (bytes : ByteArray) : String :=
  String.ofList (bytes.toList.flatMap ofByte)

/-- The shortest lower-case numeral of a number. -/
def ofNat (n : Nat) : String := String.ofList (Nat.toDigits 16 n)

/-- The bytes that an even run of digits names. -/
def toBytes? : List Char → Option (List UInt8)
  | [] => some []
  | [_] => none
  | high :: low :: rest => do
    let h ← digit? high
    let l ← digit? low
    let bytes ← toBytes? rest
    some (UInt8.ofNat (16 * h + l) :: bytes)

end Scaffold.Text.Hex
