/-!
The shortest decimal that reads back as a given binary fraction. A number is `mantissa · 2 ^ exponent`;
the decimals that round to it lie between the points halfway to its neighbours.
-/

namespace Scaffold.Decimal

/-- A positive number in binary. -/
structure Binary where
  mantissa : Nat
  exponent : Int

/-- `digits · 10 ^ scale`. -/
structure Decimal where
  digits : Nat
  scale : Int
  deriving DecidableEq, Repr

/-- A nonnegative fraction of two whole numbers. -/
structure Ratio where
  num : Nat
  den : Nat

namespace Ratio

def scale (r : Ratio) (base : Nat) (power : Int) : Ratio :=
  match power with
  | .ofNat n => ⟨r.num * Nat.pow base n, r.den⟩
  | .negSucc n => ⟨r.num, r.den * Nat.pow base (n + 1)⟩

def le (a b : Ratio) : Bool := a.num * b.den ≤ b.num * a.den

def lt (a b : Ratio) : Bool := a.num * b.den < b.num * a.den

end Ratio

def Decimal.ratio (d : Decimal) : Ratio := Ratio.scale ⟨d.digits, 1⟩ 10 d.scale

/-- Four times the number, so that the points halfway to its neighbours are whole multiples. -/
def Binary.quarters (b : Binary) (n : Nat) : Ratio := Ratio.scale ⟨n, 4⟩ 2 b.exponent

/-- Whether a decimal rounds to the number; ends of the interval count when the mantissa is even. -/
def rounds (b : Binary) (d : Decimal) : Bool :=
  let below := if b.mantissa = Nat.pow 2 52 then 1 else 2
  let low := b.quarters (4 * b.mantissa - below)
  let high := b.quarters (4 * b.mantissa + 2)
  if b.mantissa % 2 = 0 then low.le d.ratio && d.ratio.le high
  else low.lt d.ratio && d.ratio.lt high

/-- The least power of ten, counted from `low`, that exceeds the number. -/
def magnitude (r : Ratio) (low : Int) : Nat → Int
  | 0 => low
  | fuel + 1 => if r.lt (Ratio.scale ⟨1, 1⟩ 10 low) then low else magnitude r (low + 1) fuel

/-- The neighbours of the number among decimals of `count` digits, the nearer one first. -/
def neighbours (r : Ratio) (top : Int) (count : Nat) : List Decimal :=
  let scale := top - count
  let scaled := r.scale 10 (-scale)
  let floor := scaled.num / scaled.den
  let rest := scaled.num % scaled.den
  if 2 * rest > scaled.den then [⟨floor + 1, scale⟩, ⟨floor, scale⟩]
  else [⟨floor, scale⟩, ⟨floor + 1, scale⟩]

/-- The decimal with the fewest digits that rounds to the number, the nearest of those. -/
def shortest (b : Binary) : Decimal :=
  let r := b.quarters (4 * b.mantissa)
  let top := magnitude r (-330) 700
  let hits := (List.range 17).flatMap fun i => (neighbours r top (i + 1)).filter (rounds b)
  hits.headD ⟨b.mantissa, 0⟩

/-- Positional text: digits, with zeros up to the point where the number needs them. -/
def Decimal.text (d : Decimal) : String :=
  let digits := (toString d.digits).toList
  match d.scale with
  | .ofNat n => String.ofList (digits ++ List.replicate n '0')
  | .negSucc n =>
    let places := n + 1
    let padded := List.replicate (places + 1 - digits.length) '0' ++ digits
    let whole := padded.take (padded.length - places)
    let fraction := (padded.drop (padded.length - places)).reverse.dropWhile (· == '0') |>.reverse
    String.ofList (if fraction.isEmpty then whole else whole ++ '.' :: fraction)

/-- A positive finite floating-point number in binary. -/
def ofFloat (x : Float) : Binary :=
  let bits := x.toBits.toNat
  let field : Nat := bits / Nat.pow 2 52 % Nat.pow 2 11
  let fraction := bits % Nat.pow 2 52
  if field = 0 then ⟨fraction, -1074⟩ else ⟨fraction + Nat.pow 2 52, Int.ofNat field - 1075⟩

/-- Positional text of a floating-point number. -/
def textOfFloat (x : Float) : String :=
  if x.isNaN then "NaN"
  else
    let sign := if x.toBits.toNat / Nat.pow 2 63 = 1 then "-" else ""
    if x.isInf then sign ++ "inf"
    else if x == 0.0 then sign ++ "0"
    else sign ++ (shortest (ofFloat x)).text

/-- Text of a decimal as data: positional with a point up to sixteen places before it and five zeros
after it, and with an exponent beyond. -/
def Decimal.dataText (d : Decimal) : String :=
  let digits := toString d.digits
  let significant := (digits.toList.reverse.dropWhile (· == '0')).reverse
  let point := d.scale + digits.length
  if -5 < point ∧ point ≤ 16 then
    let plain := d.text
    if plain.toList.contains '.' then plain else plain ++ ".0"
  else
    let mantissa := match significant with
      | first :: more => String.ofList (if more.isEmpty then [first] else first :: '.' :: more)
      | [] => "0"
    mantissa ++ "e" ++ toString (point - 1)

/-- Text of a finite floating-point number as data. -/
def dataTextOfFloat (x : Float) : String :=
  let sign := if x.toBits.toNat / Nat.pow 2 63 = 1 then "-" else ""
  if x == 0.0 then sign ++ "0.0" else sign ++ (shortest (ofFloat x)).dataText

/-- The remainder of a division whose quotient is cut to a whole number, with the sign of `x`. -/
def remainder (x y : Float) : Float :=
  if !x.isFinite || y.isNaN || y == 0.0 then x - x + 0.0 / 0.0
  else if y.isInf || x == 0.0 then x
  else
    let a := ofFloat x
    let b := ofFloat y
    let low := min a.exponent b.exponent
    let scaled (n : Binary) : Nat := n.mantissa * Nat.pow 2 (n.exponent - low).toNat
    let size := Float.scaleB (Float.ofNat (scaled a % scaled b)) low
    if x.toBits.toNat / Nat.pow 2 63 = 1 then -size else size

end Scaffold.Decimal
