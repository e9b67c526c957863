import Scaffold.Decimal.Shortest
import Scaffold.Template.Node

/-! Numbers of templates: whole numbers of 64 bits, and fractions. -/

namespace Scaffold.Template

inductive Number where
  | whole (n : Int)
  | fraction (x : Float)

namespace Number

def toFloat : Number → Float
  | whole n => Float.ofInt n
  | fraction x => x

/-- The text of a number in output. -/
def text : Number → String
  | whole n => toString n
  | fraction x => Decimal.textOfFloat x

/-- The text of a number in data and in joined texts. -/
def dataText : Number → String
  | whole n => toString n
  | fraction x => Decimal.dataTextOfFloat x

def isZero (n : Number) : Bool := n.toFloat == 0.0

/-- A fraction, unless it is infinite or not a number. -/
def ofFloat? (x : Float) : Option Number := if x.isFinite then some (fraction x) else none

/-- A whole number, if it fits in 64 bits with a sign. -/
def ofInt? (n : Int) : Option Number :=
  if -(Int.pow 2 63) ≤ n ∧ n < Int.pow 2 63 then some (whole n) else none

/-- Whole numbers equal whole numbers only. -/
def same : Number → Number → Bool
  | whole a, whole b => a == b
  | fraction a, fraction b => a == b
  | _, _ => false

/-- The whole part of a fraction, kept within 64 bits with a sign. -/
def truncated (x : Float) : Int := x.toInt64.toInt

/-- The result of a calculation. `none` stands for what is no number; the outer option fails where a
whole number leaves its range or would be divided by zero. -/
def calculate (operator : MathOperator) (a b : Number) : Option (Option Number) :=
  match operator, a, b with
  | .add, whole a, whole b => (ofInt? (a + b)).map some
  | .subtract, whole a, whole b => (ofInt? (a - b)).map some
  | .multiply, whole a, whole b => (ofInt? (a * b)).map some
  | .modulo, whole a, whole b => if b = 0 then none else some (some (whole (a.tmod b)))
  | .add, a, b => some (ofFloat? (a.toFloat + b.toFloat))
  | .subtract, a, b => some (ofFloat? (a.toFloat - b.toFloat))
  | .multiply, a, b => some (ofFloat? (a.toFloat * b.toFloat))
  | .modulo, a, b => some (ofFloat? (Decimal.remainder a.toFloat b.toFloat))
  | .divide, a, b =>
    let quotient := a.toFloat / b.toFloat
    if quotient.isFinite && quotient.round == quotient then some (some (whole (truncated quotient)))
    else some (ofFloat? quotient)

/-- Whether a comparison holds; numbers of both kinds compare by value. -/
def holds (comparison : Comparison) (a b : Number) : Bool :=
  match comparison with
  | .less => a.toFloat < b.toFloat
  | .lessEqual => a.toFloat ≤ b.toFloat
  | .greater => a.toFloat > b.toFloat
  | .greaterEqual => a.toFloat ≥ b.toFloat
  | .equal => a.toFloat == b.toFloat
  | .notEqual => a.toFloat != b.toFloat

end Number

end Scaffold.Template
