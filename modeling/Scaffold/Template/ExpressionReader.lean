import Scaffold.Template.Node
import Scaffold.Text.Reader

/-!
Reading of expressions. Operands are tried in a fixed order, and the first that fits is final, so that a
name that begins with `true` is no variable. Strings have no escapes.
-/

namespace Scaffold.Template

open Text

/-- The readers for what may stand inside brackets. -/
structure Nested where
  expression : Reader Expression
  /-- an expression without `and` and `or` -/
  item : Reader Expression
  /-- a calculation without filters -/
  sum : Reader Operand
  reference : Reader Reference

namespace ExpressionReader

open Reader

def isGap (c : Char) : Bool := c == ' ' || c == '\t' || c == '\r' || c == '\n'

def gap : Reader Unit := do let _ ← run isGap

def someGap : Reader Unit := do let _ ← runSome isGap

/-- A fixed text and the gap after it. -/
def token (text : String) : Reader Unit := do literal text; gap

def isNameStart (c : Char) : Bool := c.isAlpha || c == '_'

def isNamePart (c : Char) : Bool := c.isAlphanum || c == '_'

def name : Reader String := do
  let first ← charWhere isNameStart
  let more ← run isNamePart
  return String.ofList (first :: more)

def quoted (mark : Char) : Reader String := do
  let _ ← charWhere (· == mark)
  let chars ← run (· != mark)
  let _ ← charWhere (· == mark)
  return String.ofList chars

def text : Reader String := firstOf [quoted '"', quoted '\'', quoted (Char.ofNat 96)]

/-- Digits without a leading zero. -/
def digits : Reader (List Char) := do
  let first ← charWhere Char.isDigit
  if first == '0' then return ['0'] else return first :: (← run Char.isDigit)

def valueOfDigits (digits : List Char) : Nat :=
  digits.foldl (fun value digit => 10 * value + (digit.toNat - '0'.toNat)) 0

def signed (negative : Bool) (n : Nat) : Int := if negative then -n else n

def whole : Reader Int := do
  let negative ← (literal "-").succeeds
  let n := signed negative (valueOfDigits (← digits))
  if -(Int.pow 2 63) ≤ n ∧ n < Int.pow 2 63 then return n else failure

def fraction : Reader Float := do
  let negative ← (literal "-").succeeds
  let whole ← digits
  literal "."
  let places ← runSome Char.isDigit
  let size := Float.ofScientific (valueOfDigits (whole ++ places)) true places.length
  return if negative then -size else size

/-- A step into a value: a name after a point, or something between brackets. -/
def step (nested : Nested) : Reader Step :=
  firstOf [
    do
      literal "."
      return .key (String.ofList (← runSome isNamePart)),
    do
      literal "["
      let step ← firstOf [
        do return .key (toString (← whole)),
        do return .key (← text),
        do
          let reference ← nested.reference
          return .valueOf reference.name reference.steps]
      literal "]"
      return step]

def reference (nested : Nested) : Reader Reference := do
  return ⟨← name, ← many (step nested)⟩

/-- Values between commas, with or without a comma after the last. -/
def commaSeparated {α : Type} (item : Reader α) : Reader (List α) := do
  let first ← many do
    let value ← item
    gap
    token ","
    return value
  let last ← attempt do
    let value ← item
    gap
    return value
  return first ++ last.toList

/-- Named arguments between commas, of which there is at least one. -/
def arguments (value : Reader Expression) : Reader (List (String × Expression)) := do
  let argument : Reader (String × Expression) := do
    let key ← name
    gap
    token "="
    return (key, ← value)
  let first ← argument
  gap
  let more ← many do
    token ","
    let next ← argument
    gap
    return next
  let _ ← attempt (token ",")
  return first :: more

def call (value : Reader Expression) : Reader Call := do
  let function ← name
  gap
  token "("
  let given ← attempt (arguments value)
  literal ")"
  return .mk function (given.getD [])

/-- A filter is applied after a bar; its arguments may be left out. -/
def filter (value : Reader Expression) : Reader Call := do
  token "|"
  firstOf [call value, do return .mk (← name) []]

def filters (value : Reader Expression) : Reader (List Call) := many do
  gap
  filter value

/-- An array with filters. -/
def filteredArray (nested : Nested) (value : Reader Expression) : Reader Expression := do
  token "["
  let items ← commaSeparated nested.item
  literal "]"
  return .mk (.array items) false (← filters value)

def testCall (value : Reader Expression) : Reader (String × List Expression) := do
  let test ← name
  let given ← attempt do
    gap
    token "("
    let first ← value
    gap
    let more ← many do
      token ","
      let next ← value
      gap
      return next
    literal ")"
    return first :: more
  return (test, given.getD [])

/-- A test on a variable. -/
def test (nested : Nested) (value : Reader Expression) (negated : Bool) : Reader Operand := do
  let subject ← reference nested
  gap
  token "is"
  if negated then token "not"
  let (name, given) ← testCall value
  return .test subject negated name given

def flag : Reader Operand := firstOf [
  do literal "true"; return .flag true,
  do literal "false"; return .flag false,
  do literal "True"; return .flag true,
  do literal "False"; return .flag false]

def expansion (value : Reader Expression) : Reader Operand := do
  let space ← name
  gap
  token "::"
  return .expansion space (← call value)

def operand (nested : Nested) (value : Reader Expression) : Reader Operand := firstOf [
  flag,
  test nested value true,
  test nested value false,
  expansion value,
  do return .call (← call value),
  do return .variable (← reference nested),
  do return .fraction (← fraction),
  do return .whole (← whole)]

def sumOperand (nested : Nested) (value : Reader Expression) : Reader Operand := firstOf [
  do
    token "("
    let sum ← nested.sum
    gap
    literal ")"
    return sum,
  operand nested value]

def mathOperator : Reader MathOperator := firstOf [
  do literal "+"; return .add,
  do literal "-"; return .subtract,
  do literal "*"; return .multiply,
  do literal "/"; return .divide,
  do literal "%"; return .modulo]

/-- Whether an operator binds more tightly than a sum. -/
def isProduct : MathOperator → Bool
  | .add => false
  | .subtract => false
  | _ => true

def combine (left : Option (Expression × MathOperator)) (right : Expression) : Expression :=
  match left with
  | some (left, operator) => .plain (.math operator left right)
  | none => right

/-- The tree of a chain of operators: products before sums, and each from left to right. -/
def climb (left : Option (Expression × MathOperator)) (product : Expression) :
    List (MathOperator × Expression) → Expression
  | [] => combine left product
  | (operator, next) :: more =>
    if isProduct operator then climb left (.plain (.math operator product next)) more
    else climb (some (combine left product, operator)) next more

/-- Operands joined by operators. -/
def chain (operand : Reader Expression) : Reader Expression := do
  let first ← operand
  let more ← many do
    gap
    let operator ← mathOperator
    gap
    return (operator, ← operand)
  return climb none first more

/-- A calculation whose operands have no filters. -/
def sum (nested : Nested) (value : Reader Expression) : Reader Operand := do
  return (← chain do return .plain (← sumOperand nested value)).operand

def filteredSum (nested : Nested) (value : Reader Expression) : Reader Expression := do
  let operand ← sum nested value
  return .mk operand false (← filters value)

/-- Texts joined by a tilde. -/
def concat (nested : Nested) (value : Reader Expression) : Reader Operand := do
  let part : Reader Operand := firstOf [
    do return .call (← call value),
    do return .fraction (← fraction),
    do return .whole (← whole),
    do return .text (← text),
    do return .variable (← reference nested)]
  let joined : Reader Operand := do
    gap
    token "~"
    part
  let first ← part
  let second ← joined
  let more ← many joined
  return .concat (first :: second :: more)

def filteredText (nested : Nested) (value : Reader Expression) : Reader Expression := do
  let operand ← firstOf [concat nested value, do return .text (← text)]
  return .mk operand false (← filters value)

def comparison : Reader Comparison := firstOf [
  do literal "<="; return .lessEqual,
  do literal ">="; return .greaterEqual,
  do literal ">"; return .greater,
  do literal "<"; return .less,
  do literal "=="; return .equal,
  do literal "!="; return .notEqual]

def compared (nested : Nested) (value : Reader Expression) : Reader Expression := do
  let side := firstOf [filteredText nested value, chain (filteredSum nested value)]
  let left ← side
  let right ← attempt do
    gap
    let comparison ← comparison
    gap
    return (comparison, ← side)
  match right with
  | some (comparison, right) => return .plain (.compare comparison left right)
  | none => return left

/-- A word that a gap has to follow. -/
def word (text : String) : Reader Unit := do literal text; someGap

def membership (nested : Nested) (value : Reader Expression) : Reader Expression := do
  let left ← firstOf [filteredText nested value, filteredSum nested value]
  gap
  let negated ← (word "not").succeeds
  token "in"
  let container ← firstOf [
    filteredText nested value,
    filteredArray nested value,
    do return .plain (.variable (← reference nested))]
  return .plain (.membership negated left container)

/-- An expression that may be negated. The negation before a bracket replaces that inside. -/
def item (nested : Nested) (value : Reader Expression) : Reader Expression := do
  let negated ← (word "not").succeeds
  let expression ← firstOf [
    membership nested value,
    compared nested value,
    do
      token "("
      let expression ← nested.expression
      gap
      literal ")"
      return expression]
  return expression.withNegation negated

/-- Expressions joined by `and` and `or`, of which `and` binds more tightly. -/
def expression (item : Reader Expression) : Reader Expression := do
  let conjunction : Reader Expression := do
    let first ← item
    let more ← many do
      gap
      word "and"
      item
    return more.foldl (fun left right => .plain (.both left right)) first
  let first ← conjunction
  let more ← many do
    gap
    word "or"
    conjunction
  return more.foldl (fun left right => .plain (.either left right)) first

/-- An argument: an expression or an array. -/
def value (nested : Nested) : Reader Expression :=
  firstOf [nested.expression, filteredArray nested nested.expression]

end ExpressionReader

/-- Readers for one more level of brackets. -/
def Nested.next (nested : Nested) : Nested :=
  let value := ExpressionReader.value nested
  { expression := ExpressionReader.expression (ExpressionReader.item nested value)
    item := ExpressionReader.item nested value
    sum := ExpressionReader.sum nested value
    reference := ExpressionReader.reference nested }

/-- Readers for brackets nested up to a depth. -/
def Nested.level : Nat → Nested
  | 0 => ⟨failure, failure, failure, failure⟩
  | depth + 1 => (level depth).next

end Scaffold.Template
