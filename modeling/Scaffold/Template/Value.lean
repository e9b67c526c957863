import Scaffold.Json.Printer
import Scaffold.Template.Number

/-! Values that templates compute with, and their text. -/

namespace Scaffold.Template

inductive Value where
  | null
  | flag (value : Bool)
  | number (value : Number)
  | text (value : String)
  | array (items : List Value)

namespace Value

/-- Empty texts and arrays, zero, and what is not there count as false. -/
def isTruthy : Value → Bool
  | null => false
  | flag value => value
  | number value => !value.isZero
  | text value => !value.isEmpty
  | array items => !items.isEmpty

def isNull : Value → Bool
  | null => true
  | _ => false

mutual

/-- The text of a value in output. -/
def render : Value → String
  | null => ""
  | flag value => if value then "true" else "false"
  | number value => value.text
  | text value => value
  | array items => "[" ++ renderItems items ++ "]"

def renderItems : List Value → String
  | [] => ""
  | [item] => item.render
  | item :: rest => item.render ++ ", " ++ renderItems rest

end

mutual

def same : Value → Value → Bool
  | null, null => true
  | flag a, flag b => a == b
  | number a, number b => a.same b
  | text a, text b => a == b
  | array as, array bs => sameItems as bs
  | _, _ => false

def sameItems : List Value → List Value → Bool
  | [], [] => true
  | a :: as, b :: bs => a.same b && sameItems as bs
  | _, _ => false

end

mutual

/-- The value as structured data. -/
def toDocument : Value → Document
  | null => .null
  | flag value => .boolean value
  | number value => .number value.dataText
  | text value => .text value
  | array items => .list (documents items)

def documents : List Value → List Document
  | [] => []
  | item :: rest => item.toDocument :: documents rest

end

def asText? : Value → Option String
  | text value => some value
  | _ => none

def asFlag? : Value → Option Bool
  | flag value => some value
  | _ => none

def asNumber? : Value → Option Number
  | number value => some value
  | _ => none

def asFloat? (value : Value) : Option Float := value.asNumber?.map Number.toFloat

def asInt? : Value → Option Int
  | number (.whole n) => some n
  | _ => none

/-- A whole number that is not negative. -/
def asCount? : Value → Option Nat
  | number (.whole (.ofNat n)) => some n
  | _ => none

def asItems? : Value → Option (List Value)
  | array items => some items
  | _ => none

/-- The value a step leads to. Only arrays have parts, which are numbered without leading zeros. -/
def part? (value : Value) (key : String) : Option Value :=
  match value with
  | array items =>
    let digits := key.toList
    if digits.isEmpty || !digits.all Char.isDigit || (digits.length > 1 && digits.head? == some '0')
    then none
    else key.toNat?.bind (items[·]?)
  | _ => none

def path? (value : Value) (keys : List String) : Option Value := keys.foldlM part? value

end Value

end Scaffold.Template
