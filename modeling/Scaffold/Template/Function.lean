import Scaffold.Template.Filter

/-! The functions and the tests of templates. -/

namespace Scaffold.Template

namespace Function

/-- The whole numbers from `start` up to `stop` in equal steps. -/
def range (arguments : Arguments) : Option Value := do
  let start ← arguments.withDefault? "start" Value.asCount? 0
  let step ← arguments.withDefault? "step_by" Value.asCount? 1
  let stop ← arguments.required? "end" Value.asCount?
  if start > stop ∨ step = 0 then none
  else
    let count := (stop - start + step - 1) / step
    return .array ((List.range count).map fun i => .number (.whole (Int.ofNat (start + i * step))))

/-- Calls a function by its name. No variable is set in the environment that templates see. -/
def call? (name : String) (arguments : Arguments) : Option Value :=
  match name with
  | "range" => range arguments
  | "get_env" => do
    let _ ← arguments.required? "name" Value.asText?
    arguments.find? "default"
  | _ => none

end Function

namespace Test

open Text

def isOdd? (value : Value) : Option Bool :=
  value.asFloat?.map fun x => Decimal.remainder x 2.0 != 0.0

/-- Whether a test holds for a variable, which may be missing. -/
def holds? (name : String) (subject : Option Value) (arguments : List Value) : Option Bool :=
  let atMost (count : Nat) (answer : Value → Option Bool) : Option Bool :=
    if arguments.length ≤ count then subject.bind answer else none
  let onTexts (answer : List Char → List Char → Bool) : Option Bool :=
    atMost 1 fun value => do
      return answer (← value.asText?).toList (← arguments.head?.bind Value.asText?).toList
  match name with
  | "defined" => if arguments.isEmpty then some subject.isSome else none
  | "undefined" => if arguments.isEmpty then some subject.isNone else none
  | "odd" => atMost 0 isOdd?
  | "even" => atMost 0 fun value => (isOdd? value).map not
  | "string" => atMost 0 fun value => some value.asText?.isSome
  | "number" => atMost 0 fun value => some value.asNumber?.isSome
  | "iterable" => atMost 0 fun value => some value.asItems?.isSome
  | "object" => atMost 0 fun _ => some false
  | "divisibleby" => atMost 1 fun value => do
    let divisor ← arguments.head?.bind Value.asFloat?
    return Decimal.remainder (← value.asFloat?) divisor == 0.0
  | "starting_with" => onTexts fun text part => part.isPrefixOf text
  | "ending_with" => onTexts fun text part => part.isSuffixOf text
  | "containing" => atMost 1 fun value =>
    match value with
    | .array items => arguments.head?.map fun wanted => items.any wanted.same
    | _ => onTexts fun text part => (cut? part text).isSome
  | _ => none

end Test

end Scaffold.Template
