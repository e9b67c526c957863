/-!
Readers take characters from the front of a text. A reader fails, or gives a value and the rest of
the text; of two alternatives the first that succeeds is final.
-/

namespace Scaffold.Text

abbrev Reader (α : Type) := StateT (List Char) Option α

namespace Reader

variable {α β : Type}

/-- The value, if the reader uses up the whole text. -/
def whole? (reader : Reader α) (text : List Char) : Option α :=
  match reader text with
  | some (value, []) => some value
  | _ => none

def literal (text : String) : Reader Unit := fun rest =>
  if text.toList.isPrefixOf rest then some ((), rest.drop text.length) else none

/-- One character of a class. -/
def charWhere (accepts : Char → Bool) : Reader Char
  | [] => none
  | c :: rest => if accepts c then some (c, rest) else none

/-- The longest run of characters of a class. -/
def run (accepts : Char → Bool) : Reader (List Char) := fun rest =>
  some (rest.takeWhile accepts, rest.dropWhile accepts)

/-- The longest run of characters of a class, which is not empty. -/
def runSome (accepts : Char → Bool) : Reader (List Char) := do
  let chars ← run accepts
  if chars.isEmpty then failure else return chars

/-- The value of a reader, if it succeeds. -/
def attempt (reader : Reader α) : Reader (Option α) := fun rest =>
  match reader rest with
  | some (value, rest) => some (some value, rest)
  | none => some (none, rest)

/-- Whether a reader succeeds; its text is taken if so. -/
def succeeds (reader : Reader α) : Reader Bool := do
  return (← attempt reader).isSome

/-- The text that a reader takes. -/
def matched (reader : Reader α) : Reader (List Char) := fun rest =>
  (reader rest).map fun (_, after) => (rest.take (rest.length - after.length), after)

/-- Succeeds where the reader would, and takes nothing. -/
def ahead (reader : Reader α) : Reader Unit := fun rest =>
  (reader rest).map fun _ => ((), rest)

/-- Succeeds where the reader would fail, and takes nothing. -/
def notAhead (reader : Reader α) : Reader Unit := fun rest =>
  match reader rest with
  | some _ => none
  | none => some ((), rest)

/-- Runs a reader again and again, at most `count` times. -/
def manyUpTo (reader : Reader α) : Nat → Reader (List α)
  | 0 => pure []
  | count + 1 => fun rest =>
    match reader rest with
    | some (value, rest) =>
      match manyUpTo reader count rest with
      | some (values, rest) => some (value :: values, rest)
      | none => none
    | none => some ([], rest)

/-- Runs a reader that takes something again and again. -/
def many (reader : Reader α) : Reader (List α) := fun rest => manyUpTo reader rest.length rest

/-- The characters before the first place where the reader succeeds, or all of them. -/
def before (stop : Reader α) : Reader (List Char)
  | [] => some ([], [])
  | c :: rest =>
    if (stop (c :: rest)).isSome then some ([], c :: rest)
    else (before stop rest).map fun (chars, rest) => (c :: chars, rest)

/-- The first reader that succeeds. -/
def firstOf : List (Reader α) → Reader α
  | [] => failure
  | reader :: more => reader <|> firstOf more

/-- The end of the text. -/
def atEnd : Reader Unit
  | [] => some ((), [])
  | _ => none

end Reader

end Scaffold.Text
