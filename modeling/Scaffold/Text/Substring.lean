/-! Occurrences of one text in another. -/

namespace Scaffold.Text

/-- The text before and after the first occurrence of `part`. -/
def cut? (part : List Char) : List Char → Option (List Char × List Char)
  | [] => if part.isEmpty then some ([], []) else none
  | c :: rest =>
    if part.isPrefixOf (c :: rest) then some ([], (c :: rest).drop part.length)
    else (cut? part rest).map fun (before, after) => (c :: before, after)

def splitUpTo (part : List Char) : (fuel : Nat) → List Char → List (List Char)
  | 0, text => [text]
  | fuel + 1, text =>
    match cut? part text with
    | some (before, after) => before :: splitUpTo part fuel after
    | none => [text]

/-- The pieces between the occurrences of `part`. The empty text occurs around every character. -/
def split (part text : List Char) : List (List Char) :=
  if part.isEmpty then [] :: text.map (fun c => [c]) ++ [[]]
  else splitUpTo part text.length text

/-- The text with every occurrence of `part` replaced. -/
def replace (part replacement text : List Char) : List Char :=
  replacement.intercalate (split part text)

def dropStart (part : List Char) : (fuel : Nat) → List Char → List Char
  | 0, text => text
  | fuel + 1, text =>
    if part.isPrefixOf text then dropStart part fuel (text.drop part.length) else text

/-- The text without the occurrences of `part` at its start. -/
def trimStartMatches (part text : List Char) : List Char :=
  if part.isEmpty then text else dropStart part text.length text

/-- The text without the occurrences of `part` at its end. -/
def trimEndMatches (part text : List Char) : List Char :=
  (trimStartMatches part.reverse text.reverse).reverse

/-- The runs of characters that are not of a class. -/
def fieldsBy (separates : Char → Bool) (text : List Char) : List (List Char) :=
  let step (c : Char) (runs : List Char × List (List Char)) : List Char × List (List Char) :=
    if separates c then ([], if runs.1.isEmpty then runs.2 else runs.1 :: runs.2)
    else (c :: runs.1, runs.2)
  let (first, rest) := text.foldr step ([], [])
  if first.isEmpty then rest else first :: rest

end Scaffold.Text
