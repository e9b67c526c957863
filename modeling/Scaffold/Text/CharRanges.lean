import Scaffold.Text.Hex

/-! Sets of characters given by ranges of code points. -/

namespace Scaffold.Text

/-- A set of code points as inclusive ranges. -/
structure CharRanges where
  bounds : List (Nat × Nat)

namespace CharRanges

def contains (ranges : CharRanges) (c : Char) : Bool :=
  ranges.bounds.any fun (first, last) => first ≤ c.toNat && c.toNat ≤ last

/-- One range written first and last, or as a single code point, in hexadecimal. -/
def rangeOfText (text : List Char) : Nat × Nat :=
  let first := text.takeWhile Hex.isDigit
  match text.dropWhile Hex.isDigit with
  | [] => (Hex.value first, Hex.value first)
  | _ :: last => (Hex.value first, Hex.value last)

/-- The maximal runs of characters other than blanks and line ends. -/
def words (text : List Char) : List (List Char) :=
  let finish (word : List Char) (done : List (List Char)) :=
    if word.isEmpty then done else word.reverse :: done
  let (word, done) := text.foldl
    (fun (word, done) c => if c = ' ' ∨ c = '\n' then ([], finish word done) else (c :: word, done)) ([], [])
  (finish word done).reverse

/-- Ranges separated by blanks and line ends. -/
def ofText (text : String) : CharRanges :=
  ⟨(words text.toList).map rangeOfText⟩

end CharRanges

end Scaffold.Text
