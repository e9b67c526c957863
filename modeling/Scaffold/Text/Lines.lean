/-! The lines of a text: a line feed ends a line, and a carriage return before it belongs to the ending. -/

namespace Scaffold.Text

/-- The text cut after each line feed; an unfinished last line is kept. -/
def pieces : List Char → List (List Char)
  | [] => []
  | '\n' :: rest => ['\n'] :: pieces rest
  | c :: rest =>
    match pieces rest with
    | [] => [[c]]
    | piece :: more => (c :: piece) :: more

/-- A piece without its ending. -/
def withoutEnding (piece : List Char) : List Char :=
  match piece.reverse with
  | '\n' :: '\r' :: rest => rest.reverse
  | '\n' :: rest => rest.reverse
  | _ => piece

/-- The lines of a text, without their endings. -/
def lines (text : String) : List String :=
  (pieces text.toList).map fun piece => String.ofList (withoutEnding piece)

/-- Whether `part` occurs somewhere in a text. -/
def contains (part : List Char) : List Char → Bool
  | [] => part.isEmpty
  | c :: rest => part.isPrefixOf (c :: rest) || contains part rest

end Scaffold.Text
