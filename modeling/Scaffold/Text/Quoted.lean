import Scaffold.Text.Printable

/-!
Text between double quotes, as messages show it. Quotes, backslashes, controls and characters that
do not print by themselves are escaped.
-/

namespace Scaffold.Text.Quoted

/-- What is written for one character. -/
def escape (c : Char) : List Char :=
  match c with
  | '\x00' => ['\\', '0']
  | '\t' => ['\\', 't']
  | '\r' => ['\\', 'r']
  | '\n' => ['\\', 'n']
  | '\\' => ['\\', '\\']
  | '"' => ['\\', '"']
  | c =>
    if Printable.isExtending c || !Printable.isPrintable c then
      "\\u\x7b".toList ++ (Hex.ofNat c.toNat).toList ++ ['}']
    else [c]

/-- Quoted text. -/
def quote (text : String) : String :=
  String.ofList ('"' :: text.toList.flatMap escape ++ ['"'])

/-- Quoted texts between brackets. -/
def quoteList (texts : List String) : String :=
  "[" ++ ", ".intercalate (texts.map quote) ++ "]"

end Scaffold.Text.Quoted
