/-! Token trees of Rust source: words, literals, punctuation characters and delimited groups. -/

namespace Scaffold.Rust

inductive Delimiter where
  | parenthesis
  | bracket
  | brace
  deriving DecidableEq, Repr

/-- A punctuation character is joint when another one follows it without a gap. -/
inductive TokenTree where
  | word (text : String)
  | literal (text : String)
  | punct (char : Char) (joint : Bool)
  | group (delimiter : Delimiter) (body : List TokenTree)
  deriving Repr

namespace TokenTree

mutual

/-- The number of words, literals, characters and groups in a tree. -/
def size : TokenTree → Nat
  | group _ body => sizeList body + 1
  | _ => 1

def sizeList : List TokenTree → Nat
  | [] => 0
  | tree :: rest => tree.size + sizeList rest

end

end TokenTree

/-- What the scanner finds before groups are formed. -/
inductive Lexeme where
  | opening (delimiter : Delimiter)
  | closing (delimiter : Delimiter)
  | leaf (token : TokenTree)
  | documentation (inner : Bool) (text : List Char)
  deriving Repr

end Scaffold.Rust
