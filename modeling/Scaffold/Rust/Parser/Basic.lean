import Scaffold.Rust.Literal
import Scaffold.Rust.Tree

/-!
Parsers over token trees. A parser takes trees from the front and leaves the rest; the contents of
a group are parsed apart and must be used up.
-/

namespace Scaffold.Rust

abbrev Tokens := List TokenTree

/-- A parser fails, or gives a value and the tokens that it leaves. -/
abbrev Parser (α : Type) := StateT Tokens Option α

namespace Tokens

/-- Words that are no names. -/
def reserved : List String :=
  ["_", "abstract", "as", "async", "await", "become", "box", "break", "const", "continue", "crate",
    "do", "dyn", "else", "enum", "extern", "false", "final", "fn", "for", "if", "impl", "in", "let",
    "loop", "macro", "match", "mod", "move", "mut", "override", "priv", "pub", "ref", "return",
    "Self", "self", "static", "struct", "super", "trait", "true", "try", "type", "typeof", "unsafe",
    "unsized", "use", "virtual", "where", "while", "yield"]

def atWord (word : String) : Tokens → Bool
  | .word text :: _ => text == word
  | _ => false

def atAnyWord : Tokens → Bool
  | .word _ :: _ => true
  | _ => false

/-- At a word that can be a name. -/
def atName : Tokens → Bool
  | .word text :: _ => !reserved.contains text
  | _ => false

def atOneOf (words : List String) : Tokens → Bool
  | .word text :: _ => words.contains text
  | _ => false

def atLifetime : Tokens → Bool
  | .punct '\'' _ :: .word _ :: _ => true
  | _ => false

def atGroup (delimiter : Delimiter) : Tokens → Bool
  | .group d _ :: _ => d = delimiter
  | _ => false

def atParens : Tokens → Bool := atGroup .parenthesis

def atBrackets : Tokens → Bool := atGroup .bracket

def atBraces : Tokens → Bool := atGroup .brace

/-- The rest after an operator, all of whose characters but the last must be joint. -/
def dropOperator? : List Char → Tokens → Option Tokens
  | [c], .punct d _ :: rest => if c = d then some rest else none
  | c :: more, .punct d joint :: rest => if c = d ∧ joint then dropOperator? more rest else none
  | _, _ => none

def atOperator (operator : String) (tokens : Tokens) : Bool :=
  (dropOperator? operator.toList tokens).isSome

def atText : Tokens → Bool
  | .literal text :: _ => Literal.isText text
  | _ => false

/-- At a literal: a number may be negative, and the truth values are literals. -/
def atLiteral : Tokens → Bool
  | .literal _ :: _ => true
  | .word text :: _ => text == "true" || text == "false"
  | .punct '-' _ :: .literal text :: _ => Literal.isNumber text
  | _ => false

/-- The tokens after the first one; a lifetime counts as one. -/
def skip : Tokens → Tokens
  | .punct '\'' _ :: .word _ :: rest => rest
  | _ :: rest => rest
  | [] => []

def skip2 (tokens : Tokens) : Tokens := tokens.skip.skip

end Tokens

namespace Parser

variable {α : Type}

def fail : Parser α := fun _ => none

/-- A test of the tokens to come. -/
def at? (test : Tokens → Bool) : Parser Bool := fun tokens => some (test tokens, tokens)

def guard (condition : Bool) : Parser Unit := if condition then pure () else fail

def atEnd : Parser Bool := at? List.isEmpty

/-- Takes the first alternative that succeeds. -/
def orElse (first second : Parser α) : Parser α := fun tokens =>
  match first tokens with
  | some result => some result
  | none => second tokens

/-- Runs a parser and forgets what it took. -/
def lookahead (p : Parser α) : Parser α := fun tokens =>
  (p tokens).map fun (value, _) => (value, tokens)

def operator (text : String) : Parser Unit := fun tokens =>
  (tokens.dropOperator? text.toList).map ((), ·)

/-- Takes an operator if it is there. -/
def operator? (text : String) : Parser Bool := fun tokens =>
  match tokens.dropOperator? text.toList with
  | some rest => some (true, rest)
  | none => some (false, tokens)

def keyword (word : String) : Parser Unit
  | .word text :: rest => if text = word then some ((), rest) else none
  | _ => none

/-- Takes a keyword if it is there. -/
def keyword? (word : String) : Parser Bool := fun tokens =>
  if tokens.atWord word then some (true, tokens.skip) else some (false, tokens)

/-- A keyword that may be missing, as a tree. -/
def keywordTree (word : String) : Parser Tree := Tree.flag word <$> keyword? word

def anyWord : Parser String
  | .word text :: rest => some (text, rest)
  | _ => none

/-- A word that can be a name. -/
def name : Parser String := do
  guard (← at? Tokens.atName)
  anyWord

def lifetime : Parser Tree
  | .punct '\'' _ :: .word text :: rest => some (.word ("'" ++ text), rest)
  | _ => none

def lifetime? : Parser Tree := do
  if ← at? Tokens.atLifetime then lifetime else pure .absent

def literal : Parser Tree
  | .literal text :: rest => some (.word text, rest)
  | .word text :: rest =>
    if text = "true" ∨ text = "false" then some (.word text, rest) else none
  | .punct '-' _ :: .literal text :: rest =>
    if Literal.isNumber text then some (.word ("-" ++ text), rest) else none
  | _ => none

/-- Parses the whole contents of a group. -/
def within (p : Parser α) (body : Tokens) : Option α :=
  match p body with
  | some (value, []) => some value
  | _ => none

def group (delimiter : Delimiter) (p : Parser α) : Parser α
  | .group d body :: rest => if d = delimiter then (within p body).map (·, rest) else none
  | _ => none

def parens (p : Parser α) : Parser α := group .parenthesis p

def brackets (p : Parser α) : Parser α := group .bracket p

def braces (p : Parser α) : Parser α := group .brace p

/-- A group with its contents as they are. -/
def anyGroup : Parser Tree
  | .group d body :: rest => some (.tokens [.group d body], rest)
  | _ => none

/-- Skips one tree of any sort. -/
def anyGroupOf (delimiter : Delimiter) : Parser Unit
  | .group d _ :: rest => if d = delimiter then some ((), rest) else none
  | _ => none

/-- Repeats a step that gives an element, or `none` to stop; `fuel` bounds the elements. -/
def repeatFuel (step : Parser (Option α)) : (fuel : Nat) → Parser (List α)
  | 0 => fail
  | fuel + 1 => do
    match ← step with
    | none => pure []
    | some value => (value :: ·) <$> repeatFuel step fuel

/-- Repeats a step until it gives `none`; each step but the last takes a token. -/
def repeatStep (step : Parser (Option α)) : Parser (List α) := fun tokens =>
  repeatFuel step (tokens.length + 1) tokens

/-- Repeats a parser while a test holds. -/
def whileAt (test : Tokens → Bool) (p : Parser α) : Parser (List α) :=
  repeatStep do if ← at? test then some <$> p else pure none

/-- Repeats a parser to the end of the tokens. -/
def untilEnd (p : Parser α) : Parser (List α) := whileAt (!·.isEmpty) p

/-- Elements with a separator between them, and perhaps after the last, until a test holds. -/
def separatedFuel (stop : Tokens → Bool) (separator : Parser Unit) (p : Parser α) :
    (fuel : Nat) → Parser (List α)
  | 0 => fail
  | fuel + 1 => do
    if ← at? stop then return []
    let value ← p
    if ← at? stop then return [value]
    separator
    (value :: ·) <$> separatedFuel stop separator p fuel

def separated (stop : Tokens → Bool) (separator : Parser Unit) (p : Parser α) : Parser (List α) :=
  fun tokens => separatedFuel stop separator p (tokens.length + 1) tokens

/-- Elements up to the end, with commas between them and perhaps after the last. -/
def commaSeparated (p : Parser α) : Parser (List α) := separated List.isEmpty (operator ",") p

/-- Elements joined by an operator for as long as it follows; a test may stop before an element. -/
def joinedFuel (stop : Tokens → Bool) (joint : String) (p : Parser α) :
    (fuel : Nat) → Parser (List α)
  | 0 => fail
  | fuel + 1 => do
    if ← at? stop then return []
    let value ← p
    if ← operator? joint then (value :: ·) <$> joinedFuel stop joint p fuel
    else return [value]

def joined (stop : Tokens → Bool) (joint : String) (p : Parser α) : Parser (List α) :=
  fun tokens => joinedFuel stop joint p (tokens.length + 1) tokens

end Parser

end Scaffold.Rust
