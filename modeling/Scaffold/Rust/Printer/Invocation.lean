import Scaffold.Rust.Printer.Attribute

/-! Invocations and definitions of macros. -/

namespace Scaffold.Rust.Printing

open Text.Layout Draft

/-- The delimiter of an invocation and the tokens inside. -/
def invocationGroup : Tree → Delimiter × List TokenTree
  | .tokens [.group delimiter tokens] => (delimiter, tokens)
  | _ => (.parenthesis, [])

/-- An invocation in braces needs no semicolon. -/
def needsSemicolon (call : Tree) : Bool := (invocationGroup (call.child 1)).1 != .brace

/-- An invocation, which may give a name to what it defines. -/
def invocation (call : Tree) (name : String) (semicolon : Bool) : Draft Unit := do
  let path := call.child 0
  let (delimiter, tokens) := invocationGroup (call.child 1)
  if isWord "macro_rules" path && !name.isEmpty then macroDefinition name tokens
  else
    plainPath path
    word "!"
    if !name.isEmpty then word (" " ++ name)
    word (if delimiter = .brace then " \x7b" else opening delimiter)
    indentedTokens false (if delimiter = .brace then line else zero) tokens
    word (closing delimiter)
    if semicolon then word ";"

end Scaffold.Rust.Printing
