import Scaffold.Rust.Parser.Field

/-! Signatures of functions. -/

namespace Scaffold.Rust.Parser

variable (g : Grammar)

/-- A receiver: a reference to `self`, or `self` with an optional type. -/
def receiver (attributes : List Tree) : Parser Tree := do
  let reference ← operator? "&"
  let lifetime ← if reference then lifetime? else pure .absent
  let mutable ← keywordTree "mut"
  keyword "self"
  let type ← if ← at? fun ts => !reference && ts.atOperator ":" then operator ":" *> g.type true
    else pure .absent
  return .node .receiver [.list attributes, Tree.flag "&" reference, lifetime, mutable, type]

/-- A parameter: a pattern and a type, or a type alone in the oldest form. Three points in place of
the type stand for a variable number of arguments. -/
def typedParameter (attributes : List Tree) : Parser Tree := do
  if ← at? fun ts => ts.atName && ts.skip.atOperator "<" then
    return .node .parameter [.list attributes, .node .wildcardPattern [], ← g.type true]
  else
    let pattern ← g.pattern
    operator ":"
    if ← operator? "..." then return .node .variadic [.list attributes, pattern]
    else return .node .parameter [.list attributes, pattern, ← g.type true]

/-- Parameters, and what stands for a variable number of arguments. A receiver comes first. -/
def parameters : Parser (List Tree × Tree) := fun tokens => go (tokens.length + 1) true tokens
where
  go : Nat → Bool → Parser (List Tree × Tree)
    | 0, _ => fail
    | fuel + 1, first => do
      if ← atEnd then return ([], .absent)
      let attributes ← outerAttributes g
      let parameter ←
        if ← operator? "..." then pure (Tree.node .variadic [.list attributes, .absent])
        else orElse (receiver g attributes) (typedParameter g attributes)
      if parameter.is .variadic then
        if !(← atEnd) then operator ","
        return ([], parameter)
      guard (first || !parameter.is .receiver)
      if ← atEnd then return ([parameter], .absent)
      operator ","
      let (rest, variadic) ← go fuel false
      return (parameter :: rest, variadic)

/-- Whether a function signature begins here; `safe` allows the marker of foreign functions. -/
def atSignature (safe : Bool) (ts : Tokens) : Bool :=
  let ts := drop "const" ts
  let ts := drop "async" ts
  let ts := if safe && ts.atWord "safe" then ts.skip else drop "unsafe" ts
  let ts := if ts.atWord "extern" then dropText ts.skip else ts
  ts.atWord "fn"
where
  drop (word : String) (ts : Tokens) : Tokens := if ts.atWord word then ts.skip else ts
  dropText (ts : Tokens) : Tokens := if ts.atText then ts.skip else ts

/-- A signature: its name, the rest of it, and whether it was marked safe. -/
def signature (safe : Bool) : Parser (String × Tree × Bool) := do
  let constness ← keywordTree "const"
  let asyncness ← keywordTree "async"
  let unsafety ← keywordTree "unsafe"
  let marked ← if ← at? fun ts => safe && unsafety.text.isEmpty && ts.atWord "safe" then
      keyword "safe" *> pure true
    else pure false
  let abi ← abi?
  keyword "fn"
  let word ← name
  let parameters_ ← genericParameters g
  let (inputs, variadic) ← parens (parameters g)
  let output ← returnType g true
  let conditions ← whereClause g
  let generics := Tree.node .generics [parameters_, conditions]
  return (word, .node .signature [constness, asyncness, unsafety, abi, generics, .list inputs,
    variadic, output], marked)

end Scaffold.Rust.Parser
