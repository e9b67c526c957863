import Scaffold.Rust.Printer.Basic

/-!
Tokens without structure: those of attributes, and those of macros. What stands between two tokens is
decided by what came before and what comes next.
-/

namespace Scaffold.Rust.Printing

open Text.Layout Draft

def opening : Delimiter → String
  | .parenthesis => "("
  | .bracket => "["
  | .brace => "\x7b"

def closing : Delimiter → String
  | .parenthesis => ")"
  | .bracket => "]"
  | .brace => "\x7d"

/-! ### Attributes -/

/-- What was written last inside an attribute. -/
inductive AttributeState where
  | word
  | mark
  /-- a comma that is written at the end of a line only -/
  | lastComma
  deriving DecidableEq

def attributeTokens (state : AttributeState) : List TokenTree → Draft AttributeState
  | [] => return state
  | .word text :: rest => do
    if state = .word then space
    word text
    attributeTokens .word rest
  | .literal text :: rest => do
    if state = .word then space
    word text
    attributeTokens .word rest
  | .punct c _ :: rest => do
    if state = .word && c == '=' then word " "
    if c == ',' && rest.isEmpty then
      comma true
      attributeTokens .lastComma rest
    else
      word (String.singleton c)
      if c == '=' then word " " else if c == ',' then space
      attributeTokens .mark rest
  | .group delimiter body :: rest => do
    word (opening delimiter)
    if delimiter = .parenthesis then
      put (.opening .all indent)
      zero
      let state ← attributeTokens .mark body
      if state ≠ .lastComma then zero
      shift (-indent)
      close
    else
      let _ ← attributeTokens .mark body
    word (closing delimiter)
    attributeTokens .mark rest

/-! ### Macros -/

/-- What was written last inside a macro. -/
inductive MacroState where
  | start
  | dollar
  | dollarName
  | dollarNameColon
  | dollarGroup
  | dollarSeparator
  | pound
  | poundBang
  | point
  | colon
  | colons
  | name
  | nameBang
  | group
  | other
  deriving DecidableEq

/-- Words that are set off from what follows as other names are not. -/
def keywords : List String :=
  ["as", "async", "await", "box", "break", "const", "continue", "crate", "dyn", "else", "enum",
    "extern", "fn", "for", "if", "impl", "in", "let", "loop", "macro", "match", "mod", "move", "mut",
    "pub", "ref", "return", "static", "struct", "trait", "type", "unsafe", "use", "where", "while",
    "yield"]

/-- Whether a token is set off from the ones before, and what comes after it. In the pattern of a rule
(`matcher`) names with a dollar have a kind. -/
def macroStep (matcher : Bool) (state : MacroState) (token : TokenTree) : Bool × MacroState :=
  match state, token with
  | .dollar, .word _ => (false, if matcher then .dollarName else .other)
  | .dollarName, .punct ':' false => (false, .dollarNameColon)
  | .dollarNameColon, .word _ => (false, .other)
  | .dollarGroup, .word _ => (false, .dollarSeparator)
  | .dollarGroup, .literal _ => (false, .dollarSeparator)
  | .dollarGroup, .punct c false =>
    (false, if c == '+' || c == '*' || c == '?' then .other else .dollarSeparator)
  | .dollarGroup, .punct _ true => (false, .dollarGroup)
  | .dollarSeparator, .punct '+' _ => (false, .other)
  | .dollarSeparator, .punct '*' _ => (false, .other)
  | .pound, .punct '!' _ => (false, .poundBang)
  | .dollar, .group .parenthesis _ => (false, .dollarGroup)
  | .pound, .group .bracket _ => (false, .other)
  | .poundBang, .group .bracket _ => (false, .other)
  | .name, .punct '!' false => (false, .nameBang)
  | .colon, .punct ':' _ => (false, .colons)
  | _, .group .brace _ => (true, .other)
  | .name, .group _ _ => (false, .group)
  | .nameBang, .group _ _ => (false, .other)
  | _, .group _ _ => (true, .group)
  | _, .word text =>
    if keywords.contains text then (true, .other)
    else (state ≠ .point && state ≠ .colons, .name)
  | _, .literal _ => (state ≠ .point, .name)
  | _, .punct c joint =>
    if c == ',' || c == ';' then (false, .other)
    else if c == '.' && !matcher then (state ≠ .name && state ≠ .group, .point)
    else if c == ':' && joint then (state ≠ .name, .colon)
    else if c == '$' then (true, .dollar)
    else if c == '#' then (true, .pound)
    else (true, .other)

/-- Whether nothing may come between a token and the next one. -/
def isJoint : TokenTree → Bool
  | .punct c joint => joint || c == '$'
  | _ => false

def isPoint : TokenTree → Bool
  | .punct '.' _ => true
  | _ => false

/-- What comes before a token. -/
def macroGap (joint setOff : Bool) (token : TokenTree) : Draft Unit := do
  if !joint then
    if setOff then space else if isPoint token then zero

def macroTokens (matcher : Bool) (state : MacroState) (joint : Bool) : List TokenTree → Draft Unit
  | [] => pure ()
  | token :: rest => do
    let (setOff, next) := macroStep matcher state token
    macroGap joint setOff token
    match token with
    | .word text => word text
    | .literal text => word text
    | .punct c _ => word (String.singleton c)
    | .group delimiter body =>
      word (opening delimiter)
      if !body.isEmpty then
        if delimiter = .brace then space
        macroTokens matcher .start true body
        if delimiter = .brace then space
      word (closing delimiter)
    macroTokens matcher next (isJoint token) rest

/-- Tokens in a group of their own, with a gap before and after them. -/
def indentedTokens (matcher : Bool) (edge : Draft Unit) (tokens : List TokenTree) : Draft Unit := do
  if !tokens.isEmpty then
    block indent do
      edge
      fill 0 (macroTokens matcher .start true tokens)
      edge
      shift (-indent)

/-- How far a rule of a macro has been written. -/
inductive RuleState where
  | start
  | pattern
  | equals
  | arrow
  | body
  deriving DecidableEq

/-- The rules of a macro, each with a semicolon at its end. There is no layout for anything else. -/
def macroRules (state : RuleState) : List TokenTree → Draft Unit
  | [] => do
    if state = .body then word ";"
    if state ≠ .start then line
  | token :: rest =>
    match state, token with
    | .start, .group delimiter tokens => do
      word (opening delimiter)
      indentedTokens true zero tokens
      word (closing delimiter)
      macroRules .pattern rest
    | .pattern, .punct '=' true => do
      word " ="
      macroRules .equals rest
    | .equals, .punct '>' false => do
      word ">"
      macroRules .arrow rest
    | .arrow, .group _ tokens => do
      word " \x7b"
      stay
      indentedTokens false line tokens
      word "\x7d"
      macroRules .body rest
    | .body, .punct ';' false => do
      word ";"
      line
      macroRules .start rest
    | _, _ => stop

/-- The name of a macro and its rules. -/
def macroDefinition (name : String) (tokens : List TokenTree) : Draft Unit := do
  word ("macro_rules! " ++ name ++ " \x7b")
  block indent do
    lineUnlessLast
    macroRules .start tokens
    shift (-indent)
  word "\x7d"

end Scaffold.Rust.Printing
