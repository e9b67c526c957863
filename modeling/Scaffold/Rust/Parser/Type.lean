import Scaffold.Rust.Parser.Path

/-! Types, bounds, type parameters and the conditions on them. -/

namespace Scaffold.Rust.Parser

variable (g : Grammar)

/-! ### Parameters -/

/-- Lifetimes joined by plus signs, until a test holds. -/
def lifetimeBounds (stop : Tokens → Bool) : Parser Tree := .list <$> joined stop "+" lifetime

def lifetimeParameter (attributes : Tree) : Parser Tree := do
  let name ← lifetime
  let bounds ← if ← operator? ":" then
      lifetimeBounds fun ts => ts.isEmpty || ts.atOperator "," || ts.atOperator ">"
    else pure (.list [])
  return .node .lifetimeParameter [attributes, name, bounds]

def typeParameter (attributes : Tree) : Parser Tree := do
  let name ← name
  let bounds ← if ← operator? ":" then
      .list <$> joined (fun ts => ts.isEmpty || ts.atOperator "," || ts.atOperator ">" ||
        ts.atOperator "=") "+" (g.bound false true)
    else pure (.list [])
  let fallback ← if ← operator? "=" then g.type true else pure .absent
  return .node .typeParameter [attributes, .word name, bounds, fallback]

def constParameter (attributes : Tree) : Parser Tree := do
  keyword "const"
  let name ← name
  operator ":"
  let type ← g.type true
  let fallback ← if ← operator? "=" then constArgument g else pure .absent
  return .node .constParameter [attributes, .word name, type, fallback]

def genericParameter (bare : Bool) : Parser Tree := do
  let attributes ← Tree.list <$> outerAttributes g
  if ← at? Tokens.atLifetime then lifetimeParameter attributes
  else if ← at? Tokens.atName then typeParameter g attributes
  else if ← at? (·.atWord "const") then constParameter g attributes
  else if ← at? fun ts => bare && ts.atWord "_" then
    return .node .typeParameter [attributes, .word (← anyWord), .list [], .absent]
  else fail

/-- Parameters between angle brackets; `absent` when there are none. -/
def genericParameters : Parser Tree := do
  if ← operator? "<" then
    let parameters ← separated (·.atOperator ">") (operator ",") (genericParameter g true)
    operator ">"
    return .list parameters
  else return .absent

/-- Whether an angle bracket opens parameters rather than a type. -/
def opensParameters (tokens : Tokens) : Bool :=
  tokens.atOperator "<" &&
    let second := tokens.skip
    let third := second.skip
    second.atOperator ">" || second.atOperator "#" ||
      ((second.atLifetime || second.atName) &&
        (third.atOperator ">" || third.atOperator "," ||
          (third.atOperator ":" && !third.atOperator "::") || third.atOperator "=")) ||
      second.atWord "const"

/-- Lifetimes that a type or a closure quantifies over. -/
def boundLifetimes : Parser Tree := do
  if ← keyword? "for" then
    operator "<"
    let parameters ← separated (·.atOperator ">") (operator ",") (genericParameter g false)
    operator ">"
    return .node .boundLifetimes parameters
  else return .absent

/-! ### Conditions -/

def endsConditions (ts : Tokens) : Bool :=
  ts.isEmpty || ts.atBraces || ts.atOperator "," || ts.atOperator ";" ||
    (ts.atOperator ":" && !ts.atOperator "::") || ts.atOperator "="

def condition : Parser Tree := do
  if ← at? fun ts => ts.atLifetime && ts.skip.atOperator ":" then
    let name ← lifetime
    operator ":"
    let bounds ← lifetimeBounds fun ts => ts.isEmpty || ts.atBraces || ts.atOperator "," ||
      ts.atOperator ";" || ts.atOperator ":" || ts.atOperator "="
    return .node .lifetimeCondition [name, bounds]
  else
    let lifetimes ← boundLifetimes g
    let type ← g.type true
    operator ":"
    let bounds ← joined endsConditions "+" (g.bound false true)
    return .node .typeCondition [lifetimes, type, .list bounds]

/-- Conditions on type parameters; `absent` when there are none. -/
def whereClause : Parser Tree := do
  if ← keyword? "where" then
    return .node .whereClause (← joined endsConditions "," (condition g))
  else return .absent

/-! ### Bounds -/

def preciseCapture : Parser Tree := do
  keyword "use"
  operator "<"
  let captured ← separated (·.atOperator ">") (operator ",") capture
  operator ">"
  return .node .preciseCapture captured
where
  capture : Parser Tree := do
    if ← at? Tokens.atLifetime then lifetime
    else if ← at? (·.atWord "Self") then .word <$> anyWord
    else .word <$> name

/-- A bound by a trait; `none` for one that holds for constants, which is kept as tokens. -/
def traitBound (constant : Bool) (parenthesized : Bool) : Parser Tree := do
  let lifetimes ← boundLifetimes g
  let bracketed ← at? Tokens.atBrackets
  let marked ← if bracketed then
      brackets (keyword "const")
      pure true
    else keyword? "const"
  guard (constant || !marked)
  let relaxed ← operator? "?"
  let inner ← if lifetimes.isAbsent && relaxed then boundLifetimes g else pure lifetimes
  let path ← path g false >>= withParentheses g
  guard (inner.isAbsent || !relaxed)
  if marked then return .tokens []
  else
    let parts := [Tree.flag "(" parenthesized, Tree.flag "?" relaxed, inner, path]
    return .node .traitBound parts

def bound (captures constant : Bool) : Parser Tree := do
  if ← at? Tokens.atLifetime then lifetime
  else if ← at? (·.atWord "use") then
    let captured ← preciseCapture
    guard captures
    return captured
  else if ← at? Tokens.atParens then parens (traitBound g constant true)
  else traitBound g constant false

/-- Bounds that each follow a plus sign; a last plus sign may stand alone. -/
def trailingBounds (captures constant : Bool) : Parser (List Tree) := fun tokens =>
  go (tokens.length + 1) tokens
where
  go : Nat → Parser (List Tree)
    | 0 => fail
    | fuel + 1 => do
      if ← operator? "+" then
        if ← at? fun ts => ts.atAnyWord || ts.atOperator "::" || ts.atOperator "?" ||
            ts.atLifetime || ts.atParens || (constant && (ts.atBrackets || ts.atWord "const")) then
          let first ← g.bound captures constant
          (first :: ·) <$> go fuel
        else return []
      else return []

/-- Bounds joined by plus signs; only the first is taken unless `plus`. -/
def bounds (plus captures constant : Bool) : Parser (List Tree) := do
  let first ← g.bound captures constant
  if plus then (first :: ·) <$> trailingBounds g captures constant else return [first]

/-- Further bounds, each after a plus sign. -/
def plusBounds : Parser (List Tree) :=
  whileAt (·.atOperator "+") do
    operator "+"
    g.bound false false

def isTraitBound (tree : Tree) : Bool := tree.is .traitBound

/-- Whether a bound is kept as tokens. -/
def isKept : Tree → Bool
  | .tokens _ => true
  | _ => false

/-! ### Types -/

def abi : Parser Tree := do
  keyword "extern"
  if ← at? Tokens.atText then
    let text ← literal
    return .word ("extern " ++ text.text)
  else return .word "extern"

def abi? : Parser Tree := do
  if ← at? (·.atWord "extern") then abi else return .word ""

def traitObject (dynamic : String) (bounds : List Tree) : Tree :=
  .node .traitObjectType [.word dynamic, .list bounds]

/-- Bounds without a trait are no type. -/
def traitObjectBounds (plus : Bool) : Parser (List Tree) := do
  let bounds ← bounds g plus false false
  guard (bounds.any isTraitBound)
  return bounds

/-- One argument of a function type. A receiver keeps the whole argument as tokens. -/
def functionTypeArgument (first : Bool) (attributes : List Tree) : Parser Tree := do
  let mutableSelf ← at? fun ts => first && ts.atWord "mut" && ts.skip.atWord "self"
  if mutableSelf then keyword "mut"
  let atSelf ← at? fun ts => first && ts.atWord "self"
  let named ← at? fun ts =>
    (ts.atName || ts.atWord "_" || (first && ts.atWord "self")) &&
      ts.skip.atOperator ":" && !ts.skip.atOperator "::"
  let name ← if named then anyWord <* operator ":" else pure ""
  let selfNamed := named && atSelf
  if ← at? fun ts => first && !selfNamed && ts.atWord "mut" && ts.skip.atWord "self" then
    keyword "mut"
    keyword "self"
    return .tokens []
  else if mutableSelf && !named then
    keyword "self"
    return .tokens []
  else
    let type ← g.type true
    if mutableSelf then return .tokens []
    else return .node .functionTypeArgument [.list attributes, .word name, type]

/-- The arguments of a function type, and what stands for a variable number of them. -/
def functionTypeArguments : Parser (List Tree × Tree) := fun tokens =>
  go (tokens.length + 1) true tokens
where
  go : Nat → Bool → Parser (List Tree × Tree)
    | 0, _ => fail
    | fuel + 1, first => do
      if ← atEnd then return ([], .absent)
      let attributes ← outerAttributes g
      if ← at? fun ts => ts.atOperator "..." || ((ts.atName || ts.atWord "_") &&
          ts.skip.atOperator ":" && ts.skip2.atOperator "...") then
        let name ← if ← at? Tokens.atAnyWord then anyWord <* operator ":" else pure ""
        operator "..."
        let _ ← operator? ","
        return ([], .node .variadic [.list attributes, .word name])
      else
        let argument ← functionTypeArgument g first attributes
        if ← atEnd then return ([argument], .absent)
        operator ","
        let (rest, variadic) ← go fuel false
        return (argument :: rest, variadic)

def functionType (lifetimes : Tree) : Parser Tree := do
  let unsafety ← keywordTree "unsafe"
  let abi ← abi?
  keyword "fn"
  let (arguments, variadic) ← parens (functionTypeArguments g)
  let output ← returnType g false
  return .node .functionType [lifetimes, unsafety, abi, .list arguments, variadic, output]

/-- What parentheses hold in a type. -/
inductive Enclosed where
  /-- the whole type -/
  | closed (type : Tree)
  /-- the first bound of a trait object -/
  | relaxedBound (bound : Tree)
  /-- one type, which bounds may follow -/
  | single (type : Tree)

def enclosed : Parser Enclosed := do
  if ← atEnd then return .closed (.node .tupleType [])
  else if ← at? Tokens.atLifetime then
    let bounds ← traitObjectBounds g true
    return .closed (.node .parenthesizedType [traitObject "" bounds])
  else if ← at? (·.atOperator "?") then .relaxedBound <$> traitBound g false true
  else
    let first ← g.type true
    if ← operator? "," then
      let rest ← commaSeparated (g.type true)
      return .closed (.node .tupleType (first :: rest))
    else return .single first

/-- A type in parentheses as the first bound of a trait object. -/
def boundOfType? : Tree → Option Tree
  | .node .pathType [.node .path segments] =>
    some (.node .traitBound [.word "(", .word "", .absent, .node .path segments])
  | .node .traitObjectType [.word "", .node .list [.node .traitBound (_ :: rest)]] =>
    some (.node .traitBound (.word "(" :: rest))
  | _ => none

def parenthesizedType (plus : Bool) : Parser Tree := do
  match ← parens (enclosed g) with
  | .closed type => return type
  | .relaxedBound bound => return traitObject "" (bound :: (← plusBounds g))
  | .single type =>
    let first := if ← at? (fun ts => plus && ts.atOperator "+") then boundOfType? type else none
    match first with
    | some bound => return traitObject "" (bound :: (← plusBounds g))
    | none => return .node .parenthesizedType [type]

/-- A macro invocation with its group. -/
def invocation (path : Tree) : Parser Tree := do
  operator "!"
  return .node .invocation [path, ← anyGroup]

def isUnqualified (path : Tree) : Bool := path.is .path

/-- A type that begins with a path. -/
def pathType (plus : Bool) (lifetimes : Tree) : Parser Tree := do
  let path ← qualifiedPath g false
  let plain := Tree.node .pathType [path]
  if !isUnqualified path then return plain
  if ← at? fun ts => ts.atOperator "!" && !ts.atOperator "!=" && isPlainPath path then
    return .node .invocationType [← invocation path]
  if ← at? fun ts => !lifetimes.isAbsent || (plus && ts.atOperator "+") then
    let first := Tree.node .traitBound [.word "", .word "", lifetimes, path]
    let rest ← if plus then trailingBounds g false false else pure []
    return traitObject "" (first :: rest)
  return plain

def arrayOrSlice : Parser Tree := brackets do
  let element ← g.type true
  if ← operator? ";" then return .node .arrayType [element, ← g.expression true]
  else return .node .sliceType [element]

/-- A type; with `plus` it may go on with bounds after a plus sign. -/
def type (plus : Bool) : Parser Tree := do
  let lifetimes ← boundLifetimes g
  if !lifetimes.isAbsent then
    guard (← at? fun ts => (ts.atName ||
      ts.atOneOf ["fn", "unsafe", "extern", "super", "self", "Self", "crate"]) && !ts.atWord "dyn")
  if ← at? Tokens.atParens then parenthesizedType g plus
  else if ← at? (·.atOneOf ["fn", "unsafe", "extern"]) then functionType g lifetimes
  else if ← at? fun ts => atPathWord ts || ts.atOperator "::" || ts.atOperator "<" then
    pathType g plus lifetimes
  else if ← keyword? "dyn" then
    let starred ← operator? "*"
    let bounds ← traitObjectBounds g plus
    return if starred then .tokens [] else traitObject "dyn" bounds
  else if ← at? Tokens.atBrackets then arrayOrSlice g
  else if ← operator? "*" then
    let access ← if ← keyword? "const" then pure "const" else keyword "mut" *> pure "mut"
    return .node .pointerType [.word access, ← g.type false]
  else if ← operator? "&" then
    let lifetime ← lifetime?
    let mutability ← keywordTree "mut"
    return .node .referenceType [lifetime, mutability, ← g.type false]
  else if ← operator? "!" then return .node .neverType []
  else if ← keyword? "impl" then
    let bounds ← bounds g plus true true
    guard (bounds.any fun b => isTraitBound b || isKept b)
    return .node .implTraitType [.list bounds]
  else if ← keyword? "_" then return .node .inferredType []
  else if ← at? Tokens.atLifetime then return traitObject "" (← traitObjectBounds g true)
  else fail

end Scaffold.Rust.Parser
