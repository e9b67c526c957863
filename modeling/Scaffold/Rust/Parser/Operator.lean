import Scaffold.Rust.Parser.Type

/-! Binary operators and how expressions are built from them. -/

namespace Scaffold.Rust.Parser

/-- Operators in the order in which they are tried, with their strength. -/
def binaryOperators : List (String × Precedence) :=
  [("+=", .assignment), ("-=", .assignment), ("*=", .assignment), ("/=", .assignment),
    ("%=", .assignment), ("^=", .assignment), ("&=", .assignment), ("|=", .assignment),
    ("<<=", .assignment), (">>=", .assignment), ("&&", .conjunction), ("||", .disjunction),
    ("<<", .shift), (">>", .shift), ("==", .comparison), ("<=", .comparison), ("!=", .comparison),
    (">=", .comparison), ("+", .sum), ("-", .sum), ("*", .product), ("/", .product),
    ("%", .product), ("^", .bitXor), ("&", .bitAnd), ("|", .bitOr), ("<", .comparison),
    (">", .comparison)]

/-- The operator at the front of the tokens, its strength, and the tokens after it. -/
def binaryOperator? (tokens : Tokens) : Option (String × Precedence × Tokens) :=
  binaryOperators.findSome? fun (text, strength) =>
    (tokens.dropOperator? text.toList).map fun rest => (text, strength, rest)

/-- The strength of a binary operator by its text. -/
def strengthOf (operator : String) : Precedence :=
  ((binaryOperators.find? (·.1 == operator)).map (·.2)).getD .lowest

/-- The strength of whatever comes next. -/
def nextStrength (tokens : Tokens) : Precedence :=
  match binaryOperator? tokens with
  | some (_, strength, _) => strength
  | none =>
    if tokens.atOperator "=" && !tokens.atOperator "=>" then .assignment
    else if tokens.atOperator ".." then .range
    else if tokens.atWord "as" then .cast
    else .lowest

variable (g : Grammar)

/-- The right operand of an operator, with all that binds more strongly. -/
def rightOperand (struct : Bool) (strength : Precedence) : Parser Tree := fun tokens => do
  let (first, rest) ← g.operand struct tokens
  go (tokens.length + 1) first rest
where
  go : Nat → Tree → Parser Tree
    | 0, _ => fail
    | fuel + 1, right => fun tokens =>
      let next := nextStrength tokens
      if strength.rank < next.rank || (next == strength && strength == .assignment) then do
        let (more, rest) ← g.climb struct next right tokens
        if rest.length = tokens.length then some (more, rest) else go fuel more rest
      else some (right, tokens)

/-- What a range without an end may be followed by. -/
def endsRange (struct : Bool) (ts : Tokens) : Bool :=
  ts.isEmpty || ts.atOperator "," || ts.atOperator ";" || (ts.atOperator "." && !ts.atOperator "..") ||
    ts.atOperator "?" || ts.atOperator "=>" || (!struct && ts.atBraces) || ts.atOperator "=" ||
    ts.atOperator "+" || ts.atOperator "/" || ts.atOperator "%" || ts.atOperator "^" ||
    ts.atOperator ">" || ts.atOperator "<=" || ts.atOperator "!=" || ts.atOperator "-=" ||
    ts.atOperator "*=" || ts.atOperator "&=" || ts.atOperator "|=" || ts.atOperator "<<=" ||
    ts.atWord "as"

def limits : Parser String := do
  if ← operator? "..=" then return "..="
  guard !(← at? (·.atOperator "..."))
  operator ".."
  return ".."

/-- A range after its start. -/
def rangeFrom (struct : Bool) (start : Tree) : Parser Tree := do
  let limits ← limits
  let stop ← if ← at? fun ts => limits == ".." && endsRange struct ts then pure Tree.absent
    else rightOperand g struct .range
  return .node .rangeExpr [.list [], start, .word limits, stop]

/-- Nothing that belongs to an operand may follow a cast. -/
def mayFollowCast (ts : Tokens) : Bool :=
  !((ts.atOperator "." && !ts.atOperator "..") || ts.atOperator "?" || ts.atBrackets || ts.atParens)

/-- One operator and its right side after `left`, or `none` where the expression ends. -/
def climbStep (struct : Bool) (base : Precedence) (left : Tree) : Parser (Option Tree) := do
  if left.is .rangeExpr then return none
  match ← at? binaryOperatorAt with
  | true => binary
  | false =>
    if ← at? fun ts => base.rank ≤ Precedence.assignment.rank && ts.atOperator "=" &&
        !ts.atOperator "=>" then
      operator "="
      return some (.node .assignExpr [.list [], left, ← rightOperand g struct .assignment])
    else if ← at? fun ts => base.rank ≤ Precedence.range.rank && ts.atOperator ".." then
      some <$> rangeFrom g struct left
    else if ← at? (·.atWord "as") then
      keyword "as"
      let type ← g.type false
      guard (← at? mayFollowCast)
      return some (.node .castExpr [.list [], left, type])
    else return none
where
  binaryOperatorAt (ts : Tokens) : Bool := (binaryOperator? ts).isSome
  isComparison : Tree → Bool
    | .node .binaryExpr [_, _, .word op, _] => strengthOf op == .comparison
    | _ => false
  binary : Parser (Option Tree) := fun tokens =>
    match binaryOperator? tokens with
    | none => none
    | some (text, strength, rest) =>
      if strength.rank < base.rank then some (none, tokens)
      else if strength == .comparison && isComparison left then none
      else (rightOperand g struct strength rest).map fun (right, after) =>
        (some (.node .binaryExpr [.list [], left, .word text, right]), after)

/-- Continues an expression with operators at least as strong as `base`. -/
def climb (struct : Bool) (base : Precedence) (left : Tree) : Parser Tree := fun tokens =>
  go (tokens.length + 1) left tokens
where
  go : Nat → Tree → Parser Tree
    | 0, _ => fail
    | fuel + 1, left => do
      match ← climbStep g struct base left with
      | none => return left
      | some more => go fuel more

end Scaffold.Rust.Parser
