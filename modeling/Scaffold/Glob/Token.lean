/-!
Reading of glob patterns. Between braces stand alternatives, which may be nested; between brackets
stands a class. Two stars that fill a whole step of a path stand for any number of steps.
-/

namespace Scaffold.Glob

inductive Token where
  | literal (c : Char)
  | anyOne
  | anyRun
  | charClass (negated : Bool) (ranges : List (Char × Char))
  /-- any number of steps before the rest -/
  | leadingSteps
  /-- anything below the path so far -/
  | trailingSteps
  /-- any number of steps between two parts -/
  | middleSteps
  | choice (options : List (List Token))

/-- What has been read. The branches of all open braces are kept with the latest first, and so are the
tokens of a branch; `opened` says how many branches there were before each open brace. -/
structure Reading where
  branches : List (List Token)
  opened : List Nat

namespace Reading

def start : Reading := ⟨[[]], []⟩

def push (reading : Reading) (token : Token) : Reading :=
  match reading.branches with
  | branch :: outer => { reading with branches := (token :: branch) :: outer }
  | [] => reading

/-- The reading without its last token, and that token. -/
def pop? (reading : Reading) : Option (Token × Reading) :=
  match reading.branches with
  | (token :: branch) :: outer => some (token, { reading with branches := branch :: outer })
  | _ => none

def branchIsEmpty (reading : Reading) : Bool :=
  match reading.branches with
  | [] :: _ => true
  | _ => false

def isInBraces (reading : Reading) : Bool := reading.branches.length > 1

def openBrace (reading : Reading) : Reading :=
  ⟨[] :: reading.branches, reading.branches.length :: reading.opened⟩

def nextBranch (reading : Reading) : Reading := { reading with branches := [] :: reading.branches }

def closeBrace? (reading : Reading) : Option Reading :=
  match reading.opened with
  | [] => none
  | size :: opened =>
    let options := reading.branches.take (reading.branches.length - size)
    let outer := reading.branches.drop (reading.branches.length - size)
    some (push ⟨outer, opened⟩ (.choice (options.reverse.map List.reverse)))

/-- Replaces the slash before two stars, unless the stars continue such a pair. -/
def joinSteps? (reading : Reading) (token : Token) : Option Reading :=
  match reading.pop? with
  | some (.leadingSteps, before) => some (before.push .leadingSteps)
  | some (.trailingSteps, before) => some (before.push .trailingSteps)
  | some (_, before) => some (before.push token)
  | none => none

end Reading

/-- The state inside a class. -/
structure ClassReading where
  /-- the ranges so far, the latest one first -/
  ranges : List (Char × Char)
  /-- a dash was read that may continue the last range -/
  inRange : Bool

def ClassReading.add? (reading : ClassReading) (c : Char) : Option ClassReading :=
  match reading.ranges, reading.inRange with
  | (low, _) :: rest, true => if c < low then none else some ⟨(low, c) :: rest, false⟩
  | ranges, _ => some ⟨(c, c) :: ranges, false⟩

/-- The ranges of a class up to its bracket, and the rest of the pattern. A bracket or a dash at the
front stands for itself, and so does a dash at the end. -/
def readClass (first : Bool) (reading : ClassReading) :
    List Char → Option (List (Char × Char) × List Char)
  | [] => none
  | c :: rest => do
    if c == ']' && !first then
      let ranges := if reading.inRange then ('-', '-') :: reading.ranges else reading.ranges
      return (ranges.reverse, rest)
    else if c == '-' && !first && !reading.inRange then
      readClass false { reading with inRange := true } rest
    else readClass false (← reading.add? c) rest

/-- Two stars after `before`, with the rest of the pattern; the rest after them. -/
def readStars? (before : Option Char) (rest : List Char) (reading : Reading) :
    Option (Reading × List Char) :=
  let twice := (reading.push .anyRun).push .anyRun
  if reading.branchIsEmpty then
    match rest with
    | [] => some (reading.push .leadingSteps, [])
    | '/' :: rest => some (reading.push .leadingSteps, rest)
    | _ => some (twice, rest)
  else if before != some '/' &&
      (!reading.isInBraces || (before != some ',' && before != some '\x7b')) then
    some (twice, rest)
  else
    match rest with
    | [] => (reading.joinSteps? .trailingSteps).map (·, [])
    | '/' :: after => (reading.joinSteps? .middleSteps).map (·, after)
    | c :: _ =>
      if (c == ',' || c == '\x7d') && reading.isInBraces then
        (reading.joinSteps? .trailingSteps).map (·, rest)
      else some (twice, rest)

/-- Reads a pattern, `before` being the character in front of it. -/
def readTokens (fuel : Nat) (before : Option Char) (reading : Reading) (text : List Char) :
    Option Reading :=
  match fuel, text with
  | _, [] => some reading
  | 0, _ => none
  | fuel + 1, c :: rest =>
    match c with
    | '?' => readTokens fuel (some c) (reading.push .anyOne) rest
    | '*' =>
      match rest with
      | '*' :: after => do
        let (reading, rest) ← readStars? before after reading
        readTokens fuel (some (if rest.length < after.length then '/' else '*')) reading rest
      | _ => readTokens fuel (some c) (reading.push .anyRun) rest
    | '[' => do
      let negated := rest.head? == some '!' || rest.head? == some '^'
      let (ranges, rest) ← readClass true ⟨[], false⟩ (if negated then rest.tail else rest)
      readTokens fuel (some ']') (reading.push (.charClass negated ranges)) rest
    | '\x7b' => readTokens fuel (some c) reading.openBrace rest
    | '\x7d' => do readTokens fuel (some c) (← reading.closeBrace?) rest
    | ',' =>
      let reading := if reading.opened.isEmpty then reading.push (.literal c) else reading.nextBranch
      readTokens fuel (some c) reading rest
    | '\\' =>
      match rest with
      | escaped :: rest => readTokens fuel (some escaped) (reading.push (.literal escaped)) rest
      | [] => none
    | c => readTokens fuel (some c) (reading.push (.literal c)) rest

/-- The tokens of a pattern, if its brackets and braces are closed. -/
def tokens? (pattern : String) : Option (List Token) := do
  let text := pattern.toList
  let reading ← readTokens text.length none .start text
  match reading.branches with
  | [branch] => some branch.reverse
  | _ => none

end Scaffold.Glob
