import Scaffold.Text.Hex
import Scaffold.Yaml.Cursor

/-!
The three ways to write a scalar: plain, in quotes, and as an indented block. A line break between two
words of the first two counts as a blank, and empty lines after it are kept.
-/

namespace Scaffold.Yaml

open Text

/-- What lies between two runs of text: blanks on one line, or line ends, of which the first may be
escaped. -/
inductive Gap where
  | blanks (text : List Char)
  | lines (first : Option Char) (more : List Char)

namespace Gap

def none : Gap := blanks []

/-- What a gap stands for. -/
def folded : Gap → List Char
  | blanks text => text
  | lines (some '\n') [] => [' ']
  | lines (some '\n') more => more
  | lines first more => first.toList ++ more

def hasLines : Gap → Bool
  | blanks _ => false
  | lines _ _ => true

def addLine (line : Char) : Gap → Gap
  | blanks _ => lines (some line) []
  | lines first more => lines first (more ++ [line])

/-- A gap from a cursor on. A tab must not stand before the column `least` of a later line. -/
def read? (least : Nat) : (fuel : Nat) → Gap → Cursor → Option (Gap × Cursor)
  | 0, gap, cursor => some (gap, cursor)
  | fuel + 1, gap, cursor =>
    match cursor.lineEnd?, cursor.peek? with
    | some (line, next), _ => read? least fuel (gap.addLine line) next
    | _, some c =>
      if !isBlank c then some (gap, cursor)
      else
        match gap with
        | blanks text => read? least fuel (blanks (text ++ [c])) (cursor.skip 1)
        | lines _ _ =>
          if c == '\t' && cursor.column < least then .none
          else read? least fuel gap (cursor.skip 1)
    | _, _ => some (gap, cursor)

end Gap

namespace Scalar

/-! ### Plain -/

def isFlowMark (c : Char) : Bool := [',', '[', ']', '\x7b', '\x7d'].contains c

/-- The characters up to a space, to a colon before a space, and inside brackets to one of their
marks. There a colon must not stand before such a mark. -/
def plainRun? (inBrackets : Bool) : List Char → Option (List Char)
  | [] => some []
  | c :: rest =>
    if isSpace c then some []
    else if c == ':' && (rest.head?.map isSpace).getD true then some []
    else if inBrackets && c == ':' && (rest.head?.map fun d => isFlowMark d || d == '?').getD false then
      none
    else if inBrackets && isFlowMark c then some []
    else (plainRun? inBrackets rest).map (c :: ·)

/-- A plain scalar whose later lines are indented to `least`: its text, whether lines were passed after
it, and the place after it. -/
def plain? (inBrackets : Bool) (least : Nat) :
    (fuel : Nat) → List Char → Gap → Cursor → Option (List Char × Bool × Cursor)
  | 0, text, gap, cursor => some (text, gap.hasLines, cursor)
  | fuel + 1, text, gap, cursor => do
    if cursor.atDocumentMark || cursor.peek? == some '#' then return (text, gap.hasLines, cursor)
    let run ← plainRun? inBrackets cursor.rest
    let (text, gap) := if run.isEmpty then (text, gap) else (text ++ gap.folded ++ run, Gap.none)
    let cursor := cursor.skip run.length
    if !(cursor.peek?.map isSpace).getD false then return (text, gap.hasLines, cursor)
    let (gap, cursor) ← Gap.read? least (cursor.rest.length + 1) gap cursor
    if !inBrackets && cursor.column < least then return (text, gap.hasLines, cursor)
    plain? inBrackets least fuel text gap cursor

/-! ### In quotes -/

/-- A character of so many hexadecimal digits. -/
def codePoint? (count : Nat) (cursor : Cursor) : Option (Char × Cursor) :=
  let digits := cursor.rest.take count
  let value := Hex.value digits
  if digits.length = count ∧ digits.all Hex.isDigit ∧ value.isValidChar then
    some (Char.ofNat value, cursor.skip count)
  else none

/-- The character of an escape, from its letter on. -/
def escape? (cursor : Cursor) : Option (Char × Cursor) := do
  let letter ← cursor.peek?
  let after := cursor.skip 1
  match letter with
  | '0' => some ('\x00', after)
  | 'a' => some ('\x07', after)
  | 'b' => some ('\x08', after)
  | 't' | '\t' => some ('\t', after)
  | 'n' => some ('\n', after)
  | 'v' => some ('\x0b', after)
  | 'f' => some ('\x0c', after)
  | 'r' => some ('\r', after)
  | 'e' => some ('\x1b', after)
  | ' ' | '"' | '/' | '\\' => some (letter, after)
  | 'N' => some ('\u0085', after)
  | '_' => some ('\u00a0', after)
  | 'L' => some ('\u2028', after)
  | 'P' => some ('\u2029', after)
  | 'x' => codePoint? 2 after
  | 'u' => codePoint? 4 after
  | 'U' => codePoint? 8 after
  | _ => none

/-- A scalar after its opening quote. Two single quotes stand for one; after a double quote a backslash
starts an escape, or joins two lines. -/
def quoted? (quote : Char) : (fuel : Nat) → List Char → Cursor → Option (List Char × Cursor)
  | 0, _, _ => none
  | fuel + 1, text, cursor => do
    let c ← cursor.peek?
    let after := cursor.skip 1
    let afterGap (gap : Gap) (cursor : Cursor) : Option (List Char × Cursor) := do
      let (gap, cursor) ← Gap.read? 0 (cursor.rest.length + 1) gap cursor
      if cursor.atDocumentMark then none
      quoted? quote fuel (text ++ gap.folded) cursor
    if isSpace c then afterGap .none cursor
    else if c == quote then
      if quote == '\'' && after.peek? == some '\'' then
        quoted? quote fuel (text ++ ['\'']) (after.skip 1)
      else some (text, after)
    else if c == '\\' && quote == '"' then
      match after.lineEnd? with
      | some (_, next) => afterGap (.lines none []) next
      | none =>
        let (c, next) ← escape? after
        quoted? quote fuel (text ++ [c]) next
    else quoted? quote fuel (text ++ [c]) after

/-! ### As a block -/

/-- What becomes of the line ends after a block: the first one stays, none does, or all do. -/
inductive Chomping where
  | clip
  | strip
  | keep

/-- What stands after the mark of a block: an explicit depth and how it ends. -/
structure BlockHeader where
  depth : Option Nat
  chomping : Chomping

namespace BlockHeader

def chomping? (cursor : Cursor) : Option (Chomping × Cursor) :=
  match cursor.peek? with
  | some '+' => some (.keep, cursor.skip 1)
  | some '-' => some (.strip, cursor.skip 1)
  | _ => none

/-- A digit; zero is refused. -/
def depth? (cursor : Cursor) : Option (Option Nat × Cursor) :=
  match cursor.peek? with
  | some c =>
    if c == '0' then none
    else if c.isDigit then some (some (c.toNat - '0'.toNat), cursor.skip 1)
    else some (none, cursor)
  | none => some (none, cursor)

def read? (cursor : Cursor) : Option (BlockHeader × Cursor) := do
  match chomping? cursor with
  | some (chomping, cursor) =>
    let (depth, cursor) ← depth? cursor
    return (⟨depth, chomping⟩, cursor)
  | none =>
    let (depth, cursor) ← depth? cursor
    let (chomping, cursor) := (if depth.isSome then chomping? cursor else none).getD (.clip, cursor)
    return (⟨depth, chomping⟩, cursor)

end BlockHeader

/-- Empty lines before a line of a block. Without a depth so far (`none`) the longest indentation is
counted, which is the third part of the result. -/
def emptyLines? (depth : Option Nat) :
    (fuel : Nat) → List Char → (longest : Nat) → Cursor → Option (List Char × Nat × Cursor)
  | 0, lines, longest, cursor => some (lines, longest, cursor)
  | fuel + 1, lines, longest, cursor =>
    let blanks := cursor.rest.takeWhile (· == ' ')
    let cursor := cursor.skip (match depth with
      | some depth => min blanks.length (depth - cursor.column)
      | none => blanks.length)
    let longest := max longest cursor.column
    let tooShallow := match depth with
      | some depth => cursor.column < depth
      | none => true
    if tooShallow && cursor.peek? == some '\t' then none
    else
      match cursor.lineEnd? with
      | some (line, next) => emptyLines? depth fuel (lines ++ [line]) longest next
      | none => some (lines, longest, cursor)

/-- The text of a block so far, with the line ends that may follow it. -/
structure Block where
  text : List Char
  /-- the end of the last line, and those of the empty lines after it -/
  lineEnd : List Char
  emptyLines : List Char
  /-- the last line started with a blank -/
  startedBlank : Bool

namespace Block

/-- The line ends before the next line. Between two lines that start without a blank the first one
counts as a blank when lines are folded. -/
def gap (block : Block) (folds startsBlank : Bool) : List Char :=
  if folds && block.lineEnd == ['\n'] && !block.startedBlank && !startsBlank then
    if block.emptyLines.isEmpty then [' '] else block.emptyLines
  else block.lineEnd ++ block.emptyLines

def addLine (block : Block) (folds : Bool) (line lineEnd emptyLines : List Char) : Block :=
  let startsBlank := (line.head?.map isBlank).getD false
  ⟨block.text ++ block.gap folds startsBlank ++ line, lineEnd, emptyLines, startsBlank⟩

def finish (block : Block) : Chomping → List Char
  | .strip => block.text
  | .clip => block.text ++ block.lineEnd
  | .keep => block.text ++ block.lineEnd ++ block.emptyLines

/-- The lines of a block at a depth. -/
def lines? (folds : Bool) (depth : Nat) : (fuel : Nat) → Block → Cursor → Option (Block × Cursor)
  | 0, block, cursor => some (block, cursor)
  | fuel + 1, block, cursor => do
    if cursor.column != depth || cursor.rest.isEmpty then return (block, cursor)
    let (line, cursor) := cursor.takeWhile (!isBreak ·)
    let (lineEnd, cursor) := match cursor.lineEnd? with
      | some (c, next) => ([c], next)
      | none => ([], cursor)
    let (empty, _, cursor) ← emptyLines? (some depth) (cursor.rest.length + 1) [] 0 cursor
    lines? folds depth fuel (block.addLine folds line lineEnd empty) cursor

end Block

/-- A block after its mark, below lines that are indented to `indent`, which is negative outside of all
collections. -/
def block? (folds : Bool) (indent : Int) (cursor : Cursor) : Option (List Char × Cursor) := do
  let (header, cursor) ← BlockHeader.read? cursor
  let cursor := (← cursor.restOfLine?).pastLineEnd
  let fuel := cursor.rest.length + 1
  let explicit := header.depth.map fun depth => indent.toNat + depth
  let (empty, longest, cursor) ← emptyLines? explicit fuel [] 0 cursor
  let depth := explicit.getD (max longest (max (indent + 1).toNat 1))
  let (block, cursor) ← Block.lines? folds depth fuel ⟨[], [], empty, false⟩ cursor
  return (block.finish header.chomping, cursor)

end Scalar

end Scaffold.Yaml
