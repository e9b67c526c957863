import Scaffold.Glob.Token

/-!
Glob patterns and the paths that they match. Matching goes by bytes; slashes are bytes like others,
except where two stars stand for steps of a path.
-/

namespace Scaffold

namespace Glob

/-- What a part of a pattern without alternatives matches. -/
inductive Part where
  | byte (b : UInt8)
  | anyByte
  | anyRun
  | oneOf (negated : Bool) (ranges : List (UInt8 × UInt8))
  | leadingSteps
  | trailingSteps
  | middleSteps
  deriving DecidableEq, Repr

def slash : UInt8 := 47

/-- The rests of a path behind its slashes. -/
def afterSlashes : List UInt8 → List (List UInt8)
  | [] => []
  | b :: rest => if b = slash then rest :: afterSlashes rest else afterSlashes rest

/-- All rests of a path, from the whole of it to nothing. -/
def rests : List UInt8 → List (List UInt8)
  | [] => [[]]
  | b :: rest => (b :: rest) :: rests rest

def inRanges (ranges : List (UInt8 × UInt8)) (b : UInt8) : Bool :=
  ranges.any fun (low, high) => low ≤ b && b ≤ high

/-- What may be left of a path behind a part. -/
def Part.rests (part : Part) (path : List UInt8) : List (List UInt8) :=
  match part, path with
  | .byte b, c :: rest => if b = c then [rest] else []
  | .anyByte, _ :: rest => [rest]
  | .oneOf negated ranges, c :: rest => if inRanges ranges c != negated then [rest] else []
  | .anyRun, path => Glob.rests path
  | .leadingSteps, path => path :: afterSlashes path
  | .trailingSteps, c :: rest => if c = slash then Glob.rests rest else []
  | .middleSteps, c :: rest => if c = slash then rest :: afterSlashes rest else []
  | _, [] => []

/-- Whether parts in a row match a whole path. -/
def matchesParts : List Part → List UInt8 → Bool
  | [], path => path.isEmpty
  | part :: more, path => (part.rests path).any (matchesParts more)

def bytesOf (c : Char) : List UInt8 := (String.singleton c).toUTF8.toList

/-- A class by bytes. Of a character with several bytes every byte counts by itself, and a range
reaches from the last byte of its first character to the first byte of its last one. -/
def byteRanges (range : Char × Char) : List (UInt8 × UInt8) :=
  let alone (bytes : List UInt8) : List (UInt8 × UInt8) := bytes.map fun b => (b, b)
  let low := bytesOf range.1
  let high := bytesOf range.2
  if range.1 = range.2 then alone low
  else
    alone low.dropLast ++ [(low.getLast?.getD 0, high.headD 0)] ++ alone high.tail

mutual

/-- Whether tokens stand for nothing at all. -/
def isVoid : List Token → Bool
  | [] => true
  | .choice options :: rest => areVoid options && isVoid rest
  | _ :: _ => false

def areVoid : List (List Token) → Bool
  | [] => true
  | option :: rest => isVoid option && areVoid rest

end

/-- Each of the one followed by each of the other. -/
def followedBy (first second : List (List Part)) : List (List Part) :=
  first.flatMap fun a => second.map fun b => a ++ b

mutual

/-- The rows of parts that tokens stand for, one for each way to choose alternatives. Alternatives
that stand for nothing are not chosen. -/
def expand : List Token → List (List Part)
  | [] => [[]]
  | .literal c :: rest => followedBy [(bytesOf c).map .byte] (expand rest)
  | .anyOne :: rest => followedBy [[.anyByte]] (expand rest)
  | .anyRun :: rest => followedBy [[.anyRun]] (expand rest)
  | .charClass negated ranges :: rest =>
    followedBy [[.oneOf negated (ranges.flatMap byteRanges)]] (expand rest)
  | .leadingSteps :: rest => followedBy [[.leadingSteps]] (expand rest)
  | .trailingSteps :: rest => followedBy [[.trailingSteps]] (expand rest)
  | .middleSteps :: rest => followedBy [[.middleSteps]] (expand rest)
  | .choice options :: rest =>
    followedBy (if areVoid options then [[]] else expandAll options) (expand rest)

def expandAll : List (List Token) → List (List Part)
  | [] => []
  | option :: rest => (if isVoid option then [] else expand option) ++ expandAll rest

end

end Glob

/-- A pattern as the rows of parts of which one has to match. -/
structure Glob where
  rows : List (List Glob.Part)

namespace Glob

/-- The pattern of a text. Two stars alone match everything. -/
def ofText? (pattern : String) : Option Glob := do
  match ← tokens? pattern with
  | [.leadingSteps] => some ⟨[[.anyRun]]⟩
  | tokens => some ⟨expand tokens⟩

def isMatch (glob : Glob) (path : String) : Bool :=
  let bytes := path.toUTF8.toList
  glob.rows.any (matchesParts · bytes)

end Glob

/-- Patterns of which one has to match. -/
structure GlobSet where
  globs : List Glob

namespace GlobSet

def isMatch (set : GlobSet) (path : String) : Bool := set.globs.any (·.isMatch path)

end GlobSet

end Scaffold
