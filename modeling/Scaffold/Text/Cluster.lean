import Scaffold.Text.Printable

/-! Characters as a reader sees them: a letter with its accents, an emoji with its modifiers. -/

namespace Scaffold.Text.Cluster

def isJoiner (c : Char) : Bool := c.toNat == 0x200D

/-- Whether a character belongs to the one before it. -/
def attaches (c : Char) : Bool :=
  Printable.isExtending c || isJoiner c || (0x1F3FB ≤ c.toNat && c.toNat ≤ 0x1F3FF)

def isFlagLetter (c : Char) : Bool := 0x1F1E6 ≤ c.toNat && c.toNat ≤ 0x1F1FF

def isControl (c : Char) : Bool := c.toNat < 0x20 || (0x7F ≤ c.toNat && c.toNat < 0xA0)

/-- Whether no boundary stands between a cluster and the character after it. -/
def continues (cluster : List Char) (next : Char) : Bool :=
  match cluster.getLast? with
  | none => true
  | some last =>
    if last == '\r' then next == '\n'
    else if isControl last || isControl next then false
    else attaches next || (isJoiner last && cluster.length > 1 && next.toNat > 0x2000) ||
      (cluster.length == 1 && isFlagLetter last && isFlagLetter next)

/-- The clusters of a text, from `current` on. -/
def clustersFrom (current : List Char) : List Char → List (List Char)
  | [] => if current.isEmpty then [] else [current]
  | c :: rest =>
    if continues current c then clustersFrom (current ++ [c]) rest
    else current :: clustersFrom [c] rest

def clusters (text : List Char) : List (List Char) := clustersFrom [] text

end Scaffold.Text.Cluster
