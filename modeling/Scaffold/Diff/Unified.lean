import Scaffold.Diff.Tidy

/-!
Differences between texts, line by line. A hunk shows changed lines with the lines around them, three on
each side, and begins with the line numbers in both texts.
-/

namespace Scaffold.Diff

/-- The lines of a text with their endings: a line feed, a carriage return, or both. -/
def splitLines : List Char → List (List Char)
  | [] => []
  | '\r' :: '\n' :: rest => ['\r', '\n'] :: splitLines rest
  | '\r' :: rest => ['\r'] :: splitLines rest
  | '\n' :: rest => ['\n'] :: splitLines rest
  | c :: rest =>
    match splitLines rest with
    | line :: more => (c :: line) :: more
    | [] => [[c]]

/-- A block of lines that are kept, or that are replaced by others. -/
inductive Block where
  | keep (old new length : Nat)
  | change (old oldLength new newLength : Nat)
  deriving DecidableEq, Repr

namespace Block

def oldStart : Block → Nat
  | keep old _ _ => old
  | change old _ _ _ => old

def oldStop : Block → Nat
  | keep old _ length => old + length
  | change old length _ _ => old + length

def newStart : Block → Nat
  | keep _ new _ => new
  | change _ _ new _ => new

def newStop : Block → Nat
  | keep _ new length => new + length
  | change _ _ new length => new + length

def isKeep : Block → Bool
  | keep _ _ _ => true
  | change _ _ _ _ => false

/-- The blocks with one more stretch in front; stretches that meet become one block. -/
def prepend (edit : Edit) (blocks : List Block) : List Block :=
  match edit, blocks with
  | .keep old new length, .keep _ _ more :: rest => .keep old new (length + more) :: rest
  | .keep old new length, blocks => .keep old new length :: blocks
  | .delete old length _, .change _ oldMore new newLength :: rest =>
    .change old (length + oldMore) new newLength :: rest
  | .delete old length new, blocks => .change old length new 0 :: blocks
  | .insert _ new length, .change old oldLength _ newMore :: rest =>
    .change old oldLength new (length + newMore) :: rest
  | .insert old new length, blocks => .change old 0 new length :: blocks

/-- The blocks of a script. -/
def ofScript (script : List Edit) : List Block := script.foldr prepend []

end Block

/-- Lines shown around a change. -/
def radius : Nat := 3

/-- The first block cut to its last lines, if it is kept. -/
def trimFirst : List Block → List Block
  | .keep old new length :: rest =>
    let skipped := length - radius
    .keep (old + skipped) (new + skipped) (length - skipped) :: rest
  | blocks => blocks

/-- The last block cut to its first lines, if it is kept. -/
def trimLast (blocks : List Block) : List Block :=
  match blocks.reverse with
  | .keep old new length :: rest => (Block.keep old new (min length radius) :: rest).reverse
  | _ => blocks

/-- The hunks of blocks, after those that are in the open hunk, listed backwards. -/
def hunksFrom (hunk : List Block) : List Block → List (List Block)
  | [] => if hunk.all Block.isKeep then [] else [hunk.reverse]
  | .keep old new length :: rest =>
    if length > 2 * radius then
      let skipped := length - radius
      (Block.keep old new radius :: hunk).reverse ::
        hunksFrom [.keep (old + skipped) (new + skipped) radius] rest
    else hunksFrom (.keep old new length :: hunk) rest
  | block :: rest => hunksFrom (block :: hunk) rest

def hunks (blocks : List Block) : List (List Block) := hunksFrom [] (trimLast (trimFirst blocks))

/-- Line numbers from one; an empty range is named by the line before it. -/
def rangeText (start stop : Nat) : String :=
  match stop - start with
  | 0 => s!"{start},0"
  | 1 => toString (start + 1)
  | length => s!"{start + 1},{length}"

/-- A line after its mark; the ending that a last line lacks is pointed out. -/
def lineText (mark : Char) (line : List Char) : List Char :=
  let ended := line.getLast? == some '\n' || line.getLast? == some '\r'
  mark :: line ++ (if ended then [] else "\n\\ No newline at end of file\n".toList)

def stretchText (mark : Char) (lines : Array (List Char)) (start stop : Nat) : List Char :=
  (lines.toList.take stop).drop start |>.flatMap (lineText mark)

def blockText (old new : Array (List Char)) (block : Block) : List Char :=
  match block with
  | .keep start _ length => stretchText ' ' old start (start + length)
  | .change _ _ _ _ =>
    stretchText '-' old block.oldStart block.oldStop ++
      stretchText '+' new block.newStart block.newStop

def hunkText (old new : Array (List Char)) (hunk : List Block) : List Char :=
  match hunk, hunk.getLast? with
  | first :: _, some last =>
    let head := "@@ -" ++ rangeText first.oldStart last.oldStop ++ " +" ++
      rangeText first.newStart last.newStop ++ " @@\n"
    head.toList ++ hunk.flatMap (blockText old new)
  | _, _ => []

/-- What has to change in a text to get another one; nothing if they agree. -/
def unified (oldName newName old new : String) : String :=
  let oldLines := (splitLines old.toList).toArray
  let newLines := (splitLines new.toList).toArray
  let hunks := hunks (Block.ofScript (tidy oldLines newLines (script oldLines newLines)))
  if hunks.isEmpty then ""
  else
    String.ofList (("--- " ++ oldName ++ "\n+++ " ++ newName ++ "\n").toList ++
      hunks.flatMap (hunkText oldLines newLines))

end Scaffold.Diff
