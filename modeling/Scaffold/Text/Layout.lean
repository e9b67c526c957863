/-!
Laying out text on lines of limited width. A draft holds words, gaps and groups. A group that fits on
the line, with what follows up to the next gap outside of it, stays on it; otherwise its gaps become
line breaks, either all of them or those before what does not fit.
-/

namespace Scaffold.Text.Layout

/-- Which gaps of a group that does not fit become line breaks. -/
inductive Breaking where
  | all
  | asNeeded
  deriving DecidableEq, Repr

/-- A place where a line may end. -/
structure Gap where
  /-- blanks, and a text, where the line goes on -/
  blanks : Nat
  otherwise : String
  /-- what ends the line and what starts the next one where it does not -/
  before : String
  after : String
  /-- what is added to the indentation of the group -/
  offset : Int
  /-- the gap is dropped at the end of a group -/
  isDropped : Bool
  /-- the line goes on in any case -/
  isKept : Bool
  deriving Repr

inductive Piece where
  | word (text : String)
  | gap (gap : Gap)
  | opening (breaking : Breaking) (offset : Int)
  | closing
  deriving Repr

/-- The width of lines, and the least width that deeply indented ones have. -/
def lineWidth : Int := 89

def leastWidth : Int := 60

/-- So many blanks never fit on a line. -/
def endless : Nat := 0xFFFF

namespace Gap

def spaces (blanks : Nat) : Gap := ⟨blanks, "", "", "", 0, false, false⟩

end Gap

/-! ### Drafts -/

/-- The writing of pieces, of which the latest one is at hand. It may come to something that there is
no way to write. -/
abbrev Draft := StateT (List Piece) Option

namespace Draft

/-- There is no way to write this. -/
def stop : Draft Unit := failure

def put (piece : Piece) : Draft Unit := modify (piece :: ·)

def word (text : String) : Draft Unit := put (.word text)

def gap (gap : Gap) : Draft Unit := put (.gap gap)

/-- A blank, or a line break. -/
def space : Draft Unit := gap (.spaces 1)

/-- Nothing, or a line break. -/
def zero : Draft Unit := gap (.spaces 0)

/-- A line break in any case. -/
def line : Draft Unit := gap (.spaces endless)

/-- A line break that is dropped if nothing follows it in the group. -/
def lineUnlessLast : Draft Unit := gap { Gap.spaces endless with isDropped := true }

def spaceUnlessLast : Draft Unit := gap { Gap.spaces 1 with isDropped := true }

/-- Nothing. What lies before does not have to fit together with what follows. -/
def stay : Draft Unit := gap { Gap.spaces 0 with isKept := true }

/-- A comma between elements; after the last one it is written at the end of a line only. -/
def comma (isLast : Bool) : Draft Unit :=
  if isLast then gap { Gap.spaces 0 with before := "," }
  else do
    word ","
    space

/-- A comma between elements that have a blank after the last one. -/
def commaOrSpace (isLast : Bool) : Draft Unit :=
  if isLast then gap { Gap.spaces 1 with before := "," }
  else do
    word ","
    space

/-- Adds to the offset of the gap that was written last. -/
def shift (offset : Int) : Draft Unit := modify fun pieces =>
  match pieces with
  | .gap gap :: rest => .gap { gap with offset := gap.offset + offset } :: rest
  | pieces => pieces

/-- Ends a group. One with nothing but a gap in it is dropped. -/
def close : Draft Unit := modify fun pieces =>
  match pieces with
  | .gap _ :: .opening _ _ :: rest => rest
  | .gap gap :: rest => if gap.isDropped then .closing :: rest else .closing :: .gap gap :: rest
  | pieces => .closing :: pieces

/-- A group, which is indented by `offset` when it is broken. -/
def group (breaking : Breaking) (offset : Int) (content : Draft Unit) : Draft Unit := do
  put (.opening breaking offset)
  content
  close

/-- Writes each element, with a note whether it is the last one. -/
def each {α : Type} (write : Bool → α → Draft Unit) : List α → Draft Unit
  | [] => pure ()
  | [last] => write true last
  | element :: rest => do
    write false element
    each write rest

/-- Writes elements with something between them. -/
def between {α : Type} (joint : Draft Unit) (write : α → Draft Unit) : List α → Draft Unit :=
  each fun isLast element => do
    write element
    if !isLast then joint

end Draft

/-! ### Widths -/

def Piece.width : Piece → Nat
  | .word text => text.utf8ByteSize
  | .gap place => place.blanks
  | _ => 0

/-- Each piece with its reach: how wide all is from it to the next gap that lies in no later group. The
pieces come from the last to the first, `position` is where the last one ends, and `stops` are the
places of the next gaps, for the innermost group first. -/
def reaches (pieces : List Piece) (position : Nat) (stops : List Nat)
    (done : List (Piece × Nat)) : List (Piece × Nat) :=
  match pieces with
  | [] => done
  | piece :: rest =>
    let start := position - piece.width
    let stop := stops.headD position
    match piece with
    | .word _ => reaches rest start stops ((piece, 0) :: done)
    | .gap _ => reaches rest start (start :: stops.tail) ((piece, stop - start) :: done)
    | .closing => reaches rest start (stop :: stops) ((piece, 0) :: done)
    | .opening _ _ => reaches rest start stops.tail ((piece, stops.tail.headD position - start) :: done)

/-- The pieces of a draft, the first one first, with their reaches; they are given in the order of
writing, the last one first. -/
def measured (pieces : List Piece) : List (Piece × Nat) :=
  let width := (pieces.map Piece.width).foldl (· + ·) 0
  reaches pieces width [width] []

/-! ### Lines -/

/-- A group that is being written: its way to break, and the indentation around it if it is broken. -/
structure Frame where
  breaking : Breaking
  outer : Option Int

/-- The text so far, the last part first; the room on the line; and the blanks to write before the next
word. -/
structure Lines where
  parts : List String
  room : Int
  indent : Int
  pending : Nat
  frames : List Frame

namespace Lines

def start : Lines := ⟨[], lineWidth, 0, 0, []⟩

def blanks (count : Nat) : String := String.ofList (List.replicate count ' ')

/-- Adds a text, after the blanks before it. -/
def write (lines : Lines) (text : String) : Lines :=
  { lines with
    parts := text :: blanks lines.pending :: lines.parts
    room := lines.room - text.utf8ByteSize
    pending := 0 }

/-- Whether the line goes on at a gap. -/
def goesOn (lines : Lines) (gap : Gap) (reach : Nat) : Bool :=
  gap.isKept ||
    match lines.frames.head? with
    | some ⟨_, none⟩ => true
    | some ⟨.all, _⟩ => false
    | _ => (reach : Int) ≤ lines.room

def passGap (lines : Lines) (gap : Gap) (reach : Nat) : Lines :=
  if lines.goesOn gap reach then
    { lines with
      parts := gap.otherwise :: lines.parts
      room := lines.room - gap.blanks - gap.otherwise.utf8ByteSize
      pending := lines.pending + gap.blanks }
  else
    let ended := if gap.before.isEmpty then lines else lines.write gap.before
    let indent := lines.indent + gap.offset
    let next := { ended with
      parts := "\n" :: ended.parts
      room := max (lineWidth - indent) leastWidth
      pending := indent.toNat }
    if gap.after.isEmpty then next else next.write gap.after

def passPiece (lines : Lines) : Piece × Nat → Lines
  | (.word text, _) => lines.write text
  | (.gap gap, reach) => lines.passGap gap reach
  | (.opening breaking offset, reach) =>
    if (reach : Int) > lines.room then
      { lines with
        frames := ⟨breaking, some lines.indent⟩ :: lines.frames
        indent := lines.indent + offset }
    else { lines with frames := ⟨breaking, none⟩ :: lines.frames }
  | (.closing, _) =>
    match lines.frames with
    | frame :: rest => { lines with frames := rest, indent := frame.outer.getD lines.indent }
    | [] => lines

end Lines

/-- The text of a draft, if all of it can be written. -/
def render? (draft : Draft Unit) : Option String := do
  let ((), pieces) ← draft.run []
  return String.join ((measured pieces).foldl Lines.passPiece .start).parts.reverse

end Scaffold.Text.Layout
