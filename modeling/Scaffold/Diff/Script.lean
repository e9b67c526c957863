/-!
Shortest scripts that turn one list into another. The lists are cut in two at the middle of a shortest
path through their edit graph, which is found by searching from both ends at once.
-/

namespace Scaffold.Diff

/-- A stretch of a script. `old` and `new` say where it begins in the lists. -/
inductive Edit where
  | keep (old new length : Nat)
  | delete (old length new : Nat)
  | insert (old new length : Nat)
  deriving DecidableEq, Repr

/-- A part of both lists. -/
structure Window where
  oldStart : Nat
  oldStop : Nat
  newStart : Nat
  newStop : Nat

namespace Window

def oldSize (w : Window) : Nat := w.oldStop - w.oldStart

def newSize (w : Window) : Nat := w.newStop - w.newStart

end Window

variable {α : Type} [BEq α]

/-- The length of the common start of two stretches, `limit` at most. -/
def commonPrefix (old new : Array α) (i j : Nat) : (limit : Nat) → Nat
  | 0 => 0
  | limit + 1 =>
    match old[i]?, new[j]? with
    | some a, some b => if a == b then 1 + commonPrefix old new (i + 1) (j + 1) limit else 0
    | _, _ => 0

/-- The length of the common end of two stretches that stop before `i` and `j`, `limit` at most. -/
def commonSuffix (old new : Array α) (i j : Nat) : (limit : Nat) → Nat
  | 0 => 0
  | limit + 1 =>
    match i, j with
    | i + 1, j + 1 =>
      match old[i]?, new[j]? with
      | some a, some b => if a == b then 1 + commonSuffix old new i j limit else 0
      | _, _ => 0
    | _, _ => 0

namespace Window

def prefixSize (w : Window) (old new : Array α) : Nat :=
  commonPrefix old new w.oldStart w.newStart (min w.oldSize w.newSize)

def suffixSize (w : Window) (old new : Array α) : Nat :=
  commonSuffix old new w.oldStop w.newStop (min w.oldSize w.newSize)

end Window

/-! ### The middle of a path -/

/-- How far the search got on each diagonal. Diagonals are numbered from the negative side. -/
structure Frontier where
  reach : Array Nat
  offset : Nat

namespace Frontier

def start (size : Nat) : Frontier := ⟨Array.replicate (2 * size + 3) 0, size + 1⟩

def get (frontier : Frontier) (k : Int) : Nat :=
  frontier.reach.getD (k + frontier.offset).toNat 0

def set (frontier : Frontier) (k : Int) (x : Nat) : Frontier :=
  { frontier with reach := frontier.reach.setIfInBounds (k + frontier.offset).toNat x }

/-- Where a path with one more edit begins on a diagonal. -/
def next (frontier : Frontier) (d k : Int) : Nat :=
  if k = -d ∨ (k ≠ d ∧ frontier.get (k - 1) < frontier.get (k + 1)) then frontier.get (k + 1)
  else frontier.get (k - 1) + 1

end Frontier

/-- The searches from the start and from the end. -/
structure Search where
  forward : Frontier
  backward : Frontier

/-- The diagonals that paths with `d` edits reach, from the highest to the lowest. -/
def diagonals (d : Nat) : List Int :=
  (List.range (d + 1)).map fun (i : Nat) => Int.ofNat d - 2 * Int.ofNat i

/-- A step of the search from the start; the middle, if both searches meet. -/
def stepForward (old new : Array α) (w : Window) (d : Nat) (search : Search) (k : Int) :
    Search × Option (Nat × Nat) :=
  let n := w.oldSize
  let m := w.newSize
  let delta := (n : Int) - m
  let x := search.forward.next d k
  let y := (x : Int) - k
  let advance :=
    if x < n ∧ 0 ≤ y ∧ y < m then
      commonPrefix old new (w.oldStart + x) (w.newStart + y.toNat) (min (n - x) (m - y.toNat))
    else 0
  let search := { search with forward := search.forward.set k (x + advance) }
  let meets := delta % 2 = 1 ∧ (k - delta).natAbs + 1 ≤ d ∧
    x + advance + search.backward.get (delta - k) ≥ n
  (search, if meets then some (w.oldStart + x, w.newStart + y.toNat) else none)

/-- A step of the search from the end; the middle, if both searches meet. -/
def stepBackward (old new : Array α) (w : Window) (d : Nat) (search : Search) (k : Int) :
    Search × Option (Nat × Nat) :=
  let n := w.oldSize
  let m := w.newSize
  let delta := (n : Int) - m
  let x := search.backward.next d k
  let y := (x : Int) - k
  let advance :=
    if x < n ∧ 0 ≤ y ∧ y < m then
      commonSuffix old new (w.oldStop - x) (w.newStop - y.toNat) (min (n - x) (m - y.toNat))
    else 0
  let search := { search with backward := search.backward.set k (x + advance) }
  let meets := delta % 2 = 0 ∧ (k - delta).natAbs ≤ d ∧
    x + advance + search.forward.get (delta - k) ≥ n
  (search, if meets then
    some (w.oldStart + n - (x + advance), w.newStart + m - (y.toNat + advance)) else none)

/-- Steps on diagonals in a row until the searches meet. -/
def steps (step : Search → Int → Search × Option (Nat × Nat)) (search : Search) :
    List Int → Search × Option (Nat × Nat)
  | [] => (search, none)
  | k :: rest =>
    match step search k with
    | (search, none) => steps step search rest
    | found => found

/-- Searches with more and more edits until the searches meet. -/
def searchFrom (old new : Array α) (w : Window) (d : Nat) (search : Search) :
    (rounds : Nat) → Option (Nat × Nat)
  | 0 => none
  | rounds + 1 =>
    match steps (stepForward old new w d) search (diagonals d) with
    | (_, some middle) => some middle
    | (search, none) =>
      match steps (stepBackward old new w d) search (diagonals d) with
      | (_, some middle) => some middle
      | (search, none) => searchFrom old new w (d + 1) search rounds

/-- A point in the middle of a shortest path through a window. -/
def middle? (old new : Array α) (w : Window) : Option (Nat × Nat) :=
  let rounds := (w.oldSize + w.newSize + 1) / 2 + 1
  searchFrom old new w 0 ⟨.start rounds, .start rounds⟩ rounds

/-! ### Scripts -/

def keepIfAny (old new length : Nat) : List Edit := if length = 0 then [] else [.keep old new length]

/-- The script of a window. What both parts have in common at their ends is kept. -/
def windowScript (old new : Array α) : (fuel : Nat) → Window → List Edit
  | 0, _ => []
  | fuel + 1, w =>
    let start := w.prefixSize old new
    let rest : Window := { w with oldStart := w.oldStart + start, newStart := w.newStart + start }
    let stop := rest.suffixSize old new
    let rest := { rest with oldStop := rest.oldStop - stop, newStop := rest.newStop - stop }
    let inner :=
      if rest.oldSize = 0 ∧ rest.newSize = 0 then []
      else if rest.newSize = 0 then [.delete rest.oldStart rest.oldSize rest.newStart]
      else if rest.oldSize = 0 then [.insert rest.oldStart rest.newStart rest.newSize]
      else
        match middle? old new rest with
        | some (x, y) =>
          windowScript old new fuel { rest with oldStop := x, newStop := y } ++
            windowScript old new fuel { rest with oldStart := x, newStart := y }
        | none =>
          [.delete rest.oldStart rest.oldSize rest.newStart,
            .insert rest.oldStart rest.newStart rest.newSize]
    keepIfAny w.oldStart w.newStart start ++ inner ++ keepIfAny rest.oldStop rest.newStop stop

/-- A shortest script from one list to the other. -/
def script (old new : Array α) : List Edit :=
  windowScript old new (old.size + new.size + 1) ⟨0, old.size, 0, new.size⟩

end Scaffold.Diff
