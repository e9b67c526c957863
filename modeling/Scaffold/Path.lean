import Scaffold.Text.Quoted

/-!
Paths of files. A path keeps the text that it was built from; two paths name the same place when
their components agree, and the order of paths is the order of their components.
-/

namespace Scaffold

structure Path where
  text : String
  deriving DecidableEq, Repr, Inhabited

namespace Path

/-- The steps of a path. A single dot counts only at the start of a relative path. -/
inductive Component where
  | root
  | current
  | parent
  | name (text : String)
  deriving DecidableEq, Repr

namespace Component

def rank : Component → Nat
  | root => 0
  | current => 1
  | parent => 2
  | name _ => 3

def compare : Component → Component → Ordering
  | name a, name b => Ord.compare a b
  | a, b => Ord.compare a.rank b.rank

end Component

/-- The runs of characters between slashes, empty ones included. -/
def pieces : List Char → List (List Char)
  | [] => [[]]
  | '/' :: rest => [] :: pieces rest
  | c :: rest =>
    match pieces rest with
    | piece :: more => (c :: piece) :: more
    | [] => [[c]]

def isAbsolute (path : Path) : Bool := path.text.toList.head? == some '/'

/-- The component of a piece that is not the first one; empty pieces and single dots are none. -/
def component? (piece : List Char) : Option Component :=
  if piece = [] ∨ piece = ['.'] then none
  else if piece = ['.', '.'] then some .parent
  else some (.name (String.ofList piece))

def components (path : Path) : List Component :=
  match path.text.toList with
  | '/' :: rest => .root :: (pieces rest).filterMap component?
  | text =>
    let start := if (pieces text).head? = some ['.'] then [Component.current] else []
    start ++ (pieces text).filterMap component?

/-- Two paths name the same place. -/
def Same (p q : Path) : Prop := p.components = q.components

instance (p q : Path) : Decidable (Same p q) :=
  inferInstanceAs (Decidable (p.components = q.components))

def compareComponents : List Component → List Component → Ordering
  | [], [] => .eq
  | [], _ :: _ => .lt
  | _ :: _, [] => .gt
  | a :: as, b :: bs =>
    match a.compare b with
    | .eq => compareComponents as bs
    | order => order

/-- The order of paths by their components. -/
def compare (p q : Path) : Ordering := compareComponents p.components q.components

def precedes (p q : Path) : Bool := compare p q != .gt

/-- A path below another; an absolute one replaces it. -/
def join (base : Path) (path : Path) : Path :=
  if path.isAbsolute then path
  else if base.text.isEmpty || base.text.toList.getLast? == some '/' then ⟨base.text ++ path.text⟩
  else ⟨base.text ++ "/" ++ path.text⟩

/-- A name below a directory. -/
def child (base : Path) (name : String) : Path := base.join ⟨name⟩

/-- The last component, if it is a name. -/
def fileName? (path : Path) : Option String :=
  match path.components.getLast? with
  | some (.name text) => some text
  | _ => none

/-- A file name cut at its last point; a name that only starts with a point is not cut. -/
def splitName (name : List Char) : List Char × Option (List Char) :=
  let extension := (name.reverse.takeWhile (· != '.')).reverse
  let stem := (name.reverse.dropWhile (· != '.')).drop 1 |>.reverse
  if name.contains '.' ∧ stem ≠ [] then (stem, some extension) else (name, none)

def stem? (path : Path) : Option String :=
  path.fileName?.map fun name => String.ofList (splitName name.toList).1

def extension? (path : Path) : Option String :=
  path.fileName?.bind fun name => (splitName name.toList).2.map String.ofList

/-- The text of a component as a step of a path. -/
def Component.text : Component → String
  | root => "/"
  | current => "."
  | parent => ".."
  | name text => text

/-- The components written out again, without empty steps and needless dots. -/
def ofComponents : List Component → Path
  | .root :: rest => ⟨"/" ++ "/".intercalate (rest.map Component.text)⟩
  | components => ⟨"/".intercalate (components.map Component.text)⟩

/-- The path without its last component. The root and the empty path have none to lose. -/
def parent? (path : Path) : Option Path :=
  match path.components with
  | [] => none
  | [.root] => none
  | components => some (ofComponents components.dropLast)

/-- What is left of a path below another one, if it lies there. -/
def relativeTo? (base path : Path) : Option Path :=
  let rec strip : List Component → List Component → Option (List Component)
    | [], rest => some rest
    | _ :: _, [] => none
    | a :: as, b :: bs => if a = b then strip as bs else none
  (strip base.components path.components).map ofComponents

/-- A path that is one plain file name. -/
def isPlainName (path : Path) : Bool :=
  match path.components with
  | [.name _] => true
  | _ => false

def quoted (path : Path) : String := Text.Quoted.quote path.text

end Path

instance : ToString Path := ⟨Path.text⟩

end Scaffold
