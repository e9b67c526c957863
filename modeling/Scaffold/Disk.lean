import Scaffold.Disk.Refusal
import Scaffold.Path

/-!
A disk as a value: directories, and files with their bytes. A path is followed step by step from the
working directory, or from the root if it is absolute.
-/

namespace Scaffold

/-- A place on a disk: the names of the directories down to it. -/
abbrev Location := List String

inductive Entry where
  | directory
  | file (content : ByteArray)

structure Disk where
  /-- what is at each location; the root is a directory without an entry -/
  entries : List (Location × Entry)
  workingDirectory : Location

namespace Disk

/-- A disk on which there are only the working directory and the directories around it. -/
def empty (workingDirectory : Location) : Disk :=
  let depths := List.range workingDirectory.length
  ⟨depths.map fun depth => (workingDirectory.take (depth + 1), .directory), workingDirectory⟩

def entryAt? (disk : Disk) (location : Location) : Option Entry :=
  if location = [] then some .directory
  else (disk.entries.find? (·.1 == location)).map (·.2)

def set (disk : Disk) (location : Location) (entry : Entry) : Disk :=
  { disk with entries := (location, entry) :: disk.entries.filter (·.1 != location) }

/-! ### Following paths -/

/-- The longest name of a file, and the length that no path reaches, in bytes. -/
def nameLimit : Nat := 255

def pathLimit : Nat := 4096

/-- One step from a place, which has to be a directory. The place after the step may be empty. -/
def step (disk : Disk) (place : Location) (piece : List Char) : Except Refusal Location :=
  match disk.entryAt? place with
  | none => .error .notFound
  | some (.file _) => .error .notADirectory
  | some .directory =>
    let name := String.ofList piece
    if piece = [] ∨ piece = ['.'] then .ok place
    else if piece = ['.', '.'] then .ok place.dropLast
    else if name.utf8ByteSize > nameLimit then .error .nameTooLong
    else .ok (place ++ [name])

/-- The place that a path leads to, which may be empty. -/
def locate (disk : Disk) (path : Path) : Except Refusal Location :=
  let text := path.text.toList
  if text.contains '\x00' then .error .zeroInPath
  else if text = [] then .error .notFound
  else if path.text.utf8ByteSize ≥ pathLimit then .error .nameTooLong
  else
    let start := if path.isAbsolute then [] else disk.workingDirectory
    (Path.pieces text).foldlM disk.step start

/-- What a path leads to. -/
def find (disk : Disk) (path : Path) : Except Refusal (Location × Entry) := do
  let location ← disk.locate path
  match disk.entryAt? location with
  | some entry => .ok (location, entry)
  | none => .error .notFound

/-! ### Looking and reading -/

def contains (disk : Disk) (path : Path) : Bool :=
  match disk.find path with
  | .ok _ => true
  | .error _ => false

def isFile (disk : Disk) (path : Path) : Bool :=
  match disk.find path with
  | .ok (_, .file _) => true
  | _ => false

def isDirectory (disk : Disk) (path : Path) : Bool :=
  match disk.find path with
  | .ok (_, .directory) => true
  | _ => false

/-- The bytes of a file. -/
def read (disk : Disk) (path : Path) : Except Refusal ByteArray := do
  match ← disk.find path with
  | (_, .file content) => .ok content
  | (_, .directory) => .error .isADirectory

/-- The text of a file. -/
def readText (disk : Disk) (path : Path) : Except Refusal String := do
  match String.fromUTF8? (← disk.read path) with
  | some text => .ok text
  | none => .error .notText

/-- The names that lead from a place to another one below it. -/
def namesBelow? (top : Location) (location : Location) : Option (List String) :=
  if top.isPrefixOf location ∧ top ≠ location then some (location.drop top.length) else none

/-- All that lies below a directory, by the path from there. -/
def below (disk : Disk) (path : Path) : List (Path × Entry) :=
  match disk.find path with
  | .ok (top, .directory) => disk.entries.filterMap fun (location, entry) =>
      (namesBelow? top location).map fun names => (⟨"/".intercalate names⟩, entry)
  | _ => []

/-! ### Changing -/

/-- The path without slashes at its end, of which the first one stays if nothing else is there. -/
def withoutTrailingSlashes (path : Path) : Path :=
  let kept := (path.text.toList.reverse.dropWhile (· == '/')).reverse
  if kept = [] then ⟨(path.text.take 1).toString⟩ else ⟨String.ofList kept⟩

def endsWithSlash (path : Path) : Bool := path.text.toList.getLast? == some '/'

/-- Makes a directory where nothing is. -/
def makeDirectory (disk : Disk) (path : Path) : Except Refusal Disk := do
  let location ← disk.locate (withoutTrailingSlashes path)
  match disk.entryAt? location with
  | some _ => .error .exists
  | none => .ok (disk.set location .directory)

/-- A refusal to make a directory, unless there is one already. -/
def unlessDirectory (disk : Disk) (path : Path) (refusal : Refusal) : Except Refusal Unit :=
  if disk.isDirectory path then .ok () else .error refusal

/-- Makes a directory and those around it, `depth` of them at most. What was made before a refusal
stays. -/
def makeDirectoriesUpTo (disk : Disk) (path : Path) : (depth : Nat) → Except Refusal Unit × Disk
  | 0 => (.ok (), disk)
  | depth + 1 =>
    if path.text.isEmpty then (.ok (), disk)
    else
      match disk.makeDirectory path, path.parent? with
      | .ok made, _ => (.ok (), made)
      | .error .notFound, some parent =>
        match disk.makeDirectoriesUpTo parent depth with
        | (.error refusal, around) => (.error refusal, around)
        | (.ok (), around) =>
          match around.makeDirectory path with
          | .ok made => (.ok (), made)
          | .error refusal => (around.unlessDirectory path refusal, around)
      | .error refusal, _ => (disk.unlessDirectory path refusal, disk)

/-- Makes a directory and those around it that are missing. -/
def makeDirectories (disk : Disk) (path : Path) : Except Refusal Unit × Disk :=
  disk.makeDirectoriesUpTo path (path.components.length + 1)

/-- Writes a file in place. -/
def write (disk : Disk) (path : Path) (content : ByteArray) : Except Refusal Disk := do
  let location ← disk.locate path
  match disk.entryAt? location with
  | some .directory => .error .isADirectory
  | _ => .ok (disk.set location (.file content))

/-- Whether the last step of a path is a dot or two. -/
def endsWithDots (path : Path) : Bool :=
  match (Path.pieces (withoutTrailingSlashes path).text.toList).getLast? with
  | some piece => piece = ['.'] ∨ piece = ['.', '.']
  | none => false

/-- Moves a new file to a path. It takes the place of a file there, but not that of a directory. -/
def moveInto (disk : Disk) (path : Path) (content : ByteArray) : Except Refusal Disk := do
  let location ← disk.locate (withoutTrailingSlashes path)
  if endsWithDots path then .error .busy
  else if endsWithSlash path then .error .notADirectory
  else
    match disk.entryAt? location with
    | some .directory => .error .isADirectory
    | _ => .ok (disk.set location (.file content))

/-- Removes a file. -/
def removeFile (disk : Disk) (path : Path) : Except Refusal Disk := do
  match ← disk.find path with
  | (location, .file _) => .ok { disk with entries := disk.entries.filter (·.1 != location) }
  | (_, .directory) => .error .isADirectory

/-- Removes a file, or a directory with all that is in it. -/
def removeAll (disk : Disk) (path : Path) : Except Refusal Disk := do
  let (location, _) ← disk.find path
  .ok { disk with entries := disk.entries.filter fun (other, _) => !location.isPrefixOf other }

end Disk

end Scaffold
