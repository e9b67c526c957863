import Scaffold.Disk

/-! What changes between two disks, as steps that lead from one to the other. -/

namespace Scaffold

inductive Change where
  | remove (location : Location)
  | makeDirectory (location : Location)
  | write (location : Location) (content : ByteArray)

namespace Change

/-- The step that puts an entry at a location. -/
def place (location : Location) : Entry → Change
  | .directory => makeDirectory location
  | .file content => write location content

end Change

namespace Entry

/-- Two entries with the same content. -/
def same : Entry → Entry → Bool
  | directory, directory => true
  | file a, file b => a.data == b.data
  | _, _ => false

end Entry

namespace Disk

/-- Whether a disk has an entry at a location. -/
def holds (disk : Disk) (location : Location) (entry : Entry) : Bool :=
  match disk.entryAt? location with
  | some other => other.same entry
  | none => false

/-- Removals with the innermost locations first, then what is new with the outermost ones first. -/
def changesTo (before after : Disk) : List Change :=
  let gone := before.entries.filter fun (location, _) => (after.entryAt? location).isNone
  let new := after.entries.filter fun (location, entry) => !before.holds location entry
  let sorted (entries : List (Location × Entry)) := entries.mergeSort fun a b => a.1.length ≤ b.1.length
  (sorted gone).reverse.map (fun (location, _) => .remove location) ++
    (sorted new).map fun (location, entry) => .place location entry

end Disk

end Scaffold
