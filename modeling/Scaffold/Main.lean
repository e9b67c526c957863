import Scaffold.Disk.Change
import Scaffold.Program

/-!
The command line. The program works on a disk as a value: what it looks at is read first, and what it
has changed is written afterwards.
-/

namespace Scaffold.CommandLine

def fileAt (location : Location) : String := "/" ++ "/".intercalate location

/-- Reads what is at a location, and all that is below it if asked for. -/
partial def read (everything : Bool) (disk : Disk) (location : Location) : IO Disk := do
  try
    let place ← IO.FS.realPath (fileAt location)
    if ← place.isDir then
      let disk := if location = [] then disk else disk.set location .directory
      if everything then
        (← place.readDir).foldlM (fun disk entry => read true disk (location ++ [entry.fileName])) disk
      else return disk
    else return disk.set location (.file (← IO.FS.readBinFile place))
  catch _ => return disk

/-- Reads each directory that a path goes through, and then what it leads to. -/
def readPath (disk : Disk) (path : Path) : IO Disk := do
  let start := if path.isAbsolute then [] else disk.workingDirectory
  let step := fun ((disk, location) : Disk × Location) (component : Path.Component) => do
    let next := match component with
      | .root => []
      | .current => location
      | .parent => location.dropLast
      | .name name => location ++ [name]
    return (← read false disk next, next)
  let (disk, location) ← path.components.foldlM step (disk, start)
  read true disk location

def apply : Change → IO Unit
  | .remove location => IO.FS.removeFile (fileAt location)
  | .makeDirectory location => IO.FS.createDirAll (fileAt location)
  | .write location content => IO.FS.writeBinFile (fileAt location) content

def describe (warning : Warning) : String :=
  "WARN " ++ warning.message ++
    String.join (warning.fields.map fun (name, value) => " " ++ name ++ "=" ++ value)

end Scaffold.CommandLine

open Scaffold

def main (words : List String) : IO UInt32 := do
  let named ← Program.variableNames.filterMapM fun name =>
    return (← IO.getEnv name).map fun value => (name, value)
  let value? (name : String) : Option String := named.lookup name
  let here := (toString (← IO.currentDir)).splitOn "/" |>.filter (!·.isEmpty)
  let mut disk := Disk.empty here
  -- the configuration tells where else to look
  for _ in [0, 1] do
    for path in Program.places value? words disk do
      disk ← CommandLine.readPath disk path
  let (result, after, warnings) := (Program.run value? words).perform disk
  (disk.changesTo after).forM CommandLine.apply
  for warning in warnings do
    IO.eprintln (CommandLine.describe warning)
  match result with
  | .ok result =>
    IO.print result.output
    if let some report := result.error then IO.eprintln ("Error: " ++ report)
    return result.code.toUInt32
