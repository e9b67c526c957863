import Scaffold.Digest.Sha256
import Scaffold.Disk
import Scaffold.NameMap
import Scaffold.Sink

/-!
A sink that writes files into a directory. Only plain names are accepted, so that nothing outside the
directory is touched, and a file that already has the text is left alone.
-/

namespace Scaffold

/-- The digest of a file on a disk. -/
def Disk.hashOf (disk : Disk) (path : Path) : Except Fault String :=
  match disk.read path with
  | .ok content => .ok (Digest.Sha256.hex content)
  | .error refusal => .error (.io path refusal)

/-- Refuses a name that is not that of a single file. -/
def checkFileName (name : String) : Except Fault Unit :=
  if (Path.mk name).isPlainName then .ok () else .error (.config (.notAFileName name))

structure DirectorySink where
  directory : Path
  /-- the digest of each file that was emitted -/
  emitted : NameMap String

namespace DirectorySink

/-- A sink for a directory, which is made if it is missing. -/
def make (directory : Path) : Task Fault Disk DirectorySink := do
  let (made, disk) := (← Task.current).makeDirectories directory
  Task.replace disk
  match made with
  | .ok () => return ⟨directory, .empty⟩
  | .error refusal => throw (.io directory refusal)

def pathFor (sink : DirectorySink) (fileName : String) : Except Fault Path := do
  checkFileName fileName
  return sink.directory.child fileName

/-- Whether a file holds just this text. -/
def holds (disk : Disk) (path : Path) (text : String) : Bool :=
  match disk.readText path with
  | .ok found => found == text
  | .error _ => false

/-- Puts a file with a text into the place of what was there. The new file is prepared beside it. -/
def replaceFile (directory path : Path) (text : String) : Task Fault Disk Unit := do
  let disk ← Task.current
  match disk.locate (if directory.text.isEmpty then ⟨"."⟩ else directory.child "new") with
  | .error refusal => throw (.io directory refusal)
  | .ok _ =>
    match disk.moveInto path text.toUTF8 with
    | .ok disk => Task.replace disk
    | .error refusal => throw (.io path refusal)

def emit (fileName source : String) : Task Fault (Disk × DirectorySink) Unit := do
  let (disk, sink) ← Task.current
  let path ← Task.ofExcept (sink.pathFor fileName)
  if !holds disk path source then
    Task.onFirst (replaceFile sink.directory path source)
  Task.onSecond (Task.change fun sink =>
    { sink with emitted := sink.emitted.insert fileName (Digest.Sha256.hexOfText source) })

def sink : Sink (Disk × DirectorySink) := ⟨emit⟩

end DirectorySink

end Scaffold
