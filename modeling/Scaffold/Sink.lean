import Scaffold.NameMap
import Scaffold.Task

/-! Sinks take generated files. A file of a name that is taken replaces the one before. -/

namespace Scaffold

/-- A way to emit a file, given its name and its text, into a state. -/
structure Sink (σ : Type) where
  emit : (fileName source : String) → Task Fault σ Unit

/-- Texts by file name. -/
abbrev MemorySink := NameMap String

namespace MemorySink

/-- Keeps files in a table, and accepts all of them. -/
def sink : Sink MemorySink where
  emit fileName source := Task.change fun units => units.insert fileName source

end MemorySink

end Scaffold
