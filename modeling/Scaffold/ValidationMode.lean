/-! What is done with what validation finds. -/

namespace Scaffold

inductive ValidationMode where
  /-- text is emitted as it is -/
  | off
  /-- findings are reported -/
  | warn
  /-- text with errors is refused -/
  | deny
  deriving DecidableEq, Repr, Inhabited

namespace ValidationMode

def all : List ValidationMode := [off, warn, deny]

def text : ValidationMode → String
  | off => "off"
  | warn => "warn"
  | deny => "deny"

def ofText? (text : String) : Option ValidationMode := all.find? (·.text == text)

/-- The mode as it is shown to a programmer. -/
def label : ValidationMode → String
  | off => "Off"
  | warn => "Warn"
  | deny => "Deny"

end ValidationMode

end Scaffold
