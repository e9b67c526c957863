import Scaffold.Rust.Parser
import Scaffold.Text.Lines
import Scaffold.ValidationMode

/-! Validation of generated text: it has to parse, and no tag of a template may be left in it. -/

namespace Scaffold

inductive Severity where
  | error
  | warning
  deriving DecidableEq, Repr

namespace Severity

def label : Severity → String
  | error => "Error"
  | warning => "Warning"

end Severity

inductive Finding where
  | syntaxError
  | unrenderedTag
  | longLine (limit : Nat)
  deriving DecidableEq, Repr

namespace Finding

def severity : Finding → Severity
  | syntaxError => .error
  | unrenderedTag => .error
  | longLine _ => .warning

def message : Finding → String
  | syntaxError => "syntax error"
  | unrenderedTag => "unrendered template tag"
  | longLine limit => s!"line longer than {limit} characters"

end Finding

/-- A finding, at a line if it has one; lines count from one. -/
structure Issue where
  finding : Finding
  line : Option Nat
  deriving DecidableEq, Repr

namespace Issue

def isError (issue : Issue) : Bool := issue.finding.severity = .error

def describe (issue : Issue) : String :=
  match issue.line with
  | some line => s!"line {line}: {issue.finding.message}"
  | none => issue.finding.message

/-- The line as it is shown to a programmer. -/
def lineLabel (issue : Issue) : String :=
  match issue.line with
  | some line => s!"Some({line})"
  | none => "None"

end Issue

namespace Validation

/-- Lines longer than this are reported. -/
def defaultLimit : Nat := 120

/-- Whether a tag of a template begins somewhere in the line. -/
def hasTag (line : List Char) : Bool :=
  Text.contains ['\x7b', '\x7b'] line || Text.contains ['\x7b', '%'] line

def lineFindings (limit : Nat) (line : List Char) : List Finding :=
  (if hasTag line then [.unrenderedTag] else []) ++
    (if line.length > limit then [.longLine limit] else [])

/-- The issues of numbered lines. -/
def issuesFrom (limit : Nat) (number : Nat) : List String → List Issue
  | [] => []
  | line :: rest =>
    (lineFindings limit line.toList).map (⟨·, some number⟩) ++ issuesFrom limit (number + 1) rest

/-- The issues of a text: that it does not parse, and then those of its lines in order. -/
def issues (limit : Nat) (code : String) : List Issue :=
  (if (Rust.SourceFile.parse code).isNone then [⟨.syntaxError, none⟩] else []) ++
    issuesFrom limit 1 (Text.lines code)

end Validation

end Scaffold
