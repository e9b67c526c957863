import Scaffold.Disk.Refusal
import Scaffold.Path
import Scaffold.Template.Problem
import Scaffold.Validation

/-! What can go wrong in generation. -/

namespace Scaffold

/-- What is wrong with a configuration. -/
inductive ConfigFault where
  | noTemplate
  | noSourceRoot
  | missingRoot (root : Path)
  | notAFileName (name : String)
  deriving DecidableEq, Repr

namespace ConfigFault

def message : ConfigFault → String
  | noTemplate => "at least one template is required"
  | noSourceRoot => "at least one source root is required"
  | missingRoot root => "source root " ++ root.quoted ++ " does not exist"
  | notAFileName name =>
    "generated file name " ++ Text.Quoted.quote name ++ " must be a plain file name"

end ConfigFault

inductive Fault where
  | io (path : Path) (refusal : Refusal)
  | parse (path : Path)
  | template (name : String) (problem : Template.Problem)
  | glob (pattern : String)
  | manifest (path : Path)
  | config (fault : ConfigFault)
  | invalidSource (fileName : String) (errors : List Issue)
  /-- no error that can be handled, but the end of the program: a text that parses has no layout -/
  | panicked
  deriving DecidableEq, Repr

namespace Fault

def message : Fault → String
  | io path refusal => "I/O error on " ++ path.quoted ++ ": " ++ refusal.text
  | parse path => "failed to parse " ++ path.quoted
  | template name _ => "template " ++ name ++ " failed"
  | glob pattern => "invalid glob pattern " ++ Text.Quoted.quote pattern
  | manifest path => "manifest " ++ path.quoted ++ " is unreadable"
  | config fault => "invalid configuration: " ++ fault.message
  | invalidSource fileName errors =>
    "generated source " ++ fileName ++ " is not valid Rust: " ++
      "; ".intercalate (errors.map Issue.describe)
  | panicked => "not implemented"

/-- The message with what lies behind it, as far as that is known. -/
def report : Fault → String
  | template name problem => (template name problem).message ++ ": " ++ problem.message
  | fault => fault.message

/-- Whether a single source file is at fault, which can be skipped. -/
def isRecoverable : Fault → Bool
  | parse _ => true
  | io _ refusal => refusal = .notText
  | _ => false

end Fault

end Scaffold
