import Scaffold.Template.ExpressionReader
import Scaffold.Template.Trim

/-!
Reading of templates. Where a tag may stand depends on the tag around it; a tag that does not fit
makes the whole template unreadable.
-/

namespace Scaffold.Template

open Text

/-- What directly surrounds a node, branches apart. -/
inductive Place where
  | outside
  | block
  | loop
  | definition
  | filtered
  deriving DecidableEq, Repr

namespace NodeReader

open Reader ExpressionReader

/-- The contents of a template at a place, one level of tags deeper. -/
abbrev Bodies := Place → Reader (List EdgedNode)

/-- One of two spellings; whether it is the one with a dash. -/
def dashed (withDash without : String) : Reader Bool := firstOf [
  do literal withDash; return true,
  do literal without; return false]

def tagStart : Reader Bool := dashed "\x7b%-" "\x7b%"

def tagEnd : Reader Bool := dashed "-%\x7d" "%\x7d"

def outputStart : Reader Bool := dashed "\x7b\x7b-" "\x7b\x7b"

def outputEnd : Reader Bool := dashed "-\x7d\x7d" "\x7d\x7d"

def commentStart : Reader Bool := dashed "\x7b#-" "\x7b#"

def commentEnd : Reader Bool := dashed "-#\x7d" "#\x7d"

/-- A tag and its edges. -/
def tag {α : Type} (contents : Reader α) : Reader (Edges × α) := do
  let left ← tagStart
  gap
  let value ← contents
  gap
  return (⟨left, ← tagEnd⟩, value)

/-- A tag that is a word. -/
def wordTag (text : String) : Reader Edges := do return (← tag (literal text)).1

/-- A tag that ends a body; the name of the body may be repeated. -/
def endTag (text : String) : Reader Edges := do
  let (edges, _) ← tag do
    literal text
    gap
    attempt name
  return edges

def plainText : Reader EdgedNode := do
  let chars ← before (firstOf [outputStart, tagStart, commentStart])
  if chars.isEmpty then failure
  else return ⟨⟨false, false⟩, .text (String.ofList chars)⟩

def output (value : Reader Expression) : Reader EdgedNode := do
  let left ← outputStart
  gap
  let expression ← value
  gap
  return ⟨⟨left, ← outputEnd⟩, .output expression⟩

def inherited : Reader EdgedNode := do
  let _ ← outputStart
  gap
  literal "super()"
  gap
  let _ ← outputEnd
  return ⟨⟨false, false⟩, .inherited⟩

def comment : Reader EdgedNode := do
  let left ← commentStart
  let _ ← before commentEnd
  return ⟨⟨left, ← commentEnd⟩, .comment⟩

/-- A node made of a single tag. -/
def single (contents : Reader Node) : Reader EdgedNode := do
  let (edges, node) ← tag contents
  return ⟨edges, node⟩

def textList : Reader (List String) := do
  token "["
  let texts ← commaSeparated text
  literal "]"
  return texts

def inclusion : Reader EdgedNode := single do
  word "include"
  let names ← firstOf [do return [← text], textList]
  gap
  let ignoreMissing ← Reader.succeeds do
    token "ignore"
    literal "missing"
  return .inclusion names ignoreMissing

def importMacros : Reader EdgedNode := single do
  word "import"
  let file ← text
  someGap
  word "as"
  return .importMacros file (← name)

def assign (value : Reader Expression) : Reader EdgedNode := single do
  let everywhere ← firstOf [do word "set_global"; return true, do word "set"; return false]
  let target ← name
  gap
  token "="
  return .assign everywhere target (← value)

/-- Text between tags that is not read as a template. -/
def raw : Reader EdgedNode := do
  let start ← wordTag "raw"
  let chars ← before (wordTag "endraw")
  let stop ← wordTag "endraw"
  let value := Trim.trimmedText start.right stop.left (String.ofList chars)
  return ⟨⟨start.left, stop.right⟩, .raw value⟩

/-- A body between two tags. -/
def enclosed {α : Type} (start : Reader (Edges × α)) (body : Reader (List EdgedNode))
    (stop : Reader Edges) (node : α → List Node → Node) : Reader EdgedNode := do
  let (first, value) ← start
  let nodes ← body
  let last ← stop
  return ⟨⟨first.left, last.right⟩, node value (Trim.body first.right nodes last.left)⟩

def block (bodies : Bodies) : Reader EdgedNode :=
  enclosed (tag do word "block"; name) (bodies .block) (endTag "endblock") .block

def filtered (bodies : Bodies) (value : Reader Expression) : Reader EdgedNode :=
  let filter := tag do
    word "filter"
    firstOf [call value, do return .mk (← name) []]
  enclosed filter (bodies .filtered) (wordTag "endfilter") .filtered

/-- A parameter of a macro, perhaps with a constant to fall back on. -/
def parameter : Reader (String × Option Expression) := do
  let key ← name
  let fallback ← attempt do
    gap
    token "="
    let constant ← firstOf [
      flag,
      do return .text (← text),
      do return .fraction (← fraction),
      do return .whole (← whole)]
    return .plain constant
  return (key, fallback)

def definition (bodies : Bodies) : Reader EdgedNode :=
  let head := tag do
    word "macro"
    let name ← name
    gap
    token "("
    let parameters ← commaSeparated parameter
    literal ")"
    return (name, parameters)
  enclosed head (bodies .definition) (endTag "endmacro")
    fun (name, parameters) => .definition name parameters

def loop (bodies : Bodies) (nested : Nested) : Reader EdgedNode := do
  let (first, key, item, container) ← tag do
    word "for"
    let one ← name
    let other ← attempt do
      token ","
      name
    someGap
    word "in"
    let value := value nested
    let container ← firstOf [filteredSum nested value, filteredArray nested value]
    return match other with
      | some item => (some one, item, container)
      | none => (none, one, container)
  let body ← bodies .loop
  let whenEmpty ← attempt do
    let _ ← wordTag "else"
    bodies .loop
  let last ← wordTag "endfor"
  let trim (nodes : List EdgedNode) : List Node := Trim.body first.right nodes last.left
  return ⟨⟨first.left, last.right⟩, .loop key item container (trim body) (whenEmpty.map trim)⟩

/-- A body of a branch with the tag before it. -/
structure Clause where
  edges : Edges
  condition : Expression
  nodes : List EdgedNode

/-- Branches from the first to the last, each trimmed by the tags around it. -/
def branches (otherwise : List Node) (after : Bool) : List Clause → List Node
  | [] => otherwise
  | ⟨edges, condition, nodes⟩ :: rest =>
    let next := (rest.head?.map (·.edges.left)).getD after
    [.branch condition (Trim.body edges.right nodes next) (branches otherwise after rest)]

def branch (body : Reader (List EdgedNode)) (value : Reader Expression) :
    Reader EdgedNode := do
  let clause (text : String) : Reader Clause := do
    let (edges, condition) ← tag do word text; value
    return ⟨edges, condition, ← body⟩
  let first ← clause "if"
  let more ← many (clause "elif")
  let otherwise ← attempt do
    let edges ← wordTag "else"
    return (edges, ← body)
  let last ← wordTag "endif"
  let (after, nodes) := match otherwise with
    | some (edges, nodes) => (edges.left, Trim.body edges.right nodes last.left)
    | none => (last.left, [])
  match branches nodes after (first :: more) with
  | [node] => return ⟨⟨first.edges.left, last.right⟩, node⟩
  | _ => failure

/-- The nodes that may stand at a place. -/
def node (bodies : Bodies) (nested : Nested) (place : Place) : Reader EdgedNode :=
  let value := value nested
  let here (places : List Place) (reader : Reader EdgedNode) : Reader EdgedNode :=
    if places.contains place then reader else failure
  firstOf [
    plainText,
    here [.block, .filtered] inherited,
    output value,
    comment,
    inclusion,
    assign value,
    raw,
    branch (bodies place) nested.expression,
    loop bodies nested,
    filtered bodies value,
    here [.outside, .block, .filtered] (block bodies),
    here [.outside] importMacros,
    here [.outside] (definition bodies),
    here [.loop] (single do literal "break"; return .stopLoop),
    here [.loop] (single do literal "continue"; return .nextItem)]

/-- Bodies with tags nested up to a depth. -/
def bodies (nested : Nested) : Nat → Bodies
  | 0 => fun _ => failure
  | depth + 1 => fun place => many (node (bodies nested depth) nested place)

/-- The tag that names the template above; it eats the blanks on both sides. -/
def extension : Reader EdgedNode := do
  gap
  let node ← single do
    word "extends"
    return .extension (← text)
  gap
  return node

end NodeReader

open Reader in
/-- The nodes of a template, if it can be read. -/
def read? (source : String) : Option (List Node) := do
  let text := source.toList
  let depth := text.countP (fun c => c == '(' || c == '[') + 1
  let tags := text.countP (· == '%') + 1
  let reader : Reader (List EdgedNode) := do
    let comments ← many NodeReader.comment
    let extension ← attempt NodeReader.extension
    let rest ← NodeReader.bodies (Nested.level depth) tags .outside
    return comments ++ extension.toList ++ rest
  return Trim.body false (← whole? reader text) false

end Scaffold.Template
