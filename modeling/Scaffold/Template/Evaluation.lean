import Scaffold.Template.Function
import Scaffold.Template.Library

/-!
Evaluation of templates. A variable is looked up in the frames from the innermost one outwards, then
in the context. What goes wrong makes the whole evaluation fail.
-/

namespace Scaffold.Template

/-- The state of a loop. -/
structure LoopState where
  item : String
  value : Value
  index : Nat
  length : Nat

/-- Variables set so far, with the loop that they are set in. -/
structure Frame where
  template : Parsed
  bindings : List (String × Value)
  loop : Option LoopState
  /-- frames further out cannot be seen -/
  closed : Bool

/-- A block being rendered: the template that it comes from, and how far up that one is. -/
structure ActiveBlock where
  name : String
  template : Parsed
  level : Nat

structure Progress where
  frames : List Frame
  blocks : List ActiveBlock

/-- What stays the same during an evaluation. -/
structure Setting where
  library : Library
  context : List (String × Value)
  /-- the template asked for -/
  template : Parsed
  /-- the topmost template above it -/
  root : Parsed

abbrev Evaluated (α : Type) := ReaderT Setting (StateT Progress Option) α

/-- How the rest of a loop goes on. -/
inductive Flow where
  | normal
  | stop
  | next
  deriving DecidableEq

namespace LoopState

def find? (loop : LoopState) (name : String) (keys : List String) : Option Value :=
  match name, keys with
  | "loop", ["index"] => some (.number (.whole (loop.index + 1)))
  | "loop", ["index0"] => some (.number (.whole loop.index))
  | "loop", ["first"] => some (.flag (loop.index == 0))
  | "loop", ["last"] => some (.flag (loop.index + 1 == loop.length))
  | name, keys => if name = loop.item then loop.value.path? keys else none

end LoopState

namespace Frame

def find? (frame : Frame) (name : String) (keys : List String) : Option Value :=
  ((frame.bindings.find? (·.1 == name)).bind fun (_, value) => value.path? keys) <|>
    (frame.loop.bind fun loop => loop.find? name keys)

def set (frame : Frame) (name : String) (value : Value) : Frame :=
  { frame with bindings := (name, value) :: frame.bindings.filter (·.1 != name) }

end Frame

namespace Evaluation

/-- The frames up to the first closed one. -/
def visible : List Frame → List Frame
  | [] => []
  | frame :: outer => frame :: if frame.closed then [] else visible outer

/-- The value of a variable at the end of a path, in the frames or else in the context. -/
def lookUp (context : List (String × Value)) (frames : List Frame) (name : String)
    (keys : List String) : Option Value :=
  ((visible frames).findSome? (·.find? name keys)) <|>
    (context.find? (·.1 == name)).bind fun (_, value) => value.path? keys

mutual

/-- The text of a step; the value of a variable counts as a key if it is a text or a number. -/
def keyOf (find : String → List String → Option Value) : Step → Option String
  | .key text => some text
  | .valueOf name steps => do
    match ← find name (← keysOf find steps) with
    | .text text => some text
    | .number number => some number.dataText
    | _ => none

def keysOf (find : String → List String → Option Value) : List Step → Option (List String)
  | [] => some []
  | step :: rest => do return (← keyOf find step) :: (← keysOf find rest)

end

def referenced? (reference : Reference) : Evaluated Value := do
  let find := lookUp (← read).context (← get).frames
  match (keysOf find reference.steps).bind (find reference.name) with
  | some value => return value
  | none => failure

/-- The value of an action, or nothing if it fails. -/
def attempt {α : Type} (action : Evaluated α) : Evaluated (Option α) :=
  (some <$> action) <|> pure none

end Evaluation

/-- The evaluators of nested constructs. -/
structure Evaluator where
  value : Expression → Evaluated Value
  truth : Expression → Evaluated Bool
  /-- a number, or nothing for what is no number -/
  number : Expression → Evaluated (Option Number)
  body : List Node → Evaluated (String × Flow)

namespace Evaluator

open Evaluation

variable (inner : Evaluator)

/-- The values of named arguments; of several with one name the last counts. -/
def arguments (call : Call) : Evaluated Arguments := do
  let keys := (call.arguments.map (·.1)).eraseDups
  keys.mapM fun key =>
    match call.argument? key with
    | some expression => do return (key, ← inner.value expression)
    | none => failure

def function (call : Call) : Evaluated Value := do
  match Function.call? call.name (← inner.arguments call) with
  | some value => return value
  | none => failure

def filter (value : Value) (call : Call) : Evaluated Value := do
  match Filter.result? call.name (← inner.arguments call) value with
  | some value => return value
  | none => failure

def test (subject : Reference) (name : String) (given : List Expression) : Evaluated Bool := do
  let values ← given.mapM inner.value
  let found ← attempt (referenced? subject)
  match Test.holds? name found values with
  | some answer => return answer
  | none => failure

def membership (item container : Expression) : Evaluated Bool := do
  let item ← inner.value item
  match ← inner.value container, item with
  | .array items, item => return items.any item.same
  | .text text, .text part => return (Text.cut? part.toList text.toList).isSome
  | _, _ => failure

/-- Texts and numbers next to each other. -/
def concat (parts : List Operand) : Evaluated String := do
  let texts ← parts.mapM fun part => do
    match part with
    | .text text => return text
    | .whole n => return toString n
    | .fraction x => return Decimal.textOfFloat x
    | operand =>
      match ← inner.value (.plain operand) with
      | .text text => return text
      | .number number => return number.dataText
      | _ => failure
  return String.join texts

/-- The active template of the innermost frame. -/
def activeTemplate : Evaluated Parsed := do
  match (← get).frames with
  | frame :: _ => return frame.template
  | [] => return (← read).template

/-- Runs something in a frame of its own. -/
def inFrame {α : Type} (frame : Frame) (action : Evaluated α) : Evaluated α := do
  modify fun progress => { progress with frames := frame :: progress.frames }
  let result ← action
  modify fun progress => { progress with frames := progress.frames.tail }
  return result

/-- The text of a macro. -/
def expansion (space : String) (call : Call) : Evaluated String := do
  let setting ← read
  let holder ← match (← get).blocks with
    | block :: _ => pure block.template
    | [] =>
      if setting.template.name != setting.root.name then pure setting.root else activeTemplate
  match setting.library.macro? holder space call.name with
  | none => failure
  | some (template, found) =>
    let bindings ← found.parameters.mapM fun (name, fallback) => do
      match call.argument? name <|> fallback with
      | some expression => return (name, ← inner.value expression)
      | none => failure
    return (← inFrame ⟨template, bindings, none, true⟩ (inner.body found.body)).1

/-- The value that stands in for a variable, if a filter gives one. -/
def fallback? (filters : List Call) : Option (Evaluated Value) :=
  match filters with
  | filter :: _ =>
    if filter.name == "default" then
      some (match filter.argument? "value" with
        | some expression => inner.value expression
        | none => failure)
    else none
  | [] => none

/-- A variable, which may be missing where a fallback is given or it is negated. -/
def variableOr (reference : Reference) (negated : Bool) (filters : List Call) :
    Evaluated (Option Value) := do
  let found ← attempt (referenced? reference)
  match found, inner.fallback? filters with
  | some value, some fallback => if value.isNull then return some (← fallback) else return value
  | some value, none => return value
  | none, some fallback => return some (← fallback)
  | none, none => if negated then return none else failure

/-- The value of an operand before its filters; nothing for a missing variable that is negated. -/
def operand (expression : Expression) : Evaluated (Option Value) := do
  match expression.operand with
  | .text text => return some (.text text)
  | .whole n => return some (.number (.whole n))
  | .fraction x => return some (.number (.fraction x))
  | .flag value => return some (.flag value)
  | .variable reference => inner.variableOr reference expression.negated expression.filters
  | .array items => return some (.array (← items.mapM inner.value))
  | .concat parts => return some (.text (← inner.concat parts))
  | .math _ _ _ =>
    match ← inner.number (.plain expression.operand) with
    | some number => return some (.number number)
    | none => return some (.text "NaN")
  | .compare _ _ _ => return some (.flag (← inner.truth expression))
  | .both _ _ => return some (.flag (← inner.truth expression))
  | .either _ _ => return some (.flag (← inner.truth expression))
  | .membership negated item container =>
    return some (.flag ((← inner.membership item container) != negated))
  | .test subject negated name given =>
    return some (.flag ((← inner.test subject name given) != negated))
  | .call call => return some (← inner.function call)
  | .expansion space call => return some (.text (← inner.expansion space call))

/-- The value of an expression. A missing variable is false where it is negated. -/
def valueOf (expression : Expression) : Evaluated Value := do
  match ← inner.operand expression with
  | none => return .flag true
  | some value =>
    let filters := expression.filters.filter fun filter =>
      filter.name != "safe" && filter.name != "default"
    let result ← filters.foldlM inner.filter value
    return if expression.negated then .flag (!result.isTruthy) else result

/-- The number that an expression stands for in a calculation. -/
def numberOf (expression : Expression) : Evaluated (Option Number) := do
  if !expression.filters.isEmpty then
    match ← inner.value expression with
    | .number number => return some number
    | _ => failure
  else
    match expression.operand with
    | .whole n => return some (.whole n)
    | .fraction x => return some (.fraction x)
    | .math operator left right =>
      match ← inner.number left, ← inner.number right with
      | some left, some right =>
        match Number.calculate operator left right with
        | some result => return result
        | none => failure
      | _, _ => return none
    | .variable reference =>
      match ← referenced? reference with
      | .number number => return some number
      | _ => failure
    | .call call =>
      match ← inner.function call with
      | .number number => return some number
      | _ => failure
    | _ => failure

/-- A comparison. Only numbers have an order; a number and another value are neither equal nor
unequal, and then there is no answer. -/
def comparison (comparison : Comparison) (left right : Expression) : Evaluated (Option Bool) := do
  if comparison = .equal ∨ comparison = .notEqual then
    match ← inner.value left, ← inner.value right with
    | .number left, .number right => return some (Number.holds comparison left right)
    | .number _, _ => return none
    | _, .number _ => return none
    | left, right => return some (left.same right == (comparison = .equal))
  else
    match ← inner.number left, ← inner.number right with
    | some left, some right => return some (Number.holds comparison left right)
    | _, _ => failure

/-- Whether an expression counts as true. A variable that cannot be found counts as false. -/
def truthOf (expression : Expression) : Evaluated Bool := do
  let negated := expression.negated
  match expression.operand with
  | .either left right =>
    if ← inner.truth left then return !negated
    return (← inner.truth right) != negated
  | .both left right =>
    if ← inner.truth left then return (← inner.truth right) != negated
    return negated
  | .compare comparison left right =>
    match ← inner.comparison comparison left right with
    | some answer => return answer != negated
    | none => return false
  | .variable _ =>
    match ← attempt (inner.value expression) with
    | some value => return value.isTruthy
    | none => return false
  | .flag value => return value != negated
  | .text text => return (!text.isEmpty) != negated
  | .concat parts => return (!(← inner.concat parts).isEmpty) != negated
  | .membership opposite item container =>
    return ((← inner.membership item container) != opposite) != negated
  | .test subject opposite name given =>
    return ((← inner.test subject name given) != opposite) != negated
  | .call call =>
    match ← inner.function call with
    | .flag value => return value != negated
    | _ => failure
  | .expansion space call => return (!(← inner.expansion space call).isEmpty) != negated
  | .array items => return (!items.isEmpty) != negated
  | operand =>
    match ← inner.number (.plain operand) with
    | some number => return (!number.isZero) != negated
    | none => return negated

/-- The items of a loop: those of an array, or the characters of a text. -/
def items (container : Expression) : Evaluated (List Value) := do
  let mayBeIterated : Bool := match container.operand with
    | .variable _ => true
    | .call _ => true
    | .array _ => true
    | _ => false
  if !mayBeIterated then failure
  match ← inner.value container with
  | .array items => return items
  | .text text =>
    return (Text.Cluster.clusters text.toList).map fun cluster => .text (String.ofList cluster)
  | _ => failure

/-- The text of a loop from an item on. What is set in the body lasts until the next item. -/
def iterations (item : String) (length : Nat) (body : List Node) (template : Parsed) :
    List (Nat × Value) → Evaluated String
  | [] => return ""
  | (index, value) :: rest => do
    let frame : Frame := ⟨template, [], some ⟨item, value, index, length⟩, false⟩
    let (text, flow) ← inFrame frame (inner.body body)
    if flow = .stop then return text
    return text ++ (← iterations item length body template rest)

def loop (key : Option String) (item : String) (container : Expression) (body : List Node)
    (whenEmpty : Option (List Node)) : Evaluated (String × Flow) := do
  let items ← inner.items container
  if key.isSome then failure
  match items, whenEmpty with
  | [], some body => inner.body body
  | [], none => return ("", .normal)
  | items, _ =>
    let numbered := (List.range items.length).zip items
    return (← inner.iterations item items.length body (← activeTemplate) numbered, .normal)

/-- A block, as the nearest template defines it that has a block of this name. -/
def block (name : String) (body : List Node) : Evaluated (String × Flow) := do
  let library := (← read).library
  let template ← activeTemplate
  let chain := template :: (library.ancestors template).toOption.getD []
  let found := ((List.range chain.length).zip chain).findSome? fun (level, template) =>
    (template.block? name).map fun body => (ActiveBlock.mk name template level, body)
  match found with
  | some (active, body) =>
    modify fun progress => { progress with blocks := active :: progress.blocks }
    inner.body body
  | none => inner.body body

/-- The block of the same name in the next template above that has one. -/
def inheritedBlock : Evaluated (String × Flow) := do
  let setting ← read
  let ancestors := (setting.library.ancestors setting.template).toOption.getD []
  match (← get).blocks with
  | [] => failure
  | active :: _ =>
    let above := ((List.range' 1 ancestors.length).zip ancestors).drop active.level
    let found := above.findSome? fun (level, template) =>
      (template.block? active.name).map fun body =>
        (ActiveBlock.mk active.name template level, body)
    match found with
    | none => failure
    | some (next, body) =>
      modify fun progress => { progress with blocks := next :: progress.blocks }
      let (text, _) ← inner.body body
      let finished := if next.level ≥ ancestors.length then 2 else 1
      modify fun progress => { progress with blocks := progress.blocks.drop finished }
      return (text, .normal)

def inclusion (names : List String) (ignoreMissing : Bool) : Evaluated (String × Flow) := do
  let library := (← read).library
  match names.findSome? library.find? with
  | some template => inFrame ⟨template, [], none, false⟩ (inner.body template.body)
  | none => if ignoreMissing then return ("", .normal) else failure

/-- Sets a variable in the innermost frame, or in the outermost one. -/
def assign (everywhere : Bool) (name : String) (value : Value) : Evaluated Unit :=
  modify fun progress =>
    { progress with frames :=
        if everywhere then
          match progress.frames.reverse with
          | outermost :: inside => (outermost.set name value :: inside).reverse
          | [] => []
        else
          match progress.frames with
          | frame :: outer => frame.set name value :: outer
          | [] => [] }

/-- The text of a node, and how the loop around it goes on. -/
def node (node : Node) : Evaluated (String × Flow) := do
  match node with
  | .text value => return (value, .normal)
  | .raw value => return (value, .normal)
  | .output expression => return ((← inner.value expression).render, .normal)
  | .comment => return ("", .normal)
  | .inherited => inner.inheritedBlock
  | .extension _ => failure
  | .inclusion names ignoreMissing => inner.inclusion names ignoreMissing
  | .importMacros _ _ => return ("", .normal)
  | .assign everywhere name expression =>
    assign everywhere name (← inner.value expression)
    return ("", .normal)
  | .block name body => inner.block name body
  | .filtered filter body =>
    let (text, flow) ← inner.body body
    if filter.name == "safe" then return (text, flow)
    return ((← inner.filter (.text text) filter).render, flow)
  | .definition _ _ _ => failure
  | .loop key item container body whenEmpty => inner.loop key item container body whenEmpty
  | .branch condition body otherwise =>
    if ← inner.truth condition then inner.body body else inner.body otherwise
  | .stopLoop => return ("", .stop)
  | .nextItem => return ("", .next)

/-- The text of nodes up to one that ends the body of a loop. -/
def bodyOf : List Node → Evaluated (String × Flow)
  | [] => return ("", .normal)
  | first :: rest => do
    let (text, flow) ← inner.node first
    if flow ≠ .normal then return (text, flow)
    let (more, flow) ← bodyOf rest
    return (text ++ more, flow)

/-- Evaluators for constructs nested up to a depth. -/
def level : Nat → Evaluator
  | 0 => ⟨fun _ => failure, fun _ => failure, fun _ => failure, fun _ => failure⟩
  | depth + 1 =>
    { value := fun expression => (level depth).valueOf expression
      truth := fun expression => (level depth).truthOf expression
      number := fun expression => (level depth).numberOf expression
      body := fun nodes => (level depth).bodyOf nodes }

/-- A depth of nesting that is reached only where there is no end to it, as in a template that
includes itself. -/
def depthLimit : Nat := 1000000

end Evaluator

namespace Library

/-- The text of a template in a context. The topmost template above it says what is rendered. -/
def text? (library : Library) (name : String) (context : List (String × Value)) :
    Option String := do
  let template ← library.find? name
  let ancestors ← (library.ancestors template).toOption
  let root := ancestors.getLast?.getD template
  let start : Progress := ⟨[⟨template, [], none, true⟩], []⟩
  let ((text, _), _) ←
    ((Evaluator.level Evaluator.depthLimit).body root.body).run ⟨library, context, template, root⟩
      |>.run start
  return text

def render (library : Library) (name : String) (context : List (String × Value)) :
    Except Problem String :=
  match library.text? name context with
  | some text => .ok text
  | none => .error (.unrenderable name)

end Library

end Scaffold.Template
