import Scaffold.Document
import Scaffold.Yaml.Lexer

/-!
From the tokens of a YAML text to the document that they stand for. An alias stands for the node that
has its anchor; what is tagged is no null, and a tag of one's own is a name.
-/

namespace Scaffold.Yaml

/-- What is known while nodes are read: the tokens to come, the nodes with anchors, the latest first, and
what the tag handles stand for. -/
structure Parsing where
  tokens : List Token
  anchors : List (List Char × Document)
  handles : List (List Char × List Char)

abbrev Build (α : Type) := StateT Parsing Option α

namespace Build

def peek : Build (Option Token) := do return (← get).tokens.head?

def skip : Build Unit := modify fun parsing => { parsing with tokens := parsing.tokens.drop 1 }

/-- Takes a token if it comes next. -/
def takes (token : Token) : Build Bool := do
  if (← peek) == some token then
    skip
    return true
  else return false

def expect (token : Token) : Build Unit := do
  if !(← takes token) then failure

end Build

namespace Node

/-- What may stand before a node. -/
structure Properties where
  anchor : Option (List Char)
  tag : Option (List Char)

def coreTag : List Char := "tag:yaml.org,2002:".toList

/-- A plain scalar without a text. -/
def empty : Document := .plain ""

/-- A node with a tag. -/
def tagged (tag : List Char) (document : Document) : Document :=
  match tag, document with
  | '!' :: name, _ => .named (String.ofList name) document
  | _, .plain word =>
    if tag = coreTag ++ "null".toList then
      if word ≠ "" ∧ document.isNull then document else .brokenText
    else if document.isNull then .text word
    else document
  | _, _ => document

/-- A tag with its handle written out. -/
def resolve (handle rest : List Char) : Build (List Char) := do
  if handle.isEmpty then return rest
  match (← get).handles.find? (·.1 == handle) with
  | some (_, start) => return start ++ rest
  | none =>
    if handle = ['!'] then return '!' :: rest
    else if handle = ['!', '!'] then return coreTag ++ rest
    else failure

/-- Takes a tag and an anchor, in either order. -/
def properties : Build Properties := do
  match ← Build.peek with
  | some (.anchor name) =>
    Build.skip
    match ← Build.peek with
    | some (.tag handle rest) =>
      Build.skip
      return ⟨some name, some (← resolve handle rest)⟩
    | _ => return ⟨some name, none⟩
  | some (.tag handle rest) =>
    Build.skip
    let tag ← resolve handle rest
    match ← Build.peek with
    | some (.anchor name) =>
      Build.skip
      return ⟨some name, some tag⟩
    | _ => return ⟨none, some tag⟩
  | _ => return ⟨none, none⟩

/-- A node with its properties. -/
def withProperties (properties : Properties) (document : Document) : Build Document := do
  let document := match properties.tag with
    | some tag => tagged tag document
    | none => document
  match properties.anchor with
  | some name =>
    modify fun parsing => { parsing with anchors := (name, document) :: parsing.anchors }
    return document
  | none => return document

/-- The text of a key. -/
def keyText? : Document → Option String := Document.asText?

mutual

/-- A node. Blocks are read only where they may stand, and lists without an indentation of their own
only below keys. -/
def read (blocks unindented : Bool) : (fuel : Nat) → Build Document
  | 0 => failure
  | fuel + 1 => do
    match ← Build.peek with
    | some (.alias name) =>
      Build.skip
      match (← get).anchors.find? (·.1 == name) with
      | some (_, document) => return document
      | none => failure
    | _ =>
      let properties ← properties
      match ← Build.peek, blocks, unindented with
      | some .dash, _, true =>
        withProperties properties (.list (← unindentedItems fuel))
      | some (.scalar text isPlain), _, _ =>
        Build.skip
        let text := String.ofList text
        withProperties properties (if isPlain then .plain text else .text text)
      | some .flowListStart, _, _ =>
        Build.skip
        withProperties properties (.list (← flowItems fuel))
      | some .flowTableStart, _, _ =>
        Build.skip
        withProperties properties (.table (← flowEntries fuel))
      | some .blockListStart, true, _ =>
        Build.skip
        withProperties properties (.list (← items fuel))
      | some .blockTableStart, true, _ =>
        Build.skip
        withProperties properties (.table (← entries fuel))
      | _, _, _ =>
        if properties.anchor.isSome || properties.tag.isSome then withProperties properties empty
        else failure

/-- A node, or an empty one before any of some tokens. -/
def readUnless (stops : List Token) (blocks unindented : Bool) : (fuel : Nat) → Build Document
  | 0 => failure
  | fuel + 1 => do
    match ← Build.peek with
    | some token => if stops.contains token then return empty else read blocks unindented fuel
    | none => failure

/-- The items of a block, with its end. -/
def items : (fuel : Nat) → Build (List Document)
  | 0 => failure
  | fuel + 1 => do
    if ← Build.takes .dash then
      let item ← readUnless [.dash, .blockEnd] true false fuel
      return item :: (← items fuel)
    Build.expect .blockEnd
    return []

def unindentedItems : (fuel : Nat) → Build (List Document)
  | 0 => failure
  | fuel + 1 => do
    if ← Build.takes .dash then
      let item ← readUnless [.dash, .key, .value, .blockEnd] true false fuel
      return item :: (← unindentedItems fuel)
    return []

/-- The entries of a block, with its end. -/
def entries : (fuel : Nat) → Build (List (String × Document))
  | 0 => failure
  | fuel + 1 => do
    if ← Build.takes .key then
      let key ← readUnless [.key, .value, .blockEnd] true true fuel
      let value ←
        if ← Build.takes .value then readUnless [.key, .value, .blockEnd] true true fuel
        else pure empty
      match keyText? key with
      | some key => return (key, value) :: (← entries fuel)
      | none => failure
    Build.expect .blockEnd
    return []

/-- A value after a key inside brackets. -/
def flowValue (close : Token) : (fuel : Nat) → Build Document
  | 0 => failure
  | fuel + 1 => do
    if ← Build.takes .value then readUnless [.comma, close] false false fuel else return empty

/-- The items of a list in brackets, with the closing one. An item may be a table of one entry. -/
def flowItems : (fuel : Nat) → Build (List Document)
  | 0 => failure
  | fuel + 1 => do
    if ← Build.takes .flowListEnd then return []
    let item ←
      if ← Build.takes .key then
        let key ← readUnless [.value, .comma, .flowListEnd] false false fuel
        let value ← flowValue .flowListEnd fuel
        match keyText? key with
        | some key => pure (.table [(key, value)])
        | none => failure
      else read false false fuel
    if ← Build.takes .comma then return item :: (← flowItems fuel)
    Build.expect .flowListEnd
    return [item]

/-- The entries of a table in braces, with the closing one. A key may stand without a value. -/
def flowEntries : (fuel : Nat) → Build (List (String × Document))
  | 0 => failure
  | fuel + 1 => do
    if ← Build.takes .flowTableEnd then return []
    let (key, value) ←
      if ← Build.takes .key then
        let key ← readUnless [.value, .comma, .flowTableEnd] false false fuel
        let value ← flowValue .flowTableEnd fuel
        pure (key, value)
      else
        let key ← read false false fuel
        pure (key, empty)
    match keyText? key with
    | none => failure
    | some key =>
      if ← Build.takes .comma then return (key, value) :: (← flowEntries fuel)
      Build.expect .flowTableEnd
      return [(key, value)]

end

end Node

/-- Takes the directives before a document: the version once, and each handle once. -/
def directives (versioned : Bool) : (fuel : Nat) → Build Unit
  | 0 => failure
  | fuel + 1 => do
    match ← Build.peek with
    | some (.version major minor) =>
      Build.skip
      if versioned || major != 1 || (minor != 1 && minor != 2) then failure
      directives true fuel
    | some (.handle name start) =>
      Build.skip
      if (← get).handles.any (·.1 == name) then failure
      modify fun parsing => { parsing with handles := (name, start) :: parsing.handles }
      directives versioned fuel
    | _ => return ()

/-- The contents of a document, which may be empty. -/
def content (fuel : Nat) : Build Document := do
  match ← Build.peek with
  | none | some .documentStart | some .documentEnd => return Node.empty
  | some (.version _ _) | some (.handle _ _) => return Node.empty
  | some _ => Node.read true false fuel

/-- Takes the marks that end a document, after which nothing may follow. -/
def documentEnds : List Token → Bool
  | [] => true
  | .documentEnd :: rest => documentEnds rest
  | _ => false

/-- The only document of a text, or an empty one. -/
def document (fuel : Nat) : Build Document := do
  match ← Build.peek with
  | none => return Node.empty
  | some (.version _ _) | some (.handle _ _) | some .documentStart =>
    directives false fuel
    Build.expect .documentStart
    content fuel
  | some _ => Node.read true false fuel

/-- The document that a whole text stands for. -/
def parse (text : String) : Option Document := do
  let tokens ← tokens? text
  let (document, parsing) ← document (4 * tokens.length + 8) ⟨tokens, [], []⟩
  if documentEnds parsing.tokens then return document else none

end Scaffold.Yaml
