import Scaffold.Rust.Token

/-!
Trees of parsed source. A node has a kind and children; the children stand in the order in which
declarations inside them are listed, which is the order of the source but for conditions on type
parameters: those come right after the parameters.
-/

namespace Scaffold.Rust

/-- What a node of a tree stands for. -/
inductive Kind where
  -- structure
  | file | list | absent | attributeLine | block
  -- paths, parameters and bounds
  | path | segment | qualifiedPath | angleArguments | parenthesizedArguments
  | constArgument | typeBinding | constBinding | constraint
  | generics | lifetimeParameter | typeParameter | constParameter
  | whereClause | lifetimeCondition | typeCondition
  | boundLifetimes | traitBound | preciseCapture
  -- types
  | tupleType | parenthesizedType | traitObjectType | implTraitType | functionType
  | functionTypeArgument | invocationType | pathType | arrayType | sliceType | pointerType
  | referenceType | neverType | inferredType
  -- patterns
  | wildcardPattern | bindingPattern | literalPattern | rangePattern | referencePattern
  | tuplePattern | parenthesizedPattern | slicePattern | restPattern | constPattern | pathPattern
  | structPattern | fieldPattern | tupleStructPattern | invocationPattern | alternativePattern
  | typedPattern
  -- expressions
  | arrayExpr | assignExpr | asyncExpr | awaitExpr | binaryExpr | blockExpr | breakExpr | callExpr
  | castExpr | closureExpr | constExpr | continueExpr | fieldExpr | forExpr | ifExpr | indexExpr
  | inferExpr | letExpr | literalExpr | loopExpr | invocationExpr | matchExpr | matchArm
  | methodCallExpr | parenthesizedExpr | pathExpr | rangeExpr | rawAddressExpr | referenceExpr
  | repeatExpr | returnExpr | structExpr | fieldValue | tryExpr | tryBlockExpr | tupleExpr
  | unaryExpr | unsafeExpr | whileExpr | yieldExpr
  -- statements
  | localStatement | itemStatement | expressionStatement | invocationStatement | emptyStatement
  -- declarations
  | structItem | enumItem | unionItem | traitItem | typeItem | functionItem | constItem | staticItem
  | moduleItem | field | variant
  -- other items
  | namedFields | tupleFields | unitFields
  | signature | receiver | parameter | variadic
  | traitAlias | foreignModule | implItem | useItem | usePath | useName | useRename | useGlob
  | useGroup | externCrate | invocationItem
  | associatedFunction | associatedConst | associatedType | foreignStatic | foreignType
  | invocation
  deriving DecidableEq, Repr, Inhabited

/-- A tree. Tokens that are kept as they are have no structure to look into. -/
inductive Tree where
  /-- the name that a declaration gives -/
  | name (text : String)
  /-- any other word, literal or operator; the empty text stands for one that is not there -/
  | word (text : String)
  /-- tokens without structure -/
  | tokens (body : List TokenTree)
  | node (kind : Kind) (children : List Tree)
  deriving Repr

namespace Tree

def absent : Tree := .node .absent []

def list (trees : List Tree) : Tree := .node .list trees

def optional : Option Tree → Tree
  | some tree => tree
  | none => absent

/-- A word that may be missing. -/
def flag (text : String) (present : Bool) : Tree := .word (if present then text else "")

def isAbsent : Tree → Bool
  | .node .absent _ => true
  | _ => false

def kind? : Tree → Option Kind
  | .node kind _ => some kind
  | _ => none

def is (kind : Kind) (tree : Tree) : Bool := tree.kind? == some kind

def children : Tree → List Tree
  | .node _ trees => trees
  | _ => []

def child (i : Nat) (tree : Tree) : Tree := tree.children.getD i absent

/-- The text of a name or a word. -/
def text : Tree → String
  | .name text => text
  | .word text => text
  | _ => ""

end Tree

end Scaffold.Rust
