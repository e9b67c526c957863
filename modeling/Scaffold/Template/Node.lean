/-! Parsed templates: expressions, and the tags and texts that make up a template. -/

namespace Scaffold.Template

inductive MathOperator where
  | add
  | subtract
  | multiply
  | divide
  | modulo
  deriving DecidableEq, Repr

inductive Comparison where
  | less
  | lessEqual
  | greater
  | greaterEqual
  | equal
  | notEqual
  deriving DecidableEq, Repr

/-- What follows the name in a reference to a variable: steps into its value. -/
inductive Step where
  /-- the text after a point, or between brackets and quotes -/
  | key (text : String)
  /-- the value of another variable -/
  | valueOf (name : String) (steps : List Step)

/-- A reference to a variable. -/
structure Reference where
  name : String
  steps : List Step

mutual

/-- An operand, perhaps negated, with the filters that its value runs through. -/
inductive Expression where
  | mk (operand : Operand) (negated : Bool) (filters : List Call)

inductive Operand where
  | text (value : String)
  | whole (value : Int)
  | fraction (value : Float)
  | flag (value : Bool)
  | variable (reference : Reference)
  | array (items : List Expression)
  | concat (parts : List Operand)
  | math (operator : MathOperator) (left right : Expression)
  | compare (comparison : Comparison) (left right : Expression)
  | both (left right : Expression)
  | either (left right : Expression)
  | membership (negated : Bool) (item container : Expression)
  | test (subject : Reference) (negated : Bool) (name : String) (arguments : List Expression)
  | call (call : Call)
  | expansion (space : String) (call : Call)

/-- A name with named arguments. -/
inductive Call where
  | mk (name : String) (arguments : List (String × Expression))

end

namespace Expression

def operand : Expression → Operand
  | mk operand _ _ => operand

def negated : Expression → Bool
  | mk _ negated _ => negated

def filters : Expression → List Call
  | mk _ _ filters => filters

/-- An operand by itself. -/
def plain (operand : Operand) : Expression := mk operand false []

def withNegation (negated : Bool) : Expression → Expression
  | mk operand _ filters => mk operand negated filters

end Expression

namespace Call

def name : Call → String
  | mk name _ => name

def arguments : Call → List (String × Expression)
  | mk _ arguments => arguments

/-- An argument by its name; of several with one name the last counts. -/
def argument? (call : Call) (key : String) : Option Expression :=
  (call.arguments.reverse.find? (·.1 == key)).map (·.2)

end Call

inductive Node where
  | text (value : String)
  | raw (value : String)
  | output (value : Expression)
  | comment
  /-- the block of the same name in the template above -/
  | inherited
  | extension (parent : String)
  | inclusion (names : List String) (ignoreMissing : Bool)
  | importMacros (file space : String)
  | assign (everywhere : Bool) (name : String) (value : Expression)
  | block (name : String) (body : List Node)
  | filtered (filter : Call) (body : List Node)
  | definition (name : String) (parameters : List (String × Option Expression)) (body : List Node)
  | loop (key : Option String) (item : String) (container : Expression) (body : List Node)
      (whenEmpty : Option (List Node))
  | branch (condition : Expression) (body otherwise : List Node)
  | stopLoop
  | nextItem

end Scaffold.Template
