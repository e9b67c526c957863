import Scaffold.Declaration

/-!
The naming convention. A type whose name ends with the suffix triggers generation, and its feature
is the name without that one suffix.
-/

namespace Scaffold

/-- The suffix that marks triggers. -/
structure Convention where
  suffix : String
  deriving DecidableEq, Repr

namespace Convention

def defaultSuffix : String := "Aggregate"

def default : Convention := ⟨defaultSuffix⟩

/-- The name without the suffix, if it ends with it. -/
def stripSuffix? (convention : Convention) (name : String) : Option String :=
  let suffix := convention.suffix.toList
  let letters := name.toList
  if suffix.isSuffixOf letters then
    some (String.ofList (letters.take (letters.length - suffix.length)))
  else none

/-- Whether a declaration triggers generation. -/
def isTrigger (convention : Convention) (declaration : Declaration) : Bool :=
  declaration.kind.isType && (convention.stripSuffix? declaration.name).isSome

/-- The name without one suffix; a name that does not end with it stays as it is. -/
def featureName (convention : Convention) (declaration : Declaration) : String :=
  (convention.stripSuffix? declaration.name).getD declaration.name

/-- The feature of a trigger. -/
def feature? (convention : Convention) (declaration : Declaration) : Option String :=
  if convention.isTrigger declaration then some (convention.featureName declaration) else none

end Convention

end Scaffold
