import Scaffold.Template.Node
import Scaffold.Text.Blank

/-! Tags with a dash at an edge eat the blanks of the text next to that edge. -/

namespace Scaffold.Template

/-- Which sides of a tag eat the blanks next to them. -/
structure Edges where
  left : Bool
  right : Bool
  deriving DecidableEq, Repr

/-- A node with the outer edges of its tags. -/
structure EdgedNode where
  edges : Edges
  node : Node

namespace Trim

def trimmedText (left right : Bool) (value : String) : String :=
  let chars := value.toList
  let chars := if left then Text.trimStart chars else chars
  let chars := if right then Text.trimEnd chars else chars
  String.ofList chars

/-- Nodes with the blanks eaten by the tags beside them; texts of which nothing is left are dropped.
`left` says whether the tag before the nodes eats blanks, `right` whether the tag after them does. -/
def body (left : Bool) (nodes : List EdgedNode) (right : Bool) : List Node :=
  match nodes with
  | [] => []
  | ⟨_, .text value⟩ :: rest =>
    let eaten := match rest with
      | [] => right
      | next :: _ => next.edges.left
    let trimmed := trimmedText left eaten value
    if trimmed.isEmpty && (left || eaten) then body false rest right
    else .text trimmed :: body false rest right
  | ⟨_, .inherited⟩ :: rest => .inherited :: body left rest right
  | ⟨edges, node⟩ :: rest => node :: body edges.right rest right

end Trim

end Scaffold.Template
