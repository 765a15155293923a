import OrmCode.Statement.Filter

/-!
# Rendering of filters

A renderer says how one comparison, a group and a negation look.  The walk
through a filter is the same for every renderer: each comparison is rendered
once from left to right, and a group of one operand is just that operand.
-/

namespace OrmCode

namespace Filter

/-- How the parts of a filter look in a target. -/
structure Renderer (failure : Type) where
  comparison : Comparison → Except failure String
  combine : Connective → List String → String
  negate : String → String

namespace Renderer

def group {failure : Type} (renderer : Renderer failure) (connective : Connective) :
    List String → String
  | [only] => only
  | operands => renderer.combine connective operands

end Renderer

/-- The rendering of a filter, or the failure of its leftmost failing comparison. -/
def render {failure : Type} (renderer : Renderer failure) : Filter → Except failure String
  | comparison leaf => renderer.comparison leaf
  | group connective operands => (renderAll renderer operands).map (renderer.group connective)
  | negation operand => (operand.render renderer).map renderer.negate
where
  /-- The renderings of several filters in order. -/
  renderAll {failure : Type} (renderer : Renderer failure) :
      List Filter → Except failure (List String)
    | [] => .ok []
    | operand :: operands => do
      let first ← operand.render renderer
      let others ← renderAll renderer operands
      return first :: others

end Filter

end OrmCode
