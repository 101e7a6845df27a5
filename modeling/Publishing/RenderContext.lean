import Std.Data.ExtTreeMap
import Publishing.NodeId
import Publishing.Variation

/-!
# Rendering contexts

A request is rendered in a culture and a segment, and single nodes may have a
segment of their own.  `Variation.variantIn` turns what a caller asks for into
the variant to look up: dimensions that do not vary are dropped, and those that
vary but were left open are taken from the context.
-/

namespace Publishing

/-- The culture and segment that a request is rendered in. -/
@[ext] structure RenderContext where
  culture : Option String := none
  segment : Option String := none
  /-- Segments of single nodes, in place of the request's. -/
  nodeSegments : Std.ExtTreeMap NodeId String := ∅
deriving DecidableEq

namespace RenderContext

/-- The context with a segment of its own for one node. -/
def withNodeSegment (c : RenderContext) (node : NodeId) (segment : String) : RenderContext :=
  { c with nodeSegments := c.nodeSegments.insert node segment }

/-- The segment of a node's own, if there is a node and it has one. -/
def ownSegment? (c : RenderContext) (node : Option NodeId) : Option String :=
  node.bind fun id => c.nodeSegments[id]?

/-- The segment in which a node is rendered: its own, or else the request's. -/
def segmentAt (c : RenderContext) (node : Option NodeId) : Option String :=
  (c.ownSegment? node).or c.segment

end RenderContext

/-- The variant to look up for a request, for values of a given variation that
belong to `node`. -/
def Variation.variantIn (v : Variation) (context : Option RenderContext) (node : Option NodeId)
    (requested : Variant) : Variant where
  culture :=
    if v.byCulture then requested.culture.or (context.bind RenderContext.culture) else none
  segment :=
    if v.bySegment then requested.segment.or (context.bind fun c => c.segmentAt node) else none

end Publishing
