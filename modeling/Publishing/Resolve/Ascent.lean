import Publishing.RenderContext
import Publishing.Tree

/-!
# Walking up the tree

A walk goes from parent to parent until it meets a node whose type defines a
property and that has a value for it.  What was asked for does not carry over:
every node is read in the culture of the context and in its own segment.

The walk counts its steps, the last one included that finds no parent.  It also
notes the first property it meets that has no value.
-/

namespace Publishing

/-- A property without a value, and the node it belongs to. -/
structure Unset where
  owner : NodeId
  property : Property

/-- What a node has to offer under a name. -/
inductive Offer where
  | value (v : Json)
  /-- A property without a value. -/
  | unset (u : Unset)
  /-- Nothing: the type does not define the name, or the node has no such property. -/
  | nothing

/-- What a node has to offer under a name when nothing special is asked for. -/
def Node.offer (n : Node) (context : Option RenderContext) (name : String) : Offer :=
  match n.type.property? name, n.property? name with
  | some type, some property =>
    match property.value? (type.variation.variantIn context (some n.id) {}) with
    | some v => .value v
    | none => .unset ⟨n.id, property⟩
  | _, _ => .nothing

/-- The result of a walk. -/
structure Ascent where
  found : Option Json := none
  /-- The first property met without a value. -/
  unset : Option Unset := none
  /-- The number of steps up that were tried. -/
  steps : Nat

namespace Tree

/-- A walk of at most `limit` steps. -/
def ascendWithin (t : Tree) (context : Option RenderContext) (name : String) :
    (limit : Nat) → Node → Ascent
  | 0, _ => { steps := 0 }
  | limit + 1, n =>
    match t.parent? n with
    | none => { steps := 1 }
    | some p =>
      match p.offer context name with
      | .value v => { found := some v, steps := 1 }
      | .unset u =>
        let above := t.ascendWithin context name limit p
        { found := above.found, unset := some u, steps := above.steps + 1 }
      | .nothing =>
        let above := t.ascendWithin context name limit p
        { above with steps := above.steps + 1 }

/-- The walk up from a node.  Without cycles it has a step for every node above and
one that finds no parent, so no more than nodes in the tree and one. -/
def ascend (t : Tree) (context : Option RenderContext) (name : String) (n : Node) : Ascent :=
  t.ascendWithin context name (t.size + 1) n

end Tree

end Publishing
