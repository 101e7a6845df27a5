import Publishing.Path
import Publishing.Property

/-!
# Trees of published nodes

A node has a type, properties under their own names, and a place in the tree.
Going up from a node, one sees its parent only if the parent is published, or
if the tree is shown as a preview.

* `Tree.grownBy` is the tree that requests to place drafts leave behind.
* `Tree.parent?` is one step up.
* `Tree.ancestors` lists the nodes that repeated steps reach, nearest first.
-/

namespace Publishing

/-- A node in its place. -/
structure Node where
  id : NodeId
  parent : Option NodeId
  path : Path
  type : ContentType
  properties : Std.ExtTreeMap String Property
  published : Bool

namespace Node

/-- The property under a name. -/
def property? (n : Node) (name : String) : Option Property :=
  n.properties[name]?

/-- Whether the property under a name has a value for a variant. -/
def hasValue (n : Node) (name : String) (v : Variant) : Bool :=
  (n.property? name).any fun p => p.hasValue v

/-- The value of the property under a name, if there is one that counts. -/
def value? (n : Node) (name : String) (v : Variant) : Option Json :=
  (n.property? name).bind fun p => p.value? v

end Node

/-- A node that has no place yet. -/
structure Draft where
  id : NodeId
  type : ContentType
  /-- Properties; of several with one name the last one counts. -/
  properties : List Property := []
  published : Bool := true

/-- The node that a draft becomes in its place. -/
def Draft.place (d : Draft) (parent : Option NodeId) (path : Path) : Node where
  id := d.id
  parent := parent
  path := path
  type := d.type
  properties := Std.ExtTreeMap.ofList (d.properties.map fun p => (p.name, p))
  published := d.published

/-- Nodes by id.  A preview shows unpublished parents too. -/
@[ext] structure Tree where
  nodes : Std.ExtTreeMap NodeId Node
  keyed : ∀ id (n : Node), nodes[id]? = some n → id = n.id
  preview : Bool := false

namespace Tree

/-- No node. -/
def empty : Tree := ⟨∅, by simp, false⟩

/-- The node with a given id. -/
def find? (t : Tree) (id : NodeId) : Option Node := t.nodes[id]?

/-- The number of nodes. -/
def size (t : Tree) : Nat := t.nodes.size

/-- The tree with preview switched on or off. -/
def withPreview (t : Tree) (on : Bool) : Tree := { t with preview := on }

/-- Stores a node under its own id. -/
def put (t : Tree) (n : Node) : Tree where
  nodes := t.nodes.insert n.id n
  keyed id n' h := by
    rw [Std.ExtTreeMap.getElem?_insert] at h
    split at h
    · next heq =>
      obtain rfl := Option.some.inj h
      exact (Std.LawfulEqOrd.eq_of_compare heq).symm
    · exact t.keyed id n' h
  preview := t.preview

/-- Places a draft directly under the root. -/
def addRoot (t : Tree) (d : Draft) : Node × Tree :=
  let n := d.place none (Path.root.child d.id)
  (n, t.put n)

/-- Places a draft under a node.  Nothing happens if the node is unknown. -/
def addChild? (t : Tree) (parent : NodeId) (d : Draft) : Option (Node × Tree) :=
  (t.find? parent).map fun p =>
    let n := d.place (some parent) (p.path.child d.id)
    (n, t.put n)

/-- A request to place a draft, under the root or under a node. -/
structure Placement where
  parent : Option NodeId
  draft : Draft

/-- The tree after a request. -/
def carryOut (t : Tree) (r : Placement) : Tree :=
  match r.parent with
  | none => (t.addRoot r.draft).2
  | some parent =>
    match t.addChild? parent r.draft with
    | some (_, larger) => larger
    | none => t

/-- The tree that requests leave behind, starting from nothing. -/
def grownBy (history : List Placement) : Tree :=
  history.foldl carryOut empty

/-- Whether a node is seen from below. -/
def shows (t : Tree) (n : Node) : Bool := n.published || t.preview

/-- The parent of a node, if there is one and it is seen. -/
def parent? (t : Tree) (n : Node) : Option Node :=
  (n.parent.bind t.find?).filter t.shows

/-- The nodes reached by at most `steps` steps up. -/
def ancestorsWithin (t : Tree) : (steps : Nat) → Node → List Node
  | 0, _ => []
  | steps + 1, n =>
    match t.parent? n with
    | none => []
    | some p => p :: t.ancestorsWithin steps p

/-- The nodes seen above a node, nearest first.  Without cycles there are no more
of them than nodes in the tree. -/
def ancestors (t : Tree) (n : Node) : List Node :=
  t.ancestorsWithin t.size n

end Tree

end Publishing
